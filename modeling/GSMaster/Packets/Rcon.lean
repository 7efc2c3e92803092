import GSMaster.Packets.Exchange
import GSMaster.Text.Tokens

/-!
# The rcon command

`Rcon` cuts the password off with the separators space, backslash and the
letter n, so a password that holds one of the last two is never read whole. It
then looks at what follows the password without asking whether anything does.
-/

namespace GSMaster.Packets

open GSMaster.Text GSMaster.Net GSMaster.Lists GSMaster.Registry

/-- The separators of the password: the literal has a backslash and an n for a newline. -/
def passwordSeparators : List UInt8 := ascii " \\n"

def keySeparators : List UInt8 := ascii " \\\n"

/-- What `Rcon` does: it loads a list file or answers the sender. -/
inductive RconOutcome where
  | addServersFromList (filename : CString)
  | answer (message : Datagram)
  deriving DecidableEq, Repr

def badPasswordMsg : List UInt8 := oobSeq ++ ascii "print\nBad rcon password!\n"

def unknownCommandMsg : List UInt8 := oobSeq ++ ascii "print\nUnknown rcon command!\n"

def addserverMsg : List UInt8 :=
  oobSeq ++ ascii "print\nAddserver must have \\filename\\file.txt\\!\n"

def noFilenameMsg : List UInt8 := oobSeq ++ ascii "print\nNo filename specified!\n"

/-- The command behind the password. -/
def rconCommand (sender : SockaddrIn) (queryPtr : CString) : RconOutcome :=
  if strnicmpEq queryPtr (ascii "addservers\\") 11 then
    match strtok keySeparators (some (queryPtr.drop 10)) with
    | (some key, queryPtr) =>
        if key ≠ [] ∧ key = ascii "filename" then
          match strtok keySeparators queryPtr with
          | (some key, _) =>
              if key ≠ [] then .addServersFromList key else .answer ⟨sender, noFilenameMsg⟩
          | (none, _) => .answer ⟨sender, noFilenameMsg⟩
        else .answer ⟨sender, addserverMsg⟩
    | (none, _) => .answer ⟨sender, addserverMsg⟩
  else .answer ⟨sender, unknownCommandMsg⟩

/-- The password of the request is the configured one, if there is one. -/
def rconValidated (rconPassword : CString) : Option CString → Bool
  | none => false
  | some password => rconPassword ≠ [] && password ≠ [] && password == rconPassword

/-- `Rcon`; there is no outcome where it reads through the NULL that `queryPtr` then is. -/
def rcon (rconPassword : CString) (sender : SockaddrIn) (queryString : List UInt8) :
    Option RconOutcome :=
  let password := strtok passwordSeparators (some (cstr queryString))
  if rconValidated rconPassword password.1 then password.2.map (rconCommand sender)
  else some (.answer ⟨sender, badPasswordMsg⟩)

/-- Whatever the request is, its answer goes to the sender. -/
theorem rcon_home {rconPassword : CString} {sender : SockaddrIn} {queryString : List UInt8}
    {message : Datagram}
    (answered : rcon rconPassword sender queryString = some (.answer message)) :
    message.dest = sender := by
  have command (queryPtr : CString) (said : rconCommand sender queryPtr = .answer message) :
      message.dest = sender := by
    unfold rconCommand at said
    repeat' split at said
    all_goals cases said
    all_goals rfl
  unfold rcon at answered
  simp only at answered
  split at answered
  · obtain ⟨queryPtr, -, said⟩ := Option.map_eq_some_iff.mp answered
    exact command queryPtr said
  · cases answered
    rfl

/-! ## Requests -/

/-- What stands behind `rcon` and a space in the request to load a list file. -/
def addserversText (password filename : CString) : CString :=
  password ++ ascii " addservers\\filename\\" ++ filename ++ ascii "\\"

/-- The request to load a list file. -/
def addserversRequest (password filename : CString) : List UInt8 :=
  oobSeq ++ ascii "rcon" ++ 32 :: addserversText password filename

/-- A word has neither spaces nor control characters. -/
def Word (text : CString) : Prop :=
  ∀ c ∈ text, 32 < c ∧ c ≠ 127

/-- A password of 1 to 31 characters. -/
structure Configured (rconPassword : CString) : Prop where
  named : rconPassword ≠ []
  short : rconPassword.length < 32
  word : Word rconPassword

/-- The name of a file has neither spaces nor backslashes nor newlines. -/
structure FileName (filename : CString) : Prop where
  named : filename ≠ []
  text : 0 ∉ filename
  plain : ∀ c ∈ filename, keySeparators.contains c = false

/-- The list file is loaded for the configured password and for no other. -/
def RconAuthenticates (rconPassword password filename : CString) (sender : SockaddrIn) : Prop :=
  ∃ queryString,
    parseUDPPacket sender (addserversRequest password filename) = .rcon queryString ∧
      rcon rconPassword sender queryString = some
        (if password = rconPassword then .addServersFromList filename
        else .answer ⟨sender, badPasswordMsg⟩)

/-- Whatever stands behind `rcon` in the datagram is answered or carried out. -/
def RconSurvives (rconPassword : CString) (sender : SockaddrIn) (body : List UInt8) : Prop :=
  ∃ queryString, parseUDPPacket sender (oobSeq ++ ascii "rcon" ++ body) = .rcon queryString ∧
    rcon rconPassword sender queryString ≠ none

/--
The password is read as it is: it has no n and no backslash where it is the
configured one, and its part before these is not the configured one elsewhere.
-/
def PasswordReadWhole (rconPassword password : CString) : Prop :=
  if password = rconPassword then 110 ∉ password ∧ backslash ∉ password
  else (tokens passwordSeparators password ++ [ascii "addservers"]).head? ≠ some rconPassword

/-- The text behind `rcon` ends with the password, which has neither n nor backslash. -/
def EndsWithPassword (rconPassword : CString) (body : List UInt8) : Prop :=
  110 ∉ rconPassword ∧ backslash ∉ rconPassword ∧
    (cstr ((cleanNewlines body).drop 1)).dropWhile (fun c => passwordSeparators.contains c) =
      rconPassword

/-! ## The dispatch -/

theorem parseUDPPacket_rcon (sender : SockaddrIn) (body : List UInt8) :
    parseUDPPacket sender (oobSeq ++ ascii "rcon" ++ body) =
      .rcon ((cleanNewlines body).drop 1) := by
  have header : oobSeq ++ ascii "rcon" = [255, 255, 255, 255, 114, 99, 111, 110] := rfl
  have plain : ∀ c ∈ ([255, 255, 255, 255, 114, 99, 111, 110] : List UInt8),
      c ≠ 0 ∧ c ≠ newline := by
    simp [newline]
  rw [header]
  have long : 4 < ([255, 255, 255, 255, 114, 99, 111, 110] ++ body).length := by
    rw [List.length_append]
    exact Nat.lt_of_lt_of_le (by decide) (Nat.le_add_right 8 _)
  have cleaned : cleanNewlines ([255, 255, 255, 255, 114, 99, 111, 110] ++ body) =
      [255, 255, 255, 255, 114, 99, 111, 110] ++ cleanNewlines body := by
    rw [cleanNewlines, List.length_append, cleanLoop_append plain]
    rfl
  have starts := startsWith_append (fun c member => (plain c member).1) (cleanNewlines body)
  refine parseUDPPacket_outOfBand long cleaned ?_
  change parseOutOfBand sender ([255, 255, 255, 255, 114, 99, 111, 110] ++ cleanNewlines body) = _
  unfold parseOutOfBand
  simp only [starts]
  rfl

/-! ## The password -/

theorem rconValidated_iff {rconPassword : CString} (named : rconPassword ≠ [])
    (password : Option CString) :
    rconValidated rconPassword password = true ↔ password = some rconPassword := by
  cases password with
  | none => simp [rconValidated]
  | some password =>
      rw [rconValidated, Option.some_inj]
      constructor
      · intro validated
        simpa using (Bool.and_eq_true_iff.mp validated).2
      · rintro rfl
        simp [named]

/-- A command never answers as a wrong password does. -/
theorem rconCommand_ne (sender : SockaddrIn) (queryPtr : CString) :
    rconCommand sender queryPtr ≠ .answer ⟨sender, badPasswordMsg⟩ := by
  have unknown : unknownCommandMsg ≠ badPasswordMsg := by decide
  have addserver : addserverMsg ≠ badPasswordMsg := by decide
  have noFilename : noFilenameMsg ≠ badPasswordMsg := by decide
  unfold rconCommand
  repeat' split
  all_goals simp [unknown, addserver, noFilename]

/-- The password is wrong exactly where the text read for it is not the configured one. -/
theorem rcon_bad_iff {rconPassword : CString} (named : rconPassword ≠ []) (sender : SockaddrIn)
    (queryString : List UInt8) :
    rcon rconPassword sender queryString = some (.answer ⟨sender, badPasswordMsg⟩) ↔
      (tokens passwordSeparators (cstr queryString)).head? ≠ some rconPassword := by
  rw [← strtok_head, ← not_iff_not, not_not, ← rconValidated_iff named]
  unfold rcon
  simp only
  constructor
  · intro other
    by_contra wrong
    exact other (if_neg wrong)
  · intro validated same
    rw [if_pos validated, Option.map_eq_some_iff] at same
    obtain ⟨queryPtr, -, same⟩ := same
    exact rconCommand_ne sender queryPtr same

/-- Nothing is read through NULL unless the text ends with the password. -/
theorem rcon_ne_none_iff {rconPassword : CString} (named : rconPassword ≠ [])
    (sender : SockaddrIn) (queryString : List UInt8) :
    rcon rconPassword sender queryString ≠ none ↔
      strtok passwordSeparators (some (cstr queryString)) ≠ (some rconPassword, none) := by
  unfold rcon
  simp only
  cases read : strtok passwordSeparators (some (cstr queryString)) with
  | mk password queryPtr =>
      have validated := rconValidated_iff named password
      split
      · next same =>
          rw [validated.mp same]
          cases queryPtr <;> simp
      · next other =>
          refine iff_of_true (Option.some_ne_none _) fun ended => other (validated.mpr ?_)
          exact (Prod.mk.inj ended).1

/-! ## The request to load a file -/

section Addservers

variable {rconPassword password filename : CString}

theorem Word.text (word : Word password) : 0 ∉ password := fun member =>
  absurd (word 0 member).1 (by decide)

theorem Word.line (word : Word password) : newline ∉ password := fun member =>
  absurd (word newline member).1 (by decide)

theorem FileName.line (file : FileName filename) : newline ∉ filename := fun member =>
  absurd (file.plain newline member) (by decide)

theorem addserversText_plain (word : Word password) (file : FileName filename) :
    0 ∉ addserversText password filename ∧ newline ∉ addserversText password filename := by
  have command : 0 ∉ ascii " addservers\\filename\\" ∧
      newline ∉ ascii " addservers\\filename\\" := by decide
  have last : 0 ∉ ascii "\\" ∧ newline ∉ ascii "\\" := by decide
  simp only [addserversText, List.mem_append, not_or]
  exact ⟨⟨⟨⟨word.text, command.1⟩, file.text⟩, last.1⟩,
    ⟨⟨word.line, command.2⟩, file.line⟩, last.2⟩

/-- The request reaches `Rcon` with its text as it is. -/
theorem parseUDPPacket_addservers (word : Word password) (file : FileName filename)
    (sender : SockaddrIn) :
    parseUDPPacket sender (addserversRequest password filename) =
      .rcon (addserversText password filename) := by
  obtain ⟨text, line⟩ := addserversText_plain word file
  have kept : cleanNewlines (32 :: addserversText password filename) =
      32 :: addserversText password filename :=
    cleanNewlines_plain (List.not_mem_cons_of_ne_of_not_mem (by decide) text)
      (List.not_mem_cons_of_ne_of_not_mem (by decide) line)
  rw [addserversRequest, parseUDPPacket_rcon, kept]
  rfl

/-- The first token is the first one of the password, or the command where it has none. -/
theorem addserversText_head (password filename : CString) :
    (tokens passwordSeparators (addserversText password filename)).head? =
      (tokens passwordSeparators password ++ [ascii "addservers"]).head? := by
  have split : addserversText password filename = password ++ 32 ::
      (ascii "addservers" ++ backslash :: (ascii "filename\\" ++ filename ++ ascii "\\")) := by
    simp [addserversText, ascii, backslash]
  have command : tokens passwordSeparators (ascii "addservers") = [ascii "addservers"] :=
    tokens_plain (by decide) (by simp [ascii, passwordSeparators])
  rw [split, tokens_append (by decide), tokens_append (by decide), command, ← List.append_assoc]
  exact List.head?_append_of_ne_nil _
    (List.append_ne_nil_of_right_ne_nil _ (List.cons_ne_nil _ _))

/-- The command behind the password loads the file that it names. -/
theorem rconCommand_addservers (file : FileName filename) (sender : SockaddrIn) :
    rconCommand sender (ascii "addservers\\filename\\" ++ filename ++ ascii "\\") =
      .addServersFromList filename := by
  have command : strnicmpEq (ascii "addservers\\filename\\" ++ filename ++ ascii "\\")
      (ascii "addservers\\") 11 = true := rfl
  have name : ascii "filename" ≠ [] := by decide
  have key : strtok keySeparators
      (some ((ascii "addservers\\filename\\" ++ filename ++ ascii "\\").drop 10)) =
      (some (ascii "filename"), some (filename ++ [backslash])) := by
    rw [← strtok_dropWhile]
    change strtok keySeparators
      (some (ascii "filename" ++ backslash :: (filename ++ [backslash]))) = _
    exact strtok_delimited name (by simp [ascii, keySeparators]) (by decide) _
  have value : strtok keySeparators (some (filename ++ [backslash])) =
      (some filename, some []) := strtok_delimited file.named file.plain (by decide) []
  unfold rconCommand
  simp only [command, key, value]
  rw [if_pos trivial, if_pos ⟨name, trivial⟩, if_pos file.named]

theorem Word.plain_iff (word : Word password) :
    (∀ c ∈ password, passwordSeparators.contains c = false) ↔
      110 ∉ password ∧ backslash ∉ password := by
  have separator (c : UInt8) : passwordSeparators.contains c = false ↔
      c ≠ 32 ∧ c ≠ backslash ∧ c ≠ 110 := by
    simp [passwordSeparators, ascii, backslash]
  constructor
  · intro plain
    exact ⟨fun member => ((separator _).mp (plain _ member)).2.2 rfl,
      fun member => ((separator _).mp (plain _ member)).2.1 rfl⟩
  · rintro ⟨letter, slash⟩ c member
    refine (separator c).mpr ⟨?_, ?_, ?_⟩
    · rintro rfl
      exact absurd (word 32 member).1 (by decide)
    · exact fun same => slash (same ▸ member)
    · exact fun same => letter (same ▸ member)

/-- A password that is read whole has the file loaded. -/
theorem rcon_loads (configured : Configured password)
    (plain : ∀ c ∈ password, passwordSeparators.contains c = false) (file : FileName filename)
    (sender : SockaddrIn) :
    rcon password sender (addserversText password filename) =
      some (.addServersFromList filename) := by
  have text : cstr (addserversText password filename) = addserversText password filename :=
    cstr_of_forall fun _ member zero =>
      (addserversText_plain configured.word file).1 (zero ▸ member)
  have split : addserversText password filename =
      password ++ 32 :: (ascii "addservers\\filename\\" ++ filename ++ ascii "\\") := by
    simp [addserversText, ascii]
  have read := strtok_delimited configured.named plain
    (show passwordSeparators.contains 32 = true by decide)
    (ascii "addservers\\filename\\" ++ filename ++ ascii "\\")
  have validated := (rconValidated_iff configured.named (some password)).mpr rfl
  rw [← split] at read
  unfold rcon
  simp only [text, read]
  rw [if_pos validated, Option.map_some, rconCommand_addservers file]

/-- The request authenticates as it should exactly where the password is read whole. -/
theorem rconAuthenticates_iff (configured : Configured rconPassword) (word : Word password)
    (file : FileName filename) (sender : SockaddrIn) :
    RconAuthenticates rconPassword password filename sender ↔
      PasswordReadWhole rconPassword password := by
  have parsed := parseUDPPacket_addservers word file sender
  have text : cstr (addserversText password filename) = addserversText password filename :=
    cstr_of_forall fun _ member zero => (addserversText_plain word file).1 (zero ▸ member)
  have bad := rcon_bad_iff configured.named sender (addserversText password filename)
  rw [text, addserversText_head] at bad
  have only : RconAuthenticates rconPassword password filename sender ↔
      rcon rconPassword sender (addserversText password filename) = some
        (if password = rconPassword then .addServersFromList filename
        else .answer ⟨sender, badPasswordMsg⟩) := by
    constructor
    · rintro ⟨queryString, reached, done⟩
      rw [parsed] at reached
      cases reached
      exact done
    · exact fun done => ⟨_, parsed, done⟩
  rw [only, PasswordReadWhole]
  split
  · next same =>
      subst same
      rw [← word.plain_iff]
      constructor
      · intro loaded
        have read : (strtok passwordSeparators (some (addserversText password filename))).1 =
            some password := by
          rw [strtok_head, addserversText_head]
          by_contra wrong
          rw [bad.mpr wrong] at loaded
          cases loaded
        exact (strtok_inv (Prod.ext read rfl)).2.1
      · intro plain
        exact rcon_loads configured plain file sender
  · exact bad

/-- A request survives exactly where something stands behind the password. -/
theorem rconSurvives_iff (configured : Configured rconPassword) (sender : SockaddrIn)
    (body : List UInt8) :
    RconSurvives rconPassword sender body ↔ ¬ EndsWithPassword rconPassword body := by
  have ended : strtok passwordSeparators (some (cstr ((cleanNewlines body).drop 1))) =
      (some rconPassword, none) ↔ _ := strtok_ended_iff
  rw [configured.word.plain_iff] at ended
  have survives := rcon_ne_none_iff configured.named sender ((cleanNewlines body).drop 1)
  have reached := parseUDPPacket_rcon sender body
  constructor
  · rintro ⟨queryString, parsed, done⟩ ⟨letter, slash, whole⟩
    rw [reached] at parsed
    cases parsed
    exact survives.mp done (ended.mpr ⟨configured.named, ⟨letter, slash⟩, whole⟩)
  · intro more
    refine ⟨_, reached, survives.mpr fun same => more ?_⟩
    obtain ⟨-, ⟨letter, slash⟩, whole⟩ := ended.mp same
    exact ⟨letter, slash, whole⟩

end Addservers

/--
`Rcon` authenticates exactly the configured password where the passwords are
read whole, and survives exactly the requests that do not end with it.
-/
theorem rcon_requests_iff {rconPassword : CString} (configured : Configured rconPassword)
    (sender : SockaddrIn) :
    (∀ password filename, Word password → FileName filename →
      (RconAuthenticates rconPassword password filename sender ↔
        PasswordReadWhole rconPassword password)) ∧
      ∀ body, RconSurvives rconPassword sender body ↔ ¬ EndsWithPassword rconPassword body :=
  ⟨fun _ _ word file => rconAuthenticates_iff configured word file sender,
    fun body => rconSurvives_iff configured sender body⟩

theorem configured_secret : Configured (ascii "secret") :=
  ⟨by decide, by decide, by simp [Word, ascii]⟩

theorem fileName_list : FileName (ascii "list") :=
  ⟨by decide, by decide, by simp [keySeparators, ascii]⟩

/-- A password without n and backslash, and a request with a command behind it. -/
theorem rcon_requests_iff_secret :
    RconAuthenticates (ascii "secret") (ascii "secret") (ascii "list") ⟨⟨192, 0, 2, 1⟩, 0⟩ ∧
      RconSurvives (ascii "secret") ⟨⟨192, 0, 2, 1⟩, 0⟩ (ascii " secret status") := by
  obtain ⟨authenticates, survives⟩ := rcon_requests_iff configured_secret ⟨⟨192, 0, 2, 1⟩, 0⟩
  refine ⟨(authenticates _ _ configured_secret.word fileName_list).mpr ?_,
    (survives _).mpr fun ends => absurd ends.2.2 (by decide)⟩
  rw [PasswordReadWhole, if_pos rfl]
  decide

/--
A password with an n is refused where it is the configured one, and a request
that ends with the password is read on through NULL.
-/
theorem rcon_misreads :
    (¬ ∀ rconPassword password filename sender, Configured rconPassword → Word password →
      FileName filename → RconAuthenticates rconPassword password filename sender) ∧
      ¬ ∀ rconPassword sender body, Configured rconPassword →
        RconSurvives rconPassword sender body := by
  constructor
  · intro always
    have configured : Configured (ascii "admin") :=
      ⟨by decide, by decide, by simp [Word, ascii]⟩
    have whole := (rconAuthenticates_iff configured configured.word fileName_list _).mp
      (always _ _ _ ⟨⟨192, 0, 2, 1⟩, 0⟩ configured configured.word fileName_list)
    rw [PasswordReadWhole, if_pos rfl] at whole
    exact absurd whole.1 (by decide)
  · intro always
    refine (rconSurvives_iff configured_secret _ (ascii " secret")).mp
      (always _ ⟨⟨192, 0, 2, 1⟩, 0⟩ _ configured_secret) ?_
    exact ⟨by decide, by decide, by decide⟩

end GSMaster.Packets
