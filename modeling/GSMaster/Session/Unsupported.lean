import GSMaster.Session.ListRequests
import GSMaster.Text.Decimal

/-!
# The reply to an unsupported encoding

The reply is composed by `Com_sprintf`, whose arguments the compiler does not
check. The call passes the text of the message where the destination belongs,
`encodetype` for the size and `finalstring` for the format, so the bytes go
into a string literal and the local buffer stays empty.
-/

namespace GSMaster.Session

open GSMaster.Text GSMaster.Registry GSMaster.Games GSMaster.Lists

/-- The destinations of the call: `buffer`, or the literal of the message. -/
inductive Destination where
  | buffer
  | literal
  deriving DecidableEq, Repr

inductive Argument where
  | number (value : Nat)
  | text (value : CString)

/-- `vsnprintf` for `%u` and `%s`, without a bound on its result. -/
def format : CString → List Argument → CString
  | [], _ => []
  | 37 :: 117 :: rest, .number value :: args => decimal value ++ format rest args
  | 37 :: 115 :: rest, .text value :: args => value ++ format rest args
  | c :: rest, args => c :: format rest args

/-- A call of `Com_sprintf`. -/
structure ComSprintf where
  dest : Destination
  size : Nat
  fmt : CString
  args : List Argument

/-- The bytes that the call stores from the start of its destination on. -/
def ComSprintf.stores (call : ComSprintf) : List UInt8 :=
  if call.size = 0 then [] else (format call.fmt call.args).take (call.size - 1) ++ [0]

/-- A cleared `buffer` after the call. -/
def ComSprintf.bufferText (call : ComSprintf) : CString :=
  match call.dest with
  | .buffer => cstr call.stores
  | .literal => []

/-- What the session does from the call on; a store into a literal is its last step. -/
def ComSprintf.outcome (call : ComSprintf) : List SocketEvent :=
  if call.dest = .literal ∧ call.stores ≠ [] then [.fault] else [.send call.bufferText, .close]

def unsupportedText : CString :=
  ascii "\\error\\encode_type_%u_not_supported_on_this_server\\%s"

def finalstring : CString := ascii "final\\"

/-- The call as it is written: `unsupportedText` is in the place of the destination. -/
def refusalCall (encodetype : UInt16) : ComSprintf :=
  ⟨.literal, encodetype.toNat, finalstring, []⟩

/-- `n` clamped to `USHRT_MAX`. -/
def clampedEncodeType (n : Int) : Nat :=
  if 65535 < n ∨ n < 0 then 65535 else n.toNat

/-- The message that tells the client of the clamped number. -/
def refusalMessage (n : Int) : CString :=
  ascii "\\error\\encode_type_" ++ decimal (clampedEncodeType n) ++
    ascii "_not_supported_on_this_server\\final\\"

/-- The texts that a session sends. -/
def sentTexts (events : List SocketEvent) : List CString :=
  events.filterMap fun
    | .send text => some text
    | _ => none

/--
The call stores nothing outside the buffer, and the session sends the message
after the challenge and nothing else, sends no list and ends with the closing
of the socket.
-/
structure RefusesCleanly (n : Int) (challenge : CString) (call : ComSprintf)
    (events : List SocketEvent) : Prop where
  confined : call.stores ≠ [] → call.dest = .buffer
  told : sentTexts events = [challenge, refusalMessage n]
  listless : ¬ SendsList events
  closed : events.getLast? = some .close

@[simp] theorem sentTexts_append (first second : List SocketEvent) :
    sentTexts (first ++ second) = sentTexts first ++ sentTexts second :=
  List.filterMap_append

/-- A receive loop sends nothing. -/
theorem receive_sentTexts (recv : Nat → RecvOutcome) (stores : Bool)
    (retries calls sleepMs : Nat) (lastWSAError : Option SocketError) :
    sentTexts (receive recv stores retries calls sleepMs lastWSAError).events = [] := by
  induction retries generalizing calls sleepMs lastWSAError with
  | zero =>
      cases outcome : recv calls with
      | data bytes => rw [receive_data outcome]; rfl
      | socketError error => rw [receive_gives_up outcome (Or.inl rfl)]; rfl
  | succ retries ih =>
      cases outcome : recv calls with
      | data bytes => rw [receive_data outcome]; rfl
      | socketError error =>
          by_cases again : (if stores then some error else lastWSAError) = some .wouldBlock
          · rw [receive_retry outcome again]
            exact ih (calls + 1) (sleepMs + 10) (some .wouldBlock)
          · rw [receive_gives_up outcome (Or.inr again)]
            rfl

/-- No number is taken for a supported encoding by the clamp and the narrowing store. -/
theorem encodeType_eq_clamped {incomingTcpValidate : CString} {n : Int}
    (low : -(2 ^ 31) ≤ n) (high : n < 2 ^ 31)
    (asked : infoValueForKey incomingTcpValidate (ascii "enctype") = some (decimalInt n)) :
    (encodeType incomingTcpValidate).toNat = clampedEncodeType n := by
  unfold encodeType clampedEncodeType
  rw [asked]
  simp only [if_neg (decimalInt_ne_nil n), atoi_decimalInt low high]
  by_cases outside : 65535 < n ∨ n < 0
  · rw [if_pos outside, if_pos outside]
    rfl
  · rw [if_neg outside, if_neg outside]
    exact Nat.mod_eq_of_lt (by omega)

theorem encodeType_unsupported {incomingTcpValidate : CString} {n : Int}
    (low : -(2 ^ 31) ≤ n) (high : n < 2 ^ 31) (notZero : n ≠ 0) (notOne : n ≠ 1)
    (asked : infoValueForKey incomingTcpValidate (ascii "enctype") = some (decimalInt n)) :
    gamespyEnctype1 < encodeType incomingTcpValidate := by
  rw [UInt16.lt_iff_toNat_lt, encodeType_eq_clamped low high asked]
  change 1 < clampedEncodeType n
  unfold clampedEncodeType
  split <;> omega

/-- With a size above zero the call stores at least the NUL. -/
theorem ComSprintf.stores_ne_nil {call : ComSprintf} (sized : 0 < call.size) :
    call.stores ≠ [] := by
  rw [ComSprintf.stores, if_neg (Nat.ne_of_gt sized)]
  exact List.append_ne_nil_of_right_ne_nil _ (List.cons_ne_nil _ _)

/-- Every call for an unsupported encoding stores into the literal. -/
theorem refusalCall_outcome {encodetype : UInt16} (unsupported : gamespyEnctype1 < encodetype) :
    (refusalCall encodetype).outcome = [.fault] := by
  have sized : 0 < (refusalCall encodetype).size :=
    Nat.lt_of_le_of_lt (Nat.zero_le _) (UInt16.lt_iff_toNat_lt.mp unsupported)
  exact if_pos ⟨rfl, ComSprintf.stores_ne_nil sized⟩

/-- A packet that asks for an unsupported encoding brings the session to the call. -/
theorem parseTcpValidate_unsupported {options : TcpOptions} {cfg : Config} {client : Client}
    {challengeBuffer challengeKey : CString} {first : Received} {packet : List UInt8}
    (filled : cstr packet ≠ []) (unsupported : gamespyEnctype1 < encodeType (cstr packet)) :
    parseTcpValidate options cfg client challengeBuffer challengeKey first packet =
      (refusalCall (encodeType (cstr packet))).outcome := by
  rw [refusalCall_outcome unsupported]
  unfold parseTcpValidate
  rw [if_neg filled]
  exact if_pos unsupported

/-- Characters other than `%` stand for themselves. -/
theorem format_plain {plain : CString} (noConversion : (37 : UInt8) ∉ plain) (rest : CString)
    (args : List Argument) : format (plain ++ rest) args = plain ++ format rest args := by
  induction plain with
  | nil => rfl
  | cons c plain ih =>
      rw [List.mem_cons, not_or] at noConversion
      have other : c ≠ 37 := fun percent => noConversion.1 percent.symm
      rw [List.cons_append, List.cons_append, ← ih noConversion.2]
      exact format.eq_4 args c _ (fun _ _ _ _ percent _ => other percent)
        (fun _ _ _ _ percent _ => other percent)

/-- The message is what the text that is passed as the destination asks for. -/
theorem format_unsupportedText (encodetype : UInt16) :
    format unsupportedText [.number encodetype.toNat, .text finalstring] =
      refusalMessage encodetype.toNat := by
  have pieces : unsupportedText = ascii "\\error\\encode_type_" ++
      37 :: 117 :: (ascii "_not_supported_on_this_server\\" ++ [37, 115]) := rfl
  have clamped : clampedEncodeType (encodetype.toNat : Int) = encodetype.toNat := by
    have small := encodetype.toNat_lt
    exact (if_neg (by omega)).trans (Int.toNat_natCast _)
  rw [pieces, format_plain (by decide), format, format_plain (by decide), format, refusalMessage,
    clamped, List.append_assoc]
  rfl

/-- The message leaves room in the buffer. -/
theorem refusalMessage_length_le (n : Int) : (refusalMessage n).length ≤ 60 := by
  have small : clampedEncodeType n < 10 ^ 5 := by
    unfold clampedEncodeType
    split <;> omega
  have digits : (decimal (clampedEncodeType n)).length ≤ 5 := decimal_length_le (by decide) small
  have first : (ascii "\\error\\encode_type_").length = 19 := rfl
  have last : (ascii "_not_supported_on_this_server\\final\\").length = 36 := rfl
  rw [refusalMessage, List.length_append, List.length_append]
  omega

theorem cstr_refusalMessage (n : Int) : cstr (refusalMessage n ++ [0]) = refusalMessage n := by
  have text : 0 ∉ refusalMessage n := by
    intro member
    rcases List.mem_append.mp member with early | last
    · rcases List.mem_append.mp early with first | number
      · exact absurd first (by decide)
      · exact absurd (isDigit_of_mem_decimal number) (by decide)
    · exact absurd last (by decide)
  have terminator : cstr [0] = [] := rfl
  rw [cstr_append text]
  exact (congrArg _ terminator).trans (List.append_nil _)

/-- With the buffer for its destination such a call would refuse the client. -/
theorem bufferCall_outcome (encodetype : UInt16) :
    ComSprintf.outcome ⟨.buffer, 128, unsupportedText,
        [.number encodetype.toNat, .text finalstring]⟩ =
      [.send (refusalMessage encodetype.toNat), .close] := by
  have short : (refusalMessage encodetype.toNat).length ≤ 128 - 1 :=
    (refusalMessage_length_le _).trans (by decide)
  have stored : ComSprintf.stores ⟨.buffer, 128, unsupportedText,
      [.number encodetype.toNat, .text finalstring]⟩ =
        refusalMessage encodetype.toNat ++ [0] := by
    unfold ComSprintf.stores
    rw [if_neg (by simp), format_unsupportedText, List.take_of_length_le short]
  rw [ComSprintf.outcome, if_neg (fun misplaced => by cases misplaced.1), ComSprintf.bufferText]
  simp only [stored, cstr_refusalMessage]

/-- The session up to the first packet. -/
theorem gameSpyParseTCPPacket_first (options : TcpOptions) (cfg : Config) {client : Client}
    (connected : Connected client) {waits : Nat} {packet : List UInt8}
    (first : FirstPacket client waits packet) :
    gameSpyParseTCPPacket options cfg client =
      .send (challengeText (gameSpyCreateChallengeKey client.rand 6)) ::
        ((receive client.recv true totalRetry 0 50 none).events ++
          parseTcpValidate options cfg client
            (challengeText (gameSpyCreateChallengeKey client.rand 6))
            (gameSpyCreateChallengeKey client.rand 6)
            (receive client.recv true totalRetry 0 50 none) packet) := by
  obtain ⟨key, buffer, blocking, sent⟩ := connected
  obtain ⟨events, received⟩ := receive_first first
  simp only [gameSpyParseTCPPacket, receiveTcpValidate, key, buffer, blocking, sent, received,
    Bool.not_true, Bool.or_self, Bool.false_eq_true, if_false]

/-- Such a session sends the challenge and nothing after it. -/
theorem gameSpyParseTCPPacket_unsupported_sentTexts (options : TcpOptions) (cfg : Config)
    {client : Client} (connected : Connected client) {waits : Nat} {packet : List UInt8}
    (first : FirstPacket client waits packet) (filled : cstr packet ≠ [])
    (unsupported : gamespyEnctype1 < encodeType (cstr packet)) :
    sentTexts (gameSpyParseTCPPacket options cfg client) =
      [challengeText (gameSpyCreateChallengeKey client.rand 6)] := by
  rw [gameSpyParseTCPPacket_first options cfg connected first,
    parseTcpValidate_unsupported filled unsupported, refusalCall_outcome unsupported,
    ← List.singleton_append, sentTexts_append, sentTexts_append, receive_sentTexts]
  rfl

/-- Every number but 0 and 1 is seen to be unsupported, and none is refused cleanly. -/
theorem gameSpyParseTCPPacket_never_refuses (options : TcpOptions) (cfg : Config)
    {client : Client} (connected : Connected client) {waits : Nat} {packet : List UInt8}
    (first : FirstPacket client waits packet) {n : Int}
    (low : -(2 ^ 31) ≤ n) (high : n < 2 ^ 31) (notZero : n ≠ 0) (notOne : n ≠ 1)
    (asked : infoValueForKey (cstr packet) (ascii "enctype") = some (decimalInt n)) :
    gamespyEnctype1 < encodeType (cstr packet) ∧
      sentTexts (gameSpyParseTCPPacket options cfg client) =
        [challengeText (gameSpyCreateChallengeKey client.rand 6)] ∧
      ¬ RefusesCleanly n (challengeText (gameSpyCreateChallengeKey client.rand 6))
        (refusalCall (encodeType (cstr packet))) (gameSpyParseTCPPacket options cfg client) := by
  have unsupported := encodeType_unsupported low high notZero notOne asked
  have filled : cstr packet ≠ [] := by
    intro empty
    rw [empty] at asked
    cases asked
  have sent := gameSpyParseTCPPacket_unsupported_sentTexts options cfg connected first filled
    unsupported
  refine ⟨unsupported, sent, fun clean => ?_⟩
  have told := clean.told
  rw [sent] at told
  cases (List.cons.inj told).2

theorem gameSpyParseTCPPacket_never_refuses_minus_one :
    gamespyEnctype1 < encodeType (ascii "\\enctype\\-1") ∧
      sentTexts (gameSpyParseTCPPacket ⟨false, false⟩ defaultConfig
          (repeating (ascii "\\enctype\\-1"))) =
        [challengeText (gameSpyCreateChallengeKey (fun _ => 0) 6)] ∧
      ¬ RefusesCleanly (-1) (challengeText (gameSpyCreateChallengeKey (fun _ => 0) 6))
        (refusalCall (encodeType (ascii "\\enctype\\-1")))
        (gameSpyParseTCPPacket ⟨false, false⟩ defaultConfig
          (repeating (ascii "\\enctype\\-1"))) :=
  gameSpyParseTCPPacket_never_refuses ⟨false, false⟩ defaultConfig ⟨rfl, rfl, rfl, rfl⟩
    (firstPacket_repeating (ascii "\\enctype\\-1")) (by decide) (by decide) (by decide)
    (by decide) (by decide)

/-- A client that asks for encoding 2 is not told that it is unsupported. -/
theorem enctype_two_not_refused :
    infoValueForKey (ascii "\\enctype\\2") (ascii "enctype") = some (decimalInt 2) ∧
      ¬ RefusesCleanly 2 (challengeText (gameSpyCreateChallengeKey (fun _ => 0) 6))
        (refusalCall (encodeType (ascii "\\enctype\\2")))
        (gameSpyParseTCPPacket ⟨false, false⟩ defaultConfig
          (repeating (ascii "\\enctype\\2"))) := by
  refine ⟨by decide, fun clean => ?_⟩
  have told := clean.told
  rw [gameSpyParseTCPPacket_unsupported_sentTexts ⟨false, false⟩ defaultConfig
    ⟨rfl, rfl, rfl, rfl⟩ (firstPacket_repeating (ascii "\\enctype\\2")) (by decide)
    (by decide)] at told
  cases (List.cons.inj told).2

end GSMaster.Session
