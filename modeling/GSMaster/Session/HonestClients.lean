import GSMaster.Session.ClientValidation
import GSMaster.Session.ListNames
import GSMaster.Session.Waiting

/-!
# Honest clients

A client that answers its challenge and asks for a list in either style gets
one list, whatever validation is required: its request is read as it was meant,
and the session ends behind it.
-/

namespace GSMaster.Session

open GSMaster.Text GSMaster.Net GSMaster.Registry GSMaster.Games GSMaster.Lists

/-! ## The request -/

/-- A request for the list of a game, with what stands behind the name of the game. -/
structure ListQuery where
  wanted : CString
  bCompressed : Bool
  behind : CString
  encType : UInt16

namespace ListQuery

def plainHeader : CString := ascii "\\list\\gamename\\"

/-- The request in the style that is asked for. -/
def text (query : ListQuery) : CString :=
  (if query.bCompressed then compressedHeader else plainHeader) ++
    (query.wanted ++ backslash :: query.behind)

/-- The name is one token, and nothing of the other style follows a request in the text style. -/
structure Proper (query : ListQuery) : Prop where
  named : query.wanted ≠ []
  plain : ∀ c ∈ query.wanted, c ≠ backslash ∧ c ≠ newline
  style : query.bCompressed = false → contains query.text compressedHeader = false

/-- The filter that the request sets. -/
def filter (query : ListQuery) : GamespyFilter :=
  requestFilter query.behind

/--
The first packet ends with the request, or a second packet is the request. For
unreal the session itself adds it.
-/
def Asks (query : ListQuery) (client : Client) (waits : Nat) (first : CString) : Prop :=
  (∃ front, contains (front ++ ascii "\\list") (ascii "\\list\\") = false ∧
      appendUnrealList first = front ++ query.text) ∨
    contains (appendUnrealList first) (ascii "\\list\\") = false ∧
      ∃ packet, SecondPacket client waits packet ∧ cstr packet = query.text

/-- The call that a session makes of the request. -/
def call (query : ListQuery) (challengeKey : CString) : ListCall :=
  ⟨query.wanted, challengeKey, query.encType, query.bCompressed, query.filter⟩

end ListQuery

/-- The first packet asks for one of the encodings that are supported; without a field it is 0. -/
def AsksEncoding (first : CString) (encType : UInt16) : Prop :=
  encType ≤ gamespyEnctype1 ∧
    match infoValueForKey first (ascii "enctype") with
    | none => encType = 0
    | some value => atoi value = encType.toNat

/-- A client that answers the challenge it is sent under its game's key, and asks for a list. -/
structure HonestClient (client : Client) (query : ListQuery) (waits : Nat) (packet : List UInt8)
    (secure : CString) : Prop where
  connected : Connected client
  challenged : infoValueForKey (challengeText (gameSpyCreateChallengeKey client.rand 6))
    (ascii "secure") = some secure
  first : FirstPacket client waits packet
  answers : ClientAnswers secure (cstr packet) query.encType
  encoding : AsksEncoding (cstr packet) query.encType
  proper : query.Proper
  asks : query.Asks client waits (cstr packet)

variable {client : Client} {query : ListQuery} {waits : Nat} {packet : List UInt8}
  {secure : CString}

/-- In front of the request no header of a request begins. -/
theorem header_elsewhere {front header rest : CString}
    (unlisted : contains (front ++ ascii "\\list") (ascii "\\list\\") = false)
    (headed : (ascii "\\list\\").IsPrefix header) {tail : CString}
    (text : rest = ascii "\\list\\" ++ tail) :
    ∀ part, part ≠ [] → part.IsSuffix front → ¬ header.IsPrefix (part ++ rest) := by
  intro part filled inside starts
  have long : (ascii "\\list\\").length ≤ (part ++ ascii "\\list").length := by
    have := List.length_pos_of_ne_nil filled
    rw [List.length_append]
    change 6 ≤ part.length + 5
    omega
  have early : (part ++ ascii "\\list").IsPrefix (part ++ rest) := by
    rw [text, List.prefix_append_right_inj]
    exact (List.prefix_append (ascii "\\list") [backslash]).trans (List.prefix_append _ tail)
  have found := List.prefix_of_prefix_length_le (headed.trans starts) early long
  have within : (part ++ ascii "\\list").IsSuffix (front ++ ascii "\\list") := by
    obtain ⟨before, rfl⟩ := inside
    exact ⟨before, (List.append_assoc ..).symm⟩
  have listed := contains_iff.mpr (found.isInfix.trans within.isInfix)
  rw [unlisted] at listed
  cases listed

namespace ListQuery

theorem text_listed (query : ListQuery) :
    ∃ tail, query.text = ascii "\\list\\" ++ tail := by
  unfold text
  cases query.bCompressed with
  | true => exact ⟨ascii "cmp\\gamename\\" ++ (query.wanted ++ backslash :: query.behind), rfl⟩
  | false => exact ⟨ascii "gamename\\" ++ (query.wanted ++ backslash :: query.behind), rfl⟩

/-- A request behind other text is read as it was meant. -/
theorem listRequest_text (proper : query.Proper) {front : CString}
    (unlisted : contains (front ++ ascii "\\list") (ascii "\\list\\") = false) :
    listRequest (front ++ query.text) =
      .named query.wanted query.bCompressed (some query.behind) := by
  obtain ⟨tail, listed⟩ := query.text_listed
  have inside {pattern : CString} (here : pattern.IsInfix query.text) :
      contains (front ++ query.text) pattern = true :=
    contains_iff.mpr (here.trans (List.suffix_append front query.text).isInfix)
  have hasList : contains (front ++ query.text) (ascii "\\list\\") = true :=
    inside (listed ▸ (List.prefix_append _ tail).isInfix)
  have searched {header : CString} (headed : (ascii "\\list\\").IsPrefix header) :
      strstr header (front ++ query.text) = strstr header query.text :=
    strstr_behind (header_elsewhere unlisted headed listed)
  have compressed := searched (show (ascii "\\list\\").IsPrefix compressedHeader from
    ⟨ascii "cmp\\gamename\\", rfl⟩)
  have first := searched (List.prefix_refl (ascii "\\list\\"))
  have token : strtok [backslash, newline] (some (query.wanted ++ backslash :: query.behind)) =
      (some query.wanted, some query.behind) := by
    refine strtok_delimited proper.named (fun c member => ?_) (by decide) query.behind
    obtain ⟨noBackslash, noNewline⟩ := proper.plain c member
    simp [noBackslash, noNewline]
  have read : requestedGame (query.wanted ++ backslash :: query.behind) query.bCompressed =
      .named query.wanted query.bCompressed (some query.behind) := by
    rw [requestedGame, token]
    exact if_neg proper.named
  cases style : query.bCompressed with
  | true =>
      have whole :
          query.text = compressedHeader ++ (query.wanted ++ backslash :: query.behind) := by
        rw [text, style, if_pos rfl]
      have hasName : contains (front ++ query.text) (ascii "\\gamename\\") = true := by
        refine inside ?_
        rw [whole]
        exact ⟨ascii "\\list\\cmp", query.wanted ++ backslash :: query.behind, rfl⟩
      have found : strstr compressedHeader (front ++ query.text) = some query.text := by
        rw [compressed, whole, strstr_self]
      have located : requestText (front ++ query.text) =
          some (query.wanted ++ backslash :: query.behind) := by
        rw [requestText, found, whole]
        rfl
      rw [listRequest_eq hasList hasName, located, contains, found]
      rw [style] at read
      exact read
  | false =>
      have whole : query.text = plainHeader ++ (query.wanted ++ backslash :: query.behind) := by
        rw [text, style, if_neg Bool.false_ne_true]
      have hasName : contains (front ++ query.text) (ascii "\\gamename\\") = true := by
        refine inside ?_
        rw [whole]
        exact ⟨ascii "\\list", query.wanted ++ backslash :: query.behind, rfl⟩
      have absent : strstr compressedHeader (front ++ query.text) = none := by
        have none := proper.style style
        rw [contains, Option.isSome_eq_false_iff, Option.isNone_iff_eq_none] at none
        rw [compressed, none]
      have found : strstr (ascii "\\list\\") (front ++ query.text) = some query.text := by
        rw [first, listed, strstr_self]
      have name : query.text.drop 6 =
          ascii "gamename\\" ++ (query.wanted ++ backslash :: query.behind) := by
        rw [whole]
        rfl
      have located : requestText (front ++ query.text) =
          some (query.wanted ++ backslash :: query.behind) := by
        rw [requestText, absent, found, Option.bind_some, name, strstr_self]
        rfl
      rw [listRequest_eq hasList hasName, located, contains, absent]
      rw [style] at read
      exact read

end ListQuery

/-! ## The session -/

theorem encodeType_eq {first : CString} {encType : UInt16} (asked : AsksEncoding first encType) :
    encodeType first = encType := by
  obtain ⟨supported, value⟩ := asked
  have small := UInt16.le_iff_toNat_le.mp supported
  change encType.toNat ≤ 1 at small
  unfold encodeType
  cases found : infoValueForKey first (ascii "enctype") with
  | none =>
      rw [found] at value
      exact value.symm
  | some enctypeKey =>
      rw [found] at value
      simp only at value ⊢
      split
      · rename_i empty
        rw [empty] at value
        exact UInt16.toNat_inj.mp (Int.ofNat_inj.mp value)
      · have inside : ¬ (65535 < atoi enctypeKey ∨ atoi enctypeKey < 0) := by omega
        rw [if_neg inside, value, Int.toNat_natCast]
        exact UInt16.ofNat_toNat

/-- The answer to the challenge passes whatever is required, and leaves the challenge as it was. -/
theorem honest_passes (cfg : Config) (honest : HonestClient client query waits packet secure) :
    gameSpyChallengeCrossCheck cfg.validationRequired
        (challengeText (gameSpyCreateChallengeKey client.rand 6)) (cstr packet)
        (gameSpyCreateChallengeKey client.rand 6) false query.encType =
      ⟨true, gameSpyCreateChallengeKey client.rand 6⟩ := by
  have sent := honest.challenged
  rw [challengeText_secure] at sent
  have answers := honest.answers
  rw [← Option.some.inj sent] at answers
  unfold gameSpyChallengeCrossCheck
  split
  · rfl
  · simp only [Bool.false_eq_true, if_false, challengeText_secure]
    rw [(answersChallenge_client_iff (gameSpyCreateChallengeKey_length client.rand 6) _ _).mpr
      (Or.inr answers)]

/-- What a session notes of a request in front of its answer. -/
def SocketEvent.notes (wanted : CString) (event : SocketEvent) : Prop :=
  event = .motd wanted ∨ ∃ clientName, event = .log clientName wanted

/-- A request is answered with the list that it asks for, and the session closes. -/
theorem closeAfter_list (proper : query.Proper) {front : CString}
    (unlisted : contains (front ++ ascii "\\list") (ascii "\\list\\") = false)
    (options : TcpOptions) (sinAddr : InAddr) (clientName challengeKey : CString) :
    ∃ noted, (∀ event ∈ noted, event.notes query.wanted) ∧
      closeAfter (gameSpyParseListRequest options sinAddr clientName (front ++ query.text)
        challengeKey query.encType) = noted ++ [.list (query.call challengeKey), .close] := by
  refine ⟨(if options.bMotd then [.motd query.wanted] else []) ++
    (if logsRequest options sinAddr then [.log clientName query.wanted] else []), ?_, ?_⟩
  · intro event member
    rcases List.mem_append.mp member with inside | inside
    · split at inside
      · exact Or.inl (List.mem_singleton.mp inside)
      · cases inside
    · split at inside
      · exact Or.inr ⟨clientName, List.mem_singleton.mp inside⟩
      · cases inside
  · rw [gameSpyParseListRequest, query.listRequest_text proper unlisted]
    simp only [closeAfter, List.append_assoc]
    rfl

/-- What comes before the answer is waiting and notes. -/
def Preludes (wanted : CString) (events : List SocketEvent) : Prop :=
  ∀ event ∈ events, event.waits = true ∨ event.notes wanted

theorem serveRequest_list (honest : HonestClient client query waits packet secure)
    (options : TcpOptions) (events : List SocketEvent) (clientName challengeKey : CString) :
    ∃ prelude, Preludes query.wanted prelude ∧
      serveRequest options client
        ⟨events, some packet, waits + 1, if waits = 0 then none else some .wouldBlock⟩
        clientName (cstr packet) challengeKey query.encType =
        prelude ++ [.list (query.call challengeKey), .close] := by
  unfold serveRequest
  rcases honest.asks with ⟨front, unlisted, same⟩ | ⟨unlisted, second, arrives, same⟩
  · obtain ⟨noted, notes, answered⟩ := closeAfter_list honest.proper unlisted options
      client.sinAddr clientName challengeKey
    obtain ⟨tail, listed⟩ := query.text_listed
    have found : contains (front ++ query.text) (ascii "\\list\\") = true := by
      rw [contains_iff, listed]
      exact ⟨front, tail, List.append_assoc ..⟩
    rw [same]
    exact ⟨noted, fun event member => Or.inr (notes event member), (if_pos found).trans answered⟩
  · have waiting := receive_waiting client.recv false totalRetry (waits + 1) 50
      (if waits = 0 then none else some .wouldBlock)
    have received := (receive_second_iff client waits second).mpr arrives
    obtain ⟨noted, notes, answered⟩ := closeAfter_list honest.proper
      (show contains ([] ++ ascii "\\list") (ascii "\\list\\") = false by decide) options
      client.sinAddr clientName challengeKey
    rw [List.nil_append] at answered
    have asked := query.listRequest_text honest.proper
      (show contains ([] ++ ascii "\\list") (ascii "\\list\\") = false by decide)
    rw [List.nil_append] at asked
    have both := NamesGame.contains ⟨_, _, _, asked⟩
    have filled : cstr second ≠ [] := by
      intro empty
      rw [← same, empty] at both
      revert both
      decide
    have long : 4 < second.length := by
      refine Nat.lt_of_lt_of_le ?_ (cstr_length_le second)
      obtain ⟨tail, listed⟩ := query.text_listed
      rw [same, listed, List.length_append]
      change 4 < 6 + tail.length
      omega
    refine ⟨(receive client.recv false totalRetry (waits + 1) 50
      (if waits = 0 then none else some .wouldBlock)).events ++ noted, ?_, ?_⟩
    · intro event member
      rcases List.mem_append.mp member with inside | inside
      · exact Or.inl (waiting.only event inside)
      · exact Or.inr (notes event inside)
    · rw [if_neg (by rw [unlisted]; exact Bool.false_ne_true)]
      simp only [received]
      rw [parseTcpList, if_neg filled, if_pos long, same, if_pos both, answered,
        List.append_assoc]

/-- An honest client is sent the challenge and one list, and its connection is closed once. -/
theorem gameSpyParseTCPPacket_list (honest : HonestClient client query waits packet secure)
    (options : TcpOptions) (cfg : Config) :
    ∃ prelude, Preludes query.wanted prelude ∧
      gameSpyParseTCPPacket options cfg client =
        .send (challengeText (gameSpyCreateChallengeKey client.rand 6)) ::
          (prelude ++ [.list (query.call (gameSpyCreateChallengeKey client.rand 6)), .close]) := by
  obtain ⟨allocated, buffered, nonBlocking, sent⟩ := honest.connected
  obtain ⟨events, received⟩ := receive_first honest.first
  have waiting := receive_waiting client.recv true totalRetry 0 50 none
  rw [received] at waiting
  have filled : cstr packet ≠ [] := by
    intro empty
    obtain ⟨gamename, gameSecKey, named, -⟩ := honest.answers
    rw [empty] at named
    cases named
  have encoding := encodeType_eq honest.encoding
  obtain ⟨prelude, quiet, served⟩ := serveRequest_list honest options events
    ((infoValueForKey (cstr packet) (ascii "clientname")).getD (ascii "Unknown User"))
    (gameSpyCreateChallengeKey client.rand 6)
  refine ⟨events ++ prelude, ?_, ?_⟩
  · intro event member
    rcases List.mem_append.mp member with inside | inside
    · exact Or.inl (waiting.only event inside)
    · exact quiet event inside
  · unfold gameSpyParseTCPPacket receiveTcpValidate parseTcpValidate
    rw [received]
    simp only [allocated, buffered, nonBlocking, sent, Bool.not_true, Bool.or_self,
      Bool.false_eq_true, if_false, if_neg filled, encoding, honest_passes cfg honest,
      if_neg (UInt16.not_lt.mpr honest.encoding.1), served, List.append_assoc]

end GSMaster.Session
