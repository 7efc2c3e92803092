import GSMaster.Session.ListRequests

/-!
# The validation of clients

A client is validated by the first packet of its session. The exemption of
heretic2 in `GameSpy_Challenge_Cross_Check` is meant for the replies of servers
but is not guarded as the one of nolf is, so that clients pass by it too.
-/

namespace GSMaster.Session

open GSMaster.Text GSMaster.Registry GSMaster.Games GSMaster.Lists

/-- `validate` is the answer to the challenge under the key of the game that the packet names. -/
def ClientAnswers (challengeKey packet : CString) (enctype : UInt16) : Prop :=
  ∃ gamename gameSecKey, infoValueForKey packet (ascii "gamename") = some gamename ∧
    gameSpyGetGameSecKey gamename = some gameSecKey ∧
    infoValueForKey packet (ascii "validate") = some (gsseckey challengeKey gameSecKey enctype)

/-- The packet names heretic2, in any letter case. -/
def NamesHeretic2 (packet : CString) : Prop :=
  ∃ gamename, infoValueForKey packet (ascii "gamename") = some gamename ∧
    stricmpEq gamename (ascii "heretic2") = true

/-- The first packet of the session answers the challenge that the session has sent. -/
def ClientValidated (client : Client) : Prop :=
  ∃ waits packet, FirstPacket client waits packet ∧
    ClientAnswers (gameSpyCreateChallengeKey client.rand 6) (cstr packet)
      (encodeType (cstr packet))

/-- The challenge that the client is sent holds the key that its answer is checked against. -/
theorem challengeText_secure (rand : Nat → Nat) :
    infoValueForKey (challengeText (gameSpyCreateChallengeKey rand 6)) (ascii "secure") =
      some (gameSpyCreateChallengeKey rand 6) := by
  have plain : backslash ∉ gameSpyCreateChallengeKey rand 6 := fun member =>
    absurd (gameSpyCreateChallengeKey_mem member) (by decide)
  have whole : challengeText (gameSpyCreateChallengeKey rand 6) =
      challengeHeader ++ gameSpyCreateChallengeKey rand 6 := by
    apply List.take_of_length_le
    rw [List.length_append, gameSpyCreateChallengeKey_length]
    decide
  have scanned : ∀ key : CString, infoValueForKey (challengeHeader ++ key) (ascii "secure") =
      infoScan (ascii "secure") (ascii "secure") (some []) key := fun key => rfl
  rw [whole, scanned, infoScan_value plain, if_pos rfl, List.nil_append]

/-- For a client only the exemption of heretic2 is left. -/
theorem skipsAnswer_client (gamename : CString) :
    skipsAnswer (strlcpy [] gamename maxInfoString) false = true ↔
      stricmpEq gamename (ascii "heretic2") = true := by
  rw [skipsAnswer, Bool.and_false, Bool.false_or, stricmpEq_strlcpy (by decide)]

/-- An answer of eight characters is not cut off, so it is the packet's whole value. -/
theorem validate_value_iff {challengeKey : CString} (usual : challengeKey.length = 6)
    (packet gameSecKey : CString) (enctype : UInt16) :
    (infoValueForKey packet (ascii "validate")).map (strlcpy [] · maxInfoString) =
        some (gsseckey challengeKey gameSecKey enctype) ↔
      infoValueForKey packet (ascii "validate") =
        some (gsseckey challengeKey gameSecKey enctype) := by
  have eight : (gsseckey challengeKey gameSecKey enctype).length = 8 := by
    rw [gsseckey_length (by omega), usual]
  cases infoValueForKey packet (ascii "validate") with
  | none => exact Iff.rfl
  | some value =>
      rw [Option.map_some, Option.some.injEq, Option.some.injEq]
      change strlcpy [] value (63 + 1) = _ ↔ _
      rcases strlcpy_nil_cases value 63 with same | ⟨long, filled⟩
      · rw [same]
      · refine iff_of_false (fun equal => ?_) fun equal => ?_
        · rw [equal] at filled
          omega
        · rw [equal] at long
          omega

theorem answersChallenge_client_iff {challengeKey : CString} (usual : challengeKey.length = 6)
    (packet : CString) (enctype : UInt16) :
    answersChallenge challengeKey packet false enctype = true ↔
      NamesHeretic2 packet ∨ ClientAnswers challengeKey packet enctype := by
  have fits : 1 ≤ challengeKey.length ∧ challengeKey.length ≤ 65 := by omega
  simp only [answersChallenge_accepts_iff, skipsAnswer_client, gameSpyGetGameSecKey_strlcpy,
    validate_value_iff usual, NamesHeretic2, ClientAnswers, fits, and_self, true_and]
  constructor
  · rintro ⟨gamename, named, exempt | ⟨gameSecKey, known, answer⟩⟩
    · exact Or.inl ⟨gamename, named, exempt⟩
    · exact Or.inr ⟨gamename, gameSecKey, named, known, answer⟩
  · rintro (⟨gamename, named, exempt⟩ | ⟨gamename, gameSecKey, named, known, answer⟩)
    · exact ⟨gamename, named, Or.inl exempt⟩
    · exact ⟨gamename, named, Or.inr ⟨gameSecKey, known, answer⟩⟩

/-- With clients to be validated, the cross check looks at the packet. -/
theorem validated_iff {cfg : Config}
    (required : cfg.validationRequired = 1 ∨ cfg.validationRequired = 3) (client : Client)
    (incomingTcpValidate : CString) :
    validated cfg client incomingTcpValidate = true ↔
      NamesHeretic2 incomingTcpValidate ∨
        ClientAnswers (gameSpyCreateChallengeKey client.rand 6) incomingTcpValidate
          (encodeType incomingTcpValidate) := by
  have looks : skipsValidation cfg.validationRequired false = false :=
    skipsValidation_required required
  rw [validated, gameSpyChallengeCrossCheck, looks, if_neg Bool.false_ne_true,
    if_neg Bool.false_ne_true, challengeText_secure]
  exact answersChallenge_client_iff (gameSpyCreateChallengeKey_length client.rand 6) _ _

/--
A list is sent to validated clients only, exactly when a first packet that
names heretic2 and is followed by a list request carries the answer all the same.
-/
theorem list_validated_iff (options : TcpOptions) (cfg : Config)
    (required : cfg.validationRequired = 1 ∨ cfg.validationRequired = 3) (client : Client) :
    (SendsList (gameSpyParseTCPPacket options cfg client) → ClientValidated client) ↔
      ∀ waits packet, Connected client → FirstPacket client waits packet →
        NamesHeretic2 (cstr packet) → RequestsList client waits (cstr packet) →
          ClientAnswers (gameSpyCreateChallengeKey client.rand 6) (cstr packet)
            (encodeType (cstr packet)) := by
  rw [gameSpyParseTCPPacket_sendsList_iff]
  constructor
  · intro sound waits packet connected first exempt requested
    have passed := (validated_iff required client (cstr packet)).mpr (Or.inl exempt)
    obtain ⟨waits', packet', first', answers⟩ :=
      sound ⟨connected, waits, packet, first, passed, requested⟩
    rwa [(first.unique first').2]
  · rintro answered ⟨connected, waits, packet, first, passed, requested⟩
    rcases (validated_iff required client (cstr packet)).mp passed with exempt | answers
    · exact ⟨waits, packet, first, answered waits packet connected first exempt requested⟩
    · exact ⟨waits, packet, first, answers⟩

theorem not_clientValidated_repeating {packet : List UInt8}
    (silent : infoValueForKey (cstr packet) (ascii "validate") = none) :
    ¬ ClientValidated (repeating packet) := by
  rintro ⟨waits, received, first, gamename, gameSecKey, _, _, answer⟩
  rw [(first.unique (firstPacket_repeating packet)).2, silent] at answer
  cases answer

/-- A list request of the later style, without a `validate` value. -/
def unvalidatedRequest (gamename : String) : List UInt8 :=
  ascii "\\gamename\\" ++ ascii gamename ++ ascii "\\list\\gamename\\" ++ ascii gamename ++
    ascii "\\final\\"

/-- A client that names quake2 and does not answer gets no list. -/
theorem list_validated_iff_quake2 :
    ¬ ClientValidated (repeating (unvalidatedRequest "quake2")) ∧
      ¬ SendsList (gameSpyParseTCPPacket ⟨false, false⟩
        { defaultConfig with validationRequired := 1 }
        (repeating (unvalidatedRequest "quake2"))) := by
  have unanswered : ¬ ClientValidated (repeating (unvalidatedRequest "quake2")) :=
    not_clientValidated_repeating (by decide)
  have quake : infoValueForKey (cstr (unvalidatedRequest "quake2")) (ascii "gamename") =
      some (ascii "quake2") := by decide
  refine ⟨unanswered, fun sends => unanswered ?_⟩
  refine (list_validated_iff _ _ (Or.inl rfl) _).mpr (fun waits packet _ first exempt _ => ?_) sends
  rw [(first.unique (firstPacket_repeating _)).2] at exempt
  obtain ⟨gamename, named, heretic⟩ := exempt
  rw [quake, Option.some.injEq] at named
  rw [← named] at heretic
  exact absurd heretic (by decide)

/-- A client that names heretic2 gets a list without an answer. -/
theorem list_without_answer :
    ¬ ∀ (options : TcpOptions) (cfg : Config) (client : Client),
      cfg.validationRequired = 1 ∨ cfg.validationRequired = 3 →
        SendsList (gameSpyParseTCPPacket options cfg client) → ClientValidated client := by
  intro sound
  have named : infoValueForKey (cstr (unvalidatedRequest "heretic2")) (ascii "gamename") =
      some (ascii "heretic2") := by decide
  have requested : RequestsList (repeating (unvalidatedRequest "heretic2")) 0
      (cstr (unvalidatedRequest "heretic2")) := by
    refine ⟨by decide, by decide, ?_⟩
    rw [if_pos (by decide)]
    exact ⟨ascii "heretic2", false, some (ascii "final\\"), by decide⟩
  have sent : SendsList (gameSpyParseTCPPacket ⟨false, false⟩
      { defaultConfig with validationRequired := 1 } (repeating (unvalidatedRequest "heretic2"))) :=
    (gameSpyParseTCPPacket_sendsList_iff _ _ _).mpr
      ⟨⟨rfl, rfl, rfl, rfl⟩, 0, _, firstPacket_repeating _,
        (validated_iff (Or.inl rfl) _ _).mpr (Or.inl ⟨_, named, by decide⟩), requested⟩
  exact not_clientValidated_repeating (by decide) (sound _ _ _ (Or.inl rfl) sent)

end GSMaster.Session
