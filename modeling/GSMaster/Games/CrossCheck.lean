import GSMaster.Games.SecKey
import GSMaster.Text.InfoString

/-!
# The validation of a packet

`GameSpy_Challenge_Cross_Check` compares the `validate` value of a packet with
the answer to a challenge. It serves the replies of servers, for which
`rawsecurekey` is set, and the first packet of a client.
-/

namespace GSMaster.Games

open GSMaster.Text

/-- `GAMESPY_VALIDATION_REQUIRED_CLIENTS_ONLY`. -/
def validationRequiredClientsOnly : Int := 1

/-- `GAMESPY_VALIDATION_REQUIRED_SERVERS_ONLY`. -/
def validationRequiredServersOnly : Int := 2

/-- The function returns before it looks at the packets. -/
def skipsValidation (validationRequired : Int) (rawsecurekey : Bool) : Bool :=
  validationRequired == 0 ||
    (validationRequired == validationRequiredClientsOnly && rawsecurekey) ||
    (validationRequired == validationRequiredServersOnly && !rawsecurekey)

/-- Packets of servers are looked at under two settings, and packets of clients under two. -/
theorem skipsValidation_required {validationRequired : Int} {rawsecurekey : Bool}
    (required : validationRequired = (if rawsecurekey then 2 else 1) ∨ validationRequired = 3) :
    skipsValidation validationRequired rawsecurekey = false := by
  cases rawsecurekey with
  | true =>
      rcases required with rfl | rfl
      · rfl
      · rfl
  | false =>
      rcases required with rfl | rfl
      · rfl
      · rfl

/-- The exemptions, tested on the game name of the packet. -/
def skipsAnswer (gameKey : CString) (rawsecurekey : Bool) : Bool :=
  (stricmpEq gameKey (ascii "nolf") && rawsecurekey) || stricmpEq gameKey (ascii "heretic2")

/-- The checks of `validatePacket` once `challengeKey` is known. -/
def answersChallenge (challengeKey validatePacket : CString) (rawsecurekey : Bool)
    (enctype : UInt16) : Bool :=
  match infoValueForKey validatePacket (ascii "gamename") with
  | none => false
  | some ptr =>
      let gameKey := strlcpy [] ptr maxInfoString
      if skipsAnswer gameKey rawsecurekey then true
      else match infoValueForKey validatePacket (ascii "validate") with
        | none => false
        | some ptr =>
            let validateKey := strlcpy [] ptr maxInfoString
            match gameSpyGetGameSecKey gameKey with
            | none => false
            | some gameSecKey =>
                let decodedKey := gsseckey challengeKey gameSecKey enctype
                decodedKey != [] && decodedKey == validateKey

/-- What the function returns, and the `challengeKey` it leaves. -/
structure CrossCheck where
  passed : Bool
  challengeKey : CString

def gameSpyChallengeCrossCheck (validationRequired : Int)
    (challengePacket validatePacket challengeKey : CString) (rawsecurekey : Bool)
    (enctype : UInt16) : CrossCheck :=
  if skipsValidation validationRequired rawsecurekey then ⟨true, challengeKey⟩
  else
    let ptr := if rawsecurekey then some challengePacket
      else infoValueForKey challengePacket (ascii "secure")
    match ptr with
    | none => ⟨false, challengeKey⟩
    | some secure => ⟨answersChallenge secure validatePacket rawsecurekey enctype, secure⟩

/-- The lookups of `answersChallenge` stay inside the buffers of `Info_ValueForKey`. -/
def answersChallengeFits (validatePacket : CString) (rawsecurekey : Bool) : Bool :=
  infoFits validatePacket (ascii "gamename") &&
    match infoValueForKey validatePacket (ascii "gamename") with
    | none => true
    | some ptr =>
        skipsAnswer (strlcpy [] ptr maxInfoString) rawsecurekey ||
          infoFits validatePacket (ascii "validate")

/-- The cross check of a packet accepts an exempt game, or the answer under the key of the game. -/
theorem answersChallenge_accepts_iff (challengeKey packet : CString) (rawsecurekey : Bool)
    (enctype : UInt16) :
    answersChallenge challengeKey packet rawsecurekey enctype = true ↔
      ∃ ptr, infoValueForKey packet (ascii "gamename") = some ptr ∧
        (skipsAnswer (strlcpy [] ptr maxInfoString) rawsecurekey = true ∨
          (1 ≤ challengeKey.length ∧ challengeKey.length ≤ 65) ∧
            ∃ gameSecKey, gameSpyGetGameSecKey (strlcpy [] ptr maxInfoString) = some gameSecKey ∧
              (infoValueForKey packet (ascii "validate")).map (strlcpy [] · maxInfoString) =
                some (gsseckey challengeKey gameSecKey enctype)) := by
  unfold answersChallenge
  cases infoValueForKey packet (ascii "gamename") with
  | none => simp
  | some ptr =>
      simp only [Option.some.injEq, exists_eq_left']
      by_cases exempt : skipsAnswer (strlcpy [] ptr maxInfoString) rawsecurekey = true
      · rw [if_pos exempt]
        exact iff_of_true rfl (Or.inl exempt)
      · rw [if_neg exempt]
        cases infoValueForKey packet (ascii "validate") with
        | none => simp [exempt]
        | some value =>
            cases gameSpyGetGameSecKey (strlcpy [] ptr maxInfoString) with
            | none => simp [exempt]
            | some gameSecKey =>
                have usable : gsseckey challengeKey gameSecKey enctype ≠ [] ↔
                    1 ≤ challengeKey.length ∧ challengeKey.length ≤ 65 := by
                  rw [Ne, gsseckey_eq_nil_iff, not_or, Nat.not_lt, Nat.not_lt]
                simp only [Bool.and_eq_true, bne_iff_ne, usable, beq_iff_eq, exempt, false_or,
                  Option.map_some, Option.some.injEq, exists_eq_left', Bool.false_eq_true]
                exact and_congr_right fun _ => eq_comm
/-- A game name cut off at the buffer's end is no short pattern, and neither is the whole name. -/
theorem stricmpEq_strlcpy {name pattern : CString} (short : pattern.length < 63) :
    stricmpEq (strlcpy [] name maxInfoString) pattern = stricmpEq name pattern := by
  change stricmpEq (strlcpy [] name (63 + 1)) pattern = _
  rcases strlcpy_nil_cases name 63 with same | ⟨long, filled⟩
  · rw [same]
  · rw [Bool.eq_iff_iff]
    refine iff_of_false (fun equal => ?_) fun equal => ?_
    · have lengths := stricmpEq_length equal
      omega
    · have lengths := stricmpEq_length equal
      omega

theorem gameSpyGetGameSecKey_strlcpy (name : CString) :
    gameSpyGetGameSecKey (strlcpy [] name maxInfoString) = gameSpyGetGameSecKey name := by
  change gameSpyGetGameSecKey (strlcpy [] name (63 + 1)) = _
  rcases strlcpy_nil_cases name 63 with same | ⟨long, filled⟩
  · rw [same]
  · have unsupported : ∀ text : CString, 63 ≤ text.length → gameSpyGetGameSecKey text = none := by
      intro text long
      by_contra supported
      have short : text.length < 16 := Supported.length_lt supported
      omega
    rw [unsupported name long, unsupported _ filled.ge]

/-- The cross check of a server's reply, whose challenge is the server's own key. -/
theorem gameSpyChallengeCrossCheck_server (validationRequired : Int)
    (challengeKey validatePacket : CString) (enctype : UInt16) :
    gameSpyChallengeCrossCheck validationRequired challengeKey validatePacket challengeKey true
        enctype =
      ⟨skipsValidation validationRequired true ||
        answersChallenge challengeKey validatePacket true enctype, challengeKey⟩ := by
  unfold gameSpyChallengeCrossCheck
  by_cases skips : skipsValidation validationRequired true = true
  · rw [if_pos skips, skips, Bool.true_or]
  · rw [if_neg skips, if_pos rfl, Bool.eq_false_iff.mpr skips, Bool.false_or]

end GSMaster.Games
