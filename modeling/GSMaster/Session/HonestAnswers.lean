import GSMaster.Games.SecKeyBounds
import GSMaster.Session.ClientValidation
import GSMaster.Text.InfoPairs

/-!
# Honest answers

Where the cross check looks at a packet, it accepts the answer to the challenge
under the key of the game and nothing else. The answer has eight characters
that the grammar of packets leaves alone, so an honest packet can carry it.
-/

namespace GSMaster.Session

open GSMaster.Text GSMaster.Games

/-- The first argument of the cross check: the key of an entry, or the text a client was sent. -/
def challengePacket (rawsecurekey : Bool) (challengeKey : CString) : CString :=
  if rawsecurekey then challengeKey else challengeText challengeKey

/-- The cross check of a packet, under a key that was made for it. -/
def crossCheck (validationRequired : Int) (rawsecurekey : Bool) (rand : Nat → Nat)
    (packet : CString) (enctype : UInt16) : Bool :=
  let challengeKey := gameSpyCreateChallengeKey rand 6
  (gameSpyChallengeCrossCheck validationRequired (challengePacket rawsecurekey challengeKey) packet
    challengeKey rawsecurekey enctype).passed

/-- A packet of short segments, with the first values of its game and of its answer. -/
structure AnswerPacket (packet gamename answer : CString) : Prop where
  short : ∀ segment ∈ infoSegments packet, segment.length < maxInfoString
  game : firstValue (ascii "gamename") (infoSegments packet) = some gamename
  answer : firstValue (ascii "validate") (infoSegments packet) = some answer

/-- In both roles the key of the challenge is what the check goes by. -/
theorem crossCheck_eq {validationRequired : Int} {rawsecurekey : Bool}
    (looks : skipsValidation validationRequired rawsecurekey = false) (rand : Nat → Nat)
    (packet : CString) (enctype : UInt16) :
    crossCheck validationRequired rawsecurekey rand packet enctype =
      answersChallenge (gameSpyCreateChallengeKey rand 6) packet rawsecurekey enctype := by
  unfold crossCheck gameSpyChallengeCrossCheck challengePacket
  simp only [looks, Bool.false_eq_true, if_false]
  cases rawsecurekey with
  | true => rfl
  | false =>
      simp only [Bool.false_eq_true, if_false]
      rw [challengeText_secure]

theorem strlcpy_short {text : CString} (short : text.length < maxInfoString) :
    strlcpy [] text maxInfoString = text :=
  List.take_of_length_le (Nat.le_sub_one_of_lt short)

/-- The exemptions go by the name in the table. -/
theorem skipsAnswer_congr {first second : CString} (same : stricmpEq first second = true)
    (rawsecurekey : Bool) : skipsAnswer first rawsecurekey = skipsAnswer second rawsecurekey := by
  rw [skipsAnswer, skipsAnswer, stricmpEq_congr same, stricmpEq_congr same]

theorem gameTable_seckey : ∀ entry ∈ gameTable,
    gameSpyGetGameSecKey entry.gamename = some entry.seckey := by
  decide

theorem gameTable_skips : ∀ entry ∈ gameTable, ∀ rawsecurekey,
    skipsAnswer entry.gamename rawsecurekey = true →
      entry.gamename = ascii "heretic2" ∨ entry.gamename = ascii "nolf" ∧ rawsecurekey = true := by
  decide

/--
Wherever the check is not skipped, a packet passes exactly when its first answer
is the right one. The lookups stay inside their buffers and so do the stores of
`gsseckey`, and the right answer is a segment that a packet can carry.
-/
theorem crossCheck_passes_iff (validationRequired : Int) (rawsecurekey : Bool)
    (looks : skipsValidation validationRequired rawsecurekey = false) (rand : Nat → Nat)
    (entry : GameTableEntry) (listed : entry ∈ gameTable)
    (heretic2 : entry.gamename ≠ ascii "heretic2")
    (nolf : rawsecurekey = true → entry.gamename ≠ ascii "nolf") (enctype : UInt16)
    (packet gamename answer : CString) (carried : AnswerPacket packet gamename answer)
    (named : stricmpEq gamename entry.gamename = true) :
    (crossCheck validationRequired rawsecurekey rand packet enctype = true ↔
        answer = gsseckey (gameSpyCreateChallengeKey rand 6) entry.seckey enctype) ∧
      answersChallengeFits packet rawsecurekey = true ∧
      SecKeyStoresWithin (gsseckeyStores (gameSpyCreateChallengeKey rand 6) entry.seckey enctype) ∧
      (gsseckey (gameSpyCreateChallengeKey rand 6) entry.seckey enctype).length = 8 ∧
      ∀ c ∈ gsseckey (gameSpyCreateChallengeKey rand 6) entry.seckey enctype, Carried c := by
  have six := gameSpyCreateChallengeKey_length rand 6
  have gameShort := strlcpy_short (carried.short _ (firstValue_mem carried.game))
  have answerShort := strlcpy_short (carried.short _ (firstValue_mem carried.answer))
  have checked : skipsAnswer gamename rawsecurekey ≠ true := by
    rw [skipsAnswer_congr named]
    intro skips
    rcases gameTable_skips entry listed rawsecurekey skips with same | ⟨same, server⟩
    · exact heretic2 same
    · exact nolf server same
  have seckey : gameSpyGetGameSecKey gamename = some entry.seckey :=
    (gameSpyGetGameSecKey_congr named).trans (gameTable_seckey entry listed)
  refine ⟨?_, ?_, gsseckeyStores_within _ _ _, ?_, gsseckey_carried _ _ _⟩
  · rw [crossCheck_eq looks, answersChallenge_accepts_iff]
    simp only [infoValueForKey_eq, carried.game, carried.answer, Option.map_some,
      Option.some.injEq, exists_eq_left', gameShort, answerShort, checked, seckey, six]
    simp
  · unfold answersChallengeFits
    simp only [infoFits_of_short carried.short, Bool.or_true]
    cases infoValueForKey packet (ascii "gamename") with
    | none => rfl
    | some ptr => rfl
  · rw [gsseckey_length (by omega), six]

/-- A Quake 2 server is validated by the right answer, and not by another. -/
theorem crossCheck_passes_iff_quake2 :
    crossCheck 2 true (fun _ => 0) (ascii "\\gamename\\quake2\\validate\\PUOrGqDP") 0 = true ∧
      crossCheck 2 true (fun _ => 0) (ascii "\\gamename\\quake2\\validate\\?") 0 = false := by
  have answer : gsseckey (gameSpyCreateChallengeKey (fun _ => 0) 6) (ascii "rtW0xg") 0 =
      ascii "PUOrGqDP" := by
    rw [show gameSpyCreateChallengeKey (fun _ => 0) 6 = ascii "aaaaaa" by decide]
    decide +kernel
  have checked (packet value : CString) (carried : AnswerPacket packet (ascii "quake2") value) :=
    (crossCheck_passes_iff 2 true (by decide) (fun _ => 0)
      ⟨ascii "quake2", ascii "rtW0xg", 27901⟩ (by decide) (by decide) (fun _ => by decide) 0 _ _ _
      carried (by decide)).1
  constructor
  · exact (checked _ _ ⟨by decide, by decide, by decide⟩).mpr answer.symm
  · rw [Bool.eq_false_iff]
    intro passed
    have same := ((checked _ (ascii "?") ⟨by decide, by decide, by decide⟩).mp passed).trans answer
    revert same
    decide

end GSMaster.Session
