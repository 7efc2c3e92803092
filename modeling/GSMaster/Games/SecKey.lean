import GSMaster.Games.GameTable
import GSMaster.Enctype.MasterKey
import GSMaster.Library.ByteTable
import GSMaster.Library.StreamCipher

/-!
# The answer to a challenge

`gsmalg.c`: `gsseckey` enciphers a challenge under the key of a game and writes
the result in the 64 printable characters of `gsvalfunc`.
-/

namespace GSMaster.Games

open GSMaster.Text GSMaster.Library GSMaster.Enctype

def gsvalfunc (reg : UInt8) : UInt8 :=
  if reg < 26 then reg + 65
  else if reg < 52 then reg + 71
  else if reg < 62 then reg - 4
  else if reg = 62 then 43
  else if reg = 63 then 47
  else 0

/-- The body of the second loop of `gsseckey`, on `enctmp` and `a`. -/
def gsseckeySchedule (key : CString) (state : ByteTable UInt8 × UInt8) (i : Nat) :
    ByteTable UInt8 × UInt8 :=
  let a := state.2 + (state.1.get i.toUInt8 + key.getD (i % key.length) 0)
  (state.1.swap a i.toUInt8, a)

/-- `enctmp`, `a` and `b` of the third loop. -/
structure SecKeyState where
  enctmp : ByteTable UInt8
  a : UInt8
  b : UInt8

/-- The body of the third loop: the byte stored in `tmp`, and the new state. -/
def gsseckeyStep (state : SecKeyState) (c : UInt8) : UInt8 × SecKeyState :=
  let a := state.a + (c + 1)
  let x := state.enctmp.get a
  let b := state.b + x
  let y := state.enctmp.get b
  let enctmp := (state.enctmp.set b x).set a y
  (c ^^^ enctmp.get (x + y), ⟨enctmp, a, b⟩)

/-- The zeros that bring `tmp` to a multiple of three bytes. -/
def padThree (tmp : List UInt8) : List UInt8 :=
  tmp ++ List.replicate ((3 - tmp.length % 3) % 3) 0

/-- The last loop: four characters for each three bytes. -/
def gsseckeyText : List UInt8 → CString
  | x :: y :: z :: rest =>
      gsvalfunc (x >>> 2) :: gsvalfunc (((x &&& 3) <<< 4) ||| (y >>> 4)) ::
        gsvalfunc (((y &&& 15) <<< 2) ||| (z >>> 6)) :: gsvalfunc (z &&& 63) :: gsseckeyText rest
  | _ => []

/-- `gsseckey(NULL, src, key, enctype)`. -/
def gsseckey (src key : CString) (enctype : UInt16) : CString :=
  if src.length < 1 ∨ 65 < src.length then []
  else
    let enctmp := ((List.range 256).foldl (gsseckeySchedule key) (ByteTable.ofFn fun i => i, 0)).1
    let tmp := padThree (feedback gsseckeyStep src.length ⟨enctmp, 0, 0⟩ src)
    let tmp :=
      if enctype = 1 then tmp.map masterKeyAt
      else if enctype = 2 then tmp.mapIdx fun i c => c ^^^ key.getD (i % key.length) 0
      else tmp
    gsseckeyText tmp

theorem gsseckeyText_length : ∀ tmp : List UInt8, (gsseckeyText tmp).length = 4 * (tmp.length / 3)
  | [] => rfl
  | [_] => by simp [gsseckeyText]
  | [_, _] => by simp [gsseckeyText]
  | x :: y :: z :: rest => by
      have ih := gsseckeyText_length rest
      simp only [gsseckeyText, List.length_cons, ih]
      omega

theorem padThree_length (tmp : List UInt8) :
    (padThree tmp).length = 3 * ((tmp.length + 2) / 3) := by
  rw [padThree, List.length_append, List.length_replicate]
  omega

/-- Four characters for each three bytes of the challenge, the last of them padded. -/
theorem gsseckey_length {src key : CString} {enctype : UInt16} (fits : src.length ≤ 65) :
    (gsseckey src key enctype).length = 4 * ((src.length + 2) / 3) := by
  unfold gsseckey
  by_cases wrong : src.length < 1 ∨ 65 < src.length
  · rw [if_pos wrong, List.length_nil]
    omega
  · rw [if_neg wrong, gsseckeyText_length]
    have padded : ∀ state : SecKeyState,
        (padThree (feedback gsseckeyStep src.length state src)).length =
          3 * ((src.length + 2) / 3) := fun state => by
      rw [padThree_length, feedback_length]
    split
    · rw [List.length_map, padded]
      omega
    · split
      · rw [List.length_mapIdx, padded]
        omega
      · rw [padded]
        omega

/-- Only a challenge of the wrong length has an empty answer, whatever the key. -/
theorem gsseckey_eq_nil_iff {src key : CString} {enctype : UInt16} :
    gsseckey src key enctype = [] ↔ src.length < 1 ∨ 65 < src.length := by
  by_cases long : 65 < src.length
  · exact iff_of_true (if_pos (Or.inr long)) (Or.inr long)
  · rw [← List.length_eq_zero_iff, gsseckey_length (Nat.le_of_not_lt long)]
    omega

end GSMaster.Games
