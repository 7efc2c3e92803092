import GSMaster.Enctype.MasterKey
import GSMaster.Library.StreamCipher

/-!
# The keystream generator of encode type 1

`encshare4` builds the 256-word table from a seed, `encshare3` the stack of a
binary tree of seeds, and `encshare2` walks that tree and draws one word a
leaf. `tbuff` holds the table, the stack in three arrays of sixteen words, the
registers, and the block of words drawn last. An access outside its 326 words
has no result.
-/

namespace GSMaster.Enctype

open GSMaster.Library

/-- `unsigned int tbuff[326]`. -/
abbrev Tbuff := Vector UInt32 326

namespace Tbuff

def load (tbuff : Tbuff) (i : Nat) : Option UInt32 :=
  tbuff[i]?

def store (tbuff : Tbuff) (i : Nat) (value : UInt32) : Option Tbuff :=
  if inside : i < 326 then some (tbuff.set i value inside) else none

/-- The index of a table word. -/
def slot (i : UInt8) : Fin 326 :=
  ⟨i.toNat, Nat.lt_of_lt_of_le i.toNat_lt (by decide)⟩

/-- `tbuff[x & 0xff]`. -/
def word (tbuff : Tbuff) (x : UInt32) : UInt32 :=
  tbuff.get (slot x.toUInt8)

/-- Store a table word. -/
def put (tbuff : Tbuff) (i : UInt8) (value : UInt32) : Tbuff :=
  tbuff.set (slot i).val value (slot i).isLt

/-- Set the words from `lower` up to `upper` to one value. -/
def fill (tbuff : Tbuff) (lower upper : Nat) (value : UInt32) : Tbuff :=
  Vector.ofFn fun i => if lower ≤ i.val ∧ i.val < upper then value else tbuff.get i

end Tbuff

/-- `(x << 24) | (x >> 8)`. -/
def turnRight (x : UInt32) : UInt32 :=
  (x <<< 24) ||| (x >>> 8)

/-- `(x >> 24) | (x << 8)`. -/
def turnLeft (x : UInt32) : UInt32 :=
  (x >>> 24) ||| (x <<< 8)

/-- The variables of `encshare2` that live from one round to the next. -/
structure Registers where
  t1 : UInt32
  t2 : UInt32
  t3 : UInt32
  t5 : UInt32

theorem depth_succ {t2 : UInt32} (room : t2.toNat + 288 < 326) : (t2 + 1).toNat = t2.toNat + 1 := by
  rw [UInt32.toNat_add, UInt32.toNat_one]
  omega

/--
The inner loop of `encshare2`. The pointer `p` moves with `t2`: the round stores
at `t2 + 256`, `t2 + 272` and `t2 + 288`, of which the last is the largest.
-/
def encshare2Descend (tbuff : Tbuff) (regs : Registers) : Option (Tbuff × Registers) :=
  if regs.t5 < 65536 then
    if room : regs.t2.toNat + 288 < 326 then
      let depth := regs.t2.toNat
      let t1 := regs.t1 + regs.t5
      let t3 := regs.t3 + t1
      let t1 := t1 + t3
      let tbuff := tbuff.set (depth + 256) t1 (by omega)
      let tbuff := tbuff.set (depth + 272) t3 (by omega)
      let t4 := turnRight t3
      let tbuff := tbuff.set (depth + 288) regs.t5 (by omega)
      let t5 := regs.t5 <<< 1
      let t2 := regs.t2 + 1
      let t1 := t1 ^^^ Tbuff.word tbuff t1
      let t4 := t4 ^^^ Tbuff.word tbuff t4
      let t3 := turnRight t4
      let t4 := turnLeft t1
      let t4 := t4 ^^^ Tbuff.word tbuff t4
      let t3 := t3 ^^^ Tbuff.word tbuff t3
      let t1 := turnLeft t4
      encshare2Descend tbuff ⟨t1, t2, t3, t5⟩
    else none
  else some (tbuff, regs)
termination_by 326 - regs.t2.toNat
decreasing_by
  have deeper := depth_succ room
  omega

/-- The outer loop of `encshare2`, which stores one word a round from index `target` on. -/
def encshare2Words : Nat → Nat → Tbuff → Registers → Option (Tbuff × Registers)
  | 0, _, tbuff, regs => some (tbuff, regs)
  | words + 1, target, tbuff, regs => do
      let (tbuff, regs) ← encshare2Descend tbuff regs
      let t3 := regs.t3 ^^^ regs.t1
      let tbuff ← tbuff.store target t3
      let t2 := regs.t2 - 1
      let t1 ← tbuff.load (t2 + 256).toNat
      let t5 ← tbuff.load (t2 + 272).toNat
      let t1 := ~~~t1
      let t3 := turnRight t1
      let t3 := t3 ^^^ tbuff.word t3
      let t5 := t5 ^^^ tbuff.word t5
      let t1 := turnRight t3
      let t4 := turnLeft t5
      let t1 := t1 ^^^ tbuff.word t1
      let t4 := t4 ^^^ tbuff.word t4
      let t3 := turnLeft t4
      let seed ← tbuff.load (t2 + 288).toNat
      let t5 := (seed <<< 1) + 1
      encshare2Words words (target + 1) tbuff ⟨t1, t2, t3, t5⟩

/-- `encshare2`, with `tbuffp` as an index into `tbuff`. -/
def encshare2 (tbuff : Tbuff) (tbuffp len : Nat) : Option Tbuff := do
  let t2 ← tbuff.load 304
  let t1 ← tbuff.load 305
  let t3 ← tbuff.load 306
  let t5 ← tbuff.load 307
  let (tbuff, regs) ← encshare2Words len tbuffp tbuff ⟨t1, t2, t3, t5⟩
  let tbuff ← tbuff.store 304 regs.t2
  let tbuff ← tbuff.store 305 regs.t1
  let tbuff ← tbuff.store 306 regs.t3
  tbuff.store 307 regs.t5

/-- Byte `offset` of the block of words at index 309, on a little-endian host. -/
def blockByte (tbuff : Tbuff) (offset : Nat) : Option UInt8 :=
  (tbuff.load (309 + offset / 4)).map fun word => (word >>> (8 * (offset % 4)).toUInt32).toUInt8

/-- A round of the loop of `encshare1`, whose state is `tbuff` and `p - s`. -/
def encshare1Step (state : Tbuff × Nat) : Option (UInt8 × Tbuff × Nat) := do
  let (tbuff, offset) ←
    if state.2 = 63 then (encshare2 state.1 309 16).map fun tbuff => (tbuff, 0) else some state
  let key ← blockByte tbuff offset
  some (key, tbuff, offset + 1)

/-- `encshare1` returns the data; what becomes of `tbuff` is not used again. -/
def encshare1 (tbuff : Tbuff) (datap : List UInt8) (len : Nat) : Option (List UInt8) := do
  let tbuff ← encshare2 tbuff 309 16
  let (datap, _) ← streamXor encshare1Step len (tbuff, 0) datap
  some datap

/-- A round of the loop of `encshare3` for bit `i`; the state is `data`, `t1`, `t2` and `t4`. -/
def encshare3Step (n2 : UInt32) (state : Tbuff × UInt32 × UInt32 × UInt32) (i : UInt32) :
    Option (Tbuff × UInt32 × UInt32 × UInt32) := do
  let (data, t1, t2, t4) := state
  let t2 := t2 + t4
  let t1 := t1 + t2
  let t2 := t2 + t1
  if n2 &&& i ≠ 0 then
    let t2 := ~~~t2
    let t4 := (t4 <<< 1) + 1
    let t3 := turnRight t2
    let t3 := t3 ^^^ data.word t3
    let t1 := t1 ^^^ data.word t1
    let t2 := turnRight t3
    let t3 := turnLeft t1
    let t2 := t2 ^^^ data.word t2
    let t3 := t3 ^^^ data.word t3
    let t1 := turnLeft t3
    some (data, t1, t2, t4)
  else
    let data ← data.store ((← data.load 304) + 256).toNat t2
    let data ← data.store ((← data.load 304) + 272).toNat t1
    let data ← data.store ((← data.load 304) + 288).toNat t4
    let data ← data.store 304 ((← data.load 304) + 1)
    let t3 := turnRight t1
    let t2 := t2 ^^^ data.word t2
    let t3 := t3 ^^^ data.word t3
    let t1 := turnRight t3
    let t3 := turnLeft t2
    let t3 := t3 ^^^ data.word t3
    let t1 := t1 ^^^ data.word t1
    let t2 := turnLeft t3
    let t4 := t4 <<< 1
    some (data, t1, t2, t4)

/-- The values of `i` in `encshare3`: 32768 down to 1. -/
def encshare3Bits : List UInt32 :=
  (List.range 16).map fun i => (32768 : UInt32) >>> i.toUInt32

def encshare3 (data : Tbuff) (n1 n2 : UInt32) : Option Tbuff := do
  let data ← data.store 304 0
  let (data, t1, t2, t4) ← encshare3Bits.foldlM (encshare3Step n2) (data, 0, n1, 1)
  let data ← data.store 305 t2
  let data ← data.store 306 t1
  let data ← data.store 307 t4
  data.store 308 n1

def byteIndices : List UInt8 :=
  (List.range 256).map Nat.toUInt8

/-- The body of the inner loop of `encshare4`; the state is `dest` and `pos`. -/
def encshare4Swap (src : List UInt8) (size : Nat) (state : Tbuff × UInt8) (i : UInt8) :
    Tbuff × UInt8 :=
  let dest := state.1
  let tmp := dest.word i.toUInt32
  let pos := state.2 + (tmp.toUInt8 + src.getD (i.toNat % size) 0)
  let dest := dest.put i (dest.word pos.toUInt32)
  (dest.put pos tmp, pos)

/-- The round of `encshare4` for `y`: the shift of all words, then two passes of swaps. -/
def encshare4Round (src : List UInt8) (size : Nat) (dest : Tbuff) (y : UInt8) : Tbuff :=
  let dest := byteIndices.foldl
    (fun dest i => dest.put i ((dest.word i.toUInt32 <<< 8) + i.toUInt32)) dest
  let pass := byteIndices.foldl (encshare4Swap src size) (dest, y)
  (byteIndices.foldl (encshare4Swap src size) pass).1

def encshare4 (src : List UInt8) (size : Nat) (dest : Tbuff) : Option Tbuff :=
  let dest := dest.fill 0 256 0
  let dest := [0, 1, 2, 3].foldl (encshare4Round src size) dest
  let dest := byteIndices.foldl
    (fun dest i => dest.put i (dest.word i.toUInt32 ^^^ i.toUInt32)) dest
  encshare3 dest 0 0

end GSMaster.Enctype
