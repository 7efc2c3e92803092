import GSMaster.Enctype.MasterKey
import GSMaster.Library.ByteTable
import GSMaster.Library.StreamCipher

/-!
# The byte ciphers of encode type 1

`func2` and `func3` are the scramble layer, `func4` to `func7e` the feedback
layer. Their C arrays are a table of 256 bytes followed by a few bytes at fixed
indices; those bytes are fields here, since a byte index cannot reach them.
-/

namespace GSMaster.Enctype

open GSMaster.Text GSMaster.Library

/-! ## The scramble layer -/

/-- `crypt[258]`: the table, then `crypt[256]` and `crypt[257]`. -/
structure Crypt where
  table : ByteTable UInt8
  n1 : UInt8
  n2 : UInt8

/-- The body of the loop of `func2`: the byte to combine with the data, and the new `crypt`. -/
def func2Step (crypt : Crypt) : Option (UInt8 × Crypt) :=
  let n1 := crypt.n1 + 1
  let t := crypt.table.get n1
  let n2 := crypt.n2 + t
  let table := (crypt.table.set n1 (crypt.table.get n2)).set n2 t
  let t := t + table.get n1
  some (table.get t, ⟨table, n1, n2⟩)

def func2 (data : List UInt8) (size : Nat) (crypt : Crypt) : Option (List UInt8 × Crypt) :=
  streamXor func2Step size crypt data

theorem func2_keystream (size : Nat) (crypt : Crypt) :
    ∃ drawn, keystream func2Step size crypt = some drawn := by
  induction size generalizing crypt with
  | zero => exact ⟨_, rfl⟩
  | succ size ih =>
      obtain ⟨drawn, generated⟩ := ih (((func2Step crypt).get rfl).2)
      refine ⟨(((func2Step crypt).get rfl).1 :: drawn.1, drawn.2), ?_⟩
      change (keystream func2Step size ((func2Step crypt).get rfl).2).map _ = _
      rw [generated]
      rfl

/-- The scramble layer combines the data with bytes that depend on `crypt` alone. -/
theorem func2_eq (size : Nat) (crypt : Crypt) :
    ∃ keys final, ∀ data : List UInt8, size ≤ data.length →
      func2 data size crypt = some (xorLeading keys data, final) := by
  obtain ⟨drawn, generated⟩ := func2_keystream size crypt
  refine ⟨drawn.1, drawn.2, fun data long => ?_⟩
  rw [func2, streamXor_eq long, generated]
  rfl

/-- The body of the second loop of `func3`, at index `i`. -/
def func3Step (data : List UInt8) (len : Nat) (buff : ByteTable UInt8 × UInt8) (i : Nat) :
    ByteTable UInt8 × UInt8 :=
  let tmp := buff.1.get i.toUInt8
  let pos := buff.2 + (data.getD (i % len) 0 + tmp)
  ((buff.1.set i.toUInt8 (buff.1.get pos)).set pos tmp, pos)

def func3 (data : List UInt8) (len : Nat) : Crypt :=
  let buff := ByteTable.ofFn fun i => 255 - i
  ⟨((List.range 256).foldl (func3Step data len) (buff, 0)).1, 0, 0⟩

/-! ## The feedback layer -/

/-- `enc1key[261]`: the table, then the bytes at indices 256 to 260. -/
structure Enc1Key where
  table : ByteTable UInt8
  k256 : UInt8
  k257 : UInt8
  k258 : UInt8
  k259 : UInt8
  k260 : UInt8

/-- `mask = (mask << 1) + 1` until the mask covers `cnt`; eight rounds do for a byte. -/
def widenMask (cnt : Nat) : Nat → Nat → Nat
  | 0, mask => mask
  | rounds + 1, mask =>
      let mask := (mask <<< 1) + 1
      if mask < cnt then widenMask cnt rounds mask else mask

/--
The second loop of `func5`, with the rounds left before the twelfth. In the
twelfth round `tmp %= cnt` ends the loop.
-/
def func5Loop (cnt : Nat) (id : CString) (mask : Nat) (table : ByteTable UInt8) :
    Nat → Nat → Nat → Nat × Nat × Nat
  | rounds, n1, n2 =>
      let n1 := (table.get n1.toUInt8).toNat + (id.getD n2 0).toNat
      let n2 := n2 + 1
      let wrapped := id.length ≤ n2
      let n1 := if wrapped then n1 + id.length else n1
      let n2 := if wrapped then 0 else n2
      let tmp := n1 &&& mask
      match rounds with
      | 0 => (tmp % cnt, n1, n2)
      | rounds + 1 => if cnt < tmp then func5Loop cnt id mask table rounds n1 n2 else (tmp, n1, n2)

/-- `func5` returns `tmp` and leaves `*n1` and `*n2`. -/
def func5 (cnt : Nat) (id : CString) (n1 n2 : Nat) (table : ByteTable UInt8) : Nat × Nat × Nat :=
  if cnt = 0 then (0, n1, n2)
  else
    let mask := if 1 < cnt then widenMask cnt 8 1 else 1
    func5Loop cnt id mask table 11 n1 n2

/-- The body of the second loop of `func4`, at index `i`. -/
def func4Step (id : CString) (state : ByteTable UInt8 × Nat × Nat) (i : Nat) :
    ByteTable UInt8 × Nat × Nat :=
  let drawn := func5 i id state.2.1 state.2.2 state.1
  (state.1.swap i.toUInt8 drawn.1.toUInt8, drawn.2)

/-- `func4`; without a key the array keeps what it held. -/
def func4 (id : CString) (held : Enc1Key) : Enc1Key :=
  match id with
  | [] => held
  | _ :: _ =>
      let state := (List.range 256).reverse.foldl (func4Step id) (ByteTable.ofFn fun i => i, 0, 0)
      let table := state.1
      { table := table
        k256 := table.get 1
        k257 := table.get 3
        k258 := table.get 5
        k259 := table.get 7
        k260 := table.get state.2.1.toUInt8 }

/--
The statements that `func7` and `func7e` share, down to `c ^= b`: the byte that
masks the data, and the array before `enc1key[260]` and `enc1key[259]` are set.
-/
def func7Mix (enc1key : Enc1Key) : UInt8 × Enc1Key :=
  let table := enc1key.table
  let a := enc1key.k256
  let b := enc1key.k257
  let c := table.get a
  let k256 := a + 1
  let k257 := b + c
  let a := enc1key.k260
  let b := k257
  let b := table.get b
  let c := table.get a
  let table := table.set a b
  let a := enc1key.k259
  let b := k257
  let a := table.get a
  let table := table.set b a
  let a := k256
  let b := enc1key.k259
  let a := table.get a
  let table := table.set b a
  let a := k256
  let table := table.set a c
  let b := enc1key.k258
  let a := table.get c
  let c := enc1key.k259
  let b := b + a
  let k258 := b
  let a := b
  let c := table.get c
  let b := k257
  let b := table.get b
  let a := table.get a
  let c := c + b
  let b := enc1key.k260
  let b := table.get b
  let c := c + b
  let b := table.get c
  let c := k256
  let c := table.get c
  let a := a + c
  let c := table.get b
  let b := table.get a
  (c ^^^ b, { enc1key with table := table, k256 := k256, k257 := k257, k258 := k258 })

/-- `func7` deciphers a byte. -/
def func7 (enc1key : Enc1Key) (len : UInt8) : UInt8 × Enc1Key :=
  let mixed := func7Mix enc1key
  let c := mixed.1 ^^^ len
  (c, { mixed.2 with k259 := c, k260 := len })

/-- `func7e` enciphers a byte. -/
def func7e (enc1key : Enc1Key) (v : UInt8) : UInt8 × Enc1Key :=
  let mixed := func7Mix enc1key
  let c := mixed.1 ^^^ v
  (c, { mixed.2 with k259 := v, k260 := c })

def func6 (data : List UInt8) (len : Nat) (enc1key : Enc1Key) : List UInt8 :=
  feedback func7 len enc1key data

def func6e (data : List UInt8) (len : Nat) (enc1key : Enc1Key) : List UInt8 :=
  feedback func7e len enc1key data

/-- `func7` recovers the byte that `func7e` enciphered and reaches the same array. -/
theorem func7_func7e (enc1key : Enc1Key) (v : UInt8) :
    func7 enc1key (func7e enc1key v).1 = (v, (func7e enc1key v).2) := by
  have recovered : (func7Mix enc1key).1 ^^^ ((func7Mix enc1key).1 ^^^ v) = v := by
    rw [← UInt8.xor_assoc, UInt8.xor_self, UInt8.zero_xor]
  simp only [func7, func7e, recovered]

theorem func6_func6e (data : List UInt8) (len : Nat) (enc1key : Enc1Key) :
    func6 (func6e data len enc1key) len enc1key = data :=
  feedback_inverse func7_func7e len enc1key data

/-- A key overwrites whatever the array held. -/
theorem func4_overwrites {id : CString} (nonempty : id ≠ []) (first second : Enc1Key) :
    func4 id first = func4 id second := by
  cases id with
  | nil => exact absurd rfl nonempty
  | cons c rest => rfl

end GSMaster.Enctype
