import GSMaster.Games.SecKey

/-!
# The buffers of an answer

`gsseckey` works in three buffers: the permutation `enctmp`, the enciphered
challenge `tmp`, and `dst` for the answer, which every caller lets it allocate.
The trace of its stores stays inside them, and what it writes to `dst` are
printable characters that mean nothing to the grammar of a packet.
-/

namespace GSMaster.Games

open GSMaster.Text GSMaster.Library

inductive SecKeyBuffer where
  | enctmp
  | tmp
  | dst
  deriving DecidableEq, Repr

/-- The sizes of the arrays, and of the block that is allocated. -/
def SecKeyBuffer.size : SecKeyBuffer → Nat
  | enctmp => 256
  | tmp => 66
  | dst => 89

/-- A store of one byte: the buffer and the index in it. -/
abbrev SecKeyStore := SecKeyBuffer × Nat

/-- The stores of the second loop, which exchanges two entries of `enctmp` in each round. -/
def scheduleStores (key : CString) : ByteTable UInt8 × UInt8 → List Nat → List SecKeyStore
  | _, [] => []
  | state, i :: rest =>
      (.enctmp, (gsseckeySchedule key state i).2.toNat) :: (.enctmp, i) ::
        scheduleStores key (gsseckeySchedule key state i) rest

/-- The stores of the third loop from character `i` of the challenge on. -/
def encipherStores : SecKeyState → Nat → CString → List SecKeyStore
  | _, _, [] => []
  | state, i, c :: rest =>
      (.enctmp, (gsseckeyStep state c).2.b.toNat) :: (.enctmp, (gsseckeyStep state c).2.a.toNat) ::
        (.tmp, i) :: encipherStores (gsseckeyStep state c).2 (i + 1) rest

/-- The four stores of each round of the last loop, and the terminator. -/
def answerStores (rounds : Nat) : List SecKeyStore :=
  (List.range rounds).flatMap (fun round => (List.range 4).map fun k => (.dst, 4 * round + k)) ++
    [(.dst, 4 * rounds)]

/-- The stores of `gsseckey(NULL, src, key, enctype)`, in order. -/
def gsseckeyStores (src key : CString) (enctype : UInt16) : List SecKeyStore :=
  if src.length < 1 ∨ 65 < src.length then [(.dst, 0)]
  else
    let identity : ByteTable UInt8 × UInt8 := (ByteTable.ofFn fun i => i, 0)
    let enctmp := ((List.range 256).foldl (gsseckeySchedule key) identity).1
    let padding := (3 - src.length % 3) % 3
    let size := src.length + padding
    (List.range 256).map (fun i => (.enctmp, i)) ++
      scheduleStores key identity (List.range 256) ++
      encipherStores ⟨enctmp, 0, 0⟩ 0 src ++
      (List.range' src.length padding).map (fun i => (.tmp, i)) ++
      (if enctype = 1 ∨ enctype = 2 then (List.range size).map fun i => (.tmp, i) else []) ++
      answerStores (size / 3)

/-- Every store has an index inside its buffer. -/
def SecKeyStoresWithin (stores : List SecKeyStore) : Prop :=
  ∀ store ∈ stores, store.2 < store.1.size

theorem secKeyStoresWithin_append {first second : List SecKeyStore} :
    SecKeyStoresWithin (first ++ second) ↔
      SecKeyStoresWithin first ∧ SecKeyStoresWithin second :=
  List.forall_mem_append

theorem secKeyStoresWithin_cons {store : SecKeyStore} {stores : List SecKeyStore} :
    SecKeyStoresWithin (store :: stores) ↔
      store.2 < store.1.size ∧ SecKeyStoresWithin stores :=
  List.forall_mem_cons

theorem secKeyStoresWithin_map {indices : List Nat} {buffer : SecKeyBuffer}
    (inside : ∀ i ∈ indices, i < buffer.size) :
    SecKeyStoresWithin (indices.map fun i => (buffer, i)) := by
  intro store member
  obtain ⟨i, listed, rfl⟩ := List.mem_map.mp member
  exact inside i listed

/-- The permutation is indexed by bytes. -/
theorem scheduleStores_within (key : CString) (state : ByteTable UInt8 × UInt8)
    {indices : List Nat} (inside : ∀ i ∈ indices, i < 256) :
    SecKeyStoresWithin (scheduleStores key state indices) := by
  induction indices generalizing state with
  | nil => exact fun store member => absurd member List.not_mem_nil
  | cons i rest ih =>
      rw [scheduleStores, secKeyStoresWithin_cons, secKeyStoresWithin_cons]
      refine ⟨(gsseckeySchedule key state i).2.toNat_lt, inside i (List.mem_cons_self ..), ?_⟩
      exact ih _ fun j member => inside j (List.mem_cons_of_mem _ member)

theorem encipherStores_within (state : SecKeyState) (i : Nat) (src : CString)
    (fits : i + src.length ≤ 66) : SecKeyStoresWithin (encipherStores state i src) := by
  induction src generalizing state i with
  | nil => exact fun store member => absurd member List.not_mem_nil
  | cons c rest ih =>
      rw [List.length_cons] at fits
      rw [encipherStores, secKeyStoresWithin_cons, secKeyStoresWithin_cons,
        secKeyStoresWithin_cons]
      refine ⟨UInt8.toNat_lt _, UInt8.toNat_lt _, ?_, ih _ (i + 1) (by omega)⟩
      change i < 66
      omega

theorem answerStores_within {rounds : Nat} (few : rounds ≤ 22) :
    SecKeyStoresWithin (answerStores rounds) := by
  refine secKeyStoresWithin_append.mpr ⟨fun store member => ?_, fun store member => ?_⟩
  · obtain ⟨round, early, stored⟩ := List.mem_flatMap.mp member
    obtain ⟨k, small, rfl⟩ := List.mem_map.mp stored
    rw [List.mem_range] at early small
    change 4 * round + k < 89
    omega
  · rw [List.mem_singleton.mp member]
    change 4 * rounds < 89
    omega

/-- No store of `gsseckey` misses its buffer, for any challenge and any key. -/
theorem gsseckeyStores_within (src key : CString) (enctype : UInt16) :
    SecKeyStoresWithin (gsseckeyStores src key enctype) := by
  unfold gsseckeyStores
  by_cases wrong : src.length < 1 ∨ 65 < src.length
  · rw [if_pos wrong]
    exact secKeyStoresWithin_cons.mpr
      ⟨by decide, fun store member => absurd member List.not_mem_nil⟩
  · rw [if_neg wrong]
    simp only [secKeyStoresWithin_append]
    refine ⟨⟨⟨⟨⟨?_, ?_⟩, ?_⟩, ?_⟩, ?_⟩, ?_⟩
    · exact secKeyStoresWithin_map fun i => List.mem_range.mp
    · exact scheduleStores_within key _ fun i => List.mem_range.mp
    · exact encipherStores_within _ 0 src (by omega)
    · refine secKeyStoresWithin_map fun i member => ?_
      rw [List.mem_range'_1] at member
      change i < 66
      omega
    · split
      · refine secKeyStoresWithin_map fun i member => ?_
        rw [List.mem_range] at member
        change i < 66
        omega
      · exact fun store member => absurd member List.not_mem_nil
    · exact answerStores_within (by omega)

/-! ## The characters of the answer -/

/-- A character that a packet can carry in a value. -/
def Carried (c : UInt8) : Prop :=
  c ≠ 0 ∧ c ≠ backslash

theorem gsvalfunc_carried {reg : UInt8} (small : reg.toNat < 64) : Carried (gsvalfunc reg) := by
  have each : ∀ n : Fin 64, gsvalfunc (UInt8.ofNat n) ≠ 0 ∧
      gsvalfunc (UInt8.ofNat n) ≠ backslash := by decide +kernel
  have carried := each ⟨reg.toNat, small⟩
  rwa [UInt8.ofNat_toNat] at carried

theorem shiftRight_lt (c : UInt8) {shift : UInt8} (much : 2 ≤ shift.toNat % 8) :
    (c >>> shift).toNat < 64 := by
  have bound := c.toNat_lt
  have quarter : c.toNat / 2 ^ (shift.toNat % 8) ≤ c.toNat / 2 ^ 2 :=
    Nat.div_le_div_left (Nat.pow_le_pow_right (by decide) much) (by decide)
  rw [UInt8.toNat_shiftRight, Nat.shiftRight_eq_div_pow]
  omega

theorem shiftLeft_lt {c mask shift : UInt8} (room : mask.toNat * 2 ^ (shift.toNat % 8) < 64) :
    ((c &&& mask) <<< shift).toNat < 64 := by
  have low : (c &&& mask).toNat ≤ mask.toNat := by
    rw [UInt8.toNat_and]
    exact Nat.and_le_right
  have shifted := Nat.mul_le_mul_right (2 ^ (shift.toNat % 8)) low
  rw [UInt8.toNat_shiftLeft, Nat.shiftLeft_eq]
  omega

theorem or_lt {first second : UInt8} (small : first.toNat < 64) (other : second.toNat < 64) :
    (first ||| second).toNat < 64 := by
  rw [UInt8.toNat_or]
  exact Nat.or_lt_two_pow (show first.toNat < 2 ^ 6 from small) other

theorem gsseckeyText_carried : ∀ tmp : List UInt8, ∀ c ∈ gsseckeyText tmp, Carried c
  | [] => fun c member => absurd member List.not_mem_nil
  | [_] => fun c member => absurd member List.not_mem_nil
  | [_, _] => fun c member => absurd member List.not_mem_nil
  | x :: y :: z :: rest => by
      have six : (z &&& 63).toNat < 64 := by
        rw [UInt8.toNat_and]
        exact Nat.lt_of_le_of_lt Nat.and_le_right (by decide)
      rw [gsseckeyText]
      simp only [List.forall_mem_cons]
      refine ⟨?_, ?_, ?_, gsvalfunc_carried six, gsseckeyText_carried rest⟩
      · exact gsvalfunc_carried (shiftRight_lt x (by decide))
      · exact gsvalfunc_carried (or_lt (shiftLeft_lt (by decide)) (shiftRight_lt y (by decide)))
      · exact gsvalfunc_carried (or_lt (shiftLeft_lt (by decide)) (shiftRight_lt z (by decide)))

/-- An answer passes through the grammar of a packet unchanged. -/
theorem gsseckey_carried (src key : CString) (enctype : UInt16) :
    ∀ c ∈ gsseckey src key enctype, Carried c := by
  unfold gsseckey
  split
  · exact fun c member => absurd member List.not_mem_nil
  · exact gsseckeyText_carried _

end GSMaster.Games
