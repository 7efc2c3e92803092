import GSMaster.Enctype.KeystreamStack

/-!
# The keystream of a long list

`encshare3` leaves the generator above the first leaf of its tree. `encshare1`
draws a block of sixteen words at a time and uses 63 of its 64 bytes, so the
bytes of 4095 blocks are drawn before the last leaf. A longer list draws that
leaf too, and the generator pops a stack that is empty.
-/

namespace GSMaster.Enctype

open GSMaster.Text GSMaster.Library

/-! ## The depths in a run of the encoder -/

def encshare1StepDepths (state : Tbuff × Nat) : List UInt32 :=
  if state.2 = 63 then encshare2Depths state.1 309 16 else []

def encshare1LoopDepths : Nat → Tbuff × Nat → List UInt32
  | 0, _ => []
  | len + 1, state =>
      encshare1StepDepths state ++
        (encshare1Step state).elim [] fun drawn => encshare1LoopDepths len drawn.2

def encshare1Depths (tbuff : Tbuff) (len : Nat) : List UInt32 :=
  encshare2Depths tbuff 309 16 ++
    (encshare2 tbuff 309 16).elim [] fun tbuff => encshare1LoopDepths len (tbuff, 0)

def encshareLayerDepths (seed : List UInt8) (tbuff : Tbuff) (len : Nat) : List UInt32 :=
  if 17 ≤ len >>> 1 then
    (encshare4 seed 4 tbuff).elim [] fun tbuff => encshare1Depths tbuff ((len >>> 1) - 17)
  else []

/-- `t2` at each push and each pop in a run of `create_enctype1_buffer`. -/
def createEnctype1BufferDepths (input : List UInt8) (rand : Nat → UInt32) : List UInt32 :=
  encshareLayerDepths (intBytes (rand 0)) (Vector.replicate 326 0) input.length

/-! ## The seeds that `encshare3` stacks -/

/-- After `pushes` rounds of `encshare3` the walk stands on the leftmost node of level `pushes`. -/
structure Leftmost (data : Tbuff) (t4 : UInt32) (pushes : Nat) : Prop where
  depth : (data.wordAt 304).toNat = pushes
  ahead : LeafAhead 16 (seeds data) pushes t4.toNat 0 pushes

theorem store_set {tbuff : Tbuff} {i : Nat} {value : UInt32} (inside : i < 326) :
    tbuff.store i value = some (tbuff.set i value inside) :=
  dif_pos inside

/-- With no bit of `n2` set, a round of `encshare3` pushes. -/
theorem encshare3Step_push {data : Tbuff} {t4 : UInt32} {pushes : Nat} (t1 t2 i : UInt32)
    (leftmost : Leftmost data t4 pushes) (shallow : pushes < 16) :
    ∃ data' t1' t2' t4', encshare3Step 0 (data, t1, t2, t4) i = some (data', t1', t2', t4') ∧
      Leftmost data' t4' (pushes + 1) := by
  have inner := leftmost.ahead.inner shallow
  have slot (array : UInt32) (low : array.toNat ≤ 288) := slot_toNat leftmost.depth shallow low
  have first : (data.wordAt 304 + 256).toNat = pushes + 256 := slot 256 (by decide)
  have second : (data.wordAt 304 + 272).toNat = pushes + 272 := slot 272 (by decide)
  have third : (data.wordAt 304 + 288).toNat = pushes + 288 := slot 288 (by decide)
  have firstInside : pushes + 256 < 326 := by omega
  have secondInside : pushes + 272 < 326 := by omega
  have thirdInside : pushes + 288 < 326 := by omega
  have counter : 304 < 326 := by decide
  unfold encshare3Step
  simp only [UInt32.zero_and, ne_eq, not_true_eq_false, if_false, Option.bind_eq_bind]
  simp only [load_wordAt counter, Option.bind_some, first, store_set firstInside,
    wordAt_set_ne firstInside (show pushes + 256 ≠ 304 by omega), second, store_set secondInside,
    wordAt_set_ne secondInside (show pushes + 272 ≠ 304 by omega), third, store_set thirdInside,
    wordAt_set_ne thirdInside (show pushes + 288 ≠ 304 by omega), store_set counter]
  refine ⟨_, _, _, _, rfl, ?_, ?_⟩
  · rw [wordAt_set_self, UInt32.toNat_add, leftmost.depth]
    change (pushes + 1) % 2 ^ 32 = _
    omega
  · rw [twice (Nat.lt_trans inner (by decide))]
    apply (leftmost.ahead.push inner).congr
    intro j below
    rw [seeds_set_ne _ (by omega), seeds_push shallow]

/-- The loop of `encshare3` goes one level down for each bit. -/
theorem encshare3Bits_leftmost (bits : List UInt32) {data : Tbuff} (t1 t2 : UInt32) {t4 : UInt32}
    {pushes : Nat} (leftmost : Leftmost data t4 pushes) (fits : pushes + bits.length ≤ 16) :
    ∃ data' t1' t2' t4', bits.foldlM (encshare3Step 0) (data, t1, t2, t4) =
        some (data', t1', t2', t4') ∧ Leftmost data' t4' (pushes + bits.length) := by
  induction bits generalizing data t1 t2 t4 pushes with
  | nil => exact ⟨data, t1, t2, t4, rfl, leftmost⟩
  | cons i bits ih =>
      rw [List.length_cons] at fits ⊢
      obtain ⟨pushed, u1, u2, u4, pushedEq, deeper⟩ :=
        encshare3Step_push t1 t2 i leftmost (by omega)
      obtain ⟨data', t1', t2', t4', restEq, lowest⟩ :=
        ih u1 u2 deeper (by omega)
      refine ⟨data', t1', t2', t4', ?_, ?_⟩
      · rw [List.foldlM_cons, pushedEq]
        exact restEq
      · rwa [Nat.add_right_comm] at lowest

/-- A seeded table stands above the first leaf. -/
theorem encshare3_above (data : Tbuff) :
    ∃ next, encshare3 data 0 0 = some next ∧ KeptAbove next 0 := by
  have root : Leftmost (data.set 304 0) 1 0 := ⟨by rw [wordAt_set_self]; rfl, .start⟩
  obtain ⟨data', t1, t2, t4, stacked, lowest⟩ :=
    encshare3Bits_leftmost encshare3Bits 0 0 root (Nat.le_refl 16)
  refine ⟨(((data'.set 305 t2).set 306 t1).set 307 t4).set 308 0, ?_, 16, ?_⟩
  · unfold encshare3
    rw [store_set (by decide)]
    simp only [Option.bind_eq_bind, Option.bind_some, stacked]
    rfl
  · rw [wordAt_set_ne _ (by decide), wordAt_set_ne _ (by decide), wordAt_set_ne _ (by decide),
      wordAt_set_ne _ (by decide), lowest.depth, wordAt_set_ne _ (by decide), wordAt_set_self]
    apply lowest.ahead.congr
    intro i below
    change i < 16 at below
    rw [seeds_set_ne _ (by omega), seeds_set_ne _ (by omega), seeds_set_ne _ (by omega),
      seeds_set_ne _ (by omega)]

/-! ## The keystream of a list -/

theorem blockByte_inside (tbuff : Tbuff) {offset : Nat} (inside : offset < 63) :
    ∃ key, blockByte tbuff offset = some key := by
  unfold blockByte
  rw [load_wordAt (show 309 + offset / 4 < 326 by omega)]
  exact ⟨_, rfl⟩

section Keystream

variable {tbuff : Tbuff} {offset blocks : Nat}

theorem encshare1Step_inside (tbuff : Tbuff) {offset : Nat} (inside : offset < 63) :
    encshare1StepDepths (tbuff, offset) = [] ∧
      ∃ key, encshare1Step (tbuff, offset) = some (key, tbuff, offset + 1) := by
  have notFull : ¬ offset = 63 := Nat.ne_of_lt inside
  obtain ⟨key, keyEq⟩ := blockByte_inside tbuff inside
  refine ⟨if_neg notFull, key, ?_⟩
  unfold encshare1Step
  simp only [if_neg notFull, Option.bind_eq_bind, Option.bind_some, keyEq]

/-- After 63 of the 64 bytes of a block the next block is drawn. -/
theorem encshare1Step_full (above : KeptAbove tbuff (16 * blocks)) (more : blocks < 4095) :
    (∀ depth ∈ encshare1StepDepths (tbuff, 63), depth.toNat < 16) ∧
      ∃ key next, encshare1Step (tbuff, 63) = some (key, next, 1) ∧
        KeptAbove next (16 * (blocks + 1)) := by
  obtain ⟨next, nextEq, aboveNext, depths⟩ := encshare2_safe above (by omega)
  obtain ⟨key, keyEq⟩ := blockByte_inside next (show 0 < 63 by decide)
  refine ⟨depths, key, next, ?_, aboveNext⟩
  unfold encshare1Step
  simp only [if_true, nextEq, Option.map_some, Option.bind_eq_bind, Option.bind_some, keyEq]

/-- `len` bytes that need no more than 4095 blocks are drawn within the tables. -/
theorem encshare1Loop_safe (len : Nat) (above : KeptAbove tbuff (16 * blocks)) (fits : offset ≤ 63)
    (few : blocks + (len + offset - 1) / 63 ≤ 4095) :
    (∃ drawn, keystream encshare1Step len (tbuff, offset) = some drawn) ∧
      ∀ depth ∈ encshare1LoopDepths len (tbuff, offset), depth.toNat < 16 := by
  induction len generalizing tbuff offset blocks with
  | zero => exact ⟨⟨_, rfl⟩, List.forall_mem_nil _⟩
  | succ len ih =>
      rcases Nat.lt_or_eq_of_le fits with inside | full
      · obtain ⟨none, key, stepEq⟩ := encshare1Step_inside tbuff inside
        obtain ⟨⟨drawn, drawnEq⟩, depths⟩ := ih above inside (by omega)
        simp only [keystream, encshare1LoopDepths, stepEq, none, drawnEq]
        exact ⟨⟨_, rfl⟩, depths⟩
      · subst full
        obtain ⟨shallow, key, next, stepEq, aboveNext⟩ := encshare1Step_full above (by omega)
        obtain ⟨⟨drawn, drawnEq⟩, depths⟩ := ih aboveNext (show 1 ≤ 63 by decide) (by omega)
        simp only [keystream, encshare1LoopDepths, stepEq, drawnEq]
        exact ⟨⟨_, rfl⟩, List.forall_mem_append.mpr ⟨shallow, depths⟩⟩

/-- Bytes that need block 4096 draw the word of the last leaf. -/
theorem encshare1Loop_unsafe (len : Nat) (above : KeptAbove tbuff (16 * blocks))
    (fits : offset ≤ 63) (started : blocks ≤ 4095)
    (many : 4096 ≤ blocks + (len + offset - 1) / 63) :
    ∃ depth ∈ encshare1LoopDepths len (tbuff, offset), 16 < depth.toNat := by
  induction len generalizing tbuff offset blocks with
  | zero => omega
  | succ len ih =>
      simp only [encshare1LoopDepths, List.mem_append]
      rcases Nat.lt_or_eq_of_le fits with inside | full
      · obtain ⟨_, key, stepEq⟩ := encshare1Step_inside tbuff inside
        obtain ⟨depth, member, deep⟩ := ih above inside started (by omega)
        refine ⟨depth, .inr ?_, deep⟩
        rw [stepEq]
        exact member
      · subst full
        rcases Nat.lt_or_eq_of_le started with more | last
        · obtain ⟨_, key, next, stepEq, aboveNext⟩ := encshare1Step_full above more
          obtain ⟨depth, member, deep⟩ := ih aboveNext (show 1 ≤ 63 by decide) more (by omega)
          refine ⟨depth, .inr ?_, deep⟩
          rw [stepEq]
          exact member
        · obtain ⟨depth, member, deep⟩ := encshare2_unsafe above (by omega) (by omega)
          exact ⟨depth, .inl member, deep⟩

end Keystream

/-! ## The whole run -/

theorem encshare4_above (src : List UInt8) (size : Nat) (dest : Tbuff) :
    ∃ next, encshare4 src size dest = some next ∧ KeptAbove next 0 :=
  encshare3_above _

theorem encshare1_safe {tbuff : Tbuff} {datap : List UInt8} {len : Nat}
    (above : KeptAbove tbuff 0) (inside : len ≤ datap.length) (short : len ≤ 257985) :
    (∃ masked, encshare1 tbuff datap len = some masked ∧ masked.length = datap.length) ∧
      ∀ depth ∈ encshare1Depths tbuff len, depth.toNat < 16 := by
  obtain ⟨first, firstEq, aboveFirst, firstDepths⟩ := encshare2_safe above (by decide)
  obtain ⟨⟨drawn, drawnEq⟩, restDepths⟩ :=
    encshare1Loop_safe len (show KeptAbove first (16 * 1) from aboveFirst) (Nat.zero_le 63)
      (by omega)
  constructor
  · refine ⟨xorLeading drawn.1 datap, ?_, xorLeading_length _ _⟩
    unfold encshare1
    rw [firstEq]
    simp only [Option.bind_eq_bind, Option.bind_some, streamXor_eq inside, drawnEq, Option.map_some]
  · rw [encshare1Depths, firstEq]
    exact List.forall_mem_append.mpr ⟨firstDepths, restDepths⟩

theorem encshare1_unsafe {tbuff : Tbuff} {len : Nat} (above : KeptAbove tbuff 0)
    (long : 257985 < len) : ∃ depth ∈ encshare1Depths tbuff len, 16 < depth.toNat := by
  obtain ⟨first, firstEq, aboveFirst, _⟩ := encshare2_safe above (by decide)
  obtain ⟨depth, member, deep⟩ :=
    encshare1Loop_unsafe len (show KeptAbove first (16 * 1) from aboveFirst) (Nat.zero_le 63)
      (by decide) (by omega)
  refine ⟨depth, ?_, deep⟩
  rw [encshare1Depths, firstEq]
  exact List.mem_append_right _ member

/-- The layer enciphers half of the list less 17 bytes. -/
theorem encshareLayer_safe (seed : List UInt8) {data : List UInt8} (short : data.length ≤ 516005) :
    (∃ masked, encshareLayer seed (Vector.replicate 326 0) data data.length = some masked ∧
        masked.length = data.length) ∧
      ∀ depth ∈ encshareLayerDepths seed (Vector.replicate 326 0) data.length,
        depth.toNat < 16 := by
  have half : data.length >>> 1 = data.length / 2 := Nat.shiftRight_eq_div_pow _ 1
  unfold encshareLayer encshareLayerDepths
  by_cases enciphered : 17 ≤ data.length >>> 1
  · obtain ⟨table, tableEq, above⟩ := encshare4_above seed 4 (Vector.replicate 326 0)
    simp only [if_pos enciphered, tableEq, Option.bind_eq_bind, Option.bind_some, Option.elim_some]
    exact encshare1_safe above (by omega) (by omega)
  · simp only [if_neg enciphered]
    exact ⟨⟨data, rfl, rfl⟩, List.forall_mem_nil _⟩

theorem encshareLayer_unsafe (seed : List UInt8) {len : Nat} (long : 516005 < len) :
    ∃ depth ∈ encshareLayerDepths seed (Vector.replicate 326 0) len, 16 < depth.toNat := by
  have half : len >>> 1 = len / 2 := Nat.shiftRight_eq_div_pow _ 1
  obtain ⟨table, tableEq, above⟩ := encshare4_above seed 4 (Vector.replicate 326 0)
  unfold encshareLayerDepths
  rw [if_pos (by omega), tableEq, Option.elim_some]
  exact encshare1_unsafe above (by omega)

/--
The run keeps to its tables: no index of `tbuff` is outside it, since there is a
result, and `t2` counts no more than the sixteen slots where it indexes the stack.
-/
structure StaysInTables (validateKey : CString) (input : List UInt8) (rand : Nat → UInt32)
    (enc1key : Enc1Key) : Prop where
  indices : ∃ output, createEnctype1Buffer validateKey input rand enc1key = some output
  depths : ∀ depth ∈ createEnctype1BufferDepths input rand, depth.toNat ≤ 16

theorem createEnctype1Buffer_returns (validateKey : CString) {input : List UInt8}
    (short : input.length ≤ 516005) (rand : Nat → UInt32) (enc1key : Enc1Key) :
    ∃ output, createEnctype1Buffer validateKey input rand enc1key = some output := by
  obtain ⟨⟨masked, maskedEq, length⟩, -⟩ := encshareLayer_safe (intBytes (rand 0)) short
  obtain ⟨keys, final, scramble⟩ :=
    func2_eq input.length (func3 ((randBytes rand 1 16).map masterKeyAt) 16)
  unfold createEnctype1Buffer
  simp only [maskedEq, Option.bind_eq_bind, Option.bind_some,
    scramble masked (Nat.le_of_eq length.symm)]
  exact ⟨_, rfl⟩

/-- Whatever the seed, the run keeps to its tables for lists up to 516005 bytes and no others. -/
theorem createEnctype1Buffer_staysInTables_iff (validateKey : CString) (input : List UInt8)
    (rand : Nat → UInt32) (enc1key : Enc1Key) :
    StaysInTables validateKey input rand enc1key ↔ input.length ≤ 516005 := by
  constructor
  · intro stays
    by_contra long
    obtain ⟨depth, member, deep⟩ :=
      encshareLayer_unsafe (intBytes (rand 0)) (Nat.lt_of_not_le long)
    exact absurd (stays.depths depth member) (Nat.not_le.mpr deep)
  · intro short
    exact ⟨createEnctype1Buffer_returns validateKey short rand enc1key, fun depth member =>
      Nat.le_of_lt ((encshareLayer_safe (intBytes (rand 0)) short).2 depth member)⟩

/-- The compressed list of 86001 servers, whose addresses go from 10.0.0.0 to 10.1.79.240. -/
def longList : List UInt8 :=
  (List.range 86001).flatMap fun i =>
    [10, (i / 65536).toUInt8, (i / 256).toUInt8, i.toUInt8, 109, 6]

theorem longList_length : longList.length = 516006 := by
  unfold longList
  rw [List.length_flatMap]
  change ((List.range 86001).map fun _ => 6).sum = 516006
  rw [List.map_const', List.length_range, List.sum_replicate]
  rfl

/-- Their list takes one byte too many. -/
theorem createEnctype1Buffer_leavesStack :
    ¬ StaysInTables (ascii "Hku6Fd") longList UInt32.ofNat
      ⟨ByteTable.ofFn id, 0, 0, 0, 0, 0⟩ := by
  intro stays
  have long : 516005 < longList.length := by
    rw [longList_length]
    decide
  obtain ⟨depth, member, deep⟩ := encshareLayer_unsafe (intBytes (UInt32.ofNat 0)) long
  exact absurd (stays.depths depth member) (Nat.not_le.mpr deep)

end GSMaster.Enctype
