import GSMaster.Enctype.Enctype1
import GSMaster.Library.TreeWalk

/-!
# The stack of the keystream generator

`encshare2` walks a binary tree of seeds with sixteen levels below its root, and
`t2` counts the seeds on the stack. Each word of the keystream is a leaf, so a
seed yields 65536 words, which are 4096 blocks. The generator does not stop
after the last of them: it takes a seed from the empty stack.
-/

namespace GSMaster.Enctype

open GSMaster.Text GSMaster.Library

/-! ## The values of `t2` that index the stack -/

section Room

variable {regs : Registers} (room : regs.t2.toNat + 288 < 326)

include room

theorem first_inside : regs.t2.toNat + 256 < 326 := by
  omega

theorem second_inside : regs.t2.toNat + 272 < 326 := by
  omega

end Room

/-- The body of the inner loop of `encshare2`. -/
def encshare2Push (tbuff : Tbuff) (regs : Registers) (room : regs.t2.toNat + 288 < 326) :
    Tbuff × Registers :=
  let depth := regs.t2.toNat
  let t1 := regs.t1 + regs.t5
  let t3 := regs.t3 + t1
  let t1 := t1 + t3
  let tbuff := tbuff.set (depth + 256) t1 (first_inside room)
  let tbuff := tbuff.set (depth + 272) t3 (second_inside room)
  let t4 := turnRight t3
  let tbuff := tbuff.set (depth + 288) regs.t5 room
  let t5 := regs.t5 <<< 1
  let t2 := regs.t2 + 1
  let t1 := t1 ^^^ Tbuff.word tbuff t1
  let t4 := t4 ^^^ Tbuff.word tbuff t4
  let t3 := turnRight t4
  let t4 := turnLeft t1
  let t4 := t4 ^^^ Tbuff.word tbuff t4
  let t3 := t3 ^^^ Tbuff.word tbuff t3
  let t1 := turnLeft t4
  (tbuff, ⟨t1, t2, t3, t5⟩)

theorem encshare2Descend_eq (tbuff : Tbuff) (regs : Registers) :
    encshare2Descend tbuff regs =
      if regs.t5 < 65536 then
        if room : regs.t2.toNat + 288 < 326 then
          encshare2Descend (encshare2Push tbuff regs room).1 (encshare2Push tbuff regs room).2
        else none
      else some (tbuff, regs) := by
  rw [encshare2Descend]
  rfl

/-- What the outer loop of `encshare2` does after it has stored a word. -/
def encshare2Pop (tbuff : Tbuff) (regs : Registers) : Option Registers := do
  let t2 := regs.t2 - 1
  let t1 ← tbuff.load (t2 + 256).toNat
  let t5 ← tbuff.load (t2 + 272).toNat
  let t1 := ~~~t1
  let t3 := turnRight t1
  let t3 := t3 ^^^ tbuff.word t3
  let t5 := t5 ^^^ tbuff.word t5
  let t1 := turnRight t3
  let t4 := turnLeft t5
  let t1 := t1 ^^^ tbuff.word t1
  let t4 := t4 ^^^ tbuff.word t4
  let t3 := turnLeft t4
  let seed ← tbuff.load (t2 + 288).toNat
  let t5 := (seed <<< 1) + 1
  some ⟨t1, t2, t3, t5⟩

theorem encshare2Words_succ (words target : Nat) (tbuff : Tbuff) (regs : Registers) :
    encshare2Words (words + 1) target tbuff regs =
      (encshare2Descend tbuff regs).bind fun leaf =>
        (leaf.1.store target (leaf.2.t3 ^^^ leaf.2.t1)).bind fun stored =>
          (encshare2Pop stored leaf.2).bind fun regs =>
            encshare2Words words (target + 1) stored regs := by
  simp only [encshare2Words, encshare2Pop, Option.bind_eq_bind, Option.bind_assoc,
    Option.bind_some]

/-- `t2` at each push of the inner loop. -/
def encshare2DescendDepths (tbuff : Tbuff) (regs : Registers) : List UInt32 :=
  if regs.t5 < 65536 then
    regs.t2 ::
      if room : regs.t2.toNat + 288 < 326 then
        encshare2DescendDepths (encshare2Push tbuff regs room).1 (encshare2Push tbuff regs room).2
      else []
  else []
termination_by 326 - regs.t2.toNat
decreasing_by
  have deeper := depth_succ room
  change 326 - (regs.t2 + 1).toNat < _
  omega

/-- `t2` at each push and each pop of the outer loop, as far as it runs. -/
def encshare2WordsDepths : Nat → Nat → Tbuff → Registers → List UInt32
  | 0, _, _, _ => []
  | words + 1, target, tbuff, regs =>
      encshare2DescendDepths tbuff regs ++
        (encshare2Descend tbuff regs).elim [] fun leaf =>
          (leaf.1.store target (leaf.2.t3 ^^^ leaf.2.t1)).elim [] fun stored =>
            (leaf.2.t2 - 1) ::
              (encshare2Pop stored leaf.2).elim [] fun regs =>
                encshare2WordsDepths words (target + 1) stored regs

/-- `tbuff[i]`, where `i` is below 326. -/
def Tbuff.wordAt (tbuff : Tbuff) (i : Nat) : UInt32 :=
  (tbuff.load i).getD 0

/-- The registers that `encshare2` starts with. -/
def Tbuff.registers (tbuff : Tbuff) : Registers :=
  ⟨tbuff.wordAt 305, tbuff.wordAt 304, tbuff.wordAt 306, tbuff.wordAt 307⟩

def encshare2Depths (tbuff : Tbuff) (tbuffp len : Nat) : List UInt32 :=
  encshare2WordsDepths len tbuffp tbuff tbuff.registers

/-! ## The seeds on the stack -/

section Access

variable {tbuff : Tbuff} {i j : Nat} {value : UInt32}

theorem load_wordAt (inside : i < 326) : tbuff.load i = some (tbuff.wordAt i) := by
  unfold Tbuff.wordAt Tbuff.load
  rw [Vector.getElem?_eq_getElem inside]
  rfl

theorem wordAt_set_self (inside : i < 326) : Tbuff.wordAt (tbuff.set i value inside) i = value := by
  unfold Tbuff.wordAt Tbuff.load
  rw [Vector.getElem?_set_self inside]
  rfl

theorem wordAt_set_ne (inside : i < 326) (other : i ≠ j) :
    Tbuff.wordAt (tbuff.set i value inside) j = tbuff.wordAt j := by
  unfold Tbuff.wordAt Tbuff.load
  rw [Vector.getElem?_set_ne inside other]

end Access

/-- The third array of the stack. -/
def seeds (tbuff : Tbuff) (i : Nat) : Nat :=
  (tbuff.wordAt (i + 288)).toNat

theorem seeds_set_ne {tbuff : Tbuff} {i : Nat} {value : UInt32} (inside : i < 326) {j : Nat}
    (other : j + 288 ≠ i) : seeds (tbuff.set i value inside) j = seeds tbuff j := by
  unfold seeds
  rw [wordAt_set_ne inside (Ne.symm other)]

theorem seeds_set {tbuff : Tbuff} {i : Nat} {value : UInt32} (inside : i + 288 < 326) :
    seeds (tbuff.set (i + 288) value inside) = Function.update (seeds tbuff) i value.toNat := by
  funext j
  by_cases same : j = i
  · rw [same, Function.update_self, seeds, wordAt_set_self]
  · rw [Function.update_of_ne same, seeds_set_ne inside (by omega)]

/-- The three stores of a push change the slot at `depth`. -/
theorem seeds_push {tbuff : Tbuff} {depth : Nat} {first second seed : UInt32}
    (shallow : depth < 16) :
    seeds (((tbuff.set (depth + 256) first).set (depth + 272) second).set (depth + 288) seed) =
      Function.update (seeds tbuff) depth seed.toNat := by
  have below : seeds ((tbuff.set (depth + 256) first).set (depth + 272) second) = seeds tbuff := by
    funext j
    rw [seeds_set_ne _ (by omega), seeds_set_ne _ (by omega)]
  rw [seeds_set, below]

/-- The words outside the stack may change. -/
theorem seeds_store (tbuff : Tbuff) {target : Nat} (value : UInt32) (outside : 304 ≤ target)
    (inside : target < 326) :
    ∃ stored, tbuff.store target value = some stored ∧
      ∀ i < 16, seeds stored i = seeds tbuff i := by
  refine ⟨tbuff.set target value inside, dif_pos inside, fun i below => ?_⟩
  exact seeds_set_ne inside (by omega)

section Descent

variable {tbuff : Tbuff} {regs : Registers}

/-- A push stores the seed and goes on with its left child. -/
theorem encshare2Push_seeds (shallow : regs.t2.toNat < 16) (room : regs.t2.toNat + 288 < 326) :
    seeds (encshare2Push tbuff regs room).1 =
      Function.update (seeds tbuff) regs.t2.toNat regs.t5.toNat :=
  seeds_push shallow

theorem encshare2Push_t2 (tbuff : Tbuff) (room : regs.t2.toNat + 288 < 326) :
    (encshare2Push tbuff regs room).2.t2.toNat = regs.t2.toNat + 1 :=
  depth_succ room

theorem twice {seed : UInt32} (small : seed.toNat < 2 ^ 17) :
    (seed <<< 1).toNat = 2 * seed.toNat := by
  rw [UInt32.toNat_shiftLeft, Nat.shiftLeft_eq]
  change seed.toNat * 2 ^ 1 % 2 ^ 32 = _
  omega

theorem encshare2Push_t5 (inner : regs.t5.toNat < 2 ^ 16) (room : regs.t2.toNat + 288 < 326) :
    (encshare2Push tbuff regs room).2.t5.toNat = 2 * regs.t5.toNat :=
  twice (Nat.lt_trans inner (by decide))

/-- The descent from above a leaf ends on it, and pushes into the sixteen slots. -/
theorem encshare2Descend_leaf {level gap leaf : Nat} (levelEq : level + gap = 16)
    (ahead : LeafAhead 16 (seeds tbuff) regs.t2.toNat regs.t5.toNat leaf level) :
    ∃ tbuff' regs', encshare2Descend tbuff regs = some (tbuff', regs') ∧
      LeafAhead 16 (seeds tbuff') regs'.t2.toNat regs'.t5.toNat leaf 16 ∧
      2 ^ 16 ≤ regs'.t5.toNat ∧
      ∀ depth ∈ encshare2DescendDepths tbuff regs, depth.toNat < 16 := by
  induction gap generalizing tbuff regs level with
  | zero =>
      rw [Nat.add_zero] at levelEq
      subst levelEq
      have outer : 2 ^ 16 ≤ regs.t5.toNat :=
        Nat.le_of_not_lt fun inner => Nat.lt_irrefl 16 (ahead.level_lt inner)
      have atLeaf : ¬ regs.t5 < 65536 := fun inner =>
        Nat.not_lt.mpr outer (UInt32.lt_iff_toNat_lt.mp inner)
      refine ⟨tbuff, regs, ?_, ahead, outer, ?_⟩
      · rw [encshare2Descend_eq, if_neg atLeaf]
      · rw [encshare2DescendDepths, if_neg atLeaf]
        exact List.forall_mem_nil _
  | succ gap ih =>
      have innerNat := ahead.inner (by omega)
      have inner : regs.t5 < 65536 := UInt32.lt_iff_toNat_lt.mpr innerNat
      have shallow := ahead.depth_lt innerNat
      have room : regs.t2.toNat + 288 < 326 := by omega
      have pushed := ahead.push innerNat
      rw [← encshare2Push_seeds shallow room, ← encshare2Push_t2 tbuff room,
        ← encshare2Push_t5 innerNat room] at pushed
      obtain ⟨tbuff', regs', descended, atLeaf, outer, depths⟩ := ih (by omega) pushed
      refine ⟨tbuff', regs', ?_, atLeaf, outer, ?_⟩
      · rw [encshare2Descend_eq, if_pos inner, dif_pos room, descended]
      · rw [encshare2DescendDepths, if_pos inner, dif_pos room]
        exact List.forall_mem_cons.mpr ⟨shallow, depths⟩

end Descent

/-- The index of a slot in the array that starts at `array`. -/
theorem slot_toNat {counter array : UInt32} {depth : Nat} (counterEq : counter.toNat = depth)
    (shallow : depth < 16) (low : array.toNat ≤ 288) :
    (counter + array).toNat = depth + array.toNat := by
  rw [UInt32.toNat_add, counterEq]
  omega

/-- Off the empty stack a pop takes the last seed and goes on with its right child. -/
theorem encshare2Pop_pushed {tbuff : Tbuff} {regs : Registers} {depth : Nat}
    (pushed : regs.t2.toNat = depth + 1) (shallow : depth < 16)
    (small : seeds tbuff depth < 2 ^ 17) :
    (regs.t2 - 1).toNat = depth ∧
      ∃ regs', encshare2Pop tbuff regs = some regs' ∧ regs'.t2.toNat = depth ∧
        regs'.t5.toNat = 2 * seeds tbuff depth + 1 := by
  have positive : (1 : UInt32) ≤ regs.t2 := by
    rw [UInt32.le_iff_toNat_le, pushed]
    exact Nat.le_add_left 1 depth
  have below : (regs.t2 - 1).toNat = depth := by
    rw [UInt32.toNat_sub_of_le _ _ positive, pushed]
    rfl
  have slot (array : UInt32) (low : array.toNat ≤ 288) := slot_toNat below shallow low
  refine ⟨below, ?_⟩
  unfold encshare2Pop
  simp only [slot 256 (by decide), slot 272 (by decide), slot 288 (by decide)]
  have inside (array : UInt32) (low : array.toNat ≤ 288) : depth + array.toNat < 326 := by omega
  rw [load_wordAt (inside 256 (by decide)), load_wordAt (inside 272 (by decide)),
    load_wordAt (inside 288 (by decide))]
  refine ⟨_, rfl, below, ?_⟩
  change ((tbuff.wordAt (depth + 288) <<< 1) + 1).toNat = _
  rw [UInt32.toNat_add, twice small]
  change (2 * seeds tbuff depth + 1) % 2 ^ 32 = _
  omega

/-- On the empty stack `t2` wraps. -/
theorem t2_wraps {t2 : UInt32} (empty : t2.toNat = 0) : 16 < (t2 - 1).toNat := by
  rw [UInt32.toNat_inj.mp (show t2.toNat = (0 : UInt32).toNat from empty)]
  decide

/-! ## Words and blocks -/

/-- In the walk above leaf `leaf`, with the node in `t5`. -/
def Above (tbuff : Tbuff) (t2 t5 : UInt32) (leaf : Nat) : Prop :=
  ∃ level, LeafAhead 16 (seeds tbuff) t2.toNat t5.toNat leaf level

theorem Above.congr {tbuff other : Tbuff} {t2 t5 : UInt32} {leaf : Nat}
    (above : Above tbuff t2 t5 leaf) (same : ∀ i < 16, seeds other i = seeds tbuff i) :
    Above other t2 t5 leaf := by
  obtain ⟨level, ahead⟩ := above
  have shallow := Nat.le_trans ahead.stacked.depth_le ahead.inside
  exact ⟨level, ahead.congr fun i below => same i (Nat.lt_of_lt_of_le below shallow)⟩

/-- One word: the descent to the leaf, the store, and the pop, where the last leaf leaves none. -/
theorem encshare2Word_above {tbuff : Tbuff} {regs : Registers} {leaf target : Nat}
    (above : Above tbuff regs.t2 regs.t5 leaf) (outside : 304 ≤ target) (inside : target < 326) :
    ∃ descended stored, encshare2Descend tbuff regs = some descended ∧
      descended.1.store target (descended.2.t3 ^^^ descended.2.t1) = some stored ∧
      (∀ depth ∈ encshare2DescendDepths tbuff regs, depth.toNat < 16) ∧
      (leaf + 1 < 2 ^ 16 ∧ (descended.2.t2 - 1).toNat < 16 ∧
          (∃ regs', encshare2Pop stored descended.2 = some regs' ∧
            Above stored regs'.t2 regs'.t5 (leaf + 1)) ∨
        leaf + 1 = 2 ^ 16 ∧ 16 < (descended.2.t2 - 1).toNat) := by
  obtain ⟨level, ahead⟩ := above
  obtain ⟨tbuff', regs', descended, atLeaf, outer, depths⟩ :=
    encshare2Descend_leaf (Nat.add_sub_of_le ahead.inside) ahead
  obtain ⟨stored, storedEq, same⟩ :=
    seeds_store tbuff' (regs'.t3 ^^^ regs'.t1) outside inside
  refine ⟨(tbuff', regs'), stored, descended, storedEq, depths, ?_⟩
  cases full : regs'.t2.toNat with
  | zero =>
      rw [full] at atLeaf
      exact .inr ⟨atLeaf.last outer, t2_wraps full⟩
  | succ depth =>
      rw [full] at atLeaf
      have shallow : depth < 16 := atLeaf.stacked.depth_le
      obtain ⟨more, upper, next⟩ := atLeaf.pop outer
      have small : seeds stored depth < 2 ^ 17 := by
        have upperBound := next.stacked.level_upper
        have inTree := Nat.pow_le_pow_right Nat.two_pos (Nat.succ_le_succ next.inside)
        rw [same depth shallow]
        omega
      obtain ⟨below, popped, popEq, t2Eq, t5Eq⟩ := encshare2Pop_pushed full shallow small
      have aboveNext : Above tbuff' popped.t2 popped.t5 (leaf + 1) := by
        refine ⟨upper, ?_⟩
        rw [t2Eq, t5Eq, same depth shallow]
        exact next
      exact .inl ⟨more, below.trans_lt shallow, popped, popEq, aboveNext.congr same⟩

section Words

variable {tbuff : Tbuff} {regs : Registers} {words target leaf : Nat}

/-- Before the last leaf, words are drawn within the stack. -/
theorem encshare2Words_safe (above : Above tbuff regs.t2 regs.t5 leaf)
    (more : leaf + words < 2 ^ 16) (outside : 304 ≤ target) (inside : target + words ≤ 326) :
    ∃ done, encshare2Words words target tbuff regs = some done ∧
      Above done.1 done.2.t2 done.2.t5 (leaf + words) ∧
      ∀ depth ∈ encshare2WordsDepths words target tbuff regs, depth.toNat < 16 := by
  induction words generalizing tbuff regs target leaf with
  | zero => exact ⟨(tbuff, regs), rfl, above, List.forall_mem_nil _⟩
  | succ words ih =>
      obtain ⟨descended, stored, descendedEq, storedEq, depths, next⟩ :=
        encshare2Word_above above outside (by omega)
      rcases next with ⟨_, shallow, popped, popEq, above'⟩ | ⟨last, _⟩
      · obtain ⟨done, doneEq, aboveDone, rest⟩ :=
          ih above' (by omega) (Nat.le_succ_of_le outside) (by omega)
        refine ⟨done, ?_, ?_, ?_⟩
        · rw [encshare2Words_succ, descendedEq, Option.bind_some, storedEq, Option.bind_some,
            popEq, Option.bind_some, doneEq]
        · rwa [Nat.add_right_comm] at aboveDone
        · simp only [encshare2WordsDepths, descendedEq, storedEq, popEq, Option.elim_some]
          exact List.forall_mem_append.mpr ⟨depths, List.forall_mem_cons.mpr ⟨shallow, rest⟩⟩
      · omega

/-- Drawing the last leaf's word takes a seed off the empty stack. -/
theorem encshare2Words_unsafe (above : Above tbuff regs.t2 regs.t5 leaf) (started : leaf < 2 ^ 16)
    (last : 2 ^ 16 ≤ leaf + words) (outside : 304 ≤ target) (inside : target + words ≤ 326) :
    ∃ depth ∈ encshare2WordsDepths words target tbuff regs, 16 < depth.toNat := by
  induction words generalizing tbuff regs target leaf with
  | zero => omega
  | succ words ih =>
      obtain ⟨descended, stored, descendedEq, storedEq, _, next⟩ :=
        encshare2Word_above above outside (by omega)
      simp only [encshare2WordsDepths, descendedEq, storedEq, Option.elim_some, List.mem_append,
        List.mem_cons]
      rcases next with ⟨more, _, popped, popEq, above'⟩ | ⟨_, underflow⟩
      · obtain ⟨depth, member, deep⟩ :=
          ih above' more (by omega) (Nat.le_succ_of_le outside) (by omega)
        refine ⟨depth, .inr (.inr ?_), deep⟩
        rw [popEq]
        exact member
      · exact ⟨descended.2.t2 - 1, .inr (.inl rfl), underflow⟩

end Words

/-- The registers between two calls of `encshare2` stand above leaf `leaf`. -/
def KeptAbove (tbuff : Tbuff) (leaf : Nat) : Prop :=
  Above tbuff (tbuff.wordAt 304) (tbuff.wordAt 307) leaf

/-- The end of `encshare2`, which keeps the registers for the next call. -/
def keepRegisters (tbuff : Tbuff) (regs : Registers) : Option Tbuff := do
  let tbuff ← tbuff.store 304 regs.t2
  let tbuff ← tbuff.store 305 regs.t1
  let tbuff ← tbuff.store 306 regs.t3
  tbuff.store 307 regs.t5

theorem encshare2_eq (tbuff : Tbuff) (tbuffp len : Nat) :
    encshare2 tbuff tbuffp len =
      (encshare2Words len tbuffp tbuff tbuff.registers).bind fun done =>
        keepRegisters done.1 done.2 := by
  unfold encshare2
  rw [load_wordAt (by decide), load_wordAt (by decide), load_wordAt (by decide),
    load_wordAt (by decide)]
  rfl

theorem keepRegisters_above {tbuff : Tbuff} {regs : Registers} {leaf : Nat}
    (above : Above tbuff regs.t2 regs.t5 leaf) :
    ∃ next, keepRegisters tbuff regs = some next ∧ KeptAbove next leaf := by
  refine ⟨(((tbuff.set 304 regs.t2).set 305 regs.t1).set 306 regs.t3).set 307 regs.t5, rfl, ?_⟩
  unfold KeptAbove
  rw [wordAt_set_self, wordAt_set_ne _ (by decide), wordAt_set_ne _ (by decide),
    wordAt_set_ne _ (by decide), wordAt_set_self]
  apply above.congr
  intro i below
  rw [seeds_set_ne _ (by omega), seeds_set_ne _ (by omega), seeds_set_ne _ (by omega),
    seeds_set_ne _ (by omega)]

section Blocks

variable {tbuff : Tbuff} {leaf : Nat}

theorem encshare2_safe (above : KeptAbove tbuff leaf) (more : leaf + 16 < 2 ^ 16) :
    ∃ next, encshare2 tbuff 309 16 = some next ∧ KeptAbove next (leaf + 16) ∧
      ∀ depth ∈ encshare2Depths tbuff 309 16, depth.toNat < 16 := by
  obtain ⟨done, doneEq, aboveDone, depths⟩ :=
    encshare2Words_safe (show Above tbuff tbuff.registers.t2 tbuff.registers.t5 leaf from above)
      more (show 304 ≤ 309 by decide) (by decide)
  obtain ⟨next, nextEq, aboveNext⟩ := keepRegisters_above aboveDone
  refine ⟨next, ?_, aboveNext, depths⟩
  rw [encshare2_eq, doneEq, Option.bind_some, nextEq]

theorem encshare2_unsafe (above : KeptAbove tbuff leaf) (started : leaf < 2 ^ 16)
    (last : 2 ^ 16 ≤ leaf + 16) :
    ∃ depth ∈ encshare2Depths tbuff 309 16, 16 < depth.toNat :=
  encshare2Words_unsafe above started last (by decide) (by decide)

end Blocks

end GSMaster.Enctype
