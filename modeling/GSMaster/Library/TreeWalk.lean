import Mathlib

/-!
# A complete binary tree walked with a stack

The root is node 1 and the children of `node` are `2 * node` and `2 * node + 1`,
so level `l` is numbered from `2 ^ l` on. A walk goes left and pushes the node
it leaves; after a leaf it pops the node pushed last and goes to the right child
of that one. It comes to the leaves from left to right, each of them once, and
the stack is empty at the last leaf only.
-/

namespace GSMaster.Library

/-- A node on `level`; the stack holds the `depth` ancestors that have it in the left subtree. -/
inductive Stacked (stack : Nat → Nat) : Nat → Nat → Nat → Prop where
  | root : Stacked stack 0 0 1
  | left {level depth node : Nat} (above : Stacked stack level depth node)
      (pushed : stack depth = node) : Stacked stack (level + 1) (depth + 1) (2 * node)
  | right {level depth node : Nat} (above : Stacked stack level depth node) :
      Stacked stack (level + 1) depth (2 * node + 1)

namespace Stacked

variable {stack other : Nat → Nat} {level depth node : Nat}

theorem depth_le (stacked : Stacked stack level depth node) : depth ≤ level := by
  induction stacked with
  | root => exact Nat.le_refl 0
  | left above pushed ih => exact Nat.succ_le_succ ih
  | right above ih => exact Nat.le_succ_of_le ih

theorem level_lower (stacked : Stacked stack level depth node) : 2 ^ level ≤ node := by
  induction stacked with
  | root => exact Nat.le_refl 1
  | left above pushed ih =>
      rw [pow_succ]
      omega
  | right above ih =>
      rw [pow_succ]
      omega

theorem level_upper (stacked : Stacked stack level depth node) : node < 2 ^ (level + 1) := by
  induction stacked with
  | root => exact Nat.one_lt_two
  | left above pushed ih =>
      rw [pow_succ]
      omega
  | right above ih =>
      rw [pow_succ]
      omega

/-- Only the slots below `depth` matter. -/
theorem congr (stacked : Stacked stack level depth node)
    (same : ∀ i < depth, other i = stack i) : Stacked other level depth node := by
  induction stacked with
  | root => exact .root
  | left above pushed ih =>
      apply Stacked.left
      · exact ih fun i below => same i (Nat.lt_succ_of_lt below)
      · rw [same _ (Nat.lt_succ_self _), pushed]
  | right above ih => exact .right (ih same)

/-- A node with an empty stack is the last of its level. -/
theorem last (stacked : Stacked stack level 0 node) : node + 1 = 2 ^ (level + 1) := by
  generalize depthEq : 0 = depth at stacked
  induction stacked with
  | root => rfl
  | left above pushed ih => cases depthEq
  | right above ih =>
      have previous := ih depthEq
      rw [pow_succ, ← previous]
      ring

/-- The node pushed last, and how far up it is: the walk goes right below it. -/
theorem pushed (stacked : Stacked stack level (depth + 1) node) :
    ∃ upper climb, level = upper + climb + 1 ∧ Stacked stack upper depth (stack depth) ∧
      node + 1 = (2 * stack depth + 1) * 2 ^ climb := by
  generalize depthEq : depth + 1 = full at stacked
  induction stacked with
  | root => cases depthEq
  | left above pushed ih =>
      cases depthEq
      refine ⟨_, 0, rfl, ?_, ?_⟩
      · rw [pushed]
        exact above
      · rw [pushed, pow_zero, Nat.mul_one]
  | right above ih =>
      obtain ⟨upper, climb, levelEq, stackedAbove, nodeEq⟩ := ih depthEq
      refine ⟨upper, climb + 1, by omega, stackedAbove, ?_⟩
      rw [pow_succ, ← Nat.mul_assoc, ← nodeEq]
      ring

end Stacked

/-! ## The leaf that the walk comes to next -/

/-- The walk in a tree of `height` levels below the root stands above leaf `leaf` or on it. -/
structure LeafAhead (height : Nat) (stack : Nat → Nat) (depth node leaf level : Nat) : Prop where
  stacked : Stacked stack level depth node
  inside : level ≤ height
  leftmost : node * 2 ^ (height - level) = 2 ^ height + leaf

namespace LeafAhead

variable {height depth node leaf level : Nat} {stack other : Nat → Nat}

theorem start : LeafAhead height stack 0 1 0 0 where
  stacked := .root
  inside := Nat.zero_le height
  leftmost := by rw [Nat.one_mul, Nat.sub_zero, Nat.add_zero]

theorem congr (ahead : LeafAhead height stack depth node leaf level)
    (same : ∀ i < depth, other i = stack i) : LeafAhead height other depth node leaf level where
  stacked := ahead.stacked.congr same
  inside := ahead.inside
  leftmost := ahead.leftmost

/-- A node that is not a leaf lies above the last level. -/
theorem level_lt (ahead : LeafAhead height stack depth node leaf level)
    (inner : node < 2 ^ height) : level < height := by
  have lower := ahead.stacked.level_lower
  exact (Nat.pow_lt_pow_iff_right Nat.one_lt_two).mp (Nat.lt_of_le_of_lt lower inner)

/-- A node above the last level is not a leaf. -/
theorem inner (ahead : LeafAhead height stack depth node leaf level) (above : level < height) :
    node < 2 ^ height := by
  have upper := ahead.stacked.level_upper
  have width : 2 ^ (level + 1) ≤ 2 ^ height := Nat.pow_le_pow_right Nat.two_pos above
  exact Nat.lt_of_lt_of_le upper width

theorem depth_lt (ahead : LeafAhead height stack depth node leaf level)
    (inner : node < 2 ^ height) : depth < height :=
  Nat.lt_of_le_of_lt ahead.stacked.depth_le (ahead.level_lt inner)

/-- Pushing a node that is not a leaf and going left leads to the same leaf. -/
theorem push (ahead : LeafAhead height stack depth node leaf level) (inner : node < 2 ^ height) :
    LeafAhead height (Function.update stack depth node) (depth + 1) (2 * node) leaf
      (level + 1) where
  stacked := by
    apply Stacked.left
    · exact ahead.stacked.congr fun i below => Function.update_of_ne (Nat.ne_of_lt below) _ _
    · exact Function.update_self depth node stack
  inside := ahead.level_lt inner
  leftmost := by
    have deeper : height - level = height - (level + 1) + 1 := by
      have above := ahead.level_lt inner
      omega
    rw [← ahead.leftmost, deeper, pow_succ]
    ring

/-- Where the descent ends. -/
theorem leaf_eq (ahead : LeafAhead height stack depth node leaf level) (outer : 2 ^ height ≤ node) :
    level = height ∧ node = 2 ^ height + leaf := by
  have upper := ahead.stacked.level_upper
  have last : height < level + 1 :=
    (Nat.pow_lt_pow_iff_right Nat.one_lt_two).mp (Nat.lt_of_le_of_lt outer upper)
  have levelEq : level = height := Nat.le_antisymm ahead.inside (Nat.le_of_lt_succ last)
  have leftmost := ahead.leftmost
  rw [levelEq, Nat.sub_self, pow_zero, Nat.mul_one] at leftmost
  exact ⟨levelEq, leftmost⟩

/-- At the last leaf the stack is empty. -/
theorem last (ahead : LeafAhead height stack 0 node leaf level) (outer : 2 ^ height ≤ node) :
    leaf + 1 = 2 ^ height := by
  obtain ⟨levelEq, nodeEq⟩ := ahead.leaf_eq outer
  have lastNode := ahead.stacked.last
  rw [levelEq, nodeEq, pow_succ] at lastNode
  omega

/-- At any other leaf a pop leads to the right child of the node pushed last. -/
theorem pop (ahead : LeafAhead height stack (depth + 1) node leaf level)
    (outer : 2 ^ height ≤ node) :
    leaf + 1 < 2 ^ height ∧
      ∃ upper, LeafAhead height stack depth (2 * stack depth + 1) (leaf + 1) upper := by
  obtain ⟨levelEq, nodeEq⟩ := ahead.leaf_eq outer
  obtain ⟨upper, climb, levelSum, stacked, next⟩ := ahead.stacked.pushed
  have bound := stacked.level_upper
  have heightEq : height = upper + 1 + climb := by omega
  refine ⟨?_, upper + 1, ?_, ?_, ?_⟩
  · have below : (2 * stack depth + 1) * 2 ^ climb < 2 ^ (upper + 2) * 2 ^ climb := by
      apply Nat.mul_lt_mul_of_pos_right
      · rw [pow_succ]
        omega
      · exact Nat.two_pow_pos climb
    have whole : 2 ^ (upper + 2) * 2 ^ climb = 2 * 2 ^ height := by
      rw [heightEq]
      ring
    omega
  · exact .right stacked
  · omega
  · have rest : height - (upper + 1) = climb := by omega
    rw [rest, ← next, nodeEq]
    ring

end LeafAhead

end GSMaster.Library
