import Mathlib

/-!
# Reading a stream in threes

A reader takes three items at a time from a stream, without any mark that says
where a record begins, and stops at the first three that it cannot use. A
record is read as one exactly when what stands before it is a number of whole
records that the reader passes.
-/

namespace GSMaster.Library

universe u

variable {α : Type u}

/-- The items of each round, under the number of items before them; the last round may lack some. -/
def readTriples (passes : α → α → Bool) : Nat → List α → List (Nat × List α)
  | index, a :: b :: c :: rest =>
      (index, [a, b, c]) :: if passes a b then readTriples passes (index + 3) rest else []
  | _, [] => []
  | index, short => [(index, short)]

/-- The reader passes all the whole records of a stream. -/
def TriplesPass (passes : α → α → Bool) : List α → Prop
  | a :: b :: _ :: rest => passes a b = true ∧ TriplesPass passes rest
  | _ => True

/-- The number of a round is that of the first plus a multiple of three, inside the stream. -/
theorem readTriples_index {passes : α → α → Bool} : ∀ {index : Nat} {items : List α} {i : Nat}
    {group : List α}, (i, group) ∈ readTriples passes index items →
      ∃ rounds, i = index + 3 * rounds ∧ i < index + items.length
  | _, [], _, _, member => absurd member List.not_mem_nil
  | index, [a], i, group, member => by
      obtain ⟨rfl, -⟩ := Prod.mk.inj (List.mem_singleton.mp member)
      exact ⟨0, rfl, Nat.lt_succ_self _⟩
  | index, [a, b], i, group, member => by
      obtain ⟨rfl, -⟩ := Prod.mk.inj (List.mem_singleton.mp member)
      exact ⟨0, rfl, Nat.lt_add_of_pos_right (Nat.succ_pos _)⟩
  | index, a :: b :: c :: rest, i, group, member => by
      rw [readTriples] at member
      rcases List.mem_cons.mp member with first | later
      · obtain ⟨rfl, -⟩ := Prod.mk.inj first
        exact ⟨0, rfl, Nat.lt_add_of_pos_right (Nat.succ_pos _)⟩
      · split at later
        · obtain ⟨rounds, same, inside⟩ := readTriples_index later
          simp only [List.length_cons]
          exact ⟨rounds + 1, by omega, by omega⟩
        · cases later

/-- What is read at the first item. -/
theorem readTriples_first {passes : α → α → Bool} {index : Nat} {items group : List α}
    (some : items ≠ []) :
    (index, group) ∈ readTriples passes index items ↔ group = items.take 3 := by
  match items, some with
  | [a], _ => simp [readTriples]
  | [a, b], _ => simp [readTriples]
  | a :: b :: c :: rest, _ =>
      have later : ∀ group, (index, group) ∉ readTriples passes (index + 3) rest := by
        intro group member
        obtain ⟨rounds, same, -⟩ := readTriples_index member
        omega
      rw [readTriples, List.mem_cons]
      split
      · simp [later]
      · simp

/--
A record in a stream is read as one exactly when whole records that the reader
passes stand before it.
-/
theorem mem_readTriples_iff (passes : α → α → Bool) {tail : List α} (some : tail ≠ [])
    (group : List α) : ∀ (index : Nat) (before : List α),
      (index + before.length, group) ∈ readTriples passes index (before ++ tail) ↔
        3 ∣ before.length ∧ TriplesPass passes before ∧ group = tail.take 3
  | index, [] => by
      rw [List.length_nil, Nat.add_zero, List.nil_append, readTriples_first some]
      simp [TriplesPass]
  | index, [a] => by
      refine iff_of_false (fun member => ?_) fun whole =>
        absurd (show 3 ∣ 1 from whole.1) (by decide)
      obtain ⟨rounds, same, -⟩ := readTriples_index member
      rw [List.length_singleton] at same
      omega
  | index, [a, b] => by
      refine iff_of_false (fun member => ?_) fun whole =>
        absurd (show 3 ∣ 2 from whole.1) (by decide)
      obtain ⟨rounds, same, -⟩ := readTriples_index member
      simp only [List.length_cons, List.length_nil] at same
      omega
  | index, a :: b :: c :: before => by
      have ih := mem_readTriples_iff passes some group (index + 3) before
      have length : index + (a :: b :: c :: before).length = index + 3 + before.length := by
        simp only [List.length_cons]
        omega
      have whole : 3 ∣ (a :: b :: c :: before).length ↔ 3 ∣ before.length := by
        simp only [List.length_cons]
        omega
      have apart : index + 3 + before.length ≠ index := by omega
      rw [length, whole, TriplesPass, List.cons_append, List.cons_append, List.cons_append,
        readTriples, List.mem_cons, Prod.mk.injEq, or_iff_right fun first => apart first.1]
      by_cases goes : passes a b = true
      · rw [if_pos goes, ih, goes]
        simp
      · rw [if_neg goes]
        simp [goes]

end GSMaster.Library
