import Mathlib.Data.Finset.Card
import Mathlib.Data.Fintype.Card
import Mathlib.Data.Set.Function

/-!
# Pools of slots

A pool is a finite family of slots, each of which is taken or free. A slot
that is taken has a label. Taking a free slot and releasing one move the
number of the taken slots by one, and the labels of the taken slots stay
different as long as no slot is taken for a label that one of them has.
-/

namespace GSMaster.Library

variable {ι β : Type}

/-! ## The number of taken slots -/

section Occupied

variable [Fintype ι]

/-- The number of slots that are taken. -/
def occupied (taken : ι → Bool) : Nat :=
  (Finset.univ.filter fun i => taken i = true).card

theorem occupied_le (taken : ι → Bool) : occupied taken ≤ Fintype.card ι :=
  Finset.card_filter_le _ _

theorem occupied_pos {taken : ι → Bool} {i : ι} (here : taken i = true) : 0 < occupied taken :=
  Finset.card_pos.mpr ⟨i, Finset.mem_filter.mpr ⟨Finset.mem_univ i, here⟩⟩

/-- A pool that is not full has a free slot. -/
theorem occupied_lt_iff {taken : ι → Bool} :
    occupied taken < Fintype.card ι ↔ ∃ i, taken i = false := by
  rw [occupied, Finset.card_lt_iff_ne_univ, Ne, Finset.eq_univ_iff_forall, not_forall]
  simp only [Finset.mem_filter, Finset.mem_univ, true_and, Bool.not_eq_true]

variable [DecidableEq ι]

/-- Taking a free slot adds one. -/
theorem occupied_take {taken : ι → Bool} {i : ι} (free : taken i = false) :
    occupied (Function.update taken i true) = occupied taken + 1 := by
  have slots : (Finset.univ.filter fun j => Function.update taken i true j = true) =
      insert i (Finset.univ.filter fun j => taken j = true) := by
    ext j
    by_cases same : j = i
    · simp [same]
    · simp [same]
  have fresh : i ∉ Finset.univ.filter fun j => taken j = true := by simp [free]
  rw [occupied, slots, Finset.card_insert_of_notMem fresh, occupied]

/-- Releasing a taken slot takes one away. -/
theorem occupied_release {taken : ι → Bool} {i : ι} (here : taken i = true) :
    occupied (Function.update taken i false) + 1 = occupied taken := by
  have again : Function.update (Function.update taken i false) i true = taken := by
    rw [Function.update_idem, ← here, Function.update_eq_self]
  have free : Function.update taken i false i = false := Function.update_self ..
  rw [← occupied_take free, again]

end Occupied

/-! ## Labels -/

/-- No two taken slots have the same label. -/
def LabelsDiffer (taken : ι → Bool) (label : ι → β) : Prop :=
  Set.InjOn label {i | taken i = true}

theorem labelsDiffer_iff {taken : ι → Bool} {label : ι → β} :
    LabelsDiffer taken label ↔
      ∀ i, taken i = true → ∀ j, taken j = true → label i = label j → i = j :=
  ⟨fun differ _ here _ there => differ here there, fun differ _ here _ there =>
    differ _ here _ there⟩

/-- A slot that is taken for a label keeps the labels different iff no taken slot has it. -/
theorem labelsDiffer_take [DecidableEq ι] {taken : ι → Bool} {label : ι → β} {i : ι}
    (free : taken i = false) (differ : LabelsDiffer taken label) (b : β) :
    LabelsDiffer (Function.update taken i true) (Function.update label i b) ↔
      ∀ j, taken j = true → label j ≠ b := by
  have other {j : ι} (here : taken j = true) : j ≠ i := by
    rintro rfl
    rw [free] at here
    cases here
  rw [labelsDiffer_iff] at differ ⊢
  constructor
  · intro after j here same
    refine other here (after j ?_ i (Function.update_self ..) ?_)
    · exact (Function.update_of_ne (other here) ..).trans here
    · rw [Function.update_of_ne (other here), Function.update_self, same]
  · intro unused j here k there same
    by_cases first : j = i
    · by_cases second : k = i
      · rw [first, second]
      · rw [Function.update_of_ne second] at there
        rw [first, Function.update_self, Function.update_of_ne second] at same
        exact absurd same.symm (unused k there)
    · rw [Function.update_of_ne first] at here same
      by_cases second : k = i
      · rw [second, Function.update_self] at same
        exact absurd same (unused j here)
      · rw [Function.update_of_ne second] at there same
        exact differ j here k there same

/-- With fewer slots taken, and the same labels on them, the labels stay different. -/
theorem LabelsDiffer.mono {taken taken' : ι → Bool} {label label' : ι → β}
    (differ : LabelsDiffer taken label)
    (fewer : ∀ i, taken' i = true → taken i = true ∧ label' i = label i) :
    LabelsDiffer taken' label' := by
  rw [labelsDiffer_iff] at differ ⊢
  intro j here k there same
  obtain ⟨first, left⟩ := fewer j here
  obtain ⟨second, right⟩ := fewer k there
  exact differ j first k second (left.symm.trans (same.trans right))

end GSMaster.Library
