import Mathlib.Algebra.Order.Group.Defs
import Mathlib.Algebra.Order.Sub.Defs
import Mathlib.Data.List.Chain
import Mathlib.Data.List.Induction

/-!
# Periodic timers

A timer is tested now and then. A test that finds the period over sets the
timer to what the clock shows when the work is done, which may be later than
the test. No two tests that find it over are closer than the period, and after
each test the timer is no older than the period.
-/

namespace GSMaster.Library

universe u v

variable {α : Type u} [AddCommGroup α] [LinearOrder α] {ε : Type v} (tested stamped : ε → α)
  (period : α)

/-- The period is over at the time of a test. -/
def Overdue (last now : α) : Prop :=
  period < now - last

instance (last now : α) : Decidable (Overdue period last now) :=
  inferInstanceAs (Decidable (_ < _))

/-- The timer after a test. -/
def timerAfter (last : α) (check : ε) : α :=
  if Overdue period last (tested check) then stamped check else last

/-- The timer after some tests. -/
def timerRun (last : α) (checks : List ε) : α :=
  checks.foldl (timerAfter tested stamped period) last

/-- The tests that find the period over. -/
def fired : α → List ε → List ε
  | _, [] => []
  | last, check :: checks =>
      if Overdue period last (tested check) then check :: fired (stamped check) checks
      else fired last checks

variable {tested stamped period}

theorem timerRun_snoc (last : α) (checks : List ε) (check : ε) :
    timerRun tested stamped period last (checks ++ [check]) =
      timerAfter tested stamped period (timerRun tested stamped period last checks) check :=
  List.foldl_append

theorem fired_snoc (last : α) (checks : List ε) (check : ε) :
    fired tested stamped period last (checks ++ [check]) =
      fired tested stamped period last checks ++
        if Overdue period (timerRun tested stamped period last checks) (tested check) then [check]
        else [] := by
  induction checks generalizing last with
  | nil => rfl
  | cons first rest ih =>
      rw [List.cons_append, fired, fired, timerRun, List.foldl_cons, timerAfter]
      by_cases due : Overdue period last (tested first)
      · rw [if_pos due, if_pos due, if_pos due, ih, List.cons_append]
        rfl
      · rw [if_neg due, if_neg due, if_neg due, ih]
        rfl

/-- The timer shows the time at which it was set last. -/
theorem timerRun_eq (last : α) (checks : List ε) :
    timerRun tested stamped period last checks =
      ((fired tested stamped period last checks).getLast?.map stamped).getD last := by
  induction checks using List.reverseRecOn with
  | nil => rfl
  | append_singleton checks check ih =>
      rw [timerRun_snoc, fired_snoc, timerAfter]
      split
      · rw [List.getLast?_concat]
        rfl
      · rw [List.append_nil, ih]

theorem fired_subset (last : α) (checks : List ε) :
    (fired tested stamped period last checks).Sublist checks := by
  induction checks generalizing last with
  | nil => exact List.Sublist.refl _
  | cons check checks ih =>
      rw [fired]
      split
      · exact (ih _).cons_cons check
      · exact (ih _).cons check

/-- The first test that finds the period over is later than a period after the start. -/
theorem fired_first {last : α} {checks : List ε} {first : ε}
    (head : (fired tested stamped period last checks).head? = some first) :
    period < tested first - last := by
  induction checks with
  | nil => cases head
  | cons check checks ih =>
      rw [fired] at head
      split at head
      · rename_i due
        cases head
        exact due
      · exact ih head

/-- A timer that is set is not over again before its period has passed. -/
theorem fired_spaced (last : α) (checks : List ε) :
    (fired tested stamped period last checks).IsChain
      fun check next => period < tested next - stamped check := by
  induction checks using List.reverseRecOn with
  | nil => exact List.isChain_nil
  | append_singleton checks check ih =>
      rw [fired_snoc]
      split
      · rename_i due
        refine List.isChain_append.mpr ⟨ih, List.isChain_singleton _, ?_⟩
        intro before ends next starts
        obtain rfl : check = next := by simpa using starts
        rw [timerRun_eq, Option.mem_def.mp ends] at due
        exact due
      · rw [List.append_nil]
        exact ih

variable [IsOrderedAddMonoid α]

/-- After a test the timer is no older than the period. -/
theorem timerAfter_recent (positive : 0 ≤ period) {last : α} {check : ε}
    (later : tested check ≤ stamped check) :
    tested check - timerAfter tested stamped period last check ≤ period := by
  unfold timerAfter
  split
  · exact (sub_nonpos.mpr later).trans positive
  · rename_i fresh
    exact not_lt.mp fresh

/-- Tests that are spaced take their periods before the last of them. -/
theorem spaced_periods {check : ε} {checks : List ε} {late : α}
    (spaced : (check :: checks).IsChain fun check next => period < tested next - stamped check)
    (forward : ∀ other ∈ check :: checks, tested other ≤ stamped other)
    (before : ∀ other ∈ check :: checks, tested other ≤ late) :
    checks.length • period ≤ late - tested check := by
  induction checks generalizing check with
  | nil =>
      rw [List.length_nil, zero_nsmul]
      exact sub_nonneg.mpr (before check (List.mem_cons_self ..))
  | cons next checks ih =>
      obtain ⟨apart, rest⟩ := List.isChain_cons_cons.mp spaced
      have later := ih rest (fun other member => forward other (List.mem_cons_of_mem _ member))
        fun other member => before other (List.mem_cons_of_mem _ member)
      have start := forward check (List.mem_cons_self ..)
      calc (next :: checks).length • period
          = checks.length • period + period := by rw [List.length_cons, succ_nsmul]
        _ ≤ (late - tested next) + (tested next - stamped check) := add_le_add later apart.le
        _ = late - stamped check := sub_add_sub_cancel ..
        _ ≤ late - tested check := sub_le_sub_left start late

/-- In any stretch of time only so many tests find the period over. -/
theorem spaced_count {checks : List ε} {early late : α}
    (spaced : checks.IsChain fun check next => period < tested next - stamped check)
    (forward : ∀ check ∈ checks, tested check ≤ stamped check)
    (inside : ∀ check ∈ checks, early ≤ tested check ∧ tested check ≤ late) :
    checks = [] ∨ (checks.length - 1) • period ≤ late - early := by
  cases checks with
  | nil => exact Or.inl rfl
  | cons check checks =>
      right
      have periods := spaced_periods spaced forward fun other member => (inside other member).2
      rw [List.length_cons, Nat.add_sub_cancel]
      exact periods.trans (sub_le_sub_left (inside check (List.mem_cons_self ..)).1 late)

end GSMaster.Library
