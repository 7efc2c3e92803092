import Mathlib.Data.List.Basic

/-!
# Waiting lines

A line is a list whose newest item is its head. A round may serve the oldest
item of the line, and then others may join it. Items are served in the order in
which they have joined, and one that is not the oldest has to wait for as many
rounds that serve as there are items before it.
-/

namespace GSMaster.Library

universe u v

variable {α : Type u} {ρ : Type v} (before after : ρ → List α) (served : ρ → Option α)

/-- The oldest item may be served, and others may join at the head. -/
def FairRound (round : ρ) : Prop :=
  ∃ rest, before round = rest ++ (served round).toList ∧ rest <:+ after round

/-- Some rounds one after the other, from one line to another. -/
def LineRun : List α → List ρ → List α → Prop
  | line, [], last => line = last
  | line, round :: rounds, last =>
      line = before round ∧ FairRound before after served round ∧
        LineRun (after round) rounds last

variable {before after served}

theorem LineRun.snoc {line : List α} {rounds : List ρ} {round : ρ}
    (run : LineRun before after served line rounds (before round))
    (fair : FairRound before after served round) :
    LineRun before after served line (rounds ++ [round]) (after round) := by
  induction rounds generalizing line with
  | nil => exact ⟨run, fair, rfl⟩
  | cons first rounds ih =>
      obtain ⟨same, fairly, rest⟩ := run
      exact ⟨same, fairly, ih rest⟩

theorem filterMap_cons_toList (round : ρ) (rounds : List ρ) :
    (round :: rounds).filterMap served = (served round).toList ++ rounds.filterMap served := by
  cases item : served round with
  | none => exact List.filterMap_cons_none item
  | some item' => exact List.filterMap_cons_some item

/--
Nothing is lost or overtaken: what waits at the start is at the front of what is
served and what then waits.
-/
theorem LineRun.in_order {line last : List α} {rounds : List ρ}
    (run : LineRun before after served line rounds last) :
    line.reverse <+: rounds.filterMap served ++ last.reverse := by
  induction rounds generalizing line with
  | nil =>
      obtain rfl : line = last := run
      exact List.prefix_rfl
  | cons round rounds ih =>
      obtain ⟨rfl, ⟨rest, split, kept⟩, run⟩ := run
      have waits : rest.reverse <+: rounds.filterMap served ++ last.reverse :=
        (List.reverse_prefix.mpr kept).trans (ih run)
      have single : (served round).toList.reverse = (served round).toList := by
        cases served round <;> rfl
      rw [split, List.reverse_append, single, filterMap_cons_toList, List.append_assoc]
      exact (List.prefix_append_right_inj _).mpr waits

/--
Where each round of some kind serves an item if one waits, the oldest items are
all served when there have been as many rounds of that kind.
-/
theorem LineRun.in_time {willing : ρ → Prop} [DecidablePred willing] {line last : List α}
    {rounds : List ρ} (run : LineRun before after served line rounds last)
    (prompt : ∀ round ∈ rounds, willing round → before round ≠ [] → served round ≠ none)
    {newer older : List α} (split : line = newer ++ older)
    (enough : older.length ≤ (rounds.filter fun round => willing round).length) :
    older.reverse <+: rounds.filterMap served := by
  induction rounds generalizing line newer older with
  | nil =>
      obtain rfl : older = [] := List.eq_nil_of_length_eq_zero (Nat.le_zero.mp enough)
      exact List.nil_prefix
  | cons round rounds ih =>
      obtain ⟨rfl, ⟨rest, line, joined, after'⟩, run⟩ := run
      have later := fun other member => prompt other (List.mem_cons_of_mem _ member)
      rcases List.eq_nil_or_concat older with rfl | ⟨older, oldest, rfl⟩
      · exact List.nil_prefix
      rw [List.concat_eq_append] at split enough ⊢
      rw [List.length_append, List.length_singleton] at enough
      rw [split, ← List.append_assoc] at line
      rw [filterMap_cons_toList]
      cases item : served round with
      | none =>
          -- nobody is served, and then the round is not of the kind
          rw [item, Option.toList_none, List.append_nil] at line
          have unwilling : ¬ willing round := by
            intro willing
            refine prompt round (List.mem_cons_self ..) willing ?_ item
            rw [split]
            simp
          rw [List.filter_cons_of_neg (by simpa using unwilling)] at enough
          have waiting : after round = (joined ++ newer) ++ (older ++ [oldest]) := by
            rw [← after', ← line]
            simp
          refine ih run later waiting ?_
          rw [List.length_append, List.length_singleton]
          exact enough
      | some item' =>
          rw [item, Option.toList_some] at line
          obtain ⟨rfl, same⟩ := List.append_inj' line rfl
          obtain rfl := (List.cons.inj same).1
          rw [List.reverse_append, List.reverse_singleton, Option.toList_some]
          have waiting : after round = (joined ++ newer) ++ older := by
            rw [← after', List.append_assoc]
          have step : ((round :: rounds).filter fun round => willing round).length ≤
              (rounds.filter fun round => willing round).length + 1 := by
            rw [List.filter_cons]
            split
            · exact Nat.le_refl _
            · exact Nat.le_succ _
          have enough' : older.length ≤ (rounds.filter fun round => willing round).length := by
            omega
          exact (List.prefix_append_right_inj _).mpr (ih run later waiting enough')

end GSMaster.Library
