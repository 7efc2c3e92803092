import Mathlib

/-!
# Journals

A journal is the list of what has happened. Some events are marks and some are
resets; what counts is how many marks there are since the last reset.
-/

namespace GSMaster.Library

universe u

variable {ε : Type u} (reset mark : ε → Bool)

/-- What an event does to the number of marks since the last reset. -/
def tally (count : Nat) (event : ε) : Nat :=
  if reset event then 0 else if mark event then count + 1 else count

/-- The marks of a journal since its last reset. -/
def countSince (journal : List ε) : Nat :=
  journal.foldl (tally reset mark) 0

/-- Between any two marks there is a reset. -/
def Alternates (journal : List ε) : Prop :=
  ∀ early middle late first second, mark first = true → mark second = true →
    journal = early ++ first :: (middle ++ second :: late) → ∃ event ∈ middle, reset event = true

variable {reset mark}

theorem tally_other {event : ε} (noReset : reset event = false) (noMark : mark event = false)
    (count : Nat) : tally reset mark count event = count := by
  rw [tally, noReset, noMark, if_neg Bool.false_ne_true, if_neg Bool.false_ne_true]

theorem foldl_tally_other {events : List ε}
    (others : ∀ event ∈ events, reset event = false ∧ mark event = false) (count : Nat) :
    events.foldl (tally reset mark) count = count := by
  induction events generalizing count with
  | nil => rfl
  | cons event events ih =>
      obtain ⟨noReset, noMark⟩ := others event (List.mem_cons_self ..)
      rw [List.foldl_cons, tally_other noReset noMark]
      exact ih (fun other member => others other (List.mem_cons_of_mem _ member)) count

/-- Without resets among them, later events add their marks. -/
theorem foldl_tally_marks {events : List ε} (noReset : ∀ event ∈ events, reset event = false)
    (count : Nat) : events.foldl (tally reset mark) count = count + events.countP mark := by
  induction events generalizing count with
  | nil => rfl
  | cons event events ih =>
      have here : tally reset mark count event = count + if mark event then 1 else 0 := by
        rw [tally, noReset event (List.mem_cons_self ..), if_neg Bool.false_ne_true]
        split <;> rfl
      rw [List.foldl_cons, ih fun other member => noReset other (List.mem_cons_of_mem _ member),
        here, List.countP_cons]
      omega

theorem countSince_append (early late : List ε) :
    countSince reset mark (early ++ late) =
      late.foldl (tally reset mark) (countSince reset mark early) :=
  List.foldl_append

theorem countSince_reset {event : ε} (resets : reset event = true) (early late : List ε) :
    countSince reset mark (early ++ event :: late) = countSince reset mark late := by
  rw [countSince_append, List.foldl_cons, tally, if_pos resets]
  rfl

theorem Alternates.of_append {early late : List ε}
    (alternates : Alternates reset mark (early ++ late)) :
    Alternates reset mark early ∧ Alternates reset mark late := by
  constructor
  · rintro before middle after first second isMark isMark' rfl
    exact alternates before middle (after ++ late) first second isMark isMark' (by simp)
  · rintro before middle after first second isMark isMark' rfl
    exact alternates (early ++ before) middle after first second isMark isMark' (by simp)

theorem Alternates.of_suffix {journal late : List ε} (alternates : Alternates reset mark journal)
    (suffix : late <:+ journal) : Alternates reset mark late := by
  obtain ⟨early, rfl⟩ := suffix
  exact alternates.of_append.2

/-- Where a reset stands between any two marks there is at most one since the last reset. -/
theorem Alternates.countSince_cases {journal : List ε}
    (alternates : Alternates reset mark journal) :
    countSince reset mark journal = 0 ∨ countSince reset mark journal = 1 ∧
      ∃ early event late, mark event = true ∧ journal = early ++ event :: late ∧
        ∀ other ∈ late, reset other = false := by
  induction journal using List.reverseRecOn with
  | nil => exact Or.inl rfl
  | append_singleton journal event ih =>
      have before := ih alternates.of_append.1
      rw [countSince_append, List.foldl_cons, List.foldl_nil]
      cases resets : reset event with
      | true => exact Or.inl (by rw [tally, resets, if_pos rfl])
      | false =>
          cases marks : mark event with
          | true =>
              rcases before with none | ⟨-, early, other, late, isMark, rfl, noReset⟩
              · refine Or.inr ⟨?_, journal, event, [], marks, rfl, fun _ member => nomatch member⟩
                rw [tally, resets, marks, none, if_neg Bool.false_ne_true, if_pos rfl]
              · obtain ⟨middle, member, isReset⟩ :=
                  alternates early late [] other event isMark marks (by simp)
                rw [noReset middle member] at isReset
                cases isReset
          | false =>
              rw [tally_other resets marks]
              refine before.imp_right fun ⟨one, early, other, late, isMark, journalEq, noReset⟩ =>
                ⟨one, early, other, late ++ [event], isMark, by rw [journalEq]; simp, ?_⟩
              intro last member
              rcases List.mem_append.mp member with inside | new
              · exact noReset last inside
              · rw [List.mem_singleton.mp new]
                exact resets

theorem Alternates.countSince_le_one {journal : List ε}
    (alternates : Alternates reset mark journal) : countSince reset mark journal ≤ 1 := by
  rcases alternates.countSince_cases with none | ⟨one, -⟩
  · omega
  · exact one.le

/-- What follows the last of some events is the end of what follows any of them. -/
theorem suffix_of_last {event : ε} {before before' life life' : List ε}
    (same : before ++ event :: life = before' ++ event :: life') (last : event ∉ life) :
    life <:+ life' := by
  rcases List.append_eq_append_iff.mp same with ⟨between, -, rest⟩ | ⟨between, -, rest⟩
  · cases between with
    | nil => exact (List.cons.inj rest).2 ▸ List.suffix_refl _
    | cons first between =>
        rw [(List.cons.inj rest).2] at last
        exact absurd (List.mem_append_right _ (List.mem_cons_self ..)) last
  · cases between with
    | nil => exact (List.cons.inj rest).2 ▸ List.suffix_refl _
    | cons first between =>
        rw [(List.cons.inj rest).2]
        exact (List.suffix_cons _ _).trans (List.suffix_append _ _)

/-! ## Times -/

/-- Each event is a gap after the one before it, less what that one allows. -/
def Spaced (gap : Nat) (time slack : ε → Nat) (events : List ε) : Prop :=
  events.IsChain fun event next => time event + gap ≤ time next + slack event

variable {gap : Nat} {time slack : ε → Nat}

theorem spaced_snoc_iff {events : List ε} {event : ε} :
    Spaced gap time slack (events ++ [event]) ↔
      Spaced gap time slack events ∧
        ∀ last ∈ events.getLast?, time last + gap ≤ time event + slack last := by
  simp only [Spaced, List.isChain_append, List.isChain_singleton, List.head?_cons,
    Option.mem_some_iff, forall_eq', true_and]

theorem Spaced.of_suffix {events late : List ε} (spaced : Spaced gap time slack events)
    (suffix : late <:+ events) : Spaced gap time slack late :=
  spaced.suffix suffix

/-- An event is as many gaps after the first as there are events before it. -/
theorem Spaced.far {first : ε} {rest : List ε} (spaced : Spaced gap time slack (first :: rest))
    {count : Nat} {later : ε} (there : (first :: rest)[count]? = some later) :
    time first + count * gap ≤ time later + (((first :: rest).take count).map slack).sum := by
  induction count generalizing first rest with
  | zero =>
      obtain rfl := Option.some.inj there
      simp
  | succ count ih =>
      cases rest with
      | nil => cases there
      | cons second rest =>
          obtain ⟨near, tail⟩ := List.isChain_cons_cons.mp spaced
          have far := ih tail there
          rw [List.take_succ_cons, List.map_cons, List.sum_cons, Nat.succ_mul]
          omega

end GSMaster.Library
