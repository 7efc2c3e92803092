import GSMaster.Library.LinkedList

/-!
# The blocks of a heap

Writing a link or a value allocates nothing and frees nothing; unlinking a node
frees its block, and appending one allocates its block. So a heap whose only
blocks are those of its list has no others after these operations.
-/

namespace GSMaster.Library

variable {α σ : Type} {heap heap' : NodeHeap α} {p q : Nat}

/-- The block is allocated. -/
def Allocated (heap : NodeHeap α) (p : Nat) : Prop :=
  heap p ≠ none

/-- A list in a heap that holds nothing else. -/
structure Exact (heap : NodeHeap α) (cells : List (Nat × α)) : Prop where
  linked : Linked heap cells
  only : ∀ p, Allocated heap p → p ∈ cells.map Prod.fst

/-! ## Single writes -/

theorem allocated_update (node : Node α) :
    Allocated (Function.update heap p (some node)) q ↔ q = p ∨ Allocated heap q := by
  unfold Allocated
  by_cases same : q = p
  · rw [same, Function.update_self]
    exact iff_of_true (Option.some_ne_none node) (Or.inl rfl)
  · rw [Function.update_of_ne same]
    exact ⟨Or.inr, fun held => held.resolve_left same⟩

theorem allocated_free :
    Allocated (Function.update heap p none) q ↔ q ≠ p ∧ Allocated heap q := by
  unfold Allocated
  by_cases same : q = p
  · rw [same, Function.update_self]
    exact iff_of_false (fun none => none rfl) fun held => held.1 rfl
  · rw [Function.update_of_ne same]
    exact (and_iff_right same).symm

/-- A write to a block that is there. -/
theorem allocated_map {change : Node α → Node α}
    (written : ((heap p).map fun node => Function.update heap p (some (change node))) =
      some heap') : Allocated heap' q ↔ Allocated heap q := by
  obtain ⟨node, there, rfl⟩ := Option.map_eq_some_iff.mp written
  rw [allocated_update]
  refine or_iff_right_of_imp ?_
  rintro rfl
  rw [Allocated, there]
  exact Option.some_ne_none node

theorem setNext_allocated {next : Option Nat} (written : setNext heap p next = some heap') :
    Allocated heap' q ↔ Allocated heap q :=
  allocated_map written

theorem setVal_allocated {val : α} (written : setVal heap p val = some heap') :
    Allocated heap' q ↔ Allocated heap q :=
  allocated_map written

theorem relinkAfter_allocated {next prev : Option Nat}
    (written : relinkAfter heap next prev = some heap') :
    Allocated heap' q ↔ Allocated heap q := by
  cases next with
  | none =>
      obtain rfl := Option.some.inj written
      exact Iff.rfl
  | some p => exact allocated_map written

theorem relinkBefore_allocated {prev next : Option Nat}
    (written : relinkBefore heap prev next = some heap') :
    Allocated heap' q ↔ Allocated heap q := by
  cases prev with
  | none =>
      obtain rfl := Option.some.inj written
      exact Iff.rfl
  | some p => exact allocated_map written

theorem unlink_allocated (unlinked : unlink heap p = some heap') :
    Allocated heap' q ↔ q ≠ p ∧ Allocated heap q := by
  obtain ⟨node, -, unlinked⟩ := Option.bind_eq_some_iff.mp unlinked
  obtain ⟨after, first, unlinked⟩ := Option.bind_eq_some_iff.mp unlinked
  obtain ⟨before, second, unlinked⟩ := Option.bind_eq_some_iff.mp unlinked
  obtain rfl := Option.some.inj unlinked
  rw [allocated_free, relinkBefore_allocated second, relinkAfter_allocated first]

theorem appendNode_allocated {last fresh : Nat} {val : α}
    (appended : appendNode heap last fresh val = some heap') :
    Allocated heap' q ↔ q = fresh ∨ Allocated heap q := by
  obtain ⟨linked, first, appended⟩ := Option.bind_eq_some_iff.mp appended
  obtain rfl := Option.some.inj appended
  rw [allocated_update, setNext_allocated first]

/-- Freeing a list frees no block of another one. -/
theorem freeNodes_allocated {fuel : Nat} {first : Option Nat}
    (freed : freeNodes fuel heap first = some heap') (still : Allocated heap' q) :
    Allocated heap q := by
  induction fuel generalizing heap first with
  | zero =>
      cases first with
      | none =>
          obtain rfl := Option.some.inj freed
          exact still
      | some p => cases freed
  | succ fuel ih =>
      cases first with
      | none =>
          obtain rfl := Option.some.inj freed
          exact still
      | some p =>
          obtain ⟨node, -, rest⟩ := Option.bind_eq_some_iff.mp freed
          exact (allocated_free.mp (ih rest)).2

/-! ## Lists -/

theorem Segment.allocated {prev next : Option Nat} {cells : List (Nat × α)}
    (segment : Segment heap prev cells next) (member : p ∈ cells.map Prod.fst) :
    Allocated heap p := by
  induction cells generalizing prev with
  | nil => cases member
  | cons cell cells ih =>
      obtain ⟨node, rest⟩ := segment
      rcases List.mem_cons.mp member with rfl | later
      · rw [Allocated, node]
        exact Option.some_ne_none _
      · exact ih rest later

namespace Exact

variable {before after cells : List (Nat × α)} {val : α}

theorem allocated_iff (exact : Exact heap cells) :
    Allocated heap p ↔ p ∈ cells.map Prod.fst :=
  ⟨exact.only p, exact.linked.segment.allocated⟩

theorem unlink (exact : Exact heap (before ++ (p, val) :: after)) :
    ∃ heap', unlink heap p = some heap' ∧ Exact heap' (before ++ after) := by
  obtain ⟨heap', unlinked, linked⟩ := exact.linked.unlink
  refine ⟨heap', unlinked, linked, fun q held => ?_⟩
  obtain ⟨other, old⟩ := (unlink_allocated unlinked).mp held
  have member := exact.only q old
  rw [List.map_append, List.map_cons, List.mem_append, List.mem_cons] at member
  rw [List.map_append, List.mem_append]
  exact member.imp_right fun later => later.resolve_left other

theorem appendNode {last fresh : Nat} (exact : Exact heap cells) (val : α)
    (ends : lastOr none cells = some last) (unused : fresh ∉ cells.map Prod.fst) :
    ∃ heap', appendNode heap last fresh val = some heap' ∧
      Exact heap' (cells ++ [(fresh, val)]) := by
  obtain ⟨heap', appended, linked⟩ := exact.linked.appendNode val ends unused
  refine ⟨heap', appended, linked, fun q held => ?_⟩
  rw [List.map_append, List.mem_append]
  rcases (appendNode_allocated appended).mp held with rfl | old
  · exact Or.inr (List.mem_singleton_self _)
  · exact Or.inl (exact.only q old)

theorem setVal (exact : Exact heap (before ++ (p, val) :: after)) (val' : α) :
    ∃ heap', setVal heap p val' = some heap' ∧ Exact heap' (before ++ (p, val') :: after) := by
  obtain ⟨heap', written, linked⟩ := exact.linked.setVal val'
  refine ⟨heap', written, linked, fun q held => ?_⟩
  have member := exact.only q ((setVal_allocated written).mp held)
  rw [List.map_append, List.map_cons] at member ⊢
  exact member

instance : Holding (@Exact α) where
  linked := Exact.linked
  setVal := Exact.setVal
  unlink := Exact.unlink
  appendNode := Exact.appendNode

end Exact

end GSMaster.Library
