import GSMaster.Library.LinkedList

/-!
# Singly linked lists in memory

A list whose nodes know the next node only. `ForwardSegment` says that a list
of addresses and values lies in the heap and where its last link leads. The
operations follow one link at a time, as a C program does, and fail when they
follow one to a block that is not allocated.
-/

namespace GSMaster.Library

/-- A block of the list; a link that is NULL is absent. -/
structure ForwardNode (α : Type) where
  next : Option Nat
  val : α

abbrev ForwardHeap (α : Type) := Nat → Option (ForwardNode α)

variable {α : Type}

/-- The cells lie in the heap in this order, up to a node `next`. -/
def ForwardSegment (heap : ForwardHeap α) : List (Nat × α) → Option Nat → Prop
  | [], _ => True
  | (p, val) :: rest, next =>
      heap p = some ⟨firstOr rest next, val⟩ ∧ ForwardSegment heap rest next

/-- The cells are the whole list behind a head pointer: distinct blocks up to a NULL. -/
structure ForwardLinked (heap : ForwardHeap α) (head : Option Nat) (cells : List (Nat × α)) :
    Prop where
  head : head = firstOr cells none
  segment : ForwardSegment heap cells none
  distinct : (cells.map Prod.fst).Nodup

/-! ## Operations -/

/-- `while (next) { if (test(next)) return next; next = next->next; }` -/
def findValue (heap : ForwardHeap α) (test : α → Bool) : Nat → Option Nat → Option (Option α)
  | _, none => some none
  | 0, some _ => none
  | fuel + 1, some p => do
      let node : ForwardNode α ← heap p
      if test node.val then some (some node.val) else findValue heap test fuel node.next

/-- `while (var->next) var = var->next;` -/
def lastNode (heap : ForwardHeap α) : Nat → Nat → Option Nat
  | 0, _ => none
  | fuel + 1, p => do
      let node : ForwardNode α ← heap p
      match node.next with
      | none => some p
      | some q => lastNode heap fuel q

/-- A new block in front of the list. -/
def pushNode (heap : ForwardHeap α) (head : Option Nat) (fresh : Nat) (val : α) :
    ForwardHeap α :=
  Function.update heap fresh (some ⟨head, val⟩)

def freeNode (heap : ForwardHeap α) (p : Nat) : Option (ForwardHeap α) :=
  (heap p).map fun _ => Function.update heap p none

/-- `while (q) { if (q->next == var) { free(q->next); q->next = NULL; break; } q = q->next; }` -/
def cutNode (heap : ForwardHeap α) (var : Nat) : Nat → Option Nat → Option (ForwardHeap α)
  | _, none => some heap
  | 0, some _ => none
  | fuel + 1, some q => do
      let node : ForwardNode α ← heap q
      if node.next = some var then do
        let freed ← freeNode heap var
        (freed q).map fun node => Function.update freed q (some { node with next := none })
      else cutNode heap var fuel node.next

/-! ## What they do to the cells -/

theorem exists_firstOr_concat (before : List (Nat × α)) (cell : Nat × α) :
    ∃ p, firstOr (before ++ [cell]) none = some p := by
  cases before with
  | nil => exact ⟨cell.1, rfl⟩
  | cons front before => exact ⟨front.1, rfl⟩

/-- The head of a list of several blocks is not its last block. -/
theorem firstOr_ne_last {before : List (Nat × α)} {cell : Nat × α} {var : Nat} {val : α}
    (distinct : ((before ++ [cell, (var, val)]).map Prod.fst).Nodup) :
    firstOr (before ++ [cell, (var, val)]) none ≠ some var := by
  intro head
  cases before with
  | nil =>
      obtain rfl : cell.1 = var := Option.some.inj head
      exact (List.nodup_cons.mp distinct).1 (List.mem_singleton_self _)
  | cons front before =>
      obtain rfl : front.1 = var := Option.some.inj head
      exact (List.nodup_cons.mp distinct).1 (by simp)

theorem forwardSegment_append {heap : ForwardHeap α} {cells rest : List (Nat × α)}
    {next : Option Nat} :
    ForwardSegment heap (cells ++ rest) next ↔
      ForwardSegment heap cells (firstOr rest next) ∧ ForwardSegment heap rest next := by
  induction cells with
  | nil => simp only [List.nil_append, ForwardSegment, true_and]
  | cons cell cells ih =>
      simp only [List.cons_append, ForwardSegment, firstOr_append, ih, and_assoc]

/-- A segment depends on its own blocks only. -/
theorem ForwardSegment.frame {heap heap' : ForwardHeap α} {cells : List (Nat × α)}
    {next : Option Nat} (segment : ForwardSegment heap cells next)
    (same : ∀ p ∈ cells.map Prod.fst, heap' p = heap p) : ForwardSegment heap' cells next := by
  induction cells with
  | nil => trivial
  | cons cell cells ih =>
      obtain ⟨node, rest⟩ := segment
      refine ⟨?_, ih rest fun p member => same p (List.mem_cons_of_mem _ member)⟩
      rw [same cell.1 (List.mem_cons_self ..)]
      exact node

/-- The search finds the first value that passes the test. -/
theorem findValue_segment {heap : ForwardHeap α} {cells : List (Nat × α)}
    (segment : ForwardSegment heap cells none) (test : α → Bool) {fuel : Nat}
    (enough : cells.length ≤ fuel) :
    findValue heap test fuel (firstOr cells none) = some ((cells.map Prod.snd).find? test) := by
  induction cells generalizing fuel with
  | nil => cases fuel <;> rfl
  | cons cell cells ih =>
      obtain ⟨node, rest⟩ := segment
      cases fuel with
      | zero => exact absurd enough (Nat.not_succ_le_zero _)
      | succ fuel =>
          have later := ih rest (Nat.le_of_succ_le_succ enough)
          simp only [firstOr, findValue, node, Option.bind_eq_bind, Option.bind_some,
            List.map_cons, List.find?_cons]
          cases test cell.2 with
          | true => rfl
          | false => exact later

/-- The walk to the end comes to the last block. -/
theorem lastNode_segment {heap : ForwardHeap α} {before : List (Nat × α)} {var p : Nat} {val : α}
    (segment : ForwardSegment heap (before ++ [(var, val)]) none)
    (head : firstOr (before ++ [(var, val)]) none = some p) {fuel : Nat}
    (enough : before.length < fuel) : lastNode heap fuel p = some var := by
  induction before generalizing p fuel with
  | nil =>
      obtain rfl : var = p := Option.some.inj head
      cases fuel with
      | zero => exact absurd enough (Nat.not_lt_zero _)
      | succ fuel =>
          have node : heap var = some ⟨none, val⟩ := segment.1
          simp only [lastNode, node, Option.bind_eq_bind, Option.bind_some]
  | cons cell before ih =>
      obtain rfl : cell.1 = p := Option.some.inj head
      obtain ⟨node, rest⟩ := segment
      cases fuel with
      | zero => exact absurd enough (Nat.not_lt_zero _)
      | succ fuel =>
          obtain ⟨q, following⟩ := exists_firstOr_concat before (var, val)
          change heap cell.1 = some ⟨firstOr (before ++ [(var, val)]) none, cell.2⟩ at node
          rw [following] at node
          simp only [lastNode, node, Option.bind_eq_bind, Option.bind_some]
          exact ih rest following (Nat.lt_of_succ_lt_succ enough)

/-- The loop that cuts a block off stops at the block in front of it. -/
theorem cutNode_segment {heap : ForwardHeap α} {before : List (Nat × α)} {cell : Nat × α}
    {var : Nat} {val : α} (segment : ForwardSegment heap (before ++ [cell, (var, val)]) none)
    (distinct : ((before ++ [cell, (var, val)]).map Prod.fst).Nodup) {fuel : Nat}
    (enough : before.length < fuel) :
    cutNode heap var fuel (firstOr (before ++ [cell, (var, val)]) none) =
      some (Function.update (Function.update heap var none) cell.1 (some ⟨none, cell.2⟩)) := by
  induction before generalizing fuel with
  | nil =>
      obtain ⟨node, ⟨last, -⟩⟩ := segment
      have apart : cell.1 ≠ var := by
        rintro rfl
        exact (List.nodup_cons.mp distinct).1 (List.mem_singleton_self _)
      cases fuel with
      | zero => exact absurd enough (Nat.not_lt_zero _)
      | succ fuel =>
          simp only [List.nil_append, firstOr, cutNode, node, Option.bind_eq_bind,
            Option.bind_some, if_true, freeNode, last, Option.map_some,
            Function.update_of_ne apart]
  | cons first before ih =>
      obtain ⟨node, rest⟩ := segment
      obtain ⟨-, distinct⟩ := List.nodup_cons.mp distinct
      change heap first.1 = some ⟨firstOr (before ++ [cell, (var, val)]) none, first.2⟩ at node
      have goesOn := firstOr_ne_last distinct
      cases fuel with
      | zero => exact absurd enough (Nat.not_lt_zero _)
      | succ fuel =>
          have later := ih rest distinct (Nat.lt_of_succ_lt_succ enough)
          change cutNode heap var (fuel + 1) (some first.1) = _
          simp only [cutNode, node, Option.bind_eq_bind, Option.bind_some, if_neg goesOn]
          exact later

namespace ForwardLinked

theorem pushNode {heap : ForwardHeap α} {head : Option Nat} {cells : List (Nat × α)}
    (linked : ForwardLinked heap head cells) {fresh : Nat} (unused : fresh ∉ cells.map Prod.fst)
    (val : α) :
    ForwardLinked (pushNode heap head fresh val) (some fresh) ((fresh, val) :: cells) := by
  refine ⟨rfl, ⟨?_, linked.segment.frame fun p member => Function.update_of_ne ?_ _ _⟩,
    List.nodup_cons.mpr ⟨unused, linked.distinct⟩⟩
  · rw [Library.pushNode, Function.update_self, linked.head]
  · rintro rfl
    exact unused member

/-- Freeing the only block leaves an empty list. -/
theorem freeNode {heap : ForwardHeap α} {head : Option Nat} {var : Nat} {val : α}
    (linked : ForwardLinked heap head [(var, val)]) :
    head = some var ∧ ∃ heap', freeNode heap var = some heap' ∧ ForwardLinked heap' none [] := by
  have node : heap var = some ⟨none, val⟩ := linked.segment.1
  refine ⟨linked.head, Function.update heap var none, ?_, ⟨rfl, trivial, List.nodup_nil⟩⟩
  rw [Library.freeNode, node, Option.map_some]

/-- The last of several blocks is freed and the link to it is cut. -/
theorem cutNode {heap : ForwardHeap α} {head : Option Nat} {before : List (Nat × α)}
    {cell : Nat × α} {var : Nat} {val : α}
    (linked : ForwardLinked heap head (before ++ [cell, (var, val)])) {fuel : Nat}
    (enough : before.length < fuel) :
    ∃ heap', cutNode heap var fuel head = some heap' ∧
      ForwardLinked heap' head (before ++ [cell]) := by
  obtain ⟨rfl, segment, distinct⟩ := linked
  refine ⟨_, cutNode_segment segment distinct enough, ?_, ?_, ?_⟩
  · rw [firstOr_append, firstOr_append]
    rfl
  · obtain ⟨front, -⟩ := forwardSegment_append.mp segment
    rw [List.map_append, List.nodup_append] at distinct
    refine forwardSegment_append.mpr ⟨front.frame fun p member => ?_, ?_, trivial⟩
    · have notCell : p ≠ cell.1 := distinct.2.2 p member _ (List.mem_cons_self ..)
      have notVar : p ≠ var := distinct.2.2 p member _ (by simp)
      rw [Function.update_of_ne notCell, Function.update_of_ne notVar]
    · rw [Function.update_self]
      rfl
  · refine distinct.sublist (List.Sublist.map _ ?_)
    exact (List.Sublist.refl _).append (List.Sublist.cons_cons _ (List.nil_sublist _))

end ForwardLinked

end GSMaster.Library
