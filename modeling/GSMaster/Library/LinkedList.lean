import Mathlib

/-!
# Doubly linked lists in memory

A heap maps the addresses of allocated blocks to nodes. `Segment` says that a
list of addresses and values lies in the heap with the given links at both
ends. The operations are those of a C program: they read and write links one
at a time and fail when they follow a link to a block that is not allocated.
-/

namespace GSMaster.Library

/-- A block of the list; a link that is NULL is absent. -/
structure Node (α : Type) where
  prev : Option Nat
  next : Option Nat
  val : α

abbrev NodeHeap (α : Type) := Nat → Option (Node α)

variable {α σ : Type}

/-- The first address of a list of cells, or the link that follows it. -/
def firstOr (cells : List (Nat × α)) (next : Option Nat) : Option Nat :=
  match cells with
  | [] => next
  | (p, _) :: _ => some p

/-- The last address of a list of cells, or the link that precedes it. -/
def lastOr (prev : Option Nat) : List (Nat × α) → Option Nat
  | [] => prev
  | (p, _) :: rest => lastOr (some p) rest

/-- The cells lie in the heap in this order, between a node `prev` and a node `next`. -/
def Segment (heap : NodeHeap α) (prev : Option Nat) : List (Nat × α) → Option Nat → Prop
  | [], _ => True
  | (p, val) :: rest, next =>
      heap p = some ⟨prev, firstOr rest next, val⟩ ∧ Segment heap (some p) rest next

/-- The cells are the whole list: distinct blocks, linked from a first NULL to a last NULL. -/
structure Linked (heap : NodeHeap α) (cells : List (Nat × α)) : Prop where
  segment : Segment heap none cells none
  distinct : (cells.map Prod.fst).Nodup

/-! ## Segments -/

@[simp] theorem firstOr_append (cells rest : List (Nat × α)) (next : Option Nat) :
    firstOr (cells ++ rest) next = firstOr cells (firstOr rest next) := by
  cases cells <;> rfl

@[simp] theorem lastOr_append (prev : Option Nat) (cells rest : List (Nat × α)) :
    lastOr prev (cells ++ rest) = lastOr (lastOr prev cells) rest := by
  induction cells generalizing prev with
  | nil => rfl
  | cons cell cells ih => exact ih (some cell.1)

/-- A segment splits at any point; each part ends where the other begins. -/
theorem segment_append {heap : NodeHeap α} {prev next : Option Nat} {cells rest : List (Nat × α)} :
    Segment heap prev (cells ++ rest) next ↔
      Segment heap prev cells (firstOr rest next) ∧ Segment heap (lastOr prev cells) rest next := by
  induction cells generalizing prev with
  | nil => simp only [List.nil_append, Segment, lastOr, true_and]
  | cons cell cells ih =>
      simp only [List.cons_append, Segment, lastOr, firstOr_append, ih, and_assoc]

/-- A segment depends on its own blocks only. -/
theorem Segment.frame {heap heap' : NodeHeap α} {prev next : Option Nat} {cells : List (Nat × α)}
    (segment : Segment heap prev cells next)
    (same : ∀ p ∈ cells.map Prod.fst, heap' p = heap p) : Segment heap' prev cells next := by
  induction cells generalizing prev with
  | nil => trivial
  | cons cell cells ih =>
      obtain ⟨node, rest⟩ := segment
      refine ⟨?_, ih rest fun p member => same p (List.mem_cons_of_mem _ member)⟩
      rw [same cell.1 (List.mem_cons_self ..)]
      exact node

/-! ## Writing links and values -/

def setNext (heap : NodeHeap α) (p : Nat) (next : Option Nat) : Option (NodeHeap α) :=
  (heap p).map fun node => Function.update heap p (some { node with next := next })

def setPrev (heap : NodeHeap α) (p : Nat) (prev : Option Nat) : Option (NodeHeap α) :=
  (heap p).map fun node => Function.update heap p (some { node with prev := prev })

def setVal (heap : NodeHeap α) (p : Nat) (val : α) : Option (NodeHeap α) :=
  (heap p).map fun node => Function.update heap p (some { node with val := val })

/-- `if (server->next) server->next->prev = prev;` -/
def relinkAfter (heap : NodeHeap α) (next prev : Option Nat) : Option (NodeHeap α) :=
  match next with
  | some p => setPrev heap p prev
  | none => some heap

/-- `if (server->prev) server->prev->next = next;` -/
def relinkBefore (heap : NodeHeap α) (prev next : Option Nat) : Option (NodeHeap α) :=
  match prev with
  | some p => setNext heap p next
  | none => some heap

/-- Unlink the node at `p` from its neighbours and free it. -/
def unlink (heap : NodeHeap α) (p : Nat) : Option (NodeHeap α) := do
  let node : Node α ← heap p
  let heap ← relinkAfter heap node.next node.prev
  let heap ← relinkBefore heap node.prev node.next
  some (Function.update heap p none)

/-- Link a new block after the node at `last`. -/
def appendNode (heap : NodeHeap α) (last fresh : Nat) (val : α) : Option (NodeHeap α) := do
  let heap ← setNext heap last (some fresh)
  some (Function.update heap fresh (some ⟨some last, none, val⟩))

/-- Writing the `next` link of the last node changes where the segment ends. -/
theorem segment_setNext (next' : Option Nat) {heap : NodeHeap α} {prev next : Option Nat}
    {cells : List (Nat × α)} {p : Nat} {val : α}
    (segment : Segment heap prev (cells ++ [(p, val)]) next) (fresh : p ∉ cells.map Prod.fst) :
    ∃ heap', setNext heap p next' = some heap' ∧
      Segment heap' prev (cells ++ [(p, val)]) next' ∧ ∀ q, q ≠ p → heap' q = heap q := by
  obtain ⟨before, last⟩ := segment_append.mp segment
  have node : heap p = some ⟨lastOr prev cells, next, val⟩ := last.1
  refine ⟨_, by rw [setNext, node]; rfl, ?_, fun q other => Function.update_of_ne other _ _⟩
  refine segment_append.mpr ⟨before.frame fun q member => Function.update_of_ne ?_ _ _, ?_, trivial⟩
  · rintro rfl
    exact fresh member
  · exact Function.update_self ..

/-- Writing the `prev` link of the first node changes where the segment begins. -/
theorem segment_setPrev (prev' : Option Nat) {heap : NodeHeap α} {prev next : Option Nat}
    {cells : List (Nat × α)} {p : Nat} {val : α}
    (segment : Segment heap prev ((p, val) :: cells) next) (fresh : p ∉ cells.map Prod.fst) :
    ∃ heap', setPrev heap p prev' = some heap' ∧
      Segment heap' prev' ((p, val) :: cells) next ∧ ∀ q, q ≠ p → heap' q = heap q := by
  obtain ⟨node, rest⟩ := segment
  refine ⟨_, by rw [setPrev, node]; rfl, ⟨Function.update_self .., ?_⟩,
    fun q other => Function.update_of_ne other _ _⟩
  refine rest.frame fun q member => Function.update_of_ne ?_ _ _
  rintro rfl
  exact fresh member

/-- The first half of `unlink`: the segment after the node begins where the node did. -/
theorem segment_relinkAfter (prev' : Option Nat) {heap : NodeHeap α} {prev : Option Nat}
    {after : List (Nat × α)}
    (segment : Segment heap prev after none) (distinct : (after.map Prod.fst).Nodup) :
    ∃ heap', relinkAfter heap (firstOr after none) prev' = some heap' ∧
      Segment heap' prev' after none ∧ ∀ q, q ∉ after.map Prod.fst → heap' q = heap q := by
  cases after with
  | nil => exact ⟨heap, rfl, trivial, fun _ _ => rfl⟩
  | cons cell rest =>
      obtain ⟨heap', written, moved, framed⟩ :=
        segment_setPrev prev' segment (List.nodup_cons.mp distinct).1
      refine ⟨heap', written, moved, fun q outside => framed q ?_⟩
      rintro rfl
      exact outside (List.mem_cons_self ..)

/-- The second half of `unlink`: the segment before the node ends where the node did. -/
theorem segment_relinkBefore (next' : Option Nat) {heap : NodeHeap α} {next : Option Nat}
    {before : List (Nat × α)}
    (segment : Segment heap none before next) (distinct : (before.map Prod.fst).Nodup) :
    ∃ heap', relinkBefore heap (lastOr none before) next' = some heap' ∧
      Segment heap' none before next' ∧ ∀ q, q ∉ before.map Prod.fst → heap' q = heap q := by
  rcases List.eq_nil_or_concat' before with rfl | ⟨cells, cell, rfl⟩
  · exact ⟨heap, rfl, trivial, fun _ _ => rfl⟩
  · rw [List.map_append, List.nodup_append] at distinct
    have fresh : cell.1 ∉ cells.map Prod.fst := fun member =>
      distinct.2.2 _ member _ (List.mem_singleton_self _) rfl
    obtain ⟨heap', written, moved, framed⟩ := segment_setNext next' segment fresh
    refine ⟨heap', ?_, moved, fun q outside => framed q ?_⟩
    · rw [lastOr_append]
      exact written
    · rintro rfl
      exact outside (by simp)

/-- Unlinking a node takes its cell out of the list. -/
theorem Linked.unlink {heap : NodeHeap α} {before after : List (Nat × α)} {p : Nat} {val : α}
    (linked : Linked heap (before ++ (p, val) :: after)) :
    ∃ heap', unlink heap p = some heap' ∧ Linked heap' (before ++ after) := by
  obtain ⟨left, node, right⟩ := segment_append.mp linked.segment
  have distinct := linked.distinct
  rw [List.map_append, List.map_cons, List.nodup_append, List.nodup_cons] at distinct
  obtain ⟨distinctBefore, ⟨freshAfter, distinctAfter⟩, apart⟩ := distinct
  have freshBefore : p ∉ before.map Prod.fst := fun member =>
    apart p member p (List.mem_cons_self ..) rfl
  obtain ⟨heap₁, written₁, right₁, framed₁⟩ :=
    segment_relinkAfter (lastOr none before) right distinctAfter
  have left₁ : Segment heap₁ none before (some p) := left.frame fun q member =>
    framed₁ q fun later => apart q member q (List.mem_cons_of_mem _ later) rfl
  obtain ⟨heap₂, written₂, left₂, framed₂⟩ :=
    segment_relinkBefore (firstOr after none) left₁ distinctBefore
  refine ⟨Function.update heap₂ p none, ?_, ?_, ?_⟩
  · simp only [GSMaster.Library.unlink, node, Option.bind_eq_bind, Option.bind_some, written₁,
      written₂]
  · refine segment_append.mpr ⟨left₂.frame fun q member => Function.update_of_ne ?_ _ _,
      right₁.frame fun q member => ?_⟩
    · rintro rfl
      exact freshBefore member
    · have notBefore : q ∉ before.map Prod.fst := fun earlier =>
        apart q earlier q (List.mem_cons_of_mem _ member) rfl
      have other : q ≠ p := by
        rintro rfl
        exact freshAfter member
      rw [Function.update_of_ne other, framed₂ q notBefore]
  · rw [List.map_append, List.nodup_append]
    exact ⟨distinctBefore, distinctAfter, fun q member q' member' =>
      apart q member q' (List.mem_cons_of_mem _ member')⟩

/-- Appending a block that is not in the list puts it at the end. -/
theorem Linked.appendNode {heap : NodeHeap α} {cells : List (Nat × α)} {last fresh : Nat}
    (linked : Linked heap cells) (val : α) (ends : lastOr none cells = some last)
    (unused : fresh ∉ cells.map Prod.fst) :
    ∃ heap', appendNode heap last fresh val = some heap' ∧
      Linked heap' (cells ++ [(fresh, val)]) := by
  obtain ⟨heap₁, written, extended, -⟩ :=
    segment_relinkBefore (some fresh) linked.segment linked.distinct
  rw [ends, GSMaster.Library.relinkBefore] at written
  refine ⟨Function.update heap₁ fresh (some ⟨some last, none, val⟩), ?_, ?_, ?_⟩
  · simp only [GSMaster.Library.appendNode] at written ⊢
    rw [written]
    rfl
  · refine segment_append.mpr
      ⟨extended.frame fun q member => Function.update_of_ne ?_ _ _, ?_, trivial⟩
    · rintro rfl
      exact unused member
    · rw [ends]
      exact Function.update_self ..
  · rw [List.map_append, List.nodup_append]
    refine ⟨linked.distinct, List.nodup_singleton _, ?_⟩
    rintro q member q' only rfl
    obtain rfl := List.mem_singleton.mp only
    exact unused member

/-- Writing the value of a node changes its cell only. -/
theorem Linked.setVal {heap : NodeHeap α} {before after : List (Nat × α)} {p : Nat} {val : α}
    (linked : Linked heap (before ++ (p, val) :: after)) (val' : α) :
    ∃ heap', setVal heap p val' = some heap' ∧ Linked heap' (before ++ (p, val') :: after) := by
  obtain ⟨left, node, right⟩ := segment_append.mp linked.segment
  have distinct := linked.distinct
  rw [List.map_append, List.map_cons, List.nodup_append, List.nodup_cons] at distinct
  obtain ⟨-, ⟨freshAfter, -⟩, apart⟩ := distinct
  refine ⟨_, by rw [GSMaster.Library.setVal, node]; rfl, ?_, ?_⟩
  · refine segment_append.mpr ⟨left.frame fun q member => Function.update_of_ne ?_ _ _,
      Function.update_self .., right.frame fun q member => Function.update_of_ne ?_ _ _⟩
    · exact apart q member p (List.mem_cons_self ..)
    · rintro rfl
      exact freshAfter member
  · simpa only [List.map_append, List.map_cons] using linked.distinct

/-! ## Walking the list -/

/--
`while (server->next) { server = server->next; if (test(server)) break; }`: the
node where the walk stops, and its value if the test stopped it. The fuel
bounds the number of nodes; a walk of more nodes than there are goes in a circle.
-/
def locate (heap : NodeHeap α) (test : α → Bool) : Nat → Nat → Option (Nat × Option α)
  | 0, _ => none
  | fuel + 1, p => do
      let node : Node α ← heap p
      match node.next with
      | none => some (p, none)
      | some q => do
          let following : Node α ← heap q
          if test following.val then some (q, some following.val) else locate heap test fuel q

/--
A walk that visits every node after `p`. A node whose visit gives no value is
unlinked and the walk resumes from its predecessor, otherwise it gets the value.
-/
def sweep (visit : σ → α → Option α × σ) :
    Nat → NodeHeap α → σ → Nat → Option (NodeHeap α × σ)
  | 0, _, _, _ => none
  | fuel + 1, heap, state, p => do
      let node : Node α ← heap p
      match node.next with
      | none => some (heap, state)
      | some q => do
          let following : Node α ← heap q
          match visit state following.val with
          | (none, state) => do
              let before ← following.prev
              let heap ← unlink heap q
              sweep visit fuel heap state before
          | (some val, state) => do
              let heap ← setVal heap q val
              sweep visit fuel heap state q

/-- The same walk, which also records the node and the value of every visit, in order. -/
def sweepVisits (visit : σ → α → Option α × σ) :
    Nat → NodeHeap α → σ → Nat → Option ((NodeHeap α × σ) × List (Nat × α))
  | 0, _, _, _ => none
  | fuel + 1, heap, state, p => do
      let node : Node α ← heap p
      match node.next with
      | none => some ((heap, state), [])
      | some q => do
          let following : Node α ← heap q
          match visit state following.val with
          | (none, state) => do
              let before ← following.prev
              let heap ← unlink heap q
              let later ← sweepVisits visit fuel heap state before
              some (later.1, (q, following.val) :: later.2)
          | (some val, state) => do
              let heap ← setVal heap q val
              let later ← sweepVisits visit fuel heap state q
              some (later.1, (q, following.val) :: later.2)

/-- `for (p = first; p; p = next) { next = p->next; free(p); }` -/
def freeNodes : Nat → NodeHeap α → Option Nat → Option (NodeHeap α)
  | _, heap, none => some heap
  | 0, _, some _ => none
  | fuel + 1, heap, some p => do
      let node : Node α ← heap p
      freeNodes fuel (Function.update heap p none) node.next

/-- The nodes after `p` and their values, in the order of a walk. -/
def collect (heap : NodeHeap α) : Nat → Nat → Option (List (Nat × α))
  | 0, _ => none
  | fuel + 1, p => do
      let node : Node α ← heap p
      match node.next with
      | none => some []
      | some q => do
          let following : Node α ← heap q
          let rest ← collect heap fuel q
          some ((q, following.val) :: rest)

/-- What `sweep` does to the cells. -/
def sweepCells (visit : σ → α → Option α × σ) : σ → List (Nat × α) → List (Nat × α) × σ
  | state, [] => ([], state)
  | state, (p, val) :: rest =>
      let visited := visit state val
      let swept := sweepCells visit visited.2 rest
      (match visited.1 with
        | none => swept.1
        | some val => (p, val) :: swept.1, swept.2)

/-- A sweep whose visits keep a part of each value keeps that part of the cells it keeps. -/
theorem sweepCells_sublist {β : Type} {visit : σ → α → Option α × σ} {part : α → β}
    (keeps : ∀ state val val', (visit state val).1 = some val' → part val' = part val)
    (state : σ) (cells : List (Nat × α)) :
    ((sweepCells visit state cells).1.map fun cell => (cell.1, part cell.2)).Sublist
      (cells.map fun cell => (cell.1, part cell.2)) := by
  induction cells generalizing state with
  | nil => exact List.Sublist.refl _
  | cons cell cells ih =>
      have rest := ih (visit state cell.2).2
      cases visited : (visit state cell.2).1 with
      | none => simpa only [sweepCells, visited, List.map_cons] using rest.cons _
      | some val =>
          simp only [sweepCells, visited, List.map_cons, keeps _ _ _ visited]
          exact rest.cons_cons _

/-- What is left after a sweep are the values of visits to cells that were there. -/
theorem mem_sweepCells {visit : σ → α → Option α × σ} {cells : List (Nat × α)}
    {state : σ} {cell : Nat × α} (member : cell ∈ (sweepCells visit state cells).1) :
    ∃ val, (cell.1, val) ∈ cells ∧ ∃ before, (visit before val).1 = some cell.2 := by
  induction cells generalizing state with
  | nil => cases member
  | cons head rest ih =>
      have later (inside : cell ∈ (sweepCells visit (visit state head.2).2 rest).1) :
          ∃ val, (cell.1, val) ∈ head :: rest ∧ ∃ before, (visit before val).1 = some cell.2 := by
        obtain ⟨val, held, before, visited⟩ := ih inside
        exact ⟨val, List.mem_cons_of_mem _ held, before, visited⟩
      cases visited : (visit state head.2).1 with
      | none =>
          simp only [sweepCells, visited] at member
          exact later member
      | some val =>
          simp only [sweepCells, visited] at member
          rcases List.mem_cons.mp member with rfl | inside
          · exact ⟨head.2, List.mem_cons_self .., state, visited⟩
          · exact later inside

/-- A cell that a sweep does not leave has had a visit without a value. -/
theorem sweepCells_removes {visit : σ → α → Option α × σ} {cells : List (Nat × α)}
    (state : σ) {cell : Nat × α} (member : cell ∈ cells) :
    (∃ val, (cell.1, val) ∈ (sweepCells visit state cells).1) ∨
      ∃ before, (visit before cell.2).1 = none := by
  induction cells generalizing state with
  | nil => cases member
  | cons head rest ih =>
      rcases List.mem_cons.mp member with rfl | inside
      · cases visited : (visit state cell.2).1 with
        | none => exact Or.inr ⟨state, visited⟩
        | some val =>
            refine Or.inl ⟨val, ?_⟩
            simp only [sweepCells, visited]
            exact List.mem_cons_self ..
      · rcases ih (visit state head.2).2 inside with ⟨val, kept⟩ | dropped
        · refine Or.inl ⟨val, ?_⟩
          cases visited : (visit state head.2).1 with
          | none => simpa only [sweepCells, visited] using kept
          | some first =>
              simp only [sweepCells, visited]
              exact List.mem_cons_of_mem _ kept
        · exact Or.inr dropped

/-- Two sweeps whose visits agree, along related states, leave the same cells. -/
theorem sweepCells_related {τ : Type} {visit : σ → α → Option α × σ} {visit' : τ → α → Option α × τ}
    {related : σ → τ → Prop}
    (agree : ∀ state state' val, related state state' →
      (visit state val).1 = (visit' state' val).1 ∧
        related (visit state val).2 (visit' state' val).2)
    {state : σ} {state' : τ} (start : related state state') (cells : List (Nat × α)) :
    (sweepCells visit state cells).1 = (sweepCells visit' state' cells).1 ∧
      related (sweepCells visit state cells).2 (sweepCells visit' state' cells).2 := by
  induction cells generalizing state state' with
  | nil => exact ⟨rfl, start⟩
  | cons cell cells ih =>
      obtain ⟨same, next⟩ := agree state state' cell.2 start
      obtain ⟨rest, final⟩ := ih next
      refine ⟨?_, final⟩
      simp only [sweepCells, same, rest]

/-- A walk stops at the first cell that passes the test, or at the last cell. -/
theorem locate_segment {heap : NodeHeap α} {prev : Option Nat} {p : Nat} {val : α}
    {cells : List (Nat × α)} (segment : Segment heap prev ((p, val) :: cells) none)
    (test : α → Bool) {fuel : Nat} (enough : cells.length < fuel) :
    locate heap test fuel p =
      match cells.find? (fun cell => test cell.2) with
      | some cell => some (cell.1, some cell.2)
      | none => (lastOr (some p) cells).map fun last => (last, none) := by
  induction cells generalizing prev p val fuel with
  | nil =>
      obtain ⟨fuel, rfl⟩ := Nat.exists_eq_succ_of_ne_zero (Nat.ne_of_gt enough)
      obtain ⟨node, -⟩ := segment
      simp only [locate, node, firstOr, Option.bind_eq_bind, Option.bind_some]
      rfl
  | cons cell cells ih =>
      obtain ⟨fuel, rfl⟩ := Nat.exists_eq_succ_of_ne_zero (Nat.ne_of_gt (Nat.zero_lt_of_lt enough))
      obtain ⟨node, rest⟩ := segment
      have following := rest.1
      simp only [locate, node, firstOr, Option.bind_eq_bind, Option.bind_some, following]
      by_cases passes : test cell.2 = true
      · simp only [passes, List.find?_cons_of_pos, if_true]
      · rw [if_neg passes, List.find?_cons_of_neg (by simpa using passes),
          ih rest (Nat.lt_of_succ_lt_succ enough)]
        rfl

theorem collect_segment {heap : NodeHeap α} {prev : Option Nat} {p : Nat} {val : α}
    {cells : List (Nat × α)} (segment : Segment heap prev ((p, val) :: cells) none)
    {fuel : Nat} (enough : cells.length < fuel) :
    collect heap fuel p = some cells := by
  induction cells generalizing prev p val fuel with
  | nil =>
      obtain ⟨fuel, rfl⟩ := Nat.exists_eq_succ_of_ne_zero (Nat.ne_of_gt enough)
      obtain ⟨node, -⟩ := segment
      simp only [collect, node, firstOr, Option.bind_eq_bind, Option.bind_some]
  | cons cell cells ih =>
      obtain ⟨fuel, rfl⟩ := Nat.exists_eq_succ_of_ne_zero (Nat.ne_of_gt (Nat.zero_lt_of_lt enough))
      obtain ⟨node, rest⟩ := segment
      have following := rest.1
      simp only [collect, node, firstOr, Option.bind_eq_bind, Option.bind_some, following,
        ih rest (Nat.lt_of_succ_lt_succ enough)]

/-- Freeing the nodes of a segment frees its blocks, each once, and no other. -/
theorem freeNodes_segment {heap : NodeHeap α} {prev : Option Nat} {cells : List (Nat × α)}
    (segment : Segment heap prev cells none) (distinct : (cells.map Prod.fst).Nodup)
    {fuel : Nat} (enough : cells.length ≤ fuel) :
    ∃ heap', freeNodes fuel heap (firstOr cells none) = some heap' ∧
      (∀ p ∈ cells.map Prod.fst, heap' p = none) ∧
      ∀ p, p ∉ cells.map Prod.fst → heap' p = heap p := by
  induction cells generalizing heap prev fuel with
  | nil => exact ⟨heap, by rw [firstOr, freeNodes], by simp, fun _ _ => rfl⟩
  | cons cell cells ih =>
      obtain ⟨fuel, rfl⟩ := Nat.exists_eq_succ_of_ne_zero (Nat.ne_of_gt (Nat.zero_lt_of_lt enough))
      obtain ⟨node, rest⟩ := segment
      obtain ⟨fresh, distinct⟩ := List.nodup_cons.mp distinct
      have rest : Segment (Function.update heap cell.1 none) (some cell.1) cells none := by
        refine rest.frame fun p member => Function.update_of_ne ?_ _ _
        rintro rfl
        exact fresh member
      obtain ⟨heap', freed, gone, framed⟩ := ih rest distinct (Nat.le_of_succ_le_succ enough)
      refine ⟨heap', ?_, ?_, ?_⟩
      · simp only [firstOr, freeNodes, node, Option.bind_eq_bind, Option.bind_some]
        exact freed
      · intro p member
        rcases List.mem_cons.mp member with rfl | member
        · rw [framed _ fresh, Function.update_self]
        · exact gone p member
      · intro p outside
        obtain ⟨other, outside⟩ := not_or.mp (mt List.mem_cons.mpr outside)
        rw [framed p outside, Function.update_of_ne other]

/-- The record changes nothing in the walk. -/
theorem sweepVisits_sweep (visit : σ → α → Option α × σ) (fuel : Nat) (heap : NodeHeap α)
    (state : σ) (p : Nat) :
    (sweepVisits visit fuel heap state p).map Prod.fst = sweep visit fuel heap state p := by
  induction fuel generalizing heap state p with
  | zero => rfl
  | succ fuel ih =>
      rw [sweepVisits, sweep]
      cases heap p with
      | none => rfl
      | some node =>
          simp only [Option.bind_eq_bind, Option.bind_some]
          cases node.next with
          | none => rfl
          | some q =>
              simp only
              cases heap q with
              | none => rfl
              | some following =>
                  simp only [Option.bind_some]
                  cases visit state following.val with
                  | mk kept state =>
                      cases kept with
                      | none =>
                          simp only [← ih, Option.map_eq_bind, Option.bind_assoc, Option.bind_some]
                          rfl
                      | some val =>
                          simp only [← ih, Option.map_eq_bind, Option.bind_assoc, Option.bind_some]
                          rfl

/-! ## Heaps that hold a list -/

/-- A way to hold a list in a heap that the operations on a linked list keep. -/
class Holding (P : NodeHeap α → List (Nat × α) → Prop) : Prop where
  linked : ∀ {heap cells}, P heap cells → Linked heap cells
  setVal : ∀ {heap before after p val}, P heap (before ++ (p, val) :: after) → ∀ val',
    ∃ heap', setVal heap p val' = some heap' ∧ P heap' (before ++ (p, val') :: after)
  unlink : ∀ {heap before after p val}, P heap (before ++ (p, val) :: after) →
    ∃ heap', unlink heap p = some heap' ∧ P heap' (before ++ after)
  appendNode : ∀ {heap cells last fresh}, P heap cells → ∀ val, lastOr none cells = some last →
    fresh ∉ cells.map Prod.fst →
      ∃ heap', appendNode heap last fresh val = some heap' ∧ P heap' (cells ++ [(fresh, val)])

instance : Holding (@Linked α) where
  linked := id
  setVal := Linked.setVal
  unlink := Linked.unlink
  appendNode := Linked.appendNode

namespace Holding

variable {P : NodeHeap α → List (Nat × α) → Prop} [Holding P]

/--
A sweep from a node in the list leaves the cells up to it alone, visits each
cell after it once and in order, and sweeps them.
-/
theorem sweepVisits (visit : σ → α → Option α × σ) {rest : List (Nat × α)} :
    ∀ (state : σ) (before : List (Nat × α)) {heap : NodeHeap α} {fuel : Nat} {p : Nat} {val : α},
      P heap (before ++ (p, val) :: rest) → rest.length < fuel →
      ∃ heap', sweepVisits visit fuel heap state p =
          some ((heap', (sweepCells visit state rest).2), rest) ∧
        P heap' (before ++ (p, val) :: (sweepCells visit state rest).1) := by
  induction rest with
  | nil =>
      intro state before heap fuel p val holds enough
      obtain ⟨fuel, rfl⟩ := Nat.exists_eq_succ_of_ne_zero (Nat.ne_of_gt enough)
      obtain ⟨-, node, -⟩ := segment_append.mp (Holding.linked holds).segment
      refine ⟨heap, ?_, holds⟩
      simp only [GSMaster.Library.sweepVisits, node, firstOr, Option.bind_eq_bind, Option.bind_some]
      rfl
  | cons cell rest ih =>
      intro state before heap fuel p val holds enough
      obtain ⟨fuel, rfl⟩ := Nat.exists_eq_succ_of_ne_zero (Nat.ne_of_gt (Nat.zero_lt_of_lt enough))
      obtain ⟨q, held⟩ := cell
      have shorter := Nat.lt_of_succ_lt_succ enough
      obtain ⟨-, node, following, -⟩ := segment_append.mp (Holding.linked holds).segment
      have regrouped : before ++ (p, val) :: (q, held) :: rest =
          (before ++ [(p, val)]) ++ (q, held) :: rest := by simp
      cases visited : visit state held with
      | mk kept after =>
          cases kept with
          | none =>
              obtain ⟨heap₁, unlinked, holds₁⟩ := Holding.unlink (regrouped ▸ holds)
              have holds₂ : P heap₁ (before ++ (p, val) :: rest) := by simpa using holds₁
              obtain ⟨heap', swept, holds'⟩ := ih after before holds₂ shorter
              refine ⟨heap', ?_, ?_⟩
              · simp only [GSMaster.Library.sweepVisits, node, firstOr, Option.bind_eq_bind,
                  Option.bind_some, following, visited, unlinked, swept, sweepCells]
              · simpa only [sweepCells, visited] using holds'
          | some kept =>
              obtain ⟨heap₁, written, holds₁⟩ := Holding.setVal (regrouped ▸ holds) kept
              obtain ⟨heap', swept, holds'⟩ := ih after (before ++ [(p, val)]) holds₁ shorter
              refine ⟨heap', ?_, ?_⟩
              · simp only [GSMaster.Library.sweepVisits, node, firstOr, Option.bind_eq_bind,
                  Option.bind_some, following, visited, written, swept, sweepCells]
              · simpa only [sweepCells, visited, List.append_assoc, List.cons_append,
                  List.nil_append] using holds'

/-- A sweep from a node in the list leaves the cells up to it alone and sweeps the rest. -/
theorem sweep (visit : σ → α → Option α × σ) {rest : List (Nat × α)} (state : σ)
    (before : List (Nat × α)) {heap : NodeHeap α} {fuel : Nat} {p : Nat} {val : α}
    (holds : P heap (before ++ (p, val) :: rest)) (enough : rest.length < fuel) :
    ∃ heap', sweep visit fuel heap state p = some (heap', (sweepCells visit state rest).2) ∧
      P heap' (before ++ (p, val) :: (sweepCells visit state rest).1) := by
  obtain ⟨heap', swept, holds'⟩ := sweepVisits visit state before holds enough
  exact ⟨heap', by rw [← sweepVisits_sweep, swept]; rfl, holds'⟩

end Holding

end GSMaster.Library
