import GSMaster.Downloads.Queue
import GSMaster.Downloads.Slots
import GSMaster.Library.ForwardList

/-!
# The download queue in memory

The functions of the queue on the blocks that `curl_queue` leads to. The block
of a request that starts is found at the end of the list and cut off in a loop
that moves `curl_queue` itself along the list and puts it back afterwards.
-/

namespace GSMaster.Downloads

open GSMaster.Text GSMaster.Library GSMaster.Lists

structure QueueMemory where
  heap : ForwardHeap QueueEntry
  nextBlock : Nat
  curlQueue : Option Nat

/-- The entry that `CURL_HTTP_AddToQueue` makes of the three strings. -/
def Request.stored : Request → Option QueueEntry
  | ⟨some url, some filename, some gamename⟩ =>
      some ⟨url.take (maxUrllength - 1), nameBuffer filename, nameBuffer gamename⟩
  | _ => none

namespace QueueMemory

def initial : QueueMemory :=
  ⟨fun _ => none, 0, none⟩

/-- `CURL_HTTP_GetQueue`: the entry, if there is one. -/
def getQueue (request : Request) (m : QueueMemory) : Option (Option QueueEntry) :=
  match request with
  | ⟨some url, some filename, some gamename⟩ =>
      findValue m.heap (fun next => stricmpEq next.url url && stricmpEq next.filename filename &&
        stricmpEq next.gamename gamename) m.nextBlock m.curlQueue
  | _ => some none

/-- `CURL_HTTP_AddToQueue`, with what `calloc` does. -/
def addToQueue (request : Request) (calloc : Bool) (m : QueueMemory) : Option QueueMemory :=
  match request.stored with
  | none => some m
  | some var =>
      (m.getQueue request).map fun found =>
        if found.isSome then m
        else if !calloc then m
        else
          { heap := pushNode m.heap m.curlQueue m.nextBlock var
            nextBlock := m.nextBlock + 1
            curlQueue := some m.nextBlock }

/-- The end of `CURL_HTTP_ScheduleQueue`, for a download that has started from block `var`. -/
def removeLast (var : Nat) (m : QueueMemory) : Option QueueMemory :=
  if m.curlQueue = some var then
    (freeNode m.heap var).map fun heap => { m with heap := heap, curlQueue := none }
  else
    (cutNode m.heap var m.nextBlock m.curlQueue).map fun heap => { m with heap := heap }

/-- `CURL_HTTP_ScheduleQueue`. -/
def scheduleQueue (pool : Pool) (supply : Supply) (m : QueueMemory) :
    Option (Pool × QueueMemory) :=
  match m.curlQueue with
  | none => some (pool, m)
  | some head =>
      if pool.activeHandles ≥ maxConcurrentCurlHandles then some (pool, m)
      else do
        let var ← lastNode m.heap m.nextBlock head
        let node : ForwardNode QueueEntry ← m.heap var
        let started ← pool.startDownload node.val.request supply
        if started.2 ≠ 0 then (m.removeLast var).map fun m => (started.1, m)
        else some (started.1, m)

/-- The queue lies in memory as these cells, and every block has been allocated. -/
structure Holds (m : QueueMemory) (cells : List (Nat × QueueEntry)) : Prop where
  linked : ForwardLinked m.heap m.curlQueue cells
  allocated : ∀ cell ∈ cells, cell.1 < m.nextBlock

/-- The entries that lie in memory. -/
def Shows (m : QueueMemory) (queue : List QueueEntry) : Prop :=
  ∃ cells, Holds m cells ∧ cells.map Prod.snd = queue

theorem initial_shows : initial.Shows [] :=
  ⟨[], ⟨⟨rfl, trivial, List.nodup_nil⟩, List.forall_mem_nil _⟩, rfl⟩

namespace Holds

variable {m : QueueMemory} {cells : List (Nat × QueueEntry)}

/-- There are at least as many blocks as cells. -/
theorem enough (holds : Holds m cells) : cells.length ≤ m.nextBlock := by
  have bounded : (cells.map Prod.fst).toFinset ⊆ Finset.range m.nextBlock := by
    intro p member
    obtain ⟨cell, inside, rfl⟩ := List.mem_map.mp (List.mem_toFinset.mp member)
    exact Finset.mem_range.mpr (holds.allocated cell inside)
  have count := Finset.card_le_card bounded
  rwa [List.toFinset_card_of_nodup holds.linked.distinct, List.length_map,
    Finset.card_range] at count

theorem getQueue (holds : Holds m cells) (pool : Pool) (request : Request) :
    m.getQueue request =
      some (CurlState.getQueue request ⟨pool, cells.map Prod.snd⟩) := by
  have found := fun test => findValue_segment holds.linked.segment test holds.enough
  rw [← holds.linked.head] at found
  match request with
  | ⟨some url, some filename, some gamename⟩ => exact found _
  | ⟨none, _, _⟩ => rfl
  | ⟨some _, none, _⟩ => rfl
  | ⟨some _, some _, none⟩ => rfl

/-- A new entry is put in front of the others. -/
theorem push (holds : Holds m cells) (var : QueueEntry) :
    Holds ⟨pushNode m.heap m.curlQueue m.nextBlock var, m.nextBlock + 1, some m.nextBlock⟩
      ((m.nextBlock, var) :: cells) := by
  have unused : m.nextBlock ∉ cells.map Prod.fst := by
    intro member
    obtain ⟨cell, inside, same⟩ := List.mem_map.mp member
    exact Nat.lt_irrefl _ (same ▸ holds.allocated cell inside)
  refine ⟨holds.linked.pushNode unused var, List.forall_mem_cons.mpr ⟨Nat.lt_succ_self _, ?_⟩⟩
  exact fun cell member => Nat.lt_succ_of_lt (holds.allocated cell member)

/-- The block at the end is cut off. -/
theorem removeLast {before : List (Nat × QueueEntry)} {var : Nat} {val : QueueEntry}
    (holds : Holds m (before ++ [(var, val)])) :
    ∃ m', m.removeLast var = some m' ∧ Holds m' before := by
  rcases List.eq_nil_or_concat' before with rfl | ⟨front, cell, rfl⟩
  · obtain ⟨head, heap', freed, empty⟩ := holds.linked.freeNode
    refine ⟨⟨heap', m.nextBlock, none⟩, ?_, empty, List.forall_mem_nil _⟩
    rw [QueueMemory.removeLast, if_pos head, freed, Option.map_some]
  · have several : front ++ [cell] ++ [(var, val)] = front ++ [cell, (var, val)] :=
      List.append_assoc ..
    have enough := holds.enough
    have linked := holds.linked
    rw [several] at linked
    simp only [List.length_append, List.length_singleton] at enough
    obtain ⟨heap', cut, shorter⟩ := linked.cutNode (by omega : front.length < m.nextBlock)
    have elsewhere : m.curlQueue ≠ some var := by
      rw [linked.head]
      exact firstOr_ne_last linked.distinct
    refine ⟨⟨heap', m.nextBlock, m.curlQueue⟩, ?_, shorter, ?_⟩
    · rw [QueueMemory.removeLast, if_neg elsewhere, cut, Option.map_some]
    · exact fun other member => holds.allocated other (List.mem_append_left _ member)

end Holds

/-! ## Refinement -/

/-- `CURL_HTTP_AddToQueue` in memory is the one on lists, or does nothing without memory. -/
theorem addToQueue_shows {m : QueueMemory} {queue : List QueueEntry} (shows : m.Shows queue)
    (pool : Pool) (request : Request) (calloc : Bool) :
    ∃ m', m.addToQueue request calloc = some m' ∧
      m'.Shows (if calloc then (CurlState.addToQueue request ⟨pool, queue⟩).curlQueue
        else queue) := by
  obtain ⟨cells, holds, rfl⟩ := shows
  have same : m.Shows (cells.map Prod.snd) := ⟨cells, holds, rfl⟩
  have found := holds.getQueue pool request
  match request with
  | ⟨none, _, _⟩ => exact ⟨m, rfl, by cases calloc <;> exact same⟩
  | ⟨some _, none, _⟩ => exact ⟨m, rfl, by cases calloc <;> exact same⟩
  | ⟨some _, some _, none⟩ => exact ⟨m, rfl, by cases calloc <;> exact same⟩
  | ⟨some url, some filename, some gamename⟩ =>
      rw [addToQueue, Request.stored]
      simp only [found, Option.map_some]
      refine ⟨_, rfl, ?_⟩
      rw [CurlState.addToQueue]
      split
      · simp only [ite_self]
        exact same
      · cases calloc with
        | false => exact same
        | true => exact ⟨_, holds.push _, rfl⟩

/-- `CURL_HTTP_ScheduleQueue` in memory is the one on lists. -/
theorem scheduleQueue_shows {m : QueueMemory} {queue : List QueueEntry} (shows : m.Shows queue)
    {pool : Pool} (sound : pool.Sound) (supply : Supply) :
    ∃ next m', CurlState.scheduleQueue supply ⟨pool, queue⟩ = some next ∧
      m.scheduleQueue pool supply = some (next.pool, m') ∧ m'.Shows next.curlQueue := by
  obtain ⟨cells, holds, rfl⟩ := shows
  rcases List.eq_nil_or_concat' cells with rfl | ⟨before, cell, rfl⟩
  · have head : m.curlQueue = none := holds.linked.head
    refine ⟨⟨pool, []⟩, m, rfl, ?_, [], holds, rfl⟩
    rw [scheduleQueue, head]
  · obtain ⟨head, first⟩ := exists_firstOr_concat before cell
    have enough := holds.enough
    rw [List.length_append, List.length_singleton] at enough
    have last := lastNode_segment holds.linked.segment first enough
    have node : m.heap cell.1 = some ⟨none, cell.2⟩ :=
      (forwardSegment_append.mp holds.linked.segment).2.1
    have names : (before ++ [cell]).map Prod.snd = before.map Prod.snd ++ [cell.2] :=
      List.map_append
    obtain ⟨m₁, removed, shorter⟩ := holds.removeLast
    rw [scheduleQueue, holds.linked.head, first, CurlState.scheduleQueue, names]
    simp only [List.append_eq_nil_iff, List.cons_ne_nil, and_false, false_or,
      List.getLast?_append, List.getLast?_singleton, Option.some_or, List.dropLast_concat]
    by_cases full : pool.activeHandles ≥ maxConcurrentCurlHandles
    · rw [if_pos full, if_pos full]
      exact ⟨_, m, rfl, rfl, before ++ [cell], holds, names⟩
    · rw [if_neg full, if_neg full]
      simp only [last, node, Option.bind_eq_bind, Option.bind_some]
      rcases Pool.startDownload_spec sound cell.2.request supply with
        ⟨pool', _, _, _, _, started, -⟩ | ⟨pool', refused, -⟩
      · rw [started]
        refine ⟨⟨pool', before.map Prod.snd⟩, m₁, rfl, ?_, before, shorter, rfl⟩
        simp only [Option.bind_some, removed, Option.map_some]
        rfl
      · rw [refused]
        exact ⟨⟨pool', before.map Prod.snd ++ [cell.2]⟩, m, rfl, rfl, before ++ [cell], holds,
          names⟩

end QueueMemory

end GSMaster.Downloads
