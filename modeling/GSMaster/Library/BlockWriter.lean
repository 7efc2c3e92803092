import Mathlib

/-!
# Writing a text in blocks

A writer collects bytes in a block and hands the block to a sink when the next
piece might not fit. The sink may take only a part of a block, or fail. What
has been written so far, sent or not, is one list, and only storing adds to it.
-/

namespace GSMaster.Library

/-- How much of the block that is offered next the sink takes; none is a failure. -/
abbrev Sink (α : Type) := Nat → List α → Option Nat

/-- The sink takes every block in full. -/
def Sink.Full {α : Type} (sink : Sink α) : Prop :=
  ∀ index block, sink index block = some block.length

/-- A growing block, whether a store has passed its capacity, and what the sink took. -/
structure BlockWriter (α : Type) where
  block : List α
  capacity : Nat
  overrun : Bool
  sent : List (List α)

namespace BlockWriter

variable {α : Type}

def empty (capacity : Nat) : BlockWriter α :=
  ⟨[], capacity, false, []⟩

/-- All that has been written, in order. -/
def written (writer : BlockWriter α) : List α :=
  writer.sent.flatten ++ writer.block

/-- Append a piece to the block, noting whether it ends behind the capacity. -/
def store (writer : BlockWriter α) (piece : List α) : BlockWriter α :=
  { writer with
    block := writer.block ++ piece
    overrun := writer.overrun || decide (writer.capacity < writer.block.length + piece.length) }

/-- Enlarge the block once if `room` more elements would reach the capacity. -/
def reserve (writer : BlockWriter α) (room growth : Nat) : BlockWriter α :=
  if writer.capacity ≤ writer.block.length + room then
    { writer with capacity := writer.capacity + growth }
  else writer

/-- Offer a list to the sink; the writer that a failure leaves is the error. -/
def send (sink : Sink α) (writer : BlockWriter α) (piece : List α) :
    Except (BlockWriter α) (BlockWriter α) :=
  match sink writer.sent.length piece with
  | none => .error writer
  | some taken => .ok { writer with sent := writer.sent ++ [piece.take taken] }

/-- Send the block and start a new one if `room` more elements would reach the limit. -/
def flush (sink : Sink α) (writer : BlockWriter α) (room limit : Nat) :
    Except (BlockWriter α) (BlockWriter α) :=
  if limit ≤ writer.block.length + room then do
    let writer ← writer.send sink writer.block
    return { writer with block := [] }
  else return writer

/-- Send a list in pieces of `limit` elements; the last one is shorter, perhaps empty. -/
def sendChunks (sink : Sink α) (limit : Nat) (positive : 0 < limit) (writer : BlockWriter α)
    (pieces : List α) : Except (BlockWriter α) (BlockWriter α) :=
  if limit ≤ pieces.length then do
    let writer ← writer.send sink (pieces.take limit)
    sendChunks sink limit positive writer (pieces.drop limit)
  else writer.send sink pieces
termination_by pieces.length

/-- Every block the sink took has at most `limit` elements. -/
def SentWithin (limit : Nat) (writer : BlockWriter α) : Prop :=
  ∀ block ∈ writer.sent, block.length ≤ limit

@[simp] theorem written_store (writer : BlockWriter α) (piece : List α) :
    (writer.store piece).written = writer.written ++ piece := by
  rw [written, written, List.append_assoc]
  rfl

@[simp] theorem store_block (writer : BlockWriter α) (piece : List α) :
    (writer.store piece).block = writer.block ++ piece := rfl

@[simp] theorem store_sent (writer : BlockWriter α) (piece : List α) :
    (writer.store piece).sent = writer.sent := rfl

@[simp] theorem stores_block (writer : BlockWriter α) (pieces : List (List α)) :
    (pieces.foldl store writer).block = writer.block ++ pieces.flatten := by
  induction pieces generalizing writer with
  | nil => exact (List.append_nil _).symm
  | cons piece pieces ih =>
      rw [List.foldl_cons, ih, store_block, List.flatten_cons, List.append_assoc]

@[simp] theorem stores_sent (writer : BlockWriter α) (pieces : List (List α)) :
    (pieces.foldl store writer).sent = writer.sent := by
  induction pieces generalizing writer with
  | nil => rfl
  | cons piece pieces ih => exact ih (writer.store piece)

theorem stores_written (writer : BlockWriter α) (pieces : List (List α)) :
    (pieces.foldl store writer).written = writer.written ++ pieces.flatten := by
  rw [written, written, stores_sent, stores_block, List.append_assoc]

@[simp] theorem stores_capacity (writer : BlockWriter α) (pieces : List (List α)) :
    (pieces.foldl store writer).capacity = writer.capacity := by
  induction pieces generalizing writer with
  | nil => rfl
  | cons piece pieces ih => exact ih (writer.store piece)

@[simp] theorem reserve_block (writer : BlockWriter α) (room growth : Nat) :
    (writer.reserve room growth).block = writer.block := by
  unfold reserve
  split <;> rfl

@[simp] theorem reserve_sent (writer : BlockWriter α) (room growth : Nat) :
    (writer.reserve room growth).sent = writer.sent := by
  unfold reserve
  split <;> rfl

@[simp] theorem written_reserve (writer : BlockWriter α) (room growth : Nat) :
    (writer.reserve room growth).written = writer.written := by
  rw [written, written, reserve_sent, reserve_block]

theorem SentWithin.snoc {limit : Nat} {writer : BlockWriter α} (within : writer.SentWithin limit)
    {piece : List α} (short : piece.length ≤ limit) :
    ({ writer with sent := writer.sent ++ [piece] } : BlockWriter α).SentWithin limit := by
  intro block member
  rcases List.mem_append.mp member with earlier | last
  · exact within block earlier
  · rw [List.mem_singleton.mp last]
    exact short

theorem flush_below {sink : Sink α} {writer : BlockWriter α} {room limit : Nat}
    (below : writer.block.length + room < limit) : writer.flush sink room limit = .ok writer :=
  if_neg (Nat.not_le.mpr below)

/-- Flushing empties the block where it is sent. -/
theorem flush_length {sink : Sink α} {writer flushed : BlockWriter α} {room limit : Nat}
    (flushes : writer.flush sink room limit = .ok flushed) :
    flushed.block.length =
      if limit ≤ writer.block.length + room then 0 else writer.block.length := by
  unfold flush at flushes
  split at flushes
  · rename_i reached
    rw [if_pos reached]
    cases sends : writer.send sink writer.block with
    | ok sent =>
        rw [sends] at flushes
        cases flushes
        rfl
    | error failed =>
        rw [sends] at flushes
        cases flushes
  · rename_i below
    rw [if_neg below]
    cases flushes
    rfl

theorem reserve_below {writer : BlockWriter α} {room : Nat} (growth : Nat)
    (below : writer.block.length + room < writer.capacity) : writer.reserve room growth = writer :=
  if_neg (Nat.not_le.mpr below)

/-! ## Staying inside the capacity -/

/-- Nothing has been stored behind the capacity, which is at least `least`. -/
structure Fits (least : Nat) (writer : BlockWriter α) : Prop where
  clean : writer.overrun = false
  inside : writer.block.length ≤ writer.capacity
  grown : least ≤ writer.capacity

/-- The writer that a run leaves, at its end or at a failed send. -/
def left : Except (BlockWriter α) (BlockWriter α) → BlockWriter α
  | .ok writer => writer
  | .error writer => writer

/-- What holds where a run ends or fails holds where a longer run does. -/
theorem left_bind {P : BlockWriter α → Prop} {run : Except (BlockWriter α) (BlockWriter α)}
    {next : BlockWriter α → Except (BlockWriter α) (BlockWriter α)}
    (early : P (left run)) (later : ∀ writer, P writer → P (left (next writer))) :
    P (left (run >>= next)) := by
  cases run with
  | ok writer => exact later writer early
  | error writer => exact early

theorem fits_empty (capacity : Nat) : Fits capacity (empty capacity : BlockWriter α) :=
  ⟨rfl, Nat.zero_le _, Nat.le_refl _⟩

/-- A piece is stored inside the capacity when it ends there. -/
theorem Fits.store {least : Nat} {writer : BlockWriter α} (fits : writer.Fits least)
    {piece : List α} (short : writer.block.length + piece.length ≤ writer.capacity) :
    (writer.store piece).Fits least := by
  refine ⟨?_, ?_, fits.grown⟩
  · change (writer.overrun || decide _) = false
    rw [fits.clean, Bool.false_or]
    exact decide_eq_false (Nat.not_lt.mpr short)
  · rw [store_block, List.length_append]
    exact short

theorem store_overrun {least : Nat} {writer : BlockWriter α} (fits : writer.Fits least)
    (piece : List α) :
    (writer.store piece).overrun = false ↔
      writer.block.length + piece.length ≤ writer.capacity := by
  change (writer.overrun || decide _) = false ↔ _
  rw [fits.clean, Bool.false_or, decide_eq_false_iff_not, Nat.not_lt]

/-- Pieces that end inside the capacity together are all stored inside it. -/
theorem Fits.stores {least : Nat} {writer : BlockWriter α} (fits : writer.Fits least)
    {pieces : List (List α)}
    (short : writer.block.length + pieces.flatten.length ≤ writer.capacity) :
    (pieces.foldl BlockWriter.store writer).Fits least := by
  induction pieces generalizing writer with
  | nil => exact fits
  | cons piece pieces ih =>
      rw [List.flatten_cons, List.length_append] at short
      refine ih (fits.store (by omega)) ?_
      change (writer.block ++ piece).length + pieces.flatten.length ≤ writer.capacity
      rw [List.length_append]
      omega

/-- A growth above the room asked for is enough. -/
theorem Fits.reserve {least : Nat} {writer : BlockWriter α} (fits : writer.Fits least)
    {room growth : Nat} (enough : room < growth) :
    (writer.reserve room growth).Fits least ∧
      writer.block.length + room < (writer.reserve room growth).capacity := by
  have inside := fits.inside
  have grown := fits.grown
  unfold BlockWriter.reserve
  split
  · refine ⟨⟨fits.clean, Nat.le_add_right_of_le inside, Nat.le_add_right_of_le grown⟩, ?_⟩
    change writer.block.length + room < writer.capacity + growth
    omega
  · rename_i below
    exact ⟨fits, Nat.lt_of_not_le below⟩

theorem Fits.send {least : Nat} {writer : BlockWriter α} (fits : writer.Fits least)
    (sink : Sink α) (piece : List α) : (left (writer.send sink piece)).Fits least := by
  unfold BlockWriter.send
  split
  · exact fits
  · exact ⟨fits.clean, fits.inside, fits.grown⟩

theorem Fits.flush {least : Nat} {writer : BlockWriter α} (fits : writer.Fits least)
    (sink : Sink α) (room limit : Nat) : (left (writer.flush sink room limit)).Fits least := by
  unfold BlockWriter.flush
  split
  · refine left_bind (P := Fits least) (fits.send sink _) fun sent still => ?_
    exact ⟨still.clean, Nat.zero_le _, still.grown⟩
  · exact fits

/-- A flushed writer has room for `room` more elements below the limit. -/
theorem flush_room {sink : Sink α} {writer flushed : BlockWriter α} {room limit : Nat}
    (short : room < limit) (flushes : writer.flush sink room limit = .ok flushed) :
    flushed.block.length + room < limit := by
  unfold BlockWriter.flush at flushes
  split at flushes
  · cases sends : writer.send sink writer.block with
    | ok sent =>
        rw [sends] at flushes
        cases flushes
        rw [List.length_nil, Nat.zero_add]
        exact short
    | error failed =>
        rw [sends] at flushes
        cases flushes
  · rename_i below
    cases flushes
    exact Nat.lt_of_not_le below

theorem Fits.sendChunks {least : Nat} {writer : BlockWriter α} (fits : writer.Fits least)
    (sink : Sink α) {limit : Nat} (positive : 0 < limit) (pieces : List α) :
    (left (writer.sendChunks sink limit positive pieces)).Fits least := by
  induction pieces using Nat.strongRecMeasure List.length generalizing writer with
  | ind pieces ih =>
      unfold BlockWriter.sendChunks
      by_cases long : limit ≤ pieces.length
      · rw [if_pos long]
        refine left_bind (P := Fits least) (fits.send sink _) fun sent still => ?_
        exact ih (pieces.drop limit) (by rw [List.length_drop]; omega) still
      · rw [if_neg long]
        exact fits.send sink pieces

section Full

variable {sink : Sink α} (full : sink.Full)

include full

theorem send_full (writer : BlockWriter α) (piece : List α) :
    writer.send sink piece = .ok { writer with sent := writer.sent ++ [piece] } := by
  simp only [send, full writer.sent.length piece, List.take_length]

/-- Flushing moves text from the block to the sink and leaves room below the limit. -/
theorem flush_full {writer : BlockWriter α} {room limit : Nat} (short : room < limit)
    (within : writer.SentWithin limit) (block : writer.block.length ≤ limit) :
    ∃ flushed, writer.flush sink room limit = .ok flushed ∧ flushed.written = writer.written ∧
      flushed.SentWithin limit ∧ flushed.block.length + room < limit := by
  unfold flush
  split
  case isTrue reached =>
      refine ⟨⟨[], writer.capacity, writer.overrun, writer.sent ++ [writer.block]⟩, ?_, ?_, ?_, ?_⟩
      · rw [send_full full]
        rfl
      · simp only [written, List.flatten_append, List.flatten_singleton, List.append_nil]
      · exact within.snoc block
      · rw [List.length_nil, Nat.zero_add]
        exact short
  case isFalse below =>
      exact ⟨writer, rfl, rfl, within, Nat.lt_of_not_le below⟩

/-- The pieces of a chunked list are the list. -/
theorem sendChunks_full {limit : Nat} (positive : 0 < limit) {writer : BlockWriter α}
    (within : writer.SentWithin limit) (pieces : List α) :
    ∃ done, writer.sendChunks sink limit positive pieces = .ok done ∧
      done.sent.flatten = writer.sent.flatten ++ pieces ∧ done.SentWithin limit := by
  induction pieces using Nat.strongRecMeasure List.length generalizing writer with
  | ind pieces ih =>
      unfold sendChunks
      rw [send_full full, send_full full]
      by_cases long : limit ≤ pieces.length
      · rw [if_pos long]
        obtain ⟨done, sendsRest, sentEq, doneWithin⟩ := ih (pieces.drop limit)
          (by rw [List.length_drop]; omega) (within.snoc (List.length_take_le _ _))
        refine ⟨done, sendsRest, ?_, doneWithin⟩
        rw [sentEq, List.flatten_append, List.flatten_singleton, List.append_assoc,
          List.take_append_drop]
      · rw [if_neg long]
        refine ⟨_, rfl, ?_, within.snoc (Nat.le_of_lt (Nat.lt_of_not_le long))⟩
        rw [List.flatten_append, List.flatten_singleton]

end Full

end BlockWriter

end GSMaster.Library
