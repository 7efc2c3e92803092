import Mathlib.Data.List.Basic

/-!
# Streams of records

Records that stand one after another in front of a closing text, without a
count. A reader that can tell a record from whatever may stand behind it takes
the records back in order and stops at the closing text.
-/

namespace GSMaster.Library

universe u v w

variable {α : Type u} {β : Type v} {γ : Type w}

/-- What a reader takes off the front of a stream, with no more steps than the fuel has. -/
def readRecords (read : List β → Option (γ × List β)) : Nat → List β → List γ
  | 0, _ => []
  | fuel + 1, stream =>
      match read stream with
      | none => []
      | some (value, rest) => value :: readRecords read fuel rest

/-- A stream has no more records than elements. -/
def readStream (read : List β → Option (γ × List β)) (stream : List β) : List γ :=
  readRecords read stream.length stream

/--
A reader reads the value of every record in front of what may stand behind
one, and more records may.
-/
structure Delimits (write : α → List β) (value : α → γ) (read : List β → Option (γ × List β))
    (behind : List β → Prop) : Prop where
  nonempty : ∀ item, write item ≠ []
  more : ∀ item rest, behind rest → behind (write item ++ rest)
  reads : ∀ item rest, behind rest → read (write item ++ rest) = some (value item, rest)

variable {write : α → List β} {value : α → γ} {read : List β → Option (γ × List β)}
  {behind : List β → Prop}

theorem Delimits.behind_records (delimits : Delimits write value read behind)
    {closing : List β} (ends : behind closing) (items : List α) :
    behind (items.flatMap write ++ closing) := by
  induction items with
  | nil => exact ends
  | cons item items ih =>
      rw [List.flatMap_cons, List.append_assoc]
      exact delimits.more item _ ih

theorem Delimits.length_le (delimits : Delimits write value read behind) (items : List α) :
    items.length ≤ (items.flatMap write).length := by
  induction items with
  | nil => exact Nat.zero_le _
  | cons item items ih =>
      have here : 0 < (write item).length := List.length_pos_of_ne_nil (delimits.nonempty item)
      rw [List.flatMap_cons, List.length_append, List.length_cons]
      omega

theorem Delimits.readRecords_eq (delimits : Delimits write value read behind)
    {closing : List β} (ends : behind closing) (stops : read closing = none) (items : List α)
    {fuel : Nat} (enough : items.length ≤ fuel) :
    readRecords read fuel (items.flatMap write ++ closing) = items.map value := by
  induction items generalizing fuel with
  | nil =>
      cases fuel with
      | zero => rfl
      | succ fuel =>
          rw [List.flatMap_nil, List.nil_append, readRecords, stops]
          rfl
  | cons item items ih =>
      cases fuel with
      | zero => exact absurd enough (Nat.not_succ_le_zero _)
      | succ fuel =>
          have rest := delimits.behind_records ends items
          rw [List.flatMap_cons, List.append_assoc, readRecords, delimits.reads item _ rest,
            List.map_cons, ← ih (Nat.le_of_succ_le_succ enough)]

/-- All the records are read back, and nothing else. -/
theorem Delimits.readStream_eq (delimits : Delimits write value read behind)
    {closing : List β} (ends : behind closing) (stops : read closing = none) (items : List α) :
    readStream read (items.flatMap write ++ closing) = items.map value := by
  refine delimits.readRecords_eq ends stops items ?_
  rw [List.length_append]
  exact Nat.le_trans (delimits.length_le items) (Nat.le_add_right _ _)

end GSMaster.Library
