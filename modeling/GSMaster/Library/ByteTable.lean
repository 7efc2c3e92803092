import Mathlib

/-!
# Tables indexed by a byte

A table of 256 entries whose index is a byte is never read or written out of
range. Swapping two entries is the step of every byte-shuffling cipher.
-/

namespace GSMaster.Library

universe u

structure ByteTable (α : Type u) where
  entries : Vector α 256

namespace ByteTable

variable {α : Type u}

def ofFn (entry : UInt8 → α) : ByteTable α :=
  ⟨Vector.ofFn fun i => entry (UInt8.ofFin i)⟩

def get (table : ByteTable α) (i : UInt8) : α :=
  table.entries.get i.toFin

def set (table : ByteTable α) (i : UInt8) (value : α) : ByteTable α :=
  ⟨table.entries.set i.toNat value i.toFin.isLt⟩

/-- Exchange the entries at two indices. -/
def swap (table : ByteTable α) (i j : UInt8) : ByteTable α :=
  (table.set i (table.get j)).set j (table.get i)

@[simp] theorem get_ofFn (entry : UInt8 → α) (i : UInt8) : (ofFn entry).get i = entry i := by
  simp only [get, ofFn, Vector.get_ofFn]
  exact congrArg entry (UInt8.ofFin_toFin i)

theorem get_set (table : ByteTable α) (i j : UInt8) (value : α) :
    (table.set i value).get j = if i = j then value else table.get j := by
  have entry := @Vector.getElem_set _ _ table.entries _ value i.toFin.isLt _ j.toFin.isLt
  exact entry.trans (if_congr UInt8.toNat_inj rfl rfl)

theorem ext_get {table other : ByteTable α} (same : ∀ i, table.get i = other.get i) :
    table = other := by
  obtain ⟨entries⟩ := table
  obtain ⟨others⟩ := other
  refine congrArg mk (Vector.ext fun i inside => ?_)
  exact same (UInt8.ofFin ⟨i, inside⟩)

/-- A swap of entries is a swap of indices. -/
theorem get_swap (table : ByteTable α) (i j k : UInt8) :
    (table.swap i j).get k = table.get (Equiv.swap i j k) := by
  rw [swap, get_set, get_set, Equiv.swap_apply_def]
  by_cases first : i = k
  · subst first
    by_cases second : j = i
    · rw [if_pos second, if_pos rfl, second]
    · rw [if_neg second, if_pos rfl, if_pos rfl]
  · rw [if_neg first, if_neg (Ne.symm first)]
    by_cases second : j = k
    · rw [if_pos second, if_pos second.symm]
    · rw [if_neg second, if_neg (Ne.symm second)]

/--
Moving an entry over another one that is kept aside, and putting that one where
the moved entry was, is a swap.
-/
theorem set_get_set (table : ByteTable α) (i j : UInt8) (aside : α) :
    (table.set i (table.get j)).set j aside = (table.set i aside).swap i j := by
  apply ext_get
  intro k
  simp only [swap, get_set, if_true]
  grind

/-! ## Permutations -/

/-- Each byte stands at exactly one index. -/
def IsPermutation (table : ByteTable UInt8) : Prop :=
  Function.Bijective table.get

theorem IsPermutation.swap {table : ByteTable UInt8} (permutes : table.IsPermutation)
    (i j : UInt8) : (table.swap i j).IsPermutation := by
  have moved : (table.swap i j).get = table.get ∘ Equiv.swap i j := funext (get_swap table i j)
  rw [IsPermutation, moved]
  exact permutes.comp (Equiv.swap i j).bijective

theorem isPermutation_ofFn {entry : UInt8 → UInt8} (bijective : Function.Bijective entry) :
    (ofFn entry).IsPermutation := by
  rw [IsPermutation, show (ofFn entry).get = entry from funext (get_ofFn entry)]
  exact bijective

end ByteTable

end GSMaster.Library
