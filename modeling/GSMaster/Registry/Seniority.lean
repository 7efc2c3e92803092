import GSMaster.Registry.Chronicle
import Mathlib.Data.List.Dedup

/-!
# The order of the registry

New entries go to the end of the list and no operation moves an old one. The
registry is therefore in the order in which the journal has its entries created,
where only the latest creation of a key counts.
-/

namespace GSMaster.Registry

open GSMaster.Text GSMaster.Net GSMaster.Games GSMaster.Library ServerList

/-! ## Latest occurrences -/

/-- Some of the old entries in their order, and the new ones behind them. -/
def Extends (reg reg' : ServerList) : Prop :=
  ∃ kept made, reg'.identities = kept ++ made ∧ kept.Sublist reg.identities ∧
    ∀ entry ∈ made, reg.nextBlock ≤ entry.1

theorem Extends.of_sublist {reg reg' : ServerList}
    (fewer : reg'.identities.Sublist reg.identities) : Extends reg reg' :=
  ⟨reg'.identities, [], (List.append_nil _).symm, fewer, fun _ member => nomatch member⟩

theorem Extends.refl (reg : ServerList) : Extends reg reg :=
  Extends.of_sublist (List.Sublist.refl _)

theorem Extends.trans {first second third : ServerList} (left : Extends first second)
    (right : Extends second third) (grows : first.nextBlock ≤ second.nextBlock) :
    Extends first third := by
  obtain ⟨kept, made, leftEq, fewer, new⟩ := left
  obtain ⟨kept', made', rightEq, fewer', new'⟩ := right
  rw [leftEq] at fewer'
  obtain ⟨old, recent, rfl, fewerOld, fewerRecent⟩ := List.sublist_append_iff.mp fewer'
  refine ⟨old, recent ++ made', ?_, fewerOld.trans fewer, ?_⟩
  · rw [rightEq, List.append_assoc]
  · intro entry member
    rcases List.mem_append.mp member with inside | inside
    · exact new entry (fewerRecent.subset inside)
    · exact Nat.le_trans grows (new' entry inside)

theorem Extends.send {reg reg' : ServerList} (left : Extends reg reg')
    (datagrams : List Datagram) : Extends reg (reg'.send datagrams) :=
  left

def Notice.creates : Notice → Option ServerKey
  | .created key => some key
  | _ => none

/-- The keys of the entries that a journal has created. -/
def creations (journal : List Notice) : List ServerKey :=
  journal.filterMap Notice.creates

/-- The keys of a later registry: the keys of the entries that were kept, and the new ones. -/
theorem Extends.keys {reg reg' : ServerList} (sound : reg.WellFormed)
    (extended : Extends reg reg') :
    ∃ kept, kept.Sublist (reg.cells.map fun cell => cell.2.key) ∧
      (reg'.cells.map fun cell => cell.2.key) = kept ++ born reg reg' := by
  obtain ⟨kept, made, entries, fewer, new⟩ := extended
  have keys : ∀ other : ServerList, (other.cells.map fun cell => cell.2.key) =
      other.identities.map fun entry => entry.2.1 := by
    intro other
    rw [identities, List.map_map]
    rfl
  have bornEq : born reg reg' = made.map fun entry => entry.2.1 := by
    have shape : born reg reg' =
        (reg'.identities.filter fun entry => reg.nextBlock ≤ entry.1).map
          fun entry => entry.2.1 := by
      rw [identities, List.filter_map, List.map_map]
      rfl
    have none : (kept.filter fun entry => reg.nextBlock ≤ entry.1) = [] := by
      refine List.filter_eq_nil_iff.mpr fun entry member => ?_
      have old := (sound.allocated entry (fewer.subset member)).2
      exact fun late => absurd old (Nat.not_lt.mpr (of_decide_eq_true late))
    have all : (made.filter fun entry => reg.nextBlock ≤ entry.1) = made :=
      List.filter_eq_self.mpr fun entry member => decide_eq_true (new entry member)
    rw [shape, entries, List.filter_append, none, all, List.nil_append]
  refine ⟨kept.map fun entry => entry.2.1, ?_, ?_⟩
  · rw [keys reg]
    exact fewer.map _
  · rw [keys reg', entries, List.map_append, bornEq]

end GSMaster.Registry
