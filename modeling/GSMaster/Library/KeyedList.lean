import Mathlib.Data.List.Nodup

/-!
# Lists with distinct keys

An item makes an entry that joins a list at its end. An entry that is there
keeps out those with the same key, unless it is stale: then it leaves. A batch
of items leaves the entries that stay, and behind them an entry for the first
item of each key that is not held. The same keys again change nothing.
-/

namespace GSMaster.Library

universe u v w

variable {κ : Type u} {β : Type v} {γ : Type w} (key : β → κ) (make : γ → β) (stale : β → Bool)

/-- The keys of the entries that keep others out. -/
def heldKeys (entries : List β) : List κ :=
  (entries.filter fun entry => !stale entry).map key

variable {key stale} in
theorem mem_heldKeys {entries : List β} {k : κ} :
    k ∈ heldKeys key stale entries ↔ ∃ entry ∈ entries, stale entry = false ∧ key entry = k := by
  simp only [heldKeys, List.mem_map, List.mem_filter, Bool.not_eq_true', and_assoc]

variable {key make stale} in
theorem stale_of_free {entries : List β} {item : γ}
    (free : key (make item) ∉ heldKeys key stale entries) {entry : β} (member : entry ∈ entries)
    (same : key entry = key (make item)) : stale entry = true := by
  by_contra lively
  exact free (mem_heldKeys.mpr ⟨entry, member, Bool.eq_false_iff.mpr lively, same⟩)

variable [DecidableEq κ]

/-- One item comes to a list. -/
def enrol (entries : List β) (item : γ) : List β :=
  match entries.find? fun entry => decide (key entry = key (make item)) with
  | none => entries ++ [make item]
  | some held =>
      if stale held then
        (entries.filter fun entry => decide (key entry ≠ key (make item))) ++ [make item]
      else entries

def enrolAll (items : List γ) (entries : List β) : List β :=
  items.foldl (enrol key make stale) entries

/-- The first items of the keys that are not taken. -/
def newcomers : List κ → List γ → List γ
  | _, [] => []
  | taken, item :: items =>
      if key (make item) ∈ taken then newcomers taken items
      else item :: newcomers (key (make item) :: taken) items

/-- An entry stays where its key does not come, or where it is not stale. -/
def stays (keys : List κ) (entry : β) : Bool :=
  !stale entry || decide (key entry ∉ keys)

variable {key make stale}

theorem stays_iff {keys : List κ} {entry : β} :
    stays key stale keys entry = true ↔ stale entry = false ∨ key entry ∉ keys := by
  rw [stays, Bool.or_eq_true, Bool.not_eq_true', decide_eq_true_iff]

/-- Only which keys are taken counts. -/
theorem newcomers_congr {taken taken' : List κ} (same : ∀ k, k ∈ taken ↔ k ∈ taken')
    (items : List γ) : newcomers key make taken items = newcomers key make taken' items := by
  induction items generalizing taken taken' with
  | nil => rfl
  | cons item items ih =>
      rw [newcomers, newcomers]
      by_cases held : key (make item) ∈ taken
      · rw [if_pos held, if_pos ((same _).mp held), ih same]
      · rw [if_neg held, if_neg (mt (same _).mpr held)]
        exact congrArg _ (ih fun k => by rw [List.mem_cons, List.mem_cons, same])

/-! ## One item -/

/-- An entry that is not stale keeps an item with its key out. -/
theorem enrol_held {entries : List β} (distinct : (entries.map key).Nodup) {item : γ}
    (held : key (make item) ∈ heldKeys key stale entries) :
    enrol key make stale entries item = entries := by
  obtain ⟨holder, member, lively, same⟩ := mem_heldKeys.mp held
  obtain ⟨found, find⟩ : ∃ found,
      entries.find? (fun entry => decide (key entry = key (make item))) = some found :=
    Option.isSome_iff_exists.mp (List.find?_isSome.mpr ⟨holder, member, decide_eq_true same⟩)
  have equal : key found = key (make item) := by
    have passes := List.find?_some find
    exact of_decide_eq_true passes
  obtain rfl : found = holder :=
    List.inj_on_of_nodup_map distinct (List.mem_of_find?_eq_some find) member
      (equal.trans same.symm)
  rw [enrol, find]
  exact if_neg (Bool.eq_false_iff.mp lively)

/-- Any other item joins at the end, and a stale entry with its key leaves. -/
theorem enrol_joins {entries : List β} {item : γ}
    (free : key (make item) ∉ heldKeys key stale entries) :
    enrol key make stale entries item =
      (entries.filter fun entry => decide (key entry ≠ key (make item))) ++ [make item] := by
  rw [enrol]
  cases find : entries.find? fun entry => decide (key entry = key (make item)) with
  | none =>
      have others : ∀ entry ∈ entries, decide (key entry ≠ key (make item)) = true := by
        intro entry member
        have differs := List.find?_eq_none.mp find entry member
        exact decide_eq_true (of_decide_eq_false (Bool.eq_false_iff.mpr differs))
      rw [List.filter_eq_self.mpr others]
  | some found =>
      have equal : key found = key (make item) := by
        have passes := List.find?_some find
        exact of_decide_eq_true passes
      by_cases old : stale found = true
      · exact if_pos old
      · have member := List.mem_of_find?_eq_some find
        exact absurd (mem_heldKeys.mpr ⟨found, member, Bool.eq_false_iff.mpr old, equal⟩) free

theorem enrol_distinct {entries : List β} (distinct : (entries.map key).Nodup) (item : γ) :
    ((enrol key make stale entries item).map key).Nodup := by
  by_cases held : key (make item) ∈ heldKeys key stale entries
  · rw [enrol_held distinct held]
    exact distinct
  · rw [enrol_joins held, List.map_append, List.map_singleton, List.nodup_append]
    refine ⟨distinct.sublist (List.filter_sublist.map key), List.nodup_singleton _, ?_⟩
    intro k early k' last
    obtain ⟨entry, member, rfl⟩ := List.mem_map.mp early
    rw [List.mem_singleton.mp last]
    exact of_decide_eq_true (List.mem_filter.mp member).2

/-- The key of an item is held when it has come. -/
theorem mem_heldKeys_enrol {entries : List β} (distinct : (entries.map key).Nodup) {item : γ}
    (lively : stale (make item) = false) {k : κ} :
    k ∈ heldKeys key stale (enrol key make stale entries item) ↔
      k = key (make item) ∨ k ∈ heldKeys key stale entries := by
  by_cases held : key (make item) ∈ heldKeys key stale entries
  · rw [enrol_held distinct held]
    exact ⟨Or.inr, fun either => either.elim (fun same => same ▸ held) id⟩
  · rw [enrol_joins held, mem_heldKeys, mem_heldKeys]
    constructor
    · rintro ⟨entry, member, fresh, rfl⟩
      rcases List.mem_append.mp member with old | new
      · exact Or.inr ⟨entry, (List.mem_filter.mp old).1, fresh, rfl⟩
      · rw [List.mem_singleton.mp new]
        exact Or.inl rfl
    · rintro (rfl | ⟨entry, member, fresh, rfl⟩)
      · exact ⟨make item, List.mem_append_right _ (List.mem_singleton_self _), lively, rfl⟩
      · refine ⟨entry, List.mem_append_left _ (List.mem_filter.mpr ⟨member, ?_⟩), fresh, rfl⟩
        refine decide_eq_true fun same => ?_
        rw [stale_of_free held member same] at fresh
        cases fresh

/-- What stays when an item and then some keys come. -/
theorem filter_enrol {entries : List β} (distinct : (entries.map key).Nodup) {item : γ}
    (lively : stale (make item) = false) (keys : List κ) :
    (enrol key make stale entries item).filter (stays key stale keys) =
      entries.filter (stays key stale (key (make item) :: keys)) ++
        if key (make item) ∈ heldKeys key stale entries then [] else [make item] := by
  by_cases held : key (make item) ∈ heldKeys key stale entries
  · rw [enrol_held distinct held, if_pos held, List.append_nil]
    refine List.filter_congr fun entry member => ?_
    obtain ⟨holder, inside, fresh, same⟩ := mem_heldKeys.mp held
    rw [Bool.eq_iff_iff, stays_iff, stays_iff, List.mem_cons, not_or]
    constructor
    · rintro (stay | absent)
      · exact Or.inl stay
      · by_cases equal : key entry = key (make item)
        · obtain rfl := List.inj_on_of_nodup_map distinct member inside (equal.trans same.symm)
          exact Or.inl fresh
        · exact Or.inr ⟨equal, absent⟩
    · exact Or.imp_right And.right
  · have joined : stays key stale keys (make item) = true := stays_iff.mpr (Or.inl lively)
    rw [enrol_joins held, if_neg held, List.filter_append, List.filter_filter,
      List.filter_cons_of_pos joined, List.filter_nil]
    refine congrArg (· ++ _) (List.filter_congr fun entry member => ?_)
    rw [Bool.eq_iff_iff, Bool.and_eq_true, stays_iff, stays_iff, decide_eq_true_iff,
      List.mem_cons, not_or]
    constructor
    · rintro ⟨stay | absent, differs⟩
      · exact Or.inl stay
      · exact Or.inr ⟨differs, absent⟩
    · rintro (stay | ⟨differs, absent⟩)
      · refine ⟨Or.inl stay, fun equal => ?_⟩
        rw [stale_of_free held member equal] at stay
        cases stay
      · exact ⟨Or.inr absent, differs⟩

/-! ## A batch -/

/-- What a batch leaves: the entries that stay, and those of the newcomers. -/
theorem enrolAll_eq {items : List γ} (lively : ∀ item ∈ items, stale (make item) = false)
    {entries : List β} (distinct : (entries.map key).Nodup) :
    enrolAll key make stale items entries =
      entries.filter (stays key stale (items.map fun item => key (make item))) ++
        (newcomers key make (heldKeys key stale entries) items).map make := by
  induction items generalizing entries with
  | nil =>
      have all : ∀ entry ∈ entries, stays key stale [] entry = true := fun entry _ =>
        stays_iff.mpr (Or.inr List.not_mem_nil)
      rw [newcomers, List.map_nil, List.map_nil, List.append_nil, List.filter_eq_self.mpr all]
      rfl
  | cons item items ih =>
      obtain ⟨first, rest⟩ := List.forall_mem_cons.mp lively
      have taken (k : κ) : k ∈ heldKeys key stale (enrol key make stale entries item) ↔
          k ∈ key (make item) :: heldKeys key stale entries :=
        (mem_heldKeys_enrol distinct first).trans List.mem_cons.symm
      rw [enrolAll, List.foldl_cons, newcomers, List.map_cons]
      refine (ih rest (enrol_distinct distinct item)).trans ?_
      rw [filter_enrol distinct first, newcomers_congr taken]
      by_cases held : key (make item) ∈ heldKeys key stale entries
      · have again (k : κ) : k ∈ key (make item) :: heldKeys key stale entries ↔
            k ∈ heldKeys key stale entries :=
          List.mem_cons.trans (or_iff_right_of_imp fun same => same ▸ held)
        rw [if_pos held, if_pos held, List.append_nil, newcomers_congr again]
      · rw [if_neg held, if_neg held, List.append_assoc, List.map_cons, List.singleton_append]

theorem mem_heldKeys_enrolAll {items : List γ}
    (lively : ∀ item ∈ items, stale (make item) = false) {entries : List β}
    (distinct : (entries.map key).Nodup) {k : κ} :
    k ∈ heldKeys key stale (enrolAll key make stale items entries) ↔
      k ∈ items.map (fun item => key (make item)) ∨ k ∈ heldKeys key stale entries := by
  induction items generalizing entries with
  | nil => exact (or_iff_right List.not_mem_nil).symm
  | cons item items ih =>
      obtain ⟨first, rest⟩ := List.forall_mem_cons.mp lively
      rw [enrolAll, List.foldl_cons, List.map_cons, List.mem_cons]
      refine (ih rest (enrol_distinct distinct item)).trans ?_
      rw [mem_heldKeys_enrol distinct first, or_left_comm, or_assoc]

end GSMaster.Library
