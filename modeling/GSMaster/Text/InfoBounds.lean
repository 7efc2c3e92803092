import GSMaster.Text.InfoString

/-!
# The stores of the key and value scan

`Info_ValueForKey` copies each segment of a text byte by byte into a buffer of
`maxInfoString` bytes and looks at nothing but the separators. Where it writes
is the trace of the scan; whether that is inside the buffers is decided by the
lengths of the segments that it gets to.
-/

namespace GSMaster.Text

/-- The buffers that the copy loops write. -/
inductive InfoBuffer where
  | pkey
  | value
  deriving DecidableEq, Repr

/-- A store of one byte: the buffer and the index in it. -/
abbrev InfoStore := InfoBuffer × Nat

/-- The stores of the loops of `Info_ValueForKey`, in order, as `infoScan` goes through them. -/
def infoScanStores (key pkey : CString) : Option CString → CString → List InfoStore
  | none, [] => []
  | some value, [] => [(.value, value.length)]
  | none, c :: rest =>
      (.pkey, pkey.length) ::
        if c = backslash then infoScanStores key pkey (some []) rest
        else infoScanStores key (pkey ++ [c]) none rest
  | some value, c :: rest =>
      (.value, value.length) ::
        if c = backslash then if key = pkey then [] else infoScanStores key [] none rest
        else infoScanStores key pkey (some (value ++ [c])) rest

/-- The stores of `Info_ValueForKey`. -/
def infoStores (text key : CString) : List InfoStore :=
  infoScanStores key [] none (skipBackslash text)

/-- Every store has an index inside its buffer. -/
def StoresWithin (stores : List InfoStore) : Prop :=
  ∀ store ∈ stores, store.2 < maxInfoString

instance (stores : List InfoStore) : Decidable (StoresWithin stores) :=
  inferInstanceAs (Decidable (∀ store ∈ stores, store.2 < maxInfoString))

/--
The segments of a text, keys and values by turns, are short up to the value of
the key that is looked for. A key that the end of the text cuts off has no
terminator.
-/
def SegmentsFit (key : CString) : List CString → Prop
  | [] => True
  | [pkey] => pkey.length ≤ maxInfoString
  | pkey :: value :: rest =>
      pkey.length < maxInfoString ∧ value.length < maxInfoString ∧
        (key ≠ pkey → SegmentsFit key rest)

@[simp] theorem storesWithin_nil : StoresWithin [] :=
  fun _ member => nomatch member

@[simp] theorem storesWithin_cons (store : InfoStore) (stores : List InfoStore) :
    StoresWithin (store :: stores) ↔ store.2 < maxInfoString ∧ StoresWithin stores :=
  List.forall_mem_cons

theorem infoScanFits_iff (key pkey : CString) (value : Option CString) (text : CString) :
    infoScanFits key pkey value text = true ↔
      StoresWithin (infoScanStores key pkey value text) := by
  induction text generalizing pkey value with
  | nil => cases value <;> simp [infoScanFits, infoScanStores]
  | cons c rest ih =>
      cases value with
      | none =>
          by_cases separator : c = backslash <;>
            simp [infoScanFits, infoScanStores, separator, ih]
      | some value =>
          by_cases separator : c = backslash
          · by_cases found : key = pkey <;>
              simp [infoScanFits, infoScanStores, separator, found, ih]
          · simp [infoScanFits, infoScanStores, separator, ih]

/-- The check of the lookups is that all of their stores are inside. -/
theorem infoFits_iff (text key : CString) :
    infoFits text key = true ↔ StoresWithin (infoStores text key) :=
  infoScanFits_iff key [] none (skipBackslash text)

/-! ## The segments -/

theorem segmentsFit_pair {key pkey : CString} {segments : List CString} (more : segments ≠ [])
    (fits : SegmentsFit key (pkey :: segments)) : pkey.length < maxInfoString := by
  cases segments with
  | nil => exact absurd rfl more
  | cons value rest => exact fits.1

/-- A first segment that fits has room for the terminator behind all but its last byte. -/
theorem segmentsFit_snoc {key pkey : CString} {c : UInt8} {segments : List CString}
    (some : segments ≠ []) (fits : SegmentsFit key (segments.modifyHead ((pkey ++ [c]) ++ ·))) :
    pkey.length < maxInfoString := by
  cases segments with
  | nil => exact absurd rfl some
  | cons first rest =>
      rw [List.modifyHead_cons] at fits
      have short : (pkey ++ [c] ++ first).length ≤ maxInfoString := by
        cases rest with
        | nil => exact fits
        | cons value rest => exact Nat.le_of_lt fits.1
      simp only [List.length_append, List.length_singleton] at short
      omega

/-- A value that fits has room for one byte more. -/
theorem segmentsFit_value_snoc {key pkey value : CString} {c : UInt8} {segments : List CString}
    (some : segments ≠ [])
    (fits : SegmentsFit key (pkey :: segments.modifyHead ((value ++ [c]) ++ ·))) :
    value.length < maxInfoString := by
  cases segments with
  | nil => exact absurd rfl some
  | cons first rest =>
      rw [List.modifyHead_cons] at fits
      have short := fits.2.1
      simp only [List.length_append, List.length_singleton] at short
      omega

theorem modifyHead_nil_append (segments : List CString) :
    segments.modifyHead (([] : CString) ++ ·) = segments := by
  cases segments <;> rfl

theorem modifyHead_snoc (text : CString) (c : UInt8) (segments : List CString) :
    (segments.modifyHead (List.cons c)).modifyHead (text ++ ·) =
      segments.modifyHead ((text ++ [c]) ++ ·) := by
  cases segments with
  | nil => rfl
  | cons first rest => simp only [List.modifyHead_cons, List.append_assoc, List.singleton_append]

/-- A store that has to be inside for the later ones to be. -/
theorem storesWithin_cons_iff {store : InfoStore} {stores : List InfoStore} {fits : Prop}
    (inside : fits → store.2 < maxInfoString)
    (later : store.2 < maxInfoString → (StoresWithin stores ↔ fits)) :
    StoresWithin (store :: stores) ↔ fits := by
  rw [storesWithin_cons]
  constructor
  · rintro ⟨here, within⟩
    exact (later here).mp within
  · intro holds
    exact ⟨inside holds, (later (inside holds)).mpr holds⟩

/-- The stores of the scan, while it copies a key and while it copies a value. -/
theorem infoScanStores_within (key text : CString) :
    (∀ pkey : CString, pkey.length ≤ maxInfoString →
      (StoresWithin (infoScanStores key pkey none text) ↔
        SegmentsFit key ((text.splitOn backslash).modifyHead (pkey ++ ·)))) ∧
    ∀ pkey value : CString, pkey.length < maxInfoString → value.length ≤ maxInfoString →
      (StoresWithin (infoScanStores key pkey (some value) text) ↔
        SegmentsFit key (pkey :: (text.splitOn backslash).modifyHead (value ++ ·))) := by
  induction text with
  | nil =>
      constructor
      · intro pkey short
        simpa [infoScanStores, SegmentsFit] using short
      · intro pkey value short _
        simp [infoScanStores, SegmentsFit, short]
  | cons c rest ih =>
      obtain ⟨keys, values⟩ := ih
      have segments := List.splitOn_ne_nil backslash rest
      have snoc (text : CString) : (text ++ [c]).length = text.length + 1 :=
        List.length_append
      constructor
      · intro pkey short
        rw [infoScanStores, List.splitOn_cons_eq_if_modifyHead]
        by_cases separator : c = backslash
        · rw [if_pos separator, if_pos (beq_iff_eq.mpr separator), List.modifyHead_cons,
            List.append_nil]
          -- the separator is where the terminator of the key goes
          apply storesWithin_cons_iff (segmentsFit_pair segments)
          intro inside
          rw [values pkey [] inside (Nat.zero_le _), modifyHead_nil_append]
        · rw [if_neg separator, if_neg (mt beq_iff_eq.mp separator), modifyHead_snoc]
          apply storesWithin_cons_iff (segmentsFit_snoc segments)
          intro inside
          exact keys (pkey ++ [c]) ((snoc pkey).trans_le inside)
      · intro pkey value short room
        rw [infoScanStores, List.splitOn_cons_eq_if_modifyHead]
        by_cases separator : c = backslash
        · rw [storesWithin_cons, if_pos separator, if_pos (beq_iff_eq.mpr separator),
            List.modifyHead_cons, List.append_nil, SegmentsFit, and_iff_right short]
          refine and_congr_right fun _ => ?_
          by_cases found : key = pkey
          · rw [if_pos found]
            exact iff_of_true storesWithin_nil fun apart => absurd found apart
          · rw [if_neg found, keys [] (Nat.zero_le _), modifyHead_nil_append]
            exact (imp_iff_right found).symm
        · rw [if_neg separator, if_neg (mt beq_iff_eq.mp separator), modifyHead_snoc]
          apply storesWithin_cons_iff (segmentsFit_value_snoc segments)
          intro inside
          exact values pkey (value ++ [c]) short ((snoc value).trans_le inside)

/--
`Info_ValueForKey` stores inside its buffers exactly on the texts whose
segments, up to the value that is returned, are short.
-/
theorem infoStores_within_iff (text key : CString) :
    StoresWithin (infoStores text key) ↔
      SegmentsFit key ((skipBackslash text).splitOn backslash) := by
  have within := (infoScanStores_within key (skipBackslash text)).1 [] (Nat.zero_le _)
  rwa [modifyHead_nil_append] at within

/-- A packet with a first key of 65 bytes writes one byte behind `pkey`. -/
theorem infoStores_overrun :
    ¬ ∀ packet : List UInt8, packet.length ≤ 65535 → ∀ key : CString,
      StoresWithin (infoStores (cstr packet) key) := by
  intro always
  have within := always (backslash :: List.replicate 65 97) (by decide) (ascii "clientname")
  revert within
  decide

end GSMaster.Text
