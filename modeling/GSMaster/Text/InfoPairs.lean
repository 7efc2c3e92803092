import GSMaster.Text.InfoBounds

/-!
# The pairs of a packet

What `Info_ValueForKey` finds is the first value under the key among the
segments of the text, taken as keys and values by turns. It stays inside its
buffers where every segment is shorter than they are.
-/

namespace GSMaster.Text

/-- The segments of a packet, behind the backslash that it may begin with. -/
def infoSegments (text : CString) : List CString :=
  (skipBackslash text).splitOn backslash

/-- The first value under a key; a last key without a value has none. -/
def firstValue (key : CString) : List CString → Option CString
  | pkey :: value :: rest => if key = pkey then some value else firstValue key rest
  | _ => none

/-- The scan from the middle of a key and from the middle of a value. -/
theorem infoScan_firstValue (key text : CString) :
    (∀ pkey : CString, infoScan key pkey none text =
      firstValue key ((text.splitOn backslash).modifyHead (pkey ++ ·))) ∧
    ∀ pkey value : CString, infoScan key pkey (some value) text =
      firstValue key (pkey :: (text.splitOn backslash).modifyHead (value ++ ·)) := by
  induction text with
  | nil =>
      constructor
      · intro pkey
        rfl
      · intro pkey value
        simp [infoScan, firstValue]
  | cons c rest ih =>
      obtain ⟨keys, values⟩ := ih
      constructor
      · intro pkey
        rw [infoScan, List.splitOn_cons_eq_if_modifyHead]
        by_cases separator : c = backslash
        · rw [if_pos separator, if_pos (beq_iff_eq.mpr separator), values, List.modifyHead_cons,
            List.append_nil, modifyHead_nil_append]
        · rw [if_neg separator, if_neg (mt beq_iff_eq.mp separator), modifyHead_snoc, keys]
      · intro pkey value
        rw [infoScan, List.splitOn_cons_eq_if_modifyHead]
        by_cases separator : c = backslash
        · rw [if_pos separator, if_pos (beq_iff_eq.mpr separator), keys, List.modifyHead_cons,
            List.append_nil, modifyHead_nil_append, firstValue]
        · rw [if_neg separator, if_neg (mt beq_iff_eq.mp separator), modifyHead_snoc, values]

theorem infoValueForKey_eq (text key : CString) :
    infoValueForKey text key = firstValue key (infoSegments text) := by
  have scanned := (infoScan_firstValue key (skipBackslash text)).1 []
  rwa [modifyHead_nil_append] at scanned

/-- Short segments are short up to the value of any key. -/
theorem segmentsFit_of_short (key : CString) : ∀ segments : List CString,
    (∀ segment ∈ segments, segment.length < maxInfoString) → SegmentsFit key segments
  | [], _ => trivial
  | [pkey], short => Nat.le_of_lt (short pkey (List.mem_singleton_self _))
  | pkey :: value :: rest, short => by
      refine ⟨short pkey (by simp), short value (by simp), fun _ => ?_⟩
      exact segmentsFit_of_short key rest fun segment member => short segment (by simp [member])

/-- The lookups in a packet of short segments stay inside the buffers. -/
theorem infoFits_of_short {text : CString}
    (short : ∀ segment ∈ infoSegments text, segment.length < maxInfoString) (key : CString) :
    infoFits text key = true := by
  rw [infoFits_iff, infoStores_within_iff]
  exact segmentsFit_of_short key _ short

/-- A value is one of the segments. -/
theorem firstValue_mem {key value : CString} : ∀ {segments : List CString},
    firstValue key segments = some value → value ∈ segments
  | [], found => by cases found
  | [_], found => by cases found
  | pkey :: first :: rest, found => by
      rw [firstValue] at found
      split at found
      · rw [Option.some.inj found]
        simp
      · have later := firstValue_mem found
        simp [later]

end GSMaster.Text
