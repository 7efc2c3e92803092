import GSMaster.Text.CString

/-!
# Key and value pairs of a packet

`Info_ValueForKey` walks a text of backslash-separated segments that are keys
and values by turns. The scan below carries what the two copy loops have
written: the key in `pkey`, and the value once the backslash after the key has
been passed.
-/

namespace GSMaster.Text

/-- The size of `pkey` and of each of the two static value buffers. -/
def maxInfoString : Nat := 64

/-- The loops of `Info_ValueForKey`; no value means that `pkey` is being copied. -/
def infoScan (key pkey : CString) : Option CString → CString → Option CString
  | none, [] => none
  | some value, [] => if key = pkey then some value else none
  | none, c :: rest =>
      if c = backslash then infoScan key pkey (some []) rest
      else infoScan key (pkey ++ [c]) none rest
  | some value, c :: rest =>
      if c = backslash then
        if key = pkey then some value else infoScan key [] none rest
      else infoScan key pkey (some (value ++ [c])) rest

/-- The text after one leading backslash, if there is one. -/
def skipBackslash : CString → CString
  | [] => []
  | c :: rest => if c = backslash then rest else c :: rest

def infoValueForKey (text key : CString) : Option CString :=
  infoScan key [] none (skipBackslash text)

/--
Whether every byte the scan stores, the terminators included, has an index
below `maxInfoString`. A key cut off by the end of the text is not terminated.
-/
def infoScanFits (key pkey : CString) : Option CString → CString → Bool
  | none, [] => true
  | some value, [] => value.length < maxInfoString
  | none, c :: rest =>
      pkey.length < maxInfoString &&
        if c = backslash then infoScanFits key pkey (some []) rest
        else infoScanFits key (pkey ++ [c]) none rest
  | some value, c :: rest =>
      value.length < maxInfoString &&
        if c = backslash then key == pkey || infoScanFits key [] none rest
        else infoScanFits key pkey (some (value ++ [c])) rest

/-- `Info_ValueForKey` stores nothing outside its buffers on this text and key. -/
def infoFits (text key : CString) : Bool :=
  infoScanFits key [] none (skipBackslash text)

/-- A value without a backslash reaches to the end of the text. -/
theorem infoScan_value {key pkey value rest : CString} (plain : backslash ∉ rest) :
    infoScan key pkey (some value) rest = if key = pkey then some (value ++ rest) else none := by
  induction rest generalizing value with
  | nil => rw [infoScan, List.append_nil]
  | cons c rest ih =>
      rw [List.mem_cons, not_or] at plain
      rw [infoScan, if_neg (Ne.symm plain.1), ih plain.2, List.append_assoc, List.singleton_append]

end GSMaster.Text
