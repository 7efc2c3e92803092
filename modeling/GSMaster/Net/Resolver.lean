import GSMaster.Net.Address

/-!
# Numeric names

`gethostbyname` of a dotted quad returns the address that it writes out. This
resolver knows numeric names only.
-/

namespace GSMaster.Net

open GSMaster.Text

def dottedQuad (text : CString) : Option InAddr :=
  match (text.splitOn 46).map fun field => (atoi field).toNat.toUInt8 with
  | [a, b, c, d] => some ⟨a, b, c, d⟩
  | _ => none

theorem decimal_byte : ∀ byte : Fin 256,
    46 ∉ decimal byte.val ∧ (atoi (decimal byte.val)).toNat.toUInt8 = byte.val.toUInt8 := by
  decide +kernel

/-- The resolver reads back every address that `inet_ntoa` writes. -/
theorem dottedQuad_inetNtoa (addr : InAddr) : dottedQuad (inetNtoa addr) = some addr := by
  obtain ⟨a, b, c, d⟩ := addr
  have fields : inetNtoa ⟨a, b, c, d⟩ = [46].intercalate
      [decimal a.toNat, decimal b.toNat, decimal c.toNat, decimal d.toNat] := by
    simp [inetNtoa, List.intercalate, ascii]
  have byte (value : UInt8) : 46 ∉ decimal value.toNat ∧
      (atoi (decimal value.toNat)).toNat.toUInt8 = value := by
    have read := decimal_byte ⟨value.toNat, value.toNat_lt⟩
    rwa [show (value.toNat).toUInt8 = value from UInt8.ofNat_toNat] at read
  have split : (inetNtoa ⟨a, b, c, d⟩).splitOn 46 =
      [decimal a.toNat, decimal b.toNat, decimal c.toNat, decimal d.toNat] := by
    rw [fields]
    refine List.splitOn_intercalate 46 ?_ (List.cons_ne_nil _ _)
    intro field member
    simp only [List.mem_cons, List.not_mem_nil, or_false] at member
    rcases member with rfl | rfl | rfl | rfl
    · exact (byte a).1
    · exact (byte b).1
    · exact (byte c).1
    · exact (byte d).1
  unfold dottedQuad
  simp only [split, List.map_cons, List.map_nil, (byte a).2, (byte b).2, (byte c).2, (byte d).2]

end GSMaster.Net
