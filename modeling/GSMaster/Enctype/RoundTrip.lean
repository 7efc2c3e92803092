import GSMaster.Enctype.KeystreamDepth

/-!
# The decoder undoes the encoder

The two exclusive-or layers commute and undo themselves, the feedback layer is
undone by `func6`, and the header gives the decoder the seed and the scramble
bytes that the encoder used.
-/

namespace GSMaster.Enctype

open GSMaster.Text GSMaster.Library

/-! ## The layers -/

/-- Where the keystream generator stays in its tables, it masks all data alike. -/
theorem encshare1_eq {tbuff : Tbuff} {datap done : List UInt8} {len : Nat}
    (long : len ≤ datap.length) (enciphered : encshare1 tbuff datap len = some done) :
    ∃ keys, done = xorLeading keys datap ∧ ∀ data : List UInt8, len ≤ data.length →
      encshare1 tbuff data len = some (xorLeading keys data) := by
  unfold encshare1 at enciphered ⊢
  cases block : encshare2 tbuff 309 16 with
  | none =>
      rw [block] at enciphered
      cases enciphered
  | some first =>
      rw [block] at enciphered
      simp only [Option.bind_eq_bind, Option.bind_some] at enciphered ⊢
      rw [streamXor_eq long] at enciphered
      cases generated : keystream encshare1Step len (first, 0) with
      | none =>
          rw [generated] at enciphered
          cases enciphered
      | some drawn =>
          rw [generated] at enciphered
          refine ⟨drawn.1, (Option.some.inj enciphered).symm, fun data dataLong => ?_⟩
          rw [streamXor_eq dataLong, generated]
          rfl

/-- The seeded table does not depend on the words the decoder left uninitialised. -/
theorem encshare4_fill (src : List UInt8) (size : Nat) (tbuff : Tbuff) :
    encshare4 src size (tbuff.fill 256 326 0) = encshare4 src size (Vector.replicate 326 0) := by
  have cleared : (tbuff.fill 256 326 0).fill 0 256 0 =
      Tbuff.fill (Vector.replicate 326 0) 0 256 0 := by
    apply Vector.ext
    intro i inside
    simp only [Tbuff.fill, Vector.getElem_ofFn, Vector.get_eq_getElem, Vector.getElem_replicate]
    grind
  unfold encshare4
  simp only [cleared]

/-! ## The scramble bytes -/

theorem findMasterKeyOffset_masterKeyAt (key : UInt8) :
    ∃ offset, findMasterKeyOffset (masterKeyAt key) = some offset ∧
      masterKeyAt offset.toUInt8 = masterKeyAt key := by
  have inside : key.toNat < enctype1MasterKey.length := by
    rw [enctype1MasterKey_length]
    exact key.toNat_lt
  have present : (enctype1MasterKey ++ [0])[key.toNat]? = some (masterKeyAt key) := by
    rw [List.getElem?_append_left inside, masterKeyAt, List.getD_eq_getElem _ _ inside,
      List.getElem?_eq_getElem inside]
  cases found : findMasterKeyOffset (masterKeyAt key) with
  | none =>
      have missing := List.findIdx?_eq_none_iff.mp found (masterKeyAt key)
        (List.mem_of_getElem? present)
      simp at missing
  | some offset =>
      obtain ⟨bound, same, first⟩ := List.findIdx?_eq_some_iff_getElem.mp found
      have notLater : offset ≤ key.toNat := by
        by_contra later
        have earlier := first key.toNat (Nat.lt_of_not_le later)
        have value := (List.getElem?_eq_some_iff.mp present).2
        simp [value] at earlier
      have offsetInside : offset < enctype1MasterKey.length := Nat.lt_of_le_of_lt notLater inside
      have back : offset.toUInt8.toNat = offset := by
        rw [enctype1MasterKey_length] at offsetInside
        exact UInt8.toNat_ofNat_of_lt' offsetInside
      refine ⟨offset, rfl, ?_⟩
      have entry : enctype1MasterKey[offset] = masterKeyAt key := by
        rw [List.getElem_append_left offsetInside] at same
        exact eq_of_beq same
      rw [masterKeyAt, back, List.getD_eq_getElem _ _ offsetInside, entry]

/-- `func8` recovers the scramble bytes from their offsets. -/
theorem masterKeyAt_obfuscate (keys : List UInt8) :
    (obfuscateScrambleData (keys.map masterKeyAt)).map masterKeyAt = keys.map masterKeyAt := by
  unfold obfuscateScrambleData
  rw [List.map_map, List.map_map]
  apply List.map_congr_left
  intro key _
  obtain ⟨offset, found, same⟩ := findMasterKeyOffset_masterKeyAt key
  simp only [Function.comp_apply, found, same]

/-! ## The header -/

@[simp] theorem randBytes_length (rand : Nat → UInt32) (first count : Nat) :
    (randBytes rand first count).length = count := by
  rw [randBytes, List.length_map, List.length_range]

@[simp] theorem htonlBytes_length (value : UInt32) : (htonlBytes value).length = 4 :=
  rfl

/-- A length below 2^31 is read back from its big-endian bytes. -/
theorem headerLength_htonlBytes (value : UInt32) (rest : List UInt8)
    (small : value.toNat < 2 ^ 31) :
    headerLength (htonlBytes value ++ rest) = value.toNat := by
  have sum : (value >>> 24).toUInt8.toNat * 2 ^ 24 + (value >>> 16).toUInt8.toNat * 2 ^ 16 +
      (value >>> 8).toUInt8.toNat * 2 ^ 8 + value.toUInt8.toNat = value.toNat := by
    have byte (shift : UInt32) : (value >>> shift).toUInt8.toNat =
        value.toNat / 2 ^ (shift.toNat % 32) % 256 := by
      rw [UInt32.toNat_toUInt8, UInt32.toNat_shiftRight, Nat.shiftRight_eq_div_pow]
    have third := byte 24
    have second := byte 16
    have first := byte 8
    have zeroth := UInt32.toNat_toUInt8 value
    change _ = value.toNat / 16777216 % 256 at third
    change _ = value.toNat / 65536 % 256 at second
    change _ = value.toNat / 256 % 256 at first
    omega
  have read : headerLength (htonlBytes value ++ rest) =
      Int.bmod ((value >>> 24).toUInt8.toNat * 2 ^ 24 + (value >>> 16).toUInt8.toNat * 2 ^ 16 +
        (value >>> 8).toUInt8.toNat * 2 ^ 8 + value.toUInt8.toNat : Nat) (2 ^ 32) := rfl
  rw [read, sum, Int.bmod_eq_of_le_mul_two (by omega) (by omega)]

section Header

variable (rand : Nat → UInt32) (scrambleData encryptedData : List UInt8) (seed : UInt32)

theorem write_length (size : scrambleData.length = 16) :
    (writeEnctype1EncryptedData rand scrambleData encryptedData seed).length =
      encryptedData.length + 58 := by
  simp only [writeEnctype1EncryptedData, htonlBytes, intBytes, List.length_append, List.length_cons,
    List.length_nil, randBytes_length, size]
  omega

/-- The length that the decoder reads is the length of the message. -/
theorem write_headerLength (size : scrambleData.length = 16)
    (small : encryptedData.length + 58 < 2 ^ 31) :
    headerLength (writeEnctype1EncryptedData rand scrambleData encryptedData seed) =
      (encryptedData.length + 58 : Nat) := by
  have whole := write_length rand scrambleData encryptedData seed size
  unfold writeEnctype1EncryptedData at whole ⊢
  simp only at whole ⊢
  rw [List.length_append, htonlBytes_length, Nat.add_comm] at whole
  rw [whole]
  have value : (encryptedData.length + 58).toUInt32.toNat = encryptedData.length + 58 :=
    UInt32.toNat_ofNat_of_lt' (Nat.lt_trans small (by decide))
  rw [headerLength_htonlBytes _ _ (by rw [value]; exact small), value]

theorem write_scramble (size : scrambleData.length = 16) :
    ((writeEnctype1EncryptedData rand scrambleData encryptedData seed).drop 19).take 16 =
      scrambleData := by
  simp only [writeEnctype1EncryptedData, List.append_assoc]
  rw [← List.append_assoc [42, 218], ← List.append_assoc (htonlBytes _), List.drop_left' (by
    simp [htonlBytes]), List.take_left' size]

theorem write_seed (size : scrambleData.length = 16) :
    ((writeEnctype1EncryptedData rand scrambleData encryptedData seed).drop 36).take 4 =
      intBytes seed := by
  simp only [writeEnctype1EncryptedData, List.append_assoc]
  rw [← List.append_assoc scrambleData, ← List.append_assoc (randBytes rand 17 13),
    ← List.append_assoc [42, 218], ← List.append_assoc (htonlBytes _),
    List.drop_left' (by simp [htonlBytes, size]),
    List.take_left' (show (intBytes seed).length = 4 from rfl)]

theorem write_contents (size : scrambleData.length = 16) :
    (writeEnctype1EncryptedData rand scrambleData encryptedData seed).drop 58 = encryptedData := by
  unfold writeEnctype1EncryptedData
  simp only
  rw [← List.append_assoc (htonlBytes _)]
  exact List.drop_left' (by simp [htonlBytes, intBytes, size])

end Header

/-! ## The whole message -/

/-- The two exclusive-or layers, as the encoder applies them and the decoder applies them again. -/
theorem layers_inverse {input masked seed : List UInt8} (crypt : Crypt) (stale : Tbuff)
    (enciphered : encshareLayer seed (Vector.replicate 326 0) input input.length = some masked) :
    ∃ scrambled unmasked final, scrambled.length = input.length ∧
      func2 masked input.length crypt = some (scrambled, final) ∧
      encshareLayer seed (stale.fill 256 326 0) scrambled input.length = some unmasked ∧
      func2 unmasked input.length crypt = some (input, final) := by
  obtain ⟨keys, final, scramble⟩ := func2_eq input.length crypt
  unfold encshareLayer at enciphered ⊢
  by_cases long : 17 ≤ input.length >>> 1
  · rw [if_pos long] at enciphered
    simp only [if_pos long, encshare4_fill]
    have room : (input.length >>> 1) - 17 ≤ input.length := by
      rw [Nat.shiftRight_eq_div_pow]
      omega
    cases table : encshare4 seed 4 (Vector.replicate 326 0) with
    | none =>
        rw [table] at enciphered
        cases enciphered
    | some tbuff =>
        rw [table] at enciphered
        obtain ⟨masks, maskedEq, mask⟩ := encshare1_eq room enciphered
        have length : masked.length = input.length := by rw [maskedEq, xorLeading_length]
        refine ⟨xorLeading keys masked, xorLeading masks (xorLeading keys masked), final,
          ?_, ?_, ?_, ?_⟩
        · rw [xorLeading_length, length]
        · exact scramble masked (Nat.le_of_eq length.symm)
        · exact mask _ (by rw [xorLeading_length, length]; exact room)
        · rw [scramble _ (by rw [xorLeading_length, xorLeading_length, length]),
            xorLeading_comm keys masks, xorLeading_self, maskedEq, xorLeading_self]
  · rw [if_neg long] at enciphered
    cases enciphered
    simp only [if_neg long]
    refine ⟨xorLeading keys input, xorLeading keys input, final, xorLeading_length _ _,
      scramble input (Nat.le_refl _), rfl, ?_⟩
    rw [scramble _ (Nat.le_of_eq (xorLeading_length _ _).symm), xorLeading_self]

theorem createEnctype1Buffer_some {validateKey : CString} {input output : List UInt8}
    {rand : Nat → UInt32} {enc1key : Enc1Key}
    (created : createEnctype1Buffer validateKey input rand enc1key = some output) :
    ∃ masked scrambled final,
      encshareLayer (intBytes (rand 0)) (Vector.replicate 326 0) input input.length = some masked ∧
      func2 masked input.length (func3 ((randBytes rand 1 16).map masterKeyAt) 16) =
        some (scrambled, final) ∧
      output = writeEnctype1EncryptedData rand
        (obfuscateScrambleData ((randBytes rand 1 16).map masterKeyAt))
        (if 5 ≤ input.length >>> 2 then
          func6e scrambled ((input.length >>> 2) - 5) (func4 validateKey enc1key)
        else scrambled) (rand 0) := by
  obtain ⟨masked, maskedEq, rest⟩ := Option.bind_eq_some_iff.mp created
  obtain ⟨⟨scrambled, final⟩, scrambledEq, written⟩ := Option.bind_eq_some_iff.mp rest
  exact ⟨masked, scrambled, final, maskedEq, scrambledEq, (Option.some.inj written).symm⟩

/-- The layer that `func6e` puts over a list of `n` bytes. -/
def feedbackLayer (validateKey : CString) (enc1key : Enc1Key) (data : List UInt8) (n : Nat) :
    List UInt8 :=
  if 5 ≤ n >>> 2 then func6e data ((n >>> 2) - 5) (func4 validateKey enc1key) else data

theorem feedbackLayer_length (validateKey : CString) (enc1key : Enc1Key) (data : List UInt8)
    (n : Nat) : (feedbackLayer validateKey enc1key data n).length = data.length := by
  unfold feedbackLayer
  split
  · exact feedback_length func7e _ _ data
  · rfl

theorem feedbackLayer_inverse {validateKey : CString} (nonempty : validateKey ≠ [])
    (localKey globalKey : Enc1Key) (data : List UInt8) (n : Nat) :
    (if 5 ≤ n >>> 2 then
      func6 (feedbackLayer validateKey localKey data n) ((n >>> 2) - 5)
        (func4 validateKey globalKey)
    else feedbackLayer validateKey localKey data n) = data := by
  unfold feedbackLayer
  by_cases long : 5 ≤ n >>> 2
  · rw [if_pos long, if_pos long, func4_overwrites nonempty globalKey localKey]
    exact func6_func6e data _ _
  · rw [if_neg long, if_neg long]

/-- The decoder undoes the three layers in the order feedback, encshare, scramble. -/
theorem decodeContents_layers {validateKey : CString} (nonempty : validateKey ≠ [])
    {input masked scrambled seed : List UInt8} {scrambleData : List UInt8} {final : Crypt}
    (localKey globalKey : Enc1Key) (stale : Tbuff)
    (maskedEq : encshareLayer seed (Vector.replicate 326 0) input input.length = some masked)
    (scrambledEq : func2 masked input.length (func3 scrambleData 16) = some (scrambled, final)) :
    scrambled.length = input.length ∧
      decodeContents validateKey scrambleData seed
        (feedbackLayer validateKey localKey scrambled input.length) input.length globalKey stale =
        some input := by
  obtain ⟨again, unmasked, last, lengthEq, scramble, mask, unscramble⟩ :=
    layers_inverse (func3 scrambleData 16) stale maskedEq
  have same : scrambled = again := by
    rw [scrambledEq] at scramble
    exact congrArg Prod.fst (Option.some.inj scramble)
  subst same
  refine ⟨lengthEq, ?_⟩
  unfold decodeContents
  rw [feedbackLayer_inverse nonempty]
  simp only [mask, unscramble, Option.bind_eq_bind, Option.bind_some]

/--
Whatever `rand()` returns and the uninitialised arrays hold, the decoder accepts
a message of the encoder and returns the position of the encoder's input in it.
-/
theorem enctype1_roundTrip (validateKey : CString) (nonempty : validateKey ≠ [])
    (input : List UInt8) (small : input.length + 58 < 2 ^ 31) (rand : Nat → UInt32)
    (localKey globalKey : Enc1Key) (stale : Tbuff) (output : List UInt8)
    (created : createEnctype1Buffer validateKey input rand localKey = some output) :
    enctype1Decoder validateKey output output.length globalKey stale =
      some ⟨input.length, 58, input⟩ := by
  obtain ⟨masked, scrambled, final, maskedEq, scrambledEq, outputEq⟩ :=
    createEnctype1Buffer_some created
  set keys := (randBytes rand 1 16).map masterKeyAt with keysEq
  obtain ⟨lengthEq, decoded⟩ :=
    decodeContents_layers nonempty localKey globalKey stale maskedEq scrambledEq
  change output = writeEnctype1EncryptedData rand (obfuscateScrambleData keys)
    (feedbackLayer validateKey localKey scrambled input.length) (rand 0) at outputEq
  set encryptData := feedbackLayer validateKey localKey scrambled input.length with encryptEq
  have sixteen : (obfuscateScrambleData keys).length = 16 := by
    rw [obfuscateScrambleData, List.length_map, keysEq, List.length_map, randBytes_length]
  have encryptLength : encryptData.length = input.length := by
    rw [encryptEq, feedbackLayer_length, lengthEq]
  have total : output.length = input.length + 58 := by
    rw [outputEq, write_length _ _ _ _ sixteen, encryptLength]
  have header : headerLength output = (input.length + 58 : Nat) := by
    rw [outputEq, write_headerLength _ _ _ _ sixteen (by rw [encryptLength]; exact small),
      encryptLength]
  have scramble : ((output.drop 19).take 16).map masterKeyAt = keys := by
    rw [outputEq, write_scramble _ _ _ _ sixteen, keysEq, masterKeyAt_obfuscate]
  have data4 : output.getD 4 0 = 42 := by rw [outputEq]; rfl
  have data5 : output.getD 5 0 = 218 := by rw [outputEq]; rfl
  have accepted : ¬ (headerLength output < 0 ∨ (output.length : Int) < headerLength output) := by
    rw [header, total]
    omega
  have rest : headerLength output - (((42 ^^^ 62 : UInt8) - 20).toNat +
      ((218 ^^^ 205 : UInt8) - 5).toNat + 40 : Nat) = input.length := by
    rw [header]
    change ((input.length + 58 : Nat) : Int) - (0 + 18 + 40 : Nat) = _
    omega
  unfold enctype1Decoder
  rw [if_neg accepted, data4, data5]
  simp only
  push_cast at rest ⊢
  rw [rest, if_neg (by omega), scramble, outputEq, write_seed _ _ _ _ sixteen]
  change (decodeContents validateKey keys (intBytes (rand 0)) (List.drop 58 _) _ _ _).map _ = _
  rw [write_contents _ _ _ _ sixteen, Int.toNat_natCast, decoded]
  rfl

/-- A list of two servers, of which the encshare layer covers the first bytes. -/
theorem enctype1_roundTrip_twoServers :
    ∃ output, createEnctype1Buffer (ascii "Hku6Fd")
        (ascii "\\ip\\10.0.0.1:27910\\ip\\10.0.0.2:27910\\final") UInt32.ofNat
        ⟨ByteTable.ofFn id, 0, 0, 0, 0, 0⟩ = some output ∧
      enctype1Decoder (ascii "Hku6Fd") output output.length ⟨ByteTable.ofFn id, 1, 2, 3, 4, 5⟩
        (Vector.replicate 326 7) =
          some ⟨42, 58, ascii "\\ip\\10.0.0.1:27910\\ip\\10.0.0.2:27910\\final"⟩ := by
  obtain ⟨output, created⟩ := createEnctype1Buffer_returns (ascii "Hku6Fd")
    (show (ascii "\\ip\\10.0.0.1:27910\\ip\\10.0.0.2:27910\\final").length ≤ 516005 by decide)
    UInt32.ofNat
    ⟨ByteTable.ofFn id, 0, 0, 0, 0, 0⟩
  exact ⟨output, created,
    enctype1_roundTrip (ascii "Hku6Fd") (by decide) _ (by decide) _ _ _ _ _ created⟩

end GSMaster.Enctype
