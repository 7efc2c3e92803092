import GSMaster.Text.CString

/-!
# Numbers and tokens

`atoi` reads back what `%d` writes. A text without delimiters is one token,
whatever follows the first delimiter after it; a number is such a text.
-/

namespace GSMaster.Text

theorem digitChar_byte : ∀ digit : Fin 10,
    (Nat.digitChar digit.val).toNat.toUInt8 = 48 + digit.val.toUInt8 := by
  decide

/-- The last digit comes off the end. -/
theorem decimal_eq (value : Nat) :
    decimal value =
      (if value < 10 then [] else decimal (value / 10)) ++ [48 + (value % 10).toUInt8] := by
  have last : (Nat.digitChar (value % 10)).toNat.toUInt8 = 48 + (value % 10).toUInt8 :=
    digitChar_byte ⟨value % 10, Nat.mod_lt _ (by decide)⟩
  unfold decimal
  rw [Nat.toDigits_eq_if (by decide)]
  by_cases small : value < 10
  · rw [if_pos small, if_pos small, List.nil_append, List.map_singleton]
    rw [Nat.mod_eq_of_lt small] at last ⊢
    rw [last]
  · rw [if_neg small, if_neg small, List.map_append, List.map_singleton, last]

theorem digit_isDigit : ∀ digit : Fin 10,
    isDigit (48 + digit.val.toUInt8) = true ∧
      ((48 + digit.val.toUInt8 : UInt8) - 48).toNat = digit.val := by
  decide

theorem decimal_ne_nil (value : Nat) : decimal value ≠ [] := by
  rw [decimal_eq]
  exact List.append_ne_nil_of_right_ne_nil _ (List.cons_ne_nil _ _)

theorem decimal_length_le {value digits : Nat} (positive : 0 < digits)
    (small : value < 10 ^ digits) :
    (decimal value).length ≤ digits := by
  rw [decimal, List.length_map]
  exact Nat.toDigits_length 10 value digits positive small

theorem isDigit_of_mem_decimal {value : Nat} {c : UInt8} (member : c ∈ decimal value) :
    isDigit c = true := by
  induction value using Nat.strongRecOn with
  | ind value ih =>
      rw [decimal_eq] at member
      rcases List.mem_append.mp member with early | last
      · by_cases small : value < 10
        · rw [if_pos small] at early
          cases early
        · rw [if_neg small] at early
          exact ih (value / 10) (by omega) early
      · rw [List.mem_singleton.mp last]
        exact (digit_isDigit ⟨value % 10, Nat.mod_lt _ (by decide)⟩).1

theorem digitsValue_append {digits : CString} (number : ∀ c ∈ digits, isDigit c = true)
    (value : Nat) (rest : CString) :
    digitsValue value (digits ++ rest) = digitsValue (digitsValue value digits) rest := by
  induction digits generalizing value with
  | nil => rfl
  | cons c digits ih =>
      have digit := number c (List.mem_cons_self ..)
      rw [List.cons_append, digitsValue, if_pos digit, digitsValue, if_pos digit]
      exact ih (fun d member => number d (List.mem_cons_of_mem _ member)) _

theorem digitsValue_decimal (value : Nat) : digitsValue 0 (decimal value) = value := by
  induction value using Nat.strongRecOn with
  | ind value ih =>
      obtain ⟨digit, read⟩ := digit_isDigit ⟨value % 10, Nat.mod_lt _ (by decide)⟩
      rw [decimal_eq]
      by_cases small : value < 10
      · rw [if_pos small, List.nil_append, digitsValue, if_pos digit, read]
        simp only [digitsValue]
        omega
      · rw [if_neg small, digitsValue_append fun c member => isDigit_of_mem_decimal member,
          ih (value / 10) (by omega), digitsValue, if_pos digit, read]
        simp only [digitsValue]
        omega

/-- The ten digits. -/
theorem exists_digit {c : UInt8} (digit : isDigit c = true) :
    ∃ value : Fin 10, c = 48 + value.val.toUInt8 := by
  unfold isDigit at digit
  rw [Bool.and_eq_true, decide_eq_true_iff, decide_eq_true_iff, UInt8.le_iff_toNat_le,
    UInt8.le_iff_toNat_le] at digit
  have least : (48 : UInt8).toNat = 48 := rfl
  have greatest : (57 : UInt8).toNat = 57 := rfl
  refine ⟨⟨c.toNat - 48, by omega⟩, UInt8.toNat.inj ?_⟩
  change c.toNat = (48 + (c.toNat - 48) % 256) % 256
  omega

theorem digit_plain {c : UInt8} (digit : isDigit c = true) :
    isSpace c = false ∧ c ≠ 45 ∧ c ≠ 43 := by
  obtain ⟨value, rfl⟩ := exists_digit digit
  revert value
  decide

/-- `atoi` reads back a number that `%d` writes. -/
theorem atoi_decimal {value : Nat} (small : value < 2 ^ 31) : atoi (decimal value) = value := by
  have read := digitsValue_decimal value
  have number : ∀ c ∈ decimal value, isDigit c = true := fun _ member =>
    isDigit_of_mem_decimal member
  have long : strtol (decimal value) = value := by
    unfold strtol
    simp only
    cases text : decimal value with
    | nil => exact absurd text (decimal_ne_nil value)
    | cons c rest =>
        rw [text] at read number
        obtain ⟨notSpace, minus, plus⟩ := digit_plain (number c (List.mem_cons_self ..))
        rw [List.dropWhile_cons_of_neg (by rw [notSpace]; exact Bool.false_ne_true)]
        split
        · rename_i signed
          exact absurd (List.cons.inj signed).1 minus
        · rename_i signed
          exact absurd (List.cons.inj signed).1 plus
        · rw [read]
          omega
  rw [atoi, long, Int.bmod_eq_of_le (by omega) (by omega)]

/-- `%d` of an `int`. -/
def decimalInt : Int → CString
  | .ofNat value => decimal value
  | .negSucc value => 45 :: decimal (value + 1)

/-- `atoi` reads back every `int`. -/
theorem atoi_decimalInt {value : Int} (low : -(2 ^ 31) ≤ value) (high : value < 2 ^ 31) :
    atoi (decimalInt value) = value := by
  cases value with
  | ofNat value => exact atoi_decimal (Int.ofNat_lt.mp high)
  | negSucc value =>
      have start : (45 :: decimal (value + 1)).dropWhile isSpace = 45 :: decimal (value + 1) :=
        List.dropWhile_cons_of_neg (by decide)
      have long : strtol (45 :: decimal (value + 1)) = Int.negSucc value := by
        unfold strtol
        simp only [start, digitsValue_decimal]
        omega
      rw [decimalInt, atoi, long, Int.bmod_eq_of_le (by omega) (by omega)]

theorem decimalInt_ne_nil (value : Int) : decimalInt value ≠ [] := by
  cases value with
  | ofNat value => exact decimal_ne_nil value
  | negSucc value => exact List.cons_ne_nil _ _

/-! ## Tokens -/

/-- There is no token in delimiters alone. -/
theorem strtok_none_iff {delimiters : List UInt8} {text : CString} :
    (strtok delimiters (some text)).1 = none ↔ ∀ c ∈ text, delimiters.contains c = true := by
  rw [← List.dropWhile_eq_nil_iff]
  unfold strtok
  cases skipped : text.dropWhile (fun c => delimiters.contains c) with
  | nil =>
      simp only [skipped]
  | cons c rest =>
      simp only [skipped]
      refine iff_of_false ?_ (List.cons_ne_nil c rest)
      split
      · exact Option.some_ne_none _
      · exact Option.some_ne_none _

/-- A token is a part of the text and not empty. -/
theorem strtok_token {delimiters : List UInt8} {text token : CString} {last : Option CString}
    (read : strtok delimiters (some text) = (some token, last)) :
    token ≠ [] ∧ token.IsInfix text := by
  have suffix : (text.dropWhile fun c => delimiters.contains c).IsSuffix text :=
    List.dropWhile_suffix _
  have starts := List.head?_dropWhile_not (fun c => delimiters.contains c) text
  unfold strtok at read
  cases skipped : text.dropWhile (fun c => delimiters.contains c) with
  | nil =>
      simp only [skipped] at read
      cases read
  | cons c rest =>
      rw [skipped] at suffix starts
      simp only [skipped] at read
      have plain : delimiters.contains c = false := starts
      have taken : token = (c :: rest).takeWhile fun c => !delimiters.contains c := by
        split at read
        · cases read
          rfl
        · cases read
          rfl
      rw [taken]
      constructor
      · rw [List.takeWhile_cons_of_pos (by rw [plain]; rfl)]
        exact List.cons_ne_nil _ _
      · exact (List.takeWhile_prefix _).isInfix.trans suffix.isInfix

/-- A token ends at the first delimiter after it, which is skipped. -/
theorem strtok_delimited {delimiters token : List UInt8} {delimiter : UInt8}
    (named : token ≠ []) (plain : ∀ c ∈ token, delimiters.contains c = false)
    (stops : delimiters.contains delimiter = true) (rest : CString) :
    strtok delimiters (some (token ++ delimiter :: rest)) = (some token, some rest) := by
  obtain ⟨c, others, rfl⟩ := List.exists_cons_of_ne_nil named
  have start : ((c :: others) ++ delimiter :: rest).dropWhile (fun c => delimiters.contains c) =
      (c :: others) ++ delimiter :: rest := by
    rw [List.cons_append, List.dropWhile_cons_of_neg (by
      rw [plain c (List.mem_cons_self ..)]
      exact Bool.false_ne_true)]
  have taken : ((c :: others) ++ delimiter :: rest).takeWhile
      (fun c => !delimiters.contains c) = c :: others := by
    rw [List.takeWhile_append_of_pos (by simpa using plain), List.takeWhile_cons_of_neg (by
      simpa using stops), List.append_nil]
  have left : ((c :: others) ++ delimiter :: rest).dropWhile
      (fun c => !delimiters.contains c) = delimiter :: rest := by
    rw [List.dropWhile_append_of_pos (by simpa using plain), List.dropWhile_cons_of_neg (by
      simpa using stops)]
  unfold strtok
  simp only [start]
  rw [List.cons_append] at taken left ⊢
  simp only [taken, left]

/-- The last token ends with the text. -/
theorem strtok_last {delimiters token : List UInt8} (named : token ≠ [])
    (plain : ∀ c ∈ token, delimiters.contains c = false) :
    strtok delimiters (some token) = (some token, none) := by
  obtain ⟨c, others, rfl⟩ := List.exists_cons_of_ne_nil named
  have start : (c :: others).dropWhile (fun c => delimiters.contains c) = c :: others :=
    List.dropWhile_cons_of_neg (by
      rw [plain c (List.mem_cons_self ..)]
      exact Bool.false_ne_true)
  have taken : (c :: others).takeWhile (fun c => !delimiters.contains c) = c :: others :=
    List.takeWhile_eq_self_iff.mpr (by simpa using plain)
  have left : (c :: others).dropWhile (fun c => !delimiters.contains c) = [] :=
    List.dropWhile_eq_nil_iff.mpr (by simpa using plain)
  unfold strtok
  simp only [start, taken, left]

/-! ## Searches -/

/-- What is found is an end of the text that begins with the pattern. -/
theorem strstr_some {pattern text found : CString} (here : strstr pattern text = some found) :
    pattern.IsPrefix found ∧ found.IsSuffix text := by
  induction text with
  | nil =>
      unfold strstr at here
      split at here
      · rename_i empty
        cases here
        exact ⟨empty ▸ List.nil_prefix, List.suffix_refl _⟩
      · cases here
  | cons c rest ih =>
      unfold strstr at here
      split at here
      · rename_i starts
        cases here
        exact ⟨List.isPrefixOf_iff_prefix.mp starts, List.suffix_refl _⟩
      · obtain ⟨starts, ends⟩ := ih here
        exact ⟨starts, ends.trans (List.suffix_cons c rest)⟩

/-- A text contains a pattern that stands anywhere in it. -/
theorem contains_iff {text pattern : CString} :
    contains text pattern = true ↔ pattern.IsInfix text := by
  unfold contains
  constructor
  · intro found
    obtain ⟨rest, here⟩ := Option.isSome_iff_exists.mp found
    obtain ⟨starts, ends⟩ := strstr_some here
    exact starts.isInfix.trans ends.isInfix
  · intro inside
    induction text with
    | nil =>
        rw [List.infix_nil.mp inside]
        rfl
    | cons c rest ih =>
        unfold strstr
        split
        · rfl
        · rename_i elsewhere
          rw [List.isPrefixOf_iff_prefix] at elsewhere
          exact ih ((List.infix_cons_iff.mp inside).resolve_left elsewhere)

/-- A pattern is not found at a character that it does not begin with. -/
theorem strstr_skip {first : UInt8} {pattern skipped : CString} (absent : first ∉ skipped)
    (rest : CString) :
    strstr (first :: pattern) (skipped ++ rest) = strstr (first :: pattern) rest := by
  induction skipped with
  | nil => rfl
  | cons c skipped ih =>
      rw [List.mem_cons, not_or] at absent
      have differs : (first :: pattern).isPrefixOf (c :: (skipped ++ rest)) = false := by
        rw [List.isPrefixOf_cons_cons, beq_eq_false_iff_ne.mpr absent.1, Bool.false_and]
      rw [List.cons_append, strstr, if_neg (by rw [differs]; exact Bool.false_ne_true)]
      exact ih absent.2

/-- A pattern that does not begin in the front of a text is found behind it. -/
theorem strstr_behind {pattern front text : CString}
    (elsewhere : ∀ part, part ≠ [] → part.IsSuffix front → ¬ pattern.IsPrefix (part ++ text)) :
    strstr pattern (front ++ text) = strstr pattern text := by
  induction front with
  | nil => rfl
  | cons c front ih =>
      have here : ¬ pattern.IsPrefix (c :: (front ++ text)) :=
        elsewhere (c :: front) (List.cons_ne_nil _ _) (List.suffix_refl _)
      rw [List.cons_append, strstr, if_neg (mt List.isPrefixOf_iff_prefix.mp here)]
      exact ih fun part filled inside =>
        elsewhere part filled (inside.trans (List.suffix_cons c front))

/-- The whole text is found in itself. -/
theorem strstr_self (pattern rest : CString) :
    strstr pattern (pattern ++ rest) = some (pattern ++ rest) := by
  cases whole : pattern ++ rest with
  | nil =>
      obtain rfl := (List.append_eq_nil_iff.mp whole).1
      rfl
  | cons c text =>
      rw [strstr, if_pos (List.isPrefixOf_iff_prefix.mpr (whole ▸ List.prefix_append pattern rest))]

end GSMaster.Text
