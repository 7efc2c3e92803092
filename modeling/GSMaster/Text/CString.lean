import Mathlib

/-!
# C strings

A C string is the list of its bytes before the terminating NUL. A buffer is
the list of its leading bytes; everything after the list is zero, as in the
program's receive buffers, which are cleared before each packet. The functions
here are the C library and `dg_misc.h` routines that the master calls.
-/

namespace GSMaster.Text

abbrev CString := List UInt8

/-- The text that a string function sees at the start of a buffer. -/
def cstr (buffer : List UInt8) : CString :=
  buffer.takeWhile (fun c => c != 0)

/-- The bytes of an ASCII literal. -/
def ascii (text : String) : CString :=
  text.toList.map fun c => c.toNat.toUInt8

def backslash : UInt8 := 92

def newline : UInt8 := 10

def toLower (c : UInt8) : UInt8 :=
  if 65 ≤ c ∧ c ≤ 90 then c + 32 else c

/-- `!stricmp(first, second)`, the only outcome of `stricmp` the program tests. -/
def stricmpEq (first second : CString) : Bool :=
  first.map toLower == second.map toLower

/-- `!strnicmp(first, second, count)`. -/
def strnicmpEq (first second : CString) (count : Nat) : Bool :=
  stricmpEq (first.take count) (second.take count)

/-- `!memcmp(buffer, message, size)` for a message of `size` bytes. -/
def memcmpEq (buffer message : List UInt8) : Bool :=
  buffer.takeD message.length 0 == message

/-- `strstr`: the text from the first occurrence of the pattern on. -/
def strstr (pattern : CString) : CString → Option CString
  | [] => if pattern = [] then some [] else none
  | c :: rest => if pattern.isPrefixOf (c :: rest) then some (c :: rest) else strstr pattern rest

def contains (text pattern : CString) : Bool :=
  (strstr pattern text).isSome

/-- The text `DG_strlcpy` leaves in a destination of `size` bytes that held `old`. -/
def strlcpy (old source : CString) (size : Nat) : CString :=
  if size = 0 then old else source.take (size - 1)

/-- The number of bytes `DG_strlcpy` stores, its terminator included. -/
def strlcpyStores (source : CString) (size : Nat) : Nat :=
  if size = 0 then 0 else min source.length (size - 1) + 1

def isSpace (c : UInt8) : Bool :=
  c == 32 || (9 ≤ c && c ≤ 13)

def isDigit (c : UInt8) : Bool :=
  48 ≤ c && c ≤ 57

def digitsValue : Nat → CString → Nat
  | value, [] => value
  | value, c :: rest => if isDigit c then digitsValue (value * 10 + (c - 48).toNat) rest else value

/-- `strtol` in base ten, which saturates at the limits of a 64-bit `long`. -/
def strtol (text : CString) : Int :=
  let value : Int := match text.dropWhile isSpace with
    | 45 :: rest => -(digitsValue 0 rest : Int)
    | 43 :: rest => digitsValue 0 rest
    | unsigned => digitsValue 0 unsigned
  max (-(2 ^ 63)) (min (2 ^ 63 - 1) value)

/-- `atoi` narrows `strtol` to an `int`. -/
def atoi (text : CString) : Int :=
  (strtol text).bmod (2 ^ 32)

/-- `%d` and `%u` of a number that is not negative. -/
def decimal (value : Nat) : CString :=
  (Nat.toDigits 10 value).map fun c => c.toNat.toUInt8

/--
`GSM_strtok_r`. The text is `s`, or `*last` when `s` is NULL; the result is the
token and the new `*last`, each absent where the C function leaves NULL.
-/
def strtok (delimiters : List UInt8) : Option CString → Option CString × Option CString
  | none => (none, none)
  | some text =>
      match text.dropWhile (fun c => delimiters.contains c) with
      | [] => (none, none)
      | start@(_ :: _) =>
          let token := start.takeWhile (fun c => !delimiters.contains c)
          match start.dropWhile (fun c => !delimiters.contains c) with
          | [] => (some token, none)
          | _ :: rest => (some token, some rest)

@[simp] theorem stricmpEq_refl (text : CString) : stricmpEq text text = true := by
  simp [stricmpEq]

theorem stricmpEq_iff {first second : CString} :
    stricmpEq first second = true ↔ first.map toLower = second.map toLower := by
  simp [stricmpEq]

theorem stricmpEq_congr {first second : CString} (same : stricmpEq first second = true)
    (text : CString) : stricmpEq first text = stricmpEq second text := by
  unfold stricmpEq
  rw [stricmpEq_iff.mp same]

/-- Texts equal up to case have the same length. -/
theorem stricmpEq_length {first second : CString} (same : stricmpEq first second = true) :
    first.length = second.length := by
  have lengths := congrArg List.length (stricmpEq_iff.mp same)
  simpa only [List.length_map] using lengths

/-- A message without a NUL is only found in a buffer that has at least its bytes. -/
theorem memcmpEq_length_le {buffer message : List UInt8} (text : 0 ∉ message)
    (same : memcmpEq buffer message = true) : message.length ≤ buffer.length := by
  have equal : buffer.takeD message.length 0 = message := eq_of_beq same
  clear same
  induction message generalizing buffer with
  | nil => exact Nat.zero_le _
  | cons c rest ih =>
      rw [List.mem_cons, not_or] at text
      rw [List.length_cons, List.takeD_succ, List.cons.injEq] at equal
      cases buffer with
      | nil => exact absurd equal.1 text.1
      | cons d buffer => exact Nat.succ_le_succ (ih text.2 equal.2)

theorem cstr_length_le (buffer : List UInt8) : (cstr buffer).length ≤ buffer.length :=
  (List.takeWhile_prefix _).length_le

/-- A buffer without a NUL byte is its own text. -/
theorem cstr_of_forall {buffer : List UInt8} (text : ∀ c ∈ buffer, c ≠ 0) :
    cstr buffer = buffer := by
  apply List.takeWhile_eq_self_iff.mpr
  intro c member
  simpa using text c member

/-- A text goes on behind a part that has no NUL. -/
theorem cstr_append {front : List UInt8} (text : 0 ∉ front) (rest : List UInt8) :
    cstr (front ++ rest) = front ++ cstr rest :=
  List.takeWhile_append_of_pos fun _ member => bne_iff_ne.mpr fun zero => text (zero ▸ member)

/-- `DG_strlcpy` copies the whole source, or fills up the destination. -/
theorem strlcpy_nil_cases (source : CString) (size : Nat) :
    strlcpy [] source (size + 1) = source ∨
      size ≤ source.length ∧ (strlcpy [] source (size + 1)).length = size := by
  rw [strlcpy, if_neg (Nat.succ_ne_zero size), Nat.add_sub_cancel]
  by_cases short : source.length ≤ size
  · exact Or.inl (List.take_of_length_le short)
  · exact Or.inr ⟨by omega, by rw [List.length_take]; omega⟩

end GSMaster.Text
