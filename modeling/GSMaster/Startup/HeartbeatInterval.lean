import GSMaster.Packets.PortRange
import GSMaster.Startup.CommandLine

/-!
# The heartbeat interval

`-heartbeatinterval` reads a signed number of minutes, keeps it in an unsigned
word, tests it there and multiplies it there. The seconds are right for the
numbers whose product with 60 does not wrap around, and for two negative ones.
-/

namespace GSMaster.Startup

open GSMaster.Text GSMaster.Packets GSMaster.Registry

/-! ## The option alone sets the interval -/

/-- The argument is taken for `-heartbeatinterval`. -/
def SetsInterval (arg : CString) : Prop :=
  optionOf arg.tail = some .heartbeatinterval

instance (arg : CString) : Decidable (SetsInterval arg) :=
  inferInstanceAs (Decidable (optionOf arg.tail = some .heartbeatinterval))

/-- No other branch stores the interval. -/
theorem CommandOption.apply_heartbeatInterval {option : CommandOption} {next : Option CString}
    {settings after : Settings} (other : option ≠ .heartbeatinterval)
    (parsed : option.apply settings next = .ok after) :
    after.heartbeatInterval = settings.heartbeatInterval := by
  have stored {store : CString → Settings} (parsed : withValue next store = .ok after)
      (kept : ∀ value, (store value).heartbeatInterval = settings.heartbeatInterval) :
      after.heartbeatInterval = settings.heartbeatInterval := by
    obtain ⟨value, -, rfl⟩ := withValue_ok parsed
    exact kept value
  cases option with
  | heartbeatinterval => exact absurd rfl other
  | help => cases parsed
  | debug | sendack | quickvalidate | motd | cwd =>
      rw [← Except.ok.inj parsed]
  | httpenable =>
      cases next with
      | none => rw [← Except.ok.inj parsed]
      | some value =>
          rw [CommandOption.apply] at parsed
          split at parsed <;> rw [← Except.ok.inj parsed]
  | _ => exact stored parsed fun _ => rfl

@[simp] theorem testDebug_heartbeatInterval (settings : Settings) (tail : CString) :
    (testDebug settings tail).heartbeatInterval = settings.heartbeatInterval := by
  unfold testDebug
  split_ifs <;> rfl

theorem parseArgument_heartbeatInterval {settings after : Settings} {arg : CString}
    {next : Option CString} (other : ¬ SetsInterval arg)
    (parsed : parseArgument settings arg next = .ok after) :
    after.heartbeatInterval = settings.heartbeatInterval := by
  cases arg with
  | nil => cases parsed
  | cons c tail =>
      rw [parseArgument] at parsed
      rw [SetsInterval, List.tail_cons] at other
      split at parsed
      · rw [← Except.ok.inj parsed, testDebug_heartbeatInterval]
      · rename_i option taken
        rw [taken, Option.some.injEq] at other
        rw [CommandOption.apply_heartbeatInterval other parsed, testDebug_heartbeatInterval]

/-- Arguments that are not taken for the option leave the interval as it is. -/
theorem parseArguments_heartbeatInterval {settings after : Settings} {args : List CString}
    (others : ∀ arg ∈ args, ¬ SetsInterval arg)
    (parsed : parseArguments settings args = .ok after) :
    after.heartbeatInterval = settings.heartbeatInterval := by
  induction args generalizing settings with
  | nil => rw [← Except.ok.inj parsed]
  | cons arg rest ih =>
      obtain ⟨middle, first, later⟩ := parseArguments_cons.mp parsed
      have other := others arg (List.mem_cons_self ..)
      have inRest : ∀ arg ∈ rest, ¬ SetsInterval arg := fun arg member =>
        others arg (List.mem_cons_of_mem _ member)
      rw [ih inRest later, parseArgument_heartbeatInterval other first]

/-- The last `-heartbeatinterval` decides. -/
theorem parseArguments_interval {settings after : Settings} {front back : List CString}
    {option value : CString} (sets : SetsInterval option)
    (last : ∀ arg ∈ value :: back, ¬ SetsInterval arg)
    (parsed : parseArguments settings (front ++ option :: value :: back) = .ok after) :
    after.heartbeatInterval = heartbeatMinutes value := by
  obtain ⟨before, later⟩ := parseArguments_append parsed
  obtain ⟨middle, stored, later⟩ := parseArguments_cons.mp later
  rw [parseArguments_heartbeatInterval last later]
  cases option with
  | nil => cases stored
  | cons c tail =>
      rw [SetsInterval, List.tail_cons] at sets
      rw [parseArgument] at stored
      simp only [sets] at stored
      change Except.ok { testDebug before tail with heartbeatInterval := heartbeatMinutes value } =
        Except.ok middle at stored
      rw [← Except.ok.inj stored]

/-- The name of an option begins, and not with a digit. -/
theorem optionNames_head : ∀ row ∈ optionNames, isDigit (toLower (row.1.headD 48)) = false := by
  decide

theorem isDigit_toLower {c : UInt8} (digit : isDigit c = true) : toLower c = c := by
  obtain ⟨value, rfl⟩ := exists_digit digit
  revert value
  decide

/-- Digits are no option. -/
theorem optionOf_digits {digits : CString} (number : ∀ c ∈ digits, isDigit c = true) :
    optionOf digits = none := by
  rw [optionOf, Option.map_eq_none_iff, List.find?_eq_none]
  intro row member named
  have letter := optionNames_head row member
  rw [isNamed, strnicmpEq, List.take_length, stricmpEq_iff] at named
  cases name : row.1 with
  | nil =>
      rw [name] at letter
      exact absurd letter (by decide)
  | cons c rest =>
      rw [name, List.headD_cons] at letter
      rw [name] at named
      cases digits with
      | nil => exact absurd named (by simp)
      | cons digit more =>
          have first := number digit (List.mem_cons_self ..)
          have same : toLower digit = toLower c := (List.cons.inj named).1
          rw [← same, isDigit_toLower first, first] at letter
          exact absurd letter (by decide)

/-- The number of a text is no option. -/
theorem denotes_not_setsInterval {value : CString} {n : Int} (denotes : Denotes value n) :
    ¬ SetsInterval value := by
  have plain : optionOf value.tail = none := by
    cases denotes with
    | unsigned some number =>
        exact optionOf_digits fun c member => number c (List.mem_of_mem_tail member)
    | plus some number => exact optionOf_digits number
    | minus some number => exact optionOf_digits number
  rw [SetsInterval, plain]
  exact Option.some_ne_none _ ∘ Eq.symm

/-! ## The arithmetic -/

/-- The interval that `n` minutes ask for: 60 seconds for each, and one minute at least. -/
structure IntervalRight (n : Int) (interval : UInt64) : Prop where
  minute : 60 ≤ interval
  accepted : 1 ≤ n → (interval.toNat : Int) = 60 * n
  refused : n < 1 → interval = 60

/-- `heartbeatInterval` for what `atol` has read. -/
def minutesWord (n : Int) : UInt64 :=
  if UInt64.ofInt n < 1 then 60 else UInt64.ofInt n * 60

/-- The word for zero minutes, and for any other number its product modulo the word size. -/
theorem minutesWord_toNat (n : Int) :
    (n % 2 ^ 64 = 0 ∧ (minutesWord n).toNat = 60) ∨
      (n % 2 ^ 64 ≠ 0 ∧ ((minutesWord n).toNat : Int) = 60 * n % 2 ^ 64) := by
  have word : ((UInt64.ofInt n).toNat : Int) = n % 2 ^ 64 := by
    rw [UInt64.ofInt, UInt64.toNat_ofNat']
    omega
  have empty : UInt64.ofInt n < 1 ↔ n % 2 ^ 64 = 0 := by
    rw [UInt64.lt_iff_toNat_lt, UInt64.toNat_one]
    omega
  rw [minutesWord]
  by_cases zero : n % 2 ^ 64 = 0
  · rw [if_pos (empty.mpr zero)]
    exact Or.inl ⟨zero, rfl⟩
  · rw [if_neg (mt empty.mp zero), UInt64.toNat_mul]
    have sixty : (60 : UInt64).toNat = 60 := rfl
    rw [sixty]
    refine Or.inr ⟨zero, ?_⟩
    omega

/-- Of the factor 60 four divides the word size, and the rest is odd. -/
theorem sixty_dvd_iff (m : Int) : (2 ^ 64 : Int) ∣ 60 * m ↔ (2 ^ 62 : Int) ∣ m := by
  rw [show (2 ^ 64 : Int) = 4 * 2 ^ 62 by norm_num, show 60 * m = 4 * (15 * m) by ring,
    Int.mul_dvd_mul_iff_left (by norm_num)]
  have coprime : IsCoprime (2 ^ 62 : Int) 15 := by norm_num
  exact ⟨coprime.dvd_of_dvd_mul_left, fun divides => divides.mul_left 15⟩

/-- Numbers below one whose product wraps around to a minute. -/
theorem wraps_to_minute {n : Int} (low : -(2 ^ 63) ≤ n) (small : n < 1)
    (wraps : 60 * n % 2 ^ 64 = 60) : n = 1 - 2 ^ 62 ∨ n = 1 - 2 ^ 63 := by
  have divides : (2 ^ 64 : Int) ∣ 60 * (n - 1) := by
    have division := Int.emod_add_mul_ediv (60 * n) (2 ^ 64)
    rw [wraps] at division
    exact ⟨60 * n / 2 ^ 64, by linarith⟩
  obtain ⟨j, multiple⟩ := (sixty_dvd_iff _).mp divides
  obtain rfl : n = 1 + 2 ^ 62 * j := by linarith
  omega

/-- The numbers for which the interval comes out right. -/
theorem intervalRight_iff {n : Int} (low : -(2 ^ 63) ≤ n) (high : n < 2 ^ 63) :
    IntervalRight n (minutesWord n) ↔
      (0 ≤ n ∧ 60 * n < 2 ^ 64) ∨ n = 1 - 2 ^ 62 ∨ n = 1 - 2 ^ 63 := by
  have value := minutesWord_toNat n
  generalize minutesWord n = interval at value
  have sixty : interval = 60 ↔ interval.toNat = 60 := UInt64.toNat_inj.symm
  have minute : 60 ≤ interval ↔ 60 ≤ interval.toNat := UInt64.le_iff_toNat_le
  constructor
  · rintro ⟨-, accepted, refused⟩
    rcases value with ⟨zero, -⟩ | ⟨-, product⟩
    · exact Or.inl (by omega)
    · by_cases positive : 1 ≤ n
      · rw [accepted positive] at product
        have below := Int.emod_lt_of_pos (60 * n) (show (0 : Int) < 2 ^ 64 by norm_num)
        rw [← product] at below
        exact Or.inl ⟨by omega, below⟩
      · have small := not_le.mp positive
        rw [sixty.mp (refused small)] at product
        exact Or.inr (wraps_to_minute low small product.symm)
  · rintro (⟨nonneg, fits⟩ | wraps)
    · rcases value with ⟨zero, word⟩ | ⟨nonzero, product⟩
      · have none : n = 0 := by omega
        exact ⟨minute.mpr (by omega), by omega, fun _ => sixty.mpr word⟩
      · rw [Int.emod_eq_of_lt (by omega) fits] at product
        exact ⟨minute.mpr (by omega), fun _ => product, by omega⟩
    · have word : interval.toNat = 60 := by
        rcases value with ⟨-, word⟩ | ⟨-, product⟩
        · exact word
        · rcases wraps with rfl | rfl <;> exact Int.natCast_inj.mp product
      exact ⟨minute.mpr (by omega), by omega, fun _ => sixty.mpr word⟩

/-- The interval is zero for the other multiples of `2 ^ 62`. -/
theorem minutesWord_eq_zero_iff {n : Int} (low : -(2 ^ 63) ≤ n) (high : n < 2 ^ 63) :
    minutesWord n = 0 ↔ n ≠ 0 ∧ (2 ^ 62 : Int) ∣ n := by
  rw [← sixty_dvd_iff, Int.dvd_iff_emod_eq_zero]
  have none : minutesWord n = 0 ↔ (minutesWord n).toNat = 0 := UInt64.toNat_inj.symm
  rw [none]
  rcases minutesWord_toNat n with ⟨zero, word⟩ | ⟨nonzero, product⟩
  · exact iff_of_false (by omega) fun other => other.1 (by omega)
  · rw [← product, Int.natCast_eq_zero]
    exact (and_iff_right (by omega)).symm

/--
After the command line the interval is right exactly for the numbers of minutes
from zero on whose seconds fit into the word, and for two negative numbers.
`rand() % heartbeatInterval` divides by zero for the other multiples of
`2 ^ 62`. Only the last `-heartbeatinterval` counts, and it has its value.
-/
theorem heartbeatInterval_iff (settings after : Settings) (program : CString)
    (front back : List CString) (option value : CString) (n : Int)
    (denotes : Denotes value n) (low : -(2 ^ 63) ≤ n) (high : n < 2 ^ 63)
    (sets : SetsInterval option) (last : ∀ arg ∈ back, ¬ SetsInterval arg)
    (parsed : parseCommandLine settings (program :: (front ++ option :: value :: back)) =
      .ok after) :
    (IntervalRight n after.config.heartbeatInterval ↔
      (0 ≤ n ∧ 60 * n < 2 ^ 64) ∨ n = 1 - 2 ^ 62 ∨ n = 1 - 2 ^ 63) ∧
    (after.config.heartbeatInterval = 0 ↔ n ≠ 0 ∧ (2 ^ 62 : Int) ∣ n) := by
  have others : ∀ arg ∈ value :: back, ¬ SetsInterval arg :=
    List.forall_mem_cons.mpr ⟨denotes_not_setsInterval denotes, last⟩
  have interval : after.config.heartbeatInterval = minutesWord n := by
    rw [Settings.config, parseArguments_interval sets others parsed, heartbeatMinutes,
      denotes.strtol_eq low high, minutesWord]
  rw [interval]
  exact ⟨intervalRight_iff low high, minutesWord_eq_zero_iff low high⟩

/-- `-heartbeatinterval 7`. -/
theorem heartbeatInterval_iff_seven : IntervalRight 7
    ({ Settings.initial with heartbeatInterval := 420 }).config.heartbeatInterval := by
  have denotes : Denotes [55] (digitsValue 0 [55]) :=
    .unsigned (by decide) (List.forall_mem_singleton.mpr rfl)
  exact (heartbeatInterval_iff .initial { Settings.initial with heartbeatInterval := 420 }
    (ascii "gsmaster") [] [] (ascii "-heartbeatinterval") [55] 7 denotes (by decide) (by decide)
    (by decide) (List.forall_mem_nil _) (by decide)).1.mpr (Or.inl ⟨by decide, by decide⟩)

/-- `2 ^ 62` in decimal. -/
def wrappingMinutes : CString :=
  [52, 54, 49, 49, 54, 56, 54, 48, 49, 56, 52, 50, 55, 51, 56, 55, 57, 48, 52]

/-- `2 ^ 62` minutes come out as no seconds at all. -/
theorem heartbeatInterval_wraps :
    ¬ ∀ (settings after : Settings) (program : CString) (front back : List CString)
      (option value : CString) (n : Int), Denotes value n → -(2 ^ 63) ≤ n → n < 2 ^ 63 →
      SetsInterval option → (∀ arg ∈ back, ¬ SetsInterval arg) →
      parseCommandLine settings (program :: (front ++ option :: value :: back)) = .ok after →
      IntervalRight n after.config.heartbeatInterval := by
  intro always
  have denotes : Denotes wrappingMinutes (digitsValue 0 wrappingMinutes) :=
    .unsigned (by decide) (List.all_eq_true.mp (by decide))
  have right := always .initial { Settings.initial with heartbeatInterval := 0 }
    (ascii "gsmaster") [] [] (ascii "-heartbeatinterval") wrappingMinutes _ denotes
    (by decide) (by decide) (by decide) (List.forall_mem_nil _) (by decide)
  exact absurd right.minute (by decide)

end GSMaster.Startup
