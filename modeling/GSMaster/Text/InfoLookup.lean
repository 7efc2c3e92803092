import GSMaster.Text.InfoPairs

/-!
# The key and value scanner in memory

`Info_ValueForKey` step by step, on the bytes that stand in memory from the
pointer `s` on: it knows the end of the text by its NUL only. A step is one
test of `*s` with what follows from it, and the reads and stores are kept in
the order in which they happen. The scan of `InfoString` is what the steps
amount to.
-/

namespace GSMaster.Text

/-- What `Info_ValueForKey` is at: one of its two copy loops, or it has returned. -/
inductive InfoPoint where
  | copyKey (pkey : CString)
  | copyValue (pkey value : CString)
  | returned (result : Option CString)
  deriving DecidableEq, Repr

/-- The pointer `s` as an offset, and the accesses so far. -/
structure InfoState where
  s : Nat
  point : InfoPoint
  reads : List Nat
  stores : List InfoStore

namespace InfoState

/-- Whatever the step goes on with, `*s` has been read. -/
def read (state : InfoState) : InfoState :=
  { state with reads := state.reads ++ [state.s] }

/-- `*o` is written at the place the copied text has got to. -/
def store (state : InfoState) (buffer : InfoBuffer) (copied : CString) : InfoState :=
  { state with stores := state.stores ++ [(buffer, copied.length)] }

def goTo (state : InfoState) (s : Nat) (point : InfoPoint) : InfoState :=
  { state with s := s, point := point }

end InfoState

/-- One round of a copy loop, or what follows the loop when its condition fails. -/
def infoStep (memory : Nat → UInt8) (key : CString) (state : InfoState) : InfoState :=
  let c := memory state.s
  match state.point with
  | .copyKey pkey =>
      if c = backslash then
        (state.read.store .pkey pkey).goTo (state.s + 1) (.copyValue pkey [])
      else if c = 0 then state.read.goTo state.s (.returned none)
      else (state.read.store .pkey pkey).goTo (state.s + 1) (.copyKey (pkey ++ [c]))
  | .copyValue pkey value =>
      if c ≠ backslash ∧ c ≠ 0 then
        (state.read.store .value value).goTo (state.s + 1) (.copyValue pkey (value ++ [c]))
      else if key = pkey then (state.read.store .value value).goTo state.s (.returned (some value))
      else if c = 0 then (state.read.store .value value).goTo state.s (.returned none)
      else (state.read.store .value value).goTo (state.s + 1) (.copyKey [])
  | .returned _ => state

section Steps

variable {memory : Nat → UInt8} {key pkey value : CString} {c : UInt8} {state : InfoState}

theorem infoStep_keyDone (point : state.point = .copyKey pkey)
    (separator : memory state.s = backslash) :
    infoStep memory key state =
      (state.read.store .pkey pkey).goTo (state.s + 1) (.copyValue pkey []) := by
  rw [infoStep, point]
  simp [separator]

theorem infoStep_keyByte (point : state.point = .copyKey pkey) (byte : memory state.s = c)
    (plain : c ≠ backslash) (notEnd : c ≠ 0) :
    infoStep memory key state =
      (state.read.store .pkey pkey).goTo (state.s + 1) (.copyKey (pkey ++ [c])) := by
  rw [infoStep, point]
  simp [byte, plain, notEnd]

theorem infoStep_valueByte (point : state.point = .copyValue pkey value)
    (byte : memory state.s = c) (plain : c ≠ backslash) (notEnd : c ≠ 0) :
    infoStep memory key state =
      (state.read.store .value value).goTo (state.s + 1) (.copyValue pkey (value ++ [c])) := by
  rw [infoStep, point]
  simp [byte, plain, notEnd]

/-- The value is complete, and its key is compared before the pointer moves on. -/
theorem infoStep_found (point : state.point = .copyValue pkey value)
    (separator : memory state.s = backslash) (found : key = pkey) :
    infoStep memory key state =
      (state.read.store .value value).goTo state.s (.returned (some value)) := by
  rw [infoStep, point]
  simp [separator, found]

theorem infoStep_nextPair (point : state.point = .copyValue pkey value)
    (separator : memory state.s = backslash) (apart : key ≠ pkey) :
    infoStep memory key state =
      (state.read.store .value value).goTo (state.s + 1) (.copyKey []) := by
  rw [infoStep, point]
  simp [separator, apart, backslash]

/-- The NUL ends the last value, whether or not it is the one looked for. -/
theorem infoStep_lastValue (point : state.point = .copyValue pkey value)
    (ended : memory state.s = 0) :
    infoStep memory key state = (state.read.store .value value).goTo state.s
      (.returned (infoScan key pkey (some value) [])) := by
  rw [infoStep, point]
  by_cases found : key = pkey <;> simp [ended, infoScan, found]

end Steps

/-- The test for a leading backslash. -/
def infoStart (memory : Nat → UInt8) : InfoState :=
  { s := if memory 0 = backslash then 1 else 0, point := .copyKey [], reads := [0], stores := [] }

/-- A NUL-terminated text in memory; anything may stand behind its NUL. -/
structure HoldsText (memory : Nat → UInt8) (text : CString) : Prop where
  plain : 0 ∉ text
  bytes : ∀ i (inside : i < text.length), memory i = text[i]
  terminator : memory text.length = 0

namespace HoldsText

/-- The byte at the start of what is left of the text. -/
theorem head {memory : Nat → UInt8} {text rest : CString} {s : Nat} {c : UInt8}
    (holds : HoldsText memory text) (left : text.drop s = c :: rest) :
    memory s = c ∧ c ≠ 0 ∧ s < text.length ∧ text.drop (s + 1) = rest := by
  have inside : s < text.length := by
    have lengths := congrArg List.length left
    rw [List.length_drop, List.length_cons] at lengths
    omega
  rw [List.drop_eq_getElem_cons inside] at left
  obtain ⟨first, tail⟩ := List.cons.inj left
  refine ⟨(holds.bytes s inside).trans first, ?_, inside, tail⟩
  rintro rfl
  exact holds.plain (first ▸ List.getElem_mem inside)

end HoldsText

/--
The steps from a state come to a return with this result; on the way they make
these stores and read no byte behind the NUL at `nul`.
-/
def InfoReturns (memory : Nat → UInt8) (key : CString) (nul : Nat) (state : InfoState)
    (result : Option CString) (stores : List InfoStore) : Prop :=
  ∃ steps last, ∃ reads : List Nat, (∀ position ∈ reads, position ≤ nul) ∧
    (infoStep memory key)^[steps] state =
      { s := last, point := .returned result, reads := state.reads ++ reads,
        stores := state.stores ++ stores }

namespace InfoReturns

variable {memory : Nat → UInt8} {key : CString} {nul : Nat} {state : InfoState}
  {result : Option CString}

/-- A step that stores a byte and goes on. -/
theorem stored {buffer : InfoBuffer} {copied : CString} {point : InfoPoint} {s : Nat}
    {stores : List InfoStore} (inside : state.s ≤ nul)
    (step : infoStep memory key state = (state.read.store buffer copied).goTo s point)
    (later : InfoReturns memory key nul ((state.read.store buffer copied).goTo s point)
      result stores) :
    InfoReturns memory key nul state result ((buffer, copied.length) :: stores) := by
  obtain ⟨steps, last, reads, within, run⟩ := later
  refine ⟨steps + 1, last, state.s :: reads, List.forall_mem_cons.mpr ⟨inside, within⟩, ?_⟩
  rw [Function.iterate_succ_apply, step, run]
  simp [InfoState.goTo, InfoState.store, InfoState.read]

/-- A state that has returned. -/
theorem here (returned : state.point = .returned result) :
    InfoReturns memory key nul state result [] := by
  refine ⟨0, state.s, [], List.forall_mem_nil _, ?_⟩
  rw [Function.iterate_zero_apply, List.append_nil, List.append_nil, ← returned]

end InfoReturns

/-- A point of the scan: the key so far, and the value once the key is complete. -/
def infoPoint (pkey : CString) : Option CString → InfoPoint
  | none => .copyKey pkey
  | some value => .copyValue pkey value

/-- From any point of the text the steps return what `infoScan` does, with its stores. -/
theorem infoScan_returns {memory : Nat → UInt8} {text : CString} (holds : HoldsText memory text)
    (key rest : CString) {state : InfoState} {pkey : CString} {value : Option CString}
    (inside : state.s ≤ text.length) (left : text.drop state.s = rest)
    (point : state.point = infoPoint pkey value) :
    InfoReturns memory key text.length state (infoScan key pkey value rest)
      (infoScanStores key pkey value rest) := by
  induction rest generalizing state pkey value with
  | nil =>
      have ended : memory state.s = 0 := by
        rw [le_antisymm inside (List.drop_eq_nil_iff.mp left)]
        exact holds.terminator
      cases value with
      | none =>
          refine ⟨1, state.s, [state.s], List.forall_mem_singleton.mpr inside, ?_⟩
          rw [Function.iterate_one, infoStep, point, infoPoint]
          simp [ended, infoScan, infoScanStores, backslash, InfoState.read, InfoState.goTo]
      | some value =>
          exact InfoReturns.stored inside (infoStep_lastValue point ended) (InfoReturns.here rfl)
  | cons c rest ih =>
      obtain ⟨byte, notEnd, before, left⟩ := holds.head left
      cases value with
      | none =>
          rw [infoScan, infoScanStores]
          by_cases separator : c = backslash
          · rw [if_pos separator, if_pos separator]
            exact InfoReturns.stored inside (infoStep_keyDone point (byte.trans separator))
              (ih before left rfl)
          · rw [if_neg separator, if_neg separator]
            exact InfoReturns.stored inside (infoStep_keyByte point byte separator notEnd)
              (ih before left rfl)
      | some value =>
          rw [infoScan, infoScanStores]
          by_cases separator : c = backslash
          · rw [if_pos separator, if_pos separator]
            by_cases found : key = pkey
            · rw [if_pos found, if_pos found]
              exact InfoReturns.stored inside
                (infoStep_found point (byte.trans separator) found) (InfoReturns.here rfl)
            · rw [if_neg found, if_neg found]
              exact InfoReturns.stored inside
                (infoStep_nextPair point (byte.trans separator) found) (ih before left rfl)
          · rw [if_neg separator, if_neg separator]
            exact InfoReturns.stored inside (infoStep_valueByte point byte separator notEnd)
              (ih before left rfl)

/-- The test for a leading backslash leaves the pointer where the scan begins. -/
theorem infoStart_skipBackslash {memory : Nat → UInt8} {text : CString}
    (holds : HoldsText memory text) :
    (infoStart memory).s ≤ text.length ∧
      text.drop (infoStart memory).s = skipBackslash text := by
  cases text with
  | nil =>
      have ended : memory 0 = 0 := holds.terminator
      simp [infoStart, skipBackslash, ended, backslash]
  | cons c rest =>
      have byte : memory 0 = c := holds.bytes 0 (Nat.zero_lt_succ _)
      by_cases separator : c = backslash <;>
        simp [infoStart, skipBackslash, byte, separator]

/-- The call returns what `infoValueForKey` does. -/
theorem infoStart_returns {memory : Nat → UInt8} {text : CString}
    (holds : HoldsText memory text) (key : CString) :
    InfoReturns memory key text.length (infoStart memory) (infoValueForKey text key)
      (infoStores text key) := by
  obtain ⟨inside, left⟩ := infoStart_skipBackslash holds
  exact infoScan_returns holds key _ inside left rfl

/-! ## Keys and values by their numbers -/

/-- Segment `2k - 1`, counted from one, is the key and has a value behind it. -/
def IsPair (key : CString) (segments : List CString) (k : Nat) : Prop :=
  0 < k ∧ 2 * k ≤ segments.length ∧ segments[2 * k - 2]? = some key

/-- What is looked up: the value of the least pair with this key. -/
structure IsLookup (key : CString) (segments : List CString) (result : Option CString) : Prop where
  least : ∀ k, IsLeast {k | IsPair key segments k} k →
    ∃ value, segments[2 * k - 1]? = some value ∧ result = some value
  missing : (∀ k, ¬ IsPair key segments k) → result = none

/-- A pair behind the first two segments, counted from there. -/
theorem isPair_succ {key pkey value : CString} {rest : List CString} {k : Nat} (positive : 0 < k) :
    IsPair key (pkey :: value :: rest) (k + 1) ↔ IsPair key rest k := by
  obtain ⟨j, rfl⟩ := Nat.exists_eq_add_of_lt positive
  simp only [IsPair, List.length_cons]
  rw [show 2 * (0 + j + 1 + 1) - 2 = 2 * j + 1 + 1 by omega,
    show 2 * (0 + j + 1) - 2 = 2 * j by omega, List.getElem?_cons_succ, List.getElem?_cons_succ]
  constructor
  · rintro ⟨_, short, here⟩
    exact ⟨by omega, by omega, here⟩
  · rintro ⟨_, short, here⟩
    exact ⟨by omega, by omega, here⟩

/-- The first two segments are a pair of another key. -/
theorem not_isPair_one {key pkey value : CString} {rest : List CString} (apart : key ≠ pkey) :
    ¬ IsPair key (pkey :: value :: rest) 1 := by
  rintro ⟨_, _, here⟩
  exact apart (Option.some.inj here).symm

/-- Fewer than two segments have no pair. -/
theorem not_isPair_of_short {key : CString} {segments : List CString}
    (short : segments.length < 2) (k : Nat) : ¬ IsPair key segments k := by
  rintro ⟨positive, inside, _⟩
  omega

/-- `firstValue` takes the value of the least pair. -/
theorem firstValue_least (key : CString) : ∀ segments : List CString,
    ((∀ k, ¬ IsPair key segments k) ∧ firstValue key segments = none) ∨
      ∃ k value, IsLeast {k | IsPair key segments k} k ∧ segments[2 * k - 1]? = some value ∧
        firstValue key segments = some value
  | [] => Or.inl ⟨not_isPair_of_short (Nat.zero_lt_two), rfl⟩
  | [_] => Or.inl ⟨not_isPair_of_short (Nat.one_lt_two), rfl⟩
  | pkey :: value :: rest => by
      rw [firstValue]
      by_cases found : key = pkey
      · have first : IsPair key (pkey :: value :: rest) 1 := by
          refine ⟨Nat.one_pos, ?_, congrArg some found.symm⟩
          simp
        refine Or.inr ⟨1, value, ⟨first, fun k pair => pair.1⟩, rfl, if_pos found⟩
      · rw [if_neg found]
        obtain ⟨missing, nothing⟩ | ⟨k, later, ⟨pair, least⟩, there, result⟩ :=
          firstValue_least key rest
        · refine Or.inl ⟨fun k pair => ?_, nothing⟩
          obtain ⟨j, rfl⟩ := Nat.exists_eq_add_of_lt pair.1
          rw [Nat.zero_add] at pair
          by_cases first : j = 0
          · exact not_isPair_one found (first ▸ pair)
          · exact missing j ((isPair_succ (Nat.pos_of_ne_zero first)).mp pair)
        · refine Or.inr ⟨k + 1, later, ⟨(isPair_succ pair.1).mpr pair, ?_⟩, ?_, result⟩
          · intro other otherPair
            obtain ⟨j, rfl⟩ := Nat.exists_eq_add_of_lt otherPair.1
            rw [Nat.zero_add] at otherPair ⊢
            by_cases first : j = 0
            · exact absurd (first ▸ otherPair) (not_isPair_one found)
            · have behind := (isPair_succ (Nat.pos_of_ne_zero first)).mp otherPair
              exact Nat.add_le_add_right (least behind) 1
          · have positive : 0 < k := pair.1
            rw [show 2 * (k + 1) - 1 = 2 * k - 1 + 1 + 1 by omega, List.getElem?_cons_succ,
              List.getElem?_cons_succ]
            exact there

theorem firstValue_isLookup (key : CString) (segments : List CString) :
    IsLookup key segments (firstValue key segments) := by
  obtain ⟨missing, nothing⟩ | ⟨k, value, least, there, result⟩ := firstValue_least key segments
  · exact ⟨fun k least => absurd least.1 (missing k), fun _ => nothing⟩
  · refine ⟨fun other otherLeast => ?_, fun missing => absurd least.1 (missing k)⟩
    rw [otherLeast.unique least]
    exact ⟨value, there, result⟩

/--
On a text of short segments, whatever stands behind its NUL, the scanner comes
to a return. It returns the value of the least pair with the key, or NULL if no
pair has it; it reads nothing behind the NUL and stores nothing outside its
buffers.
-/
theorem infoValueForKey_lookup (memory : Nat → UInt8) (text key : CString)
    (holds : HoldsText memory text)
    (short : ∀ segment ∈ infoSegments text, segment.length < maxInfoString) :
    ∃ result stores, InfoReturns memory key text.length (infoStart memory) result stores ∧
      IsLookup key (infoSegments text) result ∧ StoresWithin stores := by
  refine ⟨infoValueForKey text key, infoStores text key, infoStart_returns holds key, ?_, ?_⟩
  · rw [infoValueForKey_eq]
    exact firstValue_isLookup key (infoSegments text)
  · exact (infoFits_iff text key).mp (infoFits_of_short short key)

/-- `\a\b` with the key `a`, in a memory that goes on with backslashes behind the NUL. -/
theorem infoValueForKey_lookup_pair :
    ∃ result stores, InfoReturns (fun i => [92, 97, 92, 98, 0].getD i backslash) [97] 4
        (infoStart fun i => [92, 97, 92, 98, 0].getD i backslash) result stores ∧
      IsLookup [97] (infoSegments [92, 97, 92, 98]) result ∧ StoresWithin stores := by
  have holds : HoldsText (fun i => [92, 97, 92, 98, 0].getD i backslash) [92, 97, 92, 98] := by
    refine ⟨by decide, ?_, rfl⟩
    decide
  exact infoValueForKey_lookup _ [92, 97, 92, 98] [97] holds (by decide)

end GSMaster.Text
