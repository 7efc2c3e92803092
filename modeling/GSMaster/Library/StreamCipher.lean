import Mathlib

/-!
# Stream ciphers and feedback ciphers on a leading part of a message

A stream cipher draws one keystream byte after another from a state and
combines it with the message by exclusive or. The generator may fail. What it
draws does not depend on the message, so the cipher is undone by running it
again from the same state, and two of them may be undone in either order. A
feedback cipher mixes each message byte into the state; it is undone by a
cipher that reaches the same states.
-/

namespace GSMaster.Library

universe u

variable {σ : Type u}

/-- Combine a keystream with the leading bytes of a message. -/
def xorLeading : List UInt8 → List UInt8 → List UInt8
  | key :: keys, c :: rest => (c ^^^ key) :: xorLeading keys rest
  | _, message => message

/-- The next bytes that a generator draws, and the state it ends in. -/
def keystream (next : σ → Option (UInt8 × σ)) : Nat → σ → Option (List UInt8 × σ)
  | 0, state => some ([], state)
  | count + 1, state =>
      match next state with
      | none => none
      | some (key, following) =>
          (keystream next count following).map fun drawn => (key :: drawn.1, drawn.2)

/-- Encipher the leading bytes in place; a message that is too short is an overrun. -/
def streamXor (next : σ → Option (UInt8 × σ)) : Nat → σ → List UInt8 → Option (List UInt8 × σ)
  | 0, state, message => some (message, state)
  | _ + 1, _, [] => none
  | count + 1, state, c :: rest =>
      match next state with
      | none => none
      | some (key, following) =>
          (streamXor next count following rest).map fun done => ((c ^^^ key) :: done.1, done.2)

/-- Encipher the leading bytes with a step that feeds each byte back into the state. -/
def feedback (step : σ → UInt8 → UInt8 × σ) : Nat → σ → List UInt8 → List UInt8
  | 0, _, message => message
  | _ + 1, _, [] => []
  | count + 1, state, c :: rest =>
      (step state c).1 :: feedback step count (step state c).2 rest

@[simp] theorem xorLeading_nil (message : List UInt8) : xorLeading [] message = message := by
  cases message <;> rfl

@[simp] theorem xorLeading_length (keys message : List UInt8) :
    (xorLeading keys message).length = message.length := by
  induction keys generalizing message with
  | nil => rw [xorLeading_nil]
  | cons key keys ih =>
      cases message with
      | nil => rfl
      | cons c rest => simp only [xorLeading, List.length_cons, ih]

/-- Combining twice with one keystream gives the message back. -/
@[simp] theorem xorLeading_self (keys message : List UInt8) :
    xorLeading keys (xorLeading keys message) = message := by
  induction keys generalizing message with
  | nil => rw [xorLeading_nil, xorLeading_nil]
  | cons key keys ih =>
      cases message with
      | nil => rfl
      | cons c rest =>
          simp only [xorLeading, ih, UInt8.xor_assoc, UInt8.xor_self, UInt8.xor_zero]

/-- Two keystreams may be combined in either order, whatever their lengths. -/
theorem xorLeading_comm (first second message : List UInt8) :
    xorLeading first (xorLeading second message) =
      xorLeading second (xorLeading first message) := by
  induction first generalizing second message with
  | nil => simp only [xorLeading_nil]
  | cons key keys ih =>
      cases second with
      | nil => simp only [xorLeading_nil]
      | cons other others =>
          cases message with
          | nil => rfl
          | cons c rest =>
              simp only [xorLeading, ih others rest, UInt8.xor_assoc, UInt8.xor_comm key other]

/-- The cipher combines the message with the keystream and leaves the rest alone. -/
theorem streamXor_eq {next : σ → Option (UInt8 × σ)} {count : Nat} {state : σ}
    {message : List UInt8} (long : count ≤ message.length) :
    streamXor next count state message =
      (keystream next count state).map fun drawn => (xorLeading drawn.1 message, drawn.2) := by
  induction count generalizing state message with
  | zero => simp only [streamXor, keystream, Option.map_some, xorLeading_nil]
  | succ count ih =>
      cases message with
      | nil => exact absurd long (Nat.not_succ_le_zero count)
      | cons c rest =>
          have shorter : count ≤ rest.length := Nat.le_of_succ_le_succ long
          simp only [streamXor, keystream]
          cases next state with
          | none => rfl
          | some drawn =>
              simp only [ih shorter]
              cases keystream next count drawn.2 <;> rfl

@[simp] theorem feedback_length (step : σ → UInt8 → UInt8 × σ) (count : Nat) (state : σ)
    (message : List UInt8) : (feedback step count state message).length = message.length := by
  induction count generalizing state message with
  | zero => rfl
  | succ count ih =>
      cases message with
      | nil => rfl
      | cons c rest => simp only [feedback, List.length_cons, ih]

/-- A feedback cipher is undone by a step that recovers the byte and the next state. -/
theorem feedback_inverse {encode decode : σ → UInt8 → UInt8 × σ}
    (inverse : ∀ state c, decode state (encode state c).1 = (c, (encode state c).2))
    (count : Nat) (state : σ) (message : List UInt8) :
    feedback decode count state (feedback encode count state message) = message := by
  induction count generalizing state message with
  | zero => rfl
  | succ count ih =>
      cases message with
      | nil => rfl
      | cons c rest => simp only [feedback, inverse, ih]

/-! ## The states of a cipher -/

/-- The state of a feedback cipher after a message. -/
def feedbackState (step : σ → UInt8 → UInt8 × σ) (state : σ) (message : List UInt8) : σ :=
  message.foldl (fun state c => (step state c).2) state

/-- The states in front of each byte of a message, and behind the last one, are of some kind. -/
def EachIn (holds : σ → Prop) (step : σ → UInt8 → UInt8 × σ) (state : σ) : Prop :=
  ∀ (early late : List UInt8) (count : Nat), holds (feedbackState step state early) ∧
    feedback step (early.length + count) state (early ++ late) =
      feedback step early.length state early ++
        feedback step count (feedbackState step state early) late

/-- A message in two parts is enciphered part by part. -/
theorem feedback_append (step : σ → UInt8 → UInt8 × σ) (count : Nat) (state : σ)
    (early late : List UInt8) :
    feedback step (early.length + count) state (early ++ late) =
      feedback step early.length state early ++
        feedback step count (feedbackState step state early) late := by
  induction early generalizing state with
  | nil => rw [List.length_nil, Nat.zero_add]; rfl
  | cons c early ih =>
      rw [List.length_cons, Nat.succ_add, List.cons_append, feedback, feedback, ih]
      rfl

theorem feedbackState_keeps {step : σ → UInt8 → UInt8 × σ} {holds : σ → Prop}
    (keeps : ∀ state c, holds state → holds (step state c).2) {state : σ} (start : holds state)
    (message : List UInt8) : holds (feedbackState step state message) := by
  induction message generalizing state with
  | nil => exact start
  | cons c message ih => exact ih (keeps state c start)

theorem eachIn_of_keeps {step : σ → UInt8 → UInt8 × σ} {holds : σ → Prop}
    (keeps : ∀ state c, holds state → holds (step state c).2) {state : σ} (start : holds state) :
    EachIn holds step state := fun early late count =>
  ⟨feedbackState_keeps keeps start early, feedback_append step count state early late⟩

theorem streamXor_keeps {next : σ → Option (UInt8 × σ)} {holds : σ → Prop}
    (keeps : ∀ state drawn, next state = some drawn → holds state → holds drawn.2) {count : Nat}
    {state : σ} (start : holds state) {message : List UInt8} {done : List UInt8 × σ}
    (enciphered : streamXor next count state message = some done) : holds done.2 := by
  induction count generalizing state message done with
  | zero =>
      obtain rfl := Option.some.inj enciphered
      exact start
  | succ count ih =>
      cases message with
      | nil => cases enciphered
      | cons c rest =>
          rw [streamXor] at enciphered
          split at enciphered
          · cases enciphered
          · rename_i key following drawn
            obtain ⟨later, ran, rfl⟩ := Option.map_eq_some_iff.mp enciphered
            have kept : holds later.2 := ih (keeps state (key, following) drawn start) ran
            exact kept

end GSMaster.Library
