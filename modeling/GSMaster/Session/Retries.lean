import GSMaster.Session.ListRequests

/-!
# The retries of the two receive phases

The first loop of a session stores the error of each failed call in
`lastWSAError` and tests it; the second tests the variable without storing.
What the second loop does with an error is decided by the first loop: it gives
up at any error if the first packet came at once, and retries any error if the
first packet had to be waited for.
-/

namespace GSMaster.Session

open GSMaster.Text GSMaster.Registry GSMaster.Games

/-- The events of a phase and its packet, if it gets one. -/
abbrev PhaseResult := List SocketEvent × Option (List UInt8)

def Received.result (received : Received) : PhaseResult :=
  (received.events, received.packet)

/--
A phase that goes by the outcomes of its own calls: it waits after one that
would have blocked, as long as it has retries, and gives up at any other error.
-/
def retryPhase (recv : Nat → RecvOutcome) : Nat → Nat → Nat → PhaseResult
  | retries, calls, sleepMs =>
      match recv calls with
      | .data bytes => ([.recv], some bytes)
      | .socketError .other => ([.recv], none)
      | .socketError .wouldBlock =>
          match retries with
          | 0 => ([.recv], none)
          | retries + 1 =>
              let later := retryPhase recv retries (calls + 1) (sleepMs + 10)
              (.recv :: .msleep sleepMs :: later.1, later.2)

/-- The loop at `retryIncomingTcpValidate`. -/
def validatePhase (client : Client) : Received :=
  receive client.recv true totalRetry 0 50 none

/-- The loop at `retryIncomingTcpList`, as the first loop leaves it to be run. -/
def listPhase (client : Client) : Received :=
  receive client.recv false totalRetry (validatePhase client).calls 50
    (validatePhase client).lastWSAError

/-- Both phases go by their own outcomes, and the second by nothing that came before. -/
structure PhasesAlike (client : Client) (waits : Nat) : Prop where
  validate : (validatePhase client).result = retryPhase client.recv totalRetry 0 50
  list : (listPhase client).result = retryPhase client.recv totalRetry (waits + 1) 50
  own : ∀ (other : Client) waits' packet', FirstPacket other waits' packet' →
    (∀ i, other.recv (waits' + 1 + i) = client.recv (waits + 1 + i)) →
      (listPhase other).result = (listPhase client).result

/--
The outcomes that the second phase treats as the first would. If the first
packet came at once, the first call does not block. If it did not, none of the
calls that may be retried fails for another reason after calls that block.
-/
def TreatedAlike (client : Client) (waits : Nat) : Prop :=
  if waits = 0 then client.recv 1 ≠ .socketError .wouldBlock
  else ∀ i < totalRetry, (∀ j < i, client.recv (waits + 1 + j) = .socketError .wouldBlock) →
    client.recv (waits + 1 + i) ≠ .socketError .other

/-! ## The loops -/

theorem retryPhase_data {recv : Nat → RecvOutcome} {calls : Nat} {packet : List UInt8}
    (arrives : recv calls = .data packet) (retries sleepMs : Nat) :
    retryPhase recv retries calls sleepMs = ([.recv], some packet) := by
  cases retries <;> simp only [retryPhase, arrives]

theorem retryPhase_other {recv : Nat → RecvOutcome} {calls : Nat}
    (failed : recv calls = .socketError .other) (retries sleepMs : Nat) :
    retryPhase recv retries calls sleepMs = ([.recv], none) := by
  cases retries <;> simp only [retryPhase, failed]

theorem retryPhase_wouldBlock {recv : Nat → RecvOutcome} {calls : Nat}
    (failed : recv calls = .socketError .wouldBlock) (retries sleepMs : Nat) :
    retryPhase recv (retries + 1) calls sleepMs =
      (.recv :: .msleep sleepMs :: (retryPhase recv retries (calls + 1) (sleepMs + 10)).1,
        (retryPhase recv retries (calls + 1) (sleepMs + 10)).2) := by
  rw [retryPhase, failed]

theorem retryPhase_error {recv : Nat → RecvOutcome} {calls : Nat} {error : SocketError}
    (failed : recv calls = .socketError error) (sleepMs : Nat) :
    retryPhase recv 0 calls sleepMs = ([.recv], none) := by
  cases error <;> simp only [retryPhase, failed]

/-- A loop that stores its errors goes by its own outcomes. -/
theorem receive_stores (recv : Nat → RecvOutcome) (retries calls sleepMs : Nat)
    (lastWSAError : Option SocketError) :
    (receive recv true retries calls sleepMs lastWSAError).result =
      retryPhase recv retries calls sleepMs := by
  induction retries generalizing calls sleepMs lastWSAError with
  | zero =>
      cases outcome : recv calls with
      | data bytes =>
          rw [receive_data outcome, retryPhase_data outcome]
          rfl
      | socketError error =>
          rw [receive_gives_up outcome (Or.inl rfl), retryPhase_error outcome]
          rfl
  | succ retries ih =>
      cases outcome : recv calls with
      | data bytes =>
          rw [receive_data outcome, retryPhase_data outcome]
          rfl
      | socketError error =>
          cases error with
          | wouldBlock =>
              rw [receive_retry outcome rfl, retryPhase_wouldBlock outcome, ← ih]
              rfl
          | other =>
              rw [receive_gives_up outcome (Or.inr (by simp)), retryPhase_other outcome]
              rfl

/-- A loop that finds nothing in `lastWSAError` does not retry. -/
theorem receive_none {recv : Nat → RecvOutcome} {calls : Nat} {error : SocketError}
    (failed : recv calls = .socketError error) (retries sleepMs : Nat) :
    (receive recv false retries calls sleepMs none).result = ([.recv], none) := by
  rw [receive_gives_up failed (Or.inr (by simp))]
  rfl

/-- A loop that finds a call that would have blocked retries whatever the error. -/
theorem receive_stale {recv : Nat → RecvOutcome} {calls : Nat} {error : SocketError}
    (failed : recv calls = .socketError error) (retries sleepMs : Nat) :
    (receive recv false (retries + 1) calls sleepMs (some .wouldBlock)).result =
      (.recv :: .msleep sleepMs ::
        (receive recv false retries (calls + 1) (sleepMs + 10) (some .wouldBlock)).result.1,
        (receive recv false retries (calls + 1) (sleepMs + 10) (some .wouldBlock)).result.2) := by
  rw [receive_retry failed rfl]
  rfl

theorem receive_none_iff (recv : Nat → RecvOutcome) (retries calls sleepMs : Nat) :
    (receive recv false (retries + 1) calls sleepMs none).result =
        retryPhase recv (retries + 1) calls sleepMs ↔
      recv calls ≠ .socketError .wouldBlock := by
  cases outcome : recv calls with
  | data bytes =>
      rw [receive_data outcome, retryPhase_data outcome]
      exact iff_of_true rfl (by simp)
  | socketError error =>
      rw [receive_none outcome]
      cases error with
      | wouldBlock =>
          rw [retryPhase_wouldBlock outcome]
          exact iff_of_false (by simp) fun apart => apart rfl
      | other =>
          rw [retryPhase_other outcome]
          exact iff_of_true rfl (by decide)

/-- What holds of every call up to the first that did not block, told from the first call on. -/
theorem before_succ_iff {blocked treated : Nat → Prop} (count calls : Nat) :
    (∀ i < count + 1, (∀ j < i, blocked (calls + j)) → treated (calls + i)) ↔
      treated calls ∧ (blocked calls →
        ∀ i < count, (∀ j < i, blocked (calls + 1 + j)) → treated (calls + 1 + i)) := by
  have shift (i : Nat) : calls + 1 + i = calls + (i + 1) := by omega
  simp only [shift]
  constructor
  · intro all
    refine ⟨all 0 (Nat.succ_pos count) fun j early => absurd early (Nat.not_lt_zero j), ?_⟩
    intro first i inside later
    refine all (i + 1) (Nat.succ_lt_succ inside) fun j early => ?_
    cases j with
    | zero => exact first
    | succ j => exact later j (Nat.lt_of_succ_lt_succ early)
  · rintro ⟨here, rest⟩ i inside early
    cases i with
    | zero => exact here
    | succ i =>
        exact rest (early 0 (Nat.succ_pos i)) i (Nat.lt_of_succ_lt_succ inside) fun j before =>
          early (j + 1) (Nat.succ_lt_succ before)

/-- After a first error the loop is right as long as it meets no other before the packet. -/
theorem receive_stale_iff (recv : Nat → RecvOutcome) (retries calls sleepMs : Nat) :
    (receive recv false retries calls sleepMs (some .wouldBlock)).result =
        retryPhase recv retries calls sleepMs ↔
      ∀ i < retries, (∀ j < i, recv (calls + j) = .socketError .wouldBlock) →
        recv (calls + i) ≠ .socketError .other := by
  induction retries generalizing calls sleepMs with
  | zero =>
      refine iff_of_true ?_ fun i inside => absurd inside (Nat.not_lt_zero i)
      cases outcome : recv calls with
      | data bytes =>
          rw [receive_data outcome, retryPhase_data outcome]
          rfl
      | socketError error =>
          rw [receive_gives_up outcome (Or.inl rfl), retryPhase_error outcome]
          rfl
  | succ retries ih =>
      have step := @before_succ_iff (fun i => recv i = .socketError .wouldBlock)
        (fun i => recv i ≠ .socketError .other) retries calls
      rw [step]
      cases outcome : recv calls with
      | data bytes =>
          rw [receive_data outcome, retryPhase_data outcome]
          exact iff_of_true rfl ⟨by simp, by simp⟩
      | socketError error =>
          rw [receive_stale outcome]
          cases error with
          | other =>
              rw [retryPhase_other outcome]
              exact iff_of_false (by simp) fun treated => treated.1 rfl
          | wouldBlock =>
              rw [retryPhase_wouldBlock outcome]
              simp only [Prod.mk.injEq, List.cons.injEq, true_and]
              rw [← Prod.ext_iff, ih]
              simp

/-! ## The phases -/

theorem listPhase_eq {client : Client} {waits : Nat} {packet : List UInt8}
    (first : FirstPacket client waits packet) :
    listPhase client = receive client.recv false totalRetry (waits + 1) 50
      (if waits = 0 then none else some .wouldBlock) := by
  obtain ⟨events, received⟩ := receive_first first
  rw [listPhase, validatePhase, received]

/-- The second phase goes by its own outcomes exactly where it treats them alike. -/
theorem listPhase_iff {client : Client} {waits : Nat} {packet : List UInt8}
    (first : FirstPacket client waits packet) :
    (listPhase client).result = retryPhase client.recv totalRetry (waits + 1) 50 ↔
      TreatedAlike client waits := by
  rw [listPhase_eq first, TreatedAlike]
  cases waits with
  | zero => exact receive_none_iff client.recv 9 1 50
  | succ waits => exact receive_stale_iff client.recv totalRetry (waits + 1 + 1) 50

/-- A client with the same second phase, whose first packet comes at once or after a wait. -/
def otherwise (client : Client) (waits : Nat) (packet : List UInt8) : Client :=
  if waits = 0 then
    { client with recv := fun i =>
        match i with
        | 0 => .socketError .wouldBlock
        | 1 => .data packet
        | i + 2 => client.recv (i + 1) }
  else
    { client with recv := fun i =>
        match i with
        | 0 => .data packet
        | i + 1 => client.recv (waits + 1 + i) }

theorem otherwise_first (client : Client) (waits : Nat) (packet : List UInt8) :
    FirstPacket (otherwise client waits packet) (if waits = 0 then 1 else 0) packet := by
  unfold otherwise
  cases waits with
  | zero =>
      refine ⟨by decide, fun i inside => ?_, rfl⟩
      obtain rfl : i = 0 := Nat.lt_one_iff.mp inside
      rfl
  | succ waits => exact ⟨Nat.zero_le _, fun i inside => absurd inside (Nat.not_lt_zero i), rfl⟩

theorem otherwise_recv (client : Client) (waits : Nat) (packet : List UInt8) (i : Nat) :
    (otherwise client waits packet).recv ((if waits = 0 then 1 else 0) + 1 + i) =
      client.recv (waits + 1 + i) := by
  unfold otherwise
  cases waits with
  | zero =>
      rw [if_pos rfl, if_pos rfl, Nat.add_comm _ i]
      change client.recv (i + 1) = _
      rw [Nat.zero_add, Nat.add_comm]
  | succ waits =>
      rw [if_neg (Nat.succ_ne_zero waits), if_neg (Nat.succ_ne_zero waits), Nat.add_comm _ i]

/-- A second phase that begins with an error depends on the phase before it. -/
theorem listPhase_otherwise {client : Client} {waits : Nat} {packet : List UInt8}
    {error : SocketError} (first : FirstPacket client waits packet)
    (failed : client.recv (waits + 1) = .socketError error) :
    (listPhase (otherwise client waits packet)).result ≠ (listPhase client).result := by
  have moved := otherwise_recv client waits packet 0
  rw [Nat.add_zero, Nat.add_zero, failed] at moved
  rw [listPhase_eq first, listPhase_eq (otherwise_first client waits packet)]
  cases waits with
  | zero =>
      simp only [if_true, if_false, Nat.one_ne_zero] at moved ⊢
      rw [receive_none failed, totalRetry, receive_stale moved]
      simp
  | succ waits =>
      simp only [if_true, if_false, Nat.succ_ne_zero] at moved ⊢
      rw [receive_none moved, totalRetry, receive_stale failed]
      simp

/-- A second phase that begins with data is over at once. -/
theorem listPhase_data {client : Client} {waits : Nat} {packet bytes : List UInt8}
    (first : FirstPacket client waits packet) (arrives : client.recv (waits + 1) = .data bytes) :
    (listPhase client).result = ([.recv], some bytes) := by
  rw [listPhase_eq first, receive_data arrives]
  rfl

/--
The two phases are alike exactly where the first call of the second one brings
data; the second treats its outcomes as the first would exactly where
`TreatedAlike` says so.
-/
theorem phasesAlike_iff (client : Client) (waits : Nat) (packet : List UInt8)
    (first : FirstPacket client waits packet) :
    (PhasesAlike client waits ↔ ∃ bytes, client.recv (waits + 1) = .data bytes) ∧
      ((listPhase client).result = retryPhase client.recv totalRetry (waits + 1) 50 ↔
        TreatedAlike client waits) := by
  refine ⟨⟨fun alike => ?_, ?_⟩, listPhase_iff first⟩
  · cases outcome : client.recv (waits + 1) with
    | data bytes => exact ⟨bytes, rfl⟩
    | socketError error =>
        exact absurd (alike.own _ _ packet (otherwise_first client waits packet)
          (otherwise_recv client waits packet)) (listPhase_otherwise first outcome)
  · rintro ⟨bytes, arrives⟩
    refine ⟨receive_stores client.recv totalRetry 0 50 none, ?_, ?_⟩
    · rw [listPhase_data first arrives, retryPhase_data arrives]
    · intro other waits' packet' otherFirst same
      have moved := same 0
      rw [Nat.add_zero, Nat.add_zero, arrives] at moved
      rw [listPhase_data first arrives, listPhase_data otherFirst moved]

/-- A client whose first packet has to be waited for, and whose list request is then there. -/
def waitedClient : Client :=
  { repeating (ascii "\\final\\") with recv := fun i =>
      match i with
      | 0 | 1 => .socketError .wouldBlock
      | _ => .data (ascii "\\final\\") }

/-- A client of whose calls every other one would block. -/
def haltingClient : Client :=
  { repeating (ascii "\\final\\") with recv := fun i =>
      match i % 2 with
      | 0 => .socketError .wouldBlock
      | _ => .data (ascii "\\final\\") }

/-- The phases of the first are alike; the second's list phase waits as its first did. -/
theorem phasesAlike_iff_waited :
    PhasesAlike waitedClient 2 ∧
      (listPhase haltingClient).result = retryPhase haltingClient.recv totalRetry 2 50 := by
  constructor
  · refine (phasesAlike_iff waitedClient 2 (ascii "\\final\\") ⟨by decide, fun i inside => ?_,
      rfl⟩).1.mpr ⟨_, rfl⟩
    obtain rfl | rfl : i = 0 ∨ i = 1 := by omega
    · rfl
    · rfl
  · refine (phasesAlike_iff haltingClient 1 (ascii "\\final\\") ⟨by decide, fun i inside => ?_,
      rfl⟩).2.mpr fun i _ _ => ?_
    · obtain rfl : i = 0 := Nat.lt_one_iff.mp inside
      rfl
    · unfold haltingClient
      simp only
      split
      · exact fun same => nomatch same
      · exact fun same => nomatch same

/-- A client whose list request arrives after its first packet has been handled. -/
def slowClient : Client :=
  { repeating (ascii "\\final\\") with recv := fun i =>
      match i with
      | 1 => .socketError .wouldBlock
      | _ => .data (ascii "\\final\\") }

/-- Its session is given up although no call has been retried. -/
theorem phases_differ :
    ¬ ∀ client waits packet, FirstPacket client waits packet → PhasesAlike client waits := by
  intro always
  have first : FirstPacket slowClient 0 (ascii "\\final\\") :=
    ⟨Nat.zero_le _, fun i inside => absurd inside (Nat.not_lt_zero i), rfl⟩
  have alike := (always slowClient 0 _ first).list
  revert alike
  decide

/-! ## The session -/

/-- The first packet passes and holds no list request, so that a second one is received. -/
structure AwaitsList (cfg : Config) (client : Client) (incomingTcpValidate : CString) : Prop where
  nonempty : incomingTcpValidate ≠ []
  supported : encodeType incomingTcpValidate ≤ gamespyEnctype1
  passed : validated cfg client incomingTcpValidate = true
  basic : contains (appendUnrealList incomingTcpValidate) (ascii "\\list\\") = false

/-- A session that gets that far runs the two phases one after the other. -/
theorem gameSpyParseTCPPacket_phases (options : TcpOptions) {cfg : Config} {client : Client}
    {waits : Nat} {packet : List UInt8} (connected : Connected client)
    (first : FirstPacket client waits packet) (awaits : AwaitsList cfg client (cstr packet)) :
    ∃ rest, gameSpyParseTCPPacket options cfg client =
      .send (challengeText (gameSpyCreateChallengeKey client.rand 6)) ::
        ((validatePhase client).events ++ ((listPhase client).events ++ rest)) := by
  obtain ⟨key, buffer, blocking, sent⟩ := connected
  obtain ⟨events, received⟩ := receive_first first
  have passed := awaits.passed
  unfold validated at passed
  unfold gameSpyParseTCPPacket receiveTcpValidate parseTcpValidate serveRequest listPhase
    validatePhase
  simp only [key, buffer, blocking, sent, Bool.not_true, Bool.or_self, Bool.false_eq_true, if_false,
    received, if_neg awaits.nonempty, if_neg (UInt16.not_lt.mpr awaits.supported), passed,
    awaits.basic]
  exact ⟨_, rfl⟩

end GSMaster.Session
