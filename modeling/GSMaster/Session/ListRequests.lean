import GSMaster.Session.TcpSession

/-!
# The sessions that send a list

Whether a session sends a list depends on the two packets and on the cross
check of the first. The receive loops are described by the calls that fail
before a packet arrives.
-/

namespace GSMaster.Session

open GSMaster.Text GSMaster.Net GSMaster.Registry GSMaster.Games GSMaster.Lists

/-- `SendGameSpyListToClient` is reached. -/
def SendsList (events : List SocketEvent) : Prop :=
  ∃ call : ListCall, .list call ∈ events

/-- The calls before the packet fail, each with an error after which the loop goes on. -/
def Waits (recv : Nat → RecvOutcome) (stores : Bool) (lastWSAError : Option SocketError)
    (calls waits : Nat) : Prop :=
  ∀ i < waits, ∃ error, recv (calls + i) = .socketError error ∧
    (if stores then some error else lastWSAError) = some .wouldBlock

/-- The first packet arrives after at most `totalRetry` calls that would have blocked. -/
def FirstPacket (client : Client) (waits : Nat) (packet : List UInt8) : Prop :=
  waits ≤ totalRetry ∧ (∀ i < waits, client.recv i = .socketError .wouldBlock) ∧
    client.recv waits = .data packet

/--
The second packet arrives at once, or after at most `totalRetry` calls that
failed, whatever the error, when there was such a call for the first packet.
-/
def SecondPacket (client : Client) (waits : Nat) (packet : List UInt8) : Prop :=
  ∃ failures ≤ totalRetry, (failures = 0 ∨ 0 < waits) ∧
    (∀ i < failures, ∃ error, client.recv (waits + 1 + i) = .socketError error) ∧
    client.recv (waits + 1 + failures) = .data packet

/-- The allocations and the calls before the first `recv` succeed. -/
def Connected (client : Client) : Prop :=
  client.challengeKeyAllocated = true ∧ client.challengeBufferAllocated = true ∧
    client.nonBlocking = true ∧ client.challengeSent = true

/-- A list request that names a game. -/
def NamesGame (querystring : CString) : Prop :=
  ∃ gamename bCompressed queryPtr, listRequest querystring = .named gamename bCompressed queryPtr

/-- The connection asks for a list, in the first packet or in the one after it. -/
def RequestsList (client : Client) (waits : Nat) (incomingTcpValidate : CString) : Prop :=
  incomingTcpValidate ≠ [] ∧ encodeType incomingTcpValidate ≤ gamespyEnctype1 ∧
    if contains (appendUnrealList incomingTcpValidate) (ascii "\\list\\") then
      NamesGame (appendUnrealList incomingTcpValidate)
    else ∃ packet, SecondPacket client waits packet ∧ 4 < packet.length ∧ NamesGame (cstr packet)

@[simp] theorem sendsList_nil : ¬ SendsList [] := by
  rintro ⟨call, member⟩
  exact List.not_mem_nil member

@[simp] theorem sendsList_cons (event : SocketEvent) (events : List SocketEvent) :
    SendsList (event :: events) ↔ (∃ call, event = .list call) ∨ SendsList events := by
  simp only [SendsList, List.mem_cons, exists_or, eq_comm]

@[simp] theorem sendsList_append (first second : List SocketEvent) :
    SendsList (first ++ second) ↔ SendsList first ∨ SendsList second := by
  simp only [SendsList, List.mem_append, exists_or]

/-! ## The receive loops -/

theorem receive_data {recv : Nat → RecvOutcome} {calls : Nat} {packet : List UInt8}
    (arrives : recv calls = .data packet) (stores : Bool) (retries sleepMs : Nat)
    (lastWSAError : Option SocketError) :
    receive recv stores retries calls sleepMs lastWSAError =
      ⟨[.recv], some packet, calls + 1, lastWSAError⟩ := by
  cases retries <;> simp only [receive, arrives]

theorem receive_retry {recv : Nat → RecvOutcome} {calls : Nat} {error : SocketError}
    (failed : recv calls = .socketError error) {stores : Bool} {lastWSAError : Option SocketError}
    (again : (if stores then some error else lastWSAError) = some .wouldBlock)
    (retries sleepMs : Nat) :
    receive recv stores (retries + 1) calls sleepMs lastWSAError =
      { receive recv stores retries (calls + 1) (sleepMs + 10) (some .wouldBlock) with
        events := .recv :: .msleep sleepMs ::
          (receive recv stores retries (calls + 1) (sleepMs + 10) (some .wouldBlock)).events } := by
  rw [receive, failed]
  simp only [again, if_true]

theorem receive_gives_up {recv : Nat → RecvOutcome} {calls : Nat} {error : SocketError}
    (failed : recv calls = .socketError error) {stores : Bool} {lastWSAError : Option SocketError}
    {retries : Nat}
    (last : retries = 0 ∨ (if stores then some error else lastWSAError) ≠ some .wouldBlock)
    (sleepMs : Nat) :
    receive recv stores retries calls sleepMs lastWSAError =
      ⟨[.recv], none, calls + 1, if stores then some error else lastWSAError⟩ := by
  cases retries with
  | zero => rw [receive, failed]
  | succ retries =>
      rw [receive, failed]
      exact if_neg (last.resolve_left (Nat.succ_ne_zero _))

/-- After a call that is tried again, `lastWSAError` is the error of such a call. -/
theorem Waits.succ_iff {recv : Nat → RecvOutcome} {stores : Bool}
    {lastWSAError : Option SocketError} {calls waits : Nat} {error : SocketError}
    (failed : recv calls = .socketError error)
    (again : (if stores then some error else lastWSAError) = some .wouldBlock) :
    Waits recv stores lastWSAError calls (waits + 1) ↔
      Waits recv stores (some .wouldBlock) (calls + 1) waits := by
  have tested : ∀ later : SocketError,
      (if stores then some later else lastWSAError) = some .wouldBlock ↔
        (if stores then some later else some .wouldBlock) = some .wouldBlock := by
    intro later
    cases stores with
    | false => exact iff_of_true again rfl
    | true => rfl
  constructor
  · intro waiting i inside
    obtain ⟨later, fails, retried⟩ := waiting (i + 1) (Nat.succ_lt_succ inside)
    exact ⟨later, by rwa [Nat.add_assoc, Nat.add_comm 1 i], (tested later).mp retried⟩
  · intro waiting i inside
    cases i with
    | zero => exact ⟨error, failed, again⟩
    | succ i =>
        obtain ⟨later, fails, retried⟩ := waiting i (Nat.lt_of_succ_lt_succ inside)
        exact ⟨later, by rwa [Nat.add_comm i 1, ← Nat.add_assoc], (tested later).mpr retried⟩

theorem receive_of_waits {recv : Nat → RecvOutcome} {stores : Bool} {retries calls waits : Nat}
    {lastWSAError : Option SocketError} {packet : List UInt8} (sleepMs : Nat)
    (patient : waits ≤ retries) (waiting : Waits recv stores lastWSAError calls waits)
    (arrives : recv (calls + waits) = .data packet) :
    ∃ events, receive recv stores retries calls sleepMs lastWSAError =
      ⟨events, some packet, calls + waits + 1,
        if waits = 0 then lastWSAError else some .wouldBlock⟩ := by
  induction waits generalizing retries calls sleepMs lastWSAError with
  | zero => exact ⟨[.recv], receive_data arrives stores retries sleepMs lastWSAError⟩
  | succ waits ih =>
      obtain ⟨error, failed, again⟩ := waiting 0 (Nat.succ_pos waits)
      rw [Nat.add_zero] at failed
      cases retries with
      | zero => exact absurd patient (Nat.not_succ_le_zero waits)
      | succ retries =>
          obtain ⟨events, later⟩ := ih (sleepMs + 10) (Nat.le_of_succ_le_succ patient)
            ((Waits.succ_iff failed again).mp waiting)
            (by rwa [Nat.add_assoc, Nat.add_comm 1 waits])
          refine ⟨.recv :: .msleep sleepMs :: events, ?_⟩
          rw [receive_retry failed again, later, if_neg (Nat.succ_ne_zero waits), ite_self,
            Nat.add_assoc calls 1 waits, Nat.add_comm 1 waits]

theorem waits_of_receive {recv : Nat → RecvOutcome} {stores : Bool} {retries calls sleepMs : Nat}
    {lastWSAError : Option SocketError} {packet : List UInt8}
    (received : (receive recv stores retries calls sleepMs lastWSAError).packet = some packet) :
    ∃ waits ≤ retries, Waits recv stores lastWSAError calls waits ∧
      recv (calls + waits) = .data packet := by
  induction retries generalizing calls sleepMs lastWSAError with
  | zero =>
      cases outcome : recv calls with
      | data bytes =>
          rw [receive_data outcome] at received
          cases received
          exact ⟨0, Nat.le_refl 0, fun i inside => absurd inside (Nat.not_lt_zero i), outcome⟩
      | socketError error =>
          rw [receive_gives_up outcome (Or.inl rfl)] at received
          cases received
  | succ retries ih =>
      cases outcome : recv calls with
      | data bytes =>
          rw [receive_data outcome] at received
          cases received
          exact ⟨0, Nat.zero_le _, fun i inside => absurd inside (Nat.not_lt_zero i), outcome⟩
      | socketError error =>
          by_cases again : (if stores then some error else lastWSAError) = some .wouldBlock
          · rw [receive_retry outcome again] at received
            obtain ⟨waits, patient, waiting, arrives⟩ := ih received
            refine ⟨waits + 1, Nat.succ_le_succ patient,
              (Waits.succ_iff outcome again).mpr waiting, ?_⟩
            rwa [Nat.add_comm waits 1, ← Nat.add_assoc]
          · rw [receive_gives_up outcome (Or.inr again)] at received
            cases received

/-- A receive loop sends no list. -/
theorem receive_sendsNoList (recv : Nat → RecvOutcome) (stores : Bool)
    (retries calls sleepMs : Nat) (lastWSAError : Option SocketError) :
    ¬ SendsList (receive recv stores retries calls sleepMs lastWSAError).events := by
  induction retries generalizing calls sleepMs lastWSAError with
  | zero =>
      cases outcome : recv calls with
      | data bytes => simp [receive_data outcome]
      | socketError error => simp [receive_gives_up outcome (Or.inl rfl)]
  | succ retries ih =>
      cases outcome : recv calls with
      | data bytes => simp [receive_data outcome]
      | socketError error =>
          by_cases again : (if stores then some error else lastWSAError) = some .wouldBlock
          · simp [receive_retry outcome again, ih]
          · simp [receive_gives_up outcome (Or.inr again)]

/-- The first loop at the packet it receives. -/
theorem receive_first {client : Client} {waits : Nat} {packet : List UInt8}
    (first : FirstPacket client waits packet) :
    ∃ events, receive client.recv true totalRetry 0 50 none =
      ⟨events, some packet, waits + 1, if waits = 0 then none else some .wouldBlock⟩ := by
  obtain ⟨patient, blocked, arrives⟩ := first
  have waiting : Waits client.recv true none 0 waits := fun i inside =>
    ⟨.wouldBlock, by rw [Nat.zero_add, blocked i inside], rfl⟩
  obtain ⟨events, received⟩ := receive_of_waits 50 patient waiting (by rwa [Nat.zero_add])
  exact ⟨events, by rw [received, Nat.zero_add]⟩

theorem firstPacket_of_receive {client : Client} {packet : List UInt8}
    (received : (receive client.recv true totalRetry 0 50 none).packet = some packet) :
    ∃ waits, FirstPacket client waits packet := by
  obtain ⟨waits, patient, waiting, arrives⟩ := waits_of_receive received
  refine ⟨waits, patient, fun i inside => ?_, by rwa [Nat.zero_add] at arrives⟩
  obtain ⟨error, failed, again⟩ := waiting i inside
  rwa [Nat.zero_add, Option.some.inj again] at failed

/-- The second loop, which tests what the first has left in `lastWSAError`. -/
theorem receive_second_iff (client : Client) (waits : Nat) (packet : List UInt8) :
    (receive client.recv false totalRetry (waits + 1) 50
        (if waits = 0 then none else some .wouldBlock)).packet = some packet ↔
      SecondPacket client waits packet := by
  have left : (if waits = 0 then none else some SocketError.wouldBlock) = some .wouldBlock ↔
      0 < waits := by
    cases waits <;> simp
  constructor
  · intro received
    obtain ⟨failures, patient, waiting, arrives⟩ := waits_of_receive received
    refine ⟨failures, patient, ?_, fun i inside => ?_, arrives⟩
    · cases failures with
      | zero => exact Or.inl rfl
      | succ failures =>
          obtain ⟨error, failed, again⟩ := waiting 0 (Nat.succ_pos failures)
          exact Or.inr (left.mp again)
    · obtain ⟨error, failed, again⟩ := waiting i inside
      exact ⟨error, failed⟩
  · rintro ⟨failures, patient, retried, failing, arrives⟩
    have waiting : Waits client.recv false (if waits = 0 then none else some .wouldBlock)
        (waits + 1) failures := by
      intro i inside
      obtain ⟨error, failed⟩ := failing i inside
      have positive : 0 < waits := retried.resolve_left (Nat.ne_zero_of_lt inside)
      exact ⟨error, failed, left.mpr positive⟩
    obtain ⟨events, received⟩ := receive_of_waits 50 patient waiting arrives
    rw [received]

/-- The outcomes of `recv` decide which packet is the first. -/
theorem FirstPacket.unique {client : Client} {waits waits' : Nat} {packet packet' : List UInt8}
    (first : FirstPacket client waits packet) (first' : FirstPacket client waits' packet') :
    waits = waits' ∧ packet = packet' := by
  obtain ⟨events, received⟩ := receive_first first
  obtain ⟨events', received'⟩ := receive_first first'
  rw [received] at received'
  simp only [Received.mk.injEq, Option.some.injEq, Nat.add_right_cancel_iff] at received'
  exact ⟨received'.2.2.1, received'.2.1⟩

/-- A connection that brings the same packet at every call. -/
def repeating (packet : List UInt8) : Client where
  sinAddr := ⟨10, 0, 0, 2⟩
  rand := fun _ => 0
  challengeKeyAllocated := true
  challengeBufferAllocated := true
  nonBlocking := true
  challengeSent := true
  recv := fun _ => .data packet

theorem firstPacket_repeating (packet : List UInt8) : FirstPacket (repeating packet) 0 packet :=
  ⟨Nat.zero_le _, fun i inside => absurd inside (Nat.not_lt_zero i), rfl⟩

/-! ## The session -/

theorem closeAfter_sendsList_iff (options : TcpOptions) (sinAddr : InAddr)
    (clientName querystring challengeKey : CString) (encType : UInt16) :
    SendsList (closeAfter
        (gameSpyParseListRequest options sinAddr clientName querystring challengeKey encType)) ↔
      NamesGame querystring := by
  unfold gameSpyParseListRequest NamesGame
  cases listRequest querystring with
  | error => simp [closeAfter]
  | nameless => simp [closeAfter]
  | named gamename bCompressed queryPtr => simp [closeAfter]

/-- A request holds what `GameSpy_Parse_List_Request` looks for first. -/
theorem NamesGame.contains {querystring : CString} (named : NamesGame querystring) :
    (contains querystring (ascii "\\list\\") &&
      Text.contains querystring (ascii "\\gamename\\")) = true := by
  obtain ⟨gamename, bCompressed, queryPtr, parsed⟩ := named
  unfold listRequest at parsed
  split at parsed
  · cases parsed
  · rename_i both
    simpa using both

theorem parseTcpList_sendsList_iff (options : TcpOptions) (sinAddr : InAddr)
    (clientName challengeKey : CString) (encodetype : UInt16) (packet : List UInt8) :
    SendsList (parseTcpList options sinAddr clientName challengeKey encodetype packet) ↔
      4 < packet.length ∧ NamesGame (cstr packet) := by
  unfold parseTcpList
  by_cases empty : cstr packet = []
  · have nameless : ¬ NamesGame (cstr packet) := fun named => by
      have both := named.contains
      rw [empty] at both
      revert both
      decide
    rw [if_pos empty]
    exact iff_of_false (by simp) fun requested => nameless requested.2
  · rw [if_neg empty]
    by_cases long : 4 < packet.length
    · rw [if_pos long]
      by_cases both : (contains (cstr packet) (ascii "\\list\\") &&
          contains (cstr packet) (ascii "\\gamename\\")) = true
      · rw [if_pos both, closeAfter_sendsList_iff]
        exact ⟨fun named => ⟨long, named⟩, fun requested => requested.2⟩
      · rw [if_neg both]
        have nameless : ¬ NamesGame (cstr packet) := fun named => both named.contains
        simp [nameless]
    · rw [if_neg long]
      simp [long]

theorem serveRequest_sendsList_iff {options : TcpOptions} {client : Client} {waits : Nat}
    {events : List SocketEvent} {packet : List UInt8}
    (clientName incomingTcpValidate challengeKey : CString) (encodetype : UInt16) :
    SendsList (serveRequest options client
        ⟨events, some packet, waits + 1, if waits = 0 then none else some .wouldBlock⟩
        clientName incomingTcpValidate challengeKey encodetype) ↔
      if contains (appendUnrealList incomingTcpValidate) (ascii "\\list\\") then
        NamesGame (appendUnrealList incomingTcpValidate)
      else ∃ packet, SecondPacket client waits packet ∧ 4 < packet.length ∧
        NamesGame (cstr packet) := by
  unfold serveRequest
  by_cases listed :
      contains (appendUnrealList incomingTcpValidate) (ascii "\\list\\") = true
  · rw [if_pos listed, if_pos listed, closeAfter_sendsList_iff]
  · rw [if_neg listed, if_neg listed, sendsList_append,
      or_iff_right (receive_sendsNoList _ _ _ _ _ _)]
    simp only [← receive_second_iff]
    cases received : (receive client.recv false totalRetry (waits + 1) 50
        (if waits = 0 then none else some .wouldBlock)).packet with
    | none => simp
    | some second => simp [parseTcpList_sendsList_iff]

/-- What the cross check of the first packet returns. -/
def validated (cfg : Config) (client : Client) (incomingTcpValidate : CString) : Bool :=
  (gameSpyChallengeCrossCheck cfg.validationRequired
    (challengeText (gameSpyCreateChallengeKey client.rand 6)) incomingTcpValidate
    (gameSpyCreateChallengeKey client.rand 6) false (encodeType incomingTcpValidate)).passed

theorem parseTcpValidate_sendsList_iff {options : TcpOptions} {cfg : Config} {client : Client}
    {waits : Nat} {events : List SocketEvent} {packet : List UInt8} :
    SendsList (parseTcpValidate options cfg client
        (challengeText (gameSpyCreateChallengeKey client.rand 6))
        (gameSpyCreateChallengeKey client.rand 6)
        ⟨events, some packet, waits + 1, if waits = 0 then none else some .wouldBlock⟩ packet) ↔
      validated cfg client (cstr packet) = true ∧ RequestsList client waits (cstr packet) := by
  unfold parseTcpValidate RequestsList
  by_cases empty : cstr packet = []
  · simp [empty]
  · rw [if_neg empty]
    by_cases unsupported : gamespyEnctype1 < encodeType (cstr packet)
    · simp [unsupported]
    · rw [if_neg unsupported]
      have supported : encodeType (cstr packet) ≤ gamespyEnctype1 := UInt16.not_lt.mp unsupported
      by_cases passed : validated cfg client (cstr packet) = true
      · rw [if_neg (by rw [Bool.not_eq_true']; exact ne_false_of_eq_true passed),
          serveRequest_sendsList_iff]
        exact ⟨fun requested => ⟨passed, empty, supported, requested⟩,
          fun requested => requested.2.2.2⟩
      · rw [if_pos (by rw [Bool.not_eq_true']; exact Bool.eq_false_iff.mpr passed)]
        exact iff_of_false (by simp) fun requested => passed requested.1

theorem receiveTcpValidate_sendsList_iff (options : TcpOptions) (cfg : Config)
    (client : Client) :
    SendsList (receiveTcpValidate options cfg client
        (challengeText (gameSpyCreateChallengeKey client.rand 6))
        (gameSpyCreateChallengeKey client.rand 6)) ↔
      ∃ waits packet, FirstPacket client waits packet ∧
        validated cfg client (cstr packet) = true ∧ RequestsList client waits (cstr packet) := by
  unfold receiveTcpValidate
  rw [sendsList_append, or_iff_right (receive_sendsNoList _ _ _ _ _ _)]
  constructor
  · intro sends
    cases received : (receive client.recv true totalRetry 0 50 none).packet with
    | none => simp [received] at sends
    | some packet =>
        obtain ⟨waits, first⟩ := firstPacket_of_receive received
        obtain ⟨events, whole⟩ := receive_first first
        rw [whole] at sends
        exact ⟨waits, packet, first, parseTcpValidate_sendsList_iff.mp sends⟩
  · rintro ⟨waits, packet, first, requested⟩
    obtain ⟨events, whole⟩ := receive_first first
    rw [whole]
    exact parseTcpValidate_sendsList_iff.mpr requested

/-- A session sends a list when its first packet is validated and a list is asked for. -/
theorem gameSpyParseTCPPacket_sendsList_iff (options : TcpOptions) (cfg : Config)
    (client : Client) :
    SendsList (gameSpyParseTCPPacket options cfg client) ↔
      Connected client ∧ ∃ waits packet, FirstPacket client waits packet ∧
        validated cfg client (cstr packet) = true ∧ RequestsList client waits (cstr packet) := by
  rw [← receiveTcpValidate_sendsList_iff options]
  by_cases connected : Connected client
  · rw [and_iff_right connected]
    obtain ⟨key, buffer, blocking, sent⟩ := connected
    simp [gameSpyParseTCPPacket, key, buffer, blocking, sent]
  · refine iff_of_false ?_ fun sends => connected sends.1
    simp only [Connected, not_and_or, Bool.not_eq_true] at connected
    unfold gameSpyParseTCPPacket
    rcases connected with missing | missing | missing | missing
    · simp [missing]
    · simp [missing]
    · simp [missing]
    · rw [missing]
      split_ifs <;> simp_all

end GSMaster.Session
