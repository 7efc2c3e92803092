import GSMaster.Session.ListRequests

/-!
# How long a session waits

A session waits in `recv` loops for the packets of its client. Whatever the
client sends or keeps back, the loops end, after so many calls and so much
sleep, and then the session gives one answer at most.
-/

namespace GSMaster.Session

open GSMaster.Text GSMaster.Net GSMaster.Registry GSMaster.Games GSMaster.Lists

/-! ## Waiting -/

/-- The steps of the receive loops. -/
def SocketEvent.waits : SocketEvent → Bool
  | recv => true
  | msleep _ => true
  | _ => false

/-- The steps that answer the client. -/
def SocketEvent.replies : SocketEvent → Bool
  | send _ => true
  | list _ => true
  | _ => false

def SocketEvent.sleeps : SocketEvent → Nat
  | msleep ms => ms
  | _ => 0

/-- The milliseconds of a session that are slept. -/
def slept (events : List SocketEvent) : Nat :=
  (events.map SocketEvent.sleeps).sum

theorem slept_append (early late : List SocketEvent) :
    slept (early ++ late) = slept early + slept late := by
  rw [slept, List.map_append, List.sum_append]
  rfl

/-- The milliseconds of so many sleeps, each ten longer than the one before. -/
def allowance : Nat → Nat → Nat
  | 0, _ => 0
  | retries + 1, sleepMs => sleepMs + allowance retries (sleepMs + 10)

/-- Some waiting, with so many calls of `recv` and so many milliseconds at most. -/
structure Waiting (calls ms : Nat) (events : List SocketEvent) : Prop where
  only : ∀ event ∈ events, event.waits = true
  calls : events.count .recv ≤ calls
  sleep : slept events ≤ ms

theorem Waiting.nil : Waiting 0 0 [] :=
  ⟨fun _ member => (nomatch member), Nat.le_refl 0, Nat.le_refl 0⟩

theorem Waiting.mono {calls calls' ms ms' : Nat} {events : List SocketEvent}
    (waiting : Waiting calls ms events) (moreCalls : calls ≤ calls') (longer : ms ≤ ms') :
    Waiting calls' ms' events :=
  ⟨waiting.only, waiting.calls.trans moreCalls, waiting.sleep.trans longer⟩

theorem Waiting.append {calls calls' ms ms' : Nat} {early late : List SocketEvent}
    (first : Waiting calls ms early) (second : Waiting calls' ms' late) :
    Waiting (calls + calls') (ms + ms') (early ++ late) where
  only event member := by
    rcases List.mem_append.mp member with inside | inside
    · exact first.only event inside
    · exact second.only event inside
  calls := by
    rw [List.count_append]
    exact Nat.add_le_add first.calls second.calls
  sleep := by
    rw [slept_append]
    exact Nat.add_le_add first.sleep second.sleep

theorem Waiting.recv : Waiting 1 0 [.recv] where
  only event member := by
    obtain rfl := List.mem_singleton.mp member
    rfl
  calls := Nat.le_refl 1
  sleep := Nat.le_refl 0

/-- A receive loop makes one call more than it has retries. -/
theorem receive_waiting (recv : Nat → RecvOutcome) (stores : Bool) (retries calls sleepMs : Nat)
    (lastWSAError : Option SocketError) :
    Waiting (retries + 1) (allowance retries sleepMs)
      (receive recv stores retries calls sleepMs lastWSAError).events := by
  induction retries generalizing calls sleepMs lastWSAError with
  | zero =>
      cases outcome : recv calls with
      | data bytes =>
          rw [receive_data outcome]
          exact Waiting.recv
      | socketError error =>
          rw [receive_gives_up outcome (Or.inl rfl)]
          exact Waiting.recv
  | succ retries ih =>
      cases outcome : recv calls with
      | data bytes =>
          rw [receive_data outcome]
          exact Waiting.recv.mono (Nat.le_add_left ..) (Nat.zero_le _)
      | socketError error =>
          by_cases again : (if stores then some error else lastWSAError) = some .wouldBlock
          · rw [receive_retry outcome again]
            have pause : Waiting 1 sleepMs [.recv, .msleep sleepMs] :=
              ⟨by simp [SocketEvent.waits], by simp, by simp [slept, SocketEvent.sleeps]⟩
            have rest := ih (calls + 1) (sleepMs + 10) (some .wouldBlock)
            exact (pause.append rest).mono (Nat.le_of_eq (Nat.add_comm ..)) (Nat.le_refl _)
          · rw [receive_gives_up outcome (Or.inr again)]
            exact Waiting.recv.mono (Nat.le_add_left ..) (Nat.zero_le _)

/-! ## The rest of a session -/

/-- The end of a session: nothing is waited for, and one answer is given at most. -/
structure Ending (events : List SocketEvent) : Prop where
  still : ∀ event ∈ events, event.waits = false
  once : events.countP SocketEvent.replies ≤ 1
  finishes : events.getLast? = some .close ∨ events.getLast? = some .fault

theorem Ending.close : Ending [.close] := by
  refine ⟨?_, by decide, Or.inl rfl⟩
  simp [SocketEvent.waits]

theorem Ending.fault : Ending [.fault] := by
  refine ⟨?_, by decide, Or.inr rfl⟩
  simp [SocketEvent.waits]

theorem Ending.send (text : CString) : Ending [.send text, .close] := by
  refine ⟨?_, Nat.le_refl 1, Or.inl rfl⟩
  simp [SocketEvent.waits]

theorem closeAfter_ending (options : TcpOptions) (sinAddr : InAddr)
    (clientName querystring challengeKey : CString) (encType : UInt16) :
    Ending (closeAfter
      (gameSpyParseListRequest options sinAddr clientName querystring challengeKey encType)) := by
  unfold gameSpyParseListRequest
  cases listRequest querystring with
  | error => exact Ending.send finalstringerror
  | nameless => exact Ending.fault
  | named gamename bCompressed queryPtr =>
      refine ⟨?_, ?_, Or.inl List.getLast?_concat⟩
      · simp only [closeAfter, List.mem_append, List.mem_singleton]
        split_ifs <;> simp [SocketEvent.waits, or_imp, forall_and]
      · simp only [closeAfter, List.countP_append]
        split_ifs <;> simp [SocketEvent.replies]

theorem parseTcpList_ending (options : TcpOptions) (sinAddr : InAddr)
    (clientName challengeKey : CString) (encodetype : UInt16) (packet : List UInt8) :
    Ending (parseTcpList options sinAddr clientName challengeKey encodetype packet) := by
  unfold parseTcpList
  simp only
  split
  · exact Ending.close
  · split
    · split
      · exact closeAfter_ending ..
      · exact Ending.send finalstringerror
    · exact Ending.close

/-- Waiting and then an end. -/
def Patient (calls ms : Nat) (events : List SocketEvent) : Prop :=
  ∃ waiting ending, events = waiting ++ ending ∧ Waiting calls ms waiting ∧ Ending ending

theorem Ending.patient {events : List SocketEvent} (ending : Ending events) (calls ms : Nat) :
    Patient calls ms events :=
  ⟨[], events, rfl, Waiting.nil.mono (Nat.zero_le _) (Nat.zero_le _), ending⟩

theorem Waiting.patient {calls ms calls' ms' : Nat} {events rest : List SocketEvent}
    (first : Waiting calls ms events) (patient : Patient calls' ms' rest) :
    Patient (calls + calls') (ms + ms') (events ++ rest) := by
  obtain ⟨waiting, ending, rfl, second, ends⟩ := patient
  exact ⟨events ++ waiting, ending, (List.append_assoc ..).symm, first.append second, ends⟩

/-- The second closing of a loop that gives up. -/
theorem Ending.closes : Ending [.close, .close] := by
  refine ⟨?_, by decide, Or.inl rfl⟩
  simp [SocketEvent.waits]

theorem serveRequest_patient (options : TcpOptions) (client : Client) (first : Received)
    (clientName incomingTcpValidate challengeKey : CString) (encodetype : UInt16) :
    Patient 11 950 (serveRequest options client first clientName incomingTcpValidate challengeKey
      encodetype) := by
  unfold serveRequest
  simp only
  split
  · exact (closeAfter_ending ..).patient 11 950
  · refine (receive_waiting client.recv false totalRetry first.calls 50
      first.lastWSAError).patient (Ending.patient ?_ 0 0)
    split
    · exact Ending.closes
    · exact parseTcpList_ending ..

theorem parseTcpValidate_patient (options : TcpOptions) (cfg : Config) (client : Client)
    (challengeBuffer challengeKey : CString) (first : Received) (packet : List UInt8) :
    Patient 11 950 (parseTcpValidate options cfg client challengeBuffer challengeKey first
      packet) := by
  unfold parseTcpValidate
  simp only
  split
  · exact Ending.close.patient 11 950
  · split
    · exact Ending.fault.patient 11 950
    · split
      · exact Ending.close.patient 11 950
      · exact serveRequest_patient ..

theorem receiveTcpValidate_patient (options : TcpOptions) (cfg : Config) (client : Client)
    (challengeBuffer challengeKey : CString) :
    Patient 22 1900 (receiveTcpValidate options cfg client challengeBuffer challengeKey) := by
  unfold receiveTcpValidate
  simp only
  have first := receive_waiting client.recv true totalRetry 0 50 none
  refine @Waiting.patient 11 950 11 950 _ _ first ?_
  split
  · exact Ending.closes.patient 11 950
  · exact parseTcpValidate_patient ..

/--
A session greets the client if it can, waits with 22 calls of `recv` and 1900
milliseconds of sleep at most, and ends with one answer at most and nothing
received after it.
-/
def Bounded (client : Client) (events : List SocketEvent) : Prop :=
  events = [.close] ∨
    ∃ rest, events = .send (challengeText (gameSpyCreateChallengeKey client.rand 6)) :: rest ∧
      Patient 22 1900 rest

theorem gameSpyParseTCPPacket_bounded (options : TcpOptions) (cfg : Config) (client : Client) :
    Bounded client (gameSpyParseTCPPacket options cfg client) := by
  unfold gameSpyParseTCPPacket
  simp only
  split
  · exact Or.inl rfl
  · split
    · exact Or.inl rfl
    · refine Or.inr ⟨_, rfl, ?_⟩
      split
      · exact Ending.close.patient 22 1900
      · exact receiveTcpValidate_patient ..

theorem Ending.slept {events : List SocketEvent} (ending : Ending events) : slept events = 0 := by
  refine List.sum_eq_zero fun ms member => ?_
  obtain ⟨event, inside, rfl⟩ := List.mem_map.mp member
  have still := ending.still event inside
  cases event with
  | msleep ms => cases still
  | _ => rfl

theorem Bounded.slept {client : Client} {events : List SocketEvent}
    (bounded : Bounded client events) : slept events ≤ 1900 := by
  rcases bounded with rfl | ⟨rest, rfl, waiting, ending, rfl, waits, ends⟩
  · exact Nat.zero_le _
  · rw [← List.singleton_append, slept_append, slept_append, ends.slept]
    exact (Nat.le_of_eq (Nat.zero_add _)).trans waits.sleep

end GSMaster.Session
