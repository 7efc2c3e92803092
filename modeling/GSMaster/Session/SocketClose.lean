import GSMaster.Session.ListRequests

/-!
# The end of a session

Every exit of `GameSpy_Parse_TCP_Packet` goes to the label that closes the
accepted socket. The exits of the two receive loops have closed it before, in
`Close_TCP_Socket_On_Error`, which invalidates nothing but its own copy of the
handle. A session that faults does not get to the label.
-/

namespace GSMaster.Session

open GSMaster.Text GSMaster.Net GSMaster.Registry GSMaster.Games GSMaster.Lists

/-- The steps that use the accepted socket, other than its closing. -/
def SocketEvent.usesSocket : SocketEvent → Bool
  | send _ => true
  | recv => true
  | list _ => true
  | msleep _ => false
  | motd _ => false
  | log _ _ => false
  | close => false
  | fault => false

/-- The socket is closed once, and not used any more afterwards. -/
def ClosedOnce (events : List SocketEvent) : Prop :=
  ∃ before after, events = before ++ .close :: after ∧ .close ∉ before ∧ .close ∉ after ∧
    ∀ event ∈ after, event.usesSocket = false

/-- A second packet is received, and no request in it is read through a missing game name. -/
def SecondEnds (client : Client) (waits : Nat) : Prop :=
  ∃ packet, SecondPacket client waits packet ∧
    (4 < packet.length → listRequest (cstr packet) ≠ .nameless)

/-- What follows a first packet gets to the end, and waits for no second packet in vain. -/
def FirstEnds (cfg : Config) (client : Client) (waits : Nat) (incomingTcpValidate : CString) :
    Prop :=
  incomingTcpValidate ≠ [] → encodeType incomingTcpValidate ≤ gamespyEnctype1 ∧
    (validated cfg client incomingTcpValidate = true →
      if contains (appendUnrealList incomingTcpValidate) (ascii "\\list\\") then
        listRequest (appendUnrealList incomingTcpValidate) ≠ .nameless
      else SecondEnds client waits)

/-- Neither receive loop gives up, and the session does not fault. -/
def SessionEnds (cfg : Config) (client : Client) : Prop :=
  Connected client →
    ∃ waits packet, FirstPacket client waits packet ∧ FirstEnds cfg client waits (cstr packet)

/-! ## The closings in a list of events -/

theorem closedOnce_append {first : List SocketEvent} (opens : .close ∉ first)
    (second : List SocketEvent) : ClosedOnce (first ++ second) ↔ ClosedOnce second := by
  constructor
  · rintro ⟨before, after, split, early, late, unused⟩
    rcases List.append_eq_append_iff.mp split with ⟨rest, rfl, same⟩ | ⟨rest, rfl, same⟩
    · exact ⟨rest, after, same, fun member => early (List.mem_append_right _ member), late, unused⟩
    · cases rest with
      | nil => exact ⟨[], after, same.symm, List.not_mem_nil, late, unused⟩
      | cons event rest =>
          obtain ⟨rfl, -⟩ := List.cons.inj same
          exact absurd (List.mem_append_right _ (List.mem_cons_self ..)) opens
  · rintro ⟨before, after, rfl, early, late, unused⟩
    refine ⟨first ++ before, after, (List.append_assoc ..).symm, ?_, late, unused⟩
    rw [List.mem_append]
    exact fun member => member.elim opens early

theorem closedOnce_close : ClosedOnce [.close] :=
  ⟨[], [], rfl, List.not_mem_nil, List.not_mem_nil, fun _ member =>
    absurd member List.not_mem_nil⟩

/-- A message before the closing. -/
theorem closedOnce_send (text : CString) : ClosedOnce [.send text, .close] := by
  have opens : SocketEvent.close ∉ [SocketEvent.send text] := by simp
  exact (closedOnce_append opens [.close]).mpr closedOnce_close

/-- A session that does not close the socket, or that closes it twice. -/
theorem not_closedOnce {events : List SocketEvent} (other : events.count .close ≠ 1) :
    ¬ ClosedOnce events := by
  rintro ⟨before, after, rfl, early, late, -⟩
  rw [List.count_append, List.count_cons_self, List.count_eq_zero.mpr early,
    List.count_eq_zero.mpr late] at other
  exact other rfl

theorem closedOnce_close_close : ¬ ClosedOnce [.close, .close] :=
  not_closedOnce (by decide)

theorem closedOnce_fault : ¬ ClosedOnce [.fault] :=
  not_closedOnce (by decide)

/-! ## The parts of a session -/

theorem receive_opens (recv : Nat → RecvOutcome) (stores : Bool) (retries calls sleepMs : Nat)
    (lastWSAError : Option SocketError) :
    .close ∉ (receive recv stores retries calls sleepMs lastWSAError).events := by
  induction retries generalizing calls sleepMs lastWSAError with
  | zero =>
      cases outcome : recv calls with
      | data bytes => simp [receive_data outcome]
      | socketError error => simp [receive_gives_up outcome (Or.inl rfl)]
  | succ retries ih =>
      cases outcome : recv calls with
      | data bytes => simp [receive_data outcome]
      | socketError error =>
          by_cases again : (if stores then some error else lastWSAError) = some .wouldBlock
          · simp [receive_retry outcome again, ih]
          · simp [receive_gives_up outcome (Or.inr again)]

/-- A list request leaves the closing to the session, which it may keep from getting there. -/
theorem closeAfter_closedOnce_iff (options : TcpOptions) (sinAddr : InAddr)
    (clientName querystring challengeKey : CString) (encType : UInt16) :
    ClosedOnce (closeAfter
        (gameSpyParseListRequest options sinAddr clientName querystring challengeKey encType)) ↔
      listRequest querystring ≠ .nameless := by
  unfold gameSpyParseListRequest
  cases listRequest querystring with
  | error => exact iff_of_true (closedOnce_send finalstringerror) (by simp)
  | nameless => exact iff_of_false closedOnce_fault fun named => named rfl
  | named gamename bCompressed queryPtr =>
      refine iff_of_true ?_ (by simp)
      refine (closedOnce_append ?_ [.close]).mpr closedOnce_close
      simp only [List.mem_append, List.mem_singleton]
      split_ifs <;> simp

/-- A request that holds too little is answered before its name is looked at. -/
theorem listRequest_error {querystring : CString}
    (missing : ¬ (contains querystring (ascii "\\list\\") &&
      contains querystring (ascii "\\gamename\\")) = true) :
    listRequest querystring = .error := by
  rw [Bool.and_eq_true, not_and_or, Bool.not_eq_true, Bool.not_eq_true] at missing
  rw [listRequest, if_pos]
  rcases missing with list | gamename
  · rw [list]
    rfl
  · rw [gamename]
    exact Bool.or_true _

theorem parseTcpList_closedOnce_iff (options : TcpOptions) (sinAddr : InAddr)
    (clientName challengeKey : CString) (encodetype : UInt16) (packet : List UInt8) :
    ClosedOnce (parseTcpList options sinAddr clientName challengeKey encodetype packet) ↔
      (4 < packet.length → listRequest (cstr packet) ≠ .nameless) := by
  unfold parseTcpList
  by_cases empty : cstr packet = []
  · rw [if_pos empty, empty]
    exact iff_of_true closedOnce_close fun _ => by decide
  · rw [if_neg empty]
    by_cases long : 4 < packet.length
    · rw [if_pos long, forall_prop_of_true long]
      by_cases both : (contains (cstr packet) (ascii "\\list\\") &&
          contains (cstr packet) (ascii "\\gamename\\")) = true
      · rw [if_pos both]
        exact closeAfter_closedOnce_iff _ _ _ _ _ _
      · rw [if_neg both, listRequest_error both]
        exact iff_of_true (closedOnce_send finalstringerror) (by simp)
    · rw [if_neg long]
      exact iff_of_true closedOnce_close fun more => absurd more long

theorem serveRequest_closedOnce_iff {options : TcpOptions} {client : Client} {waits : Nat}
    {events : List SocketEvent} {packet : List UInt8}
    (clientName incomingTcpValidate challengeKey : CString) (encodetype : UInt16) :
    ClosedOnce (serveRequest options client
        ⟨events, some packet, waits + 1, if waits = 0 then none else some .wouldBlock⟩
        clientName incomingTcpValidate challengeKey encodetype) ↔
      if contains (appendUnrealList incomingTcpValidate) (ascii "\\list\\") then
        listRequest (appendUnrealList incomingTcpValidate) ≠ .nameless
      else SecondEnds client waits := by
  unfold serveRequest SecondEnds
  by_cases listed : contains (appendUnrealList incomingTcpValidate) (ascii "\\list\\") = true
  · rw [if_pos listed, if_pos listed]
    exact closeAfter_closedOnce_iff _ _ _ _ _ _
  · rw [if_neg listed, if_neg listed, closedOnce_append (receive_opens _ _ _ _ _ _)]
    simp only [← receive_second_iff]
    cases received : (receive client.recv false totalRetry (waits + 1) 50
        (if waits = 0 then none else some .wouldBlock)).packet with
    | none => simp [closedOnce_close_close]
    | some second => simp [parseTcpList_closedOnce_iff]

theorem parseTcpValidate_closedOnce_iff {options : TcpOptions} {cfg : Config} {client : Client}
    {waits : Nat} {events : List SocketEvent} {packet : List UInt8} :
    ClosedOnce (parseTcpValidate options cfg client
        (challengeText (gameSpyCreateChallengeKey client.rand 6))
        (gameSpyCreateChallengeKey client.rand 6)
        ⟨events, some packet, waits + 1, if waits = 0 then none else some .wouldBlock⟩ packet) ↔
      FirstEnds cfg client waits (cstr packet) := by
  unfold parseTcpValidate FirstEnds
  by_cases empty : cstr packet = []
  · rw [if_pos empty]
    exact iff_of_true closedOnce_close fun nonempty => absurd empty nonempty
  · rw [if_neg empty, forall_prop_of_true empty]
    by_cases unsupported : gamespyEnctype1 < encodeType (cstr packet)
    · simp only [if_pos unsupported]
      exact iff_of_false closedOnce_fault fun ends => absurd unsupported (UInt16.not_lt.mpr ends.1)
    · simp only [if_neg unsupported]
      rw [and_iff_right (UInt16.not_lt.mp unsupported)]
      by_cases passed : validated cfg client (cstr packet) = true
      · rw [if_neg (by rw [Bool.not_eq_true']; exact ne_false_of_eq_true passed),
          forall_prop_of_true passed]
        exact serveRequest_closedOnce_iff _ _ _ _
      · rw [if_pos (by rw [Bool.not_eq_true']; exact Bool.eq_false_iff.mpr passed)]
        exact iff_of_true closedOnce_close fun passes => absurd passes passed

theorem receiveTcpValidate_closedOnce_iff (options : TcpOptions) (cfg : Config)
    (client : Client) :
    ClosedOnce (receiveTcpValidate options cfg client
        (challengeText (gameSpyCreateChallengeKey client.rand 6))
        (gameSpyCreateChallengeKey client.rand 6)) ↔
      ∃ waits packet, FirstPacket client waits packet ∧
        FirstEnds cfg client waits (cstr packet) := by
  unfold receiveTcpValidate
  rw [closedOnce_append (receive_opens _ _ _ _ _ _)]
  constructor
  · intro closed
    cases received : (receive client.recv true totalRetry 0 50 none).packet with
    | none =>
        rw [received] at closed
        exact absurd closed closedOnce_close_close
    | some packet =>
        obtain ⟨waits, first⟩ := firstPacket_of_receive received
        obtain ⟨events, whole⟩ := receive_first first
        rw [whole] at closed
        exact ⟨waits, packet, first, parseTcpValidate_closedOnce_iff.mp closed⟩
  · rintro ⟨waits, packet, first, ends⟩
    obtain ⟨events, whole⟩ := receive_first first
    rw [whole]
    exact parseTcpValidate_closedOnce_iff.mpr ends

/--
A session closes its socket exactly once, after all that it does on it, exactly
when neither receive loop gives up and the session does not fault.
-/
theorem gameSpyParseTCPPacket_closedOnce_iff (options : TcpOptions) (cfg : Config)
    (client : Client) :
    ClosedOnce (gameSpyParseTCPPacket options cfg client) ↔ SessionEnds cfg client := by
  unfold gameSpyParseTCPPacket SessionEnds
  by_cases allocated :
      (!client.challengeKeyAllocated || !client.challengeBufferAllocated) = true
  · rw [if_pos allocated]
    refine iff_of_true closedOnce_close fun connected => absurd allocated ?_
    rw [connected.1, connected.2.1]
    decide
  · rw [if_neg allocated]
    simp only [Bool.or_eq_true, Bool.not_eq_true', not_or, Bool.not_eq_false] at allocated
    by_cases nonBlocking : client.nonBlocking = true
    · simp only [nonBlocking, Bool.not_true, Bool.false_eq_true, if_false]
      rw [← List.singleton_append, closedOnce_append (by simp)]
      by_cases sent : client.challengeSent = true
      · rw [sent, Bool.not_true, if_neg Bool.false_ne_true, forall_prop_of_true
          ⟨allocated.1, allocated.2, nonBlocking, sent⟩]
        exact receiveTcpValidate_closedOnce_iff options cfg client
      · rw [if_pos (by rw [Bool.not_eq_true']; exact Bool.eq_false_iff.mpr sent)]
        exact iff_of_true closedOnce_close fun connected => absurd connected.2.2.2 sent
    · simp only [Bool.eq_false_iff.mpr nonBlocking, Bool.not_false, if_true]
      exact iff_of_true closedOnce_close fun connected => absurd connected.2.2.1 nonBlocking

/-- A connection that fails as soon as it has been accepted. -/
def failingClient : Client :=
  { repeating [] with recv := fun _ => .socketError .other }

/-- Its socket is closed twice. -/
theorem socket_closed_twice :
    ¬ ∀ (options : TcpOptions) (cfg : Config) (client : Client),
      ClosedOnce (gameSpyParseTCPPacket options cfg client) := by
  intro always
  have closed := always ⟨false, false⟩ defaultConfig failingClient
  refine not_closedOnce ?_ closed
  decide

end GSMaster.Session
