import GSMaster.Loop.Patience
import GSMaster.Session.SocketClose

/-!
# What stops the program

In every state that a run reaches an iteration goes through unless what arrives
in it makes the C code read through NULL or write into a literal. That takes a
request to `Rcon` that ends with the right password, or a client with an
encoding that is not supported or a list request without a name. These are the
faults of the code itself; a process that a signal ends at a send, that divides
by an interval of zero or that overruns a buffer is not the subject here.
-/

namespace GSMaster.Session

open GSMaster.Text GSMaster.Net GSMaster.Registry GSMaster.Games GSMaster.Lists

/-! ## The sessions that fault -/

/-- A second packet is received, with a request that is read through a missing game name. -/
def SecondFaults (client : Client) (waits : Nat) : Prop :=
  ∃ packet, SecondPacket client waits packet ∧ 4 < packet.length ∧
    listRequest (cstr packet) = .nameless

/-- The first packet has an unsupported encoding, or a request without a name follows. -/
def FirstFaults (cfg : Config) (client : Client) (waits : Nat) (incomingTcpValidate : CString) :
    Prop :=
  incomingTcpValidate ≠ [] ∧
    (gamespyEnctype1 < encodeType incomingTcpValidate ∨
      validated cfg client incomingTcpValidate = true ∧
        if contains (appendUnrealList incomingTcpValidate) (ascii "\\list\\") then
          listRequest (appendUnrealList incomingTcpValidate) = .nameless
        else SecondFaults client waits)

def SessionFaults (cfg : Config) (client : Client) : Prop :=
  Connected client ∧
    ∃ waits packet, FirstPacket client waits packet ∧ FirstFaults cfg client waits (cstr packet)

theorem closeAfter_fault_iff (options : TcpOptions) (sinAddr : InAddr)
    (clientName querystring challengeKey : CString) (encType : UInt16) :
    .fault ∈ closeAfter
        (gameSpyParseListRequest options sinAddr clientName querystring challengeKey encType) ↔
      listRequest querystring = .nameless := by
  unfold gameSpyParseListRequest
  cases listRequest querystring with
  | error => simp [closeAfter]
  | nameless => simp [closeAfter]
  | named gamename bCompressed queryPtr =>
      refine iff_of_false ?_ (by simp)
      simp only [closeAfter, List.mem_append, List.mem_singleton]
      split_ifs <;> simp

theorem parseTcpList_fault_iff (options : TcpOptions) (sinAddr : InAddr)
    (clientName challengeKey : CString) (encodetype : UInt16) (packet : List UInt8) :
    .fault ∈ parseTcpList options sinAddr clientName challengeKey encodetype packet ↔
      4 < packet.length ∧ listRequest (cstr packet) = .nameless := by
  unfold parseTcpList
  by_cases empty : cstr packet = []
  · rw [if_pos empty, empty]
    exact iff_of_false (by simp) fun nameless => absurd nameless.2 (by decide)
  · rw [if_neg empty]
    by_cases long : 4 < packet.length
    · rw [if_pos long, and_iff_right long]
      by_cases both : (contains (cstr packet) (ascii "\\list\\") &&
          contains (cstr packet) (ascii "\\gamename\\")) = true
      · rw [if_pos both]
        exact closeAfter_fault_iff _ _ _ _ _ _
      · rw [if_neg both, listRequest_error both]
        exact iff_of_false (by simp) (by simp)
    · rw [if_neg long]
      exact iff_of_false (by simp) fun nameless => absurd nameless.1 long

/-- The receive loops do not fault. -/
theorem fault_mem_receive_append (recv : Nat → RecvOutcome) (stores : Bool)
    (retries calls sleepMs : Nat) (lastWSAError : Option SocketError)
    (rest : List SocketEvent) :
    .fault ∈ (receive recv stores retries calls sleepMs lastWSAError).events ++ rest ↔
      .fault ∈ rest := by
  refine List.mem_append.trans (or_iff_right fun member => ?_)
  exact absurd ((receive_waiting ..).only _ member) (by decide)

theorem serveRequest_fault_iff {options : TcpOptions} {client : Client} {waits : Nat}
    {events : List SocketEvent} {packet : List UInt8}
    (clientName incomingTcpValidate challengeKey : CString) (encodetype : UInt16) :
    .fault ∈ serveRequest options client
        ⟨events, some packet, waits + 1, if waits = 0 then none else some .wouldBlock⟩
        clientName incomingTcpValidate challengeKey encodetype ↔
      if contains (appendUnrealList incomingTcpValidate) (ascii "\\list\\") then
        listRequest (appendUnrealList incomingTcpValidate) = .nameless
      else SecondFaults client waits := by
  unfold serveRequest SecondFaults
  by_cases listed : contains (appendUnrealList incomingTcpValidate) (ascii "\\list\\") = true
  · rw [if_pos listed, if_pos listed]
    exact closeAfter_fault_iff _ _ _ _ _ _
  · rw [if_neg listed, if_neg listed, fault_mem_receive_append]
    simp only [← receive_second_iff]
    cases received : (receive client.recv false totalRetry (waits + 1) 50
        (if waits = 0 then none else some .wouldBlock)).packet with
    | none => simp
    | some second => simp [parseTcpList_fault_iff]

theorem parseTcpValidate_fault_iff {options : TcpOptions} {cfg : Config} {client : Client}
    {waits : Nat} {events : List SocketEvent} {packet : List UInt8} :
    .fault ∈ parseTcpValidate options cfg client
        (challengeText (gameSpyCreateChallengeKey client.rand 6))
        (gameSpyCreateChallengeKey client.rand 6)
        ⟨events, some packet, waits + 1, if waits = 0 then none else some .wouldBlock⟩ packet ↔
      FirstFaults cfg client waits (cstr packet) := by
  unfold parseTcpValidate FirstFaults
  by_cases empty : cstr packet = []
  · rw [if_pos empty]
    exact iff_of_false (by simp) fun faults => faults.1 empty
  · rw [if_neg empty, and_iff_right empty]
    by_cases unsupported : gamespyEnctype1 < encodeType (cstr packet)
    · simp only [if_pos unsupported]
      exact iff_of_true (List.mem_singleton_self _) (Or.inl unsupported)
    · simp only [if_neg unsupported]
      rw [or_iff_right unsupported]
      by_cases passed : validated cfg client (cstr packet) = true
      · rw [if_neg (by rw [Bool.not_eq_true']; exact ne_false_of_eq_true passed),
          and_iff_right passed]
        exact serveRequest_fault_iff _ _ _ _
      · rw [if_pos (by rw [Bool.not_eq_true']; exact Bool.eq_false_iff.mpr passed)]
        exact iff_of_false (by simp) fun faults => passed faults.1

/-- The sessions that fault are those with an unsupported encoding or a request without a name. -/
theorem fault_mem_session_iff (options : TcpOptions) (cfg : Config) (client : Client) :
    .fault ∈ gameSpyParseTCPPacket options cfg client ↔ SessionFaults cfg client := by
  unfold gameSpyParseTCPPacket SessionFaults
  by_cases connected : Connected client
  · obtain ⟨key, buffer, nonBlocking, sent⟩ := connected
    rw [and_iff_right ⟨key, buffer, nonBlocking, sent⟩]
    simp only [key, buffer, nonBlocking, sent, Bool.not_true, Bool.or_self, Bool.false_eq_true,
      if_false]
    rw [List.mem_cons, or_iff_right SocketEvent.noConfusion, receiveTcpValidate,
      fault_mem_receive_append]
    constructor
    · intro faults
      cases received : (receive client.recv true totalRetry 0 50 none).packet with
      | none =>
          rw [received] at faults
          simp at faults
      | some packet =>
          obtain ⟨waits, first⟩ := firstPacket_of_receive received
          obtain ⟨events, whole⟩ := receive_first first
          rw [whole] at faults
          exact ⟨waits, packet, first, parseTcpValidate_fault_iff.mp faults⟩
    · rintro ⟨waits, packet, first, faults⟩
      obtain ⟨events, whole⟩ := receive_first first
      rw [whole]
      exact parseTcpValidate_fault_iff.mpr faults
  · refine iff_of_false (fun faults => connected ?_) fun faults => connected faults.1
    by_cases allocated :
        (!client.challengeKeyAllocated || !client.challengeBufferAllocated) = true
    · rw [if_pos allocated] at faults
      exact absurd faults (by decide)
    · rw [if_neg allocated] at faults
      by_cases blocking : (!client.nonBlocking) = true
      · rw [if_pos blocking] at faults
        exact absurd faults (by decide)
      · rw [if_neg blocking, List.mem_cons, or_iff_right SocketEvent.noConfusion] at faults
        by_cases unsent : (!client.challengeSent) = true
        · rw [if_pos unsent] at faults
          exact absurd faults (by decide)
        · simp only [Bool.or_eq_true, Bool.not_eq_true', not_or, Bool.not_eq_false]
            at allocated blocking unsent
          exact ⟨allocated.1, allocated.2, blocking, unsent⟩

end GSMaster.Session

namespace GSMaster.Loop

open GSMaster.Text GSMaster.Net GSMaster.Registry GSMaster.Lists GSMaster.Library
open GSMaster.Downloads GSMaster.Startup

variable {setup : Setup} {met : Surroundings}

/-! ## The requests to `Rcon` that fault -/

/-- The datagram asks `Rcon` with the configured password, and has nothing behind it. -/
def RconFaults (setup : Setup) (met : Surroundings) : Prop :=
  ∃ sender received queryString, met.datagram = some (sender, received) ∧
    Packets.parseUDPPacket sender received = .rcon queryString ∧
    setup.settings.rconPassword ≠ [] ∧
    strtok Packets.passwordSeparators (some (cstr queryString)) =
      (some setup.settings.rconPassword, none)

/-- The connection is one that faults. -/
def ClientFaults (setup : Setup) (met : Surroundings) : Prop :=
  ∃ client, met.client = some client ∧ Session.SessionFaults setup.cfg client

theorem rcon_eq_none_iff (rconPassword : CString) (sender : SockaddrIn)
    (queryString : List UInt8) :
    Packets.rcon rconPassword sender queryString = none ↔
      rconPassword ≠ [] ∧
        strtok Packets.passwordSeparators (some (cstr queryString)) = (some rconPassword, none) := by
  unfold Packets.rcon Packets.rconValidated
  obtain ⟨password, queryPtr⟩ := strtok Packets.passwordSeparators (some (cstr queryString))
  cases password with
  | none => simp
  | some password =>
      by_cases same : password = rconPassword
      · subst same
        by_cases named : password = []
        · simp [named]
        · simp [named]
      · simp [same]

/-! ## The parts of an iteration go through -/

theorem startDownload_isSome {pool : Pool} (sound : pool.Sound) (request : Request)
    (supply : Supply) : ∃ started, pool.startDownload request supply = some started := by
  rcases Pool.startDownload_spec sound request supply with
    ⟨pool', _, _, _, _, started, -⟩ | ⟨pool', started, -⟩
  · exact ⟨_, started⟩
  · exact ⟨_, started⟩

theorem scheduleQueue_isSome {curl : CurlState} (sound : curl.pool.Sound) (supply : Supply) :
    ∃ after, curl.scheduleQueue supply = some after := by
  unfold CurlState.scheduleQueue
  split
  · exact ⟨curl, rfl⟩
  · cases curl.curlQueue.getLast? with
    | none => exact ⟨curl, rfl⟩
    | some var =>
        obtain ⟨started, ran⟩ := startDownload_isSome sound var.request supply
        exact ⟨_, Option.map_eq_some_iff.mpr ⟨started, ran, rfl⟩⟩

namespace Program

theorem downloadAll_isSome {supply : Nat → Supply}
    (distinct : Function.Injective fun i => (supply i).easyHandle) {requests : List Request}
    {index : Nat} {curl : CurlState} (reached : curl.pool.Reachable)
    (fresh : ∀ transfer ∈ curl.pool.multiHandle, ∀ i, index ≤ i →
      transfer.easyHandle ≠ (supply i).easyHandle) :
    ∃ after, downloadAll supply index requests curl = some after := by
  induction requests generalizing index curl with
  | nil => exact ⟨curl, rfl⟩
  | cons request requests ih =>
      obtain ⟨started, ran⟩ := startDownload_isSome reached.sound request (supply index)
      obtain ⟨next, first⟩ : ∃ next, curl.downloadOrQueue request (supply index) = some next :=
        ⟨_, Option.map_eq_some_iff.mpr ⟨started, ran, rfl⟩⟩
      obtain ⟨result, attempt⟩ := CurlState.downloadOrQueue_attempt first
      have here : curl.pool.Fresh (supply index) :=
        fun transfer member => fresh transfer member index le_rfl
      have later : ∀ transfer ∈ next.pool.multiHandle, ∀ i, index + 1 ≤ i →
          transfer.easyHandle ≠ (supply i).easyHandle := by
        intro transfer member i behind
        rcases startDownload_handles reached.sound attempt transfer member with old | new
        · exact fresh transfer old i (Nat.le_of_succ_le behind)
        · rw [new]
          exact distinct.ne (Nat.ne_of_lt behind)
      obtain ⟨after, rest⟩ := ih (.startDownload request (supply index) reached here attempt) later
      exact ⟨after, Option.bind_eq_some_iff.mpr ⟨next, first, rest⟩⟩

/-- The completions always go through, and leave slots that are in step. -/
theorem curlHttpUpdate_isSome {program : Program} (proper : met.Proper program.curl.pool)
    (reached : program.curl.pool.Reachable) :
    ∃ updated, program.curlHttpUpdate setup met = some updated ∧
      updated.curl.pool.Reachable ∧
      ∀ transfer ∈ updated.curl.pool.multiHandle, ∀ i,
        transfer.easyHandle ≠ (met.listSupply i).easyHandle := by
  have finished := finishAll_reachable proper.reported reached
  obtain ⟨curl, scheduled⟩ := @scheduleQueue_isSome
    ⟨(finishAll met.messages program.curl.pool).1, program.curl.curlQueue⟩ finished.sound
    met.queueSupply
  obtain ⟨reached', handles⟩ := scheduleQueue_reachable scheduled finished proper.queued
  refine ⟨_, Option.map_eq_some_iff.mpr ⟨curl, ?_, rfl⟩, reached', fun transfer member i => ?_⟩
  · rw [loadLists_eq]
    exact scheduled
  · rcases handles transfer member with old | new
    · exact proper.listed transfer old i
    · rw [new]
      exact (proper.apart i).symm

theorem scrape_isSome {program : Program} (distinct : Function.Injective fun i =>
      (met.listSupply i).easyHandle) (reached : program.curl.pool.Reachable)
    (fresh : ∀ transfer ∈ program.curl.pool.multiHandle, ∀ i,
      transfer.easyHandle ≠ (met.listSupply i).easyHandle) :
    ∃ scraped, program.scrape setup met = some scraped := by
  unfold scrape
  split
  · suffices listed : ∃ listed, program.httpDlList setup met = some listed by
      obtain ⟨listed, done⟩ := listed
      exact ⟨_, Option.map_eq_some_iff.mpr ⟨listed, done, rfl⟩⟩
    unfold httpDlList
    split
    · obtain ⟨curl, downloaded⟩ := downloadAll_isSome distinct reached
        fun transfer member i _ => fresh transfer member i
      exact ⟨_, Option.map_eq_some_iff.mpr ⟨curl, downloaded, rfl⟩⟩
    · exact ⟨program, rfl⟩
  · exact ⟨program, rfl⟩

/-- An operation that a datagram asks for always goes through. -/
theorem operate_isSome {sender : SockaddrIn} {command : Packets.Command} {op : Operation}
    (asked : command.operation sender = some op) (env : Nat → Env) (program : Program) :
    ∃ after, program.operate setup env op = some after := by
  cases command with
  | heartBeat | parseUDPMSList | ack | queueShutdown | addServersFromListExecute =>
      obtain rfl := Option.some.inj asked
      exact ⟨_, rfl⟩
  | _ => cases asked

/-- Of all commands only `rcon` may not be served. -/
theorem serve_eq_none_iff (sender : SockaddrIn) (command : Packets.Command) (program : Program) :
    program.serve setup met sender command = none ↔
      ∃ queryString, command = .rcon queryString ∧
        Packets.rcon setup.settings.rconPassword sender queryString = none := by
  have operated {command : Packets.Command} {op : Operation}
      (asked : command.operation sender = some op)
      (other : ∀ queryString, command ≠ .rcon queryString) :
      program.operate setup met.calls op = none ↔
        ∃ queryString, command = .rcon queryString ∧
          Packets.rcon setup.settings.rconPassword sender queryString = none := by
    obtain ⟨after, done⟩ := @operate_isSome setup sender command op asked met.calls program
    rw [done]
    exact iff_of_false (Option.some_ne_none _) fun ⟨queryString, same, _⟩ => other queryString same
  cases command with
  | rcon queryString =>
      unfold serve
      simp only [Packets.Command.rcon.injEq, exists_eq_left']
      cases Packets.rcon setup.settings.rconPassword sender queryString with
      | none => exact iff_of_true rfl rfl
      | some outcome => cases outcome <;> simp
  | sendUDPServerList | qspyVerify | ping | runt =>
      exact iff_of_false (Option.some_ne_none _) fun ⟨_, same, _⟩ => nomatch same
  | heartBeat | parseUDPMSList | ack | queueShutdown | addServersFromListExecute =>
      exact operated rfl fun _ same => nomatch same

theorem receive_eq_none_iff (program : Program) :
    program.receive setup met = none ↔ RconFaults setup met := by
  unfold receive RconFaults
  cases met.datagram with
  | none => exact iff_of_false (Option.some_ne_none _) fun ⟨_, _, _, same, _⟩ => nomatch same
  | some datagram =>
      obtain ⟨sender, received⟩ := datagram
      rw [serve_eq_none_iff]
      constructor
      · rintro ⟨queryString, parsed, faults⟩
        exact ⟨sender, received, queryString, rfl, parsed, (rcon_eq_none_iff ..).mp faults⟩
      · rintro ⟨_, _, queryString, same, parsed, faults⟩
        obtain ⟨rfl, rfl⟩ := Prod.mk.inj (Option.some.inj same)
        exact ⟨queryString, parsed, (rcon_eq_none_iff ..).mpr faults⟩

theorem accept_eq_none_iff (program : Program) :
    program.accept setup met = none ↔ ClientFaults setup met := by
  unfold accept ClientFaults
  cases met.client with
  | none => exact iff_of_false (Option.some_ne_none _) fun ⟨_, same, _⟩ => nomatch same
  | some client =>
      simp only [Option.some.injEq, exists_eq_left',
        ← Session.fault_mem_session_iff setup.tcpOptions]
      split
      · rename_i faults
        exact iff_of_true rfl faults
      · rename_i sound
        exact iff_of_false (Option.some_ne_none _) sound

end Program

/--
Which iterations index a table out of range, read through NULL or write into a
literal. In every state that a run reaches, and whatever the clock, the
downloads and the C library do, one does so exactly when the datagram is a
request to `Rcon` that ends with the right password, or the connection is one
of a client with an unsupported encoding or a request without a name.
-/
theorem iterate_eq_none_iff {turns : List Turn} {program : Program}
    (run : ProgramRun setup turns program) (proper : met.Proper program.curl.pool) :
    program.iterate setup met = none ↔ RconFaults setup met ∨ ClientFaults setup met := by
  obtain ⟨updated, first, reached, fresh⟩ :=
    @Program.curlHttpUpdate_isSome setup met program proper run.reachable.2
  obtain ⟨scraped, second⟩ := @Program.scrape_isSome setup met updated proper.distinct reached fresh
  have parts : program.iterate setup met =
      (((scraped.save met).generate setup met).receive setup met).bind fun program =>
        (program.accept setup met).bind fun program =>
          program.operate setup (fun _ => met.frame) .runFrame := by
    unfold Program.iterate
    simp only [first, second, Option.bind_eq_bind, Option.bind_some]
  rw [parts]
  cases third : ((scraped.save met).generate setup met).receive setup met with
  | none => exact iff_of_true rfl (Or.inl ((Program.receive_eq_none_iff _).mp third))
  | some received =>
      have heard : ¬ RconFaults setup met := by
        rw [← Program.receive_eq_none_iff, third]
        exact Option.some_ne_none received
      rw [Option.bind_some, or_iff_right heard, ← Program.accept_eq_none_iff received]
      cases fourth : received.accept setup met with
      | none => exact iff_of_true rfl rfl
      | some accepted => exact iff_of_false (Option.some_ne_none _) (Option.some_ne_none _)

/-- The right password with nothing behind it, and no connection. -/
def lonelyMet : Surroundings :=
  { quietMet 1000 with
    datagram := some (⟨⟨10, 0, 0, 1⟩, 0⟩, oobSeq ++ ascii "rcon secret") }

def passwordSetup : Setup :=
  ⟨{ Settings.initial with rconPassword := ascii "secret" }, fun _ => 0⟩

theorem lonelyMet_proper {pool : Pool} (idle : pool.multiHandle = []) : lonelyMet.Proper pool :=
  { quietMet_proper 1000 idle with }

/-- Where no password is configured the request is answered; otherwise the program stops. -/
theorem iterate_eq_none_iff_rcon :
    (Program.initial none).iterate quietSetup lonelyMet ≠ none ∧
      (Program.initial none).iterate passwordSetup lonelyMet = none := by
  have quiet : ProgramRun quietSetup [] (Program.initial none) :=
    .load (quietMet 900) 0 none (quietMet_proper 900 rfl) rfl
  have password : ProgramRun passwordSetup [] (Program.initial none) :=
    .load (quietMet 900) 0 none (quietMet_proper 900 rfl) rfl
  constructor
  · intro stops
    rcases (iterate_eq_none_iff quiet (lonelyMet_proper rfl)).mp stops with
      ⟨_, _, _, -, -, named, -⟩ | ⟨client, same, -⟩
    · exact named rfl
    · cases same
  · refine (iterate_eq_none_iff password (lonelyMet_proper rfl)).mpr (Or.inl ?_)
    exact ⟨⟨⟨10, 0, 0, 1⟩, 0⟩, oobSeq ++ ascii "rcon secret", ascii "secret", rfl,
      by decide +kernel, by decide, by decide⟩

end GSMaster.Loop
