import GSMaster.Net.Resolver
import GSMaster.Packets.ParseResponse
import GSMaster.Registry.Entries
import GSMaster.Registry.ListFiles

/-!
# A datagram concerns its sender only

Apart from the lists of other masters and the remote console, whatever a
datagram says is about the address it came from: the entries of every other
address stay as they are, in their order.
-/

namespace GSMaster.Packets

open GSMaster.Text GSMaster.Net GSMaster.Games GSMaster.Registry ServerList

/-- `Parse_UDP_Packet` of a datagram, as far as it concerns the registry. -/
def receive (cfg : Config) (env : Nat → Env) (sender : SockaddrIn) (received : List UInt8)
    (reg : ServerList) : Option ServerList :=
  match (parseUDPPacket sender received).operation sender with
  | none => some reg
  | some op => exec cfg env op reg

/-- The commands that may speak of other servers than their sender. -/
def Command.SpeaksOfOthers : Command → Prop
  | .parseUDPMSList _ _ _ => True
  | .rcon _ => True
  | _ => False

/-- A step that concerns the servers of one address only, and adds at most one. -/
structure Isolated (addr : InAddr) (reg reg' : ServerList) : Prop where
  others : (reg'.cells.filter fun cell => cell.2.ip.sinAddr ≠ addr) =
    reg.cells.filter fun cell => cell.2.ip.sinAddr ≠ addr
  single : (reg'.cells.filter fun cell => reg.nextBlock ≤ cell.1).length ≤ 1
  own : ∀ cell ∈ reg'.cells, reg.nextBlock ≤ cell.1 → cell.2.ip.sinAddr = addr

/-! ## The steps -/

/-- The entries that were there before are not new. -/
theorem filter_new {reg : ServerList} (sound : reg.WellFormed) {cells : List (Nat × Server)}
    (old : ∀ cell ∈ cells, ∃ server, (cell.1, server) ∈ reg.cells) :
    (cells.filter fun cell => reg.nextBlock ≤ cell.1) = [] := by
  refine List.filter_eq_nil_iff.mpr fun cell member => ?_
  obtain ⟨server, held⟩ := old cell member
  have before := (sound.allocated _ (mem_identities held)).2
  simpa using before

theorem Isolated.of_old {addr : InAddr} {reg reg' : ServerList} (sound : reg.WellFormed)
    (others : (reg'.cells.filter fun cell => cell.2.ip.sinAddr ≠ addr) =
      reg.cells.filter fun cell => cell.2.ip.sinAddr ≠ addr)
    (old : ∀ cell ∈ reg'.cells, ∃ server, (cell.1, server) ∈ reg.cells) :
    Isolated addr reg reg' where
  others := others
  single := by rw [filter_new sound old]; exact Nat.zero_le 1
  own cell member new := by
    obtain ⟨server, held⟩ := old cell member
    exact absurd new (Nat.not_le.mpr (sound.allocated _ (mem_identities held)).2)

theorem Isolated.refl {reg : ServerList} (sound : reg.WellFormed) (addr : InAddr) :
    Isolated addr reg reg :=
  Isolated.of_old sound rfl fun cell member => ⟨cell.2, member⟩

/-- Rewriting entries of one address in their places. -/
theorem isolated_map {addr : InAddr} {reg reg' : ServerList} (sound : reg.WellFormed)
    {test : Server → Bool} {change : Server → Server}
    (tested : ∀ server, test server = true → server.ip.sinAddr = addr)
    (changed : ∀ server, test server = true → (change server).ip.sinAddr = addr)
    (same : reg'.cells = reg.cells.map fun cell =>
      (cell.1, if test cell.2 then change cell.2 else cell.2)) :
    Isolated addr reg reg' := by
  refine Isolated.of_old sound ?_ fun cell member => ?_
  · rw [same, List.filter_map]
    have alike : (reg.cells.filter ((fun cell : Nat × Server => decide (cell.2.ip.sinAddr ≠ addr)) ∘
        fun cell => (cell.1, if test cell.2 then change cell.2 else cell.2))) =
        reg.cells.filter fun cell => cell.2.ip.sinAddr ≠ addr := by
      refine List.filter_congr fun cell _ => ?_
      rw [Function.comp_apply]
      by_cases here : test cell.2 = true
      · simp only [if_pos here, tested _ here, changed _ here]
      · simp only [if_neg here]
    rw [alike]
    refine (List.map_congr_left fun cell kept => ?_).trans (List.map_id _)
    have apart : cell.2.ip.sinAddr ≠ addr := of_decide_eq_true (List.mem_filter.mp kept).2
    rw [if_neg fun here => apart (tested _ here)]
    rfl
  · rw [same] at member
    obtain ⟨held, inside, rfl⟩ := List.mem_map.mp member
    exact ⟨held.2, inside⟩

/-- A new entry at the end of the list, after some entries of its address have gone. -/
theorem isolated_append {cfg : Config} {env : Env} {call : AddCall} {gamename : CString}
    {reg reg' : ServerList} (sound : reg.WellFormed) (fewer : reg'.cells.Sublist reg.cells)
    (others : (reg'.cells.filter fun cell => cell.2.ip.sinAddr ≠ call.sender.sinAddr) =
      reg.cells.filter fun cell => cell.2.ip.sinAddr ≠ call.sender.sinAddr) :
    Isolated call.sender.sinAddr reg (appendServer cfg env call gamename reg') := by
  have cells : (appendServer cfg env call gamename reg').cells =
      reg'.cells ++ [(reg'.nextBlock, newServer cfg env call gamename)] := rfl
  have old : ∀ cell ∈ reg'.cells, ∃ server, (cell.1, server) ∈ reg.cells :=
    fun cell member => ⟨cell.2, fewer.subset member⟩
  refine ⟨?_, ?_, fun cell member new => ?_⟩
  · rw [cells, List.filter_append, others]
    have own : ¬ (newServer cfg env call gamename).ip.sinAddr ≠ call.sender.sinAddr :=
      not_not.mpr rfl
    rw [List.filter_cons_of_neg (by simpa using own), List.filter_nil, List.append_nil]
  · rw [cells, List.filter_append, filter_new sound old, List.nil_append]
    exact (List.length_filter_le _ _).trans (Nat.le_refl 1)
  · rcases mem_appendServer.mp member with kept | rfl
    · exact absurd new (Nat.not_le.mpr (sound.allocated _ (mem_identities (fewer.subset kept))).2)
    · rfl

theorem isolated_addServer {reg : ServerList} (sound : reg.WellFormed) (cfg : Config) (env : Env)
    (call : AddCall) : Isolated call.sender.sinAddr reg (addServer cfg env call reg) := by
  rcases addServer_cases cfg env call reg with
    same | ⟨gamename, -, -, added⟩ | ⟨gamename, block, server, -, found, -, added⟩
  · rw [same]
    exact Isolated.refl sound _
  · rw [added]
    exact isolated_append sound (List.Sublist.refl _) rfl
  · rw [added]
    obtain ⟨member, passes⟩ := find_some found
    have own : server.ip.sinAddr = call.sender.sinAddr := congrArg Prod.fst (found_iff.mp passes)
    refine isolated_append sound List.filter_sublist ?_
    rw [ServerList.drop, List.filter_filter]
    refine List.filter_congr fun other inside => ?_
    by_cases same : other.1 = block
    · obtain ⟨held, server'⟩ := other
      obtain rfl : held = block := same
      rw [sound.cell_inj inside member]
      simp [own]
    · simp [same]

theorem isolated_heartBeat {reg : ServerList} (sound : reg.WellFormed) (cfg : Config) (env : Env)
    (sender : SockaddrIn) (data : List UInt8) :
    Isolated sender.sinAddr reg (heartBeat cfg env sender data reg) := by
  cases parsed : parseHeartBeat data with
  | none =>
      rw [heartBeat, parsed]
      exact Isolated.refl sound _
  | some request =>
      cases found : reg.find (request.found sender) with
      | none =>
          rw [heartBeat_unknown parsed found]
          exact isolated_addServer sound cfg env (request.addCall sender)
      | some cell =>
          have own (server : Server) (here : request.found sender server = true) :
              server.ip.sinAddr = sender.sinAddr := congrArg Prod.fst (request_found_iff.mp here)
          refine isolated_map sound own (fun server here => ?_)
            (heartBeat_known sound parsed found)
          unfold HeartBeatRequest.written
          split
          · exact own server here
          · exact own server here

theorem isolated_queueShutdown {reg : ServerList} (sound : reg.WellFormed) (env : Env)
    (sender : SockaddrIn) : Isolated sender.sinAddr reg (queueShutdown env sender reg) := by
  have own (server : Server) (here : sentBy sender server = true) :
      server.ip.sinAddr = sender.sinAddr := congrArg Prod.fst (sentBy_iff.mp here)
  have kept (server : Server) (here : sentBy sender server = true) :
      (shutdownServer env server).ip.sinAddr = sender.sinAddr := own server here
  exact isolated_map sound own kept (queueShutdown_cells sound env sender)

theorem ackServer_addr (cfg : Config) (env : Env) (dataPacket : List UInt8) (dglen : UInt64)
    (server : Server) :
    (ackServer cfg env dataPacket dglen server).ip.sinAddr = server.ip.sinAddr :=
  congrArg (fun identity => identity.1.1) (ackServer_identity cfg env dataPacket dglen server)

theorem isolated_ack {reg : ServerList} (sound : reg.WellFormed) (cfg : Config) (env : Env)
    (sender : SockaddrIn) (dataPacket : List UInt8) (dglen : UInt64) :
    Isolated sender.sinAddr reg (ack cfg env sender dataPacket dglen reg) := by
  have own (server : Server) (here : sentBy sender server = true) :
      server.ip.sinAddr = sender.sinAddr := congrArg Prod.fst (sentBy_iff.mp here)
  refine isolated_map sound own (fun server here => ?_)
    (ack_cells sound cfg env sender dataPacket dglen)
  rw [ackServer_addr]
  exact own server here

/-! ## The dispatch -/

/-- Only the short messages of `Parse_UDP_Packet` are turned into lines of a list file. -/
theorem parseResponse_line {sender : SockaddrIn} {received : List UInt8} {fileBuffer : CString} :
    parseResponse sender received ≠ .addServersFromListExecute fileBuffer := by
  intro parsed
  rcases parseResponse_cases sender received with
    ⟨_, heart⟩ | special | query | ⟨cmd, command⟩
  · rw [heart] at parsed
    cases parsed
  · rw [parsed] at special
    rcases parseOutOfBand_cases special with ⟨_, _, _, other⟩ | ⟨_, other⟩ | ⟨_, other⟩ | other
    all_goals cases other
  · rw [query] at parsed
    cases parsed
  · rw [command] at parsed
    rcases parseCommand_cases (cleanNewlines received) cmd with same | same | same | same
    all_goals
      rw [same] at parsed
      cases parsed

/-- A line that a datagram is turned into is about its sender. -/
theorem parseUDPPacket_line {sender : SockaddrIn} {received : List UInt8} {fileBuffer : CString}
    (parsed : parseUDPPacket sender received = .addServersFromListExecute fileBuffer) :
    ∃ gamename, fileBuffer = pingLine sender gamename := by
  unfold parseUDPPacket at parsed
  split at parsed
  · exact absurd parsed parseResponse_line
  · repeat' split at parsed
    all_goals
      first
      | cases parsed
        exact ⟨_, rfl⟩
      | cases parsed

theorem isolated_pingLine {reg : ServerList} (sound : reg.WellFormed) (cfg : Config) {env : Env}
    {sender : SockaddrIn}
    (resolves : env.gethostbyname (inetNtoa sender.sinAddr) = some sender.sinAddr)
    (gamename : CString) :
    Isolated sender.sinAddr reg (addServers cfg
      (addServersFromListExecute env (pingLine sender gamename) none).toList reg) := by
  cases read : addServersFromListExecute env (pingLine sender gamename) none with
  | none => exact Isolated.refl sound _
  | some call =>
      have line : pingLine sender gamename = inetNtoa sender.sinAddr ++ 58 ::
          (decimal (ntohs sender.sinPort).toNat ++ ascii "," ++ gamename ++ ascii "\n") := by
        simp [pingLine, ascii]
      rw [line] at read
      rw [← addServersFromListExecute_addr resolves read]
      exact isolated_addServer sound cfg call.1 call.2

/--
A datagram that is neither the list of another master nor an rcon command
leaves the entries of other addresses than its sender's as they are, in their
order, and adds at most one entry, which has the address of its sender.
-/
theorem receive_isolated (cfg : Config) (reg : ServerList) (reached : reg.Reachable cfg)
    (env : Nat → Env) (resolves : ∀ addr, (env 0).gethostbyname (inetNtoa addr) = some addr)
    (sender : SockaddrIn) (received : List UInt8)
    (own : ¬ (parseUDPPacket sender received).SpeaksOfOthers) :
    ∃ reg', receive cfg env sender received reg = some reg' ∧
      Isolated sender.sinAddr reg reg' := by
  have sound := reached.wellFormed
  unfold receive
  cases parsed : parseUDPPacket sender received with
  | heartBeat data => exact ⟨_, rfl, isolated_heartBeat sound cfg (env 0) sender data⟩
  | parseUDPMSList tmp gamename size =>
      rw [parsed] at own
      exact absurd trivial own
  | ack dataPacket dglen => exact ⟨_, rfl, isolated_ack sound cfg (env 0) sender dataPacket dglen⟩
  | queueShutdown => exact ⟨_, rfl, isolated_queueShutdown sound (env 0) sender⟩
  | addServersFromListExecute fileBuffer =>
      obtain ⟨gamename, rfl⟩ := parseUDPPacket_line parsed
      exact ⟨_, rfl, isolated_pingLine sound cfg (resolves _) gamename⟩
  | sendUDPServerList gamename => exact ⟨reg, rfl, Isolated.refl sound _⟩
  | rcon queryString => exact ⟨reg, rfl, Isolated.refl sound _⟩
  | qspyVerify => exact ⟨reg, rfl, Isolated.refl sound _⟩
  | ping => exact ⟨reg, rfl, Isolated.refl sound _⟩
  | runt => exact ⟨reg, rfl, Isolated.refl sound _⟩

/-- A QuakeWorld server that sends a ping while an Unreal server is registered. -/
theorem receive_isolated_quakeworld :
    ∃ reg : ServerList, reg.Reachable defaultConfig ∧ ∃ reg',
      receive defaultConfig (fun _ => { quietEnv with gethostbyname := dottedQuad })
        ⟨⟨10, 0, 0, 9⟩, htons 27500⟩ qwServerMsg reg = some reg' ∧
        Isolated ⟨10, 0, 0, 9⟩ reg reg' := by
  obtain ⟨reg, reached, -⟩ := unrealHeartbeat_registers 0
  exact ⟨reg, reached, receive_isolated _ reg reached _ dottedQuad_inetNtoa _ _
    (show ¬ False from not_false)⟩

end GSMaster.Packets
