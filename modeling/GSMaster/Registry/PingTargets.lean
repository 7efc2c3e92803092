import GSMaster.Registry.FrameRule
import GSMaster.Registry.Pings
import GSMaster.Registry.Validation

/-!
# Where pings go and where replies come from

`RunFrame` resolves the host name of an entry anew for every ping, while `Ack`
compares the sender of a reply with the address under which the entry was
registered. The two agree as long as the name resolves to that address.
-/

namespace GSMaster.Registry

open GSMaster.Text GSMaster.Net GSMaster.Games GSMaster.Library ServerList

/--
A reply from `sender` is taken for a reply of the entry in `block`, and this
entry is the one that is heard of.
-/
def Acknowledges (cfg : Config) (env : Env) (sender : SockaddrIn) (dataPacket : List UInt8)
    (dglen : UInt64) (block : Nat) (reg : ServerList) : Prop :=
  ∃ server server', reg.find (sentBy sender) = some (block, server) ∧
    (block, server') ∈ (ack cfg env sender dataPacket dglen reg).cells ∧
    server'.queuedPings = 0 ∧ server'.lastHeartbeat = env.time 0

/-- Every ping of a pass is for an entry that is due, and goes where the name of it resolves to. -/
theorem mem_framePings {cfg : Config} {env : Env} {state : FrameState}
    {cells : List (Nat × Server)} {ping : ServerKey × Datagram}
    (member : ping ∈ framePings cfg env state cells) :
    ∃ cell ∈ cells, cell.2.PingDue cfg (env.time 0) ∧ ping.1 = cell.2.key ∧
      ping.2.dest = ⟨hostnameToIP env cell.2, cell.2.port⟩ := by
  induction cells generalizing state with
  | nil => cases member
  | cons head rest ih =>
      rcases List.mem_append.mp member with here | later
      · refine ⟨head, List.mem_cons_self .., ?_⟩
        obtain ⟨datagram, sent, rfl⟩ := List.mem_map.mp here
        rcases runFrameVisit_cases cfg env state head.2 with
          ⟨-, dropped⟩ | ⟨due, pinged⟩ | ⟨-, -, same⟩
        · rw [dropped, List.drop_length] at sent
          cases sent
        · rw [pinged, List.drop_left] at sent
          rw [List.mem_singleton.mp sent]
          exact ⟨due, rfl, rfl⟩
        · rw [same, List.drop_length] at sent
          cases sent
      · obtain ⟨cell, inside, target⟩ := ih later
        exact ⟨cell, List.mem_cons_of_mem _ inside, target⟩

/-- A pass does not remove an entry that it pings. -/
theorem runFrame_keeps_due {cfg : Config} {env : Env} {reg : ServerList} {cell : Nat × Server}
    (member : cell ∈ reg.cells) (due : cell.2.PingDue cfg (env.time 0)) :
    (runFrame cfg env reg).Holds cell.1 := by
  have removes : (runFrame cfg env reg).Holds cell.1 ∨
      ∃ state, (runFrameVisit cfg env state cell.2).1 = none := sweepCells_removes _ member
  rcases removes with held | ⟨state, dropped⟩
  · exact held
  · rw [runFrameVisit_due due] at dropped
    cases dropped

/-- A reply is taken for one of the entry whose key its sender has. -/
theorem acknowledges_of_key {cfg : Config} {reg : ServerList} (sound : reg.WellFormed) {block : Nat}
    {server : Server} (member : (block, server) ∈ reg.cells) {sender : SockaddrIn}
    (same : server.key = (sender.sinAddr, sender.sinPort)) (env : Env) (dataPacket : List UInt8)
    (dglen : UInt64) : Acknowledges cfg env sender dataPacket dglen block reg := by
  cases found : reg.find (sentBy sender) with
  | none =>
      have missed := find_none found member
      rw [sentBy_iff.mpr same] at missed
      cases missed
  | some cell =>
      obtain ⟨inside, passes⟩ := find_some found
      obtain rfl := sound.key_inj inside member ((sentBy_iff.mp passes).trans same.symm)
      exact ⟨server, ackServer cfg env dataPacket dglen server, found,
        (ack_cell sound found).mpr rfl, rfl, rfl⟩

/--
Replies from where an entry was pinged are taken for replies of this entry, in
every later registry that holds it, when the host name did not resolve to
another address at the ping.
-/
theorem ping_acknowledged_iff (cfg : Config) {reg : ServerList} (reached : reg.Reachable cfg)
    (env : Env) {block : Nat} {server : Server} (member : (block, server) ∈ reg.cells)
    {ping : Datagram}
    (pinged : (server.key, ping) ∈ framePings cfg env ⟨reg.numservers, [], 0⟩ reg.cells) :
    (∀ reg', Relation.ReflTransGen (ServerList.Step cfg) (runFrame cfg env reg) reg' →
      reg'.Holds block → ∀ env' dataPacket dglen,
        Acknowledges cfg env' ping.dest dataPacket dglen block reg') ↔
      ∀ addr ∈ env.gethostbyname server.hostnameIp, addr = server.ip.sinAddr := by
  have sound := reached.wellFormed
  obtain ⟨cell, inside, due, key, dest⟩ := mem_framePings pinged
  obtain rfl := sound.key_inj inside member key.symm
  obtain ⟨soundFrame, keepsFrame⟩ := runFrame_sound sound cfg env
  rw [dest]
  have target : hostnameToIP env server = server.ip.sinAddr ↔
      ∀ addr ∈ env.gethostbyname server.hostnameIp, addr = server.ip.sinAddr := by
    unfold hostnameToIP
    cases env.gethostbyname server.hostnameIp with
    | none => simp
    | some addr => simp
  rw [← target]
  constructor
  · intro acknowledged
    have held : (runFrame cfg env reg).Holds block := runFrame_keeps_due member due
    obtain ⟨found, -, search, -⟩ := acknowledged _ .refl held env [] 0
    obtain ⟨there, sender⟩ := find_some search
    have same := congrArg Prod.fst (keepsFrame.identity sound member there)
    change found.key = server.key at same
    rw [sentBy_iff.mp sender] at same
    exact congrArg Prod.fst same
  · intro agrees reg' run held env' dataPacket dglen
    obtain ⟨sound', keeps⟩ := run_sound soundFrame run
    obtain ⟨server', there⟩ := held
    have same := congrArg Prod.fst ((keepsFrame.trans keeps).identity sound member there)
    change server'.key = server.key at same
    refine acknowledges_of_key sound' there (same.trans ?_) env' dataPacket dglen
    rw [agrees]
    rfl

/-- A server from a list file, under a host name. -/
def namedCall : AddCall :=
  ⟨unrealServer, false, unrealServer.sinPort, some (ascii "unreal"), some (ascii "unreal.lan")⟩

def namedRegistry : ServerList :=
  addServer defaultConfig quietEnv namedCall ServerList.initial

def namedServer : Server :=
  newServer defaultConfig quietEnv namedCall (ascii "unreal")

theorem namedRegistry_reachable : namedRegistry.Reachable defaultConfig :=
  Relation.ReflTransGen.single ⟨fun _ => quietEnv, .addServer namedCall, rfl⟩

/-- The second 1000, when every name resolves to one address. -/
def resolvingEnv (addr : InAddr) : Env :=
  { quietEnv with time := fun _ => 1000, gethostbyname := fun _ => some addr }

theorem namedServer_pinged (addr : InAddr) :
    (namedServer.key, framePing (resolvingEnv addr) 0 namedServer) ∈
      framePings defaultConfig (resolvingEnv addr) ⟨namedRegistry.numservers, [], 0⟩
        namedRegistry.cells := by
  have due : namedServer.PingDue defaultConfig ((resolvingEnv addr).time 0) :=
    show namedServer.PingDue defaultConfig 1000 by decide
  have cells : namedRegistry.cells = [(1, namedServer)] := rfl
  rw [cells, framePings, framePings, runFrameVisit_due due]
  exact List.mem_singleton_self _

theorem ping_acknowledged_iff_named :
    (∀ reg', Relation.ReflTransGen (ServerList.Step defaultConfig)
        (runFrame defaultConfig (resolvingEnv ⟨10, 0, 0, 2⟩) namedRegistry) reg' →
      reg'.Holds 1 → ∀ env' dataPacket dglen, Acknowledges defaultConfig env'
        (framePing (resolvingEnv ⟨10, 0, 0, 2⟩) 0 namedServer).dest dataPacket dglen 1 reg') ↔
      ∀ addr ∈ (resolvingEnv ⟨10, 0, 0, 2⟩).gethostbyname namedServer.hostnameIp,
        addr = namedServer.ip.sinAddr :=
  ping_acknowledged_iff defaultConfig namedRegistry_reachable (resolvingEnv ⟨10, 0, 0, 2⟩)
    (List.mem_singleton_self _) (namedServer_pinged ⟨10, 0, 0, 2⟩)

/-- The name has moved to 10.0.0.9, and the reply from there is nobody's. -/
theorem moved_ping_unacknowledged :
    namedRegistry.Reachable defaultConfig ∧ (1, namedServer) ∈ namedRegistry.cells ∧
      (namedServer.key, framePing (resolvingEnv ⟨10, 0, 0, 9⟩) 0 namedServer) ∈
        framePings defaultConfig (resolvingEnv ⟨10, 0, 0, 9⟩) ⟨namedRegistry.numservers, [], 0⟩
          namedRegistry.cells ∧
      (runFrame defaultConfig (resolvingEnv ⟨10, 0, 0, 9⟩) namedRegistry).Holds 1 ∧
      ¬ Acknowledges defaultConfig (resolvingEnv ⟨10, 0, 0, 9⟩)
        (framePing (resolvingEnv ⟨10, 0, 0, 9⟩) 0 namedServer).dest (ascii "\\final\\") 7 1
        (runFrame defaultConfig (resolvingEnv ⟨10, 0, 0, 9⟩) namedRegistry) := by
  refine ⟨namedRegistry_reachable, List.mem_singleton_self _, namedServer_pinged _, ?_, ?_⟩
  · exact ⟨_, List.mem_singleton_self _⟩
  · rintro ⟨server, server', found, -⟩
    have missed : (runFrame defaultConfig (resolvingEnv ⟨10, 0, 0, 9⟩) namedRegistry).find
        (sentBy (framePing (resolvingEnv ⟨10, 0, 0, 9⟩) 0 namedServer).dest) = none := rfl
    rw [missed] at found
    cases found

end GSMaster.Registry
