import GSMaster.Registry.Refinement
import GSMaster.Lists.UdpList
import GSMaster.Database.Blob

/-!
# Memory safety of the registry

A run of operations whose buffers are large enough keeps the list linked, its
keys unique, its games supported and its counter right, so that the two
buffers sized from the counter are never overrun. Only the copies of `Ack` can
be too large for their buffers.
-/

namespace GSMaster.Registry

open GSMaster.Text GSMaster.Net GSMaster.Games GSMaster.Library GSMaster.Lists GSMaster.Database

/-- The registry in memory is what the rest of the program takes it to be. -/
structure Memory.SoundWith (m : Memory) (cells : List (Nat × Server)) : Prop where
  walked : m.entries = some cells
  linked : Linked m.heap ((0, Server.zero) :: cells)
  keys : (cells.map fun cell => cell.2.key).Nodup
  ports : ∀ cell ∈ cells, cell.2.port ≠ 0
  games : ∀ cell ∈ cells, Supported cell.2.gamename
  counted : m.numservers.toNat = cells.length
  udpBuffer : ∀ cfg gamename udpheader reply, udpHeader gamename = some udpheader →
    sendUDPServerListToClient cfg gamename (cells.map Prod.snd) = some reply →
      reply.length ≤ (udpBufsize udpheader m.numservers).toNat
  blobBuffer : (generateMasterDBBlob (cells.map Prod.snd)).length ≤ (blobMaxsize m.numservers).toNat

def Memory.Sound (m : Memory) : Prop :=
  ∃ cells, m.SoundWith cells

/-- An entry of both memories has kept its address, its port and its game name. -/
def Memory.Preserves (m m' : Memory) : Prop :=
  ∀ cells cells', m.entries = some cells → m'.entries = some cells' →
    ∀ block server server', (block, server) ∈ cells → (block, server') ∈ cells' →
      server'.identity = server.identity

/-- One operation on records in range, with any arguments and surroundings. -/
def Memory.Step (cfg : Config) (m m' : Memory) : Prop :=
  ∃ env, ∃ op : Operation, op.InRange ∧ op.Leads cfg env m m'

/-- One operation that fits its buffers. -/
def Memory.StepWithin (cfg : Config) (m m' : Memory) : Prop :=
  ∃ env, ∃ op : Operation, op.InRange ∧ op.Fits cfg m ∧ op.Leads cfg env m m'

theorem blobRecordCalls_isSome (env : Nat → Env) (index : Nat)
    (records : List (List UInt8 × UInt16))
    (inRange : ∀ record ∈ records, record.2.toNat < gameTable.length) :
    ∃ calls, blobRecordCalls env index records = some calls := by
  induction records generalizing index with
  | nil => exact ⟨[], rfl⟩
  | cons record records ih =>
      obtain ⟨calls, rest⟩ := ih (index + 1) fun other member =>
        inRange other (List.mem_cons_of_mem _ member)
      obtain ⟨call, here⟩ : ∃ call, blobRecordCall (env index) record.1 record.2 = some call := by
        unfold blobRecordCall
        cases resolved : (env index).gethostbyname (inetNtoa (recordAddr record.1)) with
        | none =>
            simp only [resolved]
            exact ⟨none, rfl⟩
        | some addr =>
            have named := inRange record (List.mem_cons_self ..)
            simp only [resolved, List.getElem?_eq_getElem named]
            exact ⟨_, rfl⟩
      exact ⟨call.toList ++ calls, by
        simp only [blobRecordCalls, here, rest, Option.bind_eq_bind, Option.bind_some]⟩

/-- Records in range make every operation defined on the list. -/
theorem exec_isSome (cfg : Config) (env : Nat → Env) {op : Operation} (inRange : op.InRange)
    (reg : ServerList) : ∃ reg', exec cfg env op reg = some reg' := by
  cases op with
  | readMasterDBBlob file stale =>
      have read : ∃ calls, readMasterDBBlob env file stale = some calls := by
        unfold readMasterDBBlob
        split
        · exact ⟨[], rfl⟩
        · split
          · exact ⟨[], rfl⟩
          · split
            · exact ⟨[], rfl⟩
            · exact blobRecordCalls_isSome env 0 _ inRange
      obtain ⟨calls, read⟩ := read
      exact ⟨addServers cfg calls reg, by rw [exec, read]; rfl⟩
  | _ => exact ⟨_, rfl⟩

/-- The memory holds a well-formed list. -/
def Memory.Holds (m : Memory) (reg : ServerList) : Prop :=
  reg.WellFormed ∧ Layout m reg

theorem Memory.initial_holds : Memory.initial.Holds ServerList.initial :=
  ⟨ServerList.initial_wellFormed, Layout.initial⟩

/-- A step that fits its buffers takes a well-formed list to a well-formed list. -/
theorem Memory.Holds.step {cfg : Config} {m m' : Memory} {reg : ServerList} (held : m.Holds reg)
    (step : m.StepWithin cfg m') : ∃ reg', m'.Holds reg' ∧ ServerList.Keeps reg reg' := by
  obtain ⟨env, op, inRange, fits, leads⟩ := step
  obtain ⟨reg', done⟩ := exec_isSome cfg env inRange reg
  obtain ⟨after, ran, layout⟩ := held.2.exec held.1 done
  obtain rfl := leads fits after ran
  have sound := exec_sound held.1 done
  exact ⟨reg', ⟨sound.1, layout⟩, sound.2⟩

theorem Memory.Holds.run {cfg : Config} {m : Memory}
    (run : Relation.ReflTransGen (Memory.StepWithin cfg) Memory.initial m) :
    ∃ reg, m.Holds reg := by
  induction run with
  | refl => exact ⟨_, Memory.initial_holds⟩
  | tail _ step ih =>
      obtain ⟨reg, held⟩ := ih
      obtain ⟨reg', held', -⟩ := held.step step
      exact ⟨reg', held'⟩

theorem Memory.Holds.sound {m : Memory} {reg : ServerList} (held : m.Holds reg) :
    m.SoundWith reg.cells := by
  obtain ⟨formed, layout⟩ := held
  have counted : m.numservers.toNat = reg.cells.length := by
    rw [layout.numservers, formed.counted, ServerList.identities_length]
  have counted' : m.numservers.toNat = (reg.cells.map Prod.snd).length := by
    rw [counted, List.length_map]
  have small : (reg.cells.map Prod.snd).length ≤ 2 ^ 48 := by
    rw [List.length_map]
    exact formed.length_le
  exact
    { walked := layout.entries formed
      linked := layout.linked
      keys := by
        simpa only [ServerList.identities, List.map_map, Function.comp_def, Server.identity]
          using formed.keys
      ports := fun cell member => formed.ports _ (ServerList.mem_identities member)
      games := fun cell member => formed.games _ (ServerList.mem_identities member)
      counted := counted
      udpBuffer := fun _ _ _ _ header built =>
        sendUDPServerListToClient_fits header built counted' small
      blobBuffer := generateMasterDBBlob_fits counted' small }

theorem Memory.Holds.preserves {m m' : Memory} {reg reg' : ServerList} (held : m.Holds reg)
    (held' : m'.Holds reg') (keeps : ServerList.Keeps reg reg') : m.Preserves m' := by
  intro cells cells' walked walked' block server server' member member'
  obtain rfl : reg.cells = cells := Option.some.inj ((held.2.entries held.1).symm.trans walked)
  obtain rfl : reg'.cells = cells' := Option.some.inj ((held'.2.entries held'.1).symm.trans walked')
  exact keeps.identity held.1 member member'

/--
In every run whose operations fit their buffers the registry is sound, and the
next operation changes no existing entry's address, port or game name.
-/
theorem runsWithin_sound (cfg : Config) (m : Memory)
    (run : Relation.ReflTransGen (Memory.StepWithin cfg) Memory.initial m) :
    m.Sound ∧ ∀ m', m.StepWithin cfg m' → m'.Sound ∧ m.Preserves m' := by
  obtain ⟨reg, held⟩ := Memory.Holds.run run
  refine ⟨⟨reg.cells, held.sound⟩, fun m' step => ?_⟩
  obtain ⟨reg', held', keeps⟩ := held.step step
  exact ⟨⟨reg'.cells, held'.sound⟩, held.preserves held' keeps⟩

/-! ## A registration, and a reply that overruns the entry -/

/-- The address and the port of a game server, 10.0.0.1:27910. -/
def quake2Server : SockaddrIn :=
  ⟨⟨10, 0, 0, 1⟩, htons 27910⟩

def quake2Heartbeat : Operation :=
  .heartBeat quake2Server (ascii "heartbeat\\27910\\gamename\\quake2")

/-- A status reply of 5010 bytes. -/
def longReply : List UInt8 :=
  printstring ++ 10 :: List.replicate 5000 65

theorem quake2Heartbeat_registers :
    ∃ reg, exec defaultConfig (fun _ => quietEnv) quake2Heartbeat ServerList.initial = some reg ∧
      ∃ server, reg.find (sentBy quake2Server) = some (1, server) ∧
        server.gamename = ascii "quake2" :=
  ⟨_, rfl, _, rfl, rfl⟩

theorem longReply_overruns {server : Server} (game : server.gamename = ascii "quake2") :
    ackFits defaultConfig longReply 5010 server = false := by
  have text : cstr (longReply.drop 9) = 10 :: List.replicate 5000 65 := by
    refine cstr_of_forall fun c member => ?_
    rcases List.mem_cons.mp member with rfl | rest
    · decide
    · rw [(List.mem_replicate.mp rest).2]
      decide
  have stores : strlcpyStores (cstr (longReply.drop 9)) 5001 = 5001 := by
    rw [text, strlcpyStores, if_neg (by decide), List.length_cons, List.length_replicate]
    rfl
  have legacy : isLegacy server.gamename = true := by
    rw [game]
    decide
  have header : memcmpEq longReply printstring = true := rfl
  rw [ackFits, if_pos legacy, legacyReplyFits, if_pos (by decide), header, if_pos (by decide)]
  change decide (strlcpyStores (cstr (longReply.drop 9)) 5001 ≤ serverInfoSize) = false
  rw [stores]
  decide

/-- A status reply of 24 bytes. -/
def shortReply : List UInt8 :=
  printstring ++ ascii "\\hostname\\base1"

theorem shortReply_fits {reg : ServerList}
    (registered : exec defaultConfig (fun _ => quietEnv) quake2Heartbeat ServerList.initial =
      some reg) :
    (∃ server, reg.find (sentBy quake2Server) = some (1, server) ∧
      ackFits defaultConfig shortReply 24 server = true) ∧
    ∃ server, (ack defaultConfig quietEnv quake2Server shortReply 24 reg).cells = [(1, server)] ∧
      server.validated = true := by
  cases registered
  exact ⟨⟨_, rfl, by decide⟩, _, rfl, rfl⟩

/-- The server registers, and its reply fits and validates the entry. -/
theorem runsWithin_sound_heartbeat :
    ∃ m : Memory, (m.Sound ∧ ∀ m', m.StepWithin defaultConfig m' → m'.Sound ∧ m.Preserves m') ∧
      ∃ server, m.entries = some [(1, server)] ∧ server.validated = true := by
  obtain ⟨reg, registered, -⟩ := quake2Heartbeat_registers
  obtain ⟨⟨server, found, fits⟩, server', cells, validated⟩ := shortReply_fits registered
  obtain ⟨m₁, ran₁, layout₁⟩ := Layout.initial.exec ServerList.initial_wellFormed registered
  have formed₁ := (exec_sound ServerList.initial_wellFormed registered).1
  have first : Memory.initial.StepWithin defaultConfig m₁ :=
    ⟨fun _ => quietEnv, quake2Heartbeat, trivial, trivial, fun _ after done =>
      Option.some.inj (ran₁.symm.trans done)⟩
  have replied : exec defaultConfig (fun _ => quietEnv) (.ack quake2Server shortReply 24) reg =
      some (ack defaultConfig quietEnv quake2Server shortReply 24 reg) := rfl
  obtain ⟨m₂, ran₂, layout₂⟩ := layout₁.exec formed₁ replied
  have second : m₁.StepWithin defaultConfig m₂ := by
    refine ⟨fun _ => quietEnv, .ack quake2Server shortReply 24, trivial, ?_, fun _ after done =>
      Option.some.inj (ran₂.symm.trans done)⟩
    intro block other reached
    cases (layout₁.search_some formed₁ found).symm.trans reached
    exact fits
  have walked := layout₂.entries (exec_sound formed₁ replied).1
  exact ⟨m₂, runsWithin_sound defaultConfig m₂ ((Relation.ReflTransGen.single first).tail second),
    server', walked.trans (congrArg some cells), validated⟩

/-- A long reply of a registered server leaves the memory undefined. -/
theorem not_runs_sound :
    ¬ ∀ cfg m, Relation.ReflTransGen (Memory.Step cfg) Memory.initial m → m.Sound := by
  intro always
  obtain ⟨reg, registered, server, found, game⟩ := quake2Heartbeat_registers
  obtain ⟨m, ran, layout⟩ := Layout.initial.exec ServerList.initial_wellFormed registered
  have formed := (exec_sound ServerList.initial_wellFormed registered).1
  have first : Memory.initial.Step defaultConfig m :=
    ⟨fun _ => quietEnv, quake2Heartbeat, trivial, fun _ after done =>
      Option.some.inj (ran.symm.trans done)⟩
  have second : m.Step defaultConfig { Memory.initial with numservers := 1 } := by
    refine ⟨fun _ => quietEnv, .ack quake2Server longReply 5010, trivial, fun fits => ?_⟩
    have within := fits 1 server (layout.search_some formed found)
    rw [longReply_overruns game] at within
    cases within
  obtain ⟨cells, sound⟩ := always _ _ ((Relation.ReflTransGen.single first).tail second)
  have walked : (some [] : Option (List (Nat × Server))) = some cells := sound.walked
  cases walked
  exact absurd sound.counted (by decide)

end GSMaster.Registry
