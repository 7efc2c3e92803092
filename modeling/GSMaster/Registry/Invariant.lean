import GSMaster.Registry.Operations

/-!
# The invariant of the registry

Every operation keeps the block, the address, the port and the game name of the
entries it does not create. The invariant speaks of these identities only, so
an operation keeps it by what it does to the list of identities.
-/

namespace GSMaster.Registry

open GSMaster.Text GSMaster.Net GSMaster.Games GSMaster.Library

/-- What never changes in an entry: its key and its game name. -/
def Server.identity (server : Server) : ServerKey × CString :=
  (server.key, server.gamename)

namespace ServerList

def identities (reg : ServerList) : List (Nat × ServerKey × CString) :=
  reg.cells.map fun cell => (cell.1, cell.2.identity)

/-- The registry as the operations leave it. -/
structure WellFormed (reg : ServerList) : Prop where
  blocks : (reg.identities.map Prod.fst).Nodup
  allocated : ∀ entry ∈ reg.identities, 0 < entry.1 ∧ entry.1 < reg.nextBlock
  keys : (reg.identities.map fun entry => entry.2.1).Nodup
  ports : ∀ entry ∈ reg.identities, entry.2.1.2 ≠ 0
  games : ∀ entry ∈ reg.identities, Supported entry.2.2
  counted : reg.numservers.toNat = reg.identities.length
  fresh : 0 < reg.nextBlock

/-- An entry that was there before is still the same entry. -/
structure Keeps (reg reg' : ServerList) : Prop where
  grows : reg.nextBlock ≤ reg'.nextBlock
  same : ∀ entry ∈ reg'.identities, entry.1 < reg.nextBlock → entry ∈ reg.identities

theorem Keeps.refl (reg : ServerList) : Keeps reg reg :=
  ⟨Nat.le_refl _, fun _ member _ => member⟩

theorem Keeps.trans {first second third : ServerList} (left : Keeps first second)
    (right : Keeps second third) : Keeps first third where
  grows := Nat.le_trans left.grows right.grows
  same entry member old :=
    left.same entry (right.same entry member (Nat.lt_of_lt_of_le old left.grows)) old

theorem initial_wellFormed : initial.WellFormed where
  blocks := List.nodup_nil
  allocated _ member := nomatch member
  keys := List.nodup_nil
  ports _ member := nomatch member
  games _ member := nomatch member
  counted := rfl
  fresh := Nat.one_pos

theorem mem_identities {reg : ServerList} {block : Nat} {server : Server}
    (member : (block, server) ∈ reg.cells) : (block, server.identity) ∈ reg.identities :=
  List.mem_map.mpr ⟨(block, server), member, rfl⟩

theorem identities_length (reg : ServerList) : reg.identities.length = reg.cells.length :=
  List.length_map ..

/-! ## The number of entries -/

/-- A key as a number below 2^48. -/
def keyNumber (key : ServerKey) : Nat :=
  key.1.a.toNat * 2 ^ 40 + key.1.b.toNat * 2 ^ 32 + key.1.c.toNat * 2 ^ 24 +
    key.1.d.toNat * 2 ^ 16 + key.2.toNat

theorem keyNumber_lt (key : ServerKey) : keyNumber key < 2 ^ 48 := by
  have a := key.1.a.toNat_lt
  have b := key.1.b.toNat_lt
  have c := key.1.c.toNat_lt
  have d := key.1.d.toNat_lt
  have port := key.2.toNat_lt
  unfold keyNumber
  omega

theorem keyNumber_injective : Function.Injective keyNumber := by
  rintro ⟨⟨a, b, c, d⟩, port⟩ ⟨⟨a', b', c', d'⟩, port'⟩ same
  have b_lt := b.toNat_lt
  have b_lt' := b'.toNat_lt
  have c_lt := c.toNat_lt
  have c_lt' := c'.toNat_lt
  have d_lt := d.toNat_lt
  have d_lt' := d'.toNat_lt
  have port_lt := port.toNat_lt
  have port_lt' := port'.toNat_lt
  simp only [keyNumber] at same
  obtain rfl : a = a' := UInt8.toNat_inj.mp (by omega)
  obtain rfl : b = b' := UInt8.toNat_inj.mp (by omega)
  obtain rfl : c = c' := UInt8.toNat_inj.mp (by omega)
  obtain rfl : d = d' := UInt8.toNat_inj.mp (by omega)
  obtain rfl : port = port' := UInt16.toNat_inj.mp (by omega)
  rfl

/-- Distinct keys are at most 2^48. -/
theorem WellFormed.length_le {reg : ServerList} (sound : reg.WellFormed) :
    reg.cells.length ≤ 2 ^ 48 := by
  have distinct := sound.keys.map keyNumber_injective
  have bounded : ((reg.identities.map fun entry => entry.2.1).map keyNumber).toFinset ⊆
      Finset.range (2 ^ 48) := by
    intro number member
    obtain ⟨key, -, rfl⟩ := List.mem_map.mp (List.mem_toFinset.mp member)
    exact Finset.mem_range.mpr (keyNumber_lt key)
  have counted := Finset.card_le_card bounded
  rw [List.toFinset_card_of_nodup distinct, Finset.card_range, List.length_map, List.length_map,
    identities_length] at counted
  exact counted

/-! ## The primitives -/

theorem find_some {reg : ServerList} {test : Server → Bool} {cell : Nat × Server}
    (found : reg.find test = some cell) : cell ∈ reg.cells ∧ test cell.2 = true := by
  have passes := List.find?_some found
  exact ⟨List.mem_of_find?_eq_some found, passes⟩

theorem find_none {reg : ServerList} {test : Server → Bool} (found : reg.find test = none)
    {cell : Nat × Server} (member : cell ∈ reg.cells) : test cell.2 = false := by
  simpa using List.find?_eq_none.mp found cell member

theorem WellFormed.cell_blocks {reg : ServerList} (sound : reg.WellFormed) :
    (reg.cells.map Prod.fst).Nodup := by
  simpa only [identities, List.map_map, Function.comp_def] using sound.blocks

theorem WellFormed.cell_keys {reg : ServerList} (sound : reg.WellFormed) :
    (reg.cells.map fun cell => cell.2.key).Nodup := by
  simpa only [identities, List.map_map, Function.comp_def, Server.identity] using sound.keys

/-- Two cells of one block are one cell. -/
theorem WellFormed.cell_inj {reg : ServerList} (sound : reg.WellFormed) {block : Nat}
    {server server' : Server} (member : (block, server) ∈ reg.cells)
    (member' : (block, server') ∈ reg.cells) : server = server' := by
  have same := List.inj_on_of_nodup_map sound.cell_blocks member member' rfl
  exact congrArg Prod.snd same

/-- Two cells of one key are one cell. -/
theorem WellFormed.key_inj {reg : ServerList} (sound : reg.WellFormed) {cell cell' : Nat × Server}
    (member : cell ∈ reg.cells) (member' : cell' ∈ reg.cells) (same : cell.2.key = cell'.2.key) :
    cell = cell' :=
  List.inj_on_of_nodup_map sound.cell_keys member member' same

/-- The entry of a block is the same entry in a later registry. -/
theorem Keeps.identity {reg reg' : ServerList} (keeps : Keeps reg reg') (sound : reg.WellFormed)
    {block : Nat} {server server' : Server} (member : (block, server) ∈ reg.cells)
    (member' : (block, server') ∈ reg'.cells) : server'.identity = server.identity := by
  have here := mem_identities member
  have old := keeps.same _ (mem_identities member') (sound.allocated _ here).2
  obtain ⟨⟨_, other⟩, inside, same⟩ := List.mem_map.mp old
  obtain ⟨rfl, identity⟩ := Prod.mk.inj same
  rw [← identity, sound.cell_inj inside member]

theorem identities_set {reg : ServerList} (sound : reg.WellFormed) {block : Nat}
    {server server' : Server} (member : (block, server) ∈ reg.cells)
    (same : server'.identity = server.identity) :
    (reg.set block server').identities = reg.identities := by
  simp only [identities, set, List.map_map]
  refine List.map_congr_left fun cell inside => ?_
  rw [Function.comp_apply]
  split
  · rename_i here
    obtain ⟨held, value⟩ := cell
    obtain rfl : held = block := here
    rw [sound.cell_inj inside member, same]
  · rfl

theorem WellFormed.set {reg : ServerList} (sound : reg.WellFormed) (server' : Server) {block : Nat}
    {server : Server} (member : (block, server) ∈ reg.cells)
    (same : server'.identity = server.identity) :
    (reg.set block server').WellFormed ∧ Keeps reg (reg.set block server') := by
  have unchanged := identities_set sound member same
  exact ⟨⟨unchanged ▸ sound.blocks, unchanged ▸ sound.allocated, unchanged ▸ sound.keys,
    unchanged ▸ sound.ports, unchanged ▸ sound.games, unchanged ▸ sound.counted, sound.fresh⟩,
    ⟨Nat.le_refl _, fun _ inside _ => unchanged ▸ inside⟩⟩

/-- A registry whose identities are some of those of another, rightly counted. -/
theorem WellFormed.sublist {reg reg' : ServerList} (sound : reg.WellFormed)
    (fewer : reg'.identities.Sublist reg.identities) (blocks : reg'.nextBlock = reg.nextBlock)
    (counted : reg'.numservers.toNat = reg'.identities.length) :
    reg'.WellFormed ∧ Keeps reg reg' where
  left :=
    { blocks := sound.blocks.sublist (fewer.map _)
      allocated := fun entry member => blocks ▸ sound.allocated entry (fewer.subset member)
      keys := sound.keys.sublist (fewer.map _)
      ports := fun entry member => sound.ports entry (fewer.subset member)
      games := fun entry member => sound.games entry (fewer.subset member)
      counted := counted
      fresh := blocks ▸ sound.fresh }
  right := ⟨Nat.le_of_eq blocks.symm, fun _ member _ => fewer.subset member⟩

theorem WellFormed.send {reg : ServerList} (sound : reg.WellFormed) (datagrams : List Datagram) :
    (reg.send datagrams).WellFormed ∧ Keeps reg (reg.send datagrams) :=
  ⟨⟨sound.blocks, sound.allocated, sound.keys, sound.ports, sound.games, sound.counted,
      sound.fresh⟩,
    ⟨Nat.le_refl _, fun _ member _ => member⟩⟩

/-- Dropping one block leaves one identity less. -/
theorem drop_length {cells : List (Nat × Server)} (distinct : (cells.map Prod.fst).Nodup)
    {cell : Nat × Server} (member : cell ∈ cells) :
    (cells.filter fun other => other.1 ≠ cell.1).length + 1 = cells.length := by
  induction cells with
  | nil => cases member
  | cons head rest ih =>
      rw [List.map_cons, List.nodup_cons] at distinct
      rcases List.mem_cons.mp member with rfl | later
      · have others : (rest.filter fun other => other.1 ≠ cell.1) = rest := by
          refine List.filter_eq_self.mpr fun other inside => ?_
          have apart : other.1 ≠ cell.1 := fun same =>
            distinct.1 (same ▸ List.mem_map_of_mem inside)
          simpa using apart
        rw [List.filter_cons_of_neg (by simp), others, List.length_cons]
      · have apart : head.1 ≠ cell.1 := fun same =>
          distinct.1 (same ▸ List.mem_map_of_mem later)
        rw [List.filter_cons_of_pos (by simpa using apart), List.length_cons, ih distinct.2 later,
          List.length_cons]

theorem dropCount_toNat {numservers : UInt64} {count : Nat}
    (counted : numservers.toNat = count + 1) :
    (dropCount numservers).toNat = count := by
  unfold dropCount
  have positive : numservers ≠ 0 := by
    rintro rfl
    cases counted
  rw [if_pos positive, UInt64.toNat_sub_of_le _ _ (by
    rw [UInt64.le_iff_toNat_le, counted]
    exact Nat.le_add_left 1 count), counted]
  rfl

theorem WellFormed.drop {reg : ServerList} (sound : reg.WellFormed) {cell : Nat × Server}
    (member : cell ∈ reg.cells) :
    (reg.drop cell.1).WellFormed ∧ Keeps reg (reg.drop cell.1) := by
  refine sound.sublist (List.filter_sublist.map _) rfl (dropCount_toNat ?_)
  rw [sound.counted, identities_length, identities_length]
  exact (drop_length sound.cell_blocks member).symm

theorem identities_append (reg : ServerList) (server : Server) :
    (reg.append server).identities = reg.identities ++ [(reg.nextBlock, server.identity)] := by
  rw [identities, ServerList.append, List.map_append]
  rfl

/-- What holds of the old entries and of the new one holds of all. -/
theorem forall_identities_append {reg : ServerList} {server : Server}
    {P : Nat × ServerKey × CString → Prop} (old : ∀ entry ∈ reg.identities, P entry)
    (new : P (reg.nextBlock, server.identity)) :
    ∀ entry ∈ (reg.append server).identities, P entry := by
  rw [identities_append]
  exact List.forall_mem_append.mpr ⟨old, List.forall_mem_singleton.mpr new⟩

theorem WellFormed.append {reg : ServerList} (sound : reg.WellFormed) (server : Server)
    (unregistered : ∀ cell ∈ reg.cells, cell.2.key ≠ server.key) (port : server.port ≠ 0)
    (game : Supported server.gamename) :
    (reg.append server).WellFormed ∧ Keeps reg (reg.append server) := by
  have small := sound.length_le
  constructor
  · refine
      { blocks := ?_, allocated := ?_, keys := ?_, ports := ?_, games := ?_, counted := ?_
        fresh := Nat.succ_pos _ }
    · rw [identities_append, List.map_append, List.nodup_append]
      refine ⟨sound.blocks, List.nodup_singleton _, ?_⟩
      rintro block member _ only rfl
      obtain ⟨entry, inside, rfl⟩ := List.mem_map.mp member
      obtain same := List.mem_singleton.mp only
      exact Nat.ne_of_lt (sound.allocated entry inside).2 same
    · apply forall_identities_append
      · intro entry old
        exact ⟨(sound.allocated entry old).1, Nat.lt_succ_of_lt (sound.allocated entry old).2⟩
      · exact ⟨sound.fresh, Nat.lt_succ_self _⟩
    · rw [identities_append, List.map_append, List.nodup_append]
      refine ⟨sound.keys, List.nodup_singleton _, ?_⟩
      rintro key member _ only rfl
      obtain ⟨entry, inside, rfl⟩ := List.mem_map.mp member
      obtain ⟨cell, held, rfl⟩ := List.mem_map.mp inside
      exact unregistered cell held (List.mem_singleton.mp only)
    · exact forall_identities_append sound.ports port
    · exact forall_identities_append sound.games game
    · have counted := sound.counted
      rw [identities_length] at counted
      rw [identities_append, List.length_append, identities_length, ServerList.append,
        UInt64.toNat_add, counted]
      exact Nat.mod_eq_of_lt (by
        change reg.cells.length + 1 < 2 ^ 64
        omega)
  · refine ⟨Nat.le_succ _, ?_⟩
    apply forall_identities_append
    · exact fun entry inside _ => inside
    · exact fun old => absurd old (Nat.lt_irrefl _)

end ServerList

open ServerList

/-! ## The operations -/

theorem accepted_some {call : AddCall} {gamename : CString}
    (accepted : call.accepted = some gamename) :
    call.queryPort ≠ 0 ∧ Supported gamename := by
  unfold AddCall.accepted at accepted
  split at accepted
  · cases accepted
  · split at accepted
    · cases accepted
    · split at accepted
      · cases accepted
      · split at accepted
        · cases accepted
        · rename_i port unsupported
          cases accepted
          exact ⟨port, unsupported⟩

/-- A call matches the entry of its own key. -/
theorem found_iff {call : AddCall} {server : Server} :
    call.found server = true ↔ server.key = call.key := by
  simp only [AddCall.found, Bool.and_eq_true, beq_iff_eq, htons_inj, Server.key, AddCall.key,
    Prod.mk.injEq]
  exact and_congr eq_comm eq_comm

theorem sentBy_iff {sender : SockaddrIn} {server : Server} :
    sentBy sender server = true ↔ server.key = (sender.sinAddr, sender.sinPort) := by
  simp only [sentBy, Bool.and_eq_true, beq_iff_eq, Server.key, Prod.mk.injEq]
  exact and_congr eq_comm eq_comm

theorem request_found_iff {request : HeartBeatRequest} {sender : SockaddrIn} {server : Server} :
    request.found sender server = true ↔
      server.key = (sender.sinAddr, htons request.queryPort) := by
  simp only [HeartBeatRequest.found, Bool.and_eq_true, beq_iff_eq, Server.key, Prod.mk.injEq]
  constructor
  · rintro ⟨addr, port⟩
    exact ⟨addr.symm, by rw [port, htons_htons]⟩
  · rintro ⟨addr, port⟩
    exact ⟨addr.symm, by rw [port, htons_htons]⟩

theorem newServer_key (cfg : Config) (env : Env) (call : AddCall) (gamename : CString) :
    (newServer cfg env call gamename).key = call.key :=
  rfl

/-- A supported name is stored whole. -/
theorem newServer_gamename (cfg : Config) (env : Env) (call : AddCall) {gamename : CString}
    (game : Supported gamename) : (newServer cfg env call gamename).gamename = gamename := by
  have short := game.length_lt
  change strlcpy [] gamename maxGamenameLen = gamename
  rw [strlcpy, if_neg (by decide), List.take_of_length_le (by omega)]

theorem legacyReply_stores (dataPacket : List UInt8) (dglen : UInt64) (server : Server) :
    ∃ serverInfo nqData, legacyReply dataPacket dglen server =
      { server with serverInfo := serverInfo, nqData := nqData } := by
  unfold legacyReply
  split
  · split
    · exact ⟨_, server.nqData, rfl⟩
    · split
      · exact ⟨server.serverInfo, _, rfl⟩
      · split
        · exact ⟨server.serverInfo, _, rfl⟩
        · exact ⟨server.serverInfo, server.nqData, rfl⟩
  · exact ⟨server.serverInfo, server.nqData, rfl⟩

/-- `Ack` writes these fields and no others. -/
theorem ackServer_stores (cfg : Config) (env : Env) (dataPacket : List UInt8) (dglen : UInt64)
    (server : Server) :
    ∃ serverInfo nqData, ackServer cfg env dataPacket dglen server =
      { server with
        serverInfo := serverInfo
        nqData := nqData
        lastHeartbeat := env.time 0
        validated := ackVerdict cfg server dataPacket
        queuedPings := 0
        shutdownIssued := false
        heartbeats := server.heartbeats + 1 } := by
  obtain ⟨serverInfo, nqData, stored⟩ := legacyReply_stores dataPacket dglen server
  unfold ackServer
  by_cases legacy : isLegacy server.gamename = true
  · exact ⟨serverInfo, nqData, by simp only [if_pos legacy, stored]⟩
  · exact ⟨_, server.nqData, by simp only [if_neg legacy]; rfl⟩

theorem ackServer_identity (cfg : Config) (env : Env) (dataPacket : List UInt8) (dglen : UInt64)
    (server : Server) : (ackServer cfg env dataPacket dglen server).identity = server.identity := by
  obtain ⟨serverInfo, nqData, stored⟩ := ackServer_stores cfg env dataPacket dglen server
  rw [stored]
  rfl

theorem heartBeatServer_identity (env : Env) {request : HeartBeatRequest} {sender : SockaddrIn}
    {server : Server} (found : request.found sender server = true) :
    (heartBeatServer env request server).identity = server.identity := by
  have port := congrArg Prod.snd (request_found_iff.mp found)
  exact congrArg (fun port => ((server.ip.sinAddr, port), server.gamename)) port.symm

/-- An entry that a visit keeps is as it was, or counts the ping and has a new challenge. -/
theorem runFrameVisit_kept {cfg : Config} {env : Env} {state : FrameState} {server kept : Server}
    (visited : (runFrameVisit cfg env state server).1 = some kept) :
    kept = server ∨ ∃ lastPing rand, kept =
      { server with
        queuedPings := server.queuedPings + 1
        lastPing := lastPing
        challengeKey := gameSpyCreateChallengeKey rand 6 } := by
  rcases runFrameVisit_cases cfg env state server with
    ⟨-, dropped⟩ | ⟨-, pinged⟩ | ⟨-, -, same⟩
  · rw [dropped] at visited
    cases visited
  · rw [pinged] at visited
    exact Or.inr ⟨_, _, (Option.some.inj visited).symm⟩
  · rw [same] at visited
    exact Or.inl (Option.some.inj visited).symm

theorem runFrameVisit_identity (cfg : Config) (env : Env) (state : FrameState)
    (server kept : Server) (visited : (runFrameVisit cfg env state server).1 = some kept) :
    kept.identity = server.identity := by
  rcases runFrameVisit_kept visited with rfl | ⟨lastPing, rand, rfl⟩
  · rfl
  · rfl

/-- A pass counts the entries it drops. -/
theorem runFrame_counted (cfg : Config) (env : Env) (state : FrameState) (rest : Nat)
    (cells : List (Nat × Server)) (counted : state.numservers.toNat = cells.length + rest) :
    (sweepCells (runFrameVisit cfg env) state cells).2.numservers.toNat =
      (sweepCells (runFrameVisit cfg env) state cells).1.length + rest := by
  induction cells generalizing state rest with
  | nil => exact counted
  | cons cell cells ih =>
      have visit : ((runFrameVisit cfg env state cell.2).1 = none ∧
            (runFrameVisit cfg env state cell.2).2.numservers = dropCount state.numservers) ∨
          (∃ kept, (runFrameVisit cfg env state cell.2).1 = some kept) ∧
            (runFrameVisit cfg env state cell.2).2.numservers = state.numservers := by
        rcases runFrameVisit_cases cfg env state cell.2 with
          ⟨-, dropped⟩ | ⟨-, pinged⟩ | ⟨-, -, same⟩
        · rw [dropped]
          exact Or.inl ⟨rfl, rfl⟩
        · rw [pinged]
          exact Or.inr ⟨⟨_, rfl⟩, rfl⟩
        · rw [same]
          exact Or.inr ⟨⟨_, rfl⟩, rfl⟩
      rw [List.length_cons] at counted
      rcases visit with ⟨dropped, counter⟩ | ⟨⟨kept, same⟩, counter⟩
      · have fewer :
            (runFrameVisit cfg env state cell.2).2.numservers.toNat = cells.length + rest := by
          rw [counter]
          exact dropCount_toNat (by omega)
        simpa only [sweepCells, dropped] using ih _ rest fewer
      · have equal : (runFrameVisit cfg env state cell.2).2.numservers.toNat =
            cells.length + (rest + 1) := by
          rw [counter, counted]
          omega
        have counted' := ih _ (rest + 1) equal
        simp only [sweepCells, same, List.length_cons, counted']
        omega

theorem appendServer_sound (cfg : Config) (env : Env) {call : AddCall} {gamename : CString}
    {reg : ServerList} (sound : reg.WellFormed) (accepted : call.accepted = some gamename)
    (unregistered : ∀ cell ∈ reg.cells, cell.2.key ≠ call.key) :
    (appendServer cfg env call gamename reg).WellFormed ∧
      Keeps reg (appendServer cfg env call gamename reg) := by
  obtain ⟨port, game⟩ := accepted_some accepted
  have appended := sound.append (newServer cfg env call gamename) unregistered port
    (by rw [newServer_gamename cfg env call game]; exact game)
  have sent := appended.1.send (newServerSends cfg call gamename (newServer cfg env call gamename))
  exact ⟨sent.1, appended.2.trans sent.2⟩

theorem addServer_sound {reg : ServerList} (sound : reg.WellFormed) (cfg : Config) (env : Env)
    (call : AddCall) :
    (addServer cfg env call reg).WellFormed ∧ Keeps reg (addServer cfg env call reg) := by
  rcases addServer_cases cfg env call reg with
    same | ⟨gamename, accepted, found, added⟩ |
      ⟨gamename, block, server, accepted, found, waiting, added⟩
  · rw [same]
    exact ⟨sound, Keeps.refl reg⟩
  · rw [added]
    refine appendServer_sound cfg env sound accepted fun cell member same => ?_
    have passes := found_iff.mpr same
    rw [find_none found member] at passes
    cases passes
  · rw [added]
    obtain ⟨member, passes⟩ := find_some found
    have dropped := sound.drop member
    have unregistered : ∀ cell ∈ (reg.drop block).cells, cell.2.key ≠ call.key := by
      intro other remains same
      obtain ⟨inside, apart⟩ := List.mem_filter.mp remains
      have equal := sound.key_inj inside member (same.trans (found_iff.mp passes).symm)
      rw [equal] at apart
      simp at apart
    have appended := appendServer_sound cfg env dropped.1 accepted unregistered
    exact ⟨appended.1, dropped.2.trans appended.2⟩

theorem queueShutdown_sound {reg : ServerList} (sound : reg.WellFormed) (env : Env)
    (sender : SockaddrIn) :
    (queueShutdown env sender reg).WellFormed ∧ Keeps reg (queueShutdown env sender reg) := by
  unfold queueShutdown
  cases found : reg.find (sentBy sender) with
  | none => exact ⟨sound, Keeps.refl reg⟩
  | some cell =>
      have written := sound.set (shutdownServer env cell.2) (find_some found).1 rfl
      have sent := written.1.send [statusSend (shutdownServer env cell.2)]
      exact ⟨sent.1, written.2.trans sent.2⟩

theorem runFrame_sound {reg : ServerList} (sound : reg.WellFormed) (cfg : Config) (env : Env) :
    (runFrame cfg env reg).WellFormed ∧ Keeps reg (runFrame cfg env reg) := by
  refine sound.sublist (sweepCells_sublist (runFrameVisit_identity cfg env) _ _) rfl ?_
  have counted := runFrame_counted cfg env ⟨reg.numservers, [], 0⟩ 0 reg.cells
    (by rw [sound.counted, identities_length, Nat.add_zero])
  rw [identities_length]
  exact counted

theorem ack_sound {reg : ServerList} (sound : reg.WellFormed) (cfg : Config) (env : Env)
    (sender : SockaddrIn) (dataPacket : List UInt8) (dglen : UInt64) :
    (ack cfg env sender dataPacket dglen reg).WellFormed ∧
      Keeps reg (ack cfg env sender dataPacket dglen reg) := by
  unfold ack
  cases found : reg.find (sentBy sender) with
  | none => exact ⟨sound, Keeps.refl reg⟩
  | some cell =>
      exact sound.set _ (find_some found).1 (ackServer_identity cfg env dataPacket dglen cell.2)

theorem heartBeat_sound {reg : ServerList} (sound : reg.WellFormed) (cfg : Config) (env : Env)
    (sender : SockaddrIn) (data : List UInt8) :
    (heartBeat cfg env sender data reg).WellFormed ∧
      Keeps reg (heartBeat cfg env sender data reg) := by
  unfold heartBeat
  cases parseHeartBeat data with
  | none => exact ⟨sound, Keeps.refl reg⟩
  | some request =>
      cases found : reg.find (request.found sender) with
      | none =>
          simp only [found]
          exact addServer_sound sound cfg env (request.addCall sender)
      | some cell =>
          obtain ⟨block, server⟩ := cell
          obtain ⟨member, passes⟩ := find_some found
          have written := sound.set (heartBeatServer env request server) member
            (heartBeatServer_identity env passes)
          have sent := written.1.send (heartBeatSends cfg (heartBeatServer env request server))
          simp only [found]
          split
          · have queued := queueShutdown_sound sent.1 (env.drawn 6)
              ⟨(heartBeatServer env request server).ip.sinAddr,
                (heartBeatServer env request server).port⟩
            exact ⟨queued.1, (written.2.trans sent.2).trans queued.2⟩
          · exact ⟨sent.1, written.2.trans sent.2⟩

theorem addServers_sound {reg : ServerList} (sound : reg.WellFormed) (cfg : Config)
    (calls : List (Env × AddCall)) :
    (addServers cfg calls reg).WellFormed ∧ Keeps reg (addServers cfg calls reg) := by
  induction calls generalizing reg with
  | nil => exact ⟨sound, Keeps.refl reg⟩
  | cons call calls ih =>
      have added := addServer_sound sound cfg call.1 call.2
      have rest := ih added.1
      exact ⟨rest.1, added.2.trans rest.2⟩

/-- Every operation keeps the invariant and the entries it finds. -/
theorem exec_sound {cfg : Config} {env : Nat → Env} {op : Operation} {reg reg' : ServerList}
    (sound : reg.WellFormed) (done : exec cfg env op reg = some reg') :
    reg'.WellFormed ∧ Keeps reg reg' := by
  cases op with
  | addServer call => cases done; exact addServer_sound sound cfg (env 0) call
  | queueShutdown sender => cases done; exact queueShutdown_sound sound (env 0) sender
  | runFrame => cases done; exact runFrame_sound sound cfg (env 0)
  | ack sender dataPacket dglen =>
      cases done
      exact ack_sound sound cfg (env 0) sender dataPacket dglen
  | heartBeat sender data => cases done; exact heartBeat_sound sound cfg (env 0) sender data
  | parseUDPMSList tmp gamename size => cases done; exact addServers_sound sound cfg _
  | addServersFromListExecute fileBuffer gamename => cases done; exact addServers_sound sound cfg _
  | readMasterDBBlob file stale =>
      obtain ⟨calls, -, rfl⟩ := Option.map_eq_some_iff.mp done
      exact addServers_sound sound cfg calls

/-- A run keeps the registry well formed and its entries what they are. -/
theorem run_sound {cfg : Config} {reg reg' : ServerList} (sound : reg.WellFormed)
    (run : Relation.ReflTransGen (ServerList.Step cfg) reg reg') :
    reg'.WellFormed ∧ Keeps reg reg' := by
  induction run with
  | refl => exact ⟨sound, Keeps.refl reg⟩
  | tail _ step ih =>
      obtain ⟨env, op, done⟩ := step
      obtain ⟨sound', keeps⟩ := exec_sound ih.1 done
      exact ⟨sound', ih.2.trans keeps⟩

theorem ServerList.Reachable.wellFormed {cfg : Config} {reg : ServerList}
    (reached : reg.Reachable cfg) : reg.WellFormed :=
  (run_sound initial_wellFormed reached).1

end GSMaster.Registry
