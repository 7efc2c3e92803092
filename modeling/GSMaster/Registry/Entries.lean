import GSMaster.Registry.Invariant

/-!
# What an operation does to one entry

Seen from a single entry, an operation keeps it, rewrites it in one way or
removes it, and whatever else there is afterwards has just been made by a call
of `AddServer`. Properties of single entries follow from this alone.
-/

namespace GSMaster.Registry

open GSMaster.Text GSMaster.Net GSMaster.Games GSMaster.Library ServerList

/-! ## The entry afterwards -/

/-- The entry of a heartbeat, which may announce a shutdown as well. -/
def HeartBeatRequest.written (request : HeartBeatRequest) (env : Env) (server : Server) : Server :=
  if request.statechanged then shutdownServer (env.drawn 6) (heartBeatServer env request server)
  else heartBeatServer env request server

def heartBeatWritten (env : Env) (sender : SockaddrIn) (data : List UInt8) (server : Server) :
    Server :=
  match parseHeartBeat data with
  | none => server
  | some request => if request.found sender server then request.written env server else server

/-- What an operation other than a pass of `RunFrame` makes of an entry that it keeps. -/
def Operation.written (cfg : Config) (env : Nat → Env) : Operation → Server → Server
  | .queueShutdown sender, server =>
      if sentBy sender server then shutdownServer (env 0) server else server
  | .ack sender dataPacket dglen, server =>
      if sentBy sender server then ackServer cfg (env 0) dataPacket dglen server else server
  | .heartBeat sender data, server => heartBeatWritten (env 0) sender data server
  | _, server => server

/-- What an operation may make of an entry that it keeps. -/
def Operation.Writes (cfg : Config) (env : Nat → Env) (op : Operation) (server server' : Server) :
    Prop :=
  match op with
  | .runFrame => ∃ state, (runFrameVisit cfg (env 0) state server).1 = some server'
  | op => server' = op.written cfg env server

/-- The calls of `AddServer` that a heartbeat leads to when its server is unknown. -/
def heartBeatCalls (env : Env) (sender : SockaddrIn) (data : List UInt8) : List (Env × AddCall) :=
  ((parseHeartBeat data).map fun request => (env, request.addCall sender)).toList

/-- The calls of `AddServer` that an operation can lead to. -/
def Operation.calls (env : Nat → Env) : Operation → List (Env × AddCall)
  | .addServer call => [(env 0, call)]
  | .heartBeat sender data => heartBeatCalls (env 0) sender data
  | .parseUDPMSList tmp gamename size => Registry.parseUDPMSList env tmp gamename size
  | .addServersFromListExecute fileBuffer gamename =>
      (Registry.addServersFromListExecute (env 0) fileBuffer gamename).toList
  | .readMasterDBBlob file stale => (Registry.readMasterDBBlob env file stale).getD []
  | _ => []

/-- The entry that one of some calls makes. -/
def Made (cfg : Config) (calls : List (Env × AddCall)) (server : Server) : Prop :=
  ∃ call ∈ calls, ∃ gamename, call.2.accepted = some gamename ∧
    server = newServer cfg call.1 call.2 gamename

/-- One of some calls replaces an entry that waits for its shutdown. -/
def Replaced (calls : List (Env × AddCall)) (server : Server) : Prop :=
  server.shutdownIssued = true ∧
    ∃ call ∈ calls, call.2.accepted ≠ none ∧ call.2.key = server.key

namespace ServerList

/-- The entries of a later registry come from the earlier one, or are new and made by a call. -/
def Comes (cfg : Config) (calls : List (Env × AddCall)) (writes : Server → Server → Prop)
    (reg reg' : ServerList) : Prop :=
  ∀ cell ∈ reg'.cells,
    (∃ server, (cell.1, server) ∈ reg.cells ∧ writes server cell.2) ∨
      reg.nextBlock ≤ cell.1 ∧ Made cfg calls cell.2

/-- The entry of a block is still there. -/
def Holds (reg : ServerList) (block : Nat) : Prop :=
  ∃ server, (block, server) ∈ reg.cells

end ServerList

/-! ## The entries of one key -/

/-- Changing the entry that passes a test for one key changes every entry that passes. -/
theorem set_cells {reg : ServerList} (sound : reg.WellFormed) {test : Server → Bool} {block : Nat}
    {server : Server} (found : reg.find test = some (block, server))
    (one : ∀ other, test other = true → other.key = server.key) (change : Server → Server) :
    (reg.set block (change server)).cells =
      reg.cells.map fun cell => (cell.1, if test cell.2 then change cell.2 else cell.2) := by
  obtain ⟨member, passes⟩ := find_some found
  refine List.map_congr_left fun cell inside => ?_
  by_cases here : test cell.2 = true
  · obtain rfl := sound.key_inj inside member (one cell.2 here)
    rw [if_pos rfl, if_pos here]
  · rw [if_neg here, if_neg]
    intro same
    obtain ⟨held, value⟩ := cell
    obtain rfl : held = block := same
    exact here (sound.cell_inj member inside ▸ passes)

/-- Where no entry passes a test, changing those that pass changes nothing. -/
theorem unset_cells {reg : ServerList} {test : Server → Bool} (missing : reg.find test = none)
    (change : Server → Server) :
    (reg.cells.map fun cell => (cell.1, if test cell.2 then change cell.2 else cell.2)) =
      reg.cells := by
  refine (List.map_congr_left fun cell inside => ?_).trans (List.map_id _)
  rw [find_none missing inside, if_neg Bool.false_ne_true]
  rfl

theorem queueShutdown_cells {reg : ServerList} (sound : reg.WellFormed) (env : Env)
    (sender : SockaddrIn) :
    (queueShutdown env sender reg).cells = reg.cells.map fun cell =>
      (cell.1, if sentBy sender cell.2 then shutdownServer env cell.2 else cell.2) := by
  unfold queueShutdown
  cases found : reg.find (sentBy sender) with
  | none => exact (unset_cells found _).symm
  | some cell =>
      have key := sentBy_iff.mp (find_some found).2
      exact set_cells sound found (fun other passes => (sentBy_iff.mp passes).trans key.symm)
        (shutdownServer env)

theorem ack_cells {reg : ServerList} (sound : reg.WellFormed) (cfg : Config) (env : Env)
    (sender : SockaddrIn) (dataPacket : List UInt8) (dglen : UInt64) :
    (ack cfg env sender dataPacket dglen reg).cells = reg.cells.map fun cell =>
      (cell.1, if sentBy sender cell.2 then ackServer cfg env dataPacket dglen cell.2
        else cell.2) := by
  unfold ack
  cases found : reg.find (sentBy sender) with
  | none => exact (unset_cells found _).symm
  | some cell =>
      have key := sentBy_iff.mp (find_some found).2
      exact set_cells sound found (fun other passes => (sentBy_iff.mp passes).trans key.symm)
        (ackServer cfg env dataPacket dglen)

/-- A heartbeat of an unknown server leaves the entries to `AddServer`. -/
theorem heartBeat_unknown {cfg : Config} {env : Env} {sender : SockaddrIn} {data : List UInt8}
    {reg : ServerList} {request : HeartBeatRequest} (parsed : parseHeartBeat data = some request)
    (missing : reg.find (request.found sender) = none) :
    heartBeat cfg env sender data reg = addServer cfg env (request.addCall sender) reg := by
  unfold heartBeat
  simp only [parsed, missing]

/-- A heartbeat of a known server rewrites its entry and no other. -/
theorem heartBeat_known {cfg : Config} {env : Env} {sender : SockaddrIn} {data : List UInt8}
    {reg : ServerList} (sound : reg.WellFormed) {request : HeartBeatRequest}
    (parsed : parseHeartBeat data = some request) {cell : Nat × Server}
    (found : reg.find (request.found sender) = some cell) :
    (heartBeat cfg env sender data reg).cells = reg.cells.map fun cell =>
      (cell.1, if request.found sender cell.2 then request.written env cell.2 else cell.2) := by
  obtain ⟨block, server⟩ := cell
  obtain ⟨member, passes⟩ := find_some found
  have key := request_found_iff.mp passes
  have one : ∀ other, request.found sender other = true → other.key = server.key :=
    fun other same => (request_found_iff.mp same).trans key.symm
  have identity := heartBeatServer_identity env passes
  have marked := set_cells sound found one (heartBeatServer env request)
  unfold heartBeat HeartBeatRequest.written
  simp only [parsed, found]
  by_cases announced : request.statechanged = true
  · have written := sound.set (heartBeatServer env request server) member identity
    have sent := written.1.send (heartBeatSends cfg (heartBeatServer env request server))
    simp only [if_pos announced]
    rw [queueShutdown_cells sent.1, ServerList.send, marked, List.map_map]
    refine List.map_congr_left fun other inside => ?_
    rw [Function.comp_apply]
    by_cases same : request.found sender other.2 = true
    · have self : sentBy ⟨(heartBeatServer env request server).ip.sinAddr,
          (heartBeatServer env request server).port⟩ (heartBeatServer env request other.2) = true :=
        sentBy_iff.mpr (congrArg (fun addr => (addr, htons request.queryPort))
          (congrArg Prod.fst (one other.2 same)))
      simp only [if_pos same, if_pos self]
    · have apart : sentBy ⟨(heartBeatServer env request server).ip.sinAddr,
          (heartBeatServer env request server).port⟩ other.2 = false := by
        refine Bool.eq_false_iff.mpr fun sent => same (request_found_iff.mpr ?_)
        exact (sentBy_iff.mp sent).trans
          (congrArg (fun addr => (addr, htons request.queryPort)) (congrArg Prod.fst key))
      simp only [if_neg same, apart, Bool.false_eq_true, if_false]
  · simp only [if_neg announced]
    exact marked

/-! ## The entries that `AddServer` makes -/

theorem mem_appendServer {cfg : Config} {env : Env} {call : AddCall} {gamename : CString}
    {reg : ServerList} {cell : Nat × Server} :
    cell ∈ (appendServer cfg env call gamename reg).cells ↔
      cell ∈ reg.cells ∨ cell = (reg.nextBlock, newServer cfg env call gamename) := by
  change cell ∈ reg.cells ++ [(reg.nextBlock, newServer cfg env call gamename)] ↔ _
  rw [List.mem_append, List.mem_singleton]

theorem addServer_comes (cfg : Config) (env : Env) (call : AddCall) (reg : ServerList) :
    ∀ cell ∈ (addServer cfg env call reg).cells,
      cell ∈ reg.cells ∨ reg.nextBlock ≤ cell.1 ∧ Made cfg [(env, call)] cell.2 := by
  intro cell member
  have made {gamename : CString} (accepted : call.accepted = some gamename) :
      Made cfg [(env, call)] (newServer cfg env call gamename) :=
    ⟨(env, call), List.mem_singleton_self _, gamename, accepted, rfl⟩
  rcases addServer_cases cfg env call reg with
    same | ⟨gamename, accepted, -, added⟩ | ⟨gamename, block, server, accepted, -, -, added⟩
  · rw [same] at member
    exact Or.inl member
  · rw [added] at member
    rcases mem_appendServer.mp member with old | rfl
    · exact Or.inl old
    · exact Or.inr ⟨Nat.le_refl _, made accepted⟩
  · rw [added] at member
    rcases mem_appendServer.mp member with old | rfl
    · exact Or.inl (List.mem_filter.mp old).1
    · exact Or.inr ⟨Nat.le_refl _, made accepted⟩

theorem addServer_removes {reg : ServerList} (sound : reg.WellFormed) (cfg : Config) (env : Env)
    (call : AddCall) {cell : Nat × Server} (member : cell ∈ reg.cells) :
    cell ∈ (addServer cfg env call reg).cells ∨ Replaced [(env, call)] cell.2 := by
  rcases addServer_cases cfg env call reg with
    same | ⟨gamename, -, -, added⟩ | ⟨gamename, block, server, accepted, found, waiting, added⟩
  · rw [same]
    exact Or.inl member
  · rw [added]
    exact Or.inl (mem_appendServer.mpr (Or.inl member))
  · obtain ⟨inside, passes⟩ := find_some found
    rw [added]
    by_cases same : cell.1 = block
    · obtain ⟨held, server'⟩ := cell
      obtain rfl : held = block := same
      obtain rfl := sound.cell_inj member inside
      have registers : call.accepted ≠ none := by
        rw [accepted]
        exact Option.some_ne_none _
      exact Or.inr ⟨waiting, (env, call), List.mem_singleton_self _, registers,
        (found_iff.mp passes).symm⟩
    · have kept : cell ∈ (reg.drop block).cells :=
        List.mem_filter.mpr ⟨member, decide_eq_true same⟩
      exact Or.inl (mem_appendServer.mpr (Or.inl kept))

theorem Made.mono {cfg : Config} {calls calls' : List (Env × AddCall)} {server : Server}
    (made : Made cfg calls server) (more : calls ⊆ calls') : Made cfg calls' server := by
  obtain ⟨call, member, rest⟩ := made
  exact ⟨call, more member, rest⟩

theorem Replaced.mono {calls calls' : List (Env × AddCall)} {server : Server}
    (replaced : Replaced calls server) (more : calls ⊆ calls') : Replaced calls' server := by
  obtain ⟨waiting, call, member, rest⟩ := replaced
  exact ⟨waiting, call, more member, rest⟩

theorem addServers_comes (cfg : Config) (calls : List (Env × AddCall)) {reg : ServerList}
    (sound : reg.WellFormed) :
    ∀ cell ∈ (addServers cfg calls reg).cells,
      cell ∈ reg.cells ∨ reg.nextBlock ≤ cell.1 ∧ Made cfg calls cell.2 := by
  induction calls generalizing reg with
  | nil => exact fun cell member => Or.inl member
  | cons call calls ih =>
      intro cell member
      have added := addServer_sound sound cfg call.1 call.2
      rcases ih added.1 cell member with first | ⟨late, made⟩
      · rcases addServer_comes cfg call.1 call.2 reg cell first with old | ⟨new, made⟩
        · exact Or.inl old
        · exact Or.inr ⟨new, made.mono (by simp)⟩
      · exact Or.inr ⟨Nat.le_trans added.2.grows late, made.mono (by simp)⟩

theorem addServers_removes (cfg : Config) (calls : List (Env × AddCall)) {reg : ServerList}
    (sound : reg.WellFormed) {cell : Nat × Server} (member : cell ∈ reg.cells) :
    cell ∈ (addServers cfg calls reg).cells ∨ Replaced calls cell.2 := by
  induction calls generalizing reg with
  | nil => exact Or.inl member
  | cons call calls ih =>
      have added := addServer_sound sound cfg call.1 call.2
      rcases addServer_removes sound cfg call.1 call.2 member with kept | replaced
      · rcases ih added.1 kept with kept | replaced
        · exact Or.inl kept
        · exact Or.inr (replaced.mono (by simp))
      · exact Or.inr (replaced.mono (by simp))

/-! ## The operations -/

/-- Where every entry is rewritten in its place, none is new. -/
theorem comes_map {cfg : Config} {calls : List (Env × AddCall)} {change : Server → Server}
    {reg reg' : ServerList}
    (same : reg'.cells = reg.cells.map fun cell => (cell.1, change cell.2)) :
    Comes cfg calls (fun server server' => server' = change server) reg reg' := by
  intro cell member
  rw [same] at member
  obtain ⟨held, inside, rfl⟩ := List.mem_map.mp member
  exact Or.inl ⟨held.2, inside, rfl⟩

theorem Comes.kept {cfg : Config} {calls : List (Env × AddCall)} {reg reg' : ServerList}
    (comes : ∀ cell ∈ reg'.cells,
      cell ∈ reg.cells ∨ reg.nextBlock ≤ cell.1 ∧ Made cfg calls cell.2) :
    Comes cfg calls (fun server server' => server' = server) reg reg' :=
  fun cell member => (comes cell member).imp_left fun old => ⟨cell.2, old, rfl⟩

theorem heartBeatWritten_none {env : Env} {sender : SockaddrIn} {data : List UInt8}
    (parsed : parseHeartBeat data = none) (server : Server) :
    heartBeatWritten env sender data server = server := by
  rw [heartBeatWritten, parsed]

theorem heartBeatWritten_some {env : Env} {sender : SockaddrIn} {data : List UInt8}
    {request : HeartBeatRequest} (parsed : parseHeartBeat data = some request) (server : Server) :
    heartBeatWritten env sender data server =
      if request.found sender server then request.written env server else server := by
  rw [heartBeatWritten, parsed]

theorem heartBeat_comes {reg : ServerList} (sound : reg.WellFormed) (cfg : Config) (env : Env)
    (sender : SockaddrIn) (data : List UInt8) :
    Comes cfg (heartBeatCalls env sender data)
      (fun server server' => server' = heartBeatWritten env sender data server) reg
      (heartBeat cfg env sender data reg) := by
  cases parsed : parseHeartBeat data with
  | none =>
      intro cell member
      rw [heartBeat, parsed] at member
      exact Or.inl ⟨cell.2, member, (heartBeatWritten_none parsed cell.2).symm⟩
  | some request =>
      cases found : reg.find (request.found sender) with
      | none =>
          rw [heartBeat_unknown parsed found, heartBeatCalls, parsed]
          intro cell member
          rcases addServer_comes cfg env _ reg cell member with old | new
          · refine Or.inl ⟨cell.2, old, ?_⟩
            change cell.2 = heartBeatWritten env sender data cell.2
            rw [heartBeatWritten_some parsed, find_none found old, if_neg Bool.false_ne_true]
          · exact Or.inr new
      | some held =>
          simp only [heartBeatWritten_some parsed]
          exact comes_map (heartBeat_known sound parsed found)

/-- What there is after an operation was there before, as it writes it, or is made by a call. -/
theorem exec_comes {cfg : Config} {env : Nat → Env} {op : Operation} {reg reg' : ServerList}
    (sound : reg.WellFormed) (done : exec cfg env op reg = some reg') :
    Comes cfg (op.calls env) (op.Writes cfg env) reg reg' := by
  cases op with
  | addServer call => cases done; exact Comes.kept (addServer_comes cfg (env 0) call reg)
  | queueShutdown sender => cases done; exact comes_map (queueShutdown_cells sound (env 0) sender)
  | runFrame =>
      cases done
      intro cell member
      obtain ⟨server, held, visited⟩ := mem_sweepCells member
      exact Or.inl ⟨server, held, visited⟩
  | ack sender dataPacket dglen =>
      cases done
      exact comes_map (ack_cells sound cfg (env 0) sender dataPacket dglen)
  | heartBeat sender data => cases done; exact heartBeat_comes sound cfg (env 0) sender data
  | parseUDPMSList tmp gamename size =>
      cases done
      exact Comes.kept (addServers_comes cfg _ sound)
  | addServersFromListExecute fileBuffer gamename =>
      cases done
      exact Comes.kept (addServers_comes cfg _ sound)
  | readMasterDBBlob file stale =>
      obtain ⟨calls, read, rfl⟩ := Option.map_eq_some_iff.mp done
      rw [Operation.calls, read]
      exact Comes.kept (addServers_comes cfg calls sound)

theorem holds_map {reg reg' : ServerList} {change : Nat × Server → Nat × Server}
    (same : reg'.cells = reg.cells.map change) (block : ∀ cell, (change cell).1 = cell.1)
    {cell : Nat × Server} (member : cell ∈ reg.cells) : reg'.Holds cell.1 := by
  refine ⟨(change cell).2, ?_⟩
  rw [same, ← block cell]
  exact List.mem_map_of_mem member

theorem heartBeat_removes {reg : ServerList} (sound : reg.WellFormed) (cfg : Config) (env : Env)
    (sender : SockaddrIn) (data : List UInt8) {cell : Nat × Server} (member : cell ∈ reg.cells) :
    (heartBeat cfg env sender data reg).Holds cell.1 ∨
      Replaced (heartBeatCalls env sender data) cell.2 := by
  cases parsed : parseHeartBeat data with
  | none => exact Or.inl ⟨cell.2, by rw [heartBeat, parsed]; exact member⟩
  | some request =>
      cases found : reg.find (request.found sender) with
      | none =>
          rw [heartBeat_unknown parsed found, heartBeatCalls, parsed]
          exact (addServer_removes sound cfg env _ member).imp_left fun kept => ⟨cell.2, kept⟩
      | some held =>
          exact Or.inl (holds_map (heartBeat_known sound parsed found) (fun _ => rfl) member)

/-- An entry goes in a pass of `RunFrame`, or a call for its key replaces it. -/
theorem exec_removes {cfg : Config} {env : Nat → Env} {op : Operation} {reg reg' : ServerList}
    (sound : reg.WellFormed) (done : exec cfg env op reg = some reg') {cell : Nat × Server}
    (member : cell ∈ reg.cells) :
    reg'.Holds cell.1 ∨ Replaced (op.calls env) cell.2 ∨
      op = .runFrame ∧ ∃ state, (runFrameVisit cfg (env 0) state cell.2).1 = none := by
  have kept {calls : List (Env × AddCall)} {after : ServerList}
      (left : cell ∈ after.cells ∨ Replaced calls cell.2) :
      after.Holds cell.1 ∨ Replaced calls cell.2 ∨
        op = .runFrame ∧ ∃ state, (runFrameVisit cfg (env 0) state cell.2).1 = none :=
    left.imp (fun held => ⟨cell.2, held⟩) Or.inl
  cases op with
  | addServer call => cases done; exact kept (addServer_removes sound cfg (env 0) call member)
  | queueShutdown sender =>
      cases done
      exact Or.inl (holds_map (queueShutdown_cells sound (env 0) sender) (fun _ => rfl) member)
  | runFrame =>
      cases done
      exact (sweepCells_removes _ member).imp_right fun dropped => Or.inr ⟨rfl, dropped⟩
  | ack sender dataPacket dglen =>
      cases done
      exact Or.inl (holds_map (ack_cells sound cfg (env 0) sender dataPacket dglen)
        (fun _ => rfl) member)
  | heartBeat sender data =>
      cases done
      exact (heartBeat_removes sound cfg (env 0) sender data member).imp_right Or.inl
  | parseUDPMSList tmp gamename size =>
      cases done
      exact kept (addServers_removes cfg _ sound member)
  | addServersFromListExecute fileBuffer gamename =>
      cases done
      exact kept (addServers_removes cfg _ sound member)
  | readMasterDBBlob file stale =>
      obtain ⟨calls, read, rfl⟩ := Option.map_eq_some_iff.mp done
      rw [Operation.calls, read]
      exact kept (addServers_removes cfg calls sound member)

/-! ## Properties of entries -/

/-- A property that each handler keeps is kept by every operation. -/
theorem Operation.Writes.keeps (holds : Server → Prop) {cfg : Config} {env : Nat → Env}
    {op : Operation} {server server' : Server} (writes : op.Writes cfg env server server')
    (shutdown : ∀ env server, holds server → holds (shutdownServer env server))
    (acked : ∀ env dataPacket dglen, holds server →
      holds (ackServer cfg env dataPacket dglen server))
    (heartBeat : ∀ env request sender, HeartBeatRequest.found request sender server = true →
      holds server → holds (heartBeatServer env request server))
    (visited : ∀ env state, (runFrameVisit cfg env state server).1 = some server' →
      holds server → holds server')
    (before : holds server) : holds server' := by
  cases op with
  | queueShutdown sender =>
      obtain rfl : server' = if sentBy sender server then _ else server := writes
      split
      · exact shutdown (env 0) server before
      · exact before
  | runFrame =>
      obtain ⟨state, visit⟩ := writes
      exact visited (env 0) state visit before
  | ack sender dataPacket dglen =>
      obtain rfl : server' = if sentBy sender server then _ else server := writes
      split
      · exact acked (env 0) dataPacket dglen before
      · exact before
  | heartBeat sender data =>
      obtain rfl : server' = heartBeatWritten (env 0) sender data server := writes
      cases parsed : parseHeartBeat data with
      | none => rw [heartBeatWritten_none parsed]; exact before
      | some request =>
          rw [heartBeatWritten_some parsed]
          split
          · rename_i found
            have marked := heartBeat (env 0) request sender found before
            unfold HeartBeatRequest.written
            split
            · exact shutdown _ _ marked
            · exact marked
          · exact before
  | _ => obtain rfl := writes; exact before

/-- What holds of the entries made and is kept in the entries written holds of all of them. -/
theorem exec_forall (holds : Server → Prop) {cfg : Config} {env : Nat → Env} {op : Operation}
    {reg reg' : ServerList} (sound : reg.WellFormed) (done : exec cfg env op reg = some reg')
    (made : ∀ server, Made cfg (op.calls env) server → holds server)
    (kept : ∀ server server', op.Writes cfg env server server' → holds server → holds server')
    (before : ∀ cell ∈ reg.cells, holds cell.2) : ∀ cell ∈ reg'.cells, holds cell.2 := by
  intro cell member
  rcases exec_comes sound done cell member with ⟨server, held, writes⟩ | ⟨-, new⟩
  · exact kept server cell.2 writes (before _ held)
  · exact made cell.2 new

end GSMaster.Registry
