import GSMaster.Registry.Invariant

/-!
# The memory refines the list

Where the blocks of the memory are linked as the list of the abstract registry,
every operation runs without a wild access and leaves them linked as the list
after it.
-/

namespace GSMaster.Registry

open GSMaster.Text GSMaster.Net GSMaster.Games GSMaster.Library

/-- The memory holds the abstract registry, its list in a certain way. -/
structure LayoutIn (P : NodeHeap Server → List (Nat × Server) → Prop) (m : Memory)
    (reg : ServerList) : Prop where
  linked : P m.heap ((0, Server.zero) :: reg.cells)
  nextBlock : m.nextBlock = reg.nextBlock
  numservers : m.numservers = reg.numservers
  sent : m.sent = reg.sent

/-- The memory holds the abstract registry as a linked list. -/
abbrev Layout (m : Memory) (reg : ServerList) : Prop :=
  LayoutIn Linked m reg

/-- Distinct blocks behind the sentinel are fewer than the blocks that have been allocated. -/
theorem blocks_length_lt {cells : List (Nat × Server)} {nextBlock : Nat}
    (distinct : (cells.map Prod.fst).Nodup)
    (allocated : ∀ cell ∈ cells, 0 < cell.1 ∧ cell.1 < nextBlock) (fresh : 0 < nextBlock) :
    cells.length < nextBlock := by
  have bounded : (cells.map Prod.fst).toFinset ⊆ Finset.Ioo 0 nextBlock := by
    intro block member
    obtain ⟨cell, inside, rfl⟩ := List.mem_map.mp (List.mem_toFinset.mp member)
    exact Finset.mem_Ioo.mpr (allocated cell inside)
  have counted := Finset.card_le_card bounded
  rw [List.toFinset_card_of_nodup distinct, Nat.card_Ioo, List.length_map] at counted
  omega

theorem Layout.initial : Layout Memory.initial ServerList.initial where
  linked := ⟨⟨rfl, trivial⟩, List.nodup_singleton _⟩
  nextBlock := rfl
  numservers := rfl
  sent := rfl

namespace LayoutIn

open ServerList

variable {P : NodeHeap Server → List (Nat × Server) → Prop}

theorem send {m : Memory} {reg : ServerList} (layout : LayoutIn P m reg)
    (datagrams : List Datagram) :
    LayoutIn P (m.send datagrams) (reg.send datagrams) :=
  ⟨layout.linked, layout.nextBlock, layout.numservers, congrArg (· ++ datagrams) layout.sent⟩

variable [Holding P]

/-- A walk of as many nodes as there are blocks reaches the end of the list. -/
theorem enough {reg : ServerList} (sound : reg.WellFormed) : reg.cells.length < reg.nextBlock :=
  blocks_length_lt sound.cell_blocks
    (fun _ member => sound.allocated _ (mem_identities member)) sound.fresh

theorem search {m : Memory} {reg : ServerList} (layout : LayoutIn P m reg) (sound : reg.WellFormed)
    (test : Server → Bool) :
    m.search test = match reg.find test with
      | some cell => some (cell.1, some cell.2)
      | none => (lastOr (some 0) reg.cells).map fun last => (last, none) := by
  have fuel : reg.cells.length < m.nextBlock := layout.nextBlock ▸ enough sound
  rw [Memory.search, locate_segment (Holding.linked layout.linked).segment test fuel,
    ServerList.find]
  cases reg.cells.find? fun cell => test cell.2 <;> rfl

theorem search_some {m : Memory} {reg : ServerList} (layout : LayoutIn P m reg)
    (sound : reg.WellFormed) {test : Server → Bool} {block : Nat} {server : Server}
    (found : reg.find test = some (block, server)) : m.search test = some (block, some server) := by
  rw [layout.search sound, found]

/-- A walk that finds nothing ends at the last node of the list. -/
theorem search_none {m : Memory} {reg : ServerList} (layout : LayoutIn P m reg)
    (sound : reg.WellFormed) {test : Server → Bool} (found : reg.find test = none) :
    ∃ last, m.search test = some (last, none) ∧
      lastOr none ((0, Server.zero) :: reg.cells) = some last := by
  have ends : ∀ (cells : List (Nat × Server)) (p : Nat),
      ∃ last, lastOr (some p) cells = some last := by
    intro cells
    induction cells with
    | nil => exact fun p => ⟨p, rfl⟩
    | cons cell cells ih => exact fun _ => ih cell.1
  obtain ⟨last, lastEq⟩ := ends reg.cells 0
  refine ⟨last, ?_, lastEq⟩
  rw [layout.search sound, found, lastEq]
  rfl

theorem entries {m : Memory} {reg : ServerList} (layout : LayoutIn P m reg)
    (sound : reg.WellFormed) :
    m.entries = some reg.cells :=
  collect_segment (Holding.linked layout.linked).segment (layout.nextBlock ▸ enough sound)

/-- Where a block is in the list, the list falls apart around it. -/
theorem split {reg : ServerList} (sound : reg.WellFormed) {block : Nat} {server : Server}
    (member : (block, server) ∈ reg.cells) :
    ∃ before after, reg.cells = before ++ (block, server) :: after ∧
      (∀ cell ∈ before, cell.1 ≠ block) ∧ ∀ cell ∈ after, cell.1 ≠ block := by
  obtain ⟨before, after, cells⟩ := List.append_of_mem member
  have distinct := sound.cell_blocks
  rw [cells, List.map_append, List.map_cons, List.nodup_append, List.nodup_cons] at distinct
  obtain ⟨-, ⟨freshAfter, -⟩, apart⟩ := distinct
  refine ⟨before, after, cells, fun cell inside => ?_, fun cell inside same => ?_⟩
  · exact apart cell.1 (List.mem_map_of_mem inside) block (List.mem_cons_self ..)
  · exact freshAfter (List.mem_map.mpr ⟨cell, inside, same⟩)

theorem set_cells {block : Nat} {server server' : Server} {before after : List (Nat × Server)}
    (left : ∀ cell ∈ before, cell.1 ≠ block) (right : ∀ cell ∈ after, cell.1 ≠ block) :
    (before ++ (block, server) :: after).map
        (fun cell => if cell.1 = block then (block, server') else cell) =
      before ++ (block, server') :: after := by
  have leave : ∀ cells : List (Nat × Server), (∀ cell ∈ cells, cell.1 ≠ block) →
      cells.map (fun cell => if cell.1 = block then (block, server') else cell) = cells := by
    intro cells others
    calc
      _ = cells.map id := List.map_congr_left fun cell member => if_neg (others cell member)
      _ = cells := List.map_id cells
  rw [List.map_append, List.map_cons, if_pos rfl, leave before left, leave after right]

theorem drop_cells {block : Nat} {server : Server} {before after : List (Nat × Server)}
    (left : ∀ cell ∈ before, cell.1 ≠ block) (right : ∀ cell ∈ after, cell.1 ≠ block) :
    (before ++ (block, server) :: after).filter (fun cell => cell.1 ≠ block) = before ++ after := by
  rw [List.filter_append, List.filter_cons_of_neg (by simp),
    List.filter_eq_self.mpr fun cell member => by simpa using left cell member,
    List.filter_eq_self.mpr fun cell member => by simpa using right cell member]

theorem store {m : Memory} {reg : ServerList} (layout : LayoutIn P m reg) (sound : reg.WellFormed)
    (server' : Server) {block : Nat} {server : Server} (member : (block, server) ∈ reg.cells) :
    ∃ m', m.store block server' = some m' ∧ LayoutIn P m' (reg.set block server') := by
  obtain ⟨before, after, cells, left, right⟩ := split sound member
  have linked := layout.linked
  rw [cells, ← List.cons_append] at linked
  obtain ⟨heap, written, linked'⟩ := Holding.setVal linked server'
  refine ⟨{ m with heap := heap }, by rw [Memory.store, written]; rfl,
    ⟨?_, layout.nextBlock, layout.numservers, layout.sent⟩⟩
  simp only [ServerList.set, cells, set_cells left right]
  exact linked'

theorem dropServer {m : Memory} {reg : ServerList} (layout : LayoutIn P m reg)
    (sound : reg.WellFormed) {block : Nat} {server : Server}
    (member : (block, server) ∈ reg.cells) :
    ∃ m', m.dropServer block = some m' ∧ LayoutIn P m' (reg.drop block) := by
  obtain ⟨before, after, cells, left, right⟩ := split sound member
  have linked := layout.linked
  rw [cells, ← List.cons_append] at linked
  obtain ⟨heap, unlinked, linked'⟩ := Holding.unlink linked
  refine ⟨{ m with heap := heap, numservers := dropCount m.numservers },
    by rw [Memory.dropServer, unlinked]; rfl,
    ⟨?_, layout.nextBlock, congrArg dropCount layout.numservers, layout.sent⟩⟩
  simp only [ServerList.drop, cells, drop_cells left right]
  exact linked'

theorem appendServer {m : Memory} {reg : ServerList} (layout : LayoutIn P m reg)
    (sound : reg.WellFormed) {last : Nat}
    (ends : lastOr none ((0, Server.zero) :: reg.cells) = some last) (cfg : Config) (env : Env)
    (call : AddCall) (gamename : CString) :
    ∃ m', m.appendServer cfg env call gamename last = some m' ∧
      LayoutIn P m' (appendServer cfg env call gamename reg) := by
  have unused : m.nextBlock ∉ (((0, Server.zero) :: reg.cells).map Prod.fst) := by
    rw [layout.nextBlock, List.map_cons, List.mem_cons]
    rintro (sentinel | member)
    · exact Nat.ne_of_gt sound.fresh sentinel
    · obtain ⟨⟨block, server⟩, inside, same⟩ := List.mem_map.mp member
      exact Nat.ne_of_lt (sound.allocated _ (mem_identities inside)).2 same
  obtain ⟨heap, written, linked⟩ :=
    Holding.appendNode layout.linked (newServer cfg env call gamename) ends unused
  refine ⟨_, by rw [Memory.appendServer]; simp only [written]; rfl, ?_, ?_, ?_, ?_⟩
  · rw [layout.nextBlock] at linked
    exact linked
  · exact congrArg Nat.succ layout.nextBlock
  · exact congrArg (· + 1) layout.numservers
  · exact congrArg (· ++ _) layout.sent

theorem addServer {m : Memory} {reg : ServerList} (layout : LayoutIn P m reg)
    (sound : reg.WellFormed) (cfg : Config) (env : Env) (call : AddCall) :
    ∃ m', m.addServer cfg env call = some m' ∧ LayoutIn P m' (addServer cfg env call reg) := by
  unfold Memory.addServer Registry.addServer
  cases accepted : call.accepted with
  | none => exact ⟨m, rfl, layout⟩
  | some gamename =>
      cases found : reg.find call.found with
      | none =>
          obtain ⟨last, walked, ends⟩ := layout.search_none sound found
          simp only [walked]
          exact layout.appendServer sound ends cfg env call gamename
      | some cell =>
          obtain ⟨block, server⟩ := cell
          have member := (find_some found).1
          simp only [layout.search_some sound found]
          split
          · obtain ⟨m₁, dropped, layout₁⟩ := layout.dropServer sound member
            have sound₁ := (sound.drop member).1
            have nothing : (reg.drop block).find (fun _ => false) = none := by
              rw [ServerList.find, List.find?_eq_none]
              exact fun _ _ => Bool.false_ne_true
            obtain ⟨last, walked, ends⟩ := layout₁.search_none sound₁ nothing
            obtain ⟨m₂, appended, layout₂⟩ := layout₁.appendServer sound₁ ends cfg env call gamename
            exact ⟨m₂, by
              simp only [dropped, walked, appended, Option.bind_eq_bind, Option.bind_some],
              layout₂⟩
          · exact ⟨m, rfl, layout⟩

theorem queueShutdown {m : Memory} {reg : ServerList} (layout : LayoutIn P m reg)
    (sound : reg.WellFormed) (env : Env) (sender : SockaddrIn) :
    ∃ m', m.queueShutdown env sender = some m' ∧ LayoutIn P m' (queueShutdown env sender reg) := by
  unfold Memory.queueShutdown Registry.queueShutdown
  cases found : reg.find (sentBy sender) with
  | none =>
      obtain ⟨last, walked, -⟩ := layout.search_none sound found
      exact ⟨m, by simp only [walked], layout⟩
  | some cell =>
      obtain ⟨block, server⟩ := cell
      obtain ⟨m₁, written, layout₁⟩ :=
        layout.store sound (shutdownServer env server) (find_some found).1
      exact ⟨_, by simp only [layout.search_some sound found, written, Option.map_some],
        layout₁.send _⟩

theorem runFrame {m : Memory} {reg : ServerList} (layout : LayoutIn P m reg)
    (sound : reg.WellFormed) (cfg : Config) (env : Env) :
    ∃ m', m.runFrame cfg env = some m' ∧ LayoutIn P m' (runFrame cfg env reg) := by
  obtain ⟨heap, swept, linked⟩ :=
    Holding.sweep (runFrameVisit cfg env) ⟨m.numservers, [], 0⟩ [] layout.linked
      (layout.nextBlock ▸ enough sound)
  refine ⟨_, by rw [Memory.runFrame, swept]; rfl, ?_⟩
  rw [layout.numservers] at linked ⊢
  exact ⟨linked, layout.nextBlock, rfl, congrArg (· ++ _) layout.sent⟩

theorem ack {m : Memory} {reg : ServerList} (layout : LayoutIn P m reg) (sound : reg.WellFormed)
    (cfg : Config) (env : Env) (sender : SockaddrIn) (dataPacket : List UInt8) (dglen : UInt64) :
    ∃ m', m.ack cfg env sender dataPacket dglen = some m' ∧
      LayoutIn P m' (ack cfg env sender dataPacket dglen reg) := by
  unfold Memory.ack Registry.ack
  cases found : reg.find (sentBy sender) with
  | none =>
      obtain ⟨last, walked, -⟩ := layout.search_none sound found
      exact ⟨m, by simp only [walked], layout⟩
  | some cell =>
      obtain ⟨block, server⟩ := cell
      simp only [layout.search_some sound found]
      exact layout.store sound _ (find_some found).1

theorem heartBeat {m : Memory} {reg : ServerList} (layout : LayoutIn P m reg)
    (sound : reg.WellFormed) (cfg : Config) (env : Env) (sender : SockaddrIn) (data : List UInt8) :
    ∃ m', m.heartBeat cfg env sender data = some m' ∧
      LayoutIn P m' (heartBeat cfg env sender data reg) := by
  unfold Memory.heartBeat Registry.heartBeat
  cases parseHeartBeat data with
  | none => exact ⟨m, rfl, layout⟩
  | some request =>
      cases found : reg.find (request.found sender) with
      | none =>
          obtain ⟨last, walked, -⟩ := layout.search_none sound found
          simp only [walked, found]
          exact layout.addServer sound cfg env (request.addCall sender)
      | some cell =>
          obtain ⟨block, server⟩ := cell
          obtain ⟨member, passes⟩ := find_some found
          obtain ⟨m₁, written, layout₁⟩ :=
            layout.store sound (heartBeatServer env request server) member
          have sound₁ := (sound.set _ member (heartBeatServer_identity env passes)).1
          have layout₂ := layout₁.send (heartBeatSends cfg (heartBeatServer env request server))
          have sound₂ := (sound₁.send (heartBeatSends cfg (heartBeatServer env request server))).1
          simp only [layout.search_some sound found, found, written, Option.bind_eq_bind,
            Option.bind_some]
          split
          · exact layout₂.queueShutdown sound₂ (env.drawn 6) _
          · exact ⟨_, rfl, layout₂⟩

theorem addServers {m : Memory} {reg : ServerList} (layout : LayoutIn P m reg)
    (sound : reg.WellFormed) (cfg : Config) (calls : List (Env × AddCall)) :
    ∃ m', m.addServers cfg calls = some m' ∧ LayoutIn P m' (addServers cfg calls reg) := by
  induction calls generalizing m reg with
  | nil => exact ⟨m, rfl, layout⟩
  | cons call calls ih =>
      obtain ⟨m₁, added, layout₁⟩ := layout.addServer sound cfg call.1 call.2
      obtain ⟨m₂, rest, layout₂⟩ := ih layout₁ (addServer_sound sound cfg call.1 call.2).1
      exact ⟨m₂, by rw [Memory.addServers, added]; exact rest, layout₂⟩

/-- The memory follows the list through every operation. -/
theorem exec {cfg : Config} {env : Nat → Env} {op : Operation} {m : Memory} {reg reg' : ServerList}
    (layout : LayoutIn P m reg) (sound : reg.WellFormed) (done : exec cfg env op reg = some reg') :
    ∃ m', m.exec cfg env op = some m' ∧ LayoutIn P m' reg' := by
  cases op with
  | addServer call => cases done; exact layout.addServer sound cfg (env 0) call
  | queueShutdown sender => cases done; exact layout.queueShutdown sound (env 0) sender
  | runFrame => cases done; exact layout.runFrame sound cfg (env 0)
  | ack sender dataPacket dglen =>
      cases done
      exact layout.ack sound cfg (env 0) sender dataPacket dglen
  | heartBeat sender data => cases done; exact layout.heartBeat sound cfg (env 0) sender data
  | parseUDPMSList tmp gamename size => cases done; exact layout.addServers sound cfg _
  | addServersFromListExecute fileBuffer gamename => cases done; exact layout.addServers sound cfg _
  | readMasterDBBlob file stale =>
      obtain ⟨calls, read, rfl⟩ := Option.map_eq_some_iff.mp done
      obtain ⟨m', added, layout'⟩ := layout.addServers sound cfg calls
      exact ⟨m', by rw [Memory.exec, read]; exact added, layout'⟩

end LayoutIn

end GSMaster.Registry
