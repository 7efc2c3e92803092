import GSMaster.Library.Journal
import GSMaster.Registry.Chronicle
import GSMaster.Registry.Entries

/-!
# How long an entry stays

The journal of a run is extended by the pings that `RunFrame` sends and by the
entries that go. The counter of an entry is the number of pings in the journal
since the entry was made or its server last replied, and nothing but seven of
them or an announced shutdown removes an entry.
-/

namespace GSMaster.Registry

open GSMaster.Text GSMaster.Net GSMaster.Games GSMaster.Library ServerList

inductive Event where
  | notice (notice : Notice)
  | pinged (key : ServerKey) (ping : Datagram)
  | removed (key : ServerKey)
  deriving DecidableEq, Repr

/-- The entry of a key is made, or its server replies. -/
def Event.resets (key : ServerKey) : Event → Bool
  | .notice (.created key') => key' = key
  | .notice (.acked key' _) => key' = key
  | _ => false

/-- `RunFrame` pings the server of a key. -/
def Event.pings (key : ServerKey) : Event → Bool
  | .pinged key' _ => key' = key
  | _ => false

/-- The pings to the server of a key since its entry was made or its last reply. -/
def unanswered (key : ServerKey) (journal : List Event) : Nat :=
  countSince (Event.resets key) (Event.pings key) journal

/-- Between two pings to the server of a key there is a reply of it. -/
def AcksEachPing (key : ServerKey) (journal : List Event) : Prop :=
  ∀ early middle late ping ping',
    journal = early ++ .pinged key ping :: (middle ++ .pinged key ping' :: late) →
      ∃ verdict, .notice (.acked key verdict) ∈ middle

/-! ## The events of an operation -/

/-- The pings of a pass of `RunFrame`, each under the key of the entry that it is for. -/
def framePings (cfg : Config) (env : Env) :
    FrameState → List (Nat × Server) → List (ServerKey × Datagram)
  | _, [] => []
  | state, (_, server) :: rest =>
      let visited := (runFrameVisit cfg env state server).2
      (visited.sent.drop state.sent.length).map (fun ping => (server.key, ping)) ++
        framePings cfg env visited rest

/-- The pings of an operation. -/
def pings (cfg : Config) (env : Nat → Env) : Operation → ServerList → List (ServerKey × Datagram)
  | .runFrame, reg => framePings cfg (env 0) ⟨reg.numservers, [], 0⟩ reg.cells
  | _, _ => []

def pinged (ping : ServerKey × Datagram) : Event :=
  .pinged ping.1 ping.2

/-- The keys of the entries that are gone. -/
def gone (reg reg' : ServerList) : List ServerKey :=
  (reg.cells.filter fun cell => cell.1 ∉ reg'.cells.map Prod.fst).map fun cell => cell.2.key

/-- The replies, announcements, pings, removals and new entries of an operation. -/
def events (cfg : Config) (env : Nat → Env) (op : Operation) (reg reg' : ServerList) : List Event :=
  (heard cfg op reg).map .notice ++ (pings cfg env op reg).map pinged ++
    (gone reg reg').map .removed ++ (born reg reg').map fun key => .notice (.created key)

/-- A run from the start of the program, with the journal of its events. -/
inductive History (cfg : Config) : List Event → ServerList → Prop where
  | start : History cfg [] ServerList.initial
  | step {journal : List Event} {reg reg' : ServerList} (env : Nat → Env) (op : Operation)
      (run : History cfg journal reg) (done : exec cfg env op reg = some reg') :
      History cfg (journal ++ events cfg env op reg reg') reg'

theorem History.wellFormed {cfg : Config} {journal : List Event} {reg : ServerList}
    (run : History cfg journal reg) : reg.WellFormed := by
  induction run with
  | start => exact initial_wellFormed
  | step _ _ _ done ih => exact (exec_sound ih done).1

/-! ## A pass of `RunFrame` -/

/-- The pings are all that a pass sends. -/
theorem framePings_sent (cfg : Config) (env : Env) (state : FrameState)
    (cells : List (Nat × Server)) :
    (sweepCells (runFrameVisit cfg env) state cells).2.sent =
      state.sent ++ (framePings cfg env state cells).map Prod.snd := by
  induction cells generalizing state with
  | nil => exact (List.append_nil _).symm
  | cons cell cells ih =>
      have grows : (runFrameVisit cfg env state cell.2).2.sent =
          state.sent ++ (runFrameVisit cfg env state cell.2).2.sent.drop state.sent.length := by
        rcases runFrameVisit_cases cfg env state cell.2 with
          ⟨-, dropped⟩ | ⟨-, pinged⟩ | ⟨-, -, same⟩
        · rw [dropped, List.drop_length, List.append_nil]
        · rw [pinged, List.drop_left]
        · rw [same, List.drop_length, List.append_nil]
      have datagrams (sent : List Datagram) :
          (sent.map fun ping => (cell.2.key, ping)).map Prod.snd = sent := by
        rw [List.map_map]
        exact List.map_id sent
      rw [framePings, List.map_append, datagrams, ← List.append_assoc, ← grows]
      exact ih _

theorem framePings_key {cfg : Config} {env : Env} {state : FrameState}
    {cells : List (Nat × Server)} {ping : ServerKey × Datagram}
    (member : ping ∈ framePings cfg env state cells) : ∃ cell ∈ cells, cell.2.key = ping.1 := by
  induction cells generalizing state with
  | nil => cases member
  | cons head rest ih =>
      rcases List.mem_append.mp member with here | later
      · obtain ⟨datagram, -, rfl⟩ := List.mem_map.mp here
        exact ⟨head, List.mem_cons_self .., rfl⟩
      · obtain ⟨cell, inside, key⟩ := ih later
        exact ⟨cell, List.mem_cons_of_mem _ inside, key⟩

/-- The number of pings of a pass to the server of a key. -/
def pingCount (key : ServerKey) (pings : List (ServerKey × Datagram)) : Nat :=
  pings.countP fun ping => ping.1 = key

theorem pingCount_append (key : ServerKey) (early late : List (ServerKey × Datagram)) :
    pingCount key (early ++ late) = pingCount key early + pingCount key late :=
  List.countP_append

theorem pingCount_self (key : ServerKey) (sent : List Datagram) :
    pingCount key (sent.map fun ping => (key, ping)) = sent.length := by
  rw [pingCount, List.countP_map]
  exact List.countP_eq_length.mpr (by simp) |>.trans rfl

theorem pingCount_of_ne {key other : ServerKey} (apart : other ≠ key) (sent : List Datagram) :
    pingCount key (sent.map fun ping => (other, ping)) = 0 := by
  rw [pingCount, List.countP_map]
  exact List.countP_eq_zero.mpr (by simp [apart])

theorem pingCount_framePings {cfg : Config} {env : Env} {state : FrameState}
    {cells : List (Nat × Server)} {key : ServerKey} (absent : ∀ cell ∈ cells, cell.2.key ≠ key) :
    pingCount key (framePings cfg env state cells) = 0 := by
  refine List.countP_eq_zero.mpr fun ping member same => ?_
  obtain ⟨cell, inside, named⟩ := framePings_key member
  exact absent cell inside (named.trans (of_decide_eq_true same))

/-- A visit that keeps its entry counts the pings it sends. -/
theorem runFrameVisit_counted {cfg : Config} {env : Env} {state : FrameState}
    {server kept : Server} (small : server.queuedPings ≤ 7)
    (left : (runFrameVisit cfg env state server).1 = some kept) :
    kept.queuedPings.toNat = server.queuedPings.toNat +
        ((runFrameVisit cfg env state server).2.sent.drop state.sent.length).length ∧
      kept.queuedPings ≤ 7 ∧ kept.shutdownIssued = server.shutdownIssued := by
  rcases runFrameVisit_cases cfg env state server with
    ⟨-, dropped⟩ | ⟨due, pinged⟩ | ⟨-, -, same⟩
  · rw [dropped] at left
    cases left
  · rw [pinged] at left
    obtain rfl := Option.some.inj left
    obtain ⟨few, sum⟩ := due.queued
    have seven : (7 : UInt32).toNat = 7 := rfl
    rw [pinged, List.drop_left, UInt32.le_iff_toNat_le]
    refine ⟨sum, ?_, rfl⟩
    change (server.queuedPings + 1).toNat ≤ _
    omega
  · rw [same] at left
    obtain rfl := Option.some.inj left
    rw [same, List.drop_length]
    exact ⟨rfl, small, rfl⟩

/-- An entry that a pass keeps has counted the pings of the pass to it. -/
theorem framePings_counted {cfg : Config} {env : Env} {state : FrameState}
    {cells : List (Nat × Server)} (blocks : (cells.map Prod.fst).Nodup)
    (keys : (cells.map fun cell => cell.2.key).Nodup) {cell : Nat × Server} (member : cell ∈ cells)
    (small : cell.2.queuedPings ≤ 7) {kept : Server}
    (left : (cell.1, kept) ∈ (sweepCells (runFrameVisit cfg env) state cells).1) :
    kept.queuedPings.toNat =
        cell.2.queuedPings.toNat + pingCount cell.2.key (framePings cfg env state cells) ∧
      kept.queuedPings ≤ 7 ∧ kept.shutdownIssued = cell.2.shutdownIssued := by
  induction cells generalizing state with
  | nil => cases member
  | cons head rest ih =>
      rw [List.map_cons, List.nodup_cons] at blocks keys
      rw [framePings, pingCount_append]
      rcases List.mem_cons.mp member with rfl | inside
      · have apart : ∀ other ∈ rest, other.2.key ≠ cell.2.key := fun other held same =>
          keys.1 (List.mem_map.mpr ⟨other, held, same⟩)
        have gone (later : (cell.1, kept) ∈ (sweepCells (runFrameVisit cfg env)
            (runFrameVisit cfg env state cell.2).2 rest).1) : False := by
          obtain ⟨val, held, -⟩ := mem_sweepCells later
          exact blocks.1 (List.mem_map.mpr ⟨_, held, rfl⟩)
        rw [pingCount_framePings apart, pingCount_self]
        cases visited : (runFrameVisit cfg env state cell.2).1 with
        | none =>
            simp only [sweepCells, visited] at left
            exact absurd left gone
        | some first =>
            simp only [sweepCells, visited] at left
            rcases List.mem_cons.mp left with here | later
            · obtain rfl : kept = first := congrArg Prod.snd here
              exact runFrameVisit_counted small visited
            · exact absurd later gone
      · have apart : head.2.key ≠ cell.2.key := fun same =>
          keys.1 (List.mem_map.mpr ⟨cell, inside, same.symm⟩)
        have differs : cell.1 ≠ head.1 := fun same =>
          blocks.1 (List.mem_map.mpr ⟨cell, inside, same⟩)
        have later : (cell.1, kept) ∈ (sweepCells (runFrameVisit cfg env)
            (runFrameVisit cfg env state head.2).2 rest).1 := by
          cases visited : (runFrameVisit cfg env state head.2).1 with
          | none => simpa only [sweepCells, visited] using left
          | some first =>
              simp only [sweepCells, visited] at left
              exact (List.mem_cons.mp left).resolve_left fun here =>
                differs (Prod.mk.inj here).1
        rw [pingCount_of_ne apart, Nat.zero_add]
        exact ih blocks.2 keys.2 inside later

/-! ## The account of an entry -/

/-- What an operation does to the counter and the shutdown mark of an entry that it keeps. -/
structure Counts (cfg : Config) (env : Nat → Env) (op : Operation) (reg : ServerList)
    (server server' : Server) : Prop where
  counted : server'.queuedPings.toNat = ((heard cfg op reg).map Event.notice ++
    (pings cfg env op reg).map pinged).foldl
      (tally (Event.resets server.key) (Event.pings server.key)) server.queuedPings.toNat
  small : server'.queuedPings ≤ 7
  shutdown : server'.shutdownIssued = true →
    server.shutdownIssued = true ∨ .shutdown server.key ∈ heard cfg op reg

/-- An announcement is neither a ping nor a reply. -/
theorem foldl_tally_shutdown (key other : ServerKey) (count : Nat) :
    [Event.notice (.shutdown other)].foldl (tally (Event.resets key) (Event.pings key)) count =
      count :=
  foldl_tally_other (by simp [Event.resets, Event.pings]) count

theorem counts_quiet {cfg : Config} {env : Nat → Env} {op : Operation} {reg : ServerList}
    {server : Server} (small : server.queuedPings ≤ 7) (silent : heard cfg op reg = [])
    (noPing : pings cfg env op reg = []) : Counts cfg env op reg server server where
  counted := by rw [silent, noPing]; rfl
  small := small
  shutdown := Or.inl

theorem counts_ack {cfg : Config} {env : Nat → Env} {reg : ServerList} {cell : Nat × Server}
    (member : cell ∈ reg.cells) (small : cell.2.queuedPings ≤ 7) (sender : SockaddrIn)
    (dataPacket : List UInt8) (dglen : UInt64) :
    Counts cfg env (.ack sender dataPacket dglen) reg cell.2
      (if sentBy sender cell.2 then ackServer cfg (env 0) dataPacket dglen cell.2 else cell.2) := by
  cases found : reg.find (sentBy sender) with
  | none =>
      rw [find_none found member, if_neg Bool.false_ne_true]
      refine counts_quiet small ?_ rfl
      rw [heard, ackNotices, found]
  | some held =>
      have notices : heard cfg (.ack sender dataPacket dglen) reg =
          [.acked held.2.key (ackVerdict cfg held.2 dataPacket)] := by
        rw [heard, ackNotices, found]
      have key := sentBy_iff.mp (find_some found).2
      by_cases here : sentBy sender cell.2 = true
      · rw [if_pos here]
        have same : held.2.key = cell.2.key := key.trans (sentBy_iff.mp here).symm
        refine ⟨?_, (by decide : (0 : UInt32) ≤ 7), fun waits => ?_⟩
        · rw [notices, same]
          change 0 = tally _ _ _ _
          rw [tally, if_pos (by simp [Event.resets])]
        · cases waits
      · rw [if_neg here]
        have apart : held.2.key ≠ cell.2.key := fun same =>
          here (sentBy_iff.mpr (same.symm.trans key))
        refine ⟨?_, small, Or.inl⟩
        rw [notices]
        exact (foldl_tally_other (by simp [Event.resets, Event.pings, apart, pings]) _).symm

theorem counts_queueShutdown {cfg : Config} {env : Nat → Env} {reg : ServerList} {server : Server}
    (small : server.queuedPings ≤ 7) (sender : SockaddrIn) :
    Counts cfg env (.queueShutdown sender) reg server
      (if sentBy sender server then shutdownServer (env 0) server else server) := by
  have counted := foldl_tally_shutdown server.key (sender.sinAddr, sender.sinPort)
    server.queuedPings.toNat
  by_cases here : sentBy sender server = true
  · rw [if_pos here]
    refine ⟨counted.symm, small, fun _ => Or.inr ?_⟩
    rw [sentBy_iff.mp here]
    exact List.mem_singleton_self _
  · rw [if_neg here]
    exact ⟨counted.symm, small, Or.inl⟩

theorem counts_heartBeat {cfg : Config} {env : Nat → Env} {reg : ServerList} {server : Server}
    (small : server.queuedPings ≤ 7) (sender : SockaddrIn) (data : List UInt8) :
    Counts cfg env (.heartBeat sender data) reg server
      (heartBeatWritten (env 0) sender data server) := by
  have notices : heard cfg (.heartBeat sender data) reg = heartBeatNotices sender data := rfl
  cases parsed : parseHeartBeat data with
  | none =>
      rw [heartBeatWritten_none parsed]
      refine counts_quiet small ?_ rfl
      rw [notices, heartBeatNotices, parsed]
  | some request =>
      have notices' : heard cfg (.heartBeat sender data) reg = request.notices sender := by
        rw [notices, heartBeatNotices, parsed]
      rw [heartBeatWritten_some parsed]
      by_cases announced : request.statechanged = true
      · have heardIt : heard cfg (.heartBeat sender data) reg =
            [.shutdown (sender.sinAddr, htons request.queryPort)] := by
          rw [notices', HeartBeatRequest.notices, if_pos announced]
        have counted := foldl_tally_shutdown server.key (sender.sinAddr, htons request.queryPort)
          server.queuedPings.toNat
        by_cases here : request.found sender server = true
        · rw [if_pos here, HeartBeatRequest.written, if_pos announced]
          refine ⟨?_, small, fun _ => Or.inr ?_⟩
          · rw [heardIt]
            exact counted.symm
          · rw [heardIt, request_found_iff.mp here]
            exact List.mem_singleton_self _
        · rw [if_neg here]
          refine ⟨?_, small, Or.inl⟩
          rw [heardIt]
          exact counted.symm
      · have silent : heard cfg (.heartBeat sender data) reg = [] := by
          rw [notices', HeartBeatRequest.notices, if_neg announced]
        rw [HeartBeatRequest.written, if_neg announced]
        split
        · exact ⟨by rw [silent]; rfl, small, Or.inl⟩
        · exact counts_quiet small silent rfl

/-- Every operation counts the pings to an entry that it keeps. -/
theorem exec_counts {cfg : Config} {env : Nat → Env} {op : Operation} {reg reg' : ServerList}
    (sound : reg.WellFormed) (done : exec cfg env op reg = some reg') {block : Nat}
    {server server' : Server} (held : (block, server) ∈ reg.cells)
    (kept : (block, server') ∈ reg'.cells) (writes : op.Writes cfg env server server')
    (small : server.queuedPings ≤ 7) : Counts cfg env op reg server server' := by
  cases op with
  | queueShutdown sender => obtain rfl := writes; exact counts_queueShutdown small sender
  | runFrame =>
      cases done
      obtain ⟨counted, few, shutdown⟩ := framePings_counted sound.cell_blocks sound.cell_keys held
        small kept
      refine ⟨?_, few, fun waits => Or.inl (shutdown ▸ waits)⟩
      rw [counted]
      change _ = (List.map pinged _).foldl _ _
      have noReset : ∀ event ∈ (pings cfg env .runFrame reg).map pinged,
          Event.resets server.key event = false := by
        intro event member
        obtain ⟨ping, -, rfl⟩ := List.mem_map.mp member
        rfl
      rw [foldl_tally_marks noReset, List.countP_map]
      rfl
  | ack sender dataPacket dglen =>
      obtain rfl := writes
      exact counts_ack held small sender dataPacket dglen
  | heartBeat sender data => obtain rfl := writes; exact counts_heartBeat small sender data
  | _ => obtain rfl := writes; exact counts_quiet small rfl rfl

/-- An entry and the events since it was made. -/
def Tallied (journal : List Event) (server : Server) : Prop :=
  ∃ before life, journal = before ++ .notice (.created server.key) :: life ∧
    .notice (.created server.key) ∉ life ∧
    server.queuedPings.toNat = unanswered server.key life ∧
    server.queuedPings ≤ 7 ∧
    (server.shutdownIssued = true → .notice (.shutdown server.key) ∈ life)

/-- Creations come last among the events of an operation. -/
theorem created_not_earlier (cfg : Config) (env : Nat → Env) (op : Operation)
    (reg reg' : ServerList) (key : ServerKey) :
    .notice (.created key) ∉ (heard cfg op reg).map Event.notice ++
      (pings cfg env op reg).map pinged ++ (gone reg reg').map Event.removed := by
  simp only [List.mem_append, List.mem_map]
  rintro ((⟨notice, heard, same⟩ | ⟨ping, -, same⟩) | ⟨other, -, same⟩)
  · obtain rfl := Event.notice.inj same
    exact created_not_heard cfg op reg key heard
  · cases same
  · cases same

theorem created_not_events {cfg : Config} {env : Nat → Env} {op : Operation}
    {reg reg' : ServerList} {key : ServerKey} (member : .notice (.created key) ∈
      events cfg env op reg reg') : key ∈ born reg reg' := by
  rcases List.mem_append.mp member with earlier | creation
  · exact absurd earlier (created_not_earlier cfg env op reg reg' key)
  · obtain ⟨other, inside, same⟩ := List.mem_map.mp creation
    obtain rfl := Notice.created.inj (Event.notice.inj same)
    exact inside

/-- Creations under other keys are neither replies nor pings of a server. -/
theorem created_other {key : ServerKey} {keys : List ServerKey} (absent : key ∉ keys) :
    ∀ event ∈ keys.map fun key => Event.notice (.created key),
      Event.resets key event = false ∧ Event.pings key event = false := by
  intro event created
  obtain ⟨other, inside, rfl⟩ := List.mem_map.mp created
  have apart : other ≠ key := fun same => absent (same ▸ inside)
  exact ⟨decide_eq_false apart, rfl⟩

/-- Removals, and creations under other keys, leave the number of pings alone. -/
theorem foldl_tally_gone_born {reg reg' : ServerList} {key : ServerKey}
    (absent : key ∉ born reg reg') (count : Nat) :
    ((gone reg reg').map Event.removed ++
      (born reg reg').map fun key => Event.notice (.created key)).foldl
        (tally (Event.resets key) (Event.pings key)) count = count := by
  refine foldl_tally_other (fun event member => ?_) count
  rcases List.mem_append.mp member with removed | created
  · obtain ⟨other, -, rfl⟩ := List.mem_map.mp removed
    exact ⟨rfl, rfl⟩
  · exact created_other absent event created

/-- The account of an entry that an operation keeps goes on. -/
theorem Tallied.kept {cfg : Config} {env : Nat → Env} {op : Operation} {journal : List Event}
    {reg reg' : ServerList} {server server' : Server} (tallied : Tallied journal server)
    (same : server.key = server'.key) (counts : Counts cfg env op reg server server')
    (notBorn : server'.key ∉ born reg reg') :
    Tallied (journal ++ events cfg env op reg reg') server' := by
  obtain ⟨before, life, journalEq, once, counted, -, shutdown⟩ := tallied
  have counted' := counts.counted
  have shutdown' := counts.shutdown
  rw [counted] at counted'
  simp only [same] at journalEq once shutdown counted' shutdown'
  refine ⟨before, life ++ events cfg env op reg reg', ?_, ?_, ?_, counts.small, fun waits => ?_⟩
  · rw [journalEq, List.append_assoc]
    rfl
  · rw [List.mem_append, not_or]
    exact ⟨once, fun again => notBorn (created_not_events again)⟩
  · rw [unanswered, countSince_append, events, List.append_assoc, List.foldl_append,
      foldl_tally_gone_born notBorn]
    exact counted'
  · rcases shutdown' waits with earlier | heardIt
    · exact List.mem_append_left _ (shutdown earlier)
    · refine List.mem_append_right _ ?_
      simp only [events, List.mem_append]
      exact Or.inl (Or.inl (Or.inl (List.mem_map_of_mem heardIt)))

/-- The account of a new entry begins with its creation. -/
theorem Tallied.born (cfg : Config) (env : Nat → Env) (op : Operation) (journal : List Event)
    {reg reg' : ServerList} (distinct : (born reg reg').Nodup) {server : Server}
    (inside : server.key ∈ born reg reg') (zero : server.queuedPings = 0)
    (stays : server.shutdownIssued = false) :
    Tallied (journal ++ events cfg env op reg reg') server := by
  obtain ⟨early, late, split⟩ := List.append_of_mem inside
  rw [split, List.nodup_append, List.nodup_cons] at distinct
  have once : server.key ∉ late := distinct.2.1.1
  refine ⟨journal ++ ((heard cfg op reg).map .notice ++ (pings cfg env op reg).map pinged ++
    (gone reg reg').map .removed ++ early.map fun key => .notice (.created key)),
    late.map fun key => .notice (.created key), ?_, ?_, ?_, ?_, fun waits => ?_⟩
  · rw [events, split, List.map_append, List.map_cons]
    simp only [List.append_assoc]
  · rintro again
    obtain ⟨other, kept, same⟩ := List.mem_map.mp again
    obtain rfl := Notice.created.inj (Event.notice.inj same)
    exact once kept
  · rw [unanswered, countSince, foldl_tally_other (created_other once), zero]
    rfl
  · rw [zero]
    exact (by decide : (0 : UInt32) ≤ 7)
  · rw [stays] at waits
    cases waits

/-- One operation keeps the account of every entry. -/
theorem tallied_step {cfg : Config} {env : Nat → Env} {op : Operation} {journal : List Event}
    {reg reg' : ServerList} (sound : reg.WellFormed)
    (tallied : ∀ cell ∈ reg.cells, Tallied journal cell.2)
    (done : exec cfg env op reg = some reg') :
    ∀ cell ∈ reg'.cells, Tallied (journal ++ events cfg env op reg reg') cell.2 := by
  intro cell member
  obtain ⟨sound', keeps⟩ := exec_sound sound done
  rcases exec_comes sound done cell member with ⟨server, held, writes⟩ | ⟨new, made⟩
  · have old : cell.1 < reg.nextBlock := (sound.allocated _ (mem_identities held)).2
    have same : server.key = cell.2.key := by
      obtain ⟨⟨block, value⟩, inside, equal⟩ := List.mem_map.mp
        (keeps.same _ (mem_identities member) old)
      obtain ⟨rfl, identity⟩ := Prod.mk.inj equal
      rw [sound.cell_inj held inside]
      exact congrArg Prod.fst identity
    obtain ⟨-, -, -, -, -, small, -⟩ := tallied _ held
    exact (tallied _ held).kept same (exec_counts sound done held member writes small)
      (not_born sound' member old)
  · have inside : cell.2.key ∈ born reg reg' :=
      List.mem_map.mpr ⟨cell, List.mem_filter.mpr ⟨member, by simpa using new⟩, rfl⟩
    obtain ⟨call, -, gamename, -, fresh⟩ := made
    exact Tallied.born cfg env op journal (born_nodup reg sound') inside
      (by rw [fresh]; rfl) (by rw [fresh]; rfl)

theorem History.tallied {cfg : Config} {journal : List Event} {reg : ServerList}
    (run : History cfg journal reg) : ∀ cell ∈ reg.cells, Tallied journal cell.2 := by
  induction run with
  | start => exact fun _ member => nomatch member
  | step env op run done ih => exact tallied_step run.wellFormed ih done

/-! ## Why an entry goes -/

theorem Event.resets_created (key : ServerKey) :
    Event.resets key (.notice (.created key)) = true :=
  decide_eq_true rfl

theorem Tallied.counted {journal : List Event} {server : Server}
    (tallied : Tallied journal server) :
    server.queuedPings.toNat = unanswered server.key journal ∧ server.queuedPings ≤ 7 := by
  obtain ⟨before, life, rfl, -, counted, small, -⟩ := tallied
  refine ⟨?_, small⟩
  rw [counted, unanswered, unanswered, countSince_reset (Event.resets_created server.key)]

/-- An operation removes an entry only for these reasons. -/
theorem removed_cases {cfg : Config} {env : Nat → Env} {op : Operation} {journal : List Event}
    {reg reg' : ServerList} (run : History cfg journal reg)
    (done : exec cfg env op reg = some reg') {cell : Nat × Server} (member : cell ∈ reg.cells)
    (missing : ¬ reg'.Holds cell.1) :
    (op = .runFrame ∧ 60 < (env 0).time 0 - cell.2.lastHeartbeat ∧
        (cell.2.shutdownIssued = true ∨ unanswered cell.2.key journal = 7)) ∨
      Replaced (op.calls env) cell.2 := by
  rcases exec_removes run.wellFormed done member with held | replaced | ⟨pass, state, dropped⟩
  · exact absurd held missing
  · exact Or.inr replaced
  · refine Or.inl ⟨pass, ?_⟩
    rcases runFrameVisit_cases cfg (env 0) state cell.2 with
      ⟨⟨silent, why⟩, -⟩ | ⟨-, visited⟩ | ⟨-, -, same⟩
    · refine ⟨silent, why.imp_right fun many => ?_⟩
      obtain ⟨counted, small⟩ := (run.tallied cell member).counted
      rw [UInt32.lt_iff_toNat_lt] at many
      rw [UInt32.le_iff_toNat_le] at small
      have six : (6 : UInt32).toNat = 6 := rfl
      have seven : (7 : UInt32).toNat = 7 := rfl
      omega
    · rw [visited] at dropped
      cases dropped
    · rw [same] at dropped
      cases dropped

theorem AcksEachPing.alternates {key : ServerKey} {journal : List Event}
    (acks : AcksEachPing key journal) :
    Alternates (Event.resets key) (Event.pings key) journal := by
  have isPing : ∀ event, Event.pings key event = true → ∃ ping, event = .pinged key ping := by
    intro event pings
    cases event with
    | notice notice => cases pings
    | pinged other ping => exact ⟨ping, by rw [of_decide_eq_true pings]⟩
    | removed other => cases pings
  intro early middle late first second isFirst isSecond split
  obtain ⟨ping, rfl⟩ := isPing first isFirst
  obtain ⟨ping', rfl⟩ := isPing second isSecond
  obtain ⟨verdict, member⟩ := acks early middle late ping ping' split
  exact ⟨_, member, decide_eq_true rfl⟩

theorem AcksEachPing.of_append {key : ServerKey} {early late : List Event}
    (acks : AcksEachPing key (early ++ late)) : AcksEachPing key early ∧ AcksEachPing key late := by
  constructor
  · rintro before middle after ping ping' rfl
    exact acks before middle (after ++ late) ping ping' (by simp)
  · rintro before middle after ping ping' rfl
    exact acks (early ++ before) middle after ping ping' (by simp)

/-- A removal in the journal is the removal of an entry that was there. -/
theorem removed_mem_events {cfg : Config} {env : Nat → Env} {op : Operation}
    {reg reg' : ServerList} {key : ServerKey}
    (member : .removed key ∈ events cfg env op reg reg') :
    ∃ cell ∈ reg.cells, cell.2.key = key ∧ ¬ reg'.Holds cell.1 := by
  simp only [events, List.mem_append, List.mem_map] at member
  rcases member with ((⟨notice, -, same⟩ | ⟨ping, -, same⟩) | ⟨other, inside, same⟩) |
    ⟨other, -, same⟩
  · cases same
  · cases same
  · obtain rfl := Event.removed.inj same
    obtain ⟨cell, kept, rfl⟩ := List.mem_map.mp inside
    obtain ⟨held, absent⟩ := List.mem_filter.mp kept
    refine ⟨cell, held, rfl, fun ⟨server, there⟩ => ?_⟩
    exact of_decide_eq_true absent (List.mem_map.mpr ⟨_, there, rfl⟩)
  · cases same

/-- After a creation an operation has only further creations to report. -/
theorem events_after_created {cfg : Config} {env : Nat → Env} {op : Operation}
    {reg reg' : ServerList} {key other : ServerKey} {early late : List Event}
    (split : events cfg env op reg reg' = early ++ .notice (.created key) :: late) :
    .removed other ∉ late := by
  have creations : .removed other ∉ (born reg reg').map fun key => Event.notice (.created key) := by
    intro member
    obtain ⟨made, -, same⟩ := List.mem_map.mp member
    cases same
  rcases List.append_eq_append_iff.mp split with ⟨between, -, rest⟩ | ⟨between, earlier, rest⟩
  · intro member
    refine creations ?_
    rw [rest]
    exact List.mem_append_right _ (List.mem_cons_of_mem _ member)
  · cases between with
    | nil =>
        intro member
        refine creations ?_
        rw [List.nil_append] at rest
        rw [← rest]
        exact List.mem_cons_of_mem _ member
    | cons first between =>
        refine absurd ?_ (created_not_earlier cfg env op reg reg' key)
        rw [earlier, (List.cons.inj rest).1]
        exact List.mem_append_right _ (List.mem_cons_self ..)

/-- An entry whose server replies between any two pings stays until its shutdown is announced. -/
theorem History.stays {cfg : Config} {journal : List Event} {reg : ServerList}
    (run : History cfg journal reg) {key : ServerKey} {before life : List Event}
    (made : journal = before ++ .notice (.created key) :: life)
    (running : .notice (.shutdown key) ∉ life) (acks : AcksEachPing key life) :
    .removed key ∉ life := by
  induction run generalizing before life with
  | start => exact absurd made (by simp)
  | @step journal reg reg' env op run done ih =>
      rcases List.append_eq_append_iff.mp made with ⟨late, rfl, rest⟩ | ⟨late, rfl, rest⟩
      · exact events_after_created rest
      · cases late with
        | nil =>
            have split : events cfg env op reg reg' = [] ++ .notice (.created key) :: life :=
              rest.symm
            exact events_after_created split
        | cons first late =>
            rw [List.cons_append, List.cons.injEq] at rest
            obtain ⟨rfl, rfl⟩ := rest
            rw [List.mem_append, not_or] at running ⊢
            have earlier := ih rfl running.1 acks.of_append.1
            refine ⟨earlier, fun gone => ?_⟩
            obtain ⟨cell, held, rfl, missing⟩ := removed_mem_events gone
            obtain ⟨before', life', journalEq, once, counted, -, shutdown⟩ := run.tallied cell held
            have suffix := suffix_of_last journalEq.symm once
            have waits : cell.2.shutdownIssued ≠ true := fun waits =>
              running.1 (suffix.subset (shutdown waits))
            rcases removed_cases run done held missing with ⟨-, -, pending | seven⟩ | replaced
            · exact waits pending
            · have few := acks.of_append.1.alternates.of_suffix suffix
              have one := few.countSince_le_one
              rw [← (run.tallied cell held).counted.1, counted, unanswered] at seven
              omega
            · exact waits replaced.1

/--
The counter of every entry is the number of pings since the entry was made or
its server last replied, at most seven; only a silent server with a shutdown
pending or seven pings unanswered is dropped, and only an entry that waits for
its shutdown is replaced. So a server that replies between any two pings stays.
-/
theorem entries_disappear (cfg : Config) (journal : List Event) (reg : ServerList)
    (run : History cfg journal reg) :
    (∀ cell ∈ reg.cells, cell.2.queuedPings.toNat = unanswered cell.2.key journal ∧
        cell.2.queuedPings ≤ 7) ∧
      (∀ env, (runFrame cfg env reg).sent = reg.sent ++
        (framePings cfg env ⟨reg.numservers, [], 0⟩ reg.cells).map Prod.snd) ∧
      (∀ env op reg', exec cfg env op reg = some reg' → ∀ cell ∈ reg.cells, ¬ reg'.Holds cell.1 →
        (op = .runFrame ∧ 60 < (env 0).time 0 - cell.2.lastHeartbeat ∧
            (cell.2.shutdownIssued = true ∨ unanswered cell.2.key journal = 7)) ∨
          Replaced (op.calls env) cell.2) ∧
      ∀ key before life, journal = before ++ .notice (.created key) :: life →
        .notice (.shutdown key) ∉ life → AcksEachPing key life → .removed key ∉ life := by
  refine ⟨fun cell member => (run.tallied cell member).counted, fun env => ?_,
    fun env op reg' done cell member missing => removed_cases run done member missing,
    fun key before life made running acks => run.stays made running acks⟩
  exact congrArg (reg.sent ++ ·) (framePings_sent cfg env ⟨reg.numservers, [], 0⟩ reg.cells)

/-- Surroundings at a later time. -/
def laterEnv (seconds : UInt64) : Env :=
  { quietEnv with time := fun _ => seconds }

/-- An Unreal server that has been silent for 400 seconds has one ping unanswered. -/
theorem entries_disappear_unreal :
    ∃ journal reg, History defaultConfig journal reg ∧ ∃ cell ∈ reg.cells,
      cell.2.queuedPings = 1 ∧ unanswered cell.2.key journal = 1 := by
  have run : History defaultConfig _ _ := ((History.start).step (fun _ => quietEnv) unrealHeartbeat
    rfl).step (fun _ => laterEnv 400) .runFrame rfl
  refine ⟨_, _, run, _, List.mem_singleton_self _, rfl, ?_⟩
  exact ((entries_disappear defaultConfig _ _ run).1 _ (List.mem_singleton_self _)).1.symm

end GSMaster.Registry
