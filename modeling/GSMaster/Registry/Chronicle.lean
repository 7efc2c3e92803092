import GSMaster.Registry.Standing

/-!
# The journal accounts for the registry

Each operation changes the standing of the entries it keeps as its notices say,
and makes new entries with a fresh standing. Over a run the standing of every
entry is therefore what the notices since its creation add up to.
-/

namespace GSMaster.Registry

open GSMaster.Text GSMaster.Net GSMaster.Games GSMaster.Library ServerList

/--
The entries of a later registry: those that were there stand as the notices
leave them, and the new ones stand afresh.
-/
def Follows (life : List Notice) (reg reg' : ServerList) : Prop :=
  ∀ cell ∈ reg'.cells,
    (∃ server, (cell.1, server) ∈ reg.cells ∧ server.key = cell.2.key ∧
      cell.2.standing = Standing.after cell.2.key server.standing life) ∨
    (reg.nextBlock ≤ cell.1 ∧ cell.2.standing = .fresh)

theorem Follows.refl (reg : ServerList) : Follows [] reg reg :=
  fun cell member => Or.inl ⟨cell.2, member, rfl, rfl⟩

/-- Notices about none of the entries change nothing. -/
theorem Follows.quiet {reg reg' : ServerList} (follows : Follows [] reg reg') {life : List Notice}
    (quiet : ∀ cell ∈ reg.cells, ∀ standing,
      Standing.after cell.2.key standing life = standing) : Follows life reg reg' := by
  intro cell member
  rcases follows cell member with ⟨server, held, key, standing⟩ | new
  · refine Or.inl ⟨server, held, key, standing.trans ?_⟩
    rw [← key, quiet _ held]
    rfl
  · exact Or.inr new

/-- Without notices between them, two changes are one. -/
theorem Follows.trans {first second third : ServerList} (left : Follows [] first second)
    (right : Follows [] second third) (grows : first.nextBlock ≤ second.nextBlock) :
    Follows [] first third := by
  intro cell member
  rcases right cell member with ⟨server, held, key, standing⟩ | ⟨new, standing⟩
  · rcases left (cell.1, server) held with ⟨before, held', key', standing'⟩ | ⟨new, fresh⟩
    · exact Or.inl ⟨before, held', key'.trans key, standing.trans standing'⟩
    · exact Or.inr ⟨new, standing.trans fresh⟩
  · exact Or.inr ⟨Nat.le_trans grows new, standing⟩

/-- A change that makes no entries can come before any notices. -/
theorem Follows.trans_life {first second third : ServerList} {life : List Notice}
    (left : Follows [] first second) (sound : second.WellFormed)
    (same : second.nextBlock = first.nextBlock) (right : Follows life second third) :
    Follows life first third := by
  intro cell member
  rcases right cell member with ⟨server, held, key, standing⟩ | ⟨new, standing⟩
  · rcases left (cell.1, server) held with ⟨before, held', key', standing'⟩ | ⟨new, -⟩
    · refine Or.inl ⟨before, held', key'.trans key, standing.trans ?_⟩
      rw [standing']
      rfl
    · have old := (sound.allocated _ (mem_identities held)).2
      rw [same] at old
      exact absurd old (Nat.not_lt.mpr new)
  · exact Or.inr ⟨same ▸ new, standing⟩

/-! ## The primitives -/

theorem Follows.send {life : List Notice} {reg reg' : ServerList} (follows : Follows life reg reg')
    (datagrams : List Datagram) : Follows life reg (reg'.send datagrams) :=
  follows

theorem follows_drop (reg : ServerList) (block : Nat) : Follows [] reg (reg.drop block) :=
  fun cell member => Follows.refl reg cell (List.mem_filter.mp member).1

theorem follows_append (reg : ServerList) {server : Server} (standing : server.standing = .fresh) :
    Follows [] reg (reg.append server) := by
  intro cell member
  rcases List.mem_append.mp member with old | new
  · exact Follows.refl reg cell old
  · obtain rfl := List.mem_singleton.mp new
    exact Or.inr ⟨Nat.le_refl _, standing⟩

/-- An entry is changed as the notices about it say. -/
theorem follows_set {reg : ServerList} (sound : reg.WellFormed) {block : Nat}
    {server server' : Server} (member : (block, server) ∈ reg.cells)
    (key : server'.key = server.key) {life : List Notice}
    (standing : server'.standing = Standing.after server.key server.standing life)
    (quiet : ∀ other, other ≠ server.key → ∀ standing,
      Standing.after other standing life = standing) :
    Follows life reg (reg.set block server') := by
  intro cell written
  obtain ⟨held, inside, rfl⟩ := List.mem_map.mp written
  by_cases here : held.1 = block
  · rw [if_pos here]
    refine Or.inl ⟨server, member, key.symm, ?_⟩
    rw [standing, key]
  · rw [if_neg here]
    refine Or.inl ⟨held.2, inside, rfl, ?_⟩
    have apart : held.2.key ≠ server.key := by
      intro same
      exact here (congrArg Prod.fst (sound.key_inj inside member same))
    rw [quiet _ apart]

/-! ## The operations -/

theorem follows_appendServer {cfg : Config} (slow : cfg.bValidateNewserverImmediately = false)
    (env : Env) (call : AddCall) (gamename : CString) (reg : ServerList) :
    Follows [] reg (appendServer cfg env call gamename reg) := by
  refine (follows_append reg ?_).send _
  unfold Server.standing newServer
  simp only [slow]
  rfl

theorem follows_addServer {cfg : Config} (slow : cfg.bValidateNewserverImmediately = false)
    (env : Env) (call : AddCall) (reg : ServerList) :
    Follows [] reg (addServer cfg env call reg) := by
  rcases addServer_cases cfg env call reg with
    same | ⟨gamename, -, -, added⟩ | ⟨gamename, block, server, -, -, -, added⟩
  · rw [same]
    exact Follows.refl reg
  · rw [added]
    exact follows_appendServer slow env call gamename reg
  · rw [added]
    exact (follows_drop reg block).trans (follows_appendServer slow env call gamename _)
      (Nat.le_refl _)

theorem follows_addServers {cfg : Config} (slow : cfg.bValidateNewserverImmediately = false)
    {reg : ServerList} (sound : reg.WellFormed) (calls : List (Env × AddCall)) :
    Follows [] reg (addServers cfg calls reg) := by
  induction calls generalizing reg with
  | nil => exact Follows.refl reg
  | cons call calls ih =>
      have added := addServer_sound sound cfg call.1 call.2
      exact (follows_addServer slow call.1 call.2 reg).trans (ih added.1) added.2.grows

theorem follows_queueShutdown {reg : ServerList} (sound : reg.WellFormed) (env : Env)
    (sender : SockaddrIn) :
    Follows [.shutdown (sender.sinAddr, sender.sinPort)] reg (queueShutdown env sender reg) := by
  unfold queueShutdown
  cases found : reg.find (sentBy sender) with
  | none =>
      refine (Follows.refl reg).quiet fun cell member standing => ?_
      refine Standing.update_shutdown_of_ne (fun same => ?_) standing
      have passes := sentBy_iff.mpr same.symm
      rw [find_none found member] at passes
      cases passes
  | some cell =>
      obtain ⟨block, server⟩ := cell
      obtain ⟨member, passes⟩ := find_some found
      rw [← show server.key = (sender.sinAddr, sender.sinPort) from sentBy_iff.mp passes]
      have written : Follows [.shutdown server.key] reg
          (reg.set block (shutdownServer env server)) := by
        refine follows_set sound member (show (shutdownServer env server).key = _ from rfl) ?_
          fun other apart standing => ?_
        · exact (Standing.update_shutdown_self server.key server.standing).symm
        · exact Standing.update_shutdown_of_ne (Ne.symm apart) standing
      exact written.send [statusSend (shutdownServer env server)]

theorem follows_runFrame (cfg : Config) (env : Env) (reg : ServerList) :
    Follows [] reg (runFrame cfg env reg) := by
  have keeps : ∀ state (server kept : Server), (runFrameVisit cfg env state server).1 = some kept →
      (kept.key, kept.standing) = (server.key, server.standing) := by
    intro state server kept visited
    rcases runFrameVisit_kept visited with rfl | ⟨lastPing, rand, rfl⟩
    · rfl
    · rfl
  intro cell member
  have swept := (sweepCells_sublist keeps ⟨reg.numservers, [], 0⟩ reg.cells).subset
    (List.mem_map_of_mem member)
  obtain ⟨held, inside, same⟩ := List.mem_map.mp swept
  obtain ⟨block, key, standing⟩ : held.1 = cell.1 ∧ held.2.key = cell.2.key ∧
      held.2.standing = cell.2.standing := by simpa using same
  exact Or.inl ⟨held.2, block ▸ inside, key, standing.symm⟩

/-- `Ack` changes an entry as its verdict says. -/
theorem follows_ack {reg : ServerList} (sound : reg.WellFormed) (cfg : Config) (env : Env)
    (sender : SockaddrIn) (dataPacket : List UInt8) (dglen : UInt64) :
    Follows (ackNotices cfg sender dataPacket reg) reg
      (ack cfg env sender dataPacket dglen reg) := by
  unfold ackNotices ack
  cases found : reg.find (sentBy sender) with
  | none => exact Follows.refl reg
  | some cell =>
      obtain ⟨block, server⟩ := cell
      obtain ⟨member, -⟩ := find_some found
      exact follows_set sound member
        (congrArg Prod.fst (ackServer_identity cfg env dataPacket dglen server))
        (Standing.update_acked_self server.key server.standing _).symm
        fun other apart standing => Standing.update_acked_of_ne (Ne.symm apart) standing _

/-- An announcement for an address and port without an entry concerns no entry. -/
theorem notices_quiet {request : HeartBeatRequest} {sender : SockaddrIn} {server : Server}
    (unknown : request.found sender server = false) (standing : Standing) :
    Standing.after server.key standing (request.notices sender) = standing := by
  unfold HeartBeatRequest.notices
  split
  · refine Standing.update_shutdown_of_ne (fun same => ?_) standing
    rw [request_found_iff.mpr same.symm] at unknown
    cases unknown
  · rfl

/-- A heartbeat that announces a shutdown shuts the entry of its own address and port down. -/
theorem follows_heartBeat {cfg : Config} (slow : cfg.bValidateNewserverImmediately = false)
    {reg : ServerList} (sound : reg.WellFormed) (env : Env) (sender : SockaddrIn)
    (data : List UInt8) :
    Follows (heartBeatNotices sender data) reg (heartBeat cfg env sender data reg) := by
  unfold heartBeatNotices heartBeat
  cases parseHeartBeat data with
  | none => exact Follows.refl reg
  | some request =>
      simp only
      cases found : reg.find (request.found sender) with
      | none =>
          exact (follows_addServer slow env (request.addCall sender) reg).quiet
            fun cell member => notices_quiet (find_none found member)
      | some cell =>
          obtain ⟨block, server⟩ := cell
          obtain ⟨member, passes⟩ := find_some found
          have identity := heartBeatServer_identity env passes
          have written : Follows [] reg (reg.set block (heartBeatServer env request server)) :=
            follows_set sound member (congrArg Prod.fst identity) rfl fun _ _ _ => rfl
          have answered := written.send (heartBeatSends cfg (heartBeatServer env request server))
          unfold HeartBeatRequest.notices
          simp only
          split
          · have marked := sound.set (heartBeatServer env request server) member identity
            have sent := marked.1.send (heartBeatSends cfg (heartBeatServer env request server))
            have addr : server.ip.sinAddr = sender.sinAddr :=
              congrArg Prod.fst (request_found_iff.mp passes)
            rw [← addr]
            exact answered.trans_life sent.1 rfl (follows_queueShutdown sent.1 (env.drawn 6) _)
          · exact answered

/-- Every operation changes the entries as its notices say. -/
theorem follows_exec {cfg : Config} (slow : cfg.bValidateNewserverImmediately = false)
    {env : Nat → Env} {op : Operation} {reg reg' : ServerList} (sound : reg.WellFormed)
    (done : exec cfg env op reg = some reg') : Follows (heard cfg op reg) reg reg' := by
  cases op with
  | addServer call => cases done; exact follows_addServer slow (env 0) call reg
  | queueShutdown sender => cases done; exact follows_queueShutdown sound (env 0) sender
  | runFrame => cases done; exact follows_runFrame cfg (env 0) reg
  | ack sender dataPacket dglen => cases done; exact follows_ack sound cfg (env 0) sender _ _
  | heartBeat sender data => cases done; exact follows_heartBeat slow sound (env 0) sender data
  | parseUDPMSList tmp gamename size => cases done; exact follows_addServers slow sound _
  | addServersFromListExecute fileBuffer gamename =>
      cases done; exact follows_addServers slow sound _
  | readMasterDBBlob file stale =>
      obtain ⟨calls, -, rfl⟩ := Option.map_eq_some_iff.mp done
      exact follows_addServers slow sound calls

/-! ## The journal of a run -/

/-- The standing of an entry is what the notices since its creation add up to. -/
def Accounted (journal : List Notice) (server : Server) : Prop :=
  ∃ before life, journal = before ++ .created server.key :: life ∧
    .created server.key ∉ life ∧
    server.standing = Standing.after server.key .fresh life

theorem created_not_heard (cfg : Config) (op : Operation) (reg : ServerList) (key : ServerKey) :
    .created key ∉ heard cfg op reg := by
  cases op with
  | queueShutdown sender => simp [heard]
  | ack sender dataPacket dglen =>
      change .created key ∉ ackNotices cfg sender dataPacket reg
      unfold ackNotices
      split <;> simp
  | heartBeat sender data =>
      change .created key ∉ heartBeatNotices sender data
      unfold heartBeatNotices HeartBeatRequest.notices
      split
      · simp
      · split <;> simp
  | _ => simp [heard]

theorem born_nodup (reg : ServerList) {reg' : ServerList} (sound : reg'.WellFormed) :
    (born reg reg').Nodup :=
  sound.cell_keys.sublist (List.filter_sublist.map _)

/-- An entry that was there is not among the new ones. -/
theorem not_born {reg reg' : ServerList} (sound : reg'.WellFormed) {cell : Nat × Server}
    (member : cell ∈ reg'.cells) (old : cell.1 < reg.nextBlock) : cell.2.key ∉ born reg reg' := by
  intro inside
  obtain ⟨other, kept, same⟩ := List.mem_map.mp inside
  obtain ⟨held, new⟩ := List.mem_filter.mp kept
  rw [sound.key_inj held member same] at new
  exact absurd (of_decide_eq_true new) (Nat.not_le.mpr old)

/-- One operation keeps the account of every entry. -/
theorem accounted_step {cfg : Config} (slow : cfg.bValidateNewserverImmediately = false)
    {env : Nat → Env} {op : Operation} {journal : List Notice} {reg reg' : ServerList}
    (sound : reg.WellFormed) (accounted : ∀ cell ∈ reg.cells, Accounted journal cell.2)
    (done : exec cfg env op reg = some reg') :
    ∀ cell ∈ reg'.cells, Accounted (journal ++ notices cfg op reg reg') cell.2 := by
  intro cell member
  have sound' := (exec_sound sound done).1
  rcases follows_exec slow sound done cell member with ⟨server, held, key, standing⟩ | ⟨new, fresh⟩
  · obtain ⟨before, life, journalEq, once, lifeEq⟩ := accounted _ held
    rw [key] at journalEq once lifeEq
    have old : cell.1 < reg.nextBlock := (sound.allocated _ (mem_identities held)).2
    refine ⟨before, life ++ notices cfg op reg reg', ?_, ?_, ?_⟩
    · rw [journalEq, List.append_assoc]
      rfl
    · have notBorn := not_born sound' member old
      simpa [notices, once, created_not_heard] using notBorn
    · rw [standing, lifeEq, notices, Standing.after_append, Standing.after_append,
        Standing.after_created]
  · have inside : cell.2.key ∈ born reg reg' :=
      List.mem_map_of_mem (List.mem_filter.mpr ⟨member, by simpa using new⟩)
    obtain ⟨early, late, bornEq⟩ := List.append_of_mem inside
    have distinct := born_nodup reg sound'
    rw [bornEq] at distinct
    refine ⟨journal ++ heard cfg op reg ++ early.map .created, late.map .created, ?_, ?_, ?_⟩
    · simp only [notices, bornEq, List.map_append, List.map_cons, List.append_assoc]
    · have apart := (List.nodup_cons.mp (List.nodup_append.mp distinct).2.1).1
      simpa using apart
    · rw [fresh, Standing.after_created]

theorem Run.accounted {cfg : Config} (slow : cfg.bValidateNewserverImmediately = false)
    {journal : List Notice} {reg : ServerList} (run : Run cfg journal reg) :
    ∀ cell ∈ reg.cells, Accounted journal cell.2 := by
  induction run with
  | start => exact fun cell member => nomatch member
  | step env op run done ih => exact accounted_step slow run.wellFormed ih done

/--
What the journal must say of an entry for it to be listed: since its creation
enough replies were matched, the latest one was accepted, and no shutdown was
announced after that.
-/
def Earned (minimumHeartbeats : UInt32) (journal : List Notice) (key : ServerKey) : Prop :=
  ∃ before life, journal = before ++ .created key :: life ∧ .created key ∉ life ∧
    minimumHeartbeats.toNat ≤ life.countP (Notice.acks key) ∧ LatestReplyAccepted key life

theorem Accounted.earned {journal : List Notice} {server : Server}
    (accounted : Accounted journal server) {minimumHeartbeats : UInt32}
    (enough : minimumHeartbeats ≤ server.heartbeats) (validated : server.validated = true)
    (running : server.shutdownIssued = false) : Earned minimumHeartbeats journal server.key := by
  obtain ⟨before, life, journalEq, once, standing⟩ := accounted
  refine ⟨before, life, journalEq, once, ?_, ?_⟩
  · have counted := Standing.after_heartbeats_le server.key life
    rw [← standing] at counted
    exact Nat.le_trans (UInt32.le_iff_toNat_le.mp enough) counted
  · refine Standing.after_accepted ?_ ?_
    · rw [← standing]
      exact validated
    · rw [← standing]
      exact running

end GSMaster.Registry
