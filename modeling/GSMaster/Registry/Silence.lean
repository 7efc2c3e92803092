import GSMaster.Registry.Entries
import GSMaster.Registry.FrameRule
import GSMaster.Registry.MasterList
import Mathlib.Data.List.Chain

/-!
# A silent server is forgotten

An entry whose server is not heard of is pinged in each pass of `RunFrame` that
comes an interval after its last ping, and a pass that finds seven pings without
a reply drops it. So eight passes that are an interval apart are the end of it,
whatever else the program does in the meantime.
-/

namespace GSMaster.Registry

open GSMaster.Text GSMaster.Net GSMaster.Games GSMaster.Library ServerList

/-! ## Runs on a clock -/

/-- The program hears from the server of a key: a reply of it, or a heartbeat for it. -/
def Operation.HearsFrom (key : ServerKey) : Operation → Prop
  | .ack sender _ _ => (sender.sinAddr, sender.sinPort) = key
  | .heartBeat sender data => ∃ request, parseHeartBeat data = some request ∧
      (sender.sinAddr, htons request.queryPort) = key
  | _ => False

/-- The time of a pass of `RunFrame`. -/
def Operation.passes (env : Nat → Env) : Operation → List UInt64
  | .runFrame => [(env 0).time 0]
  | _ => []

/-- All that `time(NULL)` returns lies between two values. -/
def Within (early late : UInt64) (env : Nat → Env) : Prop :=
  ∀ i k, early ≤ (env i).time k ∧ (env i).time k ≤ late

/-- A stretch of a run by some operations, with the clock and the passes of `RunFrame`. -/
inductive Stretch (cfg : Config) (runs : Operation → Prop) (start : UInt64) (reg : ServerList) :
    List UInt64 → UInt64 → ServerList → Prop where
  | start : Stretch cfg runs start reg [] start reg
  | step {passes : List UInt64} {now late : UInt64} {before after : ServerList} (env : Nat → Env)
      (op : Operation) (stretch : Stretch cfg runs start reg passes now before) (run : runs op)
      (within : Within now late env) (done : exec cfg env op before = some after) :
      Stretch cfg runs start reg (passes ++ op.passes env) late after

variable {cfg : Config} {runs : Operation → Prop} {env : Nat → Env} {op : Operation}
  {reg reg' : ServerList} {start now late : UInt64} {passes : List UInt64} {server server' : Server}

theorem Within.le (within : Within now late env) : now ≤ late :=
  UInt64.le_trans (within 0 0).1 (within 0 0).2

theorem Stretch.le (stretch : Stretch cfg runs start reg passes now reg') : start ≤ now := by
  induction stretch with
  | start => exact UInt64.le_refl start
  | step env op stretch run within done ih => exact UInt64.le_trans ih within.le

theorem Stretch.steps (stretch : Stretch cfg runs start reg passes now reg') :
    Relation.ReflTransGen (ServerList.Step cfg) reg reg' := by
  induction stretch with
  | start => exact .refl
  | step env op stretch run within done ih => exact ih.tail ⟨env, op, done⟩

/-! ## The times of the entries -/

/-- `udpRecordCall`, `blobRecordCall` and a line of a file hand their surroundings on. -/
theorem blobRecordCalls_env {env : Nat → Env} {index : Nat}
    {records : List (List UInt8 × UInt16)} {calls : List (Env × AddCall)}
    (read : blobRecordCalls env index records = some calls) :
    ∀ call ∈ calls, ∃ i, call.1 = env i := by
  induction records generalizing index calls with
  | nil =>
      obtain rfl := Option.some.inj read
      exact fun call member => nomatch member
  | cons record records ih =>
      obtain ⟨first, here, rest⟩ := Option.bind_eq_some_iff.mp read
      obtain ⟨others, there, same⟩ := Option.bind_eq_some_iff.mp rest
      obtain rfl := Option.some.inj same
      intro call member
      rcases List.mem_append.mp member with head | tail
      · obtain rfl := Option.mem_toList.mp head
        unfold blobRecordCall at here
        simp only at here
        split at here
        · cases here
        · split at here
          · cases here
          · exact ⟨index, by cases here; rfl⟩
      · exact ih there call tail

/-- The calls of an operation are made in its surroundings. -/
theorem Operation.calls_env (op : Operation) (env : Nat → Env) :
    ∀ call ∈ op.calls env, ∃ i, call.1 = env i := by
  intro call member
  cases op with
  | addServer added =>
      obtain rfl := List.mem_singleton.mp member
      exact ⟨0, rfl⟩
  | heartBeat sender data =>
      obtain ⟨request, -, rfl⟩ := Option.map_eq_some_iff.mp (Option.mem_toList.mp member)
      exact ⟨0, rfl⟩
  | parseUDPMSList tmp gamename size =>
      rw [calls, parseUDPMSList_eq] at member
      obtain ⟨i, -, called⟩ := List.mem_filterMap.mp member
      obtain ⟨addr, -, rfl⟩ := Option.map_eq_some_iff.mp called
      exact ⟨i, rfl⟩
  | addServersFromListExecute fileBuffer gamename =>
      obtain ⟨ip, listPtr, addr, port, name, -, -, rfl⟩ :=
        addServersFromListExecute_some (Option.mem_toList.mp member)
      exact ⟨0, rfl⟩
  | readMasterDBBlob file stale =>
      rw [calls] at member
      cases read : Registry.readMasterDBBlob env file stale with
      | none =>
          rw [read] at member
          cases member
      | some found =>
          rw [read] at member
          unfold Registry.readMasterDBBlob at read
          split at read
          · cases read
            cases member
          · split at read
            · cases read
              cases member
            · split at read
              · cases read
                cases member
              · exact blobRecordCalls_env read call member
  | queueShutdown sender => cases member
  | runFrame => cases member
  | ack sender dataPacket dglen => cases member

/-- What a run on a clock leaves in an entry. -/
structure Timely (interval now : UInt64) (server : Server) : Prop where
  heard : server.lastHeartbeat ≤ now
  pinged : ∃ time jitter, time ≤ now ∧ jitter < interval ∧ server.lastPing = time - jitter
  few : server.queuedPings ≤ 7

theorem Timely.later {interval : UInt64} (timely : Timely interval now server)
    (later : now ≤ late) : Timely interval late server := by
  obtain ⟨time, jitter, past, small, same⟩ := timely.pinged
  exact ⟨UInt64.le_trans timely.heard later,
    ⟨time, jitter, UInt64.le_trans past later, small, same⟩, timely.few⟩

theorem Timely.congr {interval : UInt64} (timely : Timely interval now server)
    (heard : server'.lastHeartbeat ≤ now) (pinged : server'.lastPing = server.lastPing)
    (few : server'.queuedPings ≤ server.queuedPings) : Timely interval now server' :=
  ⟨heard, by rw [pinged]; exact timely.pinged, UInt32.le_trans few timely.few⟩

theorem timely_new (positive : 0 < cfg.heartbeatInterval) (within : Within now late env)
    {made : Server} (new : Made cfg (op.calls env) made) :
    Timely cfg.heartbeatInterval late made := by
  obtain ⟨call, member, gamename, -, rfl⟩ := new
  obtain ⟨i, same⟩ := op.calls_env env call member
  refine ⟨?_, ⟨call.1.time 1, pingJitter cfg call.1, ?_, pingJitter_lt positive _, rfl⟩, ?_⟩
  · rw [same]
    exact (within i 0).2
  · rw [same]
    exact (within i 1).2
  · exact UInt32.zero_le

theorem Timely.visited (positive : 0 < cfg.heartbeatInterval) {frame : Env} {state : FrameState}
    (timely : Timely cfg.heartbeatInterval (frame.time 0) server)
    (left : (runFrameVisit cfg frame state server).1 = some server') :
    Timely cfg.heartbeatInterval (frame.time 0) server' := by
  rcases runFrameVisit_cases cfg frame state server with
    ⟨-, dropped⟩ | ⟨due, pinged⟩ | ⟨-, -, kept⟩
  · rw [dropped] at left
    cases left
  · rw [pinged] at left
    obtain rfl := Option.some.inj left
    obtain ⟨bound, counted⟩ := due.queued
    refine ⟨timely.heard, ⟨frame.time 0, _, UInt64.le_refl _, pingJitter_lt positive _, rfl⟩, ?_⟩
    refine UInt32.le_iff_toNat_le.mpr (counted.trans_le ?_)
    exact Nat.succ_le_succ bound
  · rw [kept] at left
    obtain rfl := Option.some.inj left
    exact timely

/-- What an operation writes in an entry has the time of the operation. -/
theorem Timely.written (positive : 0 < cfg.heartbeatInterval) (within : Within now late env)
    (timely : Timely cfg.heartbeatInterval now server) (writes : op.Writes cfg env server server') :
    Timely cfg.heartbeatInterval late server' := by
  have before := timely.later within.le
  cases op with
  | queueShutdown sender =>
      obtain rfl : server' = if sentBy sender server then _ else server := writes
      split
      · exact before.congr before.heard rfl (UInt32.le_refl _)
      · exact before
  | runFrame =>
      obtain ⟨state, visited⟩ := writes
      exact ((timely.later (within 0 0).1).visited positive visited).later (within 0 0).2
  | ack sender dataPacket dglen =>
      obtain rfl : server' = if sentBy sender server then _ else server := writes
      split
      · obtain ⟨serverInfo, nqData, stored⟩ := ackServer_stores cfg (env 0) dataPacket dglen server
        rw [stored]
        exact before.congr (within 0 0).2 rfl UInt32.zero_le
      · exact before
  | heartBeat sender data =>
      obtain rfl : server' = heartBeatWritten (env 0) sender data server := writes
      unfold heartBeatWritten HeartBeatRequest.written
      split
      · exact before
      · split
        · split
          · exact before.congr (within 0 0).2 rfl (UInt32.le_refl _)
          · exact before.congr (within 0 0).2 rfl (UInt32.le_refl _)
        · exact before
  | _ => obtain rfl := writes; exact before

theorem Stretch.timely (positive : 0 < cfg.heartbeatInterval) (sound : reg.WellFormed)
    (before : ∀ cell ∈ reg.cells, Timely cfg.heartbeatInterval start cell.2)
    (stretch : Stretch cfg runs start reg passes now reg') :
    ∀ cell ∈ reg'.cells, Timely cfg.heartbeatInterval now cell.2 := by
  induction stretch with
  | start => exact before
  | step env op stretch run within done ih =>
      intro cell member
      rcases exec_comes (run_sound sound stretch.steps).1 done cell member with
        ⟨server, held, writes⟩ | ⟨-, new⟩
      · exact (ih _ held).written positive within writes
      · exact timely_new positive within new

/-! ## An entry that waits -/

/-- The second of two times is an interval after the first, and more than a minute. -/
def Apart (interval time next : UInt64) : Prop :=
  time.toNat + interval.toNat ≤ next.toNat ∧ time.toNat + 60 < next.toNat

instance (interval : UInt64) : DecidableRel (Apart interval) :=
  fun _ _ => inferInstanceAs (Decidable (_ ∧ _))

/-- An entry that has not been heard of since `start`, after some passes up to `last`. -/
structure Waiting (interval start now : UInt64) (count : Nat) (last : UInt64) (server : Server) :
    Prop where
  heard : server.lastHeartbeat ≤ start
  after : start ≤ last
  counted : count ≤ server.queuedPings.toNat
  few : server.queuedPings ≤ 7
  pinged : ∃ time jitter, time ≤ now ∧ jitter < interval ∧ server.lastPing = time - jitter ∧
    (server.queuedPings.toNat = count → time ≤ last)

variable {interval last : UInt64} {count : Nat}

theorem Waiting.later (waiting : Waiting interval start now count last server)
    (later : now ≤ late) : Waiting interval start late count last server := by
  obtain ⟨time, jitter, past, rest⟩ := waiting.pinged
  exact ⟨waiting.heard, waiting.after, waiting.counted, waiting.few,
    time, jitter, UInt64.le_trans past later, rest⟩

theorem Waiting.congr (waiting : Waiting interval start now count last server)
    (heard : server'.lastHeartbeat = server.lastHeartbeat)
    (pinged : server'.lastPing = server.lastPing)
    (queued : server'.queuedPings = server.queuedPings) :
    Waiting interval start now count last server' :=
  ⟨heard ▸ waiting.heard, waiting.after, queued ▸ waiting.counted, queued ▸ waiting.few,
    by rw [pinged, queued]; exact waiting.pinged⟩

/-- A ping makes one more than there were passes. -/
theorem Waiting.ping (positive : 0 < cfg.heartbeatInterval) {frame : Env}
    (waiting : Waiting cfg.heartbeatInterval start now count last server)
    (due : server.PingDue cfg (frame.time 0)) (drawn : Nat) :
    count + 1 ≤ (pingedServer cfg frame drawn server).queuedPings.toNat ∧
      (pingedServer cfg frame drawn server).queuedPings ≤ 7 ∧
      ∃ jitter, jitter < cfg.heartbeatInterval ∧
        (pingedServer cfg frame drawn server).lastPing = frame.time 0 - jitter := by
  obtain ⟨bound, counted⟩ := due.queued
  refine ⟨?_, UInt32.le_iff_toNat_le.mpr ?_, _, pingJitter_lt positive _, rfl⟩
  · exact (Nat.succ_le_succ waiting.counted).trans counted.ge
  · exact counted.trans_le (Nat.succ_le_succ bound)

/-- A pass that is not counted keeps what is known. -/
theorem Waiting.visited (positive : 0 < cfg.heartbeatInterval) {frame : Env} {state : FrameState}
    (waiting : Waiting cfg.heartbeatInterval start (frame.time 0) count last server)
    (left : (runFrameVisit cfg frame state server).1 = some server') :
    Waiting cfg.heartbeatInterval start (frame.time 0) count last server' := by
  rcases runFrameVisit_cases cfg frame state server with
    ⟨-, dropped⟩ | ⟨due, pinged⟩ | ⟨-, -, kept⟩
  · rw [dropped] at left
    cases left
  · rw [pinged] at left
    obtain rfl := Option.some.inj left
    obtain ⟨counted, few, jitter, small, same⟩ := waiting.ping positive due state.drawn
    refine ⟨waiting.heard, waiting.after, Nat.le_of_succ_le counted, few,
      frame.time 0, jitter, UInt64.le_refl _, small, same, fun exact => ?_⟩
    exact absurd (exact ▸ counted) (Nat.not_succ_le_self count)
  · rw [kept] at left
    obtain rfl := Option.some.inj left
    exact waiting

/-- A pass an interval later pings the entry, unless it drops it. -/
theorem Waiting.pass (positive : 0 < cfg.heartbeatInterval) {frame : Env} {state : FrameState}
    (waiting : Waiting cfg.heartbeatInterval start (frame.time 0) count last server)
    (apart : Apart cfg.heartbeatInterval last (frame.time 0))
    (far : (frame.time 0).toNat + cfg.heartbeatInterval.toNat < 2 ^ 64)
    (left : (runFrameVisit cfg frame state server).1 = some server') :
    Waiting cfg.heartbeatInterval start (frame.time 0) (count + 1) (frame.time 0) server' := by
  have heard := UInt64.le_iff_toNat_le.mp waiting.heard
  have after := UInt64.le_iff_toNat_le.mp waiting.after
  have order : start ≤ frame.time 0 := UInt64.le_iff_toNat_le.mpr (by have := apart.1; omega)
  rcases runFrameVisit_cases cfg frame state server with
    ⟨-, dropped⟩ | ⟨due, pinged⟩ | ⟨fresh, early, kept⟩
  · rw [dropped] at left
    cases left
  · rw [pinged] at left
    obtain rfl := Option.some.inj left
    obtain ⟨counted, few, jitter, small, same⟩ := waiting.ping positive due state.drawn
    exact ⟨waiting.heard, order, counted, few,
      frame.time 0, jitter, UInt64.le_refl _, small, same, fun _ => UInt64.le_refl _⟩
  · rw [kept] at left
    obtain rfl := Option.some.inj left
    obtain ⟨time, jitter, past, small, same, recent⟩ := waiting.pinged
    have silent : server.Silent (frame.time 0) := by
      refine UInt64.lt_iff_toNat_lt.mpr ?_
      rw [UInt64.toNat_sub_of_le _ _ (UInt64.le_trans waiting.heard order)]
      have minute := apart.2
      change 60 < _
      omega
    have missed : ¬ (server.shutdownIssued = true ∨ 6 < server.queuedPings) :=
      fun old => fresh ⟨silent, old⟩
    have more : server.queuedPings.toNat ≠ count := by
      intro exact
      refine early ⟨silent, missed, UInt64.le_iff_toNat_le.mpr ?_⟩
      have passed := UInt64.le_iff_toNat_le.mp (recent exact)
      have small' := UInt64.lt_iff_toNat_lt.mp small
      have gap := apart.1
      have bound := time.toNat_lt
      -- `last_ping` may have gone round below zero, the difference to it has not.
      rw [same, UInt64.toNat_sub, UInt64.toNat_sub]
      omega
    have counted := waiting.counted
    exact ⟨waiting.heard, order, by omega, waiting.few, time, jitter, past, small, same,
      fun _ => past⟩

/-- What an operation that hears nothing of a server writes in its entry. -/
theorem Waiting.written (within : Within now late env)
    (unheard : ¬ op.HearsFrom server.key) (other : op ≠ .runFrame)
    (waiting : Waiting cfg.heartbeatInterval start now count last server)
    (writes : op.Writes cfg env server server') :
    Waiting cfg.heartbeatInterval start late count last server' := by
  have before := waiting.later within.le
  cases op with
  | queueShutdown sender =>
      obtain rfl : server' = if sentBy sender server then _ else server := writes
      split
      · exact before.congr rfl rfl rfl
      · exact before
  | runFrame => exact absurd rfl other
  | ack sender dataPacket dglen =>
      obtain rfl : server' = if sentBy sender server then _ else server := writes
      rw [if_neg fun sent => unheard (sentBy_iff.mp sent).symm]
      exact before
  | heartBeat sender data =>
      obtain rfl : server' = heartBeatWritten (env 0) sender data server := writes
      cases parsed : parseHeartBeat data with
      | none => rw [heartBeatWritten_none parsed]; exact before
      | some request =>
          have missed : ¬ request.found sender server = true := fun found =>
            unheard ⟨request, parsed, (request_found_iff.mp found).symm⟩
          rw [heartBeatWritten_some parsed, if_neg missed]
          exact before
  | _ => obtain rfl := writes; exact before

/-- Of the passes of an operation some are the last ones of a choice, or none is. -/
theorem sublist_passes {chosen : List UInt64} (op : Operation) (env : Nat → Env)
    (among : chosen.Sublist (passes ++ op.passes env)) :
    chosen.Sublist passes ∨ op = .runFrame ∧ ∃ earlier,
      chosen = earlier ++ [(env 0).time 0] ∧ earlier.Sublist passes := by
  obtain ⟨earlier, here, rfl, early, final⟩ := List.sublist_append_iff.mp among
  cases op with
  | runFrame =>
      rcases List.sublist_singleton.mp final with rfl | rfl
      · rw [List.append_nil]
        exact Or.inl early
      · exact Or.inr ⟨rfl, earlier, rfl, early⟩
  | _ =>
      obtain rfl := List.sublist_nil.mp final
      rw [List.append_nil]
      exact Or.inl early

/-- The entry of a silent server counts the passes that are an interval apart. -/
theorem Stretch.waiting (positive : 0 < cfg.heartbeatInterval) (sound : reg.WellFormed)
    {block : Nat} (registered : (block, server) ∈ reg.cells)
    (timely : Timely cfg.heartbeatInterval start server)
    (stretch : Stretch cfg (fun op => ¬ op.HearsFrom server.key) start reg passes now reg')
    (far : now.toNat + cfg.heartbeatInterval.toNat < 2 ^ 64) {chosen : List UInt64}
    (among : chosen.Sublist passes)
    (apart : (start :: chosen).IsChain (Apart cfg.heartbeatInterval))
    (held : (block, server') ∈ reg'.cells) :
    Waiting cfg.heartbeatInterval start now chosen.length (chosen.getLast?.getD start) server' := by
  induction stretch generalizing chosen server' with
  | start =>
      obtain rfl := List.sublist_nil.mp among
      obtain rfl := sound.cell_inj held registered
      obtain ⟨time, jitter, past, small, same⟩ := timely.pinged
      exact ⟨timely.heard, UInt64.le_refl _, Nat.zero_le _, timely.few,
        time, jitter, past, small, same, fun _ => past⟩
  | step env op stretch unheard within done ih =>
      rename_i passes now late before after
      obtain ⟨sound', keeps⟩ := run_sound sound stretch.steps
      have order := UInt64.le_iff_toNat_le.mp within.le
      have allocated := Nat.lt_of_lt_of_le (sound.allocated _ (mem_identities registered)).2
        keeps.grows
      rcases exec_comes sound' done _ held with ⟨old, there, writes⟩ | ⟨new, -⟩
      · have key : old.key = server.key :=
          congrArg Prod.fst (keeps.identity sound registered there)
        have silent : ¬ op.HearsFrom old.key := key ▸ unheard
        rcases sublist_passes op env among with early | ⟨rfl, earlier, rfl, early⟩
        · have waiting := ih (by omega) early apart there
          by_cases frame : op = .runFrame
          · obtain rfl := frame
            obtain ⟨state, visited⟩ := writes
            exact ((waiting.later (within 0 0).1).visited positive visited).later (within 0 0).2
          · exact waiting.written within silent frame writes
        · obtain ⟨state, visited⟩ := writes
          have chain : (start :: earlier ++ [(env 0).time 0]).IsChain
              (Apart cfg.heartbeatInterval) := apart
          obtain ⟨before, -, next⟩ := List.isChain_append.mp chain
          have gap := next (earlier.getLast?.getD start) (by simp [List.getLast?_cons]) _ rfl
          have waiting := (ih (by omega) early before there).later (within 0 0).1
          have bound := UInt64.le_iff_toNat_le.mp (within 0 0).2
          have counted := waiting.pass positive gap (by omega) visited
          rw [List.length_append, List.getLast?_concat]
          exact counted.later (within 0 0).2
      · exact absurd new (Nat.not_le.mpr allocated)

/--
When nothing is heard of the server of an entry any more, the entry is gone
after eight passes of `RunFrame` the first of which is an interval and more than
a minute later, as each is after the one before it. What else runs in between,
pings that come early for their jitter included, makes no difference.
-/
theorem silent_forgotten (positive : 0 < cfg.heartbeatInterval) {epoch : UInt64}
    {earlier : List UInt64} (run : Stretch cfg runs epoch ServerList.initial earlier start reg)
    {block : Nat} (registered : (block, server) ∈ reg.cells)
    (stretch : Stretch cfg (fun op => ¬ op.HearsFrom server.key) start reg passes now reg')
    (far : now.toNat + cfg.heartbeatInterval.toNat < 2 ^ 64) {chosen : List UInt64}
    (among : chosen.Sublist passes) (eight : chosen.length = 8)
    (apart : (start :: chosen).IsChain (Apart cfg.heartbeatInterval)) : ¬ reg'.Holds block := by
  rintro ⟨server', held⟩
  have sound := (run_sound initial_wellFormed run.steps).1
  have timely := run.timely positive initial_wellFormed (fun cell member => by cases member) _
    registered
  have waiting := stretch.waiting positive sound registered timely far among apart held
  have counted := waiting.counted
  have few := UInt32.le_iff_toNat_le.mp waiting.few
  have seven : (7 : UInt32).toNat = 7 := rfl
  omega

/-! ## Eight passes -/

/-- Surroundings at a time. -/
def atTime (time : UInt64) : Nat → Env :=
  fun _ => { quietEnv with time := fun _ => time }

/-- The registry after passes at some times. -/
def afterPasses (cfg : Config) (times : List UInt64) (reg : ServerList) : ServerList :=
  times.foldl (fun reg time => runFrame cfg (atTime time 0) reg) reg

theorem afterPasses_stretch (allowed : runs .runFrame) {times : List UInt64}
    (ordered : (start :: times).IsChain (· ≤ ·)) :
    Stretch cfg runs start reg times (times.getLast?.getD start) (afterPasses cfg times reg) := by
  induction times using List.reverseRecOn with
  | nil => exact .start
  | append_singleton times time ih =>
      obtain ⟨before, -, next⟩ := List.isChain_append.mp
        (show (start :: times ++ [time]).IsChain (· ≤ ·) from ordered)
      have later := next (times.getLast?.getD start) (by simp [List.getLast?_cons]) _ rfl
      rw [List.getLast?_concat, afterPasses, List.foldl_append]
      exact .step (atTime time) .runFrame (ih before) allowed
        (fun _ _ => ⟨later, UInt64.le_refl time⟩) rfl

/-- The registry after an Unreal server is registered at 100 seconds. -/
def unrealAlone : ServerList :=
  addServer defaultConfig (atTime 100 0)
    ⟨unrealServer, false, unrealServer.sinPort, some (ascii "unreal"), none⟩ .initial

/-- An Unreal server that is registered at 100 seconds and says no more is gone 40 minutes later. -/
theorem silent_forgotten_unreal :
    unrealAlone.Holds 1 ∧ ¬ (afterPasses defaultConfig
      [400, 700, 1000, 1300, 1600, 1900, 2200, 2500] unrealAlone).Holds 1 := by
  have run : Stretch defaultConfig (fun _ => True) 100 ServerList.initial [] 100 unrealAlone :=
    .step (atTime 100) (.addServer _) .start trivial
      (fun _ _ => ⟨UInt64.le_refl 100, UInt64.le_refl 100⟩) rfl
  have registered : unrealAlone.Holds 1 := ⟨_, List.mem_singleton_self _⟩
  obtain ⟨server, member⟩ := registered
  refine ⟨⟨server, member⟩, silent_forgotten (by decide) run member
    (afterPasses_stretch id (by decide)) (by decide) (List.Sublist.refl _) rfl (by decide)⟩

end GSMaster.Registry
