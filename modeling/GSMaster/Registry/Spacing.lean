import GSMaster.Library.Journal
import GSMaster.Registry.Entries
import GSMaster.Registry.FrameRule

/-!
# The time between two pings

A ping sets `last_ping` back by a random part of the interval, so that the next
one is due before an interval has passed. A run carries a diary of each entry
here: when it was pinged and by how much `last_ping` was set back, when its
server replied, and when it was removed for its silence.
-/

namespace GSMaster.Registry

open GSMaster.Text GSMaster.Net GSMaster.Games GSMaster.Library ServerList

/-- A ping of `RunFrame`; the jitter is `rand()%heartbeatInterval`. -/
structure NotedPing where
  time : UInt64
  jitter : UInt64
  deriving DecidableEq, Repr

inductive Tick where
  | pinged (ping : NotedPing)
  | answered
  | removed (time : UInt64)
  deriving DecidableEq, Repr

/-- The ticks of every entry, by its block. -/
abbrev Diary := Nat → List Tick

def Tick.ping? : Tick → Option NotedPing
  | .pinged ping => some ping
  | _ => none

/-- The pings of an entry. -/
def notedPings (ticks : List Tick) : List NotedPing :=
  ticks.filterMap Tick.ping?

/-- The pings since the last reply, after one more tick. -/
def Tick.collect (unanswered : List NotedPing) : Tick → List NotedPing
  | .pinged ping => unanswered ++ [ping]
  | .answered => []
  | .removed _ => unanswered

/-- The pings since the last reply. -/
def unansweredPings (ticks : List Tick) : List NotedPing :=
  ticks.foldl Tick.collect []

/-- Each ping is an interval after the one before it, less the jitter of that one. -/
def SpacedPings (interval : Nat) (ticks : List Tick) : Prop :=
  Spaced interval (fun ping => ping.time.toNat) (fun ping => ping.jitter.toNat) (notedPings ticks)

/--
Whenever the entry is removed for its silence, it has not replied to seven pings,
and six intervals have passed since the first of them, less the jitters of six.
-/
def Patient (interval : Nat) (ticks : List Tick) : Prop :=
  ∀ early time late, ticks = early ++ .removed time :: late →
    6 < (unansweredPings early).length ∧
      ∀ first ∈ (unansweredPings early).head?,
        first.time.toNat + 6 * interval ≤
          time.toNat + (((unansweredPings early).take 6).map fun ping => ping.jitter.toNat).sum

/-- What an interval promises of the pings of one entry. -/
structure Paced (interval : Nat) (ticks : List Tick) : Prop where
  spaced : SpacedPings interval ticks
  small : ∀ ping ∈ notedPings ticks, ping.jitter.toNat < interval
  patient : Patient interval ticks

/-! ## The runs -/

namespace ServerList

/-- The entry in a block. -/
def entry (reg : ServerList) (block : Nat) : Option Server :=
  (reg.cells.find? fun cell => cell.1 = block).map Prod.snd

end ServerList

/-- The tick of an entry in a pass; the jitter is what the new `last_ping` lacks of the time. -/
def frameTicks (cfg : Config) (env : Env) (server : Server) (after : Option Server) : List Tick :=
  let curtime := env.time 0
  if server.Expired curtime then if server.shutdownIssued then [] else [.removed curtime]
  else if server.PingDue cfg curtime then
    after.toList.map fun kept => .pinged ⟨curtime, curtime - kept.lastPing⟩
  else []

/-- The ticks of the entry of a block in an operation. -/
def Operation.ticks (cfg : Config) (env : Nat → Env) (op : Operation) (reg reg' : ServerList)
    (block : Nat) : List Tick :=
  match reg.entry block, op with
  | some server, .runFrame => frameTicks cfg (env 0) server (reg'.entry block)
  | some server, .ack sender _ _ => if sentBy sender server then [.answered] else []
  | _, _ => []

/-- The clock after an operation; only `RunFrame` is bound to it. -/
def Operation.clock (env : Nat → Env) (op : Operation) (clock : UInt64) : UInt64 :=
  match op with
  | .runFrame => (env 0).time 0
  | _ => clock

/-- The runs with a clock that does not go back. -/
inductive Timeline (cfg : Config) : UInt64 → Diary → ServerList → Prop where
  | start (clock : UInt64) : Timeline cfg clock (fun _ => []) ServerList.initial
  | step {clock : UInt64} {diary : Diary} {reg reg' : ServerList} (env : Nat → Env)
      (op : Operation) (run : Timeline cfg clock diary reg)
      (done : exec cfg env op reg = some reg') (later : clock ≤ op.clock env clock) :
      Timeline cfg (op.clock env clock)
        (fun block => diary block ++ op.ticks cfg env reg reg' block) reg'

/-! ## Diaries -/

variable {interval : Nat} {ticks : List Tick} {tick : Tick} {ping : NotedPing} {time : UInt64}

@[simp] theorem notedPings_snoc :
    notedPings (ticks ++ [tick]) = notedPings ticks ++ tick.ping?.toList := by
  rw [notedPings, List.filterMap_append]
  cases tick <;> rfl

@[simp] theorem unansweredPings_snoc :
    unansweredPings (ticks ++ [tick]) = tick.collect (unansweredPings ticks) := by
  rw [unansweredPings, List.foldl_append]
  rfl

/-- The pings without a reply are the last ones. -/
theorem unansweredPings_suffix (ticks : List Tick) :
    unansweredPings ticks <:+ notedPings ticks := by
  induction ticks using List.reverseRecOn with
  | nil => exact List.suffix_refl _
  | append_singleton ticks tick ih =>
      rw [notedPings_snoc, unansweredPings_snoc]
      cases tick with
      | pinged ping =>
          obtain ⟨answered, split⟩ := ih
          exact ⟨answered, by rw [← split]; exact (List.append_assoc ..).symm⟩
      | answered => exact List.nil_suffix
      | removed time =>
          change unansweredPings ticks <:+ notedPings ticks ++ []
          rwa [List.append_nil]

/-- A tick in front of which the diary ends is the last of a longer one, or an earlier one. -/
theorem Patient.snoc (patient : Patient interval ticks)
    (last : ∀ time, tick = .removed time → 6 < (unansweredPings ticks).length ∧
      ∀ first ∈ (unansweredPings ticks).head?, first.time.toNat + 6 * interval ≤
        time.toNat + (((unansweredPings ticks).take 6).map fun ping => ping.jitter.toNat).sum) :
    Patient interval (ticks ++ [tick]) := by
  intro early time late parted
  rcases List.eq_nil_or_concat late with rfl | ⟨late, final, rfl⟩
  · obtain ⟨rfl, ends⟩ := List.append_inj' parted rfl
    exact last time (List.cons.inj ends).1
  · have shorter : ticks ++ [tick] = (early ++ .removed time :: late) ++ [final] := by
      rw [parted]
      simp
    exact patient early time late (List.append_inj' shorter rfl).1

/-- Seven spaced pings take six intervals, less the jitters of the first six. -/
theorem SpacedPings.patient (spaced : SpacedPings interval ticks)
    (passed : ∀ ping ∈ notedPings ticks, ping.time.toNat ≤ time.toNat)
    (silent : 6 < (unansweredPings ticks).length) :
    ∀ first ∈ (unansweredPings ticks).head?, first.time.toNat + 6 * interval ≤
      time.toNat + (((unansweredPings ticks).take 6).map fun ping => ping.jitter.toNat).sum := by
  have suffix := unansweredPings_suffix ticks
  have chain := spaced.of_suffix suffix
  have there := List.getElem?_eq_getElem silent
  have held := passed _ (suffix.subset (List.getElem_mem silent))
  intro first starts
  cases unanswered : unansweredPings ticks with
  | nil =>
      rw [unanswered] at starts
      cases starts
  | cons head rest =>
      rw [unanswered] at starts
      obtain rfl := Option.some.inj starts
      simp only [unanswered] at chain there held
      have far := chain.far there
      omega

/-! ## The ticks of an operation -/

variable {cfg : Config} {env : Nat → Env} {op : Operation} {reg reg' : ServerList} {block : Nat}
  {server : Server} {clock : UInt64} {diary : Diary}

theorem entry_eq_some_iff (sound : reg.WellFormed) :
    reg.entry block = some server ↔ (block, server) ∈ reg.cells := by
  rw [entry, Option.map_eq_some_iff]
  constructor
  · rintro ⟨⟨held, _⟩, found, rfl⟩
    obtain rfl : held = block := by simpa using List.find?_some found
    exact List.mem_of_find?_eq_some found
  · intro member
    cases found : reg.cells.find? fun cell => cell.1 = block with
    | none => exact absurd (decide_eq_true rfl) (List.find?_eq_none.mp found _ member)
    | some cell =>
        obtain ⟨held, other⟩ := cell
        obtain rfl : held = block := by simpa using List.find?_some found
        exact ⟨_, rfl, sound.cell_inj (List.mem_of_find?_eq_some found) member⟩

/-- What the ticks of an entry in one operation say about it. -/
inductive Ticked (cfg : Config) (curtime : UInt64) (server : Server) : List Tick → Prop where
  | quiet : Ticked cfg curtime server []
  | pinged (due : server.PingDue cfg curtime) (jitter : UInt64)
      (small : 0 < cfg.heartbeatInterval → jitter < cfg.heartbeatInterval) :
      Ticked cfg curtime server [.pinged ⟨curtime, jitter⟩]
  | answered : Ticked cfg curtime server [.answered]
  | removed (silent : 6 < server.queuedPings) : Ticked cfg curtime server [.removed curtime]

theorem sub_sub_self (time jitter : UInt64) : time - (time - jitter) = jitter := by
  grind

/-- In a pass an entry that is due is kept as it was pinged. -/
theorem runFrame_pinged (sound : reg.WellFormed) {env : Env} (member : (block, server) ∈ reg.cells)
    (due : server.PingDue cfg (env.time 0)) {kept : Server}
    (after : (block, kept) ∈ (runFrame cfg env reg).cells) :
    ∃ drawn, kept = pingedServer cfg env drawn server := by
  obtain ⟨other, held, state, visited⟩ := mem_sweepCells after
  obtain rfl := sound.cell_inj held member
  rw [runFrameVisit_due due] at visited
  exact ⟨state.drawn, (Option.some.inj visited).symm⟩

theorem ticks_spec (sound : reg.WellFormed) (done : exec cfg env op reg = some reg')
    (clock : UInt64) (block : Nat) :
    op.ticks cfg env reg reg' block = [] ∨ ∃ server, (block, server) ∈ reg.cells ∧
      Ticked cfg (op.clock env clock) server (op.ticks cfg env reg reg' block) := by
  unfold Operation.ticks
  cases held : reg.entry block with
  | none => exact Or.inl rfl
  | some server =>
      have member := (entry_eq_some_iff sound).mp held
      cases op with
      | runFrame =>
          refine Or.inr ⟨server, member, ?_⟩
          change Ticked cfg ((env 0).time 0) server (frameTicks cfg (env 0) server _)
          unfold frameTicks
          by_cases expired : server.Expired ((env 0).time 0)
          · simp only [if_pos expired]
            cases shut : server.shutdownIssued with
            | true => exact .quiet
            | false => exact .removed (expired.2.resolve_left (Bool.eq_false_iff.mp shut))
          · simp only [if_neg expired]
            by_cases due : server.PingDue cfg ((env 0).time 0)
            · simp only [if_pos due]
              cases after : reg'.entry block with
              | none => exact .quiet
              | some kept =>
                  have left := (entry_eq_some_iff (exec_sound sound done).1).mp after
                  cases done
                  obtain ⟨drawn, rfl⟩ := runFrame_pinged sound member due left
                  refine .pinged due _ fun positive => ?_
                  change _ - (_ - _) < _
                  rw [sub_sub_self]
                  exact pingJitter_lt positive _
            · simp only [if_neg due]
              exact .quiet
      | ack sender dataPacket dglen =>
          refine Or.inr ⟨server, member, ?_⟩
          change Ticked cfg clock server (if sentBy sender server then [.answered] else [])
          split
          · exact .answered
          · exact .quiet
      | _ => exact Or.inl rfl

/-! ## The entries and their diaries -/

/-- The diary of an entry accounts for its counter and its `last_ping`. -/
structure Noted (server : Server) (ticks : List Tick) : Prop where
  counted : (unansweredPings ticks).length = server.queuedPings.toNat
  last : ∀ ping ∈ (notedPings ticks).getLast?, server.lastPing = ping.time - ping.jitter

theorem Noted.congr {server' : Server} (noted : Noted server ticks)
    (queued : server'.queuedPings = server.queuedPings)
    (last : server'.lastPing = server.lastPing) : Noted server' ticks :=
  ⟨by rw [queued]; exact noted.counted, fun ping final => last.trans (noted.last ping final)⟩

theorem noted_new (cfg : Config) (env : Env) (call : AddCall) (gamename : CString) :
    Noted (newServer cfg env call gamename) [] :=
  ⟨rfl, fun _ final => by cases final⟩

theorem Noted.pinged (noted : Noted server ticks) {env : Env}
    (due : server.PingDue cfg (env.time 0)) (drawn : Nat) :
    Noted (pingedServer cfg env drawn server)
      (ticks ++ [.pinged ⟨env.time 0,
        env.time 0 - (pingedServer cfg env drawn server).lastPing⟩]) := by
  constructor
  · rw [unansweredPings_snoc, Tick.collect, List.length_append, noted.counted]
    exact due.queued.2.symm
  · intro ping final
    rw [notedPings_snoc] at final
    obtain rfl := Option.some.inj ((List.getLast?_concat).symm.trans final)
    exact (sub_sub_self _ _).symm

theorem Noted.acked (noted : Noted server ticks) (cfg : Config) (env : Env)
    (dataPacket : List UInt8) (dglen : UInt64) :
    Noted (ackServer cfg env dataPacket dglen server) (ticks ++ [.answered]) := by
  obtain ⟨serverInfo, nqData, stored⟩ := ackServer_stores cfg env dataPacket dglen server
  rw [stored]
  constructor
  · rw [unansweredPings_snoc]
    rfl
  · intro ping final
    rw [notedPings_snoc] at final
    exact noted.last ping (by simpa [Tick.ping?] using final)

/-- A heartbeat does not touch the counter and `last_ping`. -/
theorem heartBeatWritten_noted (noted : Noted server ticks) (env : Env) (sender : SockaddrIn)
    (data : List UInt8) : Noted (heartBeatWritten env sender data server) ticks := by
  unfold heartBeatWritten
  split
  · exact noted
  · split
    · unfold HeartBeatRequest.written
      split
      · exact noted.congr rfl rfl
      · exact noted.congr rfl rfl
    · exact noted

/-- What is written in an entry is noted in its diary. -/
theorem noted_step (sound : reg.WellFormed) (sound' : reg'.WellFormed) {server' : Server}
    (held : (block, server) ∈ reg.cells) (kept : (block, server') ∈ reg'.cells)
    (writes : op.Writes cfg env server server') (noted : Noted server ticks) :
    Noted server' (ticks ++ op.ticks cfg env reg reg' block) := by
  unfold Operation.ticks
  rw [(entry_eq_some_iff sound).mpr held, (entry_eq_some_iff sound').mpr kept]
  have quiet {other : Server} (noted : Noted other ticks) : Noted other (ticks ++ []) := by
    rwa [List.append_nil]
  cases op with
  | runFrame =>
      obtain ⟨state, visited⟩ := writes
      change Noted server' (ticks ++ frameTicks cfg (env 0) server (some server'))
      unfold frameTicks
      rcases runFrameVisit_cases cfg (env 0) state server with
        ⟨-, dropped⟩ | ⟨due, pinged⟩ | ⟨fresh, early, same⟩
      · rw [dropped] at visited
        cases visited
      · rw [pinged] at visited
        obtain rfl := Option.some.inj visited
        simp only [if_neg fun expired : server.Expired _ => expired.not_due due, if_pos due]
        exact noted.pinged due state.drawn
      · rw [same] at visited
        obtain rfl := Option.some.inj visited
        simp only [if_neg fresh, if_neg early]
        exact quiet noted
  | ack sender dataPacket dglen =>
      change server' = if sentBy sender server then _ else server at writes
      change Noted server' (ticks ++ if sentBy sender server then [.answered] else [])
      by_cases sent : sentBy sender server = true
      · rw [if_pos sent] at writes ⊢
        exact writes ▸ noted.acked cfg (env 0) dataPacket dglen
      · rw [if_neg sent] at writes ⊢
        exact writes ▸ quiet noted
  | queueShutdown sender =>
      obtain rfl : server' = if sentBy sender server then _ else server := writes
      split
      · exact quiet (noted.congr rfl rfl)
      · exact quiet noted
  | heartBeat sender data =>
      obtain rfl : server' = heartBeatWritten (env 0) sender data server := writes
      exact quiet (heartBeatWritten_noted noted (env 0) sender data)
  | _ =>
      obtain rfl := writes
      exact quiet noted

/-! ## The pace of a run -/

/-- The state of a run: no block has a diary before it is handed out, and no ping is to come. -/
structure Recorded (clock : UInt64) (diary : Diary) (reg : ServerList) : Prop where
  sound : reg.WellFormed
  unused : ∀ block, reg.nextBlock ≤ block → diary block = []
  noted : ∀ cell ∈ reg.cells, Noted cell.2 (diary cell.1)
  passed : ∀ block, ∀ ping ∈ notedPings (diary block), ping.time ≤ clock

theorem Paced.nil (interval : Nat) : Paced interval [] where
  spaced := List.isChain_nil
  small _ inside := by cases inside
  patient early time late parted := by
    cases early with
    | nil => cases parted
    | cons _ _ => cases parted

/-- The next ping is due an interval after `last_ping`. -/
theorem Noted.due_spaced (noted : Noted server ticks) {curtime : UInt64}
    (due : server.PingDue cfg curtime) (passed : ∀ ping ∈ notedPings ticks, ping.time ≤ curtime) :
    ∀ last ∈ (notedPings ticks).getLast?,
      last.time.toNat + cfg.heartbeatInterval.toNat ≤ curtime.toNat + last.jitter.toNat := by
  intro last final
  have late := UInt64.le_iff_toNat_le.mp due.2.2
  have before := UInt64.le_iff_toNat_le.mp (passed last (List.mem_of_getLast? final))
  have bound := curtime.toNat_lt
  -- both differences are taken modulo 2^64, and the clock has not gone back since that ping
  rw [noted.last last final, UInt64.toNat_sub, UInt64.toNat_sub] at late
  omega

/-- A tick that is no ping leaves the pings as they are. -/
theorem Paced.unpinged (paced : Paced interval ticks) (other : tick.ping? = none)
    (patient : Patient interval (ticks ++ [tick])) : Paced interval (ticks ++ [tick]) := by
  have same : notedPings (ticks ++ [tick]) = notedPings ticks := by
    rw [notedPings_snoc, other]
    exact List.append_nil _
  refine ⟨?_, ?_, patient⟩
  · rw [SpacedPings, same]
    exact paced.spaced
  · rw [same]
    exact paced.small

/-- One tick keeps the pace. -/
theorem Paced.step (positive : 0 < cfg.heartbeatInterval) {curtime : UInt64} {added : List Tick}
    (paced : Paced cfg.heartbeatInterval.toNat ticks) (noted : Noted server ticks)
    (passed : ∀ ping ∈ notedPings ticks, ping.time ≤ curtime)
    (ticked : Ticked cfg curtime server added) :
    Paced cfg.heartbeatInterval.toNat (ticks ++ added) := by
  cases ticked with
  | quiet =>
      rw [List.append_nil]
      exact paced
  | pinged due jitter small =>
      refine ⟨?_, ?_, paced.patient.snoc fun time same => by cases same⟩
      · rw [SpacedPings, notedPings_snoc]
        exact spaced_snoc_iff.mpr ⟨paced.spaced, noted.due_spaced due passed⟩
      · intro ping inside
        rw [notedPings_snoc] at inside
        rcases List.mem_append.mp inside with old | new
        · exact paced.small ping old
        · obtain rfl := List.mem_singleton.mp new
          exact UInt64.lt_iff_toNat_lt.mp (small positive)
  | answered =>
      refine paced.unpinged rfl (paced.patient.snoc fun time same => ?_)
      cases same
  | removed silent =>
      have many : 6 < (unansweredPings ticks).length := by
        rw [noted.counted]
        exact UInt32.lt_iff_toNat_lt.mp silent
      refine paced.unpinged rfl (paced.patient.snoc fun time here => ?_)
      cases here
      exact ⟨many, paced.spaced.patient
        (fun ping inside => UInt64.le_iff_toNat_le.mp (passed ping inside)) many⟩

/-- Every tick is made at the time of the clock. -/
theorem Ticked.passed {curtime : UInt64} {added : List Tick}
    (ticked : Ticked cfg curtime server added) :
    ∀ ping ∈ notedPings added, ping.time = curtime := by
  intro ping inside
  cases ticked with
  | pinged due jitter small =>
      obtain rfl := List.mem_singleton.mp inside
      rfl
  | quiet => cases inside
  | answered => cases inside
  | removed silent => cases inside

theorem Recorded.step (recorded : Recorded clock diary reg)
    (done : exec cfg env op reg = some reg') (later : clock ≤ op.clock env clock) :
    Recorded (op.clock env clock)
      (fun block => diary block ++ op.ticks cfg env reg reg' block) reg' := by
  obtain ⟨sound', keeps⟩ := exec_sound recorded.sound done
  have ticked := ticks_spec recorded.sound done clock
  have idle : ∀ block, reg.nextBlock ≤ block → op.ticks cfg env reg reg' block = [] := by
    intro block unused
    rcases ticked block with none | ⟨server, held, -⟩
    · exact none
    · have old := (recorded.sound.allocated _ (mem_identities held)).2
      exact absurd unused (Nat.not_le.mpr old)
  refine ⟨sound', fun block new => ?_, fun cell kept => ?_, fun block ping inside => ?_⟩
  · have unused := Nat.le_trans keeps.grows new
    rw [idle block unused, recorded.unused block unused]
    rfl
  · rcases exec_comes recorded.sound done cell kept with
      ⟨server, held, writes⟩ | ⟨new, ⟨call, -, gamename, -, made⟩⟩
    · exact noted_step recorded.sound sound' held kept writes (recorded.noted _ held)
    · rw [idle cell.1 new, recorded.unused cell.1 new, made]
      exact noted_new cfg call.1 call.2 gamename
  · rw [notedPings, List.filterMap_append] at inside
    rcases List.mem_append.mp inside with old | now
    · exact UInt64.le_trans (recorded.passed block ping old) later
    · rcases ticked block with none | ⟨server, -, ticks⟩
      · rw [none] at now
        cases now
      · exact UInt64.le_of_eq (ticks.passed ping now)

theorem Timeline.recorded (run : Timeline cfg clock diary reg) : Recorded clock diary reg := by
  induction run with
  | start clock =>
      refine ⟨initial_wellFormed, fun _ _ => rfl, fun _ held => ?_, fun _ _ inside => ?_⟩
      · cases held
      · cases inside
  | step env op run done later ih => exact ih.step done later

/-- Two pings of an entry are an interval apart, less the jitter of the first of them. -/
theorem timeline_paced (minute : 60 ≤ cfg.heartbeatInterval) (run : Timeline cfg clock diary reg)
    (block : Nat) : Paced cfg.heartbeatInterval.toNat (diary block) := by
  have positive : 0 < cfg.heartbeatInterval := UInt64.lt_of_lt_of_le (by decide) minute
  induction run with
  | start clock => exact Paced.nil _
  | step env op run done later ih =>
      have recorded := run.recorded
      simp only
      rcases ticks_spec recorded.sound done _ block with none | ⟨server, held, ticked⟩
      · rw [none, List.append_nil]
        exact ih
      · exact ih.step positive (recorded.noted _ held)
          (fun ping inside => UInt64.le_trans (recorded.passed block ping inside) later) ticked

/-! ## A hasty run -/

/-- Pings that are whole intervals apart, and six intervals before a removal. -/
structure Unhurried (interval : Nat) (ticks : List Tick) : Prop where
  spaced : Spaced interval (fun ping => ping.time.toNat) (fun _ => 0) (notedPings ticks)
  patient : ∀ early time late, ticks = early ++ .removed time :: late →
    ∀ first ∈ (unansweredPings early).head?, first.time.toNat + 6 * interval ≤ time.toNat

/-- Surroundings at a time, where `rand()` returns the largest jitter of five minutes. -/
def hastyEnv (time : UInt64) : Nat → Env :=
  fun _ => ⟨fun _ => time, fun _ => 299, fun _ => none⟩

def hastyCall : AddCall :=
  ⟨unrealServer, false, unrealServer.sinPort, some (ascii "unreal"), none⟩

/-- The registry of a new server after passes at some times, the last one first. -/
def hastyRegistry : List UInt64 → ServerList
  | [] => addServer defaultConfig quietEnv hastyCall .initial
  | time :: earlier => runFrame defaultConfig (hastyEnv time 0) (hastyRegistry earlier)

def hastyDiary : List UInt64 → Diary
  | [] => fun _ => []
  | time :: earlier => fun block => hastyDiary earlier block ++
      Operation.runFrame.ticks defaultConfig (hastyEnv time) (hastyRegistry earlier)
        (hastyRegistry (time :: earlier)) block

theorem hasty_timeline (times : List UInt64)
    (falling : times.IsChain fun time time' => time' ≤ time) :
    Timeline defaultConfig (times.headD 0) (hastyDiary times) (hastyRegistry times) := by
  induction times with
  | nil =>
      exact .step (fun _ => quietEnv) (.addServer hastyCall) (.start 0) rfl (UInt64.le_refl 0)
  | cons time earlier ih =>
      refine .step (hastyEnv time) .runFrame (ih falling.tail) rfl ?_
      cases earlier with
      | nil => exact UInt64.zero_le
      | cons time' earlier => exact (List.isChain_cons_cons.mp falling).1

def hastyTimes : List UInt64 :=
  [307, 306, 305, 304, 303, 302, 301, 300]

/-- With the largest jitter each time, an entry is pinged every second and gone after seven. -/
theorem hasty_timeline_hurried :
    Timeline defaultConfig 307 (hastyDiary hastyTimes) (hastyRegistry hastyTimes) ∧
      hastyDiary hastyTimes 1 =
        [.pinged ⟨300, 299⟩, .pinged ⟨301, 299⟩, .pinged ⟨302, 299⟩, .pinged ⟨303, 299⟩,
          .pinged ⟨304, 299⟩, .pinged ⟨305, 299⟩, .pinged ⟨306, 299⟩, .removed 307] ∧
      ¬ Unhurried defaultConfig.heartbeatInterval.toNat (hastyDiary hastyTimes 1) := by
  have ticks : hastyDiary hastyTimes 1 =
      [.pinged ⟨300, 299⟩, .pinged ⟨301, 299⟩, .pinged ⟨302, 299⟩, .pinged ⟨303, 299⟩,
        .pinged ⟨304, 299⟩, .pinged ⟨305, 299⟩, .pinged ⟨306, 299⟩, .removed 307] := by
    decide +kernel
  refine ⟨hasty_timeline hastyTimes (by decide), ticks, fun unhurried => ?_⟩
  have spaced := unhurried.spaced
  rw [ticks] at spaced
  have near := (List.isChain_cons_cons.mp spaced).1
  exact absurd near (by decide)

theorem timeline_paced_hasty :
    Paced defaultConfig.heartbeatInterval.toNat (hastyDiary hastyTimes 1) :=
  timeline_paced (by decide) (hasty_timeline hastyTimes (by decide)) 1

end GSMaster.Registry
