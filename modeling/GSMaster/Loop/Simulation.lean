import GSMaster.Downloads.Files
import GSMaster.Downloads.QueueOrder
import GSMaster.Loop.Program
import GSMaster.Registry.Invariant

/-!
# The loop runs the operations

Each part of an iteration changes only its own part of the program. To the
registry the whole iteration is a run of its operations, to the downloads a run
of theirs, so that what holds of their runs holds of the program.
-/

namespace GSMaster.Loop

open GSMaster.Text GSMaster.Net GSMaster.Registry GSMaster.Lists GSMaster.Library
open GSMaster.Downloads GSMaster.Startup

variable {setup : Setup} {met : Surroundings}

/-! ## What each part changes -/

/-- A batch of calls is a run of single calls. -/
theorem addServers_run (cfg : Config) (calls : List (Env × AddCall)) (reg : ServerList) :
    Relation.ReflTransGen (ServerList.Step cfg) reg (addServers cfg calls reg) := by
  induction calls generalizing reg with
  | nil => exact .refl
  | cons call calls ih =>
      exact (ih _).head ⟨fun _ => call.1, .addServer call.2, rfl⟩

namespace Program

/-- The calls for the lines of a file, if it opens. -/
def fileCalls (env : Nat → Env) (file : Option (List UInt8)) (gamename : Option CString) :
    List (Env × AddCall) :=
  (file.map fun content => Registry.addServersFromList env content gamename).getD []

theorem addServersFromList_eq (env : Nat → Env) (file : Option (List UInt8))
    (gamename : Option CString) (program : Program) :
    program.addServersFromList setup env file gamename = { program with
      registry := addServers setup.cfg (fileCalls env file gamename) program.registry } := by
  cases file with
  | none => rfl
  | some content => rfl

/-- The calls for the lists of some downloads. -/
def listCalls (met : Surroundings) : Nat → List (CString × CString) → List (Env × AddCall)
  | _, [] => []
  | index, list :: lists =>
      fileCalls (met.lines index) (met.file list.1) (some list.2) ++
        listCalls met (index + 1) lists

theorem loadLists_eq (index : Nat) (lists : List (CString × CString)) (program : Program) :
    loadLists setup met index lists program = { program with
      registry := addServers setup.cfg (listCalls met index lists) program.registry } := by
  induction lists generalizing index program with
  | nil => rfl
  | cons list lists ih =>
      rw [loadLists, ih, addServersFromList_eq]
      simp only [listCalls, addServers, List.foldl_append]

/-- The calls for the lists of the downloads that are done when an iteration begins. -/
def finishedCalls (met : Surroundings) (program : Program) : List (Env × AddCall) :=
  listCalls met 0 (finishAll met.messages program.curl.pool).2

/-- The downloads that are done add servers, and the queue may start another one. -/
theorem curlHttpUpdate_spec {program after : Program}
    (done : program.curlHttpUpdate setup met = some after) :
    ∃ curl, after = { program with
        registry := addServers setup.cfg (finishedCalls met program) program.registry
        curl := curl } ∧
      CurlState.scheduleQueue met.queueSupply
        ⟨(finishAll met.messages program.curl.pool).1, program.curl.curlQueue⟩ = some curl := by
  obtain ⟨curl, scheduled, rfl⟩ := Option.map_eq_some_iff.mp done
  rw [loadLists_eq] at scheduled ⊢
  exact ⟨curl, rfl, scheduled⟩

/-- The lists of downloads go to the slots and the queue. -/
theorem httpDlList_spec {program after : Program}
    (done : program.httpDlList setup met = some after) :
    (¬ setup.Downloads ∧ program = after) ∨
      setup.Downloads ∧ ∃ requests curl,
        downloadAll met.listSupply 0 requests program.curl = some curl ∧
        after = { program with curl := curl, lastMasterListDL := met.httpStamped } := by
  unfold httpDlList at done
  by_cases enabled : setup.Downloads
  · rw [if_pos enabled] at done
    obtain ⟨curl, downloaded, rfl⟩ := Option.map_eq_some_iff.mp done
    exact Or.inr ⟨enabled, _, curl, downloaded, rfl⟩
  · rw [if_neg enabled] at done
    exact Or.inl ⟨enabled, Option.some.inj done⟩

/-- The time at which the scraping of other masters sets its timer, if it does so. -/
def scrapeStamp (setup : Setup) (met : Surroundings) (last : Rat) : Rat :=
  if setup.settings.loadMasterServerlist then met.masterStamped
  else if setup.Downloads then met.httpStamped
  else last

theorem scrapeNow_spec {program after : Program}
    (done : program.scrapeNow setup met = some after) :
    ∃ requests curl answers,
      downloadAll met.listSupply 0 requests program.curl = some curl ∧
      after = { program with
        curl := curl
        lastMasterListDL := scrapeStamp setup met program.lastMasterListDL
        answers := answers } := by
  obtain ⟨listed, first, rfl⟩ := Option.map_eq_some_iff.mp done
  unfold scrapeStamp
  by_cases master : setup.settings.loadMasterServerlist = true
  · simp only [if_pos master]
    rcases httpDlList_spec first with ⟨-, rfl⟩ | ⟨-, requests, curl, downloaded, rfl⟩
    · exact ⟨[], program.curl, _, rfl, rfl⟩
    · exact ⟨requests, curl, _, downloaded, rfl⟩
  · simp only [if_neg master]
    rcases httpDlList_spec first with ⟨disabled, rfl⟩ | ⟨enabled, requests, curl, downloaded, rfl⟩
    · exact ⟨[], program.curl, program.answers, rfl, by rw [if_neg disabled]⟩
    · exact ⟨requests, curl, program.answers, downloaded, by rw [if_pos enabled]⟩

theorem scrape_spec {program after : Program} (done : program.scrape setup met = some after) :
    ∃ requests curl answers,
      downloadAll met.listSupply 0 requests program.curl = some curl ∧
      after = { program with
        curl := curl
        lastMasterListDL :=
          if Overdue masterlistdltime program.lastMasterListDL met.scrapeTested then
            scrapeStamp setup met program.lastMasterListDL
          else program.lastMasterListDL
        answers := answers } := by
  unfold scrape at done
  by_cases late : Overdue masterlistdltime program.lastMasterListDL met.scrapeTested
  · rw [if_pos late] at done
    obtain ⟨requests, curl, answers, downloaded, rfl⟩ := scrapeNow_spec done
    exact ⟨requests, curl, answers, downloaded, by rw [if_pos late]⟩
  · rw [if_neg late] at done
    obtain rfl := Option.some.inj done
    exact ⟨[], program.curl, program.answers, rfl, by rw [if_neg late]⟩

/-- The file after a save of a registry over what was there. -/
def savedFile (met : Surroundings) (reg : ServerList) (old : Option (List UInt8)) :
    Option (List UInt8) :=
  if met.dbOpens then
    some (if met.dbAllocates then Database.generateMasterDBBlob reg.servers else [])
  else old

theorem save_spec (met : Surroundings) (program : Program) :
    program.save met = { program with
      database :=
        if Overdue dbsavetime program.lastDBSave met.saveTested then
          savedFile met program.registry program.database
        else program.database
      lastDBSave := timerAfter (fun met : Surroundings => (met.saveTested : Rat))
        (fun met => met.saveStamped) dbsavetime program.lastDBSave met } := by
  unfold save timerAfter generateMasterDBBlob savedFile
  by_cases late : Overdue dbsavetime program.lastDBSave met.saveTested
  · rw [if_pos late, if_pos late, if_pos late]
    split <;> rfl
  · rw [if_neg late, if_neg late, if_neg late]

theorem generate_spec (setup : Setup) (met : Surroundings) (program : Program) :
    ∃ last files, program.generate setup met = { program with
      lastServerListGeneration := last
      listFiles := files } := by
  unfold generate
  split
  · exact ⟨_, _, rfl⟩
  · exact ⟨_, _, rfl⟩

theorem operate_spec {env : Nat → Env} {op : Operation} {program after : Program}
    (done : program.operate setup env op = some after) :
    ∃ registry, exec setup.cfg env op program.registry = some registry ∧
      after = { program with registry := registry } := by
  obtain ⟨registry, ran, rfl⟩ := Option.map_eq_some_iff.mp done
  exact ⟨registry, ran, rfl⟩

/-- A datagram runs operations on the registry, or is answered. -/
theorem serve_spec {sender : SockaddrIn} {command : Packets.Command} {program after : Program}
    (done : program.serve setup met sender command = some after) :
    ∃ registry answers, after = { program with registry := registry, answers := answers } ∧
      Relation.ReflTransGen (ServerList.Step setup.cfg) program.registry registry := by
  have operated {op : Operation} (done : program.operate setup met.calls op = some after) :
      ∃ registry answers, after = { program with registry := registry, answers := answers } ∧
        Relation.ReflTransGen (ServerList.Step setup.cfg) program.registry registry := by
    obtain ⟨registry, ran, rfl⟩ := operate_spec done
    exact ⟨registry, program.answers, rfl, .single ⟨met.calls, op, ran⟩⟩
  cases command with
  | sendUDPServerList gamename =>
      obtain rfl := Option.some.inj done
      exact ⟨program.registry, _, rfl, .refl⟩
  | rcon queryString =>
      unfold serve at done
      simp only at done
      split at done
      · cases done
      · obtain rfl := Option.some.inj done
        exact ⟨_, program.answers, addServersFromList_eq .., addServers_run setup.cfg _ _⟩
      · obtain rfl := Option.some.inj done
        exact ⟨program.registry, _, rfl, .refl⟩
  | qspyVerify =>
      obtain rfl := Option.some.inj done
      exact ⟨program.registry, _, rfl, .refl⟩
  | ping =>
      obtain rfl := Option.some.inj done
      exact ⟨program.registry, program.answers, rfl, .refl⟩
  | runt =>
      obtain rfl := Option.some.inj done
      exact ⟨program.registry, program.answers, rfl, .refl⟩
  | _ => exact operated done

theorem receive_spec {program after : Program} (done : program.receive setup met = some after) :
    ∃ registry answers, after = { program with registry := registry, answers := answers } ∧
      Relation.ReflTransGen (ServerList.Step setup.cfg) program.registry registry := by
  unfold receive at done
  split at done
  · obtain rfl := Option.some.inj done
    exact ⟨program.registry, program.answers, rfl, .refl⟩
  · exact serve_spec done

/-- A datagram is answered by one message at most, which goes to its sender. -/
theorem receive_answers {program after : Program} (done : program.receive setup met = some after) :
    ∃ replied, after.answers = program.answers ++ replied ∧ replied.length ≤ 1 ∧
      ∀ datagram ∈ replied, ∃ received, met.datagram = some (datagram.dest, received) := by
  have silent (same : after.answers = program.answers) :
      ∃ replied, after.answers = program.answers ++ replied ∧ replied.length ≤ 1 ∧
        ∀ datagram ∈ replied, ∃ received, met.datagram = some (datagram.dest, received) :=
    ⟨[], same.trans (List.append_nil _).symm, Nat.zero_le 1, fun _ member => nomatch member⟩
  unfold receive at done
  split at done
  · obtain rfl := Option.some.inj done
    exact silent rfl
  · rename_i sender received arrived
    have home {replied : List Datagram} (answers : after.answers = program.answers ++ replied)
        (single : replied.length ≤ 1) (dest : ∀ datagram ∈ replied, datagram.dest = sender) :
        ∃ replied, after.answers = program.answers ++ replied ∧ replied.length ≤ 1 ∧
          ∀ datagram ∈ replied, ∃ received, met.datagram = some (datagram.dest, received) :=
      ⟨replied, answers, single, fun datagram member =>
        ⟨received, (dest datagram member).symm ▸ arrived⟩⟩
    have operated {op : Operation} (done : program.operate setup met.calls op = some after) :
        after.answers = program.answers := by
      obtain ⟨registry, -, rfl⟩ := operate_spec done
      rfl
    cases parsed : Packets.parseUDPPacket sender received with
    | sendUDPServerList gamename =>
        rw [parsed] at done
        obtain rfl := Option.some.inj done
        refine home rfl ?_ fun datagram member => ?_
        · rw [List.length_map]
          exact Option.length_toList_le
        · obtain ⟨bytes, -, rfl⟩ := List.mem_map.mp member
          rfl
    | rcon queryString =>
        rw [parsed] at done
        unfold serve at done
        simp only at done
        split at done
        · cases done
        · obtain rfl := Option.some.inj done
          refine silent ?_
          rw [addServersFromList_eq]
        · rename_i message answered
          obtain rfl := Option.some.inj done
          exact home rfl (Nat.le_refl 1)
            (List.forall_mem_singleton.mpr (Packets.rcon_home answered))
    | qspyVerify =>
        rw [parsed] at done
        obtain rfl := Option.some.inj done
        exact home rfl (Nat.le_refl 1) (List.forall_mem_singleton.mpr rfl)
    | ping | runt =>
        rw [parsed] at done
        obtain rfl := Option.some.inj done
        exact silent rfl
    | _ =>
        rw [parsed] at done
        exact silent (operated done)

theorem accept_spec {program after : Program} (done : program.accept setup met = some after) :
    ∃ sessions, after = { program with sessions := sessions } := by
  unfold accept at done
  split at done
  · exact ⟨program.sessions, (Option.some.inj done).symm⟩
  · simp only at done
    split at done
    · cases done
    · exact ⟨_, (Option.some.inj done).symm⟩

/-- The parts of an iteration one after another. -/
theorem iterate_spec {before after : Program} (done : before.iterate setup met = some after) :
    ∃ updated scraped received accepted registry,
      before.curlHttpUpdate setup met = some updated ∧
      updated.scrape setup met = some scraped ∧
      ((scraped.save met).generate setup met).receive setup met = some received ∧
      received.accept setup met = some accepted ∧
      exec setup.cfg (fun _ => met.frame) .runFrame accepted.registry = some registry ∧
      after = { accepted with registry := registry } := by
  obtain ⟨updated, first, done⟩ := Option.bind_eq_some_iff.mp done
  obtain ⟨scraped, second, done⟩ := Option.bind_eq_some_iff.mp done
  obtain ⟨received, third, done⟩ := Option.bind_eq_some_iff.mp done
  obtain ⟨accepted, fourth, done⟩ := Option.bind_eq_some_iff.mp done
  obtain ⟨registry, ran, same⟩ := operate_spec done
  exact ⟨updated, scraped, received, accepted, registry, first, second, third, fourth, ran, same⟩

/-! ## The registry -/

/--
To the registry an iteration is a run of its operations. What is saved is the
registry as the downloads that are done have left it.
-/
theorem iterate_registry {before after : Program} (done : before.iterate setup met = some after) :
    ∃ updated, before.curlHttpUpdate setup met = some updated ∧
      Relation.ReflTransGen (ServerList.Step setup.cfg) before.registry updated.registry ∧
      Relation.ReflTransGen (ServerList.Step setup.cfg) updated.registry after.registry ∧
      after.lastDBSave = timerAfter (fun met : Surroundings => (met.saveTested : Rat))
        (fun met => met.saveStamped) dbsavetime before.lastDBSave met ∧
      after.database =
        if Overdue dbsavetime before.lastDBSave met.saveTested then
          savedFile met updated.registry before.database
        else before.database := by
  obtain ⟨updated, scraped, received, accepted, registry, first, second, third, fourth, ran, rfl⟩ :=
    iterate_spec done
  refine ⟨updated, first, ?_⟩
  obtain ⟨curl, rfl, -⟩ := curlHttpUpdate_spec first
  obtain ⟨-, curl', answers, -, rfl⟩ := scrape_spec second
  obtain ⟨last, files, generated⟩ := generate_spec setup met (Program.save met _)
  rw [generated, save_spec] at third
  obtain ⟨registry', answers', rfl, served⟩ := receive_spec third
  obtain ⟨sessions, rfl⟩ := accept_spec fourth
  exact ⟨addServers_run setup.cfg _ before.registry, served.tail ⟨_, _, ran⟩, rfl, rfl⟩

/-! ## The downloads -/

theorem finishAll_reachable {messages : List Message} {pool : Pool}
    (reported : Reported messages pool) (reached : pool.Reachable) :
    (finishAll messages pool).1.Reachable := by
  induction messages generalizing pool with
  | nil => exact reached
  | cons message messages ih =>
      obtain ⟨running, rest⟩ := reported
      exact ih rest (.finish message.transfer message.responseCode reached running)

/-- The transfers after a start are those before it and the one that it may have started. -/
theorem startDownload_handles {pool pool' : Pool} {result : Int} (sound : pool.Sound)
    {request : Request} {supply : Supply}
    (ran : pool.startDownload request supply = some (pool', result)) :
    ∀ transfer ∈ pool'.multiHandle,
      transfer ∈ pool.multiHandle ∨ transfer.easyHandle = supply.easyHandle := by
  rcases Pool.startDownload_spec sound request supply with
    ⟨after, filename, gamename, stream, i, done, -, -, -, started⟩ | ⟨after, done, -, refused⟩
  · cases done.symm.trans ran
    obtain ⟨url, multi⟩ := started.multiHandle
    rw [multi]
    intro transfer member
    rcases List.mem_cons.mp member with rfl | old
    · exact Or.inr rfl
    · exact Or.inl old
  · cases done.symm.trans ran
    rw [refused.multiHandle]
    exact fun transfer member => Or.inl member

theorem scheduleQueue_reachable {supply : Supply} {curl after : CurlState}
    (done : curl.scheduleQueue supply = some after) (reached : curl.pool.Reachable)
    (fresh : curl.pool.Fresh supply) :
    after.pool.Reachable ∧ ∀ transfer ∈ after.pool.multiHandle,
      transfer ∈ curl.pool.multiHandle ∨ transfer.easyHandle = supply.easyHandle := by
  rcases CurlState.scheduleQueue_cases done with ⟨rfl, -⟩ | ⟨request, result, -, started⟩
  · exact ⟨reached, fun transfer member => Or.inl member⟩
  · exact ⟨.startDownload request supply reached fresh started,
      startDownload_handles reached.sound started⟩

/-- A pass over a list of downloads uses new handles. -/
theorem downloadAll_reachable {supply : Nat → Supply}
    (distinct : Function.Injective fun i => (supply i).easyHandle) {requests : List Request}
    {index : Nat} {curl after : CurlState} (reached : curl.pool.Reachable)
    (fresh : ∀ transfer ∈ curl.pool.multiHandle, ∀ i, index ≤ i →
      transfer.easyHandle ≠ (supply i).easyHandle)
    (done : downloadAll supply index requests curl = some after) : after.pool.Reachable := by
  induction requests generalizing index curl with
  | nil => exact Option.some.inj done ▸ reached
  | cons request requests ih =>
      obtain ⟨next, first, rest⟩ := Option.bind_eq_some_iff.mp done
      obtain ⟨result, started⟩ := CurlState.downloadOrQueue_attempt first
      have here : curl.pool.Fresh (supply index) :=
        fun transfer member => fresh transfer member index le_rfl
      refine ih (.startDownload request (supply index) reached here started) ?_ rest
      intro transfer member i later
      rcases startDownload_handles reached.sound started transfer member with old | new
      · exact fresh transfer old i (Nat.le_of_succ_le later)
      · rw [new]
        exact distinct.ne (Nat.ne_of_lt later)

/-- An iteration keeps the downloads in step. -/
theorem iterate_downloads {before after : Program} (proper : met.Proper before.curl.pool)
    (reached : before.curl.pool.Reachable) (done : before.iterate setup met = some after) :
    after.curl.pool.Reachable := by
  obtain ⟨updated, scraped, received, accepted, registry, first, second, third, fourth, -, rfl⟩ :=
    iterate_spec done
  obtain ⟨curl, rfl, scheduled⟩ := curlHttpUpdate_spec first
  obtain ⟨requests, curl', answers, downloaded, rfl⟩ := scrape_spec second
  obtain ⟨last, files, generated⟩ := generate_spec setup met (Program.save met _)
  rw [generated, save_spec] at third
  obtain ⟨registry', answers', rfl, -⟩ := receive_spec third
  obtain ⟨sessions, rfl⟩ := accept_spec fourth
  obtain ⟨reached', handles⟩ :=
    scheduleQueue_reachable scheduled (finishAll_reachable proper.reported reached) proper.queued
  refine downloadAll_reachable proper.distinct reached' (fun transfer member i _ => ?_) downloaded
  rcases handles transfer member with old | new
  · exact proper.listed transfer old i
  · rw [new]
    exact (proper.apart i).symm

/-! ## The start -/

theorem load_spec {stale : UInt16} {database : Option (List UInt8)} {program : Program}
    (loaded : load setup met stale database = some program) :
    ∃ registry requests curl calls answers,
      (initial database).readMasterDBBlob setup met stale =
        some { initial database with registry := registry } ∧
      downloadAll met.listSupply 0 requests CurlState.initial = some curl ∧
      program = { initial database with
        registry := addServers setup.cfg calls registry
        curl := curl
        lastMasterListDL := scrapeStamp setup met 0
        answers := answers } := by
  obtain ⟨read, first, loaded⟩ := Option.bind_eq_some_iff.mp loaded
  obtain ⟨scraped, second, loaded⟩ := Option.bind_eq_some_iff.mp loaded
  obtain ⟨registry, rfl⟩ : ∃ registry, read = { initial database with registry := registry } := by
    unfold readMasterDBBlob at first
    split at first
    · exact ⟨_, (Option.some.inj first).symm⟩
    · obtain ⟨registry, -, same⟩ := operate_spec first
      exact ⟨registry, same⟩
  obtain ⟨requests, curl, answers, downloaded, rfl⟩ := scrapeNow_spec second
  split at loaded
  · exact ⟨registry, requests, curl, _, answers, first, downloaded,
      (Option.some.inj loaded).symm.trans (addServersFromList_eq ..)⟩
  · exact ⟨registry, requests, curl, [], answers, first, downloaded,
      (Option.some.inj loaded).symm⟩

theorem readMasterDBBlob_run {stale : UInt16} {database : Option (List UInt8)}
    {registry : ServerList} (read : (initial database).readMasterDBBlob setup met stale =
      some { initial database with registry := registry }) :
    registry.Reachable setup.cfg := by
  unfold readMasterDBBlob at read
  split at read
  · obtain rfl : ServerList.initial = registry := congrArg Program.registry (Option.some.inj read)
    exact .refl
  · obtain ⟨registry', ran, same⟩ := operate_spec read
    obtain rfl : registry = registry' := congrArg Program.registry same
    exact .single ⟨_, _, ran⟩

theorem load_sound {stale : UInt16} {database : Option (List UInt8)} {program : Program}
    (proper : met.Proper Pool.initial) (loaded : load setup met stale database = some program) :
    program.registry.Reachable setup.cfg ∧ program.curl.pool.Reachable := by
  obtain ⟨registry, requests, curl, calls, answers, read, downloaded, rfl⟩ :=
    load_spec loaded
  refine ⟨(readMasterDBBlob_run read).trans (addServers_run setup.cfg calls registry), ?_⟩
  refine downloadAll_reachable proper.distinct .initial (fun transfer member => ?_) downloaded
  cases member

end Program

/-! ## Runs -/

/--
Between any two iterations the registry is one that a run of its operations
reaches, and the slots are ones that starts and completions reach; so both are
sound.
-/
theorem ProgramRun.reachable {turns : List Turn} {program : Program}
    (run : ProgramRun setup turns program) :
    program.registry.Reachable setup.cfg ∧ program.curl.pool.Reachable := by
  induction run with
  | load met stale database proper loaded => exact Program.load_sound proper loaded
  | iterate met run proper done ih =>
      obtain ⟨updated, -, early, late, -⟩ := Program.iterate_registry done
      exact ⟨(ih.1.trans early).trans late, Program.iterate_downloads proper ih.2 done⟩

/-- A run passes through each of its iterations. -/
theorem ProgramRun.between {turns : List Turn} {program : Program}
    (run : ProgramRun setup turns program) {early late : List Turn} {turn : Turn}
    (split : turns = early ++ turn :: late) :
    ProgramRun setup early turn.before ∧
      turn.before.iterate setup turn.met = some turn.after ∧
      Relation.ReflTransGen (ServerList.Step setup.cfg) turn.after.registry program.registry := by
  induction run generalizing late with
  | load => exact absurd split.symm (by simp)
  | iterate met run proper done ih =>
      rcases List.eq_nil_or_concat late with rfl | ⟨late, last, rfl⟩
      · obtain ⟨rfl, same⟩ := List.append_inj' split rfl
        obtain rfl := (List.cons.inj same).1
        exact ⟨run, done, .refl⟩
      · rw [List.concat_eq_append, ← List.cons_append, ← List.append_assoc] at split
        obtain ⟨first, -⟩ := List.append_inj' split rfl
        obtain ⟨reached, middle, rest⟩ := ih first
        obtain ⟨_, -, loaded, served, -⟩ := Program.iterate_registry done
        exact ⟨reached, middle, (rest.trans loaded).trans served⟩

/-- A later iteration finds what a run of operations makes of an earlier registry. -/
theorem ProgramRun.onwards {turns : List Turn} {program : Program}
    (run : ProgramRun setup turns program) {turn : Turn} (member : turn ∈ turns) :
    Relation.ReflTransGen (ServerList.Step setup.cfg) turn.before.registry program.registry := by
  obtain ⟨early, late, split⟩ := List.append_of_mem member
  obtain ⟨-, done, rest⟩ := run.between split
  obtain ⟨_, -, loaded, served, -⟩ := Program.iterate_registry done
  exact (loaded.trans served).trans rest

theorem quietMet_proper (time : Nat) {pool : Pool} (idle : pool.multiHandle = []) :
    (quietMet time).Proper pool where
  reported := trivial
  queued := fun transfer running => by cases idle ▸ running
  listed := fun transfer running => by cases idle ▸ running
  apart := fun i same => by cases same
  distinct := fun i j same => Nat.succ.inj same

/--
The program refines the two machines of its core. In every run the registry is
sound and one that its operations reach, the slots are sound and ones that
starts and completions reach, and each iteration takes the registry on by some
operations, in which an entry keeps its block, its key and its game.
-/
theorem program_simulates {turns : List Turn} {program : Program}
    (run : ProgramRun setup turns program) :
    (program.registry.Reachable setup.cfg ∧ program.registry.WellFormed) ∧
      (program.curl.pool.Reachable ∧ program.curl.pool.Sound) ∧
      ∀ turn ∈ turns,
        Relation.ReflTransGen (ServerList.Step setup.cfg) turn.before.registry
          turn.after.registry ∧
        ServerList.Keeps turn.before.registry turn.after.registry := by
  obtain ⟨registry, downloads⟩ := run.reachable
  refine ⟨⟨registry, registry.wellFormed⟩, ⟨downloads, downloads.sound⟩, fun turn member => ?_⟩
  obtain ⟨early, late, split⟩ := List.append_of_mem member
  obtain ⟨before, done, -⟩ := run.between split
  obtain ⟨_, -, loaded, served, -⟩ := Program.iterate_registry done
  have through := loaded.trans served
  exact ⟨through, (run_sound before.reachable.1.wellFormed through).2⟩

/-- An iteration after a start without files. -/
theorem program_simulates_quiet :
    ∃ turn program, ProgramRun quietSetup [turn] program ∧ program.registry.WellFormed := by
  have loaded : Program.load quietSetup (quietMet 900) 0 none =
      some (Program.initial none) := rfl
  obtain ⟨after, done⟩ : ∃ after, (Program.initial none).iterate quietSetup (quietMet 1000) =
      some after := Option.isSome_iff_exists.mp (by decide +kernel)
  have run : ProgramRun quietSetup [⟨Program.initial none, quietMet 1000, after⟩] after :=
    .iterate (quietMet 1000) (.load (quietMet 900) 0 none (quietMet_proper 900 rfl) loaded)
      (quietMet_proper 1000 rfl) done
  exact ⟨_, after, run, (program_simulates run).1.2⟩

end GSMaster.Loop
