import GSMaster.Lists.Agreement
import GSMaster.Loop.Durability
import GSMaster.Loop.Queueing

/-!
# The timers of the loop

Beside the timer of the database the loop has one for asking other masters and
one for the list files. The first keeps the questions apart, the other one keeps
the files fresh.
-/

namespace GSMaster.Loop

open GSMaster.Text GSMaster.Net GSMaster.Games GSMaster.Registry GSMaster.Lists
open GSMaster.Library GSMaster.Database GSMaster.Downloads GSMaster.Startup

variable {setup : Setup}

/-! ## The timers of an iteration -/

def scrapeTested (turn : Turn) : Rat :=
  turn.met.scrapeTested

/-- `Master_DL_List` sets the timer after `HTTP_DL_List` has. -/
def scrapeStamped (setup : Setup) (turn : Turn) : Rat :=
  if setup.settings.loadMasterServerlist then turn.met.masterStamped else turn.met.httpStamped

def generationTested (turn : Turn) : Rat :=
  turn.met.generationTested

def generationStamped (turn : Turn) : Rat :=
  turn.met.generationStamped

/-- Some other master is to be asked. -/
def Setup.Scrapes (setup : Setup) : Prop :=
  setup.settings.loadMasterServerlist = true ∨ setup.Downloads

/-- The iteration finds the timer of the questions over. -/
def Turn.Asks (turn : Turn) : Prop :=
  Overdue masterlistdltime turn.before.lastMasterListDL (scrapeTested turn)

instance (turn : Turn) : Decidable turn.Asks :=
  inferInstanceAs (Decidable (Overdue ..))

theorem scrapeStamp_eq (scrapes : setup.Scrapes) (turn : Turn) (last : Rat) :
    Program.scrapeStamp setup turn.met last = scrapeStamped setup turn := by
  unfold Program.scrapeStamp scrapeStamped
  by_cases master : setup.settings.loadMasterServerlist = true
  · rw [if_pos master, if_pos master]
  · rw [if_neg master, if_neg master, if_pos (scrapes.resolve_left master)]

namespace Program

variable {met : Surroundings}

theorem generate_files (setup : Setup) (met : Surroundings) (program : Program) :
    (program.generate setup met).listFiles =
        (if setup.settings.bGenerateServerList = true ∧
            Overdue setup.serverListGenerationTime program.lastServerListGeneration
              met.generationTested then
          write (generateServersList setup.cfg setup.settings.bGenerateServerList
            setup.settings.serverListGenerationPath met.fopen program.registry.servers)
            program.listFiles
        else program.listFiles) ∧
      (program.generate setup met).lastServerListGeneration =
        if setup.settings.bGenerateServerList = true ∧
            Overdue setup.serverListGenerationTime program.lastServerListGeneration
              met.generationTested then
          (met.generationStamped : Rat)
        else program.lastServerListGeneration := by
  unfold generate
  split
  · exact ⟨rfl, rfl⟩
  · exact ⟨rfl, rfl⟩

/-- What an iteration does to the two timers and the list files. -/
theorem iterate_timers {before after : Program} (done : before.iterate setup met = some after) :
    ∃ updated, before.curlHttpUpdate setup met = some updated ∧
      updated.lastMasterListDL = before.lastMasterListDL ∧
      after.lastMasterListDL =
        (if Overdue masterlistdltime before.lastMasterListDL met.scrapeTested then
          scrapeStamp setup met before.lastMasterListDL
        else before.lastMasterListDL) ∧
      (after.listFiles =
        if setup.settings.bGenerateServerList = true ∧
            Overdue setup.serverListGenerationTime before.lastServerListGeneration
              met.generationTested then
          write (generateServersList setup.cfg setup.settings.bGenerateServerList
            setup.settings.serverListGenerationPath met.fopen updated.registry.servers)
            before.listFiles
        else before.listFiles) ∧
      after.lastServerListGeneration =
        if setup.settings.bGenerateServerList = true ∧
            Overdue setup.serverListGenerationTime before.lastServerListGeneration
              met.generationTested then
          (met.generationStamped : Rat)
        else before.lastServerListGeneration := by
  obtain ⟨updated, scraped, received, accepted, registry, first, second, third, fourth, -, rfl⟩ :=
    iterate_spec done
  refine ⟨updated, first, ?_⟩
  have files := generate_files setup met (scraped.save met)
  obtain ⟨last, written, generated⟩ := generate_spec setup met (scraped.save met)
  rw [generated, save_spec] at files third
  obtain ⟨curl, rfl, -⟩ := curlHttpUpdate_spec first
  obtain ⟨-, curl', answers, -, rfl⟩ := scrape_spec second
  obtain ⟨registry', answers', rfl, -⟩ := receive_spec third
  obtain ⟨sessions, rfl⟩ := accept_spec fourth
  exact ⟨rfl, rfl, files.1, files.2⟩

end Program

/-! ## Asking other masters -/

/-- The program that the start has left to the first iteration of a run. -/
def started (turns : List Turn) (program : Program) : Program :=
  (turns.head?.map Turn.before).getD program

/-- A run begins with a start, whose round of questions has set the timer. -/
theorem ProgramRun.begins {turns : List Turn} {program : Program}
    (run : ProgramRun setup turns program) :
    ∃ met stale database, Program.load setup met stale database = some (started turns program) ∧
      (started turns program).lastMasterListDL = Program.scrapeStamp setup met 0 := by
  induction run with
  | load met stale database proper loaded =>
      obtain ⟨registry, requests, curl, calls, answers, -, -, rfl⟩ := Program.load_spec loaded
      exact ⟨met, stale, database, loaded, rfl⟩
  | iterate met run proper done ih =>
      rename_i turns before after
      have same : started (turns ++ [⟨before, met, after⟩]) after = started turns before := by
        cases turns <;> rfl
      rw [same]
      exact ih

/-- The iterations that ask are those at which the timer fires. -/
theorem ProgramRun.asks (scrapes : setup.Scrapes) {turns : List Turn} {program : Program}
    (run : ProgramRun setup turns program) :
    program.lastMasterListDL =
        timerRun scrapeTested (scrapeStamped setup) masterlistdltime
          (started turns program).lastMasterListDL turns ∧
      turns.filter (fun turn => turn.Asks) =
        fired scrapeTested (scrapeStamped setup) masterlistdltime
          (started turns program).lastMasterListDL turns := by
  induction run with
  | load met stale database proper loaded => exact ⟨rfl, rfl⟩
  | iterate met run proper done ih =>
      rename_i turns before after
      obtain ⟨timer, asked⟩ := ih
      obtain ⟨updated, -, -, stamp, -⟩ := Program.iterate_timers done
      have same : started (turns ++ [⟨before, met, after⟩]) after = started turns before := by
        cases turns <;> rfl
      rw [same]
      constructor
      · rw [timerRun_snoc, ← timer, stamp, scrapeStamp_eq scrapes ⟨before, met, after⟩]
        rfl
      · rw [fired_snoc, List.filter_append, asked, ← timer]
        have single : ∀ turn : Turn, [turn].filter (fun turn => turn.Asks) =
            if turn.Asks then [turn] else [] := by
          intro turn
          by_cases asks : turn.Asks
          · simp [asks]
          · simp [asks]
        exact congrArg _ (single _)

theorem Clocked.scrape {turns : List Turn} (clocked : Clocked turns) {turn : Turn}
    (member : turn ∈ turns) : scrapeTested turn ≤ scrapeStamped setup turn := by
  have order := List.pairwise_cons.mp ((List.pairwise_flatMap.mp clocked).1 turn member)
  unfold scrapeStamped
  split
  · exact Nat.cast_le.mpr (order.1 _ (by simp))
  · exact Nat.cast_le.mpr (order.1 _ (by simp))

/--
What an iteration does that asks no other master. It starts the oldest download
of the queue or none, puts none into the queue, and sends no query: beside the
messages to registered servers there is one to the sender of its datagram at
most.
-/
structure Turn.AsksNobody (turn : Turn) : Prop where
  queue : turn.waiting = turn.left ++ turn.dequeued.toList
  transfers : ∃ new, turn.after.curl.pool.multiHandle =
      new ++ turn.completed.pool.multiHandle ∧
    new.map Transfer.url =
      turn.dequeued.toList.map fun var => var.url.take (maxUrllength - 1)
  answers : ∃ replied, turn.after.answers = turn.before.answers ++ replied ∧
    replied.length ≤ 1 ∧
    ∀ datagram ∈ replied, ∃ received, turn.met.datagram = some (datagram.dest, received)

theorem Turn.asksNobody {turn : Turn} (sound : turn.completed.pool.Sound)
    (done : turn.before.iterate setup turn.met = some turn.after) (idle : ¬ turn.Asks) :
    turn.AsksNobody := by
  obtain ⟨updated, scraped, received, accepted, registry, first, second, third, fourth, -, same⟩ :=
    Program.iterate_spec done
  obtain ⟨curl, rfl, scheduled⟩ := Program.curlHttpUpdate_spec first
  obtain ⟨queue, -, transfers⟩ := CurlState.scheduleQueue_dequeued sound scheduled
  obtain rfl := Option.some.inj (second.symm.trans (if_neg idle))
  obtain ⟨last, files, generated⟩ := Program.generate_spec setup turn.met (Program.save _ _)
  rw [generated, Program.save_spec] at third
  obtain ⟨replied, answers, single, home⟩ := Program.receive_answers third
  obtain ⟨registry', answers', rfl, -⟩ := Program.receive_spec third
  obtain ⟨sessions, rfl⟩ := Program.accept_spec fourth
  refine ⟨?_, ?_, replied, ?_, single, home⟩
  · rw [Turn.left, same]
    exact queue
  · rw [same]
    exact transfers
  · rw [same]
    exact answers

/--
Other masters are asked rarely, where there are some to ask. The first question
of the loop is more than fifteen minutes later than that of the start, between
one question and the next more than fifteen minutes pass, no stretch of time
has more questions than such intervals and one, and an iteration that does not
ask starts no download but a queued one and sends no query.
-/
theorem masters_asked_rarely (scrapes : setup.Scrapes) {turns : List Turn} {program : Program}
    (run : ProgramRun setup turns program) (clocked : Clocked turns) :
    (∃ met stale database, Program.load setup met stale database = some (started turns program) ∧
      ∀ turn ∈ (turns.filter fun turn => turn.Asks).head?,
        masterlistdltime < scrapeTested turn - Program.scrapeStamp setup met 0) ∧
      (turns.filter fun turn => turn.Asks).IsChain
        (fun turn next => masterlistdltime < scrapeTested next - scrapeStamped setup turn) ∧
      (∀ early window late opens closes, turns = early ++ window ++ late →
        (∀ turn ∈ window, opens ≤ scrapeTested turn ∧ scrapeTested turn ≤ closes) →
        (window.filter fun turn => turn.Asks) = [] ∨
          ((window.filter fun turn => turn.Asks).length - 1 : Nat) * masterlistdltime ≤
            closes - opens) ∧
      ∀ turn ∈ turns, ¬ turn.Asks → turn.AsksNobody := by
  obtain ⟨-, asked⟩ := run.asks scrapes
  have spaced : (turns.filter fun turn => turn.Asks).IsChain
      fun turn next => masterlistdltime < scrapeTested next - scrapeStamped setup turn := by
    rw [asked]
    exact fired_spaced _ turns
  refine ⟨?_, spaced, ?_, ?_⟩
  · obtain ⟨met, stale, database, loaded, stamp⟩ := run.begins
    refine ⟨met, stale, database, loaded, fun turn first => ?_⟩
    rw [asked, stamp] at first
    exact fired_first first
  · rintro early window late opens closes rfl inside
    rw [← nsmul_eq_mul]
    rw [List.filter_append, List.filter_append] at spaced
    refine spaced_count (spaced.left_of_append).right_of_append ?_ ?_
    · intro turn member
      refine clocked.scrape (List.mem_append_left late (List.mem_append_right early ?_))
      exact (List.mem_filter.mp member).1
    · exact fun turn member => inside turn (List.mem_filter.mp member).1
  · intro turn member idle
    obtain ⟨early, late, split⟩ := List.append_of_mem member
    obtain ⟨-, done, -⟩ := run.between split
    exact turn.asksNobody (run.turn_fair member).1 done idle

/-- The program with the list of other masters. -/
def askingSetup : Setup :=
  ⟨{ Settings.initial with loadMasterServerlist := true }, fun _ => 0⟩

/-- The program started at 1000 seconds, and after iterations at 1500 and at 2000. -/
def askingStart : Program :=
  (Program.load askingSetup (quietMet 1000) 0 none).getD (Program.initial none)

def askingNext : Program :=
  (askingStart.iterate askingSetup (quietMet 1500)).getD askingStart

def askingLast : Program :=
  (askingNext.iterate askingSetup (quietMet 2000)).getD askingNext

/-- The question of the start is 500 seconds old at the first iteration, which asks nobody. -/
theorem masters_asked_rarely_start :
    ∃ turn next, ProgramRun askingSetup [turn, next] askingLast ∧
      askingLast.lastMasterListDL = 2000 ∧ turn.AsksNobody := by
  have there {step : Option Program} {other : Program} (some : step.isSome = true) :
      step = .some (step.getD other) := by
    obtain ⟨program, rfl⟩ := Option.isSome_iff_exists.mp some
    rfl
  have loaded : Program.load askingSetup (quietMet 1000) 0 none = some askingStart :=
    there (by decide +kernel)
  have next : askingStart.iterate askingSetup (quietMet 1500) = some askingNext :=
    there (by decide +kernel)
  have last : askingNext.iterate askingSetup (quietMet 2000) = some askingLast :=
    there (by decide +kernel)
  have run : ProgramRun askingSetup ([⟨askingStart, quietMet 1500, askingNext⟩] ++
      [⟨askingNext, quietMet 2000, askingLast⟩]) askingLast :=
    .iterate (quietMet 2000) (.iterate (quietMet 1500)
      (.load (quietMet 1000) 0 none (quietMet_proper 1000 rfl) loaded)
      (quietMet_proper 1500 (by decide +kernel)) next)
      (quietMet_proper 2000 (by decide +kernel)) last
  have idle : ¬ Turn.Asks ⟨askingStart, quietMet 1500, askingNext⟩ := by decide +kernel
  obtain ⟨-, -, -, quiet⟩ := masters_asked_rarely (Or.inl rfl) run (by decide +kernel)
  exact ⟨_, _, run, by decide +kernel, quiet _ (List.mem_cons_self ..) idle⟩

/-! ## The list files -/

theorem write_other {written : List (CString × List UInt8)} {name : CString}
    (absent : ∀ file ∈ written, file.1 ≠ name) (files : CString → Option (List UInt8)) :
    Program.write written files name = files name := by
  induction written generalizing files with
  | nil => rfl
  | cons file written ih =>
      have rest := ih (fun other member => absent other (List.mem_cons_of_mem _ member))
        (Function.update files file.1 (some file.2))
      exact rest.trans (Function.update_of_ne (absent file (List.mem_cons_self ..)).symm _ _)

/-- Files with different names keep what is written to them. -/
theorem write_member {written : List (CString × List UInt8)}
    (distinct : (written.map Prod.fst).Nodup) {file : CString × List UInt8}
    (member : file ∈ written) (files : CString → Option (List UInt8)) :
    Program.write written files file.1 = some file.2 := by
  induction written generalizing files with
  | nil => cases member
  | cons first written ih =>
      rw [List.map_cons, List.nodup_cons] at distinct
      rcases List.mem_cons.mp member with rfl | later
      · have others : ∀ other ∈ written, other.1 ≠ file.1 := fun other inside same =>
          distinct.1 (same ▸ List.mem_map_of_mem inside)
        have kept := write_other others (Function.update files file.1 (some file.2))
        exact kept.trans (Function.update_self ..)
      · exact ih distinct.2 later _

/-- The games differ in the first six characters of the names of their files. -/
theorem gameTable_stems_distinct :
    (gameTable.map fun entry => (entry.gamename ++ ascii ".txt").take 6).Nodup := by
  decide

/-- `Com_sprintf` cuts off the name of a list file behind those characters, or in them. -/
theorem serverFile_stem {path : CString} (room : path.length + 7 < maxPath) (gamename : CString) :
    ((serverFile path gamename).drop (path.length + 1)).take 6 =
      (gamename ++ ascii ".txt").take 6 := by
  have folder : (path ++ ascii "\\").length = path.length + 1 := List.length_append
  have fits : 6 ≤ maxPath - 1 - (path.length + 1) := by
    change 6 ≤ 255 - (path.length + 1)
    change path.length + 7 < 256 at room
    omega
  rw [serverFile, List.drop_take, List.take_take, Nat.min_eq_left fits, List.append_assoc,
    ← folder, List.drop_left]

/-- The list files have names of their own exactly if the path leaves room for these characters. -/
theorem serverFiles_distinct_iff (path : CString) :
    (gameTable.map fun entry => serverFile path entry.gamename).Nodup ↔
      path.length + 7 < maxPath := by
  constructor
  · intro distinct
    by_contra long
    have cut : maxPath - 1 ≤ (path ++ ascii "\\quake").length := by
      rw [List.length_append]
      change 255 ≤ path.length + 6
      change ¬ path.length + 7 < 256 at long
      omega
    have short (rest : CString) : (path ++ (ascii "\\quake" ++ rest)).take (maxPath - 1) =
        (path ++ ascii "\\quake").take (maxPath - 1) := by
      rw [← List.append_assoc, List.take_append_of_le_length cut]
    have whole (gamename rest : CString)
        (split : ascii "\\" ++ (gamename ++ ascii ".txt") = ascii "\\quake" ++ rest) :
        serverFile path gamename = (path ++ ascii "\\quake").take (maxPath - 1) := by
      rw [serverFile, List.append_assoc, List.append_assoc, split, short]
    have same : serverFile path (ascii "quake1") = serverFile path (ascii "quake2") :=
      (whole _ (ascii "1.txt") rfl).trans (whole _ (ascii "2.txt") rfl).symm
    have apart := List.inj_on_of_nodup_map distinct
      (x := ⟨ascii "quake1", ascii "7W7yZz", 0⟩) (by decide)
      (y := ⟨ascii "quake2", ascii "rtW0xg", 27901⟩) (by decide) same
    exact absurd apart (by decide)
  · intro room
    refine List.Nodup.of_map (fun file => (file.drop (path.length + 1)).take 6) ?_
    rw [List.map_map]
    have stems : gameTable.map ((fun file => (file.drop (path.length + 1)).take 6) ∘
        fun entry => serverFile path entry.gamename) =
          gameTable.map fun entry => (entry.gamename ++ ascii ".txt").take 6 :=
      List.map_congr_left fun entry _ => serverFile_stem room entry.gamename
    exact stems ▸ gameTable_stems_distinct

/-- Where every file opens, there is one for each game, under a name of its own. -/
theorem generateServersList_files (cfg : Config) {path : CString} (named : path ≠ [])
    (room : path.length + 7 < maxPath) {fopen : CString → Bool} (opens : ∀ name, fopen name = true)
    (servers : List Server) :
    (generateServersList cfg true path fopen servers).map Prod.fst =
        gameTable.map (fun entry => serverFile path entry.gamename) ∧
      ((generateServersList cfg true path fopen servers).map Prod.fst).Nodup := by
  have all : generateServersList cfg true path fopen servers = gameTable.map fun entry =>
      (serverFile path entry.gamename, serversFileLoop cfg entry.gamename [] servers) := by
    unfold generateServersList
    rw [if_neg (by simp [named])]
    refine (List.filterMap_congr fun entry _ => ?_).trans (congrFun List.filterMap_eq_map gameTable)
    exact if_pos (opens _)
  have names : (generateServersList cfg true path fopen servers).map Prod.fst =
      gameTable.map fun entry => serverFile path entry.gamename := by
    rw [all, List.map_map]
    rfl
  exact ⟨names, names ▸ (serverFiles_distinct_iff path).mpr room⟩

/-- The list files of a registry are on the disk. -/
def Program.Lists (setup : Setup) (program : Program) (reg : ServerList) : Prop :=
  ∀ entry ∈ gameTable,
    program.listFiles (serverFile setup.settings.serverListGenerationPath entry.gamename) =
      some ((reg.servers.filter (udpListed setup.cfg entry.gamename)).flatMap serverLine)

/-- The iterations that write the list files. -/
def generating (setup : Setup) (turns : List Turn) : List Turn :=
  fired generationTested generationStamped setup.serverListGenerationTime 0 turns

theorem Clocked.generation {turns : List Turn} (clocked : Clocked turns) {turn : Turn}
    (member : turn ∈ turns) : generationTested turn ≤ generationStamped turn := by
  have here := (List.pairwise_flatMap.mp clocked).1 turn member
  have later := (List.pairwise_cons.mp here.tail.tail.tail.tail.tail).1
  exact Nat.cast_le.mpr (later turn.met.generationStamped (List.mem_cons_self ..))

section Files

variable (enabled : setup.settings.bGenerateServerList = true)
  (named : setup.settings.serverListGenerationPath ≠ [])
  (room : setup.settings.serverListGenerationPath.length + 7 < maxPath)

include enabled named room

/-- The timer, and the files as the last iteration that wrote them has left them. -/
theorem ProgramRun.lists {turns : List Turn} {program : Program}
    (run : ProgramRun setup turns program)
    (opens : ∀ turn ∈ turns, ∀ name, turn.met.fopen name = true) :
    program.lastServerListGeneration =
        timerRun generationTested generationStamped setup.serverListGenerationTime 0 turns ∧
      ∀ made, (generating setup turns).getLast? = some made →
        ∃ updated, made.before.curlHttpUpdate setup made.met = some updated ∧
          program.Lists setup updated.registry := by
  induction run with
  | load met stale database proper loaded =>
      obtain ⟨registry, requests, curl, calls, answers, -, -, rfl⟩ :=
        Program.load_spec loaded
      exact ⟨rfl, fun made none => by cases none⟩
  | iterate met run proper done ih =>
      rename_i turns before after
      obtain ⟨timer, files⟩ := ih fun turn member => opens turn (List.mem_append_left _ member)
      obtain ⟨updated, first, -, -, written, stamp⟩ := Program.iterate_timers done
      simp only [enabled, true_and] at written stamp
      have here := opens ⟨before, met, after⟩ (by simp)
      constructor
      · rw [timerRun_snoc, stamp, timer]
        rfl
      · intro made ends
        rw [generating, fired_snoc, ← timer] at ends
        split at ends
        · rename_i late
          rw [List.getLast?_concat] at ends
          obtain rfl := Option.some.inj ends
          refine ⟨updated, first, fun entry member => ?_⟩
          have distinct := (generateServersList_files setup.cfg named room here
            updated.registry.servers).2
          have file := serverFile_written member setup.cfg named (here _) updated.registry.servers
          rw [written.trans (if_pos late), write_member distinct file, serversFileLoop_eq,
            List.nil_append]
        · rename_i early
          rw [List.append_nil] at ends
          obtain ⟨earlier, found, old⟩ := files made ends
          refine ⟨earlier, found, fun entry member => ?_⟩
          rw [written.trans (if_neg early)]
          exact old entry member

/--
The list files on the disk are those of one registry, as it was no more than
their interval before the last test of the timer. The files are enabled and
each of them opens, the path leaves room for different names, and the clock
does not go back and has gone past the first interval.
-/
theorem list_files_recent (positive : 0 ≤ setup.serverListGenerationTime) {turns : List Turn}
    {last : Turn} {program : Program} (run : ProgramRun setup (turns ++ [last]) program)
    (clocked : Clocked (turns ++ [last]))
    (opens : ∀ turn ∈ turns ++ [last], ∀ name, turn.met.fopen name = true)
    (started : setup.serverListGenerationTime < last.met.generationTested) :
    ∃ made ∈ turns ++ [last], ∃ updated,
      generationTested last - generationStamped made ≤ setup.serverListGenerationTime ∧
        made.before.curlHttpUpdate setup made.met = some updated ∧
        updated.registry.Reachable setup.cfg ∧ program.Lists setup updated.registry := by
  obtain ⟨-, files⟩ := run.lists enabled named room opens
  have order := clocked.generation (List.mem_append_right turns (List.mem_singleton_self last))
  have fresh : generationTested last - timerRun generationTested generationStamped
      setup.serverListGenerationTime 0 (turns ++ [last]) ≤ setup.serverListGenerationTime := by
    rw [timerRun_snoc]
    exact timerAfter_recent positive order
  rw [timerRun_eq] at fresh
  cases ends : (generating setup (turns ++ [last])).getLast? with
  | none =>
      rw [generating] at ends
      rw [ends] at fresh
      exact absurd started (not_lt.mpr (by simpa [generationTested] using fresh))
  | some made =>
      obtain ⟨updated, first, lists⟩ := files made ends
      rw [generating] at ends
      rw [ends] at fresh
      have member := (fired_subset _ _).subset (List.mem_of_getLast? ends)
      obtain ⟨early, late, split⟩ := List.append_of_mem member
      obtain ⟨before, done, -⟩ := run.between split
      obtain ⟨updated', first', loads, -⟩ := Program.iterate_registry done
      obtain rfl := Option.some.inj (first.symm.trans first')
      exact ⟨made, member, updated, fresh, first, before.reachable.1.trans loads, lists⟩

end Files

/-- The program that writes list files every two minutes. -/
def listingSetup : Setup :=
  ⟨{ Settings.initial with
    bGenerateServerList := true
    serverListGenerationPath := ascii "lists" }, fun _ => 0⟩

/-- The program started with the file of an Unreal server, and after an iteration at 1000 s. -/
def listingStart : Program :=
  (Program.load listingSetup (quietMet 900) 0 (some unrealFile)).getD (Program.initial none)

def listingLast : Program :=
  (listingStart.iterate listingSetup (quietMet 1000)).getD listingStart

theorem list_files_recent_unreal :
    ∃ turn reg, ProgramRun listingSetup ([] ++ [turn]) listingLast ∧
      reg.Reachable listingSetup.cfg ∧ listingLast.Lists listingSetup reg := by
  have there {step : Option Program} {other : Program} (some : step.isSome = true) :
      step = .some (step.getD other) := by
    obtain ⟨program, rfl⟩ := Option.isSome_iff_exists.mp some
    rfl
  have loaded : Program.load listingSetup (quietMet 900) 0 (some unrealFile) = some listingStart :=
    there (by decide +kernel)
  have done : listingStart.iterate listingSetup (quietMet 1000) = some listingLast :=
    there (by decide +kernel)
  have run : ProgramRun listingSetup ([] ++ [⟨listingStart, quietMet 1000, listingLast⟩])
      listingLast :=
    .iterate (quietMet 1000) (.load (quietMet 900) 0 (some unrealFile) (quietMet_proper 900 rfl)
      loaded) (quietMet_proper 1000 (by decide +kernel)) done
  obtain ⟨made, -, updated, -, -, reached, lists⟩ := list_files_recent rfl (by decide) (by decide)
    (by decide +kernel) run (by decide +kernel)
    (List.forall_mem_singleton.mpr fun _ => rfl) (by decide +kernel)
  exact ⟨_, _, run, reached, lists⟩

end GSMaster.Loop
