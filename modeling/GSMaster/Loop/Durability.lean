import GSMaster.Database.RoundTrip
import GSMaster.Loop.Simulation
import GSMaster.Registry.Entries

/-!
# What a crash can lose

The file is written when its timer is over, so after each test it is no older
than `DBSAVETIME`. A server that has been registered for longer is in it, and
the next start registers it again.
-/

namespace GSMaster.Loop

open GSMaster.Text GSMaster.Net GSMaster.Games GSMaster.Registry GSMaster.Library
open GSMaster.Database ServerList

variable {setup : Setup}

/-! ## The file -/

def saveTested (turn : Turn) : Rat :=
  turn.met.saveTested

def saveStamped (turn : Turn) : Rat :=
  turn.met.saveStamped

/-- The iterations that write the file. -/
def saving (turns : List Turn) : List Turn :=
  fired saveTested saveStamped dbsavetime 0 turns

/-- The file can be written in an iteration. -/
structure Surroundings.Saves (met : Surroundings) : Prop where
  opens : met.dbOpens = true
  allocates : met.dbAllocates = true

/-- The timer, and the file as the last iteration that wrote it has left it. -/
theorem ProgramRun.file {turns : List Turn} {program : Program}
    (run : ProgramRun setup turns program) (saves : ∀ turn ∈ turns, turn.met.Saves) :
    program.lastDBSave = timerRun saveTested saveStamped dbsavetime 0 turns ∧
      ∀ saved, (saving turns).getLast? = some saved →
        ∃ updated, saved.before.curlHttpUpdate setup saved.met = some updated ∧
          program.database = some (generateMasterDBBlob updated.registry.servers) := by
  induction run with
  | load met stale database proper loaded =>
      obtain ⟨registry, requests, curl, calls, answers, -, -, rfl⟩ :=
        Program.load_spec loaded
      exact ⟨rfl, fun saved none => by cases none⟩
  | iterate met run proper done ih =>
      rename_i turns before after
      obtain ⟨timer, file⟩ := ih fun turn member => saves turn (List.mem_append_left _ member)
      obtain ⟨updated, first, -, -, stamp, database⟩ := Program.iterate_registry done
      have here := saves ⟨before, met, after⟩ (by simp)
      constructor
      · rw [timerRun_snoc, stamp, timer]
        rfl
      · intro saved ends
        rw [saving, fired_snoc] at ends
        rw [timer] at database
        split at ends
        · rename_i late
          rw [List.getLast?_concat] at ends
          obtain rfl := Option.some.inj ends
          refine ⟨updated, first, (database.trans (if_pos late)).trans ?_⟩
          rw [Program.savedFile, if_pos here.opens, if_pos here.allocates]
        · rename_i early
          rw [List.append_nil] at ends
          obtain ⟨earlier, found, old⟩ := file saved ends
          exact ⟨earlier, found, (database.trans (if_neg early)).trans old⟩

theorem Clocked.turn {turns : List Turn} (clocked : Clocked turns) {turn : Turn}
    (member : turn ∈ turns) : turn.met.saveTested ≤ turn.met.saveStamped := by
  obtain ⟨early, late, rfl⟩ := List.append_of_mem member
  have here := (List.pairwise_flatMap.mp clocked).1 turn member
  exact (List.pairwise_cons.mp here.tail.tail.tail).1 _ (List.mem_cons_self ..)

theorem Clocked.later {early late : List Turn} {turn next : Turn}
    (clocked : Clocked (early ++ turn :: late)) (member : next ∈ late) :
    turn.met.saveStamped ≤ next.met.saveTested := by
  have order := (List.pairwise_flatMap.mp clocked).2
  have after := (List.pairwise_cons.mp (List.pairwise_append.mp order).2.1).1 next member
  exact after _ (by simp [Surroundings.clock]) _ (by simp [Surroundings.clock])

/--
The file holds the registry as it was no more than `DBSAVETIME` before the last
test of the timer, provided that this has been that long after the epoch.
-/
theorem ProgramRun.recent {turns : List Turn} {last : Turn} {program : Program}
    (run : ProgramRun setup (turns ++ [last]) program) (clocked : Clocked (turns ++ [last]))
    (saves : ∀ turn ∈ turns ++ [last], turn.met.Saves)
    (started : dbsavetime < last.met.saveTested) :
    ∃ saved ∈ turns ++ [last], ∃ updated,
      (last.met.saveTested : Rat) - saved.met.saveStamped ≤ dbsavetime ∧
        saved.before.curlHttpUpdate setup saved.met = some updated ∧
        program.database = some (generateMasterDBBlob updated.registry.servers) := by
  obtain ⟨-, file⟩ := run.file saves
  have order : saveTested last ≤ saveStamped last :=
    Nat.cast_le.mpr (clocked.turn (List.mem_append_right turns (List.mem_singleton_self last)))
  have fresh : (last.met.saveTested : Rat) -
      timerRun saveTested saveStamped dbsavetime 0 (turns ++ [last]) ≤ dbsavetime := by
    rw [timerRun_snoc]
    exact timerAfter_recent (by norm_num [dbsavetime]) order
  rw [timerRun_eq] at fresh
  cases ends : (saving (turns ++ [last])).getLast? with
  | none =>
      rw [saving] at ends
      rw [ends] at fresh
      exact absurd started (not_lt.mpr (by simpa using fresh))
  | some saved =>
      obtain ⟨updated, first, database⟩ := file saved ends
      rw [saving] at ends
      rw [ends] at fresh
      exact ⟨saved, (fired_subset _ _).subset (List.mem_of_getLast? ends), updated, fresh, first,
        database⟩

/-! ## The restart -/

section Restart

variable {restart : Setup} {met : Surroundings}

/-- A fresh process registers what a sound registry has written, under the names of the table. -/
theorem read_generated (cfg : Config) {env : Nat → Env}
    (resolves : ∀ index addr, (env index).gethostbyname (inetNtoa addr) = some addr)
    {reg : ServerList} (sound : reg.WellFormed) (stale : UInt16) :
    ∃ reg', exec cfg env (.readMasterDBBlob (generateMasterDBBlob reg.servers) (shortBytes stale))
        ServerList.initial = some reg' ∧
      roster reg' = (roster reg).map fun identity =>
        (identity.1, (Record.ofIdentity identity).gamename) := by
  have valid : ∀ record ∈ (roster reg).map Record.ofIdentity, record.Valid := by
    intro record member
    obtain ⟨identity, inside, rfl⟩ := List.mem_map.mp member
    exact (record_ofIdentity sound inside).1
  have distinct : (((roster reg).map Record.ofIdentity).map Record.key).Nodup := by
    have keys := sound.keys
    rw [ServerList.identities, List.map_map] at keys
    rw [roster_eq, List.map_map, List.map_map]
    exact keys
  obtain ⟨reg', done, entries⟩ := read_blobFile cfg resolves valid distinct stale
  refine ⟨reg', ?_, ?_⟩
  · rw [generateMasterDBBlob_records]
    rw [roster, List.map_map] at done
    exact done
  · rw [entries, List.map_map]
    rfl

/-- What the database brings back no list that is read after it takes away. -/
theorem load_generated {reg : ServerList} (sound : reg.WellFormed)
    (resolves : ∀ index addr, (met.calls index).gethostbyname (inetNtoa addr) = some addr)
    {stale : UInt16} {program : Program}
    (loaded : Program.load restart met stale (some (generateMasterDBBlob reg.servers)) =
      some program)
    {identity : ServerKey × CString} (member : identity ∈ roster reg) :
    ∃ server ∈ program.registry.servers,
      server.key = identity.1 ∧ tableName identity.2 = some server.gamename := by
  obtain ⟨registry, requests, curl, calls, answers, read, -, rfl⟩ := Program.load_spec loaded
  obtain ⟨reg', done, entries⟩ := read_generated restart.cfg resolves sound stale
  obtain ⟨registry', ran, same⟩ := Program.operate_spec read
  obtain rfl : registry = registry' := congrArg Program.registry same
  obtain rfl := Option.some.inj (done.symm.trans ran)
  have there : (identity.1, (Record.ofIdentity identity).gamename) ∈ roster reg' := by
    rw [entries]
    exact List.mem_map_of_mem member
  rw [roster_eq] at there
  obtain ⟨cell, inside, named⟩ := List.mem_map.mp there
  have awake : cell.2.shutdownIssued = false := by
    rcases exec_comes initial_wellFormed done cell inside with ⟨_, none, -⟩ | ⟨-, made⟩
    · cases none
    · obtain ⟨call, -, gamename, -, new⟩ := made
      rw [new]
      rfl
  have sound' := (exec_sound initial_wellFormed done).1
  rcases addServers_removes restart.cfg calls sound' inside with kept | ⟨waiting, -⟩
  · refine ⟨cell.2, List.mem_map_of_mem kept, congrArg Prod.fst named, ?_⟩
    rw [(record_ofIdentity sound member).2]
    exact congrArg (fun identity => some identity.2) named.symm
  · exact absurd waiting (by rw [awake]; exact Bool.false_ne_true)

end Restart

/-- An entry that is there before and after some operations is there in between. -/
theorem held_between {early middle late : ServerList} (sound : early.WellFormed)
    (first : Keeps early middle) (second : Keeps middle late) {block : Nat} {server : Server}
    (member : (block, server) ∈ early.cells) (held : late.Holds block) :
    server.identity ∈ roster middle := by
  obtain ⟨last, inside⟩ := held
  have identity := (first.trans second).identity sound member inside
  have allocated := Nat.lt_of_lt_of_le (sound.allocated _ (mem_identities member)).2 first.grows
  have between := second.same _ (mem_identities inside) allocated
  rw [roster_eq, ← identity]
  obtain ⟨cell, there, same⟩ := List.mem_map.mp between
  exact List.mem_map.mpr ⟨cell, there, congrArg Prod.snd same⟩

/--
A server that has been registered for more than five minutes, and still is when
the process dies, is registered again by the next start from the database, under
its address, its port and the name that the table has for its game. Each save
goes through and the clock does not go back.
-/
theorem crash_forgets_recent {restart : Setup} {turns : List Turn} {last : Turn}
    {program : Program} (run : ProgramRun setup (turns ++ [last]) program)
    (clocked : Clocked (turns ++ [last])) (saves : ∀ turn ∈ turns ++ [last], turn.met.Saves)
    {turn : Turn} (member : turn ∈ turns ++ [last])
    (old : (turn.met.saveTested : Rat) + dbsavetime < last.met.saveTested)
    {block : Nat} {server : Server} (registered : (block, server) ∈ turn.before.registry.cells)
    (held : program.registry.Holds block) {met : Surroundings}
    (resolves : ∀ index addr, (met.calls index).gethostbyname (inetNtoa addr) = some addr)
    {stale : UInt16} {restarted : Program}
    (loaded : Program.load restart met stale program.database = some restarted) :
    ∃ found ∈ restarted.registry.servers,
      found.key = server.key ∧ tableName server.gamename = some found.gamename := by
  have started : dbsavetime < last.met.saveTested :=
    lt_of_le_of_lt (le_add_of_nonneg_left (Nat.cast_nonneg _)) old
  obtain ⟨saved, among, updated, fresh, first, database⟩ := run.recent clocked saves started
  obtain ⟨early, late, split⟩ := List.append_of_mem among
  obtain ⟨reached, done, rest⟩ := run.between split
  obtain ⟨updated', first', loads, serves, -⟩ := Program.iterate_registry done
  obtain rfl := Option.some.inj (first.symm.trans first')
  -- The iteration that wrote the file is not before the one that saw the server.
  have order : Relation.ReflTransGen (ServerList.Step setup.cfg) turn.before.registry
      saved.before.registry := by
    rw [split] at member clocked
    rcases List.mem_append.mp member with earlier | here
    · exact reached.onwards earlier
    · rcases List.mem_cons.mp here with rfl | later
      · exact .refl
      · have after : (saved.met.saveStamped : Rat) ≤ turn.met.saveTested :=
          Nat.cast_le.mpr (clocked.later later)
        linarith
  obtain ⟨before, after, apart⟩ := List.append_of_mem member
  have sound := (run.between apart).1.reachable.1.wellFormed
  obtain ⟨sound', kept⟩ := run_sound sound (order.trans loads)
  have kept' := (run_sound sound' (serves.trans rest)).2
  rw [database] at loaded
  exact load_generated sound' resolves loaded (held_between sound kept kept' registered held)

/-- The file of an Unreal server. -/
def unrealFile : List UInt8 :=
  blobFile [⟨⟨10, 0, 0, 2⟩, htons 7778, 17⟩]

/-- The program started with that file, and after iterations at two later times. -/
def unrealStart : Program :=
  (Program.load quietSetup (quietMet 900) 0 (some unrealFile)).getD (Program.initial none)

def unrealNext : Program :=
  (unrealStart.iterate quietSetup (quietMet 1000)).getD unrealStart

def unrealLast : Program :=
  (unrealNext.iterate quietSetup (quietMet 1400)).getD unrealNext

/-- The server of that file, registered at 900 seconds, comes back after a crash at 1400. -/
theorem crash_forgets_recent_unreal :
    ∃ turns restarted, ProgramRun quietSetup turns unrealLast ∧
      Program.load quietSetup (quietMet 1500) 0 unrealLast.database = some restarted ∧
      ∃ found ∈ restarted.registry.servers, found.key = (⟨10, 0, 0, 2⟩, htons 7778) := by
  have there {step : Option Program} {other : Program} (some : step.isSome = true) :
      step = .some (step.getD other) := by
    obtain ⟨program, rfl⟩ := Option.isSome_iff_exists.mp some
    rfl
  have loaded : Program.load quietSetup (quietMet 900) 0 (some unrealFile) = some unrealStart :=
    there (by decide +kernel)
  have next : unrealStart.iterate quietSetup (quietMet 1000) = some unrealNext :=
    there (by decide +kernel)
  have last : unrealNext.iterate quietSetup (quietMet 1400) = some unrealLast :=
    there (by decide +kernel)
  have run : ProgramRun quietSetup ([⟨unrealStart, quietMet 1000, unrealNext⟩] ++
      [⟨unrealNext, quietMet 1400, unrealLast⟩]) unrealLast :=
    .iterate (quietMet 1400) (.iterate (quietMet 1000)
      (.load (quietMet 900) 0 (some unrealFile) (quietMet_proper 900 rfl) loaded)
      (quietMet_proper 1000 rfl) next) (quietMet_proper 1400 (by decide +kernel)) last
  obtain ⟨restarted, again⟩ := Option.isSome_iff_exists.mp (by decide +kernel :
    (Program.load quietSetup (quietMet 1500) 0 unrealLast.database).isSome = true)
  have started : (1, (⟨10, 0, 0, 2⟩, htons 7778)) ∈
      unrealStart.registry.cells.map fun cell => (cell.1, cell.2.key) := by decide +kernel
  have ended : 1 ∈ unrealLast.registry.cells.map Prod.fst := by decide +kernel
  obtain ⟨⟨_, server⟩, registered, same⟩ := List.mem_map.mp started
  obtain ⟨rfl, key⟩ := Prod.mk.inj same
  obtain ⟨⟨_, server'⟩, held, rfl⟩ := List.mem_map.mp ended
  obtain ⟨found, member, again', -⟩ := crash_forgets_recent run (by decide +kernel)
    (List.forall_mem_cons.mpr ⟨⟨rfl, rfl⟩, List.forall_mem_singleton.mpr ⟨rfl, rfl⟩⟩)
    (List.mem_cons_self ..) (by norm_num [quietMet, dbsavetime]) registered ⟨server', held⟩
    (fun _ addr => dottedQuad_inetNtoa addr) again
  exact ⟨_, restarted, run, again, found, member, again'.trans key⟩

end GSMaster.Loop
