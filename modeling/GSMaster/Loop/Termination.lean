import GSMaster.Registry.MemorySafety

/-!
# The end of the master on SIGTERM

The handler runs on the thread of the main loop, which stands still until it
returns. Nothing the loop does can end the handler's wait, and the handler has
freed the registry by the time the loop saves it.
-/

namespace GSMaster.Loop

open GSMaster.Net GSMaster.Registry GSMaster.Library GSMaster.Database

/-! ## The handler -/

def srvRun : Int := 1
def srvStop : Int := 0
def srvStopped : Int := -1

/-- What the wait of the handler comes to: its calls of `msleep` and its reads of `runmode`. -/
structure Waited where
  sleeps : Nat
  reads : Nat
  deriving DecidableEq, Repr

/--
The `while` loop of `signal_handler`; `runmode n` is the value that read `n` of
`runmode` after the signal finds. The fuel bounds the rounds.
-/
def waitLoop (runmode : Nat → Int) : Nat → Nat → Option Waited
  | 0, _ => none
  | fuel + 1, round =>
      if runmode round = srvStop then
        -- declared in the body of the loop, so zero in every round
        let i : Int := 0
        let i := i + 1
        if i ≥ 6 then some ⟨round + 1, round + 1⟩ else waitLoop runmode fuel (round + 1)
      else some ⟨round, round + 1⟩

/-- `ExitNicely`, as far as it concerns the registry; the counter is left as it was. -/
def exitNicely (m : Memory) : Option Memory := do
  let servers : Node Server ← m.heap 0
  let heap ← freeNodes m.nextBlock m.heap servers.next
  let heap ← setNext heap 0 none
  some { m with heap := heap }

/-! ## The rest of the main loop -/

/--
From its read `n` of `runmode` on the main loop can take the first memory to
the second; an iteration runs any operations.
-/
inductive LoopEnds (cfg : Config) (runmode : Nat → Int) : Nat → Memory → Memory → Prop where
  | leave {n : Nat} {m : Memory} (stopped : runmode n ≠ srvRun) : LoopEnds cfg runmode n m m
  | iterate {n : Nat} {m m₁ m₂ : Memory} (running : runmode n = srvRun)
      (iteration : Relation.ReflTransGen (Memory.Step cfg) m m₁)
      (rest : LoopEnds cfg runmode (n + 1) m₁ m₂) : LoopEnds cfg runmode n m m₂

/-- The file `gsmaster.db` after `GenerateMasterDBBlob` has walked the list. -/
def savedBlob (m : Memory) : Option (List UInt8) :=
  m.entries.map fun cells => generateMasterDBBlob (cells.map Prod.snd)

/-- A SIGTERM while the main loop is between two iterations can end with this file. -/
inductive SigtermSaves (cfg : Config) (runmode : Nat → Int) (m : Memory) (file : List UInt8) :
    Prop where
  | intro {fuel : Nat} {waited : Waited} {cleared last : Memory}
      (waits : waitLoop runmode fuel 0 = some waited) (exits : exitNicely m = some cleared)
      (ends : LoopEnds cfg runmode waited.reads cleared last) (saves : savedBlob last = some file)

/-- One of the eight-byte records after the version is the record of the server. -/
def HasRecord (file : List UInt8) (server : Server) : Prop :=
  ∃ i, (file.drop (2 + 8 * i)).take 8 = blobRecord server

/-- SIGTERM ends the master within six sleeps, and the database keeps the servers. -/
structure SigtermKeeps (cfg : Config) (runmode : Nat → Int) (m : Memory) (servers : List Server) :
    Prop where
  returns : ∃ fuel waited, waitLoop runmode fuel 0 = some waited ∧ waited.sleeps ≤ 6
  saves : ∃ file, SigtermSaves cfg runmode m file
  keeps : ∀ file, SigtermSaves cfg runmode m file → ∀ server ∈ servers, HasRecord file server

/-! ## The wait -/

theorem waitLoop_step (runmode : Nat → Int) (fuel round : Nat) :
    waitLoop runmode (fuel + 1) round =
      if runmode round = srvStop then waitLoop runmode fuel (round + 1)
      else some ⟨round, round + 1⟩ := by
  rw [waitLoop]
  split
  · exact if_neg (by decide)
  · rfl

/-- The wait ends at the first read of another value than `SRV_STOP`. -/
theorem waitLoop_returns {runmode : Nat → Int} {first : Nat} (ends : runmode first ≠ srvStop)
    (rounds : Nat) {round : Nat} (order : round + rounds = first)
    (stopped : ∀ n, round ≤ n → n < first → runmode n = srvStop) :
    waitLoop runmode (rounds + 1) round = some ⟨first, first + 1⟩ := by
  induction rounds generalizing round with
  | zero =>
      obtain rfl : round = first := order
      rw [waitLoop_step, if_neg ends]
  | succ rounds ih =>
      have next : round + 1 + rounds = first := by omega
      rw [waitLoop_step, if_pos (stopped round le_rfl (by omega))]
      exact ih next fun n later => stopped n (by omega)

/-- A wait that returns has found `SRV_STOP` in each round, and then another value. -/
theorem waitLoop_some {runmode : Nat → Int} {fuel round : Nat} {waited : Waited}
    (returned : waitLoop runmode fuel round = some waited) :
    round ≤ waited.sleeps ∧ waited.reads = waited.sleeps + 1 ∧
      (∀ n, round ≤ n → n < waited.sleeps → runmode n = srvStop) ∧
      runmode waited.sleeps ≠ srvStop := by
  induction fuel generalizing round with
  | zero => cases returned
  | succ fuel ih =>
      rw [waitLoop_step] at returned
      split at returned
      · rename_i stopped
        obtain ⟨order, reads, before, ends⟩ := ih returned
        refine ⟨by omega, reads, fun n from_ upto => ?_, ends⟩
        rcases Nat.eq_or_lt_of_le from_ with rfl | later
        · exact stopped
        · exact before n later upto
      · rename_i ends
        cases returned
        exact ⟨le_rfl, rfl, fun n from_ upto => absurd from_ (Nat.not_le.mpr upto), ends⟩

/-- Two waits that return have seen the same. -/
theorem waitLoop_unique {runmode : Nat → Int} {fuel fuel' : Nat} {waited waited' : Waited}
    (returned : waitLoop runmode fuel 0 = some waited)
    (returned' : waitLoop runmode fuel' 0 = some waited') : waited'.sleeps = waited.sleeps := by
  obtain ⟨-, -, before, ends⟩ := waitLoop_some returned
  obtain ⟨-, -, before', ends'⟩ := waitLoop_some returned'
  rcases Nat.lt_trichotomy waited'.sleeps waited.sleeps with less | same | more
  · exact absurd (before _ (Nat.zero_le _) less) ends'
  · exact same
  · exact absurd (before' _ (Nat.zero_le _) more) ends

/-- The counter never ends the wait. -/
theorem waitLoop_hangs {runmode : Nat → Int} (stopped : ∀ n, runmode n = srvStop) (fuel : Nat) :
    waitLoop runmode fuel 0 = none := by
  cases returned : waitLoop runmode fuel 0 with
  | none => rfl
  | some waited => exact absurd (stopped _) (waitLoop_some returned).2.2.2

/-! ## The clean-up -/

/-- `ExitNicely` frees the nodes of the entries and leaves the sentinel by itself. -/
theorem exitNicely_eq {m : Memory} {reg : ServerList} (formed : reg.WellFormed)
    (layout : Layout m reg) :
    ∃ heap, freeNodes m.nextBlock m.heap (firstOr reg.cells none) = some heap ∧
      (∀ p ∈ reg.cells.map Prod.fst, heap p = none) ∧
      exitNicely m =
        some { m with heap := Function.update heap 0 (some ⟨none, none, Server.zero⟩) } := by
  obtain ⟨sentinel, rest⟩ := layout.linked.segment
  obtain ⟨unlisted, distinct⟩ := List.nodup_cons.mp layout.linked.distinct
  have enough : reg.cells.length ≤ m.nextBlock := by
    rw [layout.nextBlock]
    exact Nat.le_of_lt (LayoutIn.enough formed)
  obtain ⟨heap, freed, gone, framed⟩ := freeNodes_segment rest distinct enough
  have kept : heap 0 = some ⟨none, firstOr reg.cells none, Server.zero⟩ := by
    rw [framed 0 unlisted]
    exact sentinel
  refine ⟨heap, freed, gone, ?_⟩
  simp only [exitNicely, sentinel, Option.bind_eq_bind, Option.bind_some, freed, setNext, kept,
    Option.map_some]

/-- Behind the sentinel there is an empty list then. -/
theorem exitNicely_clears {m : Memory} {reg : ServerList} (held : m.Holds reg) :
    ∃ cleared, exitNicely m = some cleared ∧ cleared.entries = some [] := by
  obtain ⟨formed, layout⟩ := held
  obtain ⟨heap, -, -, exits⟩ := exitNicely_eq formed layout
  have blocks : m.nextBlock ≠ 0 := by
    rw [layout.nextBlock]
    exact Nat.ne_of_gt formed.fresh
  obtain ⟨fuel, succ⟩ := Nat.exists_eq_succ_of_ne_zero blocks
  refine ⟨_, exits, ?_⟩
  simp only [Memory.entries, succ, collect, Function.update_self, Option.bind_eq_bind,
    Option.bind_some]

/-- A loop that will be left may do nothing until then. -/
theorem loopEnds_idle {cfg : Config} {runmode : Nat → Int} {n later : Nat} (order : n ≤ later)
    (stopped : runmode later ≠ srvRun) (m : Memory) : LoopEnds cfg runmode n m m := by
  induction order using Nat.decreasingInduction with
  | self => exact .leave stopped
  | of_succ n _ ih =>
      by_cases running : runmode n = srvRun
      · exact .iterate running .refl ih
      · exact .leave running

/-- A loop that is left has found another value than `SRV_RUN`. -/
theorem LoopEnds.stopped {cfg : Config} {runmode : Nat → Int} {n : Nat} {m last : Memory}
    (ends : LoopEnds cfg runmode n m last) : ∃ later, n ≤ later ∧ runmode later ≠ srvRun := by
  induction ends with
  | leave stopped => exact ⟨_, le_rfl, stopped⟩
  | iterate _ _ _ ih =>
      obtain ⟨later, order, stopped⟩ := ih
      exact ⟨later, by omega, stopped⟩

/-! ## What is saved -/

theorem hasRecord_generateMasterDBBlob {servers : List Server} {server : Server}
    (member : server ∈ servers) : HasRecord (generateMasterDBBlob servers) server := by
  obtain ⟨before, after, rfl⟩ := List.append_of_mem member
  have earlier : (shortBytes gspyDbVersion ++ before.flatMap blobRecord).length =
      2 + 8 * before.length := by
    rw [← generateMasterDBBlob_eq, generateMasterDBBlob_length, Nat.add_comm]
  refine ⟨before.length, ?_⟩
  rw [generateMasterDBBlob_eq, List.flatMap_append, ← List.append_assoc, ← earlier,
    List.drop_left, List.flatMap_cons, ← blobRecord_length server, List.take_left]

theorem not_hasRecord_empty (server : Server) : ¬ HasRecord (generateMasterDBBlob []) server := by
  rintro ⟨i, same⟩
  have lengths := congrArg List.length same
  rw [List.length_take, List.length_drop, generateMasterDBBlob_length, blobRecord_length,
    List.length_nil] at lengths
  omega

/-- Where the wait ends and the loop is left, the file without a record can be the result. -/
theorem sigtermSaves_empty {cfg : Config} {runmode : Nat → Int} {m : Memory} {reg : ServerList}
    (held : m.Holds reg) {first later : Nat} (before : ∀ n < first, runmode n = srvStop)
    (ends : runmode first ≠ srvStop) (order : first < later) (stopped : runmode later ≠ srvRun) :
    SigtermSaves cfg runmode m (generateMasterDBBlob []) := by
  obtain ⟨cleared, exits, empty⟩ := exitNicely_clears held
  have waits := waitLoop_returns ends first (Nat.zero_add first) fun n _ => before n
  have saves : savedBlob cleared = some (generateMasterDBBlob []) := by
    rw [savedBlob, empty]
    rfl
  exact .intro waits exits (loopEnds_idle order stopped cleared) saves

/--
SIGTERM ends the master and keeps its data exactly if somebody else takes
`runmode` off `SRV_STOP` within six sleeps, and no server is registered.
-/
theorem sigterm_keeps_iff (cfg : Config) (runmode : Nat → Int) (m : Memory) (reg : ServerList)
    (held : m.Holds reg) :
    SigtermKeeps cfg runmode m (reg.cells.map Prod.snd) ↔
      (∃ first ≤ 6, (∀ n < first, runmode n = srvStop) ∧ runmode first ≠ srvStop ∧
        ∃ later > first, runmode later ≠ srvRun) ∧ reg.cells = [] := by
  constructor
  · rintro ⟨⟨fuel, waited, waits, six⟩, ⟨file, saved⟩, keeps⟩
    obtain ⟨-, -, before, ends⟩ := waitLoop_some waits
    obtain ⟨waits', exits, loop, saves⟩ := saved
    obtain ⟨-, reads, -, -⟩ := waitLoop_some waits'
    obtain ⟨later, order, stopped⟩ := loop.stopped
    rw [reads, waitLoop_unique waits waits'] at order
    refine ⟨⟨_, six, fun n => before n (Nat.zero_le n), ends, later, order, stopped⟩, ?_⟩
    have lost := keeps _
      (sigtermSaves_empty held (fun n => before n (Nat.zero_le n)) ends order stopped)
    cases cells : reg.cells with
    | nil => rfl
    | cons cell rest =>
        rw [cells] at lost
        exact absurd (lost cell.2 (List.mem_cons_self ..)) (not_hasRecord_empty cell.2)
  · rintro ⟨⟨first, six, before, ends, later, order, stopped⟩, empty⟩
    refine ⟨⟨first + 1, _, waitLoop_returns ends first (Nat.zero_add first) fun n _ => before n, six⟩,
      ⟨_, sigtermSaves_empty held before ends order stopped⟩, fun file saved server member => ?_⟩
    rw [empty] at member
    cases member

/-- The value that somebody gives `runmode` while the handler sleeps for the first time. -/
def stoppedElsewhere (n : Nat) : Int :=
  if n = 0 then srvStop else srvStopped

theorem sigterm_keeps_iff_empty :
    SigtermKeeps defaultConfig stoppedElsewhere Memory.initial
      (ServerList.initial.cells.map Prod.snd) :=
  (sigterm_keeps_iff defaultConfig stoppedElsewhere Memory.initial ServerList.initial
    Memory.initial_holds).mpr
    ⟨⟨1, by decide, by decide, by decide, 2, by decide, by decide⟩, rfl⟩

/--
A master with one server does not come back from the handler; where somebody
ends the wait, the server is lost.
-/
theorem sigterm_hangs_or_loses :
    ∃ (m : Memory) (reg : ServerList),
      Memory.initial.exec defaultConfig (fun _ => quietEnv) quake2Heartbeat = some m ∧
      m.Holds reg ∧ reg.cells ≠ [] ∧
      ¬ SigtermKeeps defaultConfig (fun _ => srvStop) m (reg.cells.map Prod.snd) ∧
      ¬ SigtermKeeps defaultConfig stoppedElsewhere m (reg.cells.map Prod.snd) := by
  obtain ⟨reg, registered, server, found, -⟩ := quake2Heartbeat_registers
  obtain ⟨m, ran, layout⟩ := Layout.initial.exec ServerList.initial_wellFormed registered
  have held : m.Holds reg := ⟨(exec_sound ServerList.initial_wellFormed registered).1, layout⟩
  have member := (ServerList.find_some found).1
  refine ⟨m, reg, ran, held, List.ne_nil_of_mem member, fun kept => ?_, fun kept => ?_⟩
  · obtain ⟨fuel, waited, waits, -⟩ := kept.returns
    rw [waitLoop_hangs (fun _ => rfl)] at waits
    cases waits
  · have before : ∀ n < 1, stoppedElsewhere n = srvStop := by decide
    have lost := kept.keeps _ (sigtermSaves_empty held before (by decide) (Nat.lt_succ_self 1)
      (by decide))
    exact not_hasRecord_empty server (lost server (List.mem_map_of_mem member))

end GSMaster.Loop
