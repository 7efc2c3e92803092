import GSMaster.Downloads.QueueOrder
import GSMaster.Library.WaitingLine
import GSMaster.Loop.Simulation

/-!
# The queue of the downloads in the loop

An iteration tries the oldest download of the queue once, after the completions
have given their slots back, and asking other masters may then put downloads
behind it. No download is lost or overtaken, and one that waits is started when
as many iterations have had a free slot and an open file as there are downloads
before it.
-/

namespace GSMaster.Downloads

open GSMaster.Text GSMaster.Lists

/-! ## A call of each function of the queue -/

theorem CurlState.addToQueue_suffix (request : Request) (state : CurlState) :
    state.curlQueue <:+ (state.addToQueue request).curlQueue := by
  obtain ⟨pool, queue⟩ := state
  cases stored : request.stored with
  | none =>
      rw [addToQueue_incomplete stored]
  | some wanted =>
      rw [addToQueue_eq stored]
      split
      · exact List.suffix_refl queue
      · exact List.suffix_cons wanted queue

/-- A round of `HTTP_DL_List` leaves what waits where it is. -/
theorem CurlState.downloadOrQueue_suffix {request : Request} {supply : Supply}
    {state next : CurlState} (done : state.downloadOrQueue request supply = some next) :
    state.curlQueue <:+ next.curlQueue := by
  obtain ⟨started, -, rfl⟩ := Option.map_eq_some_iff.mp done
  split
  · exact CurlState.addToQueue_suffix request { state with pool := started.1 }
  · exact List.suffix_refl _

/-- The download that leaves the queue, in front of `CURL_HTTP_ScheduleQueue`. -/
def CurlState.dequeued (supply : Supply) (state : CurlState) : Option QueueEntry :=
  state.curlQueue.getLast?.filter fun var =>
    (state.pool.startDownload var.request supply).any fun started => started.2 != 0

/-- A slot is free, and the file of the download can be opened. -/
def CurlState.Ready (supply : Supply) (state : CurlState) : Prop :=
  state.pool.activeHandles < maxConcurrentCurlHandles ∧ supply.stream ≠ none

instance (supply : Supply) (state : CurlState) : Decidable (state.Ready supply) :=
  inferInstanceAs (Decidable (_ ∧ _))

theorem QueueEntry.request_opens (var : QueueEntry) (supply : Supply) :
    var.request.Opens supply ↔ supply.stream ≠ none :=
  and_iff_right ⟨Option.some_ne_none _, Option.some_ne_none _, Option.some_ne_none _⟩

/-- The oldest download leaves the queue exactly when it can be started. -/
theorem CurlState.dequeued_eq_some_iff {state : CurlState} (sound : state.pool.Sound)
    (supply : Supply) (var : QueueEntry) :
    state.dequeued supply = some var ↔
      state.curlQueue.getLast? = some var ∧ state.Ready supply := by
  rw [dequeued, Option.filter_eq_some_iff]
  refine and_congr_right fun _ => ?_
  rcases Pool.startDownload_spec sound var.request supply with
    ⟨pool, _, _, _, _, started, room, opens, -⟩ | ⟨pool, refused, missing, -⟩
  · rw [started]
    exact iff_of_true rfl ⟨room, (var.request_opens supply).mp opens⟩
  · rw [refused]
    refine iff_of_false Bool.false_ne_true fun ready => missing ⟨ready.1, ?_⟩
    exact (var.request_opens supply).mpr ready.2

theorem CurlState.dequeued_ne_none {state : CurlState} (sound : state.pool.Sound)
    {supply : Supply} (ready : state.Ready supply) (waiting : state.curlQueue ≠ []) :
    state.dequeued supply ≠ none := by
  obtain ⟨var, last⟩ := Option.ne_none_iff_exists'.mp
    (mt List.getLast?_eq_none_iff.mp waiting)
  rw [(dequeued_eq_some_iff sound supply var).mpr ⟨last, ready⟩]
  exact Option.some_ne_none var

/-- A download has got a free slot for its file and its game, and libcurl has its URL. -/
def QueueEntry.TakesSlot (var : QueueEntry) (easyHandle : Nat) (pool pool' : Pool) : Prop :=
  ∃ stream i, pool.inUse i = false ∧
    pool'.curlHelper i =
      ⟨some stream, nameBuffer var.filename, nameBuffer var.gamename, true⟩ ∧
    ⟨easyHandle, var.url.take (maxUrllength - 1), stream, i⟩ ∈ pool'.multiHandle

theorem QueueEntry.startDownload_ready {pool : Pool} (sound : pool.Sound) (var : QueueEntry)
    {supply : Supply} (room : pool.activeHandles < maxConcurrentCurlHandles)
    (opens : supply.stream ≠ none) :
    ∃ pool', pool.startDownload var.request supply = some (pool', 1) ∧
      var.TakesSlot supply.easyHandle pool pool' ∧
      ∃ transfer : Transfer, transfer.url = var.url.take (maxUrllength - 1) ∧
        pool'.multiHandle = transfer :: pool.multiHandle := by
  rcases Pool.startDownload_cases sound var.request supply with
    ⟨refused, -⟩ | ⟨-, url, filename, gamename, i, same, unused, filled⟩
  · exact absurd ⟨room, ((var.request_opens supply).mpr opens).1⟩ refused
  · obtain ⟨stream, open'⟩ := Option.ne_none_iff_exists'.mp opens
    rw [Pool.fill, open'] at filled
    cases same
    exact ⟨_, filled, ⟨stream, i, unused, Function.update_self .., List.mem_cons_self ..⟩,
      _, rfl, rfl⟩

/-- A call of `CURL_HTTP_ScheduleQueue` that starts nothing. -/
theorem CurlState.scheduleQueue_idle {supply : Supply} {state after : CurlState}
    (sound : state.pool.Sound) (done : state.scheduleQueue supply = some after)
    (gone : state.dequeued supply = none) :
    after.curlQueue = state.curlQueue ∧ after.pool.multiHandle = state.pool.multiHandle := by
  by_cases idle : state.curlQueue = [] ∨ state.pool.activeHandles ≥ maxConcurrentCurlHandles
  · rw [scheduleQueue, if_pos idle] at done
    obtain rfl := Option.some.inj done
    exact ⟨rfl, rfl⟩
  · obtain ⟨waiting, full⟩ := not_or.mp idle
    obtain ⟨var, last⟩ := Option.ne_none_iff_exists'.mp (mt List.getLast?_eq_none_iff.mp waiting)
    rw [scheduleQueue_oldest last (not_le.mp full)] at done
    rcases Pool.startDownload_spec sound var.request supply with
      ⟨_, _, _, _, _, -, room, opens, -⟩ | ⟨pool, refused, -, same⟩
    · have ready : state.Ready supply := ⟨room, (var.request_opens supply).mp opens⟩
      exact absurd gone (dequeued_ne_none sound ready waiting)
    · rw [refused] at done
      obtain rfl := Option.some.inj done
      exact ⟨rfl, same.multiHandle⟩

/--
`CURL_HTTP_ScheduleQueue`: the oldest download has left and is running, or none
has left, and libcurl has been given no other one.
-/
theorem CurlState.scheduleQueue_dequeued {supply : Supply} {state after : CurlState}
    (sound : state.pool.Sound) (done : state.scheduleQueue supply = some after) :
    state.curlQueue = after.curlQueue ++ (state.dequeued supply).toList ∧
      (∀ var, state.dequeued supply = some var →
        var.TakesSlot supply.easyHandle state.pool after.pool) ∧
      ∃ new, after.pool.multiHandle = new ++ state.pool.multiHandle ∧
        new.map Transfer.url =
          (state.dequeued supply).toList.map fun var => var.url.take (maxUrllength - 1) := by
  cases gone : state.dequeued supply with
  | some var =>
      obtain ⟨last, room, opens⟩ := (dequeued_eq_some_iff sound supply var).mp gone
      obtain ⟨pool', started, taken, transfer, url, given⟩ :=
        var.startDownload_ready sound room opens
      rw [scheduleQueue_oldest last room, started] at done
      obtain rfl := Option.some.inj done
      refine ⟨?_, fun _ same => Option.some.inj same ▸ taken, [transfer], given, ?_⟩
      · exact (List.dropLast_append_getLast? var last).symm
      · exact congrArg (fun url => [url]) url
  | none =>
      obtain ⟨queue, transfers⟩ := scheduleQueue_idle sound done gone
      refine ⟨?_, fun _ same => (nomatch same), [], transfers, rfl⟩
      exact queue.symm.trans (List.append_nil _).symm

end GSMaster.Downloads

namespace GSMaster.Loop

open GSMaster.Text GSMaster.Downloads GSMaster.Startup GSMaster.Library

variable {setup : Setup} {met : Surroundings}

/-! ## The queue in an iteration -/

namespace Program

theorem downloadAll_suffix {supply : Nat → Supply} {requests : List Request} {index : Nat}
    {curl after : CurlState} (done : downloadAll supply index requests curl = some after) :
    curl.curlQueue <:+ after.curlQueue := by
  induction requests generalizing index curl with
  | nil =>
      obtain rfl := Option.some.inj done
      exact List.suffix_refl _
  | cons request requests ih =>
      obtain ⟨next, first, rest⟩ := Option.bind_eq_some_iff.mp done
      exact (CurlState.downloadOrQueue_suffix first).trans (ih rest)

end Program

/-- The slots and the queue of an iteration when its completions are done. -/
def Turn.completed (turn : Turn) : CurlState :=
  ⟨(Program.finishAll turn.met.messages turn.before.curl.pool).1, turn.before.curl.curlQueue⟩

/-- The queued download that an iteration starts. -/
def Turn.dequeued (turn : Turn) : Option QueueEntry :=
  turn.completed.dequeued turn.met.queueSupply

/-- An iteration has a free slot and an open file for a queued download. -/
def Turn.Ready (turn : Turn) : Prop :=
  turn.completed.Ready turn.met.queueSupply

instance (turn : Turn) : Decidable turn.Ready :=
  inferInstanceAs (Decidable (CurlState.Ready ..))

/-- What waits in front of an iteration, and after it. -/
def Turn.waiting (turn : Turn) : List QueueEntry :=
  turn.before.curl.curlQueue

def Turn.left (turn : Turn) : List QueueEntry :=
  turn.after.curl.curlQueue

/-- To the queue an iteration is a round of a line. -/
theorem Turn.fair {turn : Turn} (proper : turn.met.Proper turn.before.curl.pool)
    (reached : turn.before.curl.pool.Reachable)
    (done : turn.before.iterate setup turn.met = some turn.after) :
    FairRound Turn.waiting Turn.left Turn.dequeued turn ∧
      ∀ var, turn.dequeued = some var → ∃ updated,
        turn.before.curlHttpUpdate setup turn.met = some updated ∧
        var.TakesSlot turn.met.queueSupply.easyHandle turn.completed.pool updated.curl.pool := by
  obtain ⟨updated, scraped, received, accepted, registry, first, second, third, fourth, -, same⟩ :=
    Program.iterate_spec done
  have finished := (Program.finishAll_reachable proper.reported reached).sound
  obtain ⟨curl, rfl, scheduled⟩ := Program.curlHttpUpdate_spec first
  obtain ⟨split, taken, -⟩ := CurlState.scheduleQueue_dequeued finished scheduled
  obtain ⟨requests, curl', answers, downloaded, rfl⟩ := Program.scrape_spec second
  obtain ⟨last, files, generated⟩ := Program.generate_spec setup turn.met (Program.save _ _)
  rw [generated, Program.save_spec] at third
  obtain ⟨registry', answers', rfl, -⟩ := Program.receive_spec third
  obtain ⟨sessions, rfl⟩ := Program.accept_spec fourth
  refine ⟨⟨curl.curlQueue, split, ?_⟩, fun var gone => ⟨_, first, taken var gone⟩⟩
  rw [Turn.left, same]
  exact Program.downloadAll_suffix downloaded

/-! ## The queue in a run -/

theorem ProgramRun.turn_fair {turns : List Turn} {program : Program}
    (run : ProgramRun setup turns program) {turn : Turn} (member : turn ∈ turns) :
    turn.completed.pool.Sound ∧ FairRound Turn.waiting Turn.left Turn.dequeued turn ∧
      ∀ var, turn.dequeued = some var → ∃ updated,
        turn.before.curlHttpUpdate setup turn.met = some updated ∧
        var.TakesSlot turn.met.queueSupply.easyHandle turn.completed.pool updated.curl.pool := by
  induction run with
  | load => cases member
  | iterate met run proper done ih =>
      rcases List.mem_append.mp member with old | new
      · exact ih old
      · obtain rfl := List.mem_singleton.mp new
        have reached := run.reachable.2
        exact ⟨(Program.finishAll_reachable proper.reported reached).sound,
          Turn.fair proper reached done⟩

/-- The iterations from one on are rounds of a line. -/
theorem ProgramRun.lineRun {turns : List Turn} {program : Program}
    (run : ProgramRun setup turns program) {early late : List Turn} {turn : Turn}
    (split : turns = early ++ turn :: late) :
    LineRun Turn.waiting Turn.left Turn.dequeued turn.waiting (turn :: late)
      program.curl.curlQueue := by
  induction run generalizing late with
  | load => exact absurd split.symm (by simp)
  | iterate met run proper done ih =>
      rename_i before after
      have fair := (@Turn.fair setup ⟨before, met, after⟩ proper run.reachable.2 done).1
      rcases List.eq_nil_or_concat late with rfl | ⟨late, last, rfl⟩
      · obtain ⟨rfl, same⟩ := List.append_inj' split rfl
        obtain rfl := (List.cons.inj same).1
        exact ⟨rfl, fair, rfl⟩
      · rw [List.concat_eq_append, ← List.cons_append, ← List.append_assoc] at split
        obtain ⟨first, same⟩ := List.append_inj' split rfl
        obtain rfl := (List.cons.inj same).1
        rw [List.concat_eq_append, ← List.cons_append]
        exact (ih first).snoc fair

/--
Queued downloads are served in their order: from any iteration on, what waits is
at the front of what is started and what then still waits; the oldest are all
started when as many iterations have been ready; and what is started has got a
free slot for its own file.
-/
theorem downloads_in_order {turns : List Turn} {program : Program}
    (run : ProgramRun setup turns program) :
    (∀ early turn late, turns = early ++ turn :: late →
      turn.waiting.reverse <+:
          (turn :: late).filterMap Turn.dequeued ++ program.curl.curlQueue.reverse ∧
        ∀ newer older, turn.waiting = newer ++ older →
          older.length ≤ ((turn :: late).filter fun turn => turn.Ready).length →
          older.reverse <+: (turn :: late).filterMap Turn.dequeued) ∧
      ∀ turn ∈ turns, ∀ var, turn.dequeued = some var →
        turn.waiting.getLast? = some var ∧ turn.Ready ∧ ∃ updated,
          turn.before.curlHttpUpdate setup turn.met = some updated ∧
          var.TakesSlot turn.met.queueSupply.easyHandle turn.completed.pool
            updated.curl.pool := by
  refine ⟨?_, ?_⟩
  · rintro early turn late rfl
    have line := run.lineRun rfl
    refine ⟨line.in_order, fun newer older split enough => line.in_time ?_ split enough⟩
    intro other member ready waiting
    obtain ⟨sound, -⟩ := run.turn_fair (List.mem_append_right early member)
    exact CurlState.dequeued_ne_none sound ready waiting
  · intro turn member var gone
    obtain ⟨sound, -, taken⟩ := run.turn_fair member
    obtain ⟨oldest, ready⟩ := (CurlState.dequeued_eq_some_iff sound _ var).mp gone
    exact ⟨oldest, ready, taken var gone⟩

/-- The program with a list of downloads. -/
def downloadingSetup : Setup :=
  ⟨{ Settings.initial with bHttpEnable := true, httpdlFilename := ascii "list.txt" },
    fun _ => 0⟩

/-- The list file has one download, whose file opens only when it is in the queue. -/
def downloadingMet (time : Nat) : Surroundings :=
  { quietMet time with
    file := fun _ => some (ascii "http://a b.lst unreal")
    queueSupply := ⟨some 7, 0⟩ }

theorem downloadingMet_proper (time : Nat) {pool : Pool} (idle : pool.multiHandle = []) :
    (downloadingMet time).Proper pool :=
  { quietMet_proper time idle with }

def downloadingStart : Program :=
  (Program.load downloadingSetup (downloadingMet 900) 0 none).getD (Program.initial none)

def downloadingNext : Program :=
  (downloadingStart.iterate downloadingSetup (downloadingMet 1000)).getD downloadingStart

/-- The download that the start has queued is the first that an iteration starts. -/
theorem downloads_in_order_unreal :
    let turn : Turn := ⟨downloadingStart, downloadingMet 1000, downloadingNext⟩
    turn.waiting = [⟨ascii "http://a", ascii "b.lst", ascii "unreal"⟩] ∧
      turn.waiting.reverse <+: [turn].filterMap Turn.dequeued := by
  have there {step : Option Program} {other : Program} (some : step.isSome = true) :
      step = .some (step.getD other) := by
    obtain ⟨program, rfl⟩ := Option.isSome_iff_exists.mp some
    rfl
  have loaded : Program.load downloadingSetup (downloadingMet 900) 0 none =
      some downloadingStart := there (by decide +kernel)
  have next : downloadingStart.iterate downloadingSetup (downloadingMet 1000) =
      some downloadingNext := there (by decide +kernel)
  have run : ProgramRun downloadingSetup
      ([] ++ [⟨downloadingStart, downloadingMet 1000, downloadingNext⟩]) downloadingNext :=
    .iterate (downloadingMet 1000)
      (.load (downloadingMet 900) 0 none (downloadingMet_proper 900 rfl) loaded)
      (downloadingMet_proper 1000 (by decide +kernel)) next
  exact ⟨by decide +kernel,
    ((downloads_in_order run).1 [] _ [] rfl).2 [] _ rfl (by decide +kernel)⟩

end GSMaster.Loop
