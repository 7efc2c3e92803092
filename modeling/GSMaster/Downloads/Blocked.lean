import GSMaster.Downloads.Queue
import GSMaster.Downloads.Slots

/-!
# A request that cannot start

`CURL_HTTP_ScheduleQueue` tries the oldest request only and leaves it where it
is when its file does not open. The next call tries the same request, so one
that cannot start keeps all newer ones from starting.
-/

namespace GSMaster.Downloads

open GSMaster.Text GSMaster.Lists

/-- The names that cannot be opened for writing, and what each call gets for any other. -/
structure Files where
  cannotOpen : CString → Bool
  stream : Nat → Nat
  easyHandle : Nat → Nat

/-- What the call with a given number gets when it tries a request. -/
def Files.supply (files : Files) (call : Nat) (var : QueueEntry) : Supply :=
  ⟨if files.cannotOpen (nameBuffer var.filename) then none else some (files.stream call),
    files.easyHandle call⟩

/-- The file of the request can be opened, under the name that the slot holds. -/
def QueueEntry.Opens (files : Files) (var : QueueEntry) : Prop :=
  files.cannotOpen (nameBuffer var.filename) = false

instance (files : Files) (var : QueueEntry) : Decidable (var.Opens files) :=
  inferInstanceAs (Decidable (_ = _))

namespace CurlState

/-- A call of `CURL_HTTP_ScheduleQueue` while these files cannot be opened. -/
def scheduleCall (files : Files) (call : Nat) (state : CurlState) : Option CurlState :=
  match state.curlQueue.getLast? with
  | none => some state
  | some var => state.scheduleQueue (files.supply call var)

/-- So many calls, and nothing in between. -/
def scheduleCalls (files : Files) : Nat → CurlState → Option CurlState
  | 0, state => some state
  | calls + 1, state => (scheduleCalls files calls state).bind (scheduleCall files calls)

/-- Some call starts a download. -/
def SomeCallStarts (files : Files) (state : CurlState) : Prop :=
  ∃ calls before after, scheduleCalls files calls state = some before ∧
    scheduleCall files calls before = some after ∧
    after.pool.activeHandles = before.pool.activeHandles + 1

/-- The downloads agree, as they do in every reachable pool, and there is room for one more. -/
structure HasRoom (state : CurlState) : Prop where
  sound : state.pool.Sound
  room : state.pool.activeHandles < maxConcurrentCurlHandles

/-- A call that tries a request. -/
theorem scheduleCall_eq {files : Files} {state : CurlState} (ready : state.HasRoom)
    {var : QueueEntry} (oldest : state.curlQueue.getLast? = some var) (call : Nat) :
    scheduleCall files call state =
      (state.pool.startDownload var.request (files.supply call var)).map fun started =>
        ⟨started.1, if started.2 ≠ 0 then state.curlQueue.dropLast else state.curlQueue⟩ := by
  rw [scheduleCall, oldest]
  exact scheduleQueue_oldest oldest ready.room _

/-- A request whose file opens starts and leaves the queue. -/
theorem scheduleCall_opens {files : Files} {state : CurlState} (ready : state.HasRoom)
    {var : QueueEntry} (oldest : state.curlQueue.getLast? = some var)
    (opens : var.Opens files) (call : Nat) :
    ∃ after, scheduleCall files call state = some after ∧
      after.pool.activeHandles = state.pool.activeHandles + 1 ∧
      after.curlQueue = state.curlQueue.dropLast := by
  rw [scheduleCall_eq ready oldest]
  rcases Pool.startDownload_spec ready.sound var.request (files.supply call var) with
    ⟨pool', _, _, _, _, started, -, -, -, same⟩ | ⟨_, -, blocked, -⟩
  · rw [started]
    exact ⟨_, rfl, same.activeHandles, rfl⟩
  · refine absurd ⟨ready.room, ⟨⟨?_, ?_, ?_⟩, ?_⟩⟩ blocked
    · exact Option.some_ne_none _
    · exact Option.some_ne_none _
    · exact Option.some_ne_none _
    · rw [Files.supply, opens]
      exact Option.some_ne_none _

/-- A request whose file does not open stays where it is. -/
theorem scheduleCall_blocked {files : Files} {state : CurlState} (ready : state.HasRoom)
    {var : QueueEntry} (oldest : state.curlQueue.getLast? = some var)
    (blocked : ¬ var.Opens files) (call : Nat) :
    ∃ after, scheduleCall files call state = some after ∧ after.HasRoom ∧
      after.pool.activeHandles = state.pool.activeHandles ∧
      after.curlQueue = state.curlQueue := by
  rw [scheduleCall_eq ready oldest]
  have closed : (files.supply call var).stream = none :=
    if_pos (Bool.not_eq_false _ |>.mp blocked)
  rcases Pool.startDownload_spec ready.sound var.request (files.supply call var) with
    ⟨_, _, _, _, _, -, -, opens, -⟩ | ⟨pool', refusal, -, refused⟩
  · exact absurd closed opens.2
  · rw [refusal]
    refine ⟨_, rfl, ⟨refused.sound ready.sound, ?_⟩, refused.activeHandles, rfl⟩
    exact refused.activeHandles.trans_lt ready.room

/-- A blocked request is tried by every call, and nothing changes. -/
theorem scheduleCalls_blocked {files : Files} {state : CurlState} (ready : state.HasRoom)
    {var : QueueEntry} (oldest : state.curlQueue.getLast? = some var)
    (blocked : ¬ var.Opens files) (calls : Nat) :
    ∃ after, scheduleCalls files calls state = some after ∧ after.HasRoom ∧
      after.curlQueue = state.curlQueue := by
  induction calls with
  | zero => exact ⟨state, rfl, ready, rfl⟩
  | succ calls ih =>
      obtain ⟨before, ran, ready', same⟩ := ih
      rw [← same] at oldest
      obtain ⟨after, called, ready'', -, kept⟩ :=
        scheduleCall_blocked ready' oldest blocked calls
      refine ⟨after, ?_, ready'', kept.trans same⟩
      rw [scheduleCalls, ran]
      exact called

/-- So it is never the newer ones that start. -/
theorem SomeCallStarts.opens {files : Files} {state : CurlState}
    (starts : SomeCallStarts files state) (ready : state.HasRoom) {oldest : QueueEntry}
    (last : state.curlQueue.getLast? = some oldest) : oldest.Opens files := by
  obtain ⟨calls, before, after, ran, called, more⟩ := starts
  by_contra blocked
  obtain ⟨before', ran', ready', same⟩ := scheduleCalls_blocked ready last blocked calls
  obtain rfl := Option.some.inj (ran.symm.trans ran')
  rw [← same] at last
  obtain ⟨after', called', -, unchanged, -⟩ := scheduleCall_blocked ready' last blocked calls
  obtain rfl := Option.some.inj (called.symm.trans called')
  omega

/--
While there is room and some queued request's file can be opened, some number
of calls starts a request exactly when the file of the oldest can be opened.
-/
theorem scheduleQueue_starts_iff (files : Files) (state : CurlState) (ready : state.HasRoom)
    (startable : ∃ var ∈ state.curlQueue, var.Opens files) :
    SomeCallStarts files state ↔
      ∃ oldest, state.curlQueue.getLast? = some oldest ∧ oldest.Opens files := by
  constructor
  · intro starts
    obtain ⟨var, member, -⟩ := startable
    have last := List.getLast?_eq_some_getLast (List.ne_nil_of_mem member)
    exact ⟨_, last, starts.opens ready last⟩
  · rintro ⟨oldest, last, opens⟩
    obtain ⟨after, called, more, -⟩ := scheduleCall_opens ready last opens 0
    exact ⟨0, state, after, rfl, called, more⟩

/-- Two requests; the older one comes last. -/
def twoRequests : CurlState :=
  ⟨Pool.initial, [⟨ascii "http://a/b", ascii "list.txt", ascii "quake2"⟩,
    ⟨ascii "http://a/c", ascii "none/list.txt", ascii "quake2"⟩]⟩

/-- One file that cannot be opened. -/
def oneMissing (name : CString) : Files :=
  ⟨fun other => other == name, fun call => call, fun call => call⟩

theorem twoRequests_hasRoom : twoRequests.HasRoom :=
  ⟨Pool.initial_sound, by decide⟩

theorem scheduleQueue_starts_iff_older :
    SomeCallStarts (oneMissing (ascii "list.txt")) twoRequests := by
  refine (scheduleQueue_starts_iff _ twoRequests twoRequests_hasRoom ?_).mpr ?_
  · exact ⟨_, List.mem_cons_of_mem _ (List.mem_singleton_self _), by decide⟩
  · exact ⟨⟨ascii "http://a/c", ascii "none/list.txt", ascii "quake2"⟩, rfl, by decide⟩

/-- The older request keeps the newer one waiting for ever. -/
theorem scheduleQueue_blocks :
    ¬ ∀ (files : Files) (state : CurlState), state.HasRoom →
      (∃ var ∈ state.curlQueue, var.Opens files) → SomeCallStarts files state := by
  intro always
  have starts := always (oneMissing (ascii "none/list.txt")) twoRequests twoRequests_hasRoom
    ⟨_, List.mem_cons_self .., by decide⟩
  have opens : QueueEntry.Opens (oneMissing (ascii "none/list.txt"))
      ⟨ascii "http://a/c", ascii "none/list.txt", ascii "quake2"⟩ :=
    starts.opens twoRequests_hasRoom rfl
  exact absurd opens (by decide)

end CurlState

end GSMaster.Downloads
