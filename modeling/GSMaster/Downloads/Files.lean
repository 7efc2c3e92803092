import GSMaster.Downloads.Queue
import GSMaster.Downloads.Slots

/-!
# Which downloads write one file

The file names of the slots in use stay different as long as no download
starts with the name of one that is running. A pass over a list file frees no
slot, so two lines with one name are enough for a clash.
-/

namespace GSMaster.Downloads

open GSMaster.Text GSMaster.Library GSMaster.Lists

/-- The slots in use have different files, and a list that is read is that of one download. -/
structure FilesApart (pool : Pool) : Prop where
  differ : ∀ i, pool.inUse i = true → ∀ j, pool.inUse j = true →
    pool.filename i = pool.filename j → i = j
  parsed : ∀ transfer ∈ pool.multiHandle, ∀ responseCode list,
    (pool.finish transfer responseCode).2 = some list →
      ∀ other ∈ pool.multiHandle, pool.filename other.privateData = list.1 → other = transfer

/-! ## What an attempt does to the files -/

theorem filesApart_iff {pool : Pool} (sound : pool.Sound) :
    FilesApart pool ↔ LabelsDiffer pool.inUse pool.filename := by
  constructor
  · intro apart
    exact labelsDiffer_iff.mpr apart.differ
  · intro differ
    refine ⟨labelsDiffer_iff.mp differ, ?_⟩
    intro transfer running responseCode list parsed other held same
    have named : list.1 = pool.filename transfer.privateData := by
      simp only [Pool.finish, Option.ite_none_right_eq_some, Option.some.injEq] at parsed
      rw [← parsed.2]
      rfl
    rw [named] at same
    exact sound.transfer_inj running held (labelsDiffer_iff.mp differ _ (sound.running other held).1
      _ (sound.running transfer running).1 same)

/-- The slots in use stay so and keep their files. -/
def Keeps (pool pool' : Pool) : Prop :=
  ∀ i, pool.inUse i = true → pool'.inUse i = true ∧ pool'.filename i = pool.filename i

theorem Keeps.trans {pool pool' pool'' : Pool} (first : Keeps pool pool')
    (second : Keeps pool' pool'') : Keeps pool pool'' := by
  intro i taken
  obtain ⟨still, same⟩ := first i taken
  exact ⟨(second i still).1, (second i still).2.trans same⟩

theorem Keeps.apart {pool pool' : Pool} (keeps : Keeps pool pool')
    (differ : LabelsDiffer pool'.inUse pool'.filename) :
    LabelsDiffer pool.inUse pool.filename :=
  differ.mono fun i taken => ⟨(keeps i taken).1, (keeps i taken).2.symm⟩

/--
A start keeps the slots in use. After it their files are different exactly if
they were, and it did not start or started with a file that none of them has.
-/
theorem startDownload_apart {pool pool' : Pool} {result : Int} (sound : pool.Sound)
    {request : Request} {supply : Supply}
    (ran : pool.startDownload request supply = some (pool', result)) :
    Keeps pool pool' ∧ (LabelsDiffer pool.inUse pool.filename →
      (LabelsDiffer pool'.inUse pool'.filename ↔
        ((⟨pool, request, supply⟩ : Attempt).Starts →
          (⟨pool, request, supply⟩ : Attempt).Unshared))) := by
  rcases Pool.startDownload_spec sound request supply with
    ⟨after, filename, gamename, stream, i, done, room, opens, named, started⟩ |
      ⟨after, done, blocked, refused⟩
  · cases done.symm.trans ran
    refine ⟨?_, fun differ => ?_⟩
    · intro j taken
      rw [started.inUse, started.filename, Function.update_of_ne (started.elsewhere taken),
        Function.update_of_ne (started.elsewhere taken)]
      exact ⟨taken, rfl⟩
    · rw [started.inUse, started.filename, labelsDiffer_take started.free differ]
      constructor
      · intro unused _ filename' same
        cases named.symm.trans same
        exact unused
      · intro unshared
        exact unshared ⟨room, opens⟩ filename named
  · cases done.symm.trans ran
    refine ⟨fun i taken => ⟨by rw [refused.inUse]; exact taken,
      congrArg CurlHelper.filename (refused.helper i taken)⟩, fun differ => ?_⟩
    refine iff_of_true ?_ fun starts => absurd starts blocked
    refine differ.mono fun i taken => ?_
    rw [refused.inUse] at taken
    exact ⟨taken, congrArg CurlHelper.filename (refused.helper i taken)⟩

/-- The queue does not touch the slots. -/
theorem CurlState.addToQueue_pool (request : Request) (state : CurlState) :
    (state.addToQueue request).pool = state.pool := by
  unfold addToQueue
  split
  · split <;> rfl
  · rfl

/-- A round of the loop makes one attempt. -/
theorem CurlState.downloadOrQueue_attempt {request : Request} {supply : Supply}
    {state next : CurlState} (ran : state.downloadOrQueue request supply = some next) :
    ∃ result, state.pool.startDownload request supply = some (next.pool, result) := by
  obtain ⟨⟨pool, result⟩, started, same⟩ := Option.map_eq_some_iff.mp ran
  refine ⟨result, ?_⟩
  rw [started, ← same]
  split
  · rw [addToQueue_pool]
  · rfl

/-- A step of the queue makes no attempt and changes nothing, or makes one. -/
theorem CurlState.scheduleQueue_cases {supply : Supply} {state next : CurlState}
    (ran : state.scheduleQueue supply = some next) :
    next = state ∧ state.scheduled supply = [] ∨
      ∃ request result, state.scheduled supply = [⟨state.pool, request, supply⟩] ∧
        state.pool.startDownload request supply = some (next.pool, result) := by
  unfold scheduleQueue at ran
  unfold scheduled
  by_cases full : state.pool.activeHandles ≥ maxConcurrentCurlHandles
  · rw [if_pos (Or.inr full)] at ran
    exact Or.inl ⟨(Option.some.inj ran).symm, if_pos full⟩
  · rw [if_neg full]
    cases entry : state.curlQueue.getLast? with
    | none =>
        rw [if_pos (Or.inl (List.getLast?_eq_none_iff.mp entry))] at ran
        exact Or.inl ⟨(Option.some.inj ran).symm, rfl⟩
    | some var =>
        have waiting : state.curlQueue ≠ [] := by
          intro empty
          rw [empty] at entry
          cases entry
        rw [if_neg (not_or.mpr ⟨waiting, full⟩), entry] at ran
        obtain ⟨⟨pool, result⟩, started, same⟩ := Option.map_eq_some_iff.mp ran
        refine Or.inr ⟨var.request, result, rfl, ?_⟩
        rw [started, ← same]

/-! ## Whole runs -/

/-- The attempt does not start, or starts with a file that no slot in use has. -/
def Attempt.Harmless (attempt : Attempt) : Prop :=
  attempt.Starts → attempt.Unshared

theorem Pass.apart {requests : List Request} {state last : CurlState} {attempts : List Attempt}
    (pass : Pass requests state attempts last) (reached : state.pool.Reachable) :
    last.pool.Reachable ∧ Keeps state.pool last.pool ∧
      (LabelsDiffer state.pool.inUse state.pool.filename →
        (LabelsDiffer last.pool.inUse last.pool.filename ↔
          ∀ attempt ∈ attempts, attempt.Harmless)) := by
  induction pass with
  | done => exact ⟨reached, fun i taken => ⟨taken, rfl⟩, fun differ => iff_of_true differ (by simp)⟩
  | round supply fresh ran rest ih =>
      obtain ⟨result, started⟩ := CurlState.downloadOrQueue_attempt ran
      obtain ⟨keeps, apart⟩ := startDownload_apart reached.sound started
      obtain ⟨reached', keeps', apart'⟩ := ih (.startDownload _ supply reached fresh started)
      refine ⟨reached', keeps.trans keeps', fun differ => ?_⟩
      rw [List.forall_mem_cons]
      constructor
      · intro after
        -- no slot is freed in a pass, so the files were different after the attempt too
        have between := keeps'.apart after
        exact ⟨(apart differ).mp between, (apart' between).mp after⟩
      · rintro ⟨first, later⟩
        exact (apart' ((apart differ).mpr first)).mpr later

/-- A completion leaves the files apart. -/
theorem finished_apart {transfer : Transfer} {pool pool' : Pool}
    (finished : Pool.Finished transfer pool pool')
    (differ : LabelsDiffer pool.inUse pool.filename) :
    LabelsDiffer pool'.inUse pool'.filename := by
  refine differ.mono fun i still => ⟨?_, congrFun finished.filename i⟩
  rw [finished.inUse] at still
  by_cases same : i = transfer.privateData
  · rw [same, Function.update_self] at still
    cases still
  · rwa [Function.update_of_ne same] at still

/-- A step whose result is apart exactly if its attempts are harmless prolongs a run. -/
theorem forall_append_iff {visited : List CurlState} {attempts attempts' : List Attempt}
    {state next : CurlState} (here : state ∈ visited)
    (before : (∀ past ∈ visited, LabelsDiffer past.pool.inUse past.pool.filename) ↔
      ∀ attempt ∈ attempts, attempt.Harmless)
    (step : LabelsDiffer state.pool.inUse state.pool.filename →
      (LabelsDiffer next.pool.inUse next.pool.filename ↔
        ∀ attempt ∈ attempts', attempt.Harmless)) :
    (∀ past ∈ visited ++ [next], LabelsDiffer past.pool.inUse past.pool.filename) ↔
      ∀ attempt ∈ attempts ++ attempts', attempt.Harmless := by
  rw [List.forall_mem_append, List.forall_mem_append, List.forall_mem_singleton, ← before]
  exact and_congr_right fun all => step (all state here)

theorem Run.apart {visited : List CurlState} {attempts : List Attempt} {state : CurlState}
    (run : Run visited attempts state) :
    state ∈ visited ∧ (∀ past ∈ visited, past.pool.Reachable) ∧
      ((∀ past ∈ visited, LabelsDiffer past.pool.inUse past.pool.filename) ↔
        ∀ attempt ∈ attempts, attempt.Harmless) := by
  induction run with
  | start =>
      refine ⟨List.mem_singleton_self _, ?_, ?_⟩
      · rw [List.forall_mem_singleton]
        exact .initial
      · rw [List.forall_mem_singleton]
        refine iff_of_true (labelsDiffer_iff.mpr fun i taken => ?_) (by simp)
        cases taken
  | httpDlList file _ pass ih =>
      obtain ⟨here, reached, before⟩ := ih
      obtain ⟨reached', -, apart⟩ := pass.apart (reached _ here)
      refine ⟨List.mem_append_right _ (List.mem_singleton_self _), ?_,
        forall_append_iff here before apart⟩
      rw [List.forall_mem_append, List.forall_mem_singleton]
      exact ⟨reached, reached'⟩
  | scheduleQueue supply _ fresh ran ih =>
      obtain ⟨here, reached, before⟩ := ih
      refine ⟨List.mem_append_right _ (List.mem_singleton_self _), ?_, ?_⟩
      · rw [List.forall_mem_append, List.forall_mem_singleton]
        refine ⟨reached, ?_⟩
        rcases CurlState.scheduleQueue_cases ran with ⟨rfl, -⟩ | ⟨request, result, -, started⟩
        · exact reached _ here
        · exact .startDownload request supply (reached _ here) fresh started
      · refine forall_append_iff here before fun differ => ?_
        rcases CurlState.scheduleQueue_cases ran with
          ⟨rfl, nothing⟩ | ⟨request, result, attempt, started⟩
        · rw [nothing]
          exact iff_of_true differ (by simp)
        · rw [attempt, List.forall_mem_singleton]
          exact (startDownload_apart (reached _ here).sound started).2 differ
  | @finish visited attempts state transfer responseCode _ running ih =>
      obtain ⟨here, reached, before⟩ := ih
      have finished := Pool.finish_spec (reached _ here).sound running responseCode
      refine ⟨List.mem_append_right _ (List.mem_singleton_self _), ?_, ?_⟩
      · rw [List.forall_mem_append, List.forall_mem_singleton]
        exact ⟨reached, .finish transfer responseCode (reached _ here) running⟩
      · rw [← List.append_nil attempts]
        exact forall_append_iff here before fun differ =>
          iff_of_true (finished_apart finished differ) (by simp)

/--
In all states of a run the slots in use have different files if and only if
every download that starts has a file name that no slot in use has.
-/
theorem downloads_apart_iff (visited : List CurlState) (attempts : List Attempt)
    (state : CurlState) (run : Run visited attempts state) :
    (∀ past ∈ visited, FilesApart past.pool) ↔
      ∀ attempt ∈ attempts, attempt.Starts → attempt.Unshared := by
  obtain ⟨-, reached, apart⟩ := run.apart
  exact (forall₂_congr fun past member => filesApart_iff (reached past member).sound).trans apart

/-! ## A list with two mirrors -/

def unrealLine : List UInt8 :=
  ascii "http://10.0.0.1/unreal unreal.txt unreal\n"

/-- Another place to get the same list from. -/
def mirrorLine : List UInt8 :=
  ascii "http://10.0.0.2/unreal unreal.txt unreal\n"

def mirrorRequest : Request :=
  ⟨some (ascii "http://10.0.0.2/unreal"), some (ascii "unreal.txt"), some (ascii "unreal")⟩

def secondSlot : Slot :=
  ⟨1, by decide⟩

theorem unrealLine_requests : httpDlRequests unrealLine = [unrealRequest] := by
  decide +kernel

theorem mirrored_requests :
    httpDlRequests (unrealLine ++ mirrorLine) = [unrealRequest, mirrorRequest] := by
  decide +kernel

theorem downloads_apart_iff_unreal :
    ∃ visited attempts state, Run visited attempts state ∧
      state.pool.inUse firstSlot = true ∧ ∀ past ∈ visited, FilesApart past.pool := by
  have pass : Pass (httpDlRequests unrealLine) CurlState.initial
      [⟨Pool.initial, unrealRequest, ⟨some 1, 1⟩⟩] ⟨unrealPool, []⟩ := by
    rw [unrealLine_requests]
    exact .round ⟨some 1, 1⟩ (fun _ member => by cases member) rfl .done
  have run := Run.start.httpDlList unrealLine pass
  refine ⟨_, _, _, run, rfl, (downloads_apart_iff _ _ _ run).mpr ?_⟩
  intro attempt member _ filename _ i taken
  rw [List.nil_append, List.mem_singleton] at member
  rw [member] at taken
  cases taken

/-- Both lines of the list start, and write one file. -/
theorem downloads_share_file :
    ¬ ∀ (visited : List CurlState) (attempts : List Attempt) (state : CurlState),
      Run visited attempts state → ∀ past ∈ visited, FilesApart past.pool := by
  intro always
  have pass : Pass (httpDlRequests (unrealLine ++ mirrorLine)) CurlState.initial
      [⟨Pool.initial, unrealRequest, ⟨some 1, 1⟩⟩, ⟨unrealPool, mirrorRequest, ⟨some 2, 2⟩⟩]
      ⟨(unrealPool.fill (ascii "http://10.0.0.2/unreal") (ascii "unreal.txt") (ascii "unreal")
        ⟨some 2, 2⟩ secondSlot).1, []⟩ := by
    rw [mirrored_requests]
    refine .round ⟨some 1, 1⟩ (fun _ member => by cases member) rfl (.round ⟨some 2, 2⟩ ?_ rfl .done)
    intro transfer member
    rw [List.mem_singleton.mp member]
    decide
  have apart := always _ _ _ (Run.start.httpDlList _ pass) _
    (List.mem_append_right _ (List.mem_singleton_self _))
  exact absurd (apart.differ firstSlot rfl secondSlot rfl rfl) (by decide)

end GSMaster.Downloads
