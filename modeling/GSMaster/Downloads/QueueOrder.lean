import GSMaster.Downloads.QueueMemory

/-!
# The discipline of the queue

What is stored of a request is cut off at the size of the buffers, but the test
for a duplicate compares the whole strings of the request with what is stored.
A request with a string that is too long is never found again.
-/

namespace GSMaster.Downloads

open GSMaster.Text GSMaster.Lists

/-- The same stored url, filename and gamename in any letter case. -/
def QueueEntry.Same (var other : QueueEntry) : Prop :=
  stricmpEq var.url other.url = true ∧ stricmpEq var.filename other.filename = true ∧
    stricmpEq var.gamename other.gamename = true

theorem QueueEntry.Same.refl (var : QueueEntry) : var.Same var :=
  ⟨stricmpEq_refl _, stricmpEq_refl _, stricmpEq_refl _⟩

theorem QueueEntry.Same.symm {var other : QueueEntry} (same : var.Same other) :
    other.Same var := by
  obtain ⟨url, filename, gamename⟩ := same
  exact ⟨stricmpEq_iff.mpr (stricmpEq_iff.mp url).symm,
    stricmpEq_iff.mpr (stricmpEq_iff.mp filename).symm,
    stricmpEq_iff.mpr (stricmpEq_iff.mp gamename).symm⟩

/-- Some entry of the queue is the same. -/
def Queued (queue : List QueueEntry) (wanted : QueueEntry) : Prop :=
  ∃ var ∈ queue, var.Same wanted

/-- No two entries are the same. -/
def Unrepeated (queue : List QueueEntry) : Prop :=
  queue.Pairwise fun var other => ¬ var.Same other

/-- A call of a function of the queue, with what it finds: the memory, or the slots and files. -/
inductive QueueCall where
  | addToQueue (request : Request) (calloc : Bool)
  | scheduleQueue (pool : Pool) (sound : pool.Sound) (supply : Supply)

namespace QueueCall

/-- The queue after a call. -/
def after (queue : List QueueEntry) : QueueCall → List QueueEntry
  | addToQueue request calloc =>
      if calloc then (CurlState.addToQueue request ⟨Pool.initial, queue⟩).curlQueue else queue
  | scheduleQueue pool _ supply =>
      match CurlState.scheduleQueue supply ⟨pool, queue⟩ with
      | none => queue
      | some next => next.curlQueue

/-- `CURL_HTTP_StartDownload` accepts the oldest request. -/
def Accepts (queue : List QueueEntry) (pool : Pool) (supply : Supply) : Prop :=
  ∃ var, queue.getLast? = some var ∧ ∃ pool' result,
    pool.startDownload var.request supply = some (pool', result) ∧ result ≠ 0

/--
What a call may do to the queue: it keeps the queue and has the request in it
afterwards, or it removes the oldest request when its download starts.
-/
def Keeps (queue queue' : List QueueEntry) : QueueCall → Prop
  | addToQueue request _ =>
      queue <:+ queue' ∧ ∀ wanted, request.stored = some wanted → Queued queue' wanted
  | scheduleQueue pool _ supply =>
      (¬ Accepts queue pool supply → queue' = queue) ∧
        (Accepts queue pool supply → queue ≠ [] ∧ queue' = queue.dropLast)

end QueueCall

/-- No string of the request is too long for its buffer. -/
def Request.Short (request : Request) : Prop :=
  (∀ url ∈ request.url, url.length < maxUrllength) ∧
    (∀ filename ∈ request.filename, filename.length < maxPath) ∧
    ∀ gamename ∈ request.gamename, gamename.length < maxPath

/--
A request with memory for it is not too long if its stored strings are queued
already; one without memory is queued already.
-/
def QueueCall.Proper (queue : List QueueEntry) : QueueCall → Prop
  | addToQueue request calloc => ∀ wanted, request.stored = some wanted →
      if calloc then Queued queue wanted → request.Short else Queued queue wanted
  | scheduleQueue .. => True

/-- The entries are what fits into the buffers. -/
def Fits (queue : List QueueEntry) : Prop :=
  ∀ var ∈ queue, var.url.length < maxUrllength ∧ var.filename.length < maxPath ∧
    var.gamename.length < maxPath

/-! ## Adding a request -/

theorem stored_eq_some {request : Request} {wanted : QueueEntry}
    (stored : request.stored = some wanted) :
    ∃ url filename gamename, request = ⟨some url, some filename, some gamename⟩ ∧
      wanted = ⟨url.take (maxUrllength - 1), nameBuffer filename, nameBuffer gamename⟩ := by
  match request, stored with
  | ⟨some url, some filename, some gamename⟩, stored =>
      exact ⟨url, filename, gamename, rfl, (Option.some.inj stored).symm⟩

theorem stored_fits {request : Request} {wanted : QueueEntry}
    (stored : request.stored = some wanted) :
    wanted.url.length < maxUrllength ∧ wanted.filename.length < maxPath ∧
      wanted.gamename.length < maxPath := by
  obtain ⟨url, filename, gamename, -, rfl⟩ := stored_eq_some stored
  have room : 0 < maxUrllength ∧ 0 < maxPath := by decide
  simp only [nameBuffer, List.length_take]
  omega

/-- A short request is stored as it is. -/
theorem stored_short {url filename gamename : CString}
    (short : Request.Short ⟨some url, some filename, some gamename⟩) :
    url.take (maxUrllength - 1) = url ∧ nameBuffer filename = filename ∧
      nameBuffer gamename = gamename :=
  ⟨List.take_of_length_le (Nat.le_pred_of_lt (short.1 url rfl)),
    List.take_of_length_le (Nat.le_pred_of_lt (short.2.1 filename rfl)),
    List.take_of_length_le (Nat.le_pred_of_lt (short.2.2 gamename rfl))⟩

/-- The test for a duplicate finds the queued requests that are not too long. -/
theorem getQueue_isSome_iff {queue : List QueueEntry} (fits : Fits queue) {request : Request}
    {wanted : QueueEntry} (stored : request.stored = some wanted) (pool : Pool) :
    (CurlState.getQueue request ⟨pool, queue⟩).isSome = true ↔
      Queued queue wanted ∧ request.Short := by
  obtain ⟨url, filename, gamename, rfl, rfl⟩ := stored_eq_some stored
  rw [CurlState.getQueue, List.find?_isSome]
  constructor
  · rintro ⟨var, member, equal⟩
    rw [Bool.and_eq_true, Bool.and_eq_true] at equal
    obtain ⟨⟨sameUrl, sameFilename⟩, sameGamename⟩ := equal
    obtain ⟨shortUrl, shortFilename, shortGamename⟩ := fits var member
    rw [stricmpEq_length sameUrl] at shortUrl
    rw [stricmpEq_length sameFilename] at shortFilename
    rw [stricmpEq_length sameGamename] at shortGamename
    have short : Request.Short ⟨some url, some filename, some gamename⟩ :=
      ⟨fun _ same => Option.some.inj same ▸ shortUrl,
        fun _ same => Option.some.inj same ▸ shortFilename,
        fun _ same => Option.some.inj same ▸ shortGamename⟩
    obtain ⟨url', filename', gamename'⟩ := stored_short short
    refine ⟨⟨var, member, ?_⟩, short⟩
    rw [url', filename', gamename']
    exact ⟨sameUrl, sameFilename, sameGamename⟩
  · rintro ⟨⟨var, member, same⟩, short⟩
    obtain ⟨url', filename', gamename'⟩ := stored_short short
    rw [url', filename', gamename'] at same
    refine ⟨var, member, ?_⟩
    rw [Bool.and_eq_true, Bool.and_eq_true]
    exact ⟨⟨same.1, same.2.1⟩, same.2.2⟩

/-- A request is put in front, or the queue stays as it is. -/
theorem addToQueue_eq {queue : List QueueEntry} {request : Request} {wanted : QueueEntry}
    (stored : request.stored = some wanted) (pool : Pool) :
    (CurlState.addToQueue request ⟨pool, queue⟩).curlQueue =
      if (CurlState.getQueue request ⟨pool, queue⟩).isSome then queue else wanted :: queue := by
  obtain ⟨url, filename, gamename, rfl, rfl⟩ := stored_eq_some stored
  rw [CurlState.addToQueue]
  split_ifs <;> rfl

theorem addToQueue_incomplete {queue : List QueueEntry} {request : Request}
    (incomplete : request.stored = none) (pool : Pool) :
    (CurlState.addToQueue request ⟨pool, queue⟩).curlQueue = queue := by
  match request, incomplete with
  | ⟨none, _, _⟩, _ => rfl
  | ⟨some _, none, _⟩, _ => rfl
  | ⟨some _, some _, none⟩, _ => rfl

theorem unrepeated_cons {queue : List QueueEntry} (unrepeated : Unrepeated queue)
    (wanted : QueueEntry) : Unrepeated (wanted :: queue) ↔ ¬ Queued queue wanted := by
  have split : Unrepeated (wanted :: queue) ↔ (∀ var ∈ queue, ¬ wanted.Same var) ∧
      Unrepeated queue := List.pairwise_cons
  rw [split, and_iff_left unrepeated]
  constructor
  · rintro apart ⟨var, member, same⟩
    exact apart var member same.symm
  · intro missing var member same
    exact missing ⟨var, member, same.symm⟩

/-- With memory, a stored request is put in front unless it is queued and short. -/
theorem addToQueue_unrepeated_iff {queue : List QueueEntry} (fits : Fits queue)
    (unrepeated : Unrepeated queue) {request : Request} {wanted : QueueEntry}
    (stored : request.stored = some wanted) (pool : Pool) :
    (queue <:+ (CurlState.addToQueue request ⟨pool, queue⟩).curlQueue ∧
        Queued (CurlState.addToQueue request ⟨pool, queue⟩).curlQueue wanted) ∧
      Unrepeated (CurlState.addToQueue request ⟨pool, queue⟩).curlQueue ↔
    (Queued queue wanted → request.Short) := by
  rw [addToQueue_eq stored]
  have found := getQueue_isSome_iff fits stored pool
  by_cases queued : (CurlState.getQueue request ⟨pool, queue⟩).isSome = true
  · obtain ⟨there, short⟩ := found.mp queued
    rw [if_pos queued]
    exact iff_of_true ⟨⟨List.suffix_refl _, there⟩, unrepeated⟩ fun _ => short
  · rw [if_neg queued, unrepeated_cons unrepeated]
    have new : Queued (wanted :: queue) wanted :=
      ⟨wanted, List.mem_cons_self .., QueueEntry.Same.refl wanted⟩
    rw [and_iff_right ⟨List.suffix_cons _ _, new⟩]
    constructor
    · exact fun missing there => absurd there missing
    · exact fun proper there => queued (found.mpr ⟨there, proper there⟩)

/-- A request is kept without a repetition exactly when it is proper. -/
theorem addToQueue_keeps_iff {queue : List QueueEntry} (fits : Fits queue)
    (unrepeated : Unrepeated queue) (request : Request) (calloc : Bool) :
    (QueueCall.addToQueue request calloc).Keeps queue
        ((QueueCall.addToQueue request calloc).after queue) ∧
      Unrepeated ((QueueCall.addToQueue request calloc).after queue) ↔
    (QueueCall.addToQueue request calloc).Proper queue := by
  rw [QueueCall.Keeps, QueueCall.after, QueueCall.Proper]
  cases stored : request.stored with
  | none =>
      rw [addToQueue_incomplete stored, ite_self]
      apply iff_of_true
      · refine ⟨⟨List.suffix_refl _, ?_⟩, unrepeated⟩
        intro _ other
        cases other
      · intro _ other
        cases other
  | some wanted =>
      simp only [Option.some.injEq, forall_eq']
      cases calloc with
      | false =>
          simp only [Bool.false_eq_true, if_false]
          exact ⟨fun kept => kept.1.2, fun queued => ⟨⟨List.suffix_refl _, queued⟩, unrepeated⟩⟩
      | true =>
          simp only [if_true]
          exact addToQueue_unrepeated_iff fits unrepeated stored Pool.initial

/-! ## Scheduling a request -/

/-- Scheduling removes the oldest request if its download starts, and does nothing else. -/
theorem scheduleQueue_keeps (queue : List QueueEntry) {pool : Pool} (sound : pool.Sound)
    (supply : Supply) :
    (QueueCall.scheduleQueue pool sound supply).Keeps queue
      ((QueueCall.scheduleQueue pool sound supply).after queue) := by
  rw [QueueCall.Keeps, QueueCall.after]
  cases last : queue.getLast? with
  | none =>
      obtain rfl : queue = [] := List.getLast?_eq_none_iff.mp last
      have idle : ¬ QueueCall.Accepts [] pool supply := by
        rintro ⟨var, here, -⟩
        cases here
      exact ⟨fun _ => rfl, fun accepts => absurd accepts idle⟩
  | some var =>
      have oldest : (CurlState.mk pool queue).curlQueue.getLast? = some var := last
      rcases Pool.startDownload_spec sound var.request supply with
        ⟨pool', _, _, _, _, started, room, -⟩ | ⟨pool', refused, -⟩
      · have accepts : QueueCall.Accepts queue pool supply :=
          ⟨var, last, pool', 1, started, one_ne_zero⟩
        have waiting : queue ≠ [] := by
          rintro rfl
          cases last
        rw [CurlState.scheduleQueue_oldest oldest room, started]
        exact ⟨fun refuses => absurd accepts refuses, fun _ => ⟨waiting, rfl⟩⟩
      · have refuses : ¬ QueueCall.Accepts queue pool supply := by
          rintro ⟨other, here, pool'', result, started, nonzero⟩
          obtain rfl := Option.some.inj (last.symm.trans here)
          rw [refused] at started
          exact nonzero (Prod.mk.inj (Option.some.inj started)).2.symm
        refine ⟨fun _ => ?_, fun accepts => absurd accepts refuses⟩
        by_cases full : pool.activeHandles ≥ maxConcurrentCurlHandles
        · rw [CurlState.scheduleQueue, if_pos (Or.inr full)]
        · rw [CurlState.scheduleQueue_oldest oldest (not_le.mp full), refused]
          rfl

/-! ## Runs -/

/-- What is left of a queue is as unrepeated and fits as well. -/
theorem scheduleQueue_sublist (queue : List QueueEntry) {pool : Pool} (sound : pool.Sound)
    (supply : Supply) :
    ((QueueCall.scheduleQueue pool sound supply).after queue).Sublist queue := by
  obtain ⟨kept, removed⟩ := scheduleQueue_keeps queue sound supply
  by_cases accepts : QueueCall.Accepts queue pool supply
  · rw [(removed accepts).2]
    exact List.dropLast_sublist queue
  · rw [kept accepts]

theorem QueueCall.after_fits {queue : List QueueEntry} (fits : Fits queue) (call : QueueCall) :
    Fits (call.after queue) := by
  cases call with
  | scheduleQueue pool sound supply =>
      exact fun var member => fits var ((scheduleQueue_sublist queue sound supply).subset member)
  | addToQueue request calloc =>
      rw [QueueCall.after]
      split_ifs
      · cases stored : request.stored with
        | none =>
            rw [addToQueue_incomplete stored]
            exact fits
        | some wanted =>
            rw [addToQueue_eq stored]
            split_ifs
            · exact fits
            · exact List.forall_mem_cons.mpr ⟨stored_fits stored, fits⟩
      · exact fits

/-- The step lemma: a call is all that is expected of it exactly when it is proper. -/
theorem QueueCall.keeps_iff {queue : List QueueEntry} (fits : Fits queue)
    (unrepeated : Unrepeated queue) (call : QueueCall) :
    call.Keeps queue (call.after queue) ∧ Unrepeated (call.after queue) ↔ call.Proper queue := by
  cases call with
  | addToQueue request calloc => exact addToQueue_keeps_iff fits unrepeated request calloc
  | scheduleQueue pool sound supply =>
      refine iff_of_true ⟨scheduleQueue_keeps queue sound supply, ?_⟩ trivial
      exact unrepeated.sublist (scheduleQueue_sublist queue sound supply)

/-- A property of every step of a run of calls, with the queue before the step. -/
def EveryStep (holds : List QueueEntry → QueueCall → Prop) :
    List QueueEntry → List QueueCall → Prop
  | _, [] => True
  | queue, call :: calls => holds queue call ∧ EveryStep holds (call.after queue) calls

/-- What is expected of a step: nothing is lost or repeated, and the order is kept. -/
def QueueCall.Disciplined (queue : List QueueEntry) (call : QueueCall) : Prop :=
  call.Keeps queue (call.after queue) ∧ Unrepeated (call.after queue)

theorem disciplined_iff {queue : List QueueEntry} (fits : Fits queue)
    (unrepeated : Unrepeated queue) (calls : List QueueCall) :
    EveryStep (fun queue call => call.Disciplined queue) queue calls ↔
      EveryStep (fun queue call => call.Proper queue) queue calls := by
  induction calls generalizing queue with
  | nil => exact Iff.rfl
  | cons call calls ih =>
      rw [EveryStep, EveryStep, QueueCall.Disciplined, QueueCall.keeps_iff fits unrepeated]
      refine and_congr_right fun proper => ?_
      have kept := (QueueCall.keeps_iff fits unrepeated call).mpr proper
      exact ih (call.after_fits fits) kept.2

/-- The queues after the calls of a run. -/
def queuesAfter : List QueueEntry → List QueueCall → List (List QueueEntry)
  | _, [] => []
  | queue, call :: calls => call.after queue :: queuesAfter (call.after queue) calls

/-- A call in memory. -/
def QueueCall.run (m : QueueMemory) : QueueCall → Option QueueMemory
  | addToQueue request calloc => m.addToQueue request calloc
  | scheduleQueue pool _ supply => (m.scheduleQueue pool supply).map Prod.snd

/-- The memory after each call of a run, if no call goes astray. -/
def memoriesAfter : QueueMemory → List QueueCall → Option (List QueueMemory)
  | _, [] => some []
  | m, call :: calls =>
      (call.run m).bind fun m' => (memoriesAfter m' calls).map fun later => m' :: later

theorem QueueCall.run_shows {m : QueueMemory} {queue : List QueueEntry} (shows : m.Shows queue)
    (call : QueueCall) : ∃ m', call.run m = some m' ∧ m'.Shows (call.after queue) := by
  cases call with
  | addToQueue request calloc =>
      exact QueueMemory.addToQueue_shows shows Pool.initial request calloc
  | scheduleQueue pool sound supply =>
      obtain ⟨next, m', ran, memory, shows'⟩ :=
        QueueMemory.scheduleQueue_shows shows sound supply
      refine ⟨m', ?_, ?_⟩
      · rw [QueueCall.run, memory, Option.map_some]
      · rw [QueueCall.after, ran]
        exact shows'

/-- The list in memory follows every run of calls. -/
theorem memoriesAfter_shows {m : QueueMemory} {queue : List QueueEntry} (shows : m.Shows queue)
    (calls : List QueueCall) :
    ∃ memories, memoriesAfter m calls = some memories ∧
      List.Forall₂ QueueMemory.Shows memories (queuesAfter queue calls) := by
  induction calls generalizing m queue with
  | nil => exact ⟨[], rfl, .nil⟩
  | cons call calls ih =>
      obtain ⟨m', ran, shows'⟩ := call.run_shows shows
      obtain ⟨memories, later, follows⟩ := ih shows'
      refine ⟨m' :: memories, ?_, .cons shows' follows⟩
      rw [memoriesAfter, ran, Option.bind_some, later, Option.map_some]

/--
Every run of calls from the empty queue goes through in memory and shows the
queues of the run. No step repeats or loses a request or disturbs the order
exactly when every request that is added is proper.
-/
theorem queueRun_disciplined_iff (calls : List QueueCall) :
    (∃ memories, memoriesAfter QueueMemory.initial calls = some memories ∧
      List.Forall₂ QueueMemory.Shows memories (queuesAfter [] calls)) ∧
    (EveryStep (fun queue call => call.Disciplined queue) [] calls ↔
      EveryStep (fun queue call => call.Proper queue) [] calls) :=
  ⟨memoriesAfter_shows QueueMemory.initial_shows calls,
    disciplined_iff (List.forall_mem_nil _) List.Pairwise.nil calls⟩

/-- A request whose address is as long as the buffer. -/
def longRequest : Request :=
  ⟨some (List.replicate maxUrllength 97), some (ascii "list.txt"), some (ascii "quake2")⟩

/-- Added twice, it is in the queue twice. -/
theorem queueRun_repeats :
    ¬ ∀ calls : List QueueCall,
      EveryStep (fun queue call => call.Disciplined queue) [] calls := by
  intro always
  have disciplined := always [.addToQueue longRequest true, .addToQueue longRequest true]
  rw [disciplined_iff (List.forall_mem_nil _) List.Pairwise.nil] at disciplined
  obtain ⟨-, proper, -⟩ := disciplined
  have stored : longRequest.stored = some
      ⟨(List.replicate maxUrllength 97).take (maxUrllength - 1), nameBuffer (ascii "list.txt"),
        nameBuffer (ascii "quake2")⟩ := rfl
  have queued : (QueueCall.addToQueue longRequest true).after [] = [_] :=
    addToQueue_eq stored Pool.initial
  rw [queued] at proper
  have short := proper _ stored ⟨_, List.mem_singleton_self _, QueueEntry.Same.refl _⟩
  have tooLong := short.1 _ rfl
  rw [List.length_replicate] at tooLong
  exact Nat.lt_irrefl _ tooLong

end GSMaster.Downloads
