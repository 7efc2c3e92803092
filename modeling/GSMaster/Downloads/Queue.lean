import GSMaster.Downloads.Pool

/-!
# Lists of downloads

`HTTP_DL_List` starts the downloads of a list file one after the other and
queues those that do not start; the queue refuses what it already has. Nothing
compares a download with those that are running.
-/

namespace GSMaster.Downloads

open GSMaster.Text GSMaster.Library GSMaster.Lists

/-- `curl_queue_t` without its link. -/
structure QueueEntry where
  url : CString
  filename : CString
  gamename : CString
  deriving DecidableEq, Repr

/-- The slots and the queue, whose newest entry is its head. -/
structure CurlState where
  pool : Pool
  curlQueue : List QueueEntry

def QueueEntry.request (var : QueueEntry) : Request :=
  ⟨some var.url, some var.filename, some var.gamename⟩

namespace CurlState

def initial : CurlState :=
  ⟨Pool.initial, []⟩

/-! ## The queue -/

/-- `CURL_HTTP_GetQueue`. -/
def getQueue (request : Request) (state : CurlState) : Option QueueEntry :=
  match request with
  | ⟨some url, some filename, some gamename⟩ =>
      state.curlQueue.find? fun next =>
        stricmpEq next.url url && stricmpEq next.filename filename &&
          stricmpEq next.gamename gamename
  | _ => none

/-- `CURL_HTTP_AddToQueue`. -/
def addToQueue (request : Request) (state : CurlState) : CurlState :=
  match request with
  | ⟨some url, some filename, some gamename⟩ =>
      if (state.getQueue request).isSome then state
      else { state with
        curlQueue := ⟨url.take (maxUrllength - 1), nameBuffer filename, nameBuffer gamename⟩ ::
          state.curlQueue }
  | _ => state

/-- `CURL_HTTP_ScheduleQueue`: the entry at the end leaves the queue if its download starts. -/
def scheduleQueue (supply : Supply) (state : CurlState) : Option CurlState :=
  if state.curlQueue = [] ∨ state.pool.activeHandles ≥ maxConcurrentCurlHandles then
    some state
  else
    match state.curlQueue.getLast? with
    | none => some state
    | some var =>
        (state.pool.startDownload var.request supply).map fun started =>
          ⟨started.1,
            if started.2 ≠ 0 then state.curlQueue.dropLast else state.curlQueue⟩

/-- While there is room the oldest request is tried. -/
theorem scheduleQueue_oldest {state : CurlState} {var : QueueEntry}
    (oldest : state.curlQueue.getLast? = some var)
    (room : state.pool.activeHandles < maxConcurrentCurlHandles) (supply : Supply) :
    state.scheduleQueue supply =
      (state.pool.startDownload var.request supply).map fun started =>
        ⟨started.1, if started.2 ≠ 0 then state.curlQueue.dropLast else state.curlQueue⟩ := by
  have waiting : state.curlQueue ≠ [] := by
    intro empty
    rw [empty] at oldest
    cases oldest
  rw [scheduleQueue, if_neg (not_or.mpr ⟨waiting, not_le.mpr room⟩), oldest]

/-! ## The list file -/

/-- A round of the loop of `HTTP_DL_List` that has both names. -/
def downloadOrQueue (request : Request) (supply : Supply) (state : CurlState) :
    Option CurlState :=
  (state.pool.startDownload request supply).map fun started =>
    if started.2 = 0 then addToQueue request { state with pool := started.1 }
    else { state with pool := started.1 }

end CurlState

def listSeparators : List UInt8 := ascii " \t\n"

/-- The loop of `HTTP_DL_List` with `url` in `listToken`: the requests it makes. -/
def listRequests : Nat → Option CString → Option CString → List Request
  | 0, _, _ => []
  | _, none, _ => []
  | fuel + 1, some url, listPtr =>
      let filename := strtok listSeparators listPtr
      let gamename := strtok listSeparators filename.2
      let listToken := strtok listSeparators gamename.2
      let rest := listRequests fuel listToken.1 listToken.2
      if filename.1.isSome && gamename.1.isSome then ⟨some url, filename.1, gamename.1⟩ :: rest
      else rest

/-- The requests of `HTTP_DL_List` for the bytes of the list file. -/
def httpDlRequests (file : List UInt8) : List Request :=
  if file.length < 3 then []
  else
    let listToken := strtok listSeparators (some (cstr (file ++ ascii "\n")))
    listRequests (file.length + 2) listToken.1 listToken.2

/-! ## Runs -/

/-- A call of `CURL_HTTP_StartDownload`, with the pool before it. -/
structure Attempt where
  pool : Pool
  request : Request
  supply : Supply

/-- The attempt starts a download. -/
def Attempt.Starts (attempt : Attempt) : Prop :=
  attempt.pool.activeHandles < maxConcurrentCurlHandles ∧ attempt.request.Opens attempt.supply

/-- No slot in use has the file name of the attempt, as it is stored. -/
def Attempt.Unshared (attempt : Attempt) : Prop :=
  ∀ filename, attempt.request.filename = some filename →
    ∀ i, attempt.pool.inUse i = true → attempt.pool.filename i ≠ nameBuffer filename

/-- The attempt of `CURL_HTTP_ScheduleQueue`, if it makes one. -/
def CurlState.scheduled (supply : Supply) (state : CurlState) : List Attempt :=
  if state.pool.activeHandles ≥ maxConcurrentCurlHandles then []
  else
    (state.curlQueue.getLast?.map fun var =>
      (⟨state.pool, var.request, supply⟩ : Attempt)).toList

/-- The rounds of `HTTP_DL_List` for some requests, with their attempts. -/
inductive Pass : List Request → CurlState → List Attempt → CurlState → Prop where
  | done {state : CurlState} : Pass [] state [] state
  | round {request : Request} {requests : List Request} {attempts : List Attempt}
      {state next last : CurlState} (supply : Supply) (fresh : state.pool.Fresh supply)
      (ran : state.downloadOrQueue request supply = some next)
      (rest : Pass requests next attempts last) :
      Pass (request :: requests) state (⟨state.pool, request, supply⟩ :: attempts) last

/--
The runs of the downloads, with the states that were visited and the attempts
that were made: passes over any list file, steps of the queue and completions.
-/
inductive Run : List CurlState → List Attempt → CurlState → Prop where
  | start : Run [CurlState.initial] [] CurlState.initial
  | httpDlList {visited : List CurlState} {attempts attempts' : List Attempt}
      {state next : CurlState} (file : List UInt8) (run : Run visited attempts state)
      (pass : Pass (httpDlRequests file) state attempts' next) :
      Run (visited ++ [next]) (attempts ++ attempts') next
  | scheduleQueue {visited : List CurlState} {attempts : List Attempt}
      {state next : CurlState} (supply : Supply) (run : Run visited attempts state)
      (fresh : state.pool.Fresh supply)
      (ran : state.scheduleQueue supply = some next) :
      Run (visited ++ [next]) (attempts ++ state.scheduled supply) next
  | finish {visited : List CurlState} {attempts : List Attempt} {state : CurlState}
      (transfer : Transfer) (responseCode : Int) (run : Run visited attempts state)
      (running : transfer ∈ state.pool.multiHandle) :
      Run (visited ++ [{ state with pool := (state.pool.finish transfer responseCode).1 }])
        attempts { state with pool := (state.pool.finish transfer responseCode).1 }

/-! ## The loop over the tokens -/

/-- More than the text that is left has bytes, or zero where nothing is left. -/
def leftLength : Option CString → Nat
  | some text => text.length + 1
  | none => 0

/-- A token takes at least one byte from what is left. -/
theorem strtok_leftLength (delimiters : List UInt8) (text : CString) :
    leftLength (strtok delimiters (some text)).2 < leftLength (some text) := by
  rw [strtok]
  split
  · exact Nat.succ_pos _
  · rename_i head tail skipped
    have skipping : (text.dropWhile fun c => delimiters.contains c).length ≤ text.length :=
      (List.dropWhile_suffix _).length_le
    have taking : ((head :: tail).dropWhile fun c => !delimiters.contains c).length ≤
        (head :: tail).length :=
      (List.dropWhile_suffix _).length_le
    split
    · exact Nat.succ_pos _
    · rename_i taken
      rw [taken, List.length_cons, ← skipped] at taking
      exact Nat.lt_succ_of_le (Nat.le_trans taking skipping)

theorem strtok_leftLength_le (delimiters : List UInt8) (listPtr : Option CString) :
    leftLength (strtok delimiters listPtr).2 ≤ leftLength listPtr := by
  cases listPtr with
  | none => exact Nat.le_refl _
  | some text => exact Nat.le_of_lt (strtok_leftLength delimiters text)

theorem listRequests_none (fuel : Nat) (listPtr : Option CString) :
    listRequests fuel none listPtr = [] := by
  cases fuel <;> rfl

/-- The fuel of the loop is enough: more of it finds no more requests. -/
theorem listRequests_enough (more : Nat) {fuel : Nat} {listToken listPtr : Option CString}
    (enough : leftLength listPtr < fuel) :
    listRequests (fuel + more) listToken listPtr = listRequests fuel listToken listPtr := by
  induction fuel generalizing listToken listPtr with
  | zero => exact absurd enough (Nat.not_lt_zero _)
  | succ fuel ih =>
      cases listToken with
      | none => rw [listRequests_none, listRequests_none]
      | some url =>
          rw [Nat.add_right_comm, listRequests, listRequests]
          cases listPtr with
          | none => simp only [strtok, listRequests_none]
          | some text =>
              have first := strtok_leftLength listSeparators text
              have second := strtok_leftLength_le listSeparators
                (strtok listSeparators (some text)).2
              have third := strtok_leftLength_le listSeparators
                (strtok listSeparators (strtok listSeparators (some text)).2).2
              simp only [ih (by omega : leftLength (strtok listSeparators (strtok listSeparators
                (strtok listSeparators (some text)).2).2).2 < fuel)]

/-- `HTTP_DL_List` reads the whole file. -/
theorem httpDlRequests_enough (more : Nat) {file : List UInt8} (long : 3 ≤ file.length) :
    let listToken := strtok listSeparators (some (cstr (file ++ ascii "\n")))
    httpDlRequests file = listRequests (file.length + 2 + more) listToken.1 listToken.2 := by
  intro listToken
  have buffer : (cstr (file ++ ascii "\n")).length ≤ file.length + 1 :=
    (cstr_length_le _).trans_eq List.length_append
  have taken : leftLength listToken.2 < (cstr (file ++ ascii "\n")).length + 1 :=
    strtok_leftLength listSeparators _
  have enough : leftLength listToken.2 < file.length + 2 := by omega
  rw [httpDlRequests, if_neg (Nat.not_lt.mpr long)]
  exact (listRequests_enough more enough).symm

end GSMaster.Downloads
