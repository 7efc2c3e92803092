import GSMaster.Library.SlotPool
import GSMaster.Lists.FileList

/-!
# The download slots

`curl_dl.c` runs at most five downloads at a time. Each has a slot of
`curl_helper` and of `easy_handles`, and libcurl has the easy handle with a
pointer to the slot. A function has no result where it would index the arrays
outside their five elements.
-/

namespace GSMaster.Downloads

open GSMaster.Text GSMaster.Library GSMaster.Lists

def maxConcurrentCurlHandles : Nat := 5

/-- `MAX_URLLENGTH`. -/
def maxUrllength : Nat := 4000

def httpOk : Int := 200
def httpRest : Int := 206

abbrev Slot := Fin maxConcurrentCurlHandles

/-- `curl_helper_t`; a stream is a number, and absent where the pointer is NULL. -/
structure CurlHelper where
  downloadHandle : Option Nat
  filename : CString
  gamename : CString
  inUse : Bool
  deriving DecidableEq, Repr

/-- A slot that `memset` has cleared, as all of them are at the start. -/
def CurlHelper.zero : CurlHelper :=
  ⟨none, [], [], false⟩

/-- What libcurl knows of an easy handle in the multi handle. -/
structure Transfer where
  easyHandle : Nat
  url : CString
  writeData : Nat
  privateData : Slot
  deriving DecidableEq, Repr

structure Pool where
  curlHelper : Slot → CurlHelper
  easyHandles : Slot → Option Nat
  activeHandles : Int
  multiHandle : List Transfer

/-- The arguments of `CURL_HTTP_StartDownload`. -/
structure Request where
  url : Option CString
  filename : Option CString
  gamename : Option CString
  deriving DecidableEq, Repr

/-- What `fopen` and `curl_easy_init` return to it. -/
structure Supply where
  stream : Option Nat
  easyHandle : Nat
  deriving DecidableEq, Repr

/-- No argument is NULL. -/
def Request.Complete (request : Request) : Prop :=
  request.url ≠ none ∧ request.filename ≠ none ∧ request.gamename ≠ none

/-- The call gets to `fopen`, if there is a slot, and the file opens. -/
def Request.Opens (request : Request) (supply : Supply) : Prop :=
  request.Complete ∧ supply.stream ≠ none

/-- The texts that `strncpy` leaves in the cleared buffers of a slot. -/
def nameBuffer (name : CString) : CString :=
  name.take (maxPath - 1)

namespace Pool

def initial : Pool where
  curlHelper := fun _ => CurlHelper.zero
  easyHandles := fun _ => none
  activeHandles := 0
  multiHandle := []

def inUse (pool : Pool) (i : Slot) : Bool :=
  (pool.curlHelper i).inUse

def filename (pool : Pool) (i : Slot) : CString :=
  (pool.curlHelper i).filename

/-! ## Starting a download -/

/-- The slot that an index of the arrays means. -/
def slotOf (i : Int) : Option Slot :=
  if inside : 0 ≤ i ∧ i < maxConcurrentCurlHandles then some ⟨i.toNat, by omega⟩ else none

/-- The loop over the slots, left at the first that is not in use. -/
def findFree (pool : Pool) : Option Slot :=
  (List.finRange maxConcurrentCurlHandles).find? fun i => !pool.inUse i

/--
`CURL_HTTP_StartDownload` after its checks of the arguments and before its
`memset`: the slot, or none where it returns 0.
-/
def chooseSlot (pool : Pool) : Option (Option Slot) :=
  if pool.activeHandles ≥ maxConcurrentCurlHandles then some none
  else
    (slotOf pool.activeHandles).map fun i =>
      if pool.inUse i then
        if pool.activeHandles < maxConcurrentCurlHandles then pool.findFree else none
      else some i

/-- `CURL_HTTP_StartDownload` from its `memset` of slot `i` on. -/
def fill (url filename gamename : CString) (supply : Supply) (i : Slot) (pool : Pool) :
    Pool × Int :=
  let helper := { CurlHelper.zero with
    filename := nameBuffer filename
    gamename := nameBuffer gamename }
  match supply.stream with
  | none => ({ pool with curlHelper := Function.update pool.curlHelper i helper }, 0)
  | some stream =>
      ({ curlHelper := Function.update pool.curlHelper i
          { helper with downloadHandle := some stream, inUse := true }
         easyHandles := Function.update pool.easyHandles i (some supply.easyHandle)
         activeHandles := pool.activeHandles + 1
         multiHandle :=
          ⟨supply.easyHandle, url.take (maxUrllength - 1), stream, i⟩ :: pool.multiHandle }, 1)

/-- `CURL_HTTP_StartDownload`: the pool after it and the result. -/
def startDownload (request : Request) (supply : Supply) (pool : Pool) : Option (Pool × Int) :=
  match request with
  | ⟨some url, some filename, some gamename⟩ =>
      match pool.chooseSlot with
      | none => none
      | some none => some (pool, 0)
      | some (some i) => some (pool.fill url filename gamename supply i)
  | _ => some (pool, 0)

/-! ## The end of a download -/

/-- `CURL_HTTP_Reset`. -/
def reset (easyHandle : Nat) (pool : Pool) : Pool :=
  let activeHandles := pool.activeHandles - 1
  { pool with
    multiHandle := pool.multiHandle.filter fun transfer => transfer.easyHandle != easyHandle
    activeHandles := if activeHandles < 0 then 0 else activeHandles
    easyHandles :=
      match (List.finRange maxConcurrentCurlHandles).find? fun i =>
          pool.easyHandles i == some easyHandle with
      | some i => Function.update pool.easyHandles i none
      | none => pool.easyHandles }

/--
One message of `CURL_HTTP_Update` that a transfer is done; with the arguments
of `Add_Servers_From_List` where the list is read.
-/
def finish (transfer : Transfer) (responseCode : Int) (pool : Pool) :
    Pool × Option (CString × CString) :=
  let ptr := pool.curlHelper transfer.privateData
  let released := { pool with
    curlHelper := Function.update pool.curlHelper transfer.privateData
      { ptr with downloadHandle := none, inUse := false } }
  (released.reset transfer.easyHandle,
    if responseCode = httpOk ∨ responseCode = httpRest then some (ptr.filename, ptr.gamename)
    else none)

/-- The easy handle is none of those that libcurl still has. -/
def Fresh (pool : Pool) (supply : Supply) : Prop :=
  ∀ transfer ∈ pool.multiHandle, transfer.easyHandle ≠ supply.easyHandle

/--
The pools that starts and completions lead to. `curl_easy_init` returns a
fresh handle, and libcurl reports a transfer that it still has.
-/
inductive Reachable : Pool → Prop where
  | initial : Reachable initial
  | startDownload {pool pool' : Pool} {result : Int} (request : Request) (supply : Supply)
      (reached : Reachable pool) (fresh : pool.Fresh supply)
      (ran : pool.startDownload request supply = some (pool', result)) : Reachable pool'
  | finish {pool : Pool} (transfer : Transfer) (responseCode : Int) (reached : Reachable pool)
      (running : transfer ∈ pool.multiHandle) : Reachable (pool.finish transfer responseCode).1

end Pool

end GSMaster.Downloads
