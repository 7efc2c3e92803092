import Mathlib

/-!
# The descriptor sets of the main loop

`gsmaster_main` counts every datagram and every connection in `newConnection`
and passes the counter to the descriptor set macros, which do not check their
index. A step here is one round of one of the two scans, or what lies between
them; it yields the indices that it passes to the macros.
-/

namespace GSMaster.Loop

/-- `FD_SETSIZE`. -/
def fdSetsize : Nat := 1024

/-- An `fd_set` by its members, as if it had room for every index. -/
abbrev FdSet := Nat → Bool

def fdZero : FdSet :=
  fun _ => false

def fdSet (fd : Nat) (set : FdSet) : FdSet :=
  fun i => i == fd || set i

def fdClr (fd : Nat) (set : FdSet) : FdSet :=
  fun i => i != fd && set i

/-- The two listening sockets, whose sum is a descriptor index too. -/
structure Listeners where
  listener : Nat
  listenerTCP : Nat
  small : listener + listenerTCP < fdSetsize

inductive Protocol where
  | udp
  | tcp
  deriving DecidableEq, Repr

def Listeners.fd (sockets : Listeners) : Protocol → Nat
  | .udp => sockets.listener
  | .tcp => sockets.listenerTCP

/-- The head of the `while` loop, or a round of the scan for one of the sockets. -/
inductive Phase where
  | top
  | scan (protocol : Protocol) (i : Nat)
  deriving DecidableEq, Repr

structure LoopState where
  phase : Phase
  newConnection : Nat
  maxConnections : Nat
  master : FdSet
  set : FdSet

/--
What the system does in a step: nothing, as no socket is polled; or
`selectsocket` leaves some descriptors and does not report the socket, or
reports it and `recvfrom` or `accept` fails, or hands over a datagram or a
connection.
-/
inductive Event where
  | quiet
  | silent (ready : Int) (left : FdSet)
  | failed (left : FdSet)
  | arrived (left : FdSet)

def Event.isArrival : Event → Bool
  | .arrived _ => true
  | _ => false

/-- `newConnection++` with the statements around it, down to `FD_CLR`. -/
def LoopState.connect (state : LoopState) : LoopState :=
  let newConnection := state.newConnection + 1
  { state with
    newConnection := newConnection
    maxConnections :=
      if newConnection > state.maxConnections then newConnection else state.maxConnections
    master := fdClr newConnection (fdSet newConnection state.master) }

/-- What follows a poll that reports the socket, with the indices used. -/
def LoopState.take (state : LoopState) : Event → Option (LoopState × List Nat)
  | .failed _ =>
      some ({ state with master := fdClr state.newConnection state.master }, [state.newConnection])
  | .arrived _ => some (state.connect, [state.newConnection + 1, state.newConnection + 1])
  | _ => none

def Event.left : Event → FdSet
  | .quiet => fdZero
  | .silent _ left => left
  | .failed left => left
  | .arrived left => left

/-- `selectsocket` and the statements under it; `state` has the set that it leaves. -/
def poll (sockets : Listeners) (event : Event) (state : LoopState) :
    Protocol → Option (LoopState × List Nat)
  | .udp =>
      match event with
      | .silent ready _ => if ready = 1 then none else some (state, [])
      | event => state.take event
  | .tcp =>
      match event with
      | .silent ready _ =>
          if ready = 0 then some (state, [])
          else if state.set sockets.listenerTCP then none
          else some (state, [sockets.listenerTCP])
      | event =>
          if state.set sockets.listenerTCP then
            (state.take event).map fun taken => (taken.1, sockets.listenerTCP :: taken.2)
          else none

/-- A step of the loop, where the event can happen, and the indices it passes to the macros. -/
def step (sockets : Listeners) (event : Event) (state : LoopState) :
    Option (LoopState × List Nat) :=
  match state.phase with
  | .top =>
      let master := fdSet sockets.listener fdZero
      match event with
      | .quiet => some ({ state with phase := .scan .udp 0, master := master, set := master },
          [sockets.listener])
      | _ => none
  | .scan protocol i =>
      if i ≤ state.maxConnections then
        let next := { state with phase := .scan protocol (i + 1) }
        if state.set i && i == sockets.fd protocol then
          let polled := { next with set := fun k => state.set k && event.left k }
          (poll sockets event polled protocol).map fun done => (done.1, i :: done.2)
        else match event with
          | .quiet => some (next, [i])
          | _ => none
      else match protocol, event with
        | .udp, .quiet =>
            let master := fdSet sockets.listenerTCP state.master
            some ({ state with phase := .scan .tcp 0, master := master, set := master },
              [sockets.listenerTCP])
        | .tcp, .quiet => some ({ state with phase := .top }, [])
        | _, _ => none

/-- The state before the first iteration. -/
def start (sockets : Listeners) : LoopState where
  phase := .top
  newConnection := 0
  maxConnections := sockets.listener + sockets.listenerTCP
  master := fdSet sockets.listener fdZero
  set := fdSet sockets.listener fdZero

/-- The runs of the loop, with what happened and the indices that were used. -/
inductive Run (sockets : Listeners) : List Event → List Nat → LoopState → Prop where
  | start : Run sockets [] [sockets.listener] (start sockets)
  | step {events : List Event} {indices indices' : List Nat} {state state' : LoopState}
      (event : Event) (run : Run sockets events indices state)
      (stepped : step sockets event state = some (state', indices')) :
      Run sockets (events ++ [event]) (indices ++ indices') state'

end GSMaster.Loop
