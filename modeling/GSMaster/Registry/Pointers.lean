import GSMaster.Library.LinkedList
import GSMaster.Registry.Imports
import GSMaster.Registry.AckBounds

/-!
# The registry in memory

The operations of `master.c` on the blocks of the heap. Block 0 is the static
sentinel `servers`; a block that is allocated gets a new number. A function
has no result where it follows a link to memory that is not allocated.
-/

namespace GSMaster.Registry

open GSMaster.Text GSMaster.Net GSMaster.Games GSMaster.Library

structure Memory where
  heap : NodeHeap Server
  nextBlock : Nat
  numservers : UInt64
  sent : List Datagram

namespace Memory

/-- `gsmaster_main` before its loop: the sentinel is zero and the list is empty. -/
def initial : Memory where
  heap := Function.update (fun _ => none) 0 (some ⟨none, none, Server.zero⟩)
  nextBlock := 1
  numservers := 0
  sent := []

/-- The loop from the sentinel on, left at the first server that passes the test. -/
def search (m : Memory) (test : Server → Bool) : Option (Nat × Option Server) :=
  locate m.heap test m.nextBlock 0

/-- The servers in the order a walk from the sentinel meets them. -/
def entries (m : Memory) : Option (List (Nat × Server)) :=
  collect m.heap m.nextBlock 0

def store (m : Memory) (block : Nat) (server : Server) : Option Memory :=
  (setVal m.heap block server).map fun heap => { m with heap := heap }

def send (m : Memory) (datagrams : List Datagram) : Memory :=
  { m with sent := m.sent ++ datagrams }

def dropServer (m : Memory) (block : Nat) : Option Memory :=
  (unlink m.heap block).map fun heap =>
    { m with heap := heap, numservers := dropCount m.numservers }

/-- `AddServer` from its `calloc` on, with `last` in `server`. -/
def appendServer (cfg : Config) (env : Env) (call : AddCall) (gamename : CString) (last : Nat)
    (m : Memory) : Option Memory :=
  let server := newServer cfg env call gamename
  (appendNode m.heap last m.nextBlock server).map fun heap =>
    { heap := heap
      nextBlock := m.nextBlock + 1
      numservers := m.numservers + 1
      sent := m.sent ++ newServerSends cfg call gamename server }

/-- `AddServer`; after it drops an entry it walks to the end of the list again. -/
def addServer (cfg : Config) (env : Env) (call : AddCall) (m : Memory) : Option Memory :=
  match call.accepted with
  | none => some m
  | some gamename =>
      match m.search call.found with
      | none => none
      | some (last, none) => appendServer cfg env call gamename last m
      | some (block, some server) =>
          if server.shutdownIssued then do
            let m ← m.dropServer block
            let (last, _) ← m.search fun _ => false
            appendServer cfg env call gamename last m
          else some m

def queueShutdown (env : Env) (sender : SockaddrIn) (m : Memory) : Option Memory :=
  match m.search (sentBy sender) with
  | none => none
  | some (_, none) => some m
  | some (block, some server) =>
      let server := shutdownServer env server
      (m.store block server).map fun m => m.send [statusSend server]

def runFrame (cfg : Config) (env : Env) (m : Memory) : Option Memory :=
  (sweep (runFrameVisit cfg env) m.nextBlock m.heap ⟨m.numservers, [], 0⟩ 0).map fun swept =>
    { m with
      heap := swept.1
      numservers := swept.2.numservers
      sent := m.sent ++ swept.2.sent }

def ack (cfg : Config) (env : Env) (sender : SockaddrIn) (dataPacket : List UInt8)
    (dglen : UInt64) (m : Memory) : Option Memory :=
  match m.search (sentBy sender) with
  | none => none
  | some (_, none) => some m
  | some (block, some server) => m.store block (ackServer cfg env dataPacket dglen server)

def heartBeat (cfg : Config) (env : Env) (sender : SockaddrIn) (data : List UInt8)
    (m : Memory) : Option Memory :=
  match parseHeartBeat data with
  | none => some m
  | some request =>
      match m.search (request.found sender) with
      | none => none
      | some (_, none) => addServer cfg env (request.addCall sender) m
      | some (block, some server) => do
          let server := heartBeatServer env request server
          let m ← m.store block server
          let m := m.send (heartBeatSends cfg server)
          if request.statechanged then
            queueShutdown (env.drawn 6) ⟨server.ip.sinAddr, server.port⟩ m
          else some m

def addServers (cfg : Config) : List (Env × AddCall) → Memory → Option Memory
  | [], m => some m
  | call :: calls, m => (addServer cfg call.1 call.2 m).bind (addServers cfg calls)

end Memory

/-- The functions that change the registry, with their arguments. -/
inductive Operation where
  | addServer (call : AddCall)
  | queueShutdown (sender : SockaddrIn)
  | runFrame
  | ack (sender : SockaddrIn) (dataPacket : List UInt8) (dglen : UInt64)
  | heartBeat (sender : SockaddrIn) (data : List UInt8)
  | parseUDPMSList (tmp : List UInt8) (gamename : CString) (size : Int)
  | addServersFromListExecute (fileBuffer : CString) (gamenameFromHttp : Option CString)
  | readMasterDBBlob (file stale : List UInt8)

/-- Run an operation as the C code does. -/
def Memory.exec (cfg : Config) (env : Nat → Env) : Operation → Memory → Option Memory
  | .addServer call, m => m.addServer cfg (env 0) call
  | .queueShutdown sender, m => m.queueShutdown (env 0) sender
  | .runFrame, m => m.runFrame cfg (env 0)
  | .ack sender dataPacket dglen, m => m.ack cfg (env 0) sender dataPacket dglen
  | .heartBeat sender data, m => m.heartBeat cfg (env 0) sender data
  | .parseUDPMSList tmp gamename size, m => m.addServers cfg (parseUDPMSList env tmp gamename size)
  | .addServersFromListExecute fileBuffer gamename, m =>
      m.addServers cfg (addServersFromListExecute (env 0) fileBuffer gamename).toList
  | .readMasterDBBlob file stale, m =>
      (readMasterDBBlob env file stale).bind fun calls => m.addServers cfg calls

/-- Every record of a database names a game of the table. -/
def Operation.InRange : Operation → Prop
  | .readMasterDBBlob file stale =>
      ∀ record ∈ blobRecords ((file.length - 2 + 7) / 8) (file.drop 2) (List.replicate 6 0) stale,
        record.2.toNat < gameTable.length
  | _ => True

/-- The buffers that an operation writes are large enough, as the memory stands before it. -/
def Operation.Fits (cfg : Config) (m : Memory) : Operation → Prop
  | .ack sender dataPacket dglen => ∀ block server,
      m.search (sentBy sender) = some (block, some server) → ackFits cfg dataPacket dglen server
  | _ => True

/--
What the C code may do to the memory. An operation that writes outside a buffer
or follows a wild link has undefined behaviour: the memory is anything after it.
-/
def Operation.Leads (cfg : Config) (env : Nat → Env) (op : Operation) (m m' : Memory) : Prop :=
  op.Fits cfg m → ∀ after, m.exec cfg env op = some after → m' = after

end GSMaster.Registry
