import GSMaster.Registry.Pointers

/-!
# The registry as a list

The abstract registry: its entries in list order, each under the number of the
block that holds it. An entry is the same entry as long as its number is in
the list.
-/

namespace GSMaster.Registry

open GSMaster.Text GSMaster.Net GSMaster.Games

structure ServerList where
  cells : List (Nat × Server)
  nextBlock : Nat
  numservers : UInt64
  sent : List Datagram

namespace ServerList

/-- The registry of `gsmaster_main` before the first operation; block 0 is the sentinel. -/
def initial : ServerList :=
  ⟨[], 1, 0, []⟩

def servers (reg : ServerList) : List Server :=
  reg.cells.map Prod.snd

/-- The first entry that passes a test. -/
def find (reg : ServerList) (test : Server → Bool) : Option (Nat × Server) :=
  reg.cells.find? fun cell => test cell.2

def set (reg : ServerList) (block : Nat) (server : Server) : ServerList :=
  { reg with cells := reg.cells.map fun cell => if cell.1 = block then (block, server) else cell }

/-- `DropServer`. -/
def drop (reg : ServerList) (block : Nat) : ServerList :=
  { reg with
    cells := reg.cells.filter fun cell => cell.1 ≠ block
    numservers := dropCount reg.numservers }

def append (reg : ServerList) (server : Server) : ServerList :=
  { reg with
    cells := reg.cells ++ [(reg.nextBlock, server)]
    nextBlock := reg.nextBlock + 1
    numservers := reg.numservers + 1 }

def send (reg : ServerList) (datagrams : List Datagram) : ServerList :=
  { reg with sent := reg.sent ++ datagrams }

end ServerList

/-- The part of `AddServer` that makes the new entry. -/
def appendServer (cfg : Config) (env : Env) (call : AddCall) (gamename : CString)
    (reg : ServerList) : ServerList :=
  let server := newServer cfg env call gamename
  (reg.append server).send (newServerSends cfg call gamename server)

def addServer (cfg : Config) (env : Env) (call : AddCall) (reg : ServerList) : ServerList :=
  match call.accepted with
  | none => reg
  | some gamename =>
      match reg.find call.found with
      | none => appendServer cfg env call gamename reg
      | some (block, server) =>
          if server.shutdownIssued then appendServer cfg env call gamename (reg.drop block)
          else reg

def queueShutdown (env : Env) (sender : SockaddrIn) (reg : ServerList) : ServerList :=
  match reg.find (sentBy sender) with
  | none => reg
  | some (block, server) =>
      let server := shutdownServer env server
      (reg.set block server).send [statusSend server]

def runFrame (cfg : Config) (env : Env) (reg : ServerList) : ServerList :=
  let swept := GSMaster.Library.sweepCells (runFrameVisit cfg env) ⟨reg.numservers, [], 0⟩ reg.cells
  { reg with
    cells := swept.1
    numservers := swept.2.numservers
    sent := reg.sent ++ swept.2.sent }

def ack (cfg : Config) (env : Env) (sender : SockaddrIn) (dataPacket : List UInt8)
    (dglen : UInt64) (reg : ServerList) : ServerList :=
  match reg.find (sentBy sender) with
  | none => reg
  | some (block, server) => reg.set block (ackServer cfg env dataPacket dglen server)

def heartBeat (cfg : Config) (env : Env) (sender : SockaddrIn) (data : List UInt8)
    (reg : ServerList) : ServerList :=
  match parseHeartBeat data with
  | none => reg
  | some request =>
      match reg.find (request.found sender) with
      | none => addServer cfg env (request.addCall sender) reg
      | some (block, server) =>
          let server := heartBeatServer env request server
          let reg := (reg.set block server).send (heartBeatSends cfg server)
          if request.statechanged then
            queueShutdown (env.drawn 6) ⟨server.ip.sinAddr, server.port⟩ reg
          else reg

def addServers (cfg : Config) (calls : List (Env × AddCall)) (reg : ServerList) : ServerList :=
  calls.foldl (fun reg call => addServer cfg call.1 call.2 reg) reg

/-- Run an operation; there is no result where it reads a game index out of range. -/
def exec (cfg : Config) (env : Nat → Env) : Operation → ServerList → Option ServerList
  | .addServer call, reg => some (addServer cfg (env 0) call reg)
  | .queueShutdown sender, reg => some (queueShutdown (env 0) sender reg)
  | .runFrame, reg => some (runFrame cfg (env 0) reg)
  | .ack sender dataPacket dglen, reg => some (ack cfg (env 0) sender dataPacket dglen reg)
  | .heartBeat sender data, reg => some (heartBeat cfg (env 0) sender data reg)
  | .parseUDPMSList tmp gamename size, reg =>
      some (addServers cfg (parseUDPMSList env tmp gamename size) reg)
  | .addServersFromListExecute fileBuffer gamename, reg =>
      some (addServers cfg (addServersFromListExecute (env 0) fileBuffer gamename).toList reg)
  | .readMasterDBBlob file stale, reg =>
      (readMasterDBBlob env file stale).map fun calls => addServers cfg calls reg

/-- One operation, with any arguments and surroundings. -/
def ServerList.Step (cfg : Config) (reg reg' : ServerList) : Prop :=
  ∃ env op, exec cfg env op reg = some reg'

/-- The registries of the runs from the start of the program. -/
def ServerList.Reachable (cfg : Config) (reg : ServerList) : Prop :=
  Relation.ReflTransGen (ServerList.Step cfg) ServerList.initial reg

/-- A call changes nothing, makes an entry, or makes one in the place of an entry that it finds. -/
theorem addServer_cases (cfg : Config) (env : Env) (call : AddCall) (reg : ServerList) :
    addServer cfg env call reg = reg ∨
      (∃ gamename, call.accepted = some gamename ∧ reg.find call.found = none ∧
        addServer cfg env call reg = appendServer cfg env call gamename reg) ∨
      ∃ gamename block server, call.accepted = some gamename ∧
        reg.find call.found = some (block, server) ∧ server.shutdownIssued = true ∧
        addServer cfg env call reg = appendServer cfg env call gamename (reg.drop block) := by
  unfold addServer
  cases call.accepted with
  | none => exact Or.inl rfl
  | some gamename =>
      cases found : reg.find call.found with
      | none => exact Or.inr (Or.inl ⟨gamename, rfl, rfl, rfl⟩)
      | some cell =>
          obtain ⟨block, server⟩ := cell
          cases waiting : server.shutdownIssued with
          | false => exact Or.inl (by simp only [waiting, Bool.false_eq_true, if_false])
          | true =>
              refine Or.inr (Or.inr ⟨gamename, block, server, rfl, rfl, waiting, ?_⟩)
              simp only [waiting, if_true]

/-! ## A registration -/

/-- The address and the port of an Unreal server. -/
def unrealServer : SockaddrIn :=
  ⟨⟨10, 0, 0, 2⟩, htons 7778⟩

def unrealHeartbeat : Operation :=
  .heartBeat unrealServer (ascii "heartbeat\\7778\\gamename\\unreal")

theorem unrealHeartbeat_registers (required : Int) :
    ∃ reg : ServerList, reg.Reachable { defaultConfig with validationRequired := required } ∧
      ∃ server : Server, reg.find (sentBy unrealServer) = some (1, server) ∧
        server.gamename = ascii "unreal" ∧ server.challengeKey = ascii "aaaaaa" :=
  ⟨_, Relation.ReflTransGen.single ⟨fun _ => quietEnv, unrealHeartbeat, rfl⟩, _, rfl, rfl, rfl⟩

end GSMaster.Registry
