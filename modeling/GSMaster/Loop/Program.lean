import GSMaster.Database.Blob
import GSMaster.Downloads.Queue
import GSMaster.Library.PeriodicTimer
import GSMaster.Net.Resolver
import GSMaster.Packets.MasterQueries
import GSMaster.Packets.Rcon
import GSMaster.Session.TcpSession
import GSMaster.Startup.CommandLine

/-!
# The program

`gsmaster_main` from the moment on when its sockets are bound: what it loads at
the start, and the body of its `while` loop with the downloads, the three
timers, the datagram and the connection that an iteration takes, and the pass
over the registry. There is no result where the C code reads through NULL,
writes into a literal or indexes a table out of range. A signal that ends the
process at a send, a division by an interval of zero and overrun buffers are
not modelled: such an iteration goes on.
-/

namespace GSMaster.Loop

open GSMaster.Text GSMaster.Net GSMaster.Registry GSMaster.Lists GSMaster.Library
open GSMaster.Downloads GSMaster.Startup

/-- `MASTERLISTDLTIME`. -/
def masterlistdltime : Rat := 15 * 60

/-- `DBSAVETIME`. -/
def dbsavetime : Rat := 5 * 60

/-- `DEFAULTSERVERLISTGENERATIONTIME`. -/
def defaultserverlistgenerationtime : Rat := 2 * 60

/-- The settings of the command line, and the numbers that `atof` reads. -/
structure Setup where
  settings : Settings
  atof : CString → Rat

namespace Setup

def cfg (setup : Setup) : Config :=
  setup.settings.config

def tcpOptions (setup : Setup) : Session.TcpOptions :=
  ⟨setup.settings.bMotd, setup.settings.bLogTCP⟩

def serverListGenerationTime (setup : Setup) : Rat :=
  match setup.settings.serverListGenerationTime with
  | .standard => defaultserverlistgenerationtime
  | .atof text => setup.atof text

/-- `HTTP_DL_List` goes past its first test. -/
def Downloads (setup : Setup) : Prop :=
  setup.settings.bHttpEnable = true ∧ setup.settings.httpdlFilename ≠ []

instance (setup : Setup) : Decidable setup.Downloads :=
  inferInstanceAs (Decidable (_ ∧ _))

end Setup

/--
What the program keeps from one iteration to the next; `database` is the file
`gsmaster.db`, `answers` what it sends that is no matter of a single entry.
-/
structure Program where
  registry : ServerList
  curl : CurlState
  lastMasterListDL : Rat
  lastDBSave : Rat
  lastServerListGeneration : Rat
  database : Option (List UInt8)
  listFiles : CString → Option (List UInt8)
  answers : List Datagram
  sessions : List (List Session.SocketEvent)

/-- A message of libcurl that a transfer is done. -/
structure Message where
  transfer : Transfer
  responseCode : Int

/--
What an iteration meets: the messages of libcurl, the files that it opens, the
values of `time(NULL)` at the tests of the timers and where these are set, the
datagram and the connection that are waiting, and what the C library returns.
-/
structure Surroundings where
  messages : List Message
  queueSupply : Supply
  file : CString → Option (List UInt8)
  lines : Nat → Nat → Env
  scrapeTested : Nat
  httpStamped : Nat
  masterStamped : Nat
  listSupply : Nat → Supply
  masters : Env
  saveTested : Nat
  saveStamped : Nat
  dbOpens : Bool
  dbAllocates : Bool
  generationTested : Nat
  generationStamped : Nat
  fopen : CString → Bool
  datagram : Option (SockaddrIn × List UInt8)
  calls : Nat → Env
  client : Option Session.Client
  frame : Env

namespace Program

/-- `Add_Servers_From_List` of a file, which may not open. -/
def addServersFromList (setup : Setup) (env : Nat → Env) (file : Option (List UInt8))
    (gamename : Option CString) (program : Program) : Program :=
  match file with
  | none => program
  | some content =>
      { program with
        registry := addServers setup.cfg (Registry.addServersFromList env content gamename)
          program.registry }

def answer (program : Program) (datagrams : List Datagram) : Program :=
  { program with answers := program.answers ++ datagrams }

/-! ## The downloads -/

/-- The loop of `CURL_HTTP_Update`: the slots after it, and the lists that it reads. -/
def finishAll : List Message → Pool → Pool × List (CString × CString)
  | [], pool => (pool, [])
  | message :: messages, pool =>
      let finished := pool.finish message.transfer message.responseCode
      let rest := finishAll messages finished.1
      (rest.1, finished.2.toList ++ rest.2)

/-- `Add_Servers_From_List` for the lists of the downloads that are done. -/
def loadLists (setup : Setup) (met : Surroundings) :
    Nat → List (CString × CString) → Program → Program
  | _, [], program => program
  | index, list :: lists, program =>
      loadLists setup met (index + 1) lists
        (program.addServersFromList setup (met.lines index) (met.file list.1) (some list.2))

/-- `CURL_HTTP_Update`. -/
def curlHttpUpdate (setup : Setup) (met : Surroundings) (program : Program) : Option Program :=
  let finished := finishAll met.messages program.curl.pool
  let program := loadLists setup met 0 finished.2
    { program with curl := { program.curl with pool := finished.1 } }
  (program.curl.scheduleQueue met.queueSupply).map fun curl => { program with curl := curl }

/-- The rounds of `HTTP_DL_List`. -/
def downloadAll (supply : Nat → Supply) : Nat → List Request → CurlState → Option CurlState
  | _, [], curl => some curl
  | index, request :: requests, curl =>
      (curl.downloadOrQueue request (supply index)).bind (downloadAll supply (index + 1) requests)

/-- `HTTP_DL_List`, which sets the timer in each of its branches. -/
def httpDlList (setup : Setup) (met : Surroundings) (program : Program) : Option Program :=
  if setup.Downloads then
    let requests := ((met.file setup.settings.httpdlFilename).map httpDlRequests).getD []
    (downloadAll met.listSupply 0 requests program.curl).map fun curl =>
      { program with curl := curl, lastMasterListDL := met.httpStamped }
  else some program

/-! ## The timers -/

/-- The queries that a round of `Master_DL_List` has sent. -/
def queries : Packets.QueryOutcome → List Datagram
  | .sent datagrams => datagrams
  | _ => []

/-- `Master_DL_List`. -/
def masterDlList (setup : Setup) (met : Surroundings) (program : Program) : Program :=
  let rounds := ((met.file setup.settings.masterserverlistFilename).map
    (Packets.masterDLList met.masters)).getD []
  { program.answer (rounds.flatMap fun round => queries round.2) with
    lastMasterListDL := met.masterStamped }

/-- The two functions that ask other masters for their lists. -/
def scrapeNow (setup : Setup) (met : Surroundings) (program : Program) : Option Program :=
  (program.httpDlList setup met).map fun program =>
    if setup.settings.loadMasterServerlist then program.masterDlList setup met else program

def scrape (setup : Setup) (met : Surroundings) (program : Program) : Option Program :=
  if Overdue masterlistdltime program.lastMasterListDL met.scrapeTested then
    program.scrapeNow setup met
  else some program

/-- `GenerateMasterDBBlob`; the file is empty where there is no memory for its bytes. -/
def generateMasterDBBlob (met : Surroundings) (program : Program) : Program :=
  if met.dbOpens then
    { program with
      database := some (if met.dbAllocates then
        Database.generateMasterDBBlob program.registry.servers else []) }
  else program

def save (met : Surroundings) (program : Program) : Program :=
  if Overdue dbsavetime program.lastDBSave met.saveTested then
    { program.generateMasterDBBlob met with lastDBSave := met.saveStamped }
  else program

/-- Some files are written over those that are there. -/
def write (written : List (CString × List UInt8)) (files : CString → Option (List UInt8)) :
    CString → Option (List UInt8) :=
  written.foldl (fun files file => Function.update files file.1 (some file.2)) files

/-- The timer of `GenerateServersList`. -/
def generate (setup : Setup) (met : Surroundings) (program : Program) : Program :=
  if setup.settings.bGenerateServerList = true ∧
      Overdue setup.serverListGenerationTime program.lastServerListGeneration
        met.generationTested then
    { program with
      lastServerListGeneration := met.generationStamped
      listFiles := write (generateServersList setup.cfg setup.settings.bGenerateServerList
        setup.settings.serverListGenerationPath met.fopen program.registry.servers)
        program.listFiles }
  else program

/-! ## The sockets -/

/-- An operation on the registry. -/
def operate (setup : Setup) (env : Nat → Env) (op : Operation) (program : Program) :
    Option Program :=
  (exec setup.cfg env op program.registry).map fun registry =>
    { program with registry := registry }

/-- What a datagram asks for. -/
def serve (setup : Setup) (met : Surroundings) (sender : SockaddrIn) (program : Program)
    (command : Packets.Command) : Option Program :=
  match command with
  | .sendUDPServerList gamename =>
      let reply := sendUDPServerListToClient setup.cfg gamename program.registry.servers
      some (program.answer (reply.toList.map fun bytes => ⟨sender, bytes⟩))
  | .rcon queryString =>
      match Packets.rcon setup.settings.rconPassword sender queryString with
      | none => none
      | some (.addServersFromList filename) =>
          some (program.addServersFromList setup met.calls (met.file filename) none)
      | some (.answer message) => some (program.answer [message])
  | .qspyVerify => some (program.answer [⟨sender, Packets.qspyReqMsg⟩])
  | command =>
      match command.operation sender with
      | none => some program
      | some op => program.operate setup met.calls op

/-- The datagram that `recvfrom` hands over. -/
def receive (setup : Setup) (met : Surroundings) (program : Program) : Option Program :=
  match met.datagram with
  | none => some program
  | some (sender, received) =>
      program.serve setup met sender (Packets.parseUDPPacket sender received)

/-- The connection that `accept` hands over; a session only reads the registry. -/
def accept (setup : Setup) (met : Surroundings) (program : Program) : Option Program :=
  match met.client with
  | none => some program
  | some client =>
      let events := Session.gameSpyParseTCPPacket setup.tcpOptions setup.cfg client
      if Session.SocketEvent.fault ∈ events then none
      else some { program with sessions := program.sessions ++ [events] }

/-! ## The loop -/

/-- The body of the `while` loop. -/
def iterate (setup : Setup) (met : Surroundings) (program : Program) : Option Program := do
  let program ← program.curlHttpUpdate setup met
  let program ← program.scrape setup met
  let program := (program.save met).generate setup met
  let program ← program.receive setup met
  let program ← program.accept setup met
  program.operate setup (fun _ => met.frame) .runFrame

/-- The program as it is started with a database. -/
def initial (database : Option (List UInt8)) : Program where
  registry := ServerList.initial
  curl := CurlState.initial
  lastMasterListDL := 0
  lastDBSave := 0
  lastServerListGeneration := 0
  database := database
  listFiles := fun _ => none
  answers := []
  sessions := []

/-- `ReadMasterDBBlob`, where there is a file. -/
def readMasterDBBlob (setup : Setup) (met : Surroundings) (stale : UInt16) (program : Program) :
    Option Program :=
  match program.database with
  | none => some program
  | some file => program.operate setup met.calls (.readMasterDBBlob file (shortBytes stale))

/-- What `gsmaster_main` does in front of its loop. -/
def load (setup : Setup) (met : Surroundings) (stale : UInt16) (database : Option (List UInt8)) :
    Option Program := do
  let program ← (initial database).readMasterDBBlob setup met stale
  let program ← program.scrapeNow setup met
  if setup.settings.loadServerlist then
    some (program.addServersFromList setup (met.lines 0)
      (met.file setup.settings.serverlistFilename) none)
  else some program

end Program

/-! ## Runs -/

/-- libcurl reports each transfer while it still has it. -/
def Reported : List Message → Pool → Prop
  | [], _ => True
  | message :: messages, pool =>
      message.transfer ∈ pool.multiHandle ∧
        Reported messages (pool.finish message.transfer message.responseCode).1

/-- libcurl keeps to its interface: it reports what it has, and its easy handles are new. -/
structure Surroundings.Proper (met : Surroundings) (pool : Pool) : Prop where
  reported : Reported met.messages pool
  queued : ∀ transfer ∈ (Program.finishAll met.messages pool).1.multiHandle,
    transfer.easyHandle ≠ met.queueSupply.easyHandle
  listed : ∀ transfer ∈ (Program.finishAll met.messages pool).1.multiHandle, ∀ i,
    transfer.easyHandle ≠ (met.listSupply i).easyHandle
  apart : ∀ i, (met.listSupply i).easyHandle ≠ met.queueSupply.easyHandle
  distinct : Function.Injective fun i => (met.listSupply i).easyHandle

/-- The values of `time(NULL)` in an iteration, in order; the last one is that of `RunFrame`. -/
def Surroundings.clock (met : Surroundings) : List Nat :=
  [met.scrapeTested, met.httpStamped, met.masterStamped, met.saveTested, met.saveStamped,
    met.generationTested, met.generationStamped, (met.frame.time 0).toNat]

/-- An iteration: the program in front of it, what it met, and the program after it. -/
structure Turn where
  before : Program
  met : Surroundings
  after : Program

/-- The runs of the program, with their iterations. -/
inductive ProgramRun (setup : Setup) : List Turn → Program → Prop where
  | load {program : Program} (met : Surroundings) (stale : UInt16)
      (database : Option (List UInt8)) (proper : met.Proper Pool.initial)
      (loaded : Program.load setup met stale database = some program) :
      ProgramRun setup [] program
  | iterate {turns : List Turn} {before after : Program} (met : Surroundings)
      (run : ProgramRun setup turns before) (proper : met.Proper before.curl.pool)
      (done : before.iterate setup met = some after) :
      ProgramRun setup (turns ++ [⟨before, met, after⟩]) after

/-- The clock does not go back. -/
def Clocked (turns : List Turn) : Prop :=
  (turns.flatMap fun turn => turn.met.clock).Pairwise (· ≤ ·)

instance (turns : List Turn) : Decidable (Clocked turns) :=
  inferInstanceAs (Decidable (List.Pairwise _ _))

/-! ## Quiet surroundings -/

/-- The program without any option. -/
def quietSetup : Setup :=
  ⟨Settings.initial, fun _ => 0⟩

/-- Nothing arrives at some time, numeric names resolve and files can be written. -/
def quietMet (time : Nat) : Surroundings where
  messages := []
  queueSupply := ⟨none, 0⟩
  file := fun _ => none
  lines := fun _ _ => { quietEnv with gethostbyname := dottedQuad }
  scrapeTested := time
  httpStamped := time
  masterStamped := time
  listSupply := fun i => ⟨none, i + 1⟩
  masters := quietEnv
  saveTested := time
  saveStamped := time
  dbOpens := true
  dbAllocates := true
  generationTested := time
  generationStamped := time
  fopen := fun _ => true
  datagram := none
  calls := fun _ => { quietEnv with gethostbyname := dottedQuad }
  client := none
  frame := { quietEnv with
    time := fun _ => time.toUInt64
    gethostbyname := dottedQuad }

end GSMaster.Loop
