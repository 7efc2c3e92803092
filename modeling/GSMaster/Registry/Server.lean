import GSMaster.Games.CrossCheck
import GSMaster.Net.Address

/-!
# The entries of the registry

`server_t` without its links, the settings and surroundings of the program, and
what each handler does to the one entry it works on.
-/

namespace GSMaster.Registry

open GSMaster.Text GSMaster.Net GSMaster.Games

/-- The settings that the command line leaves. -/
structure Config where
  bSendGameSpyAck : Bool
  bValidateNewserverImmediately : Bool
  validationRequired : Int
  heartbeatInterval : UInt64
  minimumHeartbeats : UInt32

/-- The settings without any option: five minutes and two heartbeats. -/
def defaultConfig : Config where
  bSendGameSpyAck := false
  bValidateNewserverImmediately := false
  validationRequired := 0
  heartbeatInterval := 300
  minimumHeartbeats := 2

/--
What the C library returns during one call: the times that are stored, the
values of `rand()` in the order they are drawn, and the resolved names.
-/
structure Env where
  time : Nat → UInt64
  rand : Nat → Nat
  gethostbyname : CString → Option InAddr

/-- Surroundings where the clock stands at zero, `rand()` too, and no name resolves. -/
def quietEnv : Env :=
  ⟨fun _ => 0, fun _ => 0, fun _ => none⟩

/-- The surroundings after `count` values of `rand()` have been drawn. -/
def Env.drawn (env : Env) (count : Nat) : Env :=
  { env with rand := fun i => env.rand (count + i) }

/-- `netquake_data_t`; the three texts have buffers of `netquakeMaxstr` bytes. -/
structure NetquakeData where
  ip : CString
  hostname : CString
  mapname : CString
  users : Int
  maxusers : Int
  protocol : Int
  deriving DecidableEq, Repr

def netquakeMaxstr : Nat := 64

structure Server where
  ip : SockaddrIn
  port : UInt16
  gs3dport : UInt16
  queuedPings : UInt32
  heartbeats : UInt32
  lastHeartbeat : UInt64
  lastPing : UInt64
  shutdownIssued : Bool
  validated : Bool
  gamename : CString
  challengeKey : CString
  hostnameIp : CString
  serverInfo : CString
  nqData : NetquakeData
  deriving DecidableEq, Repr

/-- A server all of whose bytes are zero, as `calloc` and the static sentinel have it. -/
def Server.zero : Server where
  ip := ⟨⟨0, 0, 0, 0⟩, 0⟩
  port := 0
  gs3dport := 0
  queuedPings := 0
  heartbeats := 0
  lastHeartbeat := 0
  lastPing := 0
  shutdownIssued := false
  validated := false
  gamename := []
  challengeKey := []
  hostnameIp := []
  serverInfo := []
  nqData := ⟨[], [], [], 0, 0, 0⟩

/-- The address and the port under which a server is registered. -/
abbrev ServerKey := InAddr × UInt16

def Server.key (server : Server) : ServerKey :=
  (server.ip.sinAddr, server.port)

/-- A message that `sendto` is given on the listener socket. -/
structure Datagram where
  dest : SockaddrIn
  bytes : List UInt8
  deriving DecidableEq, Repr

/-! ## The messages of the master -/

/-- `OOB_SEQ`. -/
def oobSeq : List UInt8 := [255, 255, 255, 255]

def statusstring : CString := ascii "\\status\\secure\\"

def qwAckMsg : List UInt8 := oobSeq ++ ascii "l" ++ [0]

def hwAckMsg : List UInt8 := oobSeq ++ [255] ++ ascii "l" ++ [0]

def ackstring : List UInt8 := oobSeq ++ ascii "ack"

def printstring : List UInt8 := oobSeq ++ ascii "print"

/-- `MAX_GSPY_VAL`, the size of each `validateString`. -/
def maxGspyVal : Nat := 89

/--
The block that builds `validateString` in `AddServer`, `QueueShutdown`,
`RunFrame` and `HeartBeat`. The fixed strings go out with their NUL.
-/
def statusQuery (gamename challengeKey : CString) : List UInt8 :=
  if stricmpEq gamename (ascii "quakeworld") || stricmpEq gamename (ascii "quake2") then
    oobSeq ++ ascii "status" ++ [0]
  else if stricmpEq gamename (ascii "hexenworld") then
    oobSeq ++ [255] ++ ascii "status" ++ [0]
  else if stricmpEq gamename (ascii "hexen2") then
    [128, 0, 0, 13, 2] ++ ascii "HEXENII" ++ [0]
  else if stricmpEq gamename (ascii "quake1") then
    [128, 0, 0, 12, 2] ++ ascii "QUAKE" ++ [0, 0]
  else (statusstring ++ challengeKey).take (maxGspyVal - 1)

def ackMessage (gamename : CString) : List UInt8 :=
  if stricmpEq gamename (ascii "quakeworld") then qwAckMsg
  else if stricmpEq gamename (ascii "hexenworld") then hwAckMsg
  else ackstring

/-- `SendAcknowledge`. -/
def sendAcknowledge (gamename : Option CString) : Bool :=
  match gamename with
  | none => false
  | some gamename =>
      stricmpEq gamename (ascii "quake2") || stricmpEq gamename (ascii "quakeworld") ||
        stricmpEq gamename (ascii "hexenworld")

/-! ## A new entry -/

/-- The arguments of `AddServer`; `queryPort` is in network order. -/
structure AddCall where
  sender : SockaddrIn
  acknowledge : Bool
  queryPort : UInt16
  gamename : Option CString
  hostnameIp : Option CString
  deriving DecidableEq, Repr

def AddCall.key (call : AddCall) : ServerKey :=
  (call.sender.sinAddr, call.queryPort)

/-- The game name of a call that passes the three checks before the search. -/
def AddCall.accepted (call : AddCall) : Option CString :=
  match call.gamename with
  | none => none
  | some gamename =>
      if gamename = [] then none
      else if call.queryPort = 0 then none
      else if gameSpyGetGameSecKey gamename = none then none
      else some gamename

/-- The comparison in the loop of `AddServer`. -/
def AddCall.found (call : AddCall) (server : Server) : Bool :=
  call.sender.sinAddr == server.ip.sinAddr && htons call.queryPort == htons server.port

/-- `MAX_DNS_NAMELEN`; the host name field has one byte more. -/
def maxDnsNamelen : Nat := 254

/-- `rand() % heartbeatInterval`; for an interval of zero the C code divides by zero. -/
def pingJitter (cfg : Config) (env : Env) : UInt64 :=
  (env.rand 0).toUInt64 % cfg.heartbeatInterval

/-- The entry that `AddServer` appends. -/
def newServer (cfg : Config) (env : Env) (call : AddCall) (gamename : CString) : Server :=
  let hostnameIp := match call.hostnameIp with
    | none => inetNtoa call.sender.sinAddr
    | some name => if name = [] then inetNtoa call.sender.sinAddr else name
  { Server.zero with
    ip := call.sender
    port := call.queryPort
    gs3dport := gameSpyGetGS3DPortOffset gamename call.queryPort
    heartbeats := if cfg.bValidateNewserverImmediately then cfg.minimumHeartbeats else 0
    lastHeartbeat := env.time 0
    lastPing := env.time 1 - pingJitter cfg env
    validated := cfg.bValidateNewserverImmediately
    gamename := strlcpy [] gamename maxGamenameLen
    challengeKey := gameSpyCreateChallengeKey (env.drawn 1).rand 6
    hostnameIp := strlcpy [] hostnameIp (maxDnsNamelen + 1) }

/-- What `AddServer` sends about a new entry. -/
def newServerSends (cfg : Config) (call : AddCall) (gamename : CString) (server : Server) :
    List Datagram :=
  let addr : SockaddrIn := ⟨server.ip.sinAddr, server.port⟩
  (if call.acknowledge || cfg.bSendGameSpyAck then [⟨addr, ackMessage gamename⟩] else []) ++
    [⟨addr, statusQuery server.gamename server.challengeKey⟩]

/-! ## A shutdown -/

/-- The comparison in the loops of `QueueShutdown` and `Ack`. -/
def sentBy (sender : SockaddrIn) (server : Server) : Bool :=
  sender.sinAddr == server.ip.sinAddr && sender.sinPort == server.port

/-- The entry after `QueueShutdown`, whose second argument is NULL in every call. -/
def shutdownServer (env : Env) (server : Server) : Server :=
  { server with shutdownIssued := true, challengeKey := gameSpyCreateChallengeKey env.rand 6 }

/-- The query to an entry that has just got a new challenge key. -/
def statusSend (server : Server) : Datagram :=
  ⟨⟨server.ip.sinAddr, server.port⟩, statusQuery server.gamename server.challengeKey⟩

/-! ## A reply -/

/-- The games too old to answer a challenge. -/
def isLegacy (gamename : CString) : Bool :=
  stricmpEq gamename (ascii "quake2") || stricmpEq gamename (ascii "quakeworld") ||
    stricmpEq gamename (ascii "quake1") || stricmpEq gamename (ascii "hexenworld") ||
    stricmpEq gamename (ascii "hexen2")

/-- A `char`, which is signed, as an `int`. -/
def charInt (data : List UInt8) : Int :=
  (data.headD 0).toInt8.toInt

/-- The last three fields of `Parse_NQData`, each read while `totallen < dglen`. -/
def parseNQCounts (data : List UInt8) (nqData : NetquakeData) (dglen totallen : Nat) :
    NetquakeData :=
  if totallen < dglen then
    let nqData := { nqData with users := charInt data }
    if totallen + 1 < dglen then
      let nqData := { nqData with maxusers := charInt (data.drop 1) }
      if totallen + 2 < dglen then { nqData with protocol := charInt (data.drop 2) } else nqData
    else nqData
  else nqData

/-- `Parse_NQData`; `offset` counts the NUL of the header it is the size of. -/
def parseNQData (data : List UInt8) (nqData : NetquakeData) (dglen offset : Nat) : NetquakeData :=
  let data := data.drop (offset - 1)
  let ip := cstr data
  if ip.length = 0 then nqData
  else
    let nqData := { nqData with ip := ip }
    if ip.length + 1 < dglen then
      let data := data.drop (ip.length + 1)
      let hostname := cstr data
      if hostname.length = 0 then nqData
      else if hostname.length < dglen then
        let nqData := { nqData with hostname := hostname }
        let data := data.drop (hostname.length + 1)
        let mapname := cstr data
        if mapname.length = 0 then nqData
        else if hostname.length + mapname.length < dglen then
          parseNQCounts (data.drop (mapname.length + 1)) { nqData with mapname := mapname } dglen
            (hostname.length + mapname.length + 1)
        else nqData
      else nqData
    else nqData

def hexen2ServerinfoReply : List UInt8 := [128, 0, 0, 51, 131]

def quake1ServerinfoReply : List UInt8 := [128, 0, 0, 63, 131]

/--
What `Ack` takes from the reply of a legacy game. `dglen - printstringlen` is
unsigned, so it is positive for every length but nine.
-/
def legacyReply (dataPacket : List UInt8) (dglen : UInt64) (server : Server) : Server :=
  if 6 < dglen then
    if memcmpEq dataPacket printstring && 0 < dglen - 9 then
      { server with
        serverInfo := strlcpy server.serverInfo (cstr (dataPacket.drop 9)) (dglen - 9).toNat }
    else if memcmpEq dataPacket hexen2ServerinfoReply then
      { server with nqData := parseNQData dataPacket server.nqData dglen.toNat 6 }
    else if memcmpEq dataPacket quake1ServerinfoReply then
      { server with nqData := parseNQData dataPacket server.nqData dglen.toNat 6 }
    else server
  else server

/-- What `Ack` stores in `validated`. -/
def ackVerdict (cfg : Config) (server : Server) (dataPacket : List UInt8) : Bool :=
  isLegacy server.gamename ||
    (gameSpyChallengeCrossCheck cfg.validationRequired server.challengeKey (cstr dataPacket)
      server.challengeKey true 0).passed

/--
The entry that matches after `Ack`. Texts are stored as if every buffer were
large enough; whether they are is the matter of `ackFits`.
-/
def ackServer (cfg : Config) (env : Env) (dataPacket : List UInt8) (dglen : UInt64)
    (server : Server) : Server :=
  let stored := if isLegacy server.gamename then legacyReply dataPacket dglen server
    else { server with serverInfo := strlcpy server.serverInfo (cstr dataPacket) dglen.toNat }
  { stored with
    lastHeartbeat := env.time 0
    validated := ackVerdict cfg server dataPacket
    queuedPings := 0
    shutdownIssued := false
    heartbeats := server.heartbeats + 1 }

/-! ## A heartbeat -/

structure HeartBeatRequest where
  queryPort : UInt16
  gamename : Option CString
  statechanged : Bool
  deriving DecidableEq, Repr

/-- The heartbeat announces a shutdown unless the state that follows begins with 1. -/
def announcesShutdown (data : CString) : Bool :=
  contains data (ascii "\\statechanged\\") && !contains data (ascii "\\statechanged\\1")

/-- The part of `HeartBeat` before the search; there is no request where it returns. -/
def parseHeartBeat (data : List UInt8) : Option HeartBeatRequest :=
  if cstr data = [] then none
  else match strtok [backslash] (some (cstr (data.drop 10))) with
    | (some port, some cmdPtr) =>
        match strtok [backslash] (some cmdPtr) with
        | (some token, some cmdPtr) =>
            if token = ascii "gamename" then
              some ⟨UInt16.ofInt (atoi port), (strtok [backslash] (some cmdPtr)).1,
                announcesShutdown (cstr data)⟩
            else none
        | _ => none
    | _ => none

/-- The comparison in the loop of `HeartBeat`; its `queryPort` is in host order. -/
def HeartBeatRequest.found (request : HeartBeatRequest) (sender : SockaddrIn) (server : Server) :
    Bool :=
  sender.sinAddr == server.ip.sinAddr && request.queryPort == htons server.port

/-- The entry that matches after `HeartBeat`. -/
def heartBeatServer (env : Env) (request : HeartBeatRequest) (server : Server) : Server :=
  { server with
    port := htons request.queryPort
    challengeKey := gameSpyCreateChallengeKey env.rand 6
    lastHeartbeat := env.time 0 }

/-- The query and the courtesy message of `HeartBeat`. -/
def heartBeatSends (cfg : Config) (server : Server) : List Datagram :=
  let addr : SockaddrIn := ⟨server.ip.sinAddr, server.port⟩
  let bSendAckLegacy := stricmpEq server.gamename (ascii "quakeworld") ||
    stricmpEq server.gamename (ascii "quake2") || stricmpEq server.gamename (ascii "hexenworld")
  statusSend server ::
    if cfg.bSendGameSpyAck || bSendAckLegacy then [⟨addr, ackMessage server.gamename⟩] else []

/-- The call of `AddServer` that ends `HeartBeat` for an unknown server. -/
def HeartBeatRequest.addCall (request : HeartBeatRequest) (sender : SockaddrIn) : AddCall :=
  ⟨sender, sendAcknowledge request.gamename, htons request.queryPort, request.gamename, none⟩

/-! ## A pass of `RunFrame` -/

/-- The address that `RunFrame` pings, `Hostname_to_IP`. -/
def hostnameToIP (env : Env) (server : Server) : InAddr :=
  (env.gethostbyname server.hostnameIp).getD server.ip.sinAddr

/-- `if (numservers != 0) numservers--;` -/
def dropCount (numservers : UInt64) : UInt64 :=
  if numservers ≠ 0 then numservers - 1 else numservers

/-- What a pass of `RunFrame` has done so far: the counter, what it sent and how much it drew. -/
structure FrameState where
  numservers : UInt64
  sent : List Datagram
  drawn : Nat

/-- The body of the loop of `RunFrame`; an entry that is dropped has no value afterwards. -/
def runFrameVisit (cfg : Config) (env : Env) (state : FrameState) (server : Server) :
    Option Server × FrameState :=
  let curtime := env.time 0
  if 60 < curtime - server.lastHeartbeat then
    if server.shutdownIssued || 6 < server.queuedPings then
      (none, { state with numservers := dropCount state.numservers })
    else if cfg.heartbeatInterval ≤ curtime - server.lastPing then
      let pinged := { server with
        queuedPings := server.queuedPings + 1
        lastPing := curtime - pingJitter cfg (env.drawn state.drawn)
        challengeKey := gameSpyCreateChallengeKey (env.drawn (state.drawn + 1)).rand 6 }
      let ping : Datagram := ⟨⟨hostnameToIP env server, server.port⟩,
        statusQuery pinged.gamename pinged.challengeKey⟩
      (some pinged, ⟨state.numservers, state.sent ++ [ping], state.drawn + 7⟩)
    else (some server, state)
  else (some server, state)

/-! ## What a pass does to an entry -/

/-- `curtime - server->last_heartbeat > 60`, which is unsigned. -/
def Server.Silent (curtime : UInt64) (server : Server) : Prop :=
  60 < curtime - server.lastHeartbeat

/-- The entry is dropped. -/
def Server.Expired (curtime : UInt64) (server : Server) : Prop :=
  server.Silent curtime ∧ (server.shutdownIssued = true ∨ 6 < server.queuedPings)

/-- The entry is pinged. -/
def Server.PingDue (cfg : Config) (curtime : UInt64) (server : Server) : Prop :=
  server.Silent curtime ∧ ¬ (server.shutdownIssued = true ∨ 6 < server.queuedPings) ∧
    cfg.heartbeatInterval ≤ curtime - server.lastPing

instance (curtime : UInt64) (server : Server) : Decidable (server.Silent curtime) :=
  inferInstanceAs (Decidable (_ < _))

instance (curtime : UInt64) (server : Server) : Decidable (server.Expired curtime) :=
  inferInstanceAs (Decidable (_ ∧ _))

instance (cfg : Config) (curtime : UInt64) (server : Server) :
    Decidable (server.PingDue cfg curtime) :=
  inferInstanceAs (Decidable (_ ∧ _))

/-- The entry after its ping; the jitter is the first value drawn and the key the next six. -/
def pingedServer (cfg : Config) (env : Env) (drawn : Nat) (server : Server) : Server :=
  { server with
    queuedPings := server.queuedPings + 1
    lastPing := env.time 0 - pingJitter cfg (env.drawn drawn)
    challengeKey := gameSpyCreateChallengeKey (env.drawn (drawn + 1)).rand 6 }

/-- The ping itself. -/
def framePing (env : Env) (drawn : Nat) (server : Server) : Datagram :=
  ⟨⟨hostnameToIP env server, server.port⟩,
    statusQuery server.gamename (gameSpyCreateChallengeKey (env.drawn (drawn + 1)).rand 6)⟩

/-- An entry is not both removed and pinged. -/
theorem Server.Expired.not_due {cfg : Config} {server : Server} {curtime : UInt64}
    (expired : server.Expired curtime) : ¬ server.PingDue cfg curtime :=
  fun due => due.2.1 expired.2

/-- The counter of an entry that is pinged does not go round. -/
theorem Server.PingDue.queued {cfg : Config} {server : Server} {curtime : UInt64}
    (due : server.PingDue cfg curtime) :
    server.queuedPings.toNat ≤ 6 ∧
      (server.queuedPings + 1).toNat = server.queuedPings.toNat + 1 := by
  have few : server.queuedPings ≤ 6 := UInt32.not_lt.mp fun many => due.2.1 (Or.inr many)
  have bound : server.queuedPings.toNat ≤ 6 := UInt32.le_iff_toNat_le.mp few
  have one : (1 : UInt32).toNat = 1 := rfl
  refine ⟨bound, ?_⟩
  rw [UInt32.toNat_add, one]
  exact Nat.mod_eq_of_lt (by omega)

/-- The conditions of the loop body, whatever stands under them. -/
theorem frame_branches {β : Type} (cfg : Config) (curtime : UInt64) (server : Server)
    (dropped pinged kept : β) :
    (if 60 < curtime - server.lastHeartbeat then
      if server.shutdownIssued || 6 < server.queuedPings then dropped
      else if cfg.heartbeatInterval ≤ curtime - server.lastPing then pinged
      else kept
    else kept) =
      if server.Expired curtime then dropped
      else if server.PingDue cfg curtime then pinged
      else kept := by
  have old : (server.shutdownIssued || decide (6 < server.queuedPings)) = true ↔
      server.shutdownIssued = true ∨ 6 < server.queuedPings := by
    rw [Bool.or_eq_true, decide_eq_true_eq]
  by_cases silent : 60 < curtime - server.lastHeartbeat
  · rw [if_pos silent]
    by_cases expired : server.shutdownIssued = true ∨ 6 < server.queuedPings
    · rw [if_pos (old.mpr expired), if_pos ⟨silent, expired⟩]
    · have fresh : ¬ server.Expired curtime := fun holds => expired holds.2
      rw [if_neg (mt old.mp expired), if_neg fresh]
      exact if_congr ⟨fun late => ⟨silent, expired, late⟩, fun due => due.2.2⟩ rfl rfl
  · have fresh : ¬ server.Expired curtime := fun holds => silent holds.1
    have early : ¬ server.PingDue cfg curtime := fun due => silent due.1
    rw [if_neg silent, if_neg fresh, if_neg early]

theorem runFrameVisit_eq (cfg : Config) (env : Env) (state : FrameState) (server : Server) :
    runFrameVisit cfg env state server =
      if server.Expired (env.time 0) then
        (none, { state with numservers := dropCount state.numservers })
      else if server.PingDue cfg (env.time 0) then
        (some (pingedServer cfg env state.drawn server),
          ⟨state.numservers, state.sent ++ [framePing env state.drawn server], state.drawn + 7⟩)
      else (some server, state) :=
  frame_branches cfg (env.time 0) server _ _ _

theorem runFrameVisit_due {cfg : Config} {env : Env} {server : Server}
    (due : server.PingDue cfg (env.time 0)) (state : FrameState) :
    runFrameVisit cfg env state server =
      (some (pingedServer cfg env state.drawn server),
        ⟨state.numservers, state.sent ++ [framePing env state.drawn server], state.drawn + 7⟩) := by
  rw [runFrameVisit_eq, if_neg fun expired => expired.not_due due, if_pos due]

/-- A visit drops an entry, pings it or leaves it alone. -/
theorem runFrameVisit_cases (cfg : Config) (env : Env) (state : FrameState) (server : Server) :
    (server.Expired (env.time 0) ∧ runFrameVisit cfg env state server =
        (none, { state with numservers := dropCount state.numservers })) ∨
      (server.PingDue cfg (env.time 0) ∧ runFrameVisit cfg env state server =
        (some (pingedServer cfg env state.drawn server),
          ⟨state.numservers, state.sent ++ [framePing env state.drawn server],
            state.drawn + 7⟩)) ∨
      (¬ server.Expired (env.time 0) ∧ ¬ server.PingDue cfg (env.time 0) ∧
        runFrameVisit cfg env state server = (some server, state)) := by
  by_cases expired : server.Expired (env.time 0)
  · exact Or.inl ⟨expired, by rw [runFrameVisit_eq, if_pos expired]⟩
  · by_cases due : server.PingDue cfg (env.time 0)
    · exact Or.inr (Or.inl ⟨due, runFrameVisit_due due state⟩)
    · refine Or.inr (Or.inr ⟨expired, due, ?_⟩)
      rw [runFrameVisit_eq, if_neg expired, if_neg due]

end GSMaster.Registry
