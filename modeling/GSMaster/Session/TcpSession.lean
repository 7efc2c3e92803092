import GSMaster.Games.CrossCheck
import GSMaster.Lists.TcpList

/-!
# A TCP session

`GameSpy_Parse_TCP_Packet` serves one connection from the challenge to the
closing of the socket, and hands list requests to `GameSpy_Parse_List_Request`.
A session is the list of what it does on its socket. Texts are stored as if
every buffer were large enough.
-/

namespace GSMaster.Session

open GSMaster.Text GSMaster.Net GSMaster.Registry GSMaster.Games GSMaster.Lists

/-- The errors of `recv` that are told apart. -/
inductive SocketError where
  | wouldBlock
  | other
  deriving DecidableEq, Repr

inductive RecvOutcome where
  | data (bytes : List UInt8)
  | socketError (error : SocketError)
  deriving DecidableEq, Repr

/--
What a connection brings: its address, the values of `rand()`, whether the
allocations and the first calls on the socket succeed, and the outcome of each
`recv` in turn.
-/
structure Client where
  sinAddr : InAddr
  rand : Nat → Nat
  challengeKeyAllocated : Bool
  challengeBufferAllocated : Bool
  nonBlocking : Bool
  challengeSent : Bool
  recv : Nat → RecvOutcome

/-- `bMotd` and `bLogTCP`. -/
structure TcpOptions where
  bMotd : Bool
  bLogTCP : Bool

/-- A call of `SendGameSpyListToClient` for the client of the session. -/
structure ListCall where
  gamename : CString
  challengeKey : CString
  encType : UInt16
  bCompressed : Bool
  filter : GamespyFilter
  deriving DecidableEq, Repr

/-- `fault` is a write into a string literal or a read through NULL; nothing follows it. -/
inductive SocketEvent where
  | send (text : CString)
  | recv
  | msleep (ms : Nat)
  | motd (gamename : CString)
  | log (clientName gamename : CString)
  | list (call : ListCall)
  | close
  | fault
  deriving DecidableEq, Repr

def totalRetry : Nat := 10

def challengeHeader : CString := ascii "\\basic\\\\secure\\"

def finalstringerror : CString := ascii "\\final\\"

def emptyFilter : GamespyFilter := ⟨[], [], [], 0, []⟩

/-- The filter that the text after the game name asks for. -/
def requestFilter (queryPtr : CString) : GamespyFilter where
  mapname := ((infoValueForKey queryPtr (ascii "mapname")).map (strlcpy [] · 64)).getD []
  gametype := ((infoValueForKey queryPtr (ascii "gametype")).map (strlcpy [] · 64)).getD []
  gamemode := ((infoValueForKey queryPtr (ascii "gamemode")).map (strlcpy [] · 64)).getD []
  location := ((infoValueForKey queryPtr (ascii "location")).map atoi).getD 0
  advancedQuery := ((infoValueForKey queryPtr (ascii "where")).map (strlcpy [] · 4000)).getD []

/-- What `GameSpy_Parse_List_Request` reads in the request; `nameless` leaves `gamename` NULL. -/
inductive ListRequest where
  | error
  | nameless
  | named (gamename : CString) (bCompressed : Bool) (queryPtr : Option CString)
  deriving DecidableEq, Repr

/-- The token after the skipped text. -/
def requestedGame (ret : CString) (bCompressed : Bool) : ListRequest :=
  match strtok [backslash, newline] (some ret) with
  | (none, _) => .nameless
  | (some gamename, queryPtr) =>
      if gamename = [] then .error else .named gamename bCompressed queryPtr

/-- The part of `GameSpy_Parse_List_Request` that reads the request. -/
def listRequest (querystring : CString) : ListRequest :=
  if !contains querystring (ascii "\\list\\") || !contains querystring (ascii "\\gamename\\") then
    .error
  else match strstr (ascii "\\list\\cmp\\gamename\\") querystring with
    | some ret => if ret.length < 19 then .error else requestedGame (ret.drop 19) true
    | none =>
        match strstr (ascii "\\list\\") querystring with
        | none => .error
        | some ret =>
            if ret.length < 6 then .error
            else match strstr (ascii "gamename\\") (ret.drop 6) with
              | none => .error
              | some ret => if ret.length < 9 then .error else requestedGame (ret.drop 9) false

def maraakateOrgIp : CString := ascii "52.240.58.168"

/-- Whether a request is logged: not one of the master's own machine. -/
def logsRequest (options : TcpOptions) (sinAddr : InAddr) : Bool :=
  options.bLogTCP && inetNtoa sinAddr != maraakateOrgIp && inetNtoa sinAddr != ascii "127.0.0.1"

/-- `GameSpy_Parse_List_Request`; no events where it reads through NULL. -/
def gameSpyParseListRequest (options : TcpOptions) (sinAddr : InAddr)
    (clientName querystring challengeKey : CString) (encType : UInt16) :
    Option (List SocketEvent) :=
  match listRequest querystring with
  | .error => some [.send finalstringerror]
  | .nameless => none
  | .named gamename bCompressed queryPtr =>
      some ((if options.bMotd then [.motd gamename] else []) ++
        (if logsRequest options sinAddr then [.log clientName gamename] else []) ++
        [.list ⟨gamename, challengeKey, encType, bCompressed,
          (queryPtr.map requestFilter).getD emptyFilter⟩])

/-- A receive loop: its events, the packet, the calls made so far, and `lastWSAError`. -/
structure Received where
  events : List SocketEvent
  packet : Option (List UInt8)
  calls : Nat
  lastWSAError : Option SocketError

/--
The loops at `retryIncomingTcpValidate` and `retryIncomingTcpList`. The first
stores the error of a failed call in `lastWSAError` before it tests it; the
second tests what the first has left there.
-/
def receive (recv : Nat → RecvOutcome) (stores : Bool) :
    Nat → Nat → Nat → Option SocketError → Received
  | retries, calls, sleepMs, lastWSAError =>
      match recv calls with
      | .data bytes => ⟨[.recv], some bytes, calls + 1, lastWSAError⟩
      | .socketError error =>
          let lastWSAError := if stores then some error else lastWSAError
          match retries with
          | 0 => ⟨[.recv], none, calls + 1, lastWSAError⟩
          | retries + 1 =>
              if lastWSAError = some .wouldBlock then
                let later := receive recv stores retries (calls + 1) (sleepMs + 10) lastWSAError
                { later with events := .recv :: .msleep sleepMs :: later.events }
              else ⟨[.recv], none, calls + 1, lastWSAError⟩

/-- The text in `challengeBuffer`, of which `Com_sprintf` keeps 82 characters. -/
def challengeText (challengeKey : CString) : CString :=
  (challengeHeader ++ challengeKey).take 82

/-- `encodetype` of the first packet. -/
def encodeType (incomingTcpValidate : CString) : UInt16 :=
  match infoValueForKey incomingTcpValidate (ascii "enctype") with
  | none => 0
  | some enctypeKey =>
      if enctypeKey = [] then 0
      else
        let encodeTypeTest := atoi enctypeKey
        if 65535 < encodeTypeTest ∨ encodeTypeTest < 0 then 65535
        else encodeTypeTest.toNat.toUInt16

/-- The special hack for unreal, which does not send a list request. -/
def appendUnrealList (incomingTcpValidate : CString) : CString :=
  if contains incomingTcpValidate (ascii "\\gamename\\unreal\\") then
    incomingTcpValidate ++ ascii "\\list\\gamename\\unreal\\"
  else incomingTcpValidate

/-- The end of a session that ran `GameSpy_Parse_List_Request`. -/
def closeAfter : Option (List SocketEvent) → List SocketEvent
  | none => [.fault]
  | some events => events ++ [.close]

/-- The second packet of the older style of request. -/
def parseTcpList (options : TcpOptions) (sinAddr : InAddr) (clientName challengeKey : CString)
    (encodetype : UInt16) (packet : List UInt8) : List SocketEvent :=
  let incomingTcpList := cstr packet
  if incomingTcpList = [] then [.close]
  else if 4 < packet.length then
    if contains incomingTcpList (ascii "\\list\\") &&
        contains incomingTcpList (ascii "\\gamename\\") then
      closeAfter (gameSpyParseListRequest options sinAddr clientName incomingTcpList challengeKey
        encodetype)
    else [.send finalstringerror, .close]
  else [.close]

/-- What follows the cross check of the first packet. -/
def serveRequest (options : TcpOptions) (client : Client) (first : Received)
    (clientName incomingTcpValidate challengeKey : CString) (encodetype : UInt16) :
    List SocketEvent :=
  let incomingTcpValidate := appendUnrealList incomingTcpValidate
  if contains incomingTcpValidate (ascii "\\list\\") then
    closeAfter (gameSpyParseListRequest options client.sinAddr clientName incomingTcpValidate
      challengeKey encodetype)
  else
    let second := receive client.recv false totalRetry first.calls 50 first.lastWSAError
    second.events ++ match second.packet with
      | none => [.close, .close]
      | some packet =>
          parseTcpList options client.sinAddr clientName challengeKey encodetype packet

/-- What follows the receipt of the first packet. -/
def parseTcpValidate (options : TcpOptions) (cfg : Config) (client : Client)
    (challengeBuffer challengeKey : CString) (first : Received) (packet : List UInt8) :
    List SocketEvent :=
  let incomingTcpValidate := cstr packet
  if incomingTcpValidate = [] then [.close]
  else
    let clientName :=
      (infoValueForKey incomingTcpValidate (ascii "clientname")).getD (ascii "Unknown User")
    let encodetype := encodeType incomingTcpValidate
    -- the message for this case is formatted into the literal of its own text
    if gamespyEnctype1 < encodetype then [.fault]
    else
      let check := gameSpyChallengeCrossCheck cfg.validationRequired challengeBuffer
        incomingTcpValidate challengeKey false encodetype
      if !check.passed then [.close]
      else
        serveRequest options client first clientName incomingTcpValidate check.challengeKey
          encodetype

/-- The first receive loop and what follows it. -/
def receiveTcpValidate (options : TcpOptions) (cfg : Config) (client : Client)
    (challengeBuffer challengeKey : CString) : List SocketEvent :=
  let first := receive client.recv true totalRetry 0 50 none
  first.events ++ match first.packet with
    | none => [.close, .close]
    | some packet => parseTcpValidate options cfg client challengeBuffer challengeKey first packet

/-- `GameSpy_Parse_TCP_Packet`. -/
def gameSpyParseTCPPacket (options : TcpOptions) (cfg : Config) (client : Client) :
    List SocketEvent :=
  if !client.challengeKeyAllocated || !client.challengeBufferAllocated then [.close]
  else
    let challengeKey := gameSpyCreateChallengeKey client.rand 6
    if !client.nonBlocking then [.close]
    else
      let challengeBuffer := challengeText challengeKey
      .send challengeBuffer ::
        if !client.challengeSent then [.close]
        else receiveTcpValidate options cfg client challengeBuffer challengeKey

end GSMaster.Session
