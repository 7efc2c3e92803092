import GSMaster.Lists.UdpList
import GSMaster.Registry.Operations

/-!
# The datagrams the master receives

`Parse_UDP_Packet` and `ParseResponse` decide which handler a datagram goes to.
The buffer is the list of the bytes received; it is zero after them.
-/

namespace GSMaster.Packets

open GSMaster.Text GSMaster.Net GSMaster.Lists GSMaster.Registry

/-! ## The newline clean-up -/

/--
The first loop of `ParseResponse` on the bytes that are left. A newline is
overwritten by shifting the rest of the datagram down, whose last byte stays in
place and is doubled; the loop then goes on two bytes further.
-/
def cleanLoop : Nat → List UInt8 → List UInt8
  | 0, data => data
  | _ + 1, [] => []
  | fuel + 1, c :: rest =>
      if c = 0 then c :: rest
      else if c = newline then
        match rest with
        | [] => [c]
        | [x] => [x, x]
        | x :: y :: more =>
            x :: y :: cleanLoop fuel (more ++ [(y :: more).getLast (List.cons_ne_nil y more)])
      else c :: cleanLoop fuel rest

def cleanNewlines (data : List UInt8) : List UInt8 :=
  cleanLoop data.length data

theorem cleanLoop_length (fuel : Nat) (data : List UInt8) :
    (cleanLoop fuel data).length = data.length := by
  induction fuel generalizing data with
  | zero => rfl
  | succ fuel ih =>
      cases data with
      | nil => rfl
      | cons c rest =>
          unfold cleanLoop
          split
          · rfl
          · split
            · split
              · rfl
              · rfl
              · simp only [List.length_cons, ih, List.length_append, List.length_nil]
            · rw [List.length_cons, List.length_cons, ih]

@[simp] theorem cleanNewlines_length (data : List UInt8) :
    (cleanNewlines data).length = data.length :=
  cleanLoop_length _ _

/-! ## The dispatch -/

/-- What a datagram asks for, with the arguments of the handler that it goes to. -/
inductive Command where
  | heartBeat (data : List UInt8)
  | parseUDPMSList (tmp : List UInt8) (gamename : CString) (size : Int)
  | sendUDPServerList (gamename : CString)
  | rcon (queryString : List UInt8)
  | ack (dataPacket : List UInt8) (dglen : UInt64)
  | queueShutdown
  | addServersFromListExecute (fileBuffer : CString)
  | qspyVerify
  | ping
  | runt
  deriving DecidableEq, Repr

/-- `heartbeat\%d\gamename\...` with the port that the datagram came from. -/
def heartbeatText (sender : SockaddrIn) (gamename : CString) : CString :=
  ascii "heartbeat\\" ++ decimal (ntohs sender.sinPort).toNat ++ ascii "\\gamename\\" ++ gamename

/-- The header of a list reply, without its last byte, starts the text. -/
def startsWith (data : List UInt8) (text : CString) (count : Nat) : Bool :=
  strnicmpEq (cstr data) text count

/-- `dglen - sizeof(header)` passed as an `int`. -/
def listSize (dglen header : Nat) : Int :=
  (dglen : Int) - header

/-- The part of `ParseResponse` for datagrams with the out-of-band header. -/
def parseOutOfBand (sender : SockaddrIn) (data : List UInt8) : Option Command :=
  let dglen := data.length
  if startsWith data q2ReplyHdr 11 then
    some (.parseUDPMSList (data.drop 12) (ascii "quake2") (listSize dglen 12))
  else if startsWith data kpReplyHdr 7 then
    some (.parseUDPMSList (data.drop 7) (ascii "kingpin") (listSize dglen 8))
  else if startsWith data hwReplyHdr 6 then
    some (.parseUDPMSList (data.drop 6) (ascii "hexenworld") (listSize dglen 7))
  else if startsWith data qwReplyHdr 5 || startsWith data qwReplyHdr2 5 then
    some (.parseUDPMSList (data.drop 5) (ascii "quakeworld") (listSize dglen 6))
  else if startsWith data (oobSeq ++ ascii "getservers daikatana") 24 then
    some (.sendUDPServerList (ascii "daikatana"))
  else if startsWith data (oobSeq ++ ascii "query") 9 ||
      startsWith data (oobSeq ++ ascii "getservers") 14 then
    some (.sendUDPServerList (ascii "quake2"))
  else if startsWith data (oobSeq ++ ascii "rcon") 8 then some (.rcon (data.drop 9))
  else if startsWith data (oobSeq ++ ascii "heartbeat") 13 then
    some (.heartBeat (heartbeatText sender (ascii "quake2")))
  else none

/-- The last part of `ParseResponse`, with `cmd` past the header. -/
def parseCommand (data cmd : List UInt8) : Command :=
  if startsWith cmd (ascii "ping") 4 then .ping
  else if startsWith cmd (ascii "heartbeat") 9 then .heartBeat cmd
  else if startsWith cmd (ascii "ack") 3 then .ack data data.length.toUInt64
  else if startsWith cmd (ascii "shutdown") 8 then .queueShutdown
  else .ack data data.length.toUInt64

/-- `ParseResponse` of the bytes received; the lengths it uses are those of the datagram. -/
def parseResponse (sender : SockaddrIn) (received : List UInt8) : Command :=
  let data := cleanNewlines received
  if memcmpEq data [255, 97] then .heartBeat (heartbeatText sender (ascii "hexenworld"))
  else if memcmpEq data [97] then .heartBeat (heartbeatText sender (ascii "quakeworld"))
  else if memcmpEq data oobSeq then
    (parseOutOfBand sender data).getD (parseCommand data (data.drop 4))
  else if startsWith data (ascii "query") 5 then .sendUDPServerList (ascii "quake2")
  else parseCommand data (data.drop 1)

/-! ### Short datagrams -/

def hwHwqMsg : List UInt8 := [255, 99, 0]

def hwGspyMsg : List UInt8 := [255, 99, 10]

def qwMsg : List UInt8 := [99, 10]

def hwServerMsg : List UInt8 := [255, 107, 0]

def qwServerMsg : List UInt8 := [107, 0]

def hwServerShutdown : List UInt8 := [255, 67, 10]

def qwServerShutdown : List UInt8 := [67, 10]

def qspyReqMsg : List UInt8 := [68, 10]

/-- The line of a list file that stands for a server that sends a ping. -/
def pingLine (sender : SockaddrIn) (gamename : CString) : CString :=
  inetNtoa sender.sinAddr ++ ascii ":" ++ decimal (ntohs sender.sinPort).toNat ++ ascii "," ++
    gamename ++ ascii "\n"

/-- `GAMESPY_STATE_SHUTDOWN_STRING` in the heartbeat that stands for a shutdown. -/
def shutdownText (sender : SockaddrIn) (gamename : CString) : CString :=
  heartbeatText sender gamename ++ ascii "\\statechanged\\2"

/-- `Parse_UDP_Packet`. -/
def parseUDPPacket (sender : SockaddrIn) (received : List UInt8) : Command :=
  if 4 < received.length then parseResponse sender received
  else if memcmpEq received hwHwqMsg then .sendUDPServerList (ascii "hexenworld")
  else if memcmpEq received hwGspyMsg then .sendUDPServerList (ascii "hexenworld")
  else if memcmpEq received qwMsg then .sendUDPServerList (ascii "quakeworld")
  else if memcmpEq received hwServerMsg then
    .addServersFromListExecute (pingLine sender (ascii "hexenworld"))
  else if memcmpEq received qwServerMsg then
    .addServersFromListExecute (pingLine sender (ascii "quakeworld"))
  else if memcmpEq received hwServerShutdown then
    .heartBeat (shutdownText sender (ascii "hexenworld"))
  else if memcmpEq received qwServerShutdown then
    .heartBeat (shutdownText sender (ascii "quakeworld"))
  else if memcmpEq received qspyReqMsg then .qspyVerify
  else .runt

/-- The operation on the registry that a command is, if it is one. -/
def Command.operation (sender : SockaddrIn) : Command → Option Operation
  | .heartBeat data => some (.heartBeat sender data)
  | .parseUDPMSList tmp gamename size => some (.parseUDPMSList tmp gamename size)
  | .ack dataPacket dglen => some (.ack sender dataPacket dglen)
  | .queueShutdown => some (.queueShutdown sender)
  | .addServersFromListExecute fileBuffer => some (.addServersFromListExecute fileBuffer none)
  | .sendUDPServerList _ => none
  | .rcon _ => none
  | .qspyVerify => none
  | .ping => none
  | .runt => none

/-- Where the command of a datagram with more than four bytes comes from. -/
theorem parseResponse_cases (sender : SockaddrIn) (received : List UInt8) :
    (∃ gamename, parseResponse sender received = .heartBeat (heartbeatText sender gamename)) ∨
      parseOutOfBand sender (cleanNewlines received) = some (parseResponse sender received) ∨
      parseResponse sender received = .sendUDPServerList (ascii "quake2") ∨
      ∃ cmd, parseResponse sender received = parseCommand (cleanNewlines received) cmd := by
  unfold parseResponse
  simp only
  split
  · exact Or.inl ⟨_, rfl⟩
  · split
    · exact Or.inl ⟨_, rfl⟩
    · split
      · cases special : parseOutOfBand sender (cleanNewlines received) with
        | none => exact Or.inr (Or.inr (Or.inr ⟨_, rfl⟩))
        | some command => exact Or.inr (Or.inl rfl)
      · split
        · exact Or.inr (Or.inr (Or.inl rfl))
        · exact Or.inr (Or.inr (Or.inr ⟨_, rfl⟩))

/-- The out-of-band commands are lists, requests for lists, `rcon` and heartbeats. -/
theorem parseOutOfBand_cases {sender : SockaddrIn} {data : List UInt8} {command : Command}
    (parsed : parseOutOfBand sender data = some command) :
    (∃ tmp gamename size, command = .parseUDPMSList tmp gamename size) ∨
      (∃ gamename, command = .sendUDPServerList gamename) ∨
      (∃ queryString, command = .rcon queryString) ∨
      command = .heartBeat (heartbeatText sender (ascii "quake2")) := by
  unfold parseOutOfBand at parsed
  simp only at parsed
  repeat' split at parsed
  all_goals cases parsed
  · exact Or.inl ⟨_, _, _, rfl⟩
  · exact Or.inl ⟨_, _, _, rfl⟩
  · exact Or.inl ⟨_, _, _, rfl⟩
  · exact Or.inl ⟨_, _, _, rfl⟩
  · exact Or.inr (Or.inl ⟨_, rfl⟩)
  · exact Or.inr (Or.inl ⟨_, rfl⟩)
  · exact Or.inr (Or.inr (Or.inl ⟨_, rfl⟩))
  · exact Or.inr (Or.inr (Or.inr rfl))

/-- The other commands; what is none of them goes to `Ack`. -/
theorem parseCommand_cases (data cmd : List UInt8) :
    parseCommand data cmd = .ping ∨ parseCommand data cmd = .heartBeat cmd ∨
      parseCommand data cmd = .queueShutdown ∨
      parseCommand data cmd = .ack data data.length.toUInt64 := by
  unfold parseCommand
  split
  · exact Or.inl rfl
  · split
    · exact Or.inr (Or.inl rfl)
    · split
      · exact Or.inr (Or.inr (Or.inr rfl))
      · split
        · exact Or.inr (Or.inr (Or.inl rfl))
        · exact Or.inr (Or.inr (Or.inr rfl))

/-- A reply that is handed to `Ack` is the cleaned datagram, with its length. -/
theorem parseResponse_ack {sender : SockaddrIn} {received dataPacket : List UInt8} {dglen : UInt64}
    (handed : parseResponse sender received = .ack dataPacket dglen) :
    dataPacket = cleanNewlines received ∧ dglen = received.length.toUInt64 := by
  rcases parseResponse_cases sender received with
    ⟨_, heart⟩ | special | query | ⟨cmd, command⟩
  · rw [heart] at handed
    cases handed
  · rw [handed] at special
    rcases parseOutOfBand_cases special with ⟨_, _, _, other⟩ | ⟨_, other⟩ | ⟨_, other⟩ | other
    all_goals cases other
  · rw [query] at handed
    cases handed
  · rw [command] at handed
    rcases parseCommand_cases (cleanNewlines received) cmd with same | same | same | same
    all_goals
      rw [same] at handed
      cases handed
    rw [cleanNewlines_length]
    exact ⟨rfl, rfl⟩

end GSMaster.Packets
