import GSMaster.Enctype.Enctype1
import GSMaster.Library.BlockWriter
import GSMaster.Lists.UdpList
import GSMaster.Text.InfoString

/-!
# The list reply over TCP

`SendGameSpyListToClient` collects the listed servers in a block that it sends
whenever the next record might not fit into a packet. An enciphered list is
collected whole, enciphered, and sent in packets. `inet_ntoa` has one buffer,
so the message about a block that is sent overwrites the address behind it.
-/

namespace GSMaster.Lists

open GSMaster.Text GSMaster.Net GSMaster.Registry GSMaster.Library GSMaster.Enctype

/-- `MAX_GSPY_MTU_SIZE`. -/
def maxGspyMtuSize : Nat := 1022

/-- `GSPY_BUFFER_GROWBY_SIZE`. -/
def gspyBufferGrowbySize : Nat := 511

/-- `GAMESPY_ENCTYPE1`. -/
def gamespyEnctype1 : UInt16 := 1

def listheader : CString := ascii "\\"

def finalstring : CString := ascii "final\\"

/-- `gamespy_filter_t`. -/
structure GamespyFilter where
  gametype : CString
  gamemode : CString
  mapname : CString
  location : Int
  advancedQuery : CString
  deriving DecidableEq, Repr

/-- `InGameSpyFilterStr`. -/
def inGameSpyFilterStr (key val kvp : CString) : Bool :=
  match infoValueForKey kvp key with
  | some temp => stricmpEq val temp
  | none => true

/-- `InGameSpyFilterInt`. -/
def inGameSpyFilterInt (key : CString) (val : Int) (kvp : CString) : Bool :=
  if val = 0 then true
  else match infoValueForKey kvp key with
    | some temp => atoi temp == val
    | none => true

/-- The `continue` statements under `if (filter)`. -/
def inGameSpyFilter (filter : Option GamespyFilter) (serverInfo : CString) : Bool :=
  match filter with
  | none => true
  | some filter =>
      (filter.mapname == [] || inGameSpyFilterStr (ascii "mapname") filter.mapname serverInfo) &&
      (filter.gamemode == [] || inGameSpyFilterStr (ascii "gamemode") filter.gamemode serverInfo) &&
      (filter.gametype == [] || inGameSpyFilterStr (ascii "gametype") filter.gametype serverInfo) &&
      (filter.location == 0 || inGameSpyFilterInt (ascii "location") filter.location serverInfo)

/-- The port that a list gives for a server, in network order. -/
def listedPort (encType : UInt16) (server : Server) : UInt16 :=
  if encType = gamespyEnctype1 then server.gs3dport else server.port

/-- The blocks of a list; `buff` is the block, `maxsize` its capacity. -/
abbrev ListWriter := BlockWriter UInt8

/-- A run that ended early: at a failed `send`, or outside the tables of the encoder. -/
inductive Halt where
  | socketError (list : ListWriter)
  | outOfTable (list : ListWriter)

/-- Send the block if a record of `room` bytes might not fit, unless the list is enciphered. -/
def flushBlock (sink : Sink UInt8) (encType : UInt16) (list : ListWriter) (room : Nat) :
    Except ListWriter ListWriter :=
  if encType = gamespyEnctype1 then .ok list else list.flush sink room maxGspyMtuSize

/-- Whether the block is sent before a record of `room` bytes. -/
def chunkDue (encType : UInt16) (buflen room : Nat) : Bool :=
  encType != gamespyEnctype1 && decide (maxGspyMtuSize ≤ buflen + room)

/-- What the loop does for a server that is listed; `sender` is the address of the client. -/
def listServer (sink : Sink UInt8) (sender : InAddr) (encType : UInt16) (bCompressed : Bool)
    (list : ListWriter) (server : Server) : Except ListWriter ListWriter :=
  if bCompressed then do
    let list ← flushBlock sink encType list 6
    let list := list.reserve 6 gspyBufferGrowbySize
    let list := list.store server.ip.sinAddr.bytes
    return list.store (shortBytes (listedPort encType server))
  else do
    -- `ip` points into `inet_ntoa`, which the message about a chunk calls for the client
    let ip := if chunkDue encType list.block.length (3 + 16 + 1 + 6) then inetNtoa sender
      else inetNtoa server.ip.sinAddr
    let list ← flushBlock sink encType list (3 + 16 + 1 + 6)
    let list := list.reserve (3 + 16 + 1 + 6) gspyBufferGrowbySize
    let list := list.store (ascii "ip\\")
    let list := list.store ip
    let list := list.store (ascii ":")
    return list.store (decimal (ntohs (listedPort encType server)).toNat ++ ascii "\\")

/-- The conditions in the loop. -/
def tcpListed (cfg : Config) (gamename : CString) (filter : Option GamespyFilter)
    (server : Server) : Bool :=
  presentable cfg gamename server && inGameSpyFilter filter server.serverInfo

/-- The loop over the servers. -/
def listLoop (cfg : Config) (sink : Sink UInt8) (sender : InAddr) (gamename : CString)
    (encType : UInt16) (bCompressed : Bool) (filter : Option GamespyFilter) :
    ListWriter → List Server → Except ListWriter ListWriter
  | list, [] => .ok list
  | list, server :: rest =>
      if tcpListed cfg gamename filter server then do
        let list ← listServer sink sender encType bCompressed list server
        listLoop cfg sink sender gamename encType bCompressed filter list rest
      else listLoop cfg sink sender gamename encType bCompressed filter list rest

/-- The closing final string of a list that is not enciphered. -/
def closeList (sink : Sink UInt8) (bCompressed : Bool) (list : ListWriter) :
    Except ListWriter ListWriter :=
  if bCompressed then do
    let list ← list.flush sink 7 maxGspyMtuSize
    let list := list.reserve 7 gspyBufferGrowbySize
    let list := list.store (ascii "\\")
    return list.store finalstring
  else do
    let list ← list.flush sink 6 maxGspyMtuSize
    return list.store finalstring

/-- An enciphered list is never empty: the game would show the master as down. -/
def fillEmpty (list : ListWriter) : ListWriter :=
  if list.block = [] then (list.store (ascii "\\")).store finalstring else list

/-- What `rand()` and the stack hold when a list is enciphered. -/
structure CipherEnv where
  rand : Nat → UInt32
  enc1key : Enc1Key

/-- The part of `SendGameSpyListToClient` after the loop. -/
def sendList (sink : Sink UInt8) (cipher : CipherEnv) (challengeKey : CString) (encType : UInt16)
    (bCompressed : Bool) (list : ListWriter) : Except Halt ListWriter :=
  if encType = gamespyEnctype1 then
    let list := fillEmpty list
    match createEnctype1Buffer challengeKey list.block cipher.rand cipher.enc1key with
    | none => .error (.outOfTable list)
    | some encryptedBuffer =>
        (list.sendChunks sink maxGspyMtuSize (by decide) encryptedBuffer).mapError .socketError
  else (do
    let list ← closeList sink bCompressed list
    list.send sink list.block).mapError .socketError

/-- `SendGameSpyListToClient`; allocations succeed, and `sender` is the address in `from`. -/
def sendGameSpyListToClient (cfg : Config) (sink : Sink UInt8) (cipher : CipherEnv)
    (sender : InAddr) (gamename challengeKey : CString) (encType : UInt16) (bCompressed : Bool)
    (filter : Option GamespyFilter) (servers : List Server) : Except Halt ListWriter := do
  let list := BlockWriter.empty gspyBufferGrowbySize
  if gamename = [] then return list
  else
    let list := if bCompressed then list else list.store listheader
    let list ← (listLoop cfg sink sender gamename encType bCompressed filter list
      servers).mapError .socketError
    sendList sink cipher challengeKey encType bCompressed list

end GSMaster.Lists
