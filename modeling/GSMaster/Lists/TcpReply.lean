import GSMaster.Lists.TcpList
import GSMaster.Text.Decimal

/-!
# What a list reply over TCP says

The text of a list is stated here without blocks: the records of the listed
servers in list order and a closing string. However the blocks are cut, their
bytes in the order they are sent are that text.
-/

namespace GSMaster.Lists

open GSMaster.Text GSMaster.Net GSMaster.Registry GSMaster.Library GSMaster.Enctype

/-! ## The text of a list -/

/-- Some field of the filter that is set is found in the server's reply with another value. -/
def GamespyFilter.Rejects (filter : GamespyFilter) (serverInfo : CString) : Prop :=
  (filter.mapname ≠ [] ∧ ∃ value ∈ infoValueForKey serverInfo (ascii "mapname"),
      stricmpEq filter.mapname value = false) ∨
    (filter.gamemode ≠ [] ∧ ∃ value ∈ infoValueForKey serverInfo (ascii "gamemode"),
      stricmpEq filter.gamemode value = false) ∨
    (filter.gametype ≠ [] ∧ ∃ value ∈ infoValueForKey serverInfo (ascii "gametype"),
      stricmpEq filter.gametype value = false) ∨
    (filter.location ≠ 0 ∧ ∃ value ∈ infoValueForKey serverInfo (ascii "location"),
      atoi value ≠ filter.location)

instance (filter : GamespyFilter) (serverInfo : CString) :
    Decidable (filter.Rejects serverInfo) :=
  inferInstanceAs (Decidable (_ ∨ _))

/-- The servers that a request for a game is answered with. -/
def Requested (cfg : Config) (gamename : CString) (filter : Option GamespyFilter)
    (server : Server) : Prop :=
  cfg.minimumHeartbeats ≤ server.heartbeats ∧ server.validated = true ∧
    server.shutdownIssued = false ∧ stricmpEq server.gamename gamename = true ∧
    ∀ f ∈ filter, ¬ f.Rejects server.serverInfo

instance (cfg : Config) (gamename : CString) (filter : Option GamespyFilter) :
    DecidablePred (Requested cfg gamename filter) :=
  fun _ => inferInstanceAs (Decidable (_ ∧ _))

/-- The address and the port that a list names. -/
abbrev Entry := InAddr × UInt16

/-- What a list should say of a server. -/
def entryOf (encType : UInt16) (server : Server) : Entry :=
  (server.ip.sinAddr, listedPort encType server)

/-- The bytes of an entry in a list. -/
def entryBytes (bCompressed : Bool) (entry : Entry) : List UInt8 :=
  if bCompressed then entry.1.bytes ++ shortBytes entry.2
  else ascii "ip\\" ++ inetNtoa entry.1 ++ ascii ":" ++ decimal (ntohs entry.2).toNat ++ ascii "\\"

/-- The bytes of one server in a list. -/
def record (encType : UInt16) (bCompressed : Bool) (server : Server) : List UInt8 :=
  entryBytes bCompressed (entryOf encType server)

def closing (bCompressed : Bool) : List UInt8 :=
  if bCompressed then ascii "\\final\\" else ascii "final\\"

/-- The text of a list; an enciphered one is closed only where it is empty. -/
def listText (encType : UInt16) (bCompressed : Bool) (entries : List Entry) : List UInt8 :=
  let text := (if bCompressed then [] else ascii "\\") ++ entries.flatMap (entryBytes bCompressed)
  if encType = gamespyEnctype1 then if text = [] then ascii "\\final\\" else text
  else text ++ closing bCompressed

/-- The bytes of a text in an encoding; there are none where the encoder leaves its tables. -/
def encoded (cipher : CipherEnv) (challengeKey : CString) (encType : UInt16)
    (text : List UInt8) : Option (List UInt8) :=
  if encType = gamespyEnctype1 then
    createEnctype1Buffer challengeKey text cipher.rand cipher.enc1key
  else some text

/-- The servers of a list, in list order. -/
def listedServers (cfg : Config) (gamename : CString) (filter : Option GamespyFilter)
    (servers : List Server) : List Server :=
  servers.filter fun server => Requested cfg gamename filter server

/-- The whole reply that a request should get. -/
def reply (cfg : Config) (cipher : CipherEnv) (gamename challengeKey : CString)
    (encType : UInt16) (bCompressed : Bool) (filter : Option GamespyFilter)
    (servers : List Server) : Option (List UInt8) :=
  encoded cipher challengeKey encType (listText encType bCompressed
    ((listedServers cfg gamename filter servers).map (entryOf encType)))

/-! ## The entries that are named -/

/-- What is reserved for a record. -/
def recordRoom (bCompressed : Bool) : Nat :=
  if bCompressed then 6 else 3 + 16 + 1 + 6

/-- Whether the text at `ip` has been overwritten before it is copied. -/
def overwritten (encType : UInt16) (bCompressed : Bool) (buflen : Nat) : Bool :=
  !bCompressed && chunkDue encType buflen (recordRoom bCompressed)

/-- The entry that is stored for a server behind `buflen` bytes of the block. -/
def namedEntry (sender : InAddr) (encType : UInt16) (bCompressed : Bool) (buflen : Nat)
    (server : Server) : Entry :=
  (if overwritten encType bCompressed buflen then sender else server.ip.sinAddr,
    listedPort encType server)

/-- The length of the block behind the record of a server. -/
def nextBuflen (sender : InAddr) (encType : UInt16) (bCompressed : Bool) (buflen : Nat)
    (server : Server) : Nat :=
  (if chunkDue encType buflen (recordRoom bCompressed) then 0 else buflen) +
    (entryBytes bCompressed (namedEntry sender encType bCompressed buflen server)).length

/-- The entries that are stored for the servers of a list. -/
def namedEntries (sender : InAddr) (encType : UInt16) (bCompressed : Bool) :
    Nat → List Server → List Entry
  | _, [] => []
  | buflen, server :: rest =>
      namedEntry sender encType bCompressed buflen server ::
        namedEntries sender encType bCompressed
          (nextBuflen sender encType bCompressed buflen server) rest

/-- The servers of a plain uncompressed list whose records begin a new block. -/
def openers (sender : InAddr) (encType : UInt16) (bCompressed : Bool) :
    Nat → List Server → List Server
  | _, [] => []
  | buflen, server :: rest =>
      let later := openers sender encType bCompressed
        (nextBuflen sender encType bCompressed buflen server) rest
      if overwritten encType bCompressed buflen then server :: later else later

/-- The length of the header of a list. -/
def headerLength (bCompressed : Bool) : Nat :=
  if bCompressed then 0 else 1

/-- What holds of the listed servers holds of the named entries where it does of the openers'. -/
theorem forall_namedEntries_iff {sender : InAddr} {encType : UInt16} {bCompressed : Bool}
    {P : Entry → Prop} {listed : List Server} (own : ∀ server ∈ listed, P (entryOf encType server))
    (buflen : Nat) :
    (∀ entry ∈ namedEntries sender encType bCompressed buflen listed, P entry) ↔
      ∀ server ∈ openers sender encType bCompressed buflen listed,
        P (sender, listedPort encType server) := by
  induction listed generalizing buflen with
  | nil => exact iff_of_true (fun _ member => nomatch member) fun _ member => nomatch member
  | cons server rest ih =>
      have later := ih (fun other member => own other (List.mem_cons_of_mem _ member))
        (nextBuflen sender encType bCompressed buflen server)
      rw [namedEntries, openers, List.forall_mem_cons, later, namedEntry]
      by_cases due : overwritten encType bCompressed buflen = true
      · rw [if_pos due, if_pos due, List.forall_mem_cons]
      · rw [if_neg due, if_neg due]
        exact and_iff_right (own server (List.mem_cons_self ..))

/-- A list names its servers exactly where each opener has the address of the client. -/
theorem namedEntries_eq_iff {sender : InAddr} {encType : UInt16} {bCompressed : Bool}
    (buflen : Nat) (listed : List Server) :
    namedEntries sender encType bCompressed buflen listed = listed.map (entryOf encType) ↔
      ∀ server ∈ openers sender encType bCompressed buflen listed,
        server.ip.sinAddr = sender := by
  induction listed generalizing buflen with
  | nil => exact iff_of_true rfl fun _ member => nomatch member
  | cons server rest ih =>
      rw [namedEntries, openers, List.map_cons, List.cons.injEq, ih, namedEntry, entryOf]
      by_cases due : overwritten encType bCompressed buflen = true
      · rw [if_pos due, if_pos due, List.forall_mem_cons, Prod.mk.injEq, and_iff_left rfl, eq_comm]
      · rw [if_neg due, if_neg due]
        exact and_iff_right rfl

/-- Only plain lists in the uncompressed style have openers. -/
theorem openers_eq_nil {encType : UInt16} {bCompressed : Bool}
    (spared : encType = gamespyEnctype1 ∨ bCompressed = true) (sender : InAddr) (buflen : Nat)
    (listed : List Server) : openers sender encType bCompressed buflen listed = [] := by
  have kept (length : Nat) : overwritten encType bCompressed length = false := by
    rcases spared with rfl | rfl
    · rw [overwritten, chunkDue, bne_self_eq_false, Bool.false_and, Bool.and_false]
    · rfl
  induction listed generalizing buflen with
  | nil => rfl
  | cons server rest ih =>
      rw [openers, kept, ih]
      rfl

/-! ## The loop and the terminator -/

theorem inGameSpyFilterStr_eq_false {key val kvp : CString} :
    inGameSpyFilterStr key val kvp = false ↔
      ∃ value ∈ infoValueForKey kvp key, stricmpEq val value = false := by
  unfold inGameSpyFilterStr
  cases infoValueForKey kvp key with
  | none => simp
  | some temp => simp

theorem inGameSpyFilterInt_eq_false {key kvp : CString} {val : Int} (set : val ≠ 0) :
    inGameSpyFilterInt key val kvp = false ↔
      ∃ value ∈ infoValueForKey kvp key, atoi value ≠ val := by
  unfold inGameSpyFilterInt
  rw [if_neg set]
  cases infoValueForKey kvp key with
  | none => simp
  | some temp => simp

theorem inGameSpyFilter_some {filter : GamespyFilter} {serverInfo : CString} :
    inGameSpyFilter (some filter) serverInfo = true ↔ ¬ filter.Rejects serverInfo := by
  have location : (filter.location == 0 ||
      inGameSpyFilterInt (ascii "location") filter.location serverInfo) = false ↔
      filter.location ≠ 0 ∧ ∃ value ∈ infoValueForKey serverInfo (ascii "location"),
        atoi value ≠ filter.location := by
    rw [Bool.or_eq_false_iff, beq_eq_false_iff_ne]
    exact and_congr_right inGameSpyFilterInt_eq_false
  have text : ∀ key value : CString,
      (value == [] || inGameSpyFilterStr key value serverInfo) = false ↔
        value ≠ [] ∧ ∃ v ∈ infoValueForKey serverInfo key, stricmpEq value v = false := by
    intro key value
    rw [Bool.or_eq_false_iff, beq_eq_false_iff_ne, inGameSpyFilterStr_eq_false]
  rw [← Bool.not_eq_false, not_iff_not]
  unfold inGameSpyFilter GamespyFilter.Rejects
  simp only [Bool.and_eq_false_iff, location, text, or_assoc]

theorem tcpListed_iff {cfg : Config} {gamename : CString} {filter : Option GamespyFilter}
    {server : Server} :
    tcpListed cfg gamename filter server = true ↔ Requested cfg gamename filter server := by
  have filtered : inGameSpyFilter filter server.serverInfo = true ↔
      ∀ f ∈ filter, ¬ f.Rejects server.serverInfo := by
    cases filter with
    | none => simp [inGameSpyFilter]
    | some filter => simp [inGameSpyFilter_some]
  unfold tcpListed presentable Requested
  simp only [Bool.and_eq_true, decide_eq_true_eq, Bool.not_eq_true', filtered]
  tauto

theorem filter_tcpListed (cfg : Config) (gamename : CString) (filter : Option GamespyFilter)
    (servers : List Server) :
    servers.filter (tcpListed cfg gamename filter) =
      servers.filter fun server => Requested cfg gamename filter server :=
  List.filter_congr fun server _ => by
    rw [Bool.eq_iff_iff, decide_eq_true_eq]
    exact tcpListed_iff

/-- The loop over TCP writes the records of the servers that pass its conditions, and no others. -/
theorem listLoop_eq (cfg : Config) (sink : Sink UInt8) (sender : InAddr) (gamename : CString)
    (encType : UInt16) (bCompressed : Bool) (filter : Option GamespyFilter) (list : ListWriter)
    (servers : List Server) :
    listLoop cfg sink sender gamename encType bCompressed filter list servers =
      (servers.filter (tcpListed cfg gamename filter)).foldlM
        (listServer sink sender encType bCompressed) list := by
  induction servers generalizing list with
  | nil => rfl
  | cons server rest ih =>
      unfold listLoop
      by_cases listed : tcpListed cfg gamename filter server = true
      · rw [if_pos listed, List.filter_cons_of_pos listed, List.foldlM_cons]
        cases listServer sink sender encType bCompressed list server with
        | error failed => rfl
        | ok next => exact ih next
      · rw [if_neg listed, List.filter_cons_of_neg listed]
        exact ih list

theorem inetNtoa_length_le (addr : InAddr) : (inetNtoa addr).length ≤ 15 := by
  have byte : ∀ value : UInt8, (decimal value.toNat).length ≤ 3 := by
    intro value
    have := value.toNat_lt
    exact decimal_length_le (by decide) (by omega)
  have a := byte addr.a
  have b := byte addr.b
  have c := byte addr.c
  have d := byte addr.d
  simp only [inetNtoa, List.length_append]
  have point : (ascii ".").length = 1 := rfl
  omega

theorem portText_length_le (port : UInt16) : (decimal (ntohs port).toNat).length ≤ 5 := by
  have := (ntohs port).toNat_lt
  exact decimal_length_le (by decide) (by omega)

/-- The pieces of an entry in the order in which they are stored. -/
def entryPieces (bCompressed : Bool) (entry : Entry) : List (List UInt8) :=
  if bCompressed then [entry.1.bytes, shortBytes entry.2]
  else [ascii "ip\\", inetNtoa entry.1, ascii ":", decimal (ntohs entry.2).toNat ++ ascii "\\"]

theorem entryPieces_flatten (bCompressed : Bool) (entry : Entry) :
    (entryPieces bCompressed entry).flatten = entryBytes bCompressed entry := by
  unfold entryPieces entryBytes
  cases bCompressed <;> simp

theorem entryBytes_length_le (entry : Entry) : (entryBytes false entry).length ≤ 25 := by
  have ip := inetNtoa_length_le entry.1
  have port := portText_length_le entry.2
  have key : (ascii "ip\\").length = 3 := rfl
  have colon : (ascii ":").length = 1 := rfl
  have separator : (ascii "\\").length = 1 := rfl
  rw [← entryPieces_flatten, entryPieces, if_neg Bool.false_ne_true]
  simp only [List.flatten_cons, List.flatten_nil, List.length_append, List.length_nil]
  omega

theorem entryBytes_length_le_room (bCompressed : Bool) (entry : Entry) :
    (entryBytes bCompressed entry).length ≤ recordRoom bCompressed := by
  cases bCompressed with
  | true => exact Nat.le_of_eq rfl
  | false => exact (entryBytes_length_le entry).trans (by decide)

/-- Make room for an entry and store its pieces. -/
def writeEntry (sink : Sink UInt8) (encType : UInt16) (bCompressed : Bool) (list : ListWriter)
    (entry : Entry) : Except ListWriter ListWriter :=
  (flushBlock sink encType list (recordRoom bCompressed)).map fun flushed =>
    (entryPieces bCompressed entry).foldl BlockWriter.store
      (flushed.reserve (recordRoom bCompressed) gspyBufferGrowbySize)

theorem writeEntry_ok {sink : Sink UInt8} {encType : UInt16} {bCompressed : Bool}
    {list next : ListWriter} {entry : Entry}
    (written : writeEntry sink encType bCompressed list entry = .ok next) :
    ∃ flushed, flushBlock sink encType list (recordRoom bCompressed) = .ok flushed ∧
      (entryPieces bCompressed entry).foldl BlockWriter.store
        (flushed.reserve (recordRoom bCompressed) gspyBufferGrowbySize) = next := by
  unfold writeEntry at written
  cases flushes : flushBlock sink encType list (recordRoom bCompressed) with
  | error failed =>
      rw [flushes] at written
      cases written
  | ok flushed =>
      rw [flushes] at written
      exact ⟨flushed, rfl, Except.ok.inj written⟩

/-- Both styles make room, store the pieces of the entry, and differ in nothing else. -/
theorem listServer_eq (sink : Sink UInt8) (sender : InAddr) (encType : UInt16)
    (bCompressed : Bool) (list : ListWriter) (server : Server) :
    listServer sink sender encType bCompressed list server =
      writeEntry sink encType bCompressed list
        (namedEntry sender encType bCompressed list.block.length server) := by
  cases bCompressed with
  | true =>
      change (flushBlock sink encType list 6 >>= _) = (flushBlock sink encType list 6).map _
      cases flushBlock sink encType list 6 <;> rfl
  | false =>
      have address : (if chunkDue encType list.block.length (3 + 16 + 1 + 6) then inetNtoa sender
          else inetNtoa server.ip.sinAddr) =
          inetNtoa (namedEntry sender encType false list.block.length server).1 := by
        rw [← apply_ite inetNtoa]
        rfl
      rw [listServer, if_neg Bool.false_ne_true, address]
      change (flushBlock sink encType list 26 >>= _) = (flushBlock sink encType list 26).map _
      cases flushBlock sink encType list 26 <;> rfl

theorem flushBlock_length {sink : Sink UInt8} {encType : UInt16} {list flushed : ListWriter}
    {room : Nat} (flushes : flushBlock sink encType list room = .ok flushed) :
    flushed.block.length = if chunkDue encType list.block.length room then 0
      else list.block.length := by
  unfold flushBlock at flushes
  by_cases enciphered : encType = gamespyEnctype1
  · rw [if_pos enciphered] at flushes
    cases flushes
    simp [chunkDue, enciphered]
  · rw [if_neg enciphered] at flushes
    simp only [chunkDue, bne_iff_ne, ne_eq, enciphered, not_false_eq_true, Bool.and_eq_true,
      decide_eq_true_eq, true_and]
    exact BlockWriter.flush_length flushes

/-- The loop stores the entries of the list one behind the other. -/
theorem listServers_eq (sink : Sink UInt8) (sender : InAddr) (encType : UInt16)
    (bCompressed : Bool) (list : ListWriter) (listed : List Server) :
    listed.foldlM (listServer sink sender encType bCompressed) list =
      (namedEntries sender encType bCompressed list.block.length listed).foldlM
        (writeEntry sink encType bCompressed) list := by
  induction listed generalizing list with
  | nil => rfl
  | cons server rest ih =>
      rw [namedEntries, List.foldlM_cons, List.foldlM_cons, listServer_eq]
      cases written : writeEntry sink encType bCompressed list
          (namedEntry sender encType bCompressed list.block.length server) with
      | error failed => rfl
      | ok next =>
          obtain ⟨flushed, flushes, rfl⟩ := writeEntry_ok written
          have length := flushBlock_length flushes
          change rest.foldlM _ _ = _
          rw [ih, nextBuflen, BlockWriter.stores_block, BlockWriter.reserve_block,
            List.length_append, entryPieces_flatten, length]
          rfl

/-- No block is longer than a packet, and an enciphered list is sent at the end only. -/
structure Sendable (encType : UInt16) (list : ListWriter) : Prop where
  within : list.SentWithin maxGspyMtuSize
  block : encType ≠ gamespyEnctype1 → list.block.length ≤ maxGspyMtuSize
  unsent : encType = gamespyEnctype1 → list.sent = []

theorem fillEmpty_spec {list : ListWriter} (unsent : list.sent = []) :
    (fillEmpty list).sent = list.sent ∧
      (fillEmpty list).block =
        if list.written = [] then ascii "\\final\\" else list.written := by
  have written : list.written = list.block := by
    rw [BlockWriter.written, unsent]
    rfl
  unfold fillEmpty
  rw [written]
  by_cases empty : list.block = []
  · rw [if_pos empty, if_pos empty]
    refine ⟨rfl, ?_⟩
    rw [BlockWriter.store_block, BlockWriter.store_block, empty]
    rfl
  · rw [if_neg empty, if_neg empty]
    exact ⟨rfl, rfl⟩

/-- The block after the header of the list. -/
def startList (bCompressed : Bool) : ListWriter :=
  if bCompressed then BlockWriter.empty gspyBufferGrowbySize
  else (BlockWriter.empty gspyBufferGrowbySize).store listheader

theorem startList_length (bCompressed : Bool) :
    (startList bCompressed).block.length = headerLength bCompressed := by
  cases bCompressed <;> rfl

theorem startList_sendable (encType : UInt16) (bCompressed : Bool) :
    Sendable encType (startList bCompressed) := by
  cases bCompressed with
  | true =>
      exact ⟨by simp [startList, BlockWriter.SentWithin, BlockWriter.empty], fun _ => by decide,
        fun _ => rfl⟩
  | false =>
      exact ⟨by simp [startList, BlockWriter.SentWithin, BlockWriter.empty], fun _ => by decide,
        fun _ => rfl⟩

theorem startList_written (bCompressed : Bool) :
    (startList bCompressed).written = if bCompressed then [] else ascii "\\" := by
  cases bCompressed <;> rfl

/-- The loop over the listed servers and what follows it. -/
theorem sendGameSpyListToClient_run (cfg : Config) (sink : Sink UInt8) (cipher : CipherEnv)
    (sender : InAddr) {gamename : CString} (named : gamename ≠ []) (challengeKey : CString)
    (encType : UInt16) (bCompressed : Bool) (filter : Option GamespyFilter)
    (servers : List Server) :
    sendGameSpyListToClient cfg sink cipher sender gamename challengeKey encType bCompressed filter
        servers =
      (((listedServers cfg gamename filter servers).foldlM
        (listServer sink sender encType bCompressed) (startList bCompressed)).mapError
          .socketError >>= fun list =>
            sendList sink cipher challengeKey encType bCompressed list) := by
  rw [listedServers, ← filter_tcpListed, ← listLoop_eq]
  exact if_neg named

/-- A reply that has the given entries. -/
def writeList (sink : Sink UInt8) (cipher : CipherEnv) (challengeKey : CString)
    (encType : UInt16) (bCompressed : Bool) (entries : List Entry) : Except Halt ListWriter :=
  (entries.foldlM (writeEntry sink encType bCompressed) (startList bCompressed)).mapError
    .socketError >>= fun list => sendList sink cipher challengeKey encType bCompressed list

/-- Whatever the sends come to, a reply is that of the named entries. -/
theorem sendGameSpyListToClient_eq (cfg : Config) (sink : Sink UInt8) (cipher : CipherEnv)
    (sender : InAddr) {gamename : CString} (named : gamename ≠ []) (challengeKey : CString)
    (encType : UInt16) (bCompressed : Bool) (filter : Option GamespyFilter)
    (servers : List Server) :
    sendGameSpyListToClient cfg sink cipher sender gamename challengeKey encType bCompressed filter
        servers =
      writeList sink cipher challengeKey encType bCompressed
        (namedEntries sender encType bCompressed (headerLength bCompressed)
          (listedServers cfg gamename filter servers)) := by
  rw [sendGameSpyListToClient_run cfg sink cipher sender named, listServers_eq, startList_length,
    writeList]

/-- The blocks of a run are together these bytes, if any, and none is longer than a packet. -/
def SendsInPackets (run : Except Halt ListWriter) (bytes : Option (List UInt8)) : Prop :=
  run.toOption.map (fun list => list.sent.flatten) = bytes ∧
    ∀ list, run = .ok list → ∀ block ∈ list.sent, block.length ≤ maxGspyMtuSize

theorem sendList_outOfTable (sink : Sink UInt8) (cipher : CipherEnv) (challengeKey : CString)
    (bCompressed : Bool)
    {list : ListWriter} (sendable : Sendable gamespyEnctype1 list)
    (created : createEnctype1Buffer challengeKey
      (if list.written = [] then ascii "\\final\\" else list.written) cipher.rand cipher.enc1key =
        none) :
    sendList sink cipher challengeKey gamespyEnctype1 bCompressed list =
      .error (.outOfTable (fillEmpty list)) := by
  rw [← (fillEmpty_spec (sendable.unsent rfl)).2] at created
  simp only [sendList, if_pos, created]

section Full

variable {sink : Sink UInt8} (full : sink.Full)

include full

/-- Before a record is stored its room is made, and nothing is lost by that. -/
theorem flushBlock_full {encType : UInt16} {list : ListWriter} (room : Nat)
    (sendable : Sendable encType list) (short : room < maxGspyMtuSize) :
    ∃ flushed, flushBlock sink encType list room = .ok flushed ∧
      flushed.written = list.written ∧ Sendable encType flushed ∧
      (encType ≠ gamespyEnctype1 → flushed.block.length + room < maxGspyMtuSize) := by
  unfold flushBlock
  by_cases enciphered : encType = gamespyEnctype1
  · rw [if_pos enciphered]
    exact ⟨list, rfl, rfl, sendable, fun plain => absurd enciphered plain⟩
  · rw [if_neg enciphered]
    obtain ⟨flushed, flushes, written, within, room'⟩ :=
      BlockWriter.flush_full full short sendable.within (sendable.block enciphered)
    exact ⟨flushed, flushes, written,
      ⟨within, fun _ => by omega, fun same => absurd same enciphered⟩, fun _ => room'⟩

/-- An entry adds its bytes. -/
theorem writeEntry_full {encType : UInt16} (bCompressed : Bool) {list : ListWriter}
    (sendable : Sendable encType list) (entry : Entry) :
    ∃ next, writeEntry sink encType bCompressed list entry = .ok next ∧
      next.written = list.written ++ entryBytes bCompressed entry ∧ Sendable encType next := by
  have short : recordRoom bCompressed < maxGspyMtuSize := by cases bCompressed <;> decide
  obtain ⟨flushed, flushes, written, still, room⟩ :=
    flushBlock_full full (recordRoom bCompressed) sendable short
  have fits := entryBytes_length_le_room bCompressed entry
  rw [writeEntry, flushes]
  refine ⟨_, rfl, ?_, ?_, fun plain => ?_, fun enciphered => ?_⟩
  · rw [BlockWriter.stores_written, BlockWriter.written_reserve, written, entryPieces_flatten]
  · rw [BlockWriter.SentWithin, BlockWriter.stores_sent, BlockWriter.reserve_sent]
    exact still.within
  · have below := room plain
    rw [BlockWriter.stores_block, BlockWriter.reserve_block, List.length_append,
      entryPieces_flatten]
    omega
  · rw [BlockWriter.stores_sent, BlockWriter.reserve_sent]
    exact still.unsent enciphered

/-- The entries add their bytes in their order. -/
theorem writeEntries_full {encType : UInt16} (bCompressed : Bool) {list : ListWriter}
    (sendable : Sendable encType list) (entries : List Entry) :
    ∃ next, entries.foldlM (writeEntry sink encType bCompressed) list = .ok next ∧
      next.written = list.written ++ entries.flatMap (entryBytes bCompressed) ∧
      Sendable encType next := by
  induction entries generalizing list with
  | nil => exact ⟨list, rfl, (List.append_nil _).symm, sendable⟩
  | cons entry rest ih =>
      obtain ⟨next, adds, nextWritten, nextSendable⟩ :=
        writeEntry_full full bCompressed sendable entry
      obtain ⟨last, loops, lastWritten, lastSendable⟩ := ih nextSendable
      refine ⟨last, ?_, ?_, lastSendable⟩
      · rw [List.foldlM_cons, adds]
        exact loops
      · rw [lastWritten, nextWritten, List.flatMap_cons, List.append_assoc]

/-- The closing string is added, and what remains fits into one packet. -/
theorem closeList_full (bCompressed : Bool) {list : ListWriter}
    (within : list.SentWithin maxGspyMtuSize) (block : list.block.length ≤ maxGspyMtuSize) :
    ∃ closed, closeList sink bCompressed list = .ok closed ∧
      closed.written = list.written ++ closing bCompressed ∧
      closed.SentWithin maxGspyMtuSize ∧ closed.block.length ≤ maxGspyMtuSize := by
  unfold closeList closing
  cases bCompressed with
  | true =>
      obtain ⟨flushed, flushes, written, still, room⟩ :=
        BlockWriter.flush_full full (show 7 < maxGspyMtuSize by decide) within block
      refine ⟨_, by rw [if_pos rfl, flushes]; rfl, ?_, ?_, ?_⟩
      · simp only [BlockWriter.written_store, BlockWriter.written_reserve, written,
          List.append_assoc]
        rfl
      · simpa [BlockWriter.SentWithin] using still
      · simp [ascii, finalstring]
        omega
  | false =>
      obtain ⟨flushed, flushes, written, still, room⟩ :=
        BlockWriter.flush_full full (show 6 < maxGspyMtuSize by decide) within block
      refine ⟨_, by rw [if_neg Bool.false_ne_true, flushes]; rfl, ?_, ?_, ?_⟩
      · simp only [BlockWriter.written_store, written]
        rfl
      · simpa [BlockWriter.SentWithin] using still
      · simp [ascii, finalstring]
        omega

/-- A list that is not enciphered goes out as its text and the closing string. -/
theorem sendList_plain (cipher : CipherEnv) (challengeKey : CString) {encType : UInt16}
    (plain : encType ≠ gamespyEnctype1) (bCompressed : Bool) {list : ListWriter}
    (sendable : Sendable encType list) :
    ∃ done, sendList sink cipher challengeKey encType bCompressed list = .ok done ∧
      done.sent.flatten = list.written ++ closing bCompressed ∧
      done.SentWithin maxGspyMtuSize := by
  obtain ⟨closed, closes, written, within, block⟩ :=
    closeList_full full bCompressed sendable.within (sendable.block plain)
  refine ⟨{ closed with sent := closed.sent ++ [closed.block] }, ?_, ?_, within.snoc block⟩
  · rw [sendList, if_neg plain, closes]
    change (closed.send sink closed.block).mapError Halt.socketError = _
    rw [BlockWriter.send_full full]
    rfl
  · rw [← written, List.flatten_append, List.flatten_singleton]
    rfl

/-- An enciphered list goes out as the message of the encoder. -/
theorem sendList_enciphered (cipher : CipherEnv) (challengeKey : CString) (bCompressed : Bool)
    {list : ListWriter} (sendable : Sendable gamespyEnctype1 list) {encryptedBuffer : List UInt8}
    (created : createEnctype1Buffer challengeKey
      (if list.written = [] then ascii "\\final\\" else list.written) cipher.rand cipher.enc1key =
        some encryptedBuffer) :
    ∃ done, sendList sink cipher challengeKey gamespyEnctype1 bCompressed list = .ok done ∧
      done.sent.flatten = encryptedBuffer ∧ done.SentWithin maxGspyMtuSize := by
  obtain ⟨sentEq, blockEq⟩ := fillEmpty_spec (sendable.unsent rfl)
  rw [← blockEq] at created
  have filled : (fillEmpty list).SentWithin maxGspyMtuSize := by
    rw [BlockWriter.SentWithin, sentEq]
    exact sendable.within
  obtain ⟨done, sends, flattenEq, within⟩ := BlockWriter.sendChunks_full full
    (show 0 < maxGspyMtuSize by decide) filled encryptedBuffer
  refine ⟨done, ?_, ?_, within⟩
  · simp only [sendList, if_pos, created, sends]
    rfl
  · rw [flattenEq, sentEq, sendable.unsent rfl]
    rfl

/-- When every send succeeds in full, a reply is its text in the encoding. -/
theorem writeList_full (cipher : CipherEnv) (challengeKey : CString) (encType : UInt16)
    (bCompressed : Bool) (entries : List Entry) :
    SendsInPackets (writeList sink cipher challengeKey encType bCompressed entries)
      (encoded cipher challengeKey encType (listText encType bCompressed entries)) := by
  obtain ⟨listed, loops, text, sendable⟩ := writeEntries_full full bCompressed
    (startList_sendable encType bCompressed) entries
  rw [startList_written] at text
  have run : writeList sink cipher challengeKey encType bCompressed entries =
      sendList sink cipher challengeKey encType bCompressed listed := by
    rw [writeList, loops]
    rfl
  rw [run, encoded, listText, ← text]
  by_cases enciphered : encType = gamespyEnctype1
  · subst enciphered
    rw [if_pos rfl, if_pos rfl]
    cases created : createEnctype1Buffer challengeKey
        (if listed.written = [] then ascii "\\final\\" else listed.written) cipher.rand
        cipher.enc1key with
    | none =>
        rw [sendList_outOfTable sink cipher challengeKey bCompressed sendable created]
        exact ⟨rfl, fun list failed => nomatch failed⟩
    | some encryptedBuffer =>
        obtain ⟨done, sends, flattenEq, within⟩ :=
          sendList_enciphered full cipher challengeKey bCompressed sendable created
        rw [sends]
        refine ⟨congrArg some flattenEq, ?_⟩
        rintro list ⟨⟩
        exact within
  · rw [if_neg enciphered, if_neg enciphered]
    obtain ⟨done, sends, flattenEq, within⟩ :=
      sendList_plain full cipher challengeKey enciphered bCompressed sendable
    rw [sends]
    refine ⟨congrArg some flattenEq, ?_⟩
    rintro list ⟨⟩
    exact within

/-- A reply is the text of the named entries. -/
theorem sendGameSpyListToClient_full (cfg : Config) (cipher : CipherEnv) (sender : InAddr)
    {gamename : CString} (named : gamename ≠ []) (challengeKey : CString) (encType : UInt16)
    (bCompressed : Bool) (filter : Option GamespyFilter) (servers : List Server) :
    SendsInPackets
      (sendGameSpyListToClient cfg sink cipher sender gamename challengeKey encType bCompressed
        filter servers)
      (encoded cipher challengeKey encType (listText encType bCompressed
        (namedEntries sender encType bCompressed (headerLength bCompressed)
          (listedServers cfg gamename filter servers)))) := by
  rw [sendGameSpyListToClient_eq cfg sink cipher sender named]
  exact writeList_full full cipher challengeKey encType bCompressed _

end Full

/-- A sink that takes whatever it is offered. -/
def openSocket : Sink UInt8 :=
  fun _ block => some block.length

/-- A server that has answered twice. -/
def answeredServer : Server :=
  { Server.zero with
    ip := ⟨⟨10, 0, 0, 2⟩, htons 7777⟩
    port := htons 7778
    heartbeats := 2
    validated := true
    gamename := ascii "unreal"
    serverInfo := ascii "\\mapname\\DmDeck16" }

end GSMaster.Lists
