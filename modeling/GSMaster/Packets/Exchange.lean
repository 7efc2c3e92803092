import GSMaster.Net.Resolver
import GSMaster.Packets.CleanUp
import GSMaster.Registry.MemorySafety

/-!
# A list that another master receives

Masters exchange the lists of three games as UDP list replies. The receiver
cleans the datagram up as if it were text, so it reads the list back exactly
when the clean-up leaves the records alone.
-/

namespace GSMaster.Packets

open GSMaster.Text GSMaster.Net GSMaster.Lists GSMaster.Registry

inductive ListGame where
  | quake2
  | quakeworld
  | hexenworld
  deriving DecidableEq, Repr

namespace ListGame

def gamename : ListGame → CString
  | quake2 => ascii "quake2"
  | quakeworld => ascii "quakeworld"
  | hexenworld => ascii "hexenworld"

def header : ListGame → List UInt8
  | quake2 => q2ReplyHdr
  | quakeworld => qwReplyHdr
  | hexenworld => hwReplyHdr

/-- How many bytes of the records the clean-up passes over behind the newline of the header. -/
def passed : ListGame → Nat
  | quake2 => 0
  | quakeworld => 2
  | hexenworld => 2

theorem udpHeader_gamename (game : ListGame) : udpHeader game.gamename = some game.header := by
  cases game <;> decide

end ListGame

/-- The servers of a game that a list reply lists, and their records. -/
def listedServers (cfg : Config) (game : ListGame) (servers : List Server) : List Server :=
  servers.filter (udpListed cfg game.gamename)

/-- The addresses and ports of a game that a received datagram passes to `AddServer`. -/
def imported (env : Nat → Env) (game : ListGame) (sender : SockaddrIn) (received : List UInt8) :
    List ServerKey :=
  match parseUDPPacket sender received with
  | .parseUDPMSList tmp gamename size =>
      ((parseUDPMSList env tmp gamename size).filter fun call =>
        call.2.gamename == some game.gamename).map fun call => call.2.key
  | _ => []

/-! ## Reading records -/

/-- The keys of the records at the start of a buffer. -/
def recordKeys : Nat → List UInt8 → List ServerKey
  | 0, _ => []
  | records + 1, tmp =>
      (recordAddr tmp, bytesShort (tmp.getD 4 0) (tmp.getD 5 0)) :: recordKeys records (tmp.drop 6)

theorem imported_parseUDPMSList {env : Nat → Env}
    (resolves : ∀ index addr, (env index).gethostbyname (inetNtoa addr) = some addr)
    (game : ListGame) (tmp : List UInt8) (records : Nat) :
    ((parseUDPMSList env tmp game.gamename ((6 * records : Nat) : Int)).filter fun call =>
        call.2.gamename == some game.gamename).map (fun call => call.2.key) =
      recordKeys records tmp := by
  have other : stricmpEq game.gamename (ascii "kingpin") = false := by cases game <;> decide
  have rounds : ∀ records index (tmp : List UInt8),
      ((udpRecordCalls env game.gamename records index tmp).filter fun call =>
        call.2.gamename == some game.gamename).map (fun call => call.2.key) =
      recordKeys records tmp := by
    intro records
    induction records with
    | zero => exact fun _ _ => rfl
    | succ records ih =>
        intro index tmp
        rw [udpRecordCalls, udpRecordCall, other, if_neg Bool.false_ne_true, recordKeys,
          ← ih (index + 1)]
        simp only [resolves, Option.map_some, Option.toList_some, List.singleton_append,
          List.filter_cons, beq_self_eq_true, if_true, List.map_cons, AddCall.key, recordPort,
          htons_ntohs]
  unfold parseUDPMSList
  cases records with
  | zero => rfl
  | succ records =>
      rw [if_neg (by omega)]
      have count : (((6 * (records + 1) : Nat) : Int).toNat) / 6 = records + 1 := by omega
      rw [count]
      exact rounds (records + 1) 0 tmp

/-- A record is read as the key of a server exactly when it has the server's bytes. -/
theorem record_eq_key_iff (a b c d e f : UInt8) (server : Server) :
    ((⟨a, b, c, d⟩ : InAddr), bytesShort e f) = server.key ↔
      [a, b, c, d, e, f] = serverBytes server := by
  have port : bytesShort e f = server.port ↔ [e, f] = shortBytes server.port := by
    constructor
    · intro same
      rw [← same, shortBytes_bytesShort]
    · intro same
      obtain ⟨rfl, tail⟩ := List.cons.inj same
      obtain ⟨rfl, -⟩ := List.cons.inj tail
      exact bytesShort_shortBytes server.port
  rw [Server.key, Prod.mk.injEq, port]
  obtain ⟨⟨⟨a', b', c', d'⟩, sinPort⟩, port'⟩ := server
  simp only [serverBytes, InAddr.bytes, InAddr.mk.injEq, List.cons_append, List.nil_append,
    List.cons.injEq, and_assoc]

/-- Records are read as the keys of some servers exactly when they have the servers' bytes. -/
theorem recordKeys_eq_iff {tmp : List UInt8} {servers : List Server}
    (long : 6 * servers.length ≤ tmp.length) :
    recordKeys servers.length tmp = servers.map Server.key ↔
      tmp.take (6 * servers.length) = servers.flatMap serverBytes := by
  induction servers generalizing tmp with
  | nil => simp [recordKeys]
  | cons server servers ih =>
      rw [List.length_cons] at long
      match tmp, long with
      | a :: b :: c :: d :: e :: f :: rest, long =>
          have remains : 6 * servers.length ≤ rest.length := by
            simp only [List.length_cons] at long
            omega
          have head := record_eq_key_iff a b c d e f server
          have tail := ih remains
          rw [List.length_cons, recordKeys, List.map_cons, List.cons.injEq, List.flatMap_cons]
          change ((⟨a, b, c, d⟩ : InAddr), bytesShort e f) = server.key ∧
            recordKeys servers.length rest = _ ↔
            [a, b, c, d, e, f] ++ rest.take (6 * servers.length) = _
          rw [head, tail]
          constructor
          · rintro ⟨here, there⟩
            rw [here, there]
          · exact fun same => List.append_inj same rfl

/-! ## Recognising the header -/

theorem flatMap_serverBytes_length (servers : List Server) :
    (servers.flatMap serverBytes).length = 6 * servers.length := by
  induction servers with
  | nil => rfl
  | cons server rest ih =>
      rw [List.flatMap_cons, List.length_append, serverBytes_length, ih, List.length_cons]
      omega

/-- The first two bytes behind a newline, and what the clean-up makes of the others. -/
def shifted (x y : UInt8) (more : List UInt8) : List UInt8 :=
  x :: y :: cleanLoop (more.length + 2) (more ++ [(y :: more).getLast (List.cons_ne_nil y more)])

/-- What the receiver takes for the records of a reply with these records. -/
def delivered : ListGame → List UInt8 → List UInt8
  | .quake2, records => cleanLoop records.length records
  | _, x :: y :: more => shifted x y more
  | _, _ => []

/-- The newline that ends a header is removed with the rest of the header in place. -/
theorem cleanNewlines_header {text : List UInt8} (plain : ∀ c ∈ text, c ≠ 0 ∧ c ≠ newline)
    (x y : UInt8) (more : List UInt8) :
    cleanNewlines (text ++ newline :: x :: y :: more) = text ++ shifted x y more := by
  have length : (text ++ newline :: x :: y :: more).length = text.length + (more.length + 3) := by
    rw [List.length_append]
    rfl
  rw [cleanNewlines, length, cleanLoop_append plain, cleanLoop_newline]
  rfl

theorem shifted_length (x y : UInt8) (more : List UInt8) :
    (shifted x y more).length = more.length + 3 := by
  rw [shifted, List.length_cons, List.length_cons, cleanLoop_length, List.length_append]
  rfl

theorem startsWith_append {header : List UInt8} (plain : ∀ c ∈ header, c ≠ 0) (rest : List UInt8)
    (text : CString) (count : Nat) :
    startsWith (header ++ rest) text count =
      stricmpEq ((header ++ cstr rest).take count) (text.take count) := by
  rw [startsWith, cstr_append fun zero => plain 0 zero rfl]
  rfl

/-- A datagram whose text has the out-of-band header is dispatched on what follows it. -/
theorem parseUDPPacket_outOfBand {sender : SockaddrIn} {received body : List UInt8}
    {command : Command} (long : 4 < received.length)
    (cleaned : cleanNewlines received = oobSeq ++ body)
    (parsed : parseOutOfBand sender (oobSeq ++ body) = some command) :
    parseUDPPacket sender received = command := by
  unfold parseUDPPacket parseResponse
  simp only [cleaned, parsed]
  rw [if_pos long]
  rfl

theorem q2ReplyHdr_eq : q2ReplyHdr = [255, 255, 255, 255, 115, 101, 114, 118, 101, 114, 115, 32] :=
  rfl

theorem parseUDPPacket_quake2 (sender : SockaddrIn) (records : List UInt8) :
    parseUDPPacket sender (q2ReplyHdr ++ records) =
      .parseUDPMSList (cleanLoop records.length records) (ascii "quake2") records.length := by
  have plain : ∀ c ∈ q2ReplyHdr, c ≠ 0 ∧ c ≠ newline := by
    rw [q2ReplyHdr_eq]
    simp [newline]
  have length : (q2ReplyHdr ++ records).length = 12 + records.length := List.length_append
  have cleaned : cleanNewlines (q2ReplyHdr ++ records) =
      q2ReplyHdr ++ cleanLoop records.length records := by
    rw [cleanNewlines, length]
    exact cleanLoop_append plain records.length records
  have rest : listSize (q2ReplyHdr ++ cleanLoop records.length records).length 12 =
      records.length := by
    rw [List.length_append, cleanLoop_length, listSize, q2ReplyHdr_eq]
    simp
  have list : startsWith (q2ReplyHdr ++ cleanLoop records.length records) q2ReplyHdr 11 = true := by
    rw [startsWith_append fun c member => (plain c member).1]
    rfl
  refine parseUDPPacket_outOfBand (by omega) cleaned ?_
  change parseOutOfBand sender (q2ReplyHdr ++ _) = _
  unfold parseOutOfBand
  simp only
  rw [if_pos list, rest]
  rfl

section Headed

variable (sender : SockaddrIn) (x y : UInt8) (more : List UInt8)

/-- The tests of the headers see the header in front of the records. -/
theorem startsWith_shifted {text : List UInt8} (plain : ∀ c ∈ text, c ≠ 0 ∧ c ≠ newline)
    (header : CString) (count : Nat) :
    startsWith (text ++ shifted x y more) header count =
      stricmpEq ((text ++ cstr (shifted x y more)).take count) (header.take count) :=
  startsWith_append (fun c member => (plain c member).1) _ header count

/-- The size that is passed on counts out the header and its NUL. -/
theorem listSize_shifted (text : List UInt8) :
    listSize (text ++ shifted x y more).length (text.length + 1) = (x :: y :: more).length := by
  rw [List.length_append, shifted_length, listSize]
  simp only [List.length_cons]
  omega

theorem parseUDPPacket_quakeworld :
    parseUDPPacket sender (qwReplyHdr ++ x :: y :: more) =
      .parseUDPMSList (shifted x y more) (ascii "quakeworld") (x :: y :: more).length := by
  have plain : ∀ c ∈ ([255, 255, 255, 255, 100] : List UInt8), c ≠ 0 ∧ c ≠ newline := by
    simp [newline]
  have starts := startsWith_shifted x y more plain
  have quake2 := starts q2ReplyHdr 11
  have kingpin := starts kpReplyHdr 7
  have hexenworld := starts hwReplyHdr 6
  have quakeworld := starts qwReplyHdr 5
  have rest := listSize_shifted x y more [255, 255, 255, 255, 100]
  change listSize _ 6 = _ at rest
  refine parseUDPPacket_outOfBand ?_ (cleanNewlines_header plain x y more) ?_
  · rw [List.length_append]
    exact Nat.lt_of_lt_of_le (by decide) (Nat.le_add_right 6 _)
  · change parseOutOfBand sender ([255, 255, 255, 255, 100] ++ shifted x y more) = _
    unfold parseOutOfBand
    simp only [rest]
    rw [if_neg (quake2 ▸ Bool.false_ne_true), if_neg (kingpin ▸ Bool.false_ne_true),
      if_neg (hexenworld ▸ Bool.false_ne_true), if_pos (by rw [quakeworld]; rfl)]
    rfl

theorem parseUDPPacket_hexenworld :
    parseUDPPacket sender (hwReplyHdr ++ x :: y :: more) =
      .parseUDPMSList (shifted x y more) (ascii "hexenworld") (x :: y :: more).length := by
  have plain : ∀ c ∈ ([255, 255, 255, 255, 255, 100] : List UInt8), c ≠ 0 ∧ c ≠ newline := by
    simp [newline]
  have starts := startsWith_shifted x y more plain
  have quake2 := starts q2ReplyHdr 11
  have kingpin := starts kpReplyHdr 7
  have hexenworld := starts hwReplyHdr 6
  have rest := listSize_shifted x y more [255, 255, 255, 255, 255, 100]
  change listSize _ 7 = _ at rest
  refine parseUDPPacket_outOfBand ?_ (cleanNewlines_header plain x y more) ?_
  · rw [List.length_append]
    exact Nat.lt_of_lt_of_le (by decide) (Nat.le_add_right 7 _)
  · change parseOutOfBand sender ([255, 255, 255, 255, 255, 100] ++ shifted x y more) = _
    unfold parseOutOfBand
    simp only [rest]
    rw [if_neg (quake2 ▸ Bool.false_ne_true), if_neg (kingpin ▸ Bool.false_ne_true),
      if_pos (by rw [hexenworld]; rfl)]
    rfl

end Headed

/-! ## The exchange -/

/-- The receiver takes the delivered records for the list. -/
theorem parseUDPPacket_reply (game : ListGame) (sender : SockaddrIn) {records : List UInt8}
    (long : 2 < records.length) :
    parseUDPPacket sender (game.header ++ records) =
      .parseUDPMSList (delivered game records) game.gamename records.length := by
  match records, long with
  | x :: y :: more, _ =>
      cases game with
      | quake2 => exact parseUDPPacket_quake2 sender (x :: y :: more)
      | quakeworld => exact parseUDPPacket_quakeworld sender x y more
      | hexenworld => exact parseUDPPacket_hexenworld sender x y more

theorem imported_empty (env : Nat → Env) (game : ListGame) (sender : SockaddrIn) :
    imported env game sender (game.header ++ []) = [] := by
  cases game <;> rfl

theorem shifted_eq_iff (x y z : UInt8) (more : List UInt8) :
    (shifted x y (z :: more)).take (x :: y :: z :: more).length = x :: y :: z :: more ↔
      Untouched (z :: more) := by
  rw [shifted, List.length_cons, List.length_cons, List.take_succ_cons, List.take_succ_cons,
    List.cons.injEq, List.cons.injEq]
  simp only [true_and]
  refine cleanLoop_keeps_iff (by simp) fun c member => ?_
  rw [List.mem_singleton.mp member, List.getLast_cons (List.cons_ne_nil z more)]
  exact List.getLast?_eq_some_getLast (List.cons_ne_nil z more)

/-- The records are delivered as they are exactly when the clean-up leaves them alone. -/
theorem delivered_eq_iff (game : ListGame) {records : List UInt8} (long : 2 < records.length) :
    (delivered game records).take records.length = records ↔
      Untouched (records.drop game.passed) := by
  match records, long with
  | x :: y :: z :: more, _ =>
      cases game with
      | quake2 =>
          have whole : (cleanLoop (more.length + 3) (x :: y :: z :: more ++ [])).take _ = _ ↔ _ :=
            cleanLoop_keeps_iff (Nat.le_refl _) fun c member => nomatch member
          rwa [List.append_nil] at whole
      | quakeworld => exact shifted_eq_iff x y z more
      | hexenworld => exact shifted_eq_iff x y z more

theorem delivered_length (game : ListGame) {records : List UInt8} (long : 2 < records.length) :
    records.length ≤ (delivered game records).length := by
  match records, long with
  | x :: y :: more, _ =>
      cases game with
      | quake2 => exact Nat.le_of_eq (cleanLoop_length _ _).symm
      | quakeworld => exact (shifted_length x y more).symm ▸ Nat.le_succ _
      | hexenworld => exact (shifted_length x y more).symm ▸ Nat.le_succ _

/-- What the receiver registers is what it reads from the delivered records. -/
theorem imported_reply {env : Nat → Env}
    (resolves : ∀ index addr, (env index).gethostbyname (inetNtoa addr) = some addr)
    (game : ListGame) (sender : SockaddrIn) {records : List UInt8} {count : Nat}
    (whole : records.length = 6 * (count + 1)) :
    imported env game sender (game.header ++ records) =
      recordKeys (count + 1) (delivered game records) := by
  rw [imported, parseUDPPacket_reply game sender (by omega)]
  simp only
  rw [whole, imported_parseUDPMSList resolves]

/-- The reply is the header of the game and the records of the listed servers. -/
theorem sendUDPServerListToClient_listed {cfg : Config} {servers : List Server} {game : ListGame}
    {reply : List UInt8}
    (built : sendUDPServerListToClient cfg game.gamename servers = some reply) :
    reply = game.header ++ (listedServers cfg game servers).flatMap serverBytes := by
  rw [sendUDPServerListToClient, game.udpHeader_gamename] at built
  obtain rfl := Option.some.inj built
  exact udpListLoop_eq cfg game.gamename game.header servers

/--
The receiver registers the listed servers, and nothing else, exactly when the
clean-up leaves their records alone: in what it looks at of them, nothing but
newlines follows a newline before the first zero byte.
-/
theorem exchange_exact_iff (cfg : Config) (servers : List Server) (game : ListGame)
    {reply : List UInt8}
    (built : sendUDPServerListToClient cfg game.gamename servers = some reply)
    (sender : SockaddrIn) (env : Nat → Env)
    (resolves : ∀ index addr, (env index).gethostbyname (inetNtoa addr) = some addr) :
    imported env game sender reply = (listedServers cfg game servers).map Server.key ↔
      Untouched (((listedServers cfg game servers).flatMap serverBytes).drop game.passed) := by
  rw [sendUDPServerListToClient_listed built]
  set listed := listedServers cfg game servers with listedEq
  have length := flatMap_serverBytes_length listed
  cases listedCases : listed with
  | nil =>
      rw [List.flatMap_nil, List.drop_nil]
      exact iff_of_true (imported_empty env game sender) untouched_nil
  | cons first rest =>
      rw [listedCases, List.length_cons] at length
      have long : 2 < ((first :: rest).flatMap serverBytes).length := by omega
      have available := delivered_length game long
      rw [length] at available
      rw [imported_reply resolves game sender length, ← delivered_eq_iff game long, length]
      exact recordKeys_eq_iff (show 6 * (first :: rest).length ≤ _ from available)

/-! ## Two exchanges -/

/-- Surroundings in which a dotted quad resolves to its address. -/
def quadEnv : Env :=
  { quietEnv with gethostbyname := dottedQuad }

theorem quadEnv_resolves (index : Nat) (addr : InAddr) :
    ((fun _ => quadEnv) index : Env).gethostbyname (inetNtoa addr) = some addr :=
  dottedQuad_inetNtoa addr

/-- A server at 192.0.2.1 that has answered twice. -/
def quietServer : Server :=
  { Server.zero with
    ip := ⟨⟨192, 0, 2, 1⟩, htons 27910⟩
    port := htons 27910
    heartbeats := 2
    validated := true
    gamename := ascii "quake2" }

theorem exchange_exact_iff_quake2 :
    imported (fun _ => quadEnv) .quake2 quake2Server (q2ReplyHdr ++ [192, 0, 2, 1, 109, 6]) =
      [(⟨192, 0, 2, 1⟩, htons 27910)] := by
  refine (exchange_exact_iff defaultConfig [quietServer] .quake2 rfl quake2Server
    (fun _ => quadEnv) quadEnv_resolves).mpr ?_
  exact (untouched_cons (by decide) (by decide)).mpr (untouched_zero _)

/-- A heartbeat and two replies of a server at 10.0.0.1 make it listed. -/
theorem quake2_listed :
    ∃ reg : ServerList, reg.Reachable defaultConfig ∧
      sendUDPServerListToClient defaultConfig (ascii "quake2") reg.servers =
        some (q2ReplyHdr ++ [10, 0, 0, 1, 109, 6]) ∧
      (listedServers defaultConfig .quake2 reg.servers).map Server.key =
        [(quake2Server.sinAddr, htons 27910)] := by
  have reached : ServerList.Reachable defaultConfig _ :=
    ((Relation.ReflTransGen.single ⟨fun _ => quietEnv, quake2Heartbeat, rfl⟩).tail
      ⟨fun _ => quietEnv, .ack quake2Server (printstring ++ ascii "\n") 10, rfl⟩).tail
      ⟨fun _ => quietEnv, .ack quake2Server (printstring ++ ascii "\n") 10, rfl⟩
  exact ⟨_, reached, rfl, rfl⟩

/-- The first byte of that address is a newline. -/
theorem exchange_alters_address :
    ¬ ∀ cfg (reg : ServerList) game reply sender env, reg.Reachable cfg →
      sendUDPServerListToClient cfg game.gamename reg.servers = some reply →
      reply.length ≤ 65507 →
      (∀ index addr, (env index : Env).gethostbyname (inetNtoa addr) = some addr) →
      imported env game sender reply = (listedServers cfg game reg.servers).map Server.key := by
  intro always
  obtain ⟨reg, reached, built, keys⟩ := quake2_listed
  have same := always defaultConfig reg .quake2 _ quake2Server (fun _ => quadEnv) reached built
    (by decide) quadEnv_resolves
  rw [keys] at same
  have read : imported (fun _ => quadEnv) .quake2 quake2Server
      (q2ReplyHdr ++ [10, 0, 0, 1, 109, 6]) =
      recordKeys 1 (delivered .quake2 [10, 0, 0, 1, 109, 6]) :=
    imported_reply quadEnv_resolves .quake2 quake2Server rfl
  rw [read] at same
  exact absurd same (by decide)

end GSMaster.Packets
