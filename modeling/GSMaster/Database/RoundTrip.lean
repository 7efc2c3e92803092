import GSMaster.Database.Blob
import GSMaster.Net.Resolver
import GSMaster.Registry.Invariant

/-!
# The database survives a restart

The reader undoes the writer on the entries of a registry, whose keys are
distinct, whose ports are not zero and whose games are in the table; and the
writer gives back every file of such records that the reader has read.
-/

namespace GSMaster.Database

open GSMaster.Text GSMaster.Net GSMaster.Games GSMaster.Registry

/-- The fields of a record: the address, the port in network order and the index of the game. -/
structure Record where
  addr : InAddr
  port : UInt16
  game : Nat

namespace Record

def key (record : Record) : ServerKey :=
  (record.addr, record.port)

def bytes (record : Record) : List UInt8 :=
  record.addr.bytes ++ shortBytes record.port ++ shortBytes record.game.toUInt16

/-- The record of a server with these address, port and game name. -/
def ofIdentity (identity : ServerKey × CString) : Record :=
  ⟨identity.1.1, identity.1.2, (gameSpyGetTableNumber identity.2).toNat⟩

/-- The record can become an entry. -/
structure Valid (record : Record) : Prop where
  port : record.port ≠ 0
  game : record.game < gameTable.length

/-- The call of `AddServer` for a record of a game. -/
def call (record : Record) (gamename : CString) : AddCall :=
  ⟨⟨record.addr, record.port⟩, sendAcknowledge (some gamename), record.port, some gamename,
    some (inetNtoa record.addr)⟩

theorem bytes_ofIdentity (server : Server) :
    (ofIdentity server.identity).bytes = blobRecord server := by
  simp only [bytes, blobRecord, ofIdentity, Server.identity, Server.key, Nat.toUInt16_eq,
    UInt16.ofNat_toNat]

theorem call_accepted {record : Record} (valid : record.Valid) {gamename : CString}
    (supported : Supported gamename) : (record.call gamename).accepted = some gamename := by
  change (if gamename = [] then none
    else if record.port = 0 then none
    else if gameSpyGetGameSecKey gamename = none then none
    else some gamename) = some gamename
  rw [if_neg supported.nonempty, if_neg valid.port, if_neg supported]

end Record

/-- A file of the version word and some records. -/
def blobFile (records : List Record) : List UInt8 :=
  shortBytes gspyDbVersion ++ records.flatMap Record.bytes

/-- The writer needs the identities of the servers only. -/
theorem generateMasterDBBlob_records (servers : List Server) :
    generateMasterDBBlob servers =
      blobFile (servers.map fun server => Record.ofIdentity server.identity) := by
  rw [generateMasterDBBlob_eq, blobFile, List.flatMap_map]
  simp only [Record.bytes_ofIdentity]

/-! ## Reading the records -/

theorem fread_whole {chunk rest held : List UInt8} {size : Nat} (whole : chunk.length = size)
    (room : held.length = size) : fread (chunk ++ rest) held size = chunk := by
  rw [fread, List.take_left' whole, whole, ← room, List.drop_length, List.append_nil]

theorem blobRecords_bytes (records : List Record) (buff game : List UInt8) (room : buff.length = 6)
    (word : game.length = 2) :
    blobRecords records.length (records.flatMap Record.bytes) buff game =
      records.map fun record =>
        (record.addr.bytes ++ shortBytes record.port, record.game.toUInt16) := by
  induction records generalizing buff game with
  | nil => rfl
  | cons record records ih =>
      have address : (record.addr.bytes ++ shortBytes record.port).length = 6 := rfl
      have index : (shortBytes record.game.toUInt16).length = 2 := rfl
      rw [List.length_cons, blobRecords, List.flatMap_cons, Record.bytes, List.append_assoc,
        fread_whole address room, List.drop_left' address, fread_whole index word]
      have eight : ((record.addr.bytes ++ shortBytes record.port) ++
          (shortBytes record.game.toUInt16 ++ records.flatMap Record.bytes)).drop 8 =
          records.flatMap Record.bytes := rfl
      rw [eight, ih _ _ address index, List.map_cons]
      simp only [shortBytes, List.getD_cons_zero, List.getD_cons_succ, bytesShort_shortBytes]

theorem flatMap_bytes_length (records : List Record) :
    (records.flatMap Record.bytes).length = 8 * records.length := by
  induction records with
  | nil => rfl
  | cons record records ih =>
      have eight : record.bytes.length = 8 := rfl
      rw [List.flatMap_cons, List.length_append, eight, ih, List.length_cons]
      omega

/-- The name that a record's index stands for. -/
def Record.gamename (record : Record) : CString :=
  (gameTable[record.game]?.map (·.gamename)).getD []

/-- The number of a game survives the two bytes that it has in a record. -/
theorem tableNumber_toNat {game : Nat} (listed : game < gameTable.length) :
    game.toUInt16.toNat = game :=
  UInt16.toNat_ofNat_of_lt' (Nat.lt_trans listed (by decide))

theorem Record.Valid.entry {record : Record} (valid : record.Valid) :
    ∃ entry, gameTable[record.game]? = some entry ∧ record.gamename = entry.gamename ∧
      Supported entry.gamename := by
  have found := List.getElem?_eq_getElem valid.game
  exact ⟨gameTable.get ⟨record.game, valid.game⟩, found, by rw [Record.gamename, found]; rfl,
    gameTable_supported _ (List.getElem_mem valid.game)⟩

section Reading

variable {env : Nat → Env}

/-- Reading a valid record is a call of `AddServer` for its key and its game. -/
theorem blobRecordCall_valid
    (resolves : ∀ index addr, (env index).gethostbyname (inetNtoa addr) = some addr) (index : Nat)
    {record : Record} (valid : record.Valid) :
    blobRecordCall (env index) (record.addr.bytes ++ shortBytes record.port)
        record.game.toUInt16 = some (some (env index, record.call record.gamename)) := by
  obtain ⟨entry, found, name, -⟩ := valid.entry
  have small := tableNumber_toNat valid.game
  have addr : recordAddr (record.addr.bytes ++ shortBytes record.port) = record.addr := rfl
  have port : recordPort (record.addr.bytes ++ shortBytes record.port) = ntohs record.port :=
    congrArg ntohs (bytesShort_shortBytes record.port)
  unfold blobRecordCall
  simp only [addr, port, resolves, small, found, htons_ntohs, name]
  rfl

theorem blobRecordCalls_valid
    (resolves : ∀ index addr, (env index).gethostbyname (inetNtoa addr) = some addr) (index : Nat)
    {records : List Record} (valid : ∀ record ∈ records, record.Valid) :
    ∃ calls, blobRecordCalls env index (records.map fun record =>
        (record.addr.bytes ++ shortBytes record.port, record.game.toUInt16)) = some calls ∧
      calls.map Prod.snd = records.map fun record => record.call record.gamename := by
  induction records generalizing index with
  | nil => exact ⟨[], rfl, rfl⟩
  | cons record records ih =>
      have here := blobRecordCall_valid resolves index (valid record (List.mem_cons_self ..))
      obtain ⟨calls, rest, names⟩ := ih (index + 1) fun other member =>
        valid other (List.mem_cons_of_mem _ member)
      refine ⟨(env index, record.call record.gamename) :: calls, ?_, ?_⟩
      · simp only [List.map_cons, blobRecordCalls, here, rest, Option.bind_eq_bind,
          Option.bind_some]
        rfl
      · rw [List.map_cons, List.map_cons, names]

/-- The reader calls `AddServer` once for each record of a file, in order. -/
theorem readMasterDBBlob_blobFile
    (resolves : ∀ index addr, (env index).gethostbyname (inetNtoa addr) = some addr)
    {records : List Record} (valid : ∀ record ∈ records, record.Valid) {stale : List UInt8}
    (word : stale.length = 2) :
    ∃ calls, readMasterDBBlob env (blobFile records) stale = some calls ∧
      calls.map Prod.snd = records.map fun record => record.call record.gamename := by
  have length : (blobFile records).length = 8 * records.length + 2 := by
    rw [blobFile, List.length_append, flatMap_bytes_length, shortBytes_length, Nat.add_comm]
  unfold readMasterDBBlob
  cases records with
  | nil => exact ⟨[], if_pos (by decide), rfl⟩
  | cons record rest =>
      rw [List.length_cons] at length
      have version : ¬ bytesShort ((blobFile (record :: rest)).getD 0 0)
          ((blobFile (record :: rest)).getD 1 0) ≠ gspyDbVersion := by
        rw [not_not]
        rfl
      have rounds : ((blobFile (record :: rest)).length - 2 + 7) / 8 = (record :: rest).length := by
        rw [length, List.length_cons]
        omega
      have body : (blobFile (record :: rest)).drop 2 = (record :: rest).flatMap Record.bytes := rfl
      rw [if_neg (by omega), if_neg version, if_neg (by omega), rounds, body,
        blobRecords_bytes _ _ _ (List.length_replicate ..) word]
      exact blobRecordCalls_valid resolves 0 valid

end Reading

/-! ## The registry that the reader builds -/

/-- The keys and the game names of a registry, in list order. -/
def roster (reg : ServerList) : List (ServerKey × CString) :=
  reg.servers.map Server.identity

theorem roster_eq (reg : ServerList) : roster reg = reg.cells.map fun cell => cell.2.identity := by
  rw [roster, ServerList.servers, List.map_map]
  rfl

/-- A call for an unregistered key appends its entry. -/
theorem addServer_roster {cfg : Config} {env : Env} {call : AddCall} {gamename : CString}
    {reg : ServerList} (accepted : call.accepted = some gamename)
    (unregistered : ∀ entry ∈ roster reg, entry.1 ≠ call.key) :
    roster (addServer cfg env call reg) = roster reg ++ [(call.key, gamename)] := by
  have missing : reg.find call.found = none := by
    refine List.find?_eq_none.mpr fun cell member passes => ?_
    refine unregistered cell.2.identity ?_ (found_iff.mp passes)
    rw [roster_eq]
    exact List.mem_map_of_mem member
  have identity : (newServer cfg env call gamename).identity = (call.key, gamename) := by
    rw [Server.identity, newServer_key, newServer_gamename cfg env call (accepted_some accepted).2]
  have added : addServer cfg env call reg = appendServer cfg env call gamename reg := by
    rw [addServer, accepted]
    simp only [missing]
  rw [added, roster_eq, roster_eq, appendServer, ServerList.send, ServerList.append,
    List.map_append,
    List.map_singleton, identity]

/-- Calls for distinct unregistered keys append their entries in order. -/
theorem addServers_roster {cfg : Config} {calls : List (Env × AddCall)} (reg : ServerList)
    {entries : List (ServerKey × CString)}
    (accepted : calls.map (fun call => (call.2.key, call.2.accepted)) =
      entries.map fun entry => (entry.1, some entry.2))
    (distinct : ((roster reg ++ entries).map Prod.fst).Nodup) :
    roster (addServers cfg calls reg) = roster reg ++ entries := by
  induction calls generalizing reg entries with
  | nil =>
      obtain rfl := List.map_eq_nil_iff.mp accepted.symm
      rw [List.append_nil]
      rfl
  | cons call calls ih =>
      cases entries with
      | nil => cases accepted
      | cons entry entries =>
          rw [List.map_cons, List.map_cons, List.cons.injEq, Prod.mk.injEq] at accepted
          obtain ⟨⟨key, game⟩, rest⟩ := accepted
          have regrouped : roster reg ++ entry :: entries = (roster reg ++ [entry]) ++ entries := by
            rw [List.append_assoc, List.singleton_append]
          have added : roster (addServer cfg call.1 call.2 reg) = roster reg ++ [entry] := by
            rw [addServer_roster game, key]
            intro other member same
            rw [List.map_append, List.map_cons, List.nodup_append] at distinct
            exact distinct.2.2 _ (List.mem_map_of_mem member) _ (List.mem_cons_self ..)
              (same.trans key)
          rw [addServers, List.foldl_cons, ← addServers,
            ih _ rest (by rw [added, ← regrouped]; exact distinct),
            added, regrouped]

/-- A fresh process registers the valid records of a file in order when their keys are distinct. -/
theorem read_blobFile (cfg : Config) {env : Nat → Env}
    (resolves : ∀ index addr, (env index).gethostbyname (inetNtoa addr) = some addr)
    {records : List Record} (valid : ∀ record ∈ records, record.Valid)
    (distinct : (records.map Record.key).Nodup) (stale : UInt16) :
    ∃ reg, exec cfg env (.readMasterDBBlob (blobFile records) (shortBytes stale))
        ServerList.initial = some reg ∧
      roster reg = records.map fun record => (record.key, record.gamename) := by
  obtain ⟨calls, read, names⟩ := readMasterDBBlob_blobFile resolves valid (shortBytes_length stale)
  refine ⟨addServers cfg calls ServerList.initial, by rw [exec, read]; rfl, ?_⟩
  refine addServers_roster ServerList.initial ?_ ?_
  · have accepted : (calls.map Prod.snd).map (fun call => (call.key, call.accepted)) =
        records.map fun record => (record.key, some record.gamename) := by
      rw [names, List.map_map]
      refine List.map_congr_left fun record member => ?_
      obtain ⟨entry, -, name, supported⟩ := (valid record member).entry
      rw [Function.comp_apply, name, Record.call_accepted (valid record member) supported]
      rfl
    rw [List.map_map] at accepted
    rw [List.map_map]
    exact accepted
  · rw [List.map_append, List.map_map]
    exact distinct

/-- A server of a sound registry makes a valid record, which names the entry its game matches. -/
theorem record_ofIdentity {reg : ServerList} (sound : reg.WellFormed)
    {identity : ServerKey × CString} (member : identity ∈ roster reg) :
    (Record.ofIdentity identity).Valid ∧
      tableName identity.2 = some (Record.ofIdentity identity).gamename := by
  rw [roster_eq] at member
  obtain ⟨cell, inside, rfl⟩ := List.mem_map.mp member
  have entry := ServerList.mem_identities inside
  obtain ⟨index, named, found, number, name⟩ := (sound.games _ entry).tableNumber
  have bound := (List.getElem?_eq_some_iff.mp found).1
  have small := tableNumber_toNat bound
  have game : (Record.ofIdentity cell.2.identity).game = index := by
    rw [Record.ofIdentity, number, small]
  refine ⟨⟨sound.ports _ entry, by rw [game]; exact bound⟩, ?_⟩
  rw [name, Record.gamename, game, found]
  rfl

/-- Writing what was read from a valid record gives the record back. -/
theorem ofIdentity_record {record : Record} (valid : record.Valid) :
    Record.ofIdentity (record.key, record.gamename) = record := by
  obtain ⟨entry, found, name, -⟩ := valid.entry
  have small := tableNumber_toNat valid.game
  rw [Record.ofIdentity, name, gameSpyGetTableNumber_entry found, small]
  rfl

/--
The database brings every reachable registry back with the canonical names of
its games, and the writer gives back every file of valid distinct records.
-/
theorem database_roundTrip (cfg : Config) (env : Nat → Env)
    (resolves : ∀ index addr, (env index).gethostbyname (inetNtoa addr) = some addr)
    (stale : UInt16) :
    (∀ reg : ServerList, reg.Reachable cfg →
      ∃ reg', exec cfg env (.readMasterDBBlob (generateMasterDBBlob reg.servers) (shortBytes stale))
          ServerList.initial = some reg' ∧
        reg'.servers.map (fun server => (server.key, some server.gamename)) =
          reg.servers.map fun server => (server.key, tableName server.gamename)) ∧
    ∀ records : List Record, records ≠ [] → (∀ record ∈ records, record.Valid) →
      (records.map Record.key).Nodup →
        ∃ reg', exec cfg env (.readMasterDBBlob (blobFile records) (shortBytes stale))
            ServerList.initial = some reg' ∧
          generateMasterDBBlob reg'.servers = blobFile records := by
  constructor
  · intro reg reached
    have sound := reached.wellFormed
    have valid : ∀ record ∈ (roster reg).map Record.ofIdentity, record.Valid := by
      intro record member
      obtain ⟨identity, inside, rfl⟩ := List.mem_map.mp member
      exact (record_ofIdentity sound inside).1
    have distinct : (((roster reg).map Record.ofIdentity).map Record.key).Nodup := by
      have keys := sound.keys
      rw [ServerList.identities, List.map_map] at keys
      rw [roster_eq, List.map_map, List.map_map]
      exact keys
    obtain ⟨reg', done, entries⟩ := read_blobFile cfg resolves valid distinct stale
    refine ⟨reg', ?_, ?_⟩
    · rw [generateMasterDBBlob_records]
      rw [roster, List.map_map] at done
      exact done
    · have names : (roster reg').map (fun entry => (entry.1, some entry.2)) =
          (roster reg).map fun entry => (entry.1, tableName entry.2) := by
        rw [entries, List.map_map, List.map_map]
        refine List.map_congr_left fun identity member => ?_
        rw [Function.comp_apply, Function.comp_apply, (record_ofIdentity sound member).2]
        rfl
      rw [roster, roster, List.map_map, List.map_map] at names
      exact names
  · intro records _ valid distinct
    obtain ⟨reg', done, entries⟩ := read_blobFile cfg resolves valid distinct stale
    refine ⟨reg', done, ?_⟩
    have written : (roster reg').map Record.ofIdentity = records := by
      rw [entries, List.map_map]
      calc
        _ = records.map id :=
          List.map_congr_left fun record member => ofIdentity_record (valid record member)
        _ = records := List.map_id records
    rw [generateMasterDBBlob_records]
    rw [roster, List.map_map] at written
    exact congrArg blobFile written

/-- The heartbeat of a server that does not spell its game as the table does. -/
def loudHeartbeat : Operation :=
  .heartBeat unrealServer (ascii "heartbeat\\7778\\gamename\\UNREAL")

/-- Its registry comes back, and so does a file with a Quake 2 server and an Unreal server. -/
theorem database_roundTrip_twoServers :
    (∃ reg reg' : ServerList,
      exec defaultConfig (fun _ => quietEnv) loudHeartbeat ServerList.initial = some reg ∧
      reg.servers.map Server.gamename = [ascii "UNREAL"] ∧
      exec defaultConfig (fun _ => { quietEnv with gethostbyname := dottedQuad })
          (.readMasterDBBlob (generateMasterDBBlob reg.servers) (shortBytes 0)) ServerList.initial =
        some reg' ∧
      reg'.servers.map (fun server => (server.key, some server.gamename)) =
        [(⟨⟨10, 0, 0, 2⟩, htons 7778⟩, some (ascii "unreal"))]) ∧
    ∃ reg : ServerList,
      exec defaultConfig (fun _ => { quietEnv with gethostbyname := dottedQuad })
          (.readMasterDBBlob (blobFile [⟨⟨10, 0, 0, 1⟩, htons 27910, 11⟩,
            ⟨⟨10, 0, 0, 2⟩, htons 7778, 17⟩]) (shortBytes 0)) ServerList.initial = some reg ∧
        generateMasterDBBlob reg.servers = blobFile [⟨⟨10, 0, 0, 1⟩, htons 27910, 11⟩,
          ⟨⟨10, 0, 0, 2⟩, htons 7778, 17⟩] := by
  obtain ⟨saved, written⟩ := database_roundTrip defaultConfig
    (fun _ => { quietEnv with gethostbyname := dottedQuad })
    (fun _ addr => dottedQuad_inetNtoa addr) 0
  constructor
  · obtain ⟨reg', read, entries⟩ :=
      saved _ (Relation.ReflTransGen.single ⟨fun _ => quietEnv, loudHeartbeat, rfl⟩)
    exact ⟨_, reg', rfl, rfl, read, entries.trans (by decide)⟩
  · refine written _ (List.cons_ne_nil _ _) ?_ (by decide)
    intro record member
    simp only [List.mem_cons, List.not_mem_nil, or_false] at member
    rcases member with rfl | rfl
    · exact ⟨by decide, by decide⟩
    · exact ⟨by decide, by decide⟩

end GSMaster.Database
