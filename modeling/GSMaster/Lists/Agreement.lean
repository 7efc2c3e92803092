import GSMaster.Lists.FileList
import GSMaster.Lists.Reading
import GSMaster.Registry.Entries
import GSMaster.Registry.MasterList
import GSMaster.Registry.MemorySafety

/-!
# Where the publishers agree

The UDP list and the list files leave out entries whose source port or port is
zero; the TCP lists do not. Where every entry has been registered from a
source port other than zero, they list the same servers, but the uncompressed
TCP list names the client where a record begins a block.
-/

namespace GSMaster.Lists

open GSMaster.Text GSMaster.Net GSMaster.Games GSMaster.Registry GSMaster.Library ServerList

/-! ## Where an entry comes from -/

/-- A datagram that can register a server comes from a port other than zero, or it is a list. -/
def FromPort : Operation → Prop
  | .addServer call => call.sender.sinPort ≠ 0
  | .heartBeat sender _ => sender.sinPort ≠ 0
  | _ => True

/-- A run, with the operation that made the entry of each block. -/
inductive Makers (cfg : Config) : (Nat → Option Operation) → ServerList → Prop where
  | start : Makers cfg (fun _ => none) ServerList.initial
  | step {maker : Nat → Option Operation} {reg reg' : ServerList} (env : Nat → Env)
      (op : Operation) (run : Makers cfg maker reg) (done : exec cfg env op reg = some reg') :
      Makers cfg (fun block =>
        if reg.nextBlock ≤ block ∧ block < reg'.nextBlock then some op else maker block) reg'

/-- The calls of the list readers have the port of the server as their source port. -/
theorem udpRecordCalls_port {env : Nat → Env} {gamename : CString} {records index : Nat}
    {tmp : List UInt8} :
    ∀ call ∈ udpRecordCalls env gamename records index tmp,
      call.2.sender.sinPort = call.2.queryPort := by
  induction records generalizing index tmp with
  | zero => exact fun _ member => nomatch member
  | succ records ih =>
      intro call member
      rcases List.mem_append.mp member with here | later
      · obtain ⟨addr, -, rfl⟩ := Option.map_eq_some_iff.mp (Option.mem_toList.mp here)
        rfl
      · exact ih call later

theorem addServersFromListExecute_port {env : Env} {fileBuffer : CString}
    {gamename : Option CString} {call : Env × AddCall}
    (read : addServersFromListExecute env fileBuffer gamename = some call) :
    call.2.sender.sinPort = call.2.queryPort := by
  obtain ⟨ip, listPtr, addr, port, named, -, -, rfl⟩ := addServersFromListExecute_some read
  rfl

theorem blobRecordCalls_port {env : Nat → Env} {index : Nat}
    {records : List (List UInt8 × UInt16)} {calls : List (Env × AddCall)}
    (read : blobRecordCalls env index records = some calls) :
    ∀ call ∈ calls, call.2.sender.sinPort = call.2.queryPort := by
  induction records generalizing index calls with
  | nil =>
      cases read
      exact fun _ member => nomatch member
  | cons record records ih =>
      obtain ⟨first, here, rest⟩ := Option.bind_eq_some_iff.mp read
      obtain ⟨others, later, joined⟩ := Option.bind_eq_some_iff.mp rest
      cases joined
      intro call member
      rcases List.mem_append.mp member with inside | inside
      · obtain rfl := Option.mem_toList.mp inside
        unfold blobRecordCall at here
        simp only at here
        split at here
        · cases here
        · split at here
          · cases here
          · cases here
            rfl
      · exact ih later call inside

theorem calls_port {env : Nat → Env} {op : Operation} (fromPort : FromPort op)
    {call : Env × AddCall} (member : call ∈ op.calls env) (registers : call.2.queryPort ≠ 0) :
    call.2.sender.sinPort ≠ 0 := by
  cases op with
  | addServer other =>
      obtain rfl := List.mem_singleton.mp member
      exact fromPort
  | heartBeat sender data =>
      obtain ⟨request, -, rfl⟩ := Option.map_eq_some_iff.mp (Option.mem_toList.mp member)
      exact fromPort
  | parseUDPMSList tmp gamename size =>
      change call ∈ (if size < 6 then [] else _) at member
      split at member
      · cases member
      · rw [udpRecordCalls_port call member]
        exact registers
  | addServersFromListExecute fileBuffer gamename =>
      rw [addServersFromListExecute_port (Option.mem_toList.mp member)]
      exact registers
  | readMasterDBBlob file stale =>
      change call ∈ (readMasterDBBlob env file stale).getD [] at member
      unfold readMasterDBBlob at member
      split at member
      · cases member
      · split at member
        · cases member
        · split at member
          · cases member
          · cases read : blobRecordCalls env 0 (blobRecords ((file.length - 2 + 7) / 8)
                (file.drop 2) (List.replicate 6 0) stale) with
            | none =>
                rw [read] at member
                cases member
            | some calls =>
                rw [read] at member
                rw [blobRecordCalls_port read call member]
                exact registers
  | _ => cases member

theorem writes_ip {cfg : Config} {env : Nat → Env} {op : Operation} {server server' : Server}
    (writes : op.Writes cfg env server server') : server'.ip = server.ip := by
  refine Operation.Writes.keeps (fun other => other.ip = server.ip) writes ?_ ?_ ?_ ?_ rfl
  · exact fun env other same => same
  · intro env dataPacket dglen same
    obtain ⟨serverInfo, nqData, stored⟩ := ackServer_stores cfg env dataPacket dglen server
    rw [stored]
  · exact fun env request sender found same => same
  · intro env state visited same
    rcases runFrameVisit_kept visited with rfl | ⟨lastPing, rand, rfl⟩
    · rfl
    · rfl

theorem Makers.wellFormed {cfg : Config} {maker : Nat → Option Operation} {reg : ServerList}
    (run : Makers cfg maker reg) : reg.WellFormed := by
  induction run with
  | start => exact initial_wellFormed
  | step _ _ _ done ih => exact (exec_sound ih done).1

/-- An entry keeps the source port of the operation that made it. -/
theorem Makers.sinPort {cfg : Config} {maker : Nat → Option Operation} {reg : ServerList}
    (run : Makers cfg maker reg) :
    ∀ cell ∈ reg.cells, ∃ op, maker cell.1 = some op ∧ (FromPort op → cell.2.ip.sinPort ≠ 0) := by
  induction run with
  | start => exact fun _ member => nomatch member
  | @step maker reg reg' env op run done ih =>
      intro cell member
      have sound := run.wellFormed
      have sound' := (exec_sound sound done).1
      have allocated := (sound'.allocated _ (mem_identities member)).2
      rcases exec_comes sound done cell member with ⟨server, held, writes⟩ | ⟨new, made⟩
      · obtain ⟨origin, made, source⟩ := ih _ held
        have old := (sound.allocated _ (mem_identities held)).2
        have earlier : ¬ (reg.nextBlock ≤ cell.1 ∧ cell.1 < reg'.nextBlock) :=
          fun inside => Nat.not_lt.mpr inside.1 old
        refine ⟨origin, (if_neg earlier).trans made, fun fromPort => ?_⟩
        rw [writes_ip writes]
        exact source fromPort
      · obtain ⟨call, called, gamename, accepted, same⟩ := made
        refine ⟨op, if_pos ⟨new, allocated⟩, fun fromPort => ?_⟩
        rw [same]
        exact calls_port fromPort called (accepted_some accepted).1

/-! ## The texts of the lists -/

/-- The six bytes of a server in a binary list. -/
def keyBytes (key : ServerKey) : List UInt8 :=
  key.1.bytes ++ shortBytes key.2

/-- The address and the port of a server in digits. -/
def keyText (key : ServerKey) : CString :=
  inetNtoa key.1 ++ ascii ":" ++ decimal (ntohs key.2).toNat

theorem keyText_length_le (key : ServerKey) : (keyText key).length ≤ 21 := by
  have ip := inetNtoa_length_le key.1
  have port := portText_length_le key.2
  have colon : (ascii ":").length = 1 := rfl
  simp only [keyText, List.length_append]
  omega

/-- A line and its newline fit into the buffer of 23 bytes. -/
theorem serverLine_eq (server : Server) :
    serverLine server = keyText server.key ++ ascii "\n" := by
  have short := keyText_length_le server.key
  have newline : (ascii "\n").length = 1 := rfl
  refine List.take_of_length_le ?_
  change (keyText server.key ++ ascii "\n").length ≤ 22
  rw [List.length_append]
  omega

/-- The file that `GenerateServersList` opens for a game. -/
def serverFile (serverListGenerationPath gamename : CString) : CString :=
  (serverListGenerationPath ++ ascii "\\" ++ gamename ++ ascii ".txt").take (maxPath - 1)

theorem serverFile_written {entry : GameTableEntry} (member : entry ∈ gameTable) (cfg : Config)
    {path : CString} (named : path ≠ []) {fopen : CString → Bool}
    (opens : fopen (serverFile path entry.gamename) = true) (servers : List Server) :
    (serverFile path entry.gamename, serversFileLoop cfg entry.gamename [] servers) ∈
      generateServersList cfg true path fopen servers := by
  unfold generateServersList
  rw [if_neg (by simp [named])]
  exact List.mem_filterMap.mpr ⟨entry, member, if_pos opens⟩

/-- A filter none of whose fields is set. -/
def EmptyFilter (filter : Option GamespyFilter) : Prop :=
  ∀ f ∈ filter, f.mapname = [] ∧ f.gamemode = [] ∧ f.gametype = [] ∧ f.location = 0

theorem inGameSpyFilter_empty {filter : Option GamespyFilter} (empty : EmptyFilter filter)
    (serverInfo : CString) : inGameSpyFilter filter serverInfo = true := by
  cases filter with
  | none => rfl
  | some filter =>
      obtain ⟨mapname, gamemode, gametype, location⟩ := empty filter rfl
      simp [inGameSpyFilter, mapname, gamemode, gametype, location]

/-- The servers of a list over TCP are those of the list over UDP where no port is zero. -/
theorem listedServers_udp (cfg : Config) (gamename : CString) {filter : Option GamespyFilter}
    (empty : EmptyFilter filter) {servers : List Server}
    (ports : ∀ server ∈ servers, server.ip.sinPort ≠ 0 ∧ server.port ≠ 0) :
    listedServers cfg gamename filter servers = servers.filter (udpListed cfg gamename) := by
  refine List.filter_congr fun server member => ?_
  obtain ⟨source, port⟩ := ports server member
  rw [Bool.eq_iff_iff, decide_eq_true_eq, ← tcpListed_iff, tcpListed, udpListed,
    inGameSpyFilter_empty empty]
  simp [source, port]

/-- The text of a plain list in either style. -/
theorem listText_keys (keys : List ServerKey) :
    listText 0 true keys = keys.flatMap keyBytes ++ ascii "\\final\\" ∧
      listText 0 false keys =
        ascii "\\" ++ (keys.flatMap fun key => ascii "ip\\" ++ keyText key ++ ascii "\\") ++
          ascii "final\\" := by
  have record : entryBytes false = fun key => ascii "ip\\" ++ keyText key ++ ascii "\\" := by
    funext key
    simp only [entryBytes, keyText, List.append_assoc]
    rfl
  rw [listText, listText, record]
  exact ⟨rfl, rfl⟩

/-! ## The agreement -/

/-- The games that have a list over UDP. -/
def udpGames : List CString :=
  [ascii "hexenworld", ascii "kingpin", ascii "quakeworld", ascii "quake2", ascii "daikatana"]

theorem udpGames_header {gamename : CString} (member : gamename ∈ udpGames) :
    gamename ≠ [] ∧ (∃ udpheader, udpHeader gamename = some udpheader) ∧
      ∃ entry ∈ gameTable, entry.gamename = gamename := by
  simp only [udpGames, List.mem_cons, List.not_mem_nil, or_false] at member
  rcases member with rfl | rfl | rfl | rfl | rfl
  all_goals exact ⟨by decide, Option.isSome_iff_exists.mp (by decide), by decide⟩

/--
The UDP reply, both plain replies over TCP and the list file of a game give
these addresses and ports in this order, and no line of the file is cut.
-/
structure AllPublish (cfg : Config) (sink : Sink UInt8) (cipher : CipherEnv) (sender : InAddr)
    (gamename challengeKey : CString) (filter : Option GamespyFilter) (path : CString)
    (fopen : CString → Bool) (servers : List Server) (keys : List ServerKey) : Prop where
  udp : ∃ udpheader, udpHeader gamename = some udpheader ∧
    sendUDPServerListToClient cfg gamename servers = some (udpheader ++ keys.flatMap keyBytes)
  compressed :
    (sendGameSpyListToClient cfg sink cipher sender gamename challengeKey 0 true filter
        servers).toOption.map (fun list => list.sent.flatten) =
      some (keys.flatMap keyBytes ++ ascii "\\final\\")
  uncompressed :
    (sendGameSpyListToClient cfg sink cipher sender gamename challengeKey 0 false filter
        servers).toOption.map (fun list => list.sent.flatten) =
      some (ascii "\\" ++ (keys.flatMap fun key => ascii "ip\\" ++ keyText key ++ ascii "\\") ++
        ascii "final\\")
  file : (serverFile path gamename, keys.flatMap fun key => keyText key ++ ascii "\n") ∈
    generateServersList cfg true path fopen servers

/-- In the registry of a run that registers servers from ports only, no port is zero. -/
theorem Makers.ports {cfg : Config} {maker : Nat → Option Operation} {reg : ServerList}
    (run : Makers cfg maker reg)
    (fromPorts : ∀ cell ∈ reg.cells, ∀ op, maker cell.1 = some op → FromPort op) :
    ∀ server ∈ reg.servers, server.ip.sinPort ≠ 0 ∧ server.port ≠ 0 := by
  intro server member
  obtain ⟨cell, held, rfl⟩ := List.mem_map.mp member
  obtain ⟨op, made, source⟩ := run.sinPort cell held
  exact ⟨source (fromPorts cell held op made), run.wellFormed.ports _ (mem_identities held)⟩

/-- Where no port is zero, the four publications agree if no client is named as a server. -/
theorem allPublish_iff {cfg : Config} {gamename : CString} (game : gamename ∈ udpGames)
    {sink : Sink UInt8} (full : sink.Full) (cipher : CipherEnv) (sender : InAddr)
    (challengeKey : CString) {filter : Option GamespyFilter} (empty : EmptyFilter filter)
    {path : CString} (named : path ≠ []) {fopen : CString → Bool}
    (opens : fopen (serverFile path gamename) = true) {servers : List Server}
    (ports : ∀ server ∈ servers, server.ip.sinPort ≠ 0 ∧ server.port ≠ 0) :
    (∃ keys, AllPublish cfg sink cipher sender gamename challengeKey filter path fopen servers
        keys) ↔
      ∀ server ∈ openers sender 0 false 1 (listedServers cfg gamename filter servers),
        server.ip.sinAddr = sender := by
  obtain ⟨nonempty, ⟨udpheader, header⟩, entry, inTable, rfl⟩ := udpGames_header game
  have same := listedServers_udp cfg entry.gamename empty ports
  have sent (bCompressed : Bool) := (sendGameSpyListToClient_full full cfg cipher sender nonempty
    challengeKey 0 bCompressed filter servers).1
  have plain (text : List UInt8) : encoded cipher challengeKey 0 text = some text := rfl
  simp only [plain] at sent
  have compressed : namedEntries sender 0 true (headerLength true)
      (listedServers cfg entry.gamename filter servers) =
        (listedServers cfg entry.gamename filter servers).map (entryOf 0) := by
    refine (namedEntries_eq_iff _ _).mpr ?_
    rw [openers_eq_nil (Or.inr rfl)]
    exact fun _ member => nomatch member
  rw [← namedEntries_eq_iff]
  constructor
  · rintro ⟨keys, all⟩
    have first := (sent true).symm.trans all.compressed
    have second := (sent false).symm.trans all.uncompressed
    rw [← (listText_keys keys).1, Option.some.injEq, listText_inj, compressed] at first
    rw [← (listText_keys keys).2, Option.some.injEq, listText_inj, ← first] at second
    exact second
  · intro exact
    refine ⟨(listedServers cfg entry.gamename filter servers).map (entryOf 0),
      ⟨udpheader, header, ?_⟩, ?_, ?_, ?_⟩
    · rw [sendUDPServerListToClient, header, Option.map_some, udpListLoop_eq, same,
        List.flatMap_map]
      rfl
    · rw [sent, compressed, (listText_keys _).1]
    · refine (sent false).trans ?_
      change some (listText 0 false (namedEntries sender 0 false 1 _)) = _
      rw [exact, (listText_keys _).2]
    · have written := serverFile_written inTable cfg named opens servers
      rw [serversFileLoop_eq, List.nil_append, funext serverLine_eq] at written
      rw [same, List.flatMap_map]
      exact written

/--
In every registry that is registered from ports the publishers agree on the
servers of a game exactly if every server whose record begins a new block of
the uncompressed list has the address of the client.
-/
theorem publishers_agree_iff (cfg : Config) (maker : Nat → Option Operation) (reg : ServerList)
    (run : Makers cfg maker reg)
    (fromPorts : ∀ cell ∈ reg.cells, ∀ op, maker cell.1 = some op → FromPort op)
    (gamename : CString) (game : gamename ∈ udpGames) (sink : Sink UInt8)
    (full : sink.Full) (cipher : CipherEnv) (sender : InAddr)
    (challengeKey : CString) (filter : Option GamespyFilter) (empty : EmptyFilter filter)
    (path : CString) (named : path ≠ []) (fopen : CString → Bool)
    (opens : fopen (serverFile path gamename) = true) :
    (∃ keys, AllPublish cfg sink cipher sender gamename challengeKey filter path fopen
        reg.servers keys) ↔
      ∀ server ∈ openers sender 0 false 1 (listedServers cfg gamename filter reg.servers),
        server.ip.sinAddr = sender :=
  allPublish_iff game full cipher sender challengeKey empty named opens (run.ports fromPorts)

/-- The settings under which a new server is listed at once. -/
def immediately : Config :=
  { defaultConfig with bValidateNewserverImmediately := true }

theorem publishers_agree_iff_quake2 :
    ∃ (maker : Nat → Option Operation) (reg : ServerList) (keys : List ServerKey),
      Makers immediately maker reg ∧ keys.flatMap keyBytes = [10, 0, 0, 1, 109, 6] ∧
        sendUDPServerListToClient immediately (ascii "quake2") reg.servers =
          some (q2ReplyHdr ++ keys.flatMap keyBytes) := by
  have run : Makers immediately _ _ :=
    (Makers.start).step (fun _ => quietEnv) quake2Heartbeat rfl
  obtain ⟨keys, all⟩ := (publishers_agree_iff immediately _ _ run
    (by
      rintro cell member op made
      obtain rfl := List.mem_singleton.mp member
      obtain rfl : quake2Heartbeat = op := Option.some.inj made
      exact (by decide : quake2Server.sinPort ≠ 0))
    (ascii "quake2") (by decide) openSocket (fun _ _ => rfl)
    ⟨fun _ => 0, ⟨ByteTable.ofFn id, 0, 0, 0, 0, 0⟩⟩ ⟨10, 0, 0, 5⟩ (ascii "HKUGFD") none
    (fun _ none => nomatch none) (ascii "lists") (by decide) (fun _ => true) rfl).mpr
      (by decide +kernel)
  obtain ⟨udpheader, header, listed⟩ := all.udp
  obtain rfl : q2ReplyHdr = udpheader := Option.some.inj header
  have reply : q2ReplyHdr ++ keys.flatMap keyBytes = q2ReplyHdr ++ [10, 0, 0, 1, 109, 6] :=
    Option.some.inj (listed.symm.trans rfl)
  exact ⟨_, _, keys, run, List.append_cancel_left reply, listed⟩

/-- A list of the crowd from another master. -/
def crowdedList : Operation :=
  .parseUDPMSList (crowd.flatMap serverBytes) (ascii "quake2") (6 * crowd.length)

/-- The registry after that list. -/
def crowdedRegistry : Option ServerList :=
  exec immediately (fun _ => numericEnv) crowdedList ServerList.initial

/-- To a client elsewhere the uncompressed list names the client where the others name a server. -/
theorem publishers_disagree :
    ¬ ∀ (cfg : Config) (maker : Nat → Option Operation) (reg : ServerList), Makers cfg maker reg →
      (∀ cell ∈ reg.cells, ∀ op, maker cell.1 = some op → FromPort op) →
      ∀ gamename ∈ udpGames, ∀ sink : Sink UInt8, sink.Full → ∀ (cipher : CipherEnv)
        (sender : InAddr) (challengeKey : CString) (filter : Option GamespyFilter),
        EmptyFilter filter → ∀ path, path ≠ [] → ∀ fopen : CString → Bool,
        fopen (serverFile path gamename) = true →
          ∃ keys, AllPublish cfg sink cipher sender gamename challengeKey filter path fopen
            reg.servers keys := by
  intro always
  obtain ⟨reg, made⟩ : ∃ reg, crowdedRegistry = some reg :=
    Option.isSome_iff_exists.mp (by decide +kernel)
  have run : Makers immediately _ reg := (Makers.start).step (fun _ => numericEnv) _ made
  have fromPorts : ∀ cell ∈ reg.cells, ∀ op,
      (if ServerList.initial.nextBlock ≤ cell.1 ∧ cell.1 < reg.nextBlock then
        some crowdedList else none) = some op → FromPort op := by
    intro cell _ op named
    split at named
    · cases named
      exact trivial
    · cases named
  have full : openSocket.Full := fun _ _ => rfl
  have game : ascii "quake2" ∈ udpGames := by decide
  have empty : EmptyFilter none := fun _ none => nomatch none
  have opens : (fun _ : CString => true) (serverFile (ascii "lists") (ascii "quake2")) = true := rfl
  have all := always immediately _ reg run fromPorts _ game openSocket full
    ⟨fun _ => 0, ⟨ByteTable.ofFn id, 0, 0, 0, 0, 0⟩⟩ ⟨10, 0, 0, 5⟩ (ascii "HKUGFD") none empty
    (ascii "lists") (by decide) (fun _ => true) opens
  rw [allPublish_iff game full _ _ _ empty (by decide) opens (run.ports fromPorts)] at all
  have elsewhere : crowdedRegistry.all (fun reg => (openers ⟨10, 0, 0, 5⟩ 0 false 1
      (listedServers immediately (ascii "quake2") none reg.servers)).any
        fun server => server.ip.sinAddr != ⟨10, 0, 0, 5⟩) = true := by
    decide +kernel
  rw [made] at elsewhere
  obtain ⟨server, member, apart⟩ := List.any_eq_true.mp elsewhere
  exact bne_iff_ne.mp apart (all server member)

end GSMaster.Lists
