import GSMaster.Packets.Isolation

/-!
# What a shutdown announcement does

A server announces its shutdown by a command, by a message of its own or in a
heartbeat. The latter two reach `HeartBeat`, which registers every server that
it does not know, whatever the heartbeat says. Of a heartbeat in the style of
QuakeWorld, HexenWorld or Quake 2 it is given a text without the announcement.
-/

namespace GSMaster.Packets

open GSMaster.Text GSMaster.Net GSMaster.Games GSMaster.Registry ServerList

/-- The datagrams that announce the shutdown of a server. -/
inductive AnnouncesShutdown (sender : SockaddrIn) (received : List UInt8) : Prop where
  | message (short : received.length ≤ 4)
      (same : memcmpEq received hwServerShutdown = true ∨ memcmpEq received qwServerShutdown = true)
  | heartBeat (data : List UInt8) (parsed : parseUDPPacket sender received = .heartBeat data)
      (statechanged : announcesShutdown (cstr received) = true)
  | command (parsed : parseUDPPacket sender received = .queueShutdown)

/-- The address and the port of the server that a datagram speaks of. -/
def announcedKey (sender : SockaddrIn) (received : List UInt8) : Option ServerKey :=
  match parseUDPPacket sender received with
  | .heartBeat data =>
      (parseHeartBeat data).map fun request => (sender.sinAddr, htons request.queryPort)
  | .queueShutdown => some (sender.sinAddr, sender.sinPort)
  | _ => none

/-- The announced server waits for its shutdown, and nothing else has happened. -/
structure ShutsDown (announced : Option ServerKey) (reg reg' : ServerList) : Prop where
  gains : ∀ cell ∈ reg'.cells, reg.Holds cell.1
  known : ∀ cell ∈ reg.cells, announced = some cell.2.key →
    ∃ server : Server, server.shutdownIssued = true ∧ reg'.cells = (reg.set cell.1 server).cells
  unknown : (∀ cell ∈ reg.cells, announced ≠ some cell.2.key) → reg' = reg

/--
The heartbeat that the announcement is, if it is one, is for a registered
server, and the text that `HeartBeat` is given announces it too or the server
waits for its shutdown already; or it is for another server, which `AddServer`
rejects.
-/
def ShutOrRejected (reg : ServerList) (sender : SockaddrIn) (received : List UInt8) : Prop :=
  ∀ data request, parseUDPPacket sender received = .heartBeat data →
    parseHeartBeat data = some request →
      (∃ cell ∈ reg.cells, cell.2.key = (sender.sinAddr, htons request.queryPort) ∧
        (announcesShutdown (cstr data) = true ∨ cell.2.shutdownIssued = true)) ∨
      (∀ cell ∈ reg.cells, cell.2.key ≠ (sender.sinAddr, htons request.queryPort)) ∧
        (request.addCall sender).accepted = none

/-! ## The messages of QuakeWorld and HexenWorld -/

theorem decimal_plain {value : Nat} {c : UInt8} (member : c ∈ decimal value) :
    c ≠ 0 ∧ [backslash].contains c = false := by
  obtain ⟨digit, rfl⟩ := exists_digit (isDigit_of_mem_decimal member)
  clear member
  revert digit
  decide

/-- The text before the port and the text after it. -/
theorem shutdownText_eq (sender : SockaddrIn) (gamename : CString) :
    shutdownText sender gamename = ascii "heartbeat\\" ++ (decimal (ntohs sender.sinPort).toNat ++
      backslash :: (ascii "gamename\\" ++ gamename ++ ascii "\\statechanged\\2")) := by
  simp [shutdownText, heartbeatText, ascii, backslash]

/-- Neither of the two messages has the pattern before the end of its text. -/
theorem strstr_shutdownText {c : UInt8} (notDigit : isDigit c = false) (others : CString)
    (sender : SockaddrIn) (gamename : CString) :
    strstr (backslash :: c :: others) (shutdownText sender gamename) =
      strstr (backslash :: c :: others)
        (backslash :: (ascii "gamename\\" ++ gamename ++ ascii "\\statechanged\\2")) := by
  obtain ⟨d, digits, port⟩ :=
    List.exists_cons_of_ne_nil (decimal_ne_nil (ntohs sender.sinPort).toNat)
  have plain (e : UInt8) (member : e ∈ d :: digits) : e ≠ backslash := by
    rw [← port] at member
    have found := (decimal_plain member).2
    simpa using found
  have digit : isDigit d = true :=
    isDigit_of_mem_decimal (port ▸ List.mem_cons_self .. : d ∈ decimal (ntohs sender.sinPort).toNat)
  have differs : (backslash :: c :: others).isPrefixOf (backslash :: d :: (digits ++
      backslash :: (ascii "gamename\\" ++ gamename ++ ascii "\\statechanged\\2"))) = false := by
    have apart : c ≠ d := by
      rintro rfl
      rw [digit] at notDigit
      cases notDigit
    rw [List.isPrefixOf_cons_cons, List.isPrefixOf_cons_cons, beq_eq_false_iff_ne.mpr apart]
    rfl
  have letters : ascii "heartbeat\\" = ascii "heartbeat" ++ [backslash] := rfl
  rw [shutdownText_eq, letters, List.append_assoc, strstr_skip (by decide), List.singleton_append,
    port, List.cons_append, strstr, if_neg (by rw [differs]; exact Bool.false_ne_true),
    ← List.cons_append, strstr_skip fun member => plain backslash member rfl]

section Announcement

variable (sender : SockaddrIn) {gamename : CString}
  (game : gamename = ascii "hexenworld" ∨ gamename = ascii "quakeworld")

include game

theorem cstr_shutdownText : cstr (shutdownText sender gamename) = shutdownText sender gamename := by
  refine cstr_of_forall fun c member => ?_
  rw [shutdownText_eq] at member
  have start : 0 ∉ ascii "heartbeat\\" := by decide
  have last : 0 ∉ backslash :: (ascii "gamename\\" ++ gamename ++
      ascii "\\statechanged\\2") := by
    rcases game with rfl | rfl
    · decide
    · decide
  rcases List.mem_append.mp member with early | rest
  · exact fun zero => start (zero ▸ early)
  · rcases List.mem_append.mp rest with port | rest
    · exact (decimal_plain port).1
    · exact fun zero => last (zero ▸ rest)

theorem announcesShutdown_shutdownText :
    announcesShutdown (shutdownText sender gamename) = true := by
  unfold announcesShutdown contains
  rw [show ascii "\\statechanged\\" = backslash :: 115 :: ascii "tatechanged\\" from rfl,
    show ascii "\\statechanged\\1" = backslash :: 115 :: ascii "tatechanged\\1" from rfl,
    strstr_shutdownText (by decide), strstr_shutdownText (by decide)]
  rcases game with rfl | rfl
  · decide
  · decide

/-- The message is read as a heartbeat that announces a shutdown of this game on the port. -/
theorem parseHeartBeat_shutdownText : parseHeartBeat (shutdownText sender gamename) =
    some ⟨ntohs sender.sinPort, some gamename, true⟩ := by
  have text := cstr_shutdownText sender game
  have dropped : (shutdownText sender gamename).drop 10 = decimal (ntohs sender.sinPort).toNat ++
      backslash :: (ascii "gamename\\" ++ gamename ++ ascii "\\statechanged\\2") := by
    rw [shutdownText_eq]
    exact List.drop_left' rfl
  have rest : cstr ((shutdownText sender gamename).drop 10) =
      (shutdownText sender gamename).drop 10 := by
    refine cstr_of_forall fun c member => ?_
    have inside := List.mem_of_mem_drop member
    rw [← text] at inside
    simpa using List.mem_takeWhile_imp inside
  have token : strtok [backslash] (some (decimal (ntohs sender.sinPort).toNat ++
      backslash :: (ascii "gamename\\" ++ gamename ++ ascii "\\statechanged\\2"))) =
      (some (decimal (ntohs sender.sinPort).toNat),
        some (ascii "gamename\\" ++ gamename ++ ascii "\\statechanged\\2")) :=
    strtok_delimited (decimal_ne_nil _) (fun c member => (decimal_plain member).2) (by decide) _
  have named : shutdownText sender gamename ≠ [] := by
    rw [shutdownText_eq]
    exact List.cons_ne_nil _ _
  unfold parseHeartBeat
  rw [text, if_neg named, rest, dropped]
  simp only [token, announcesShutdown_shutdownText sender game, port_decimal]
  rcases game with rfl | rfl
  · rfl
  · rfl

end Announcement

theorem parseUDPPacket_hwServerShutdown (sender : SockaddrIn) {received : List UInt8}
    (short : received.length ≤ 4) (same : memcmpEq received hwServerShutdown = true) :
    parseUDPPacket sender received = .heartBeat (shutdownText sender (ascii "hexenworld")) := by
  match received, short with
  | [], _ => cases (eq_of_beq same : [0, 0, 0] = hwServerShutdown)
  | [a], _ => cases (eq_of_beq same : [a, 0, 0] = hwServerShutdown)
  | [a, b], _ => cases (eq_of_beq same : [a, b, 0] = hwServerShutdown)
  | [a, b, c], _ => cases (eq_of_beq same : [a, b, c] = hwServerShutdown); rfl
  | [a, b, c, d], _ => cases (eq_of_beq same : [a, b, c] = hwServerShutdown); rfl

theorem parseUDPPacket_qwServerShutdown (sender : SockaddrIn) {received : List UInt8}
    (short : received.length ≤ 4) (same : memcmpEq received qwServerShutdown = true) :
    parseUDPPacket sender received = .heartBeat (shutdownText sender (ascii "quakeworld")) := by
  match received, short with
  | [], _ => cases (eq_of_beq same : [0, 0] = qwServerShutdown)
  | [a], _ => cases (eq_of_beq same : [a, 0] = qwServerShutdown)
  | [a, b], _ => cases (eq_of_beq same : [a, b] = qwServerShutdown); rfl
  | [a, b, c], _ => cases (eq_of_beq same : [a, b] = qwServerShutdown); rfl
  | [a, b, c, d], _ => cases (eq_of_beq same : [a, b] = qwServerShutdown); rfl

/-! ## The announcements -/

theorem parseHeartBeat_statechanged {data : List UInt8} {request : HeartBeatRequest}
    (parsed : parseHeartBeat data = some request) :
    request.statechanged = announcesShutdown (cstr data) := by
  unfold parseHeartBeat at parsed
  split at parsed
  · cases parsed
  · split at parsed
    · split at parsed
      · split at parsed
        · cases parsed
          rfl
        · cases parsed
      · cases parsed
    · cases parsed

/-- An announcement reaches `HeartBeat`, or it is the command. -/
theorem AnnouncesShutdown.command_or_heartBeat {sender : SockaddrIn} {received : List UInt8}
    (announces : AnnouncesShutdown sender received) :
    parseUDPPacket sender received = .queueShutdown ∨
      ∃ data, parseUDPPacket sender received = .heartBeat data := by
  cases announces with
  | message short same =>
      rcases same with hexenWorld | quakeWorld
      · exact Or.inr ⟨_, parseUDPPacket_hwServerShutdown sender short hexenWorld⟩
      · exact Or.inr ⟨_, parseUDPPacket_qwServerShutdown sender short quakeWorld⟩
  | heartBeat data parsed => exact Or.inr ⟨data, parsed⟩
  | command parsed => exact Or.inl parsed

theorem ShutsDown.of_set {announced : ServerKey} {reg reg' : ServerList} (sound : reg.WellFormed)
    {cell : Nat × Server} (member : cell ∈ reg.cells) (key : cell.2.key = announced)
    {server : Server} (waits : server.shutdownIssued = true)
    (same : reg'.cells = (reg.set cell.1 server).cells) :
    ShutsDown (some announced) reg reg' where
  gains other inside := by
    rw [same] at inside
    obtain ⟨held, old, rfl⟩ := List.mem_map.mp inside
    by_cases here : held.1 = cell.1
    · rw [if_pos here]
      exact ⟨cell.2, member⟩
    · rw [if_neg here]
      exact ⟨held.2, old⟩
  known other inside named := by
    obtain rfl := sound.key_inj inside member ((Option.some.inj named).symm.trans key.symm)
    exact ⟨server, waits, same⟩
  unknown missing := absurd (congrArg some key.symm) (missing cell member)

theorem ShutsDown.of_unknown {announced : Option ServerKey} {reg : ServerList}
    (missing : ∀ cell ∈ reg.cells, announced ≠ some cell.2.key) : ShutsDown announced reg reg where
  gains cell member := ⟨cell.2, member⟩
  known cell member named := absurd named (missing cell member)
  unknown _ := rfl

theorem shutsDown_queueShutdown {reg : ServerList} (sound : reg.WellFormed) (env : Env)
    (sender : SockaddrIn) :
    ShutsDown (some (sender.sinAddr, sender.sinPort)) reg (queueShutdown env sender reg) := by
  unfold queueShutdown
  cases found : reg.find (sentBy sender) with
  | none =>
      refine ShutsDown.of_unknown fun cell member named => ?_
      have missing := find_none found member
      rw [sentBy_iff.mpr (Option.some.inj named).symm] at missing
      cases missing
  | some cell =>
      obtain ⟨member, passes⟩ := find_some found
      have waits : (shutdownServer env cell.2).shutdownIssued = true := rfl
      exact ShutsDown.of_set sound member (sentBy_iff.mp passes) waits rfl

/-- What an entry is changed to can be read off the entries. -/
theorem set_inj {reg : ServerList} {block : Nat} {server first second : Server}
    (member : (block, server) ∈ reg.cells)
    (same : (reg.set block first).cells = (reg.set block second).cells) : first = second := by
  have written : (block, first) ∈ (reg.set block first).cells :=
    List.mem_map.mpr ⟨_, member, if_pos rfl⟩
  rw [same] at written
  obtain ⟨cell, -, changed⟩ := List.mem_map.mp written
  by_cases here : cell.1 = block
  · rw [if_pos here] at changed
    exact (congrArg Prod.snd changed).symm
  · rw [if_neg here] at changed
    exact absurd (congrArg Prod.fst changed) here

/-- A heartbeat shuts a known server down if its text says so, and registers an unknown one. -/
theorem shutsDown_heartBeat_iff {reg : ServerList} (sound : reg.WellFormed) (cfg : Config)
    (env : Env) (sender : SockaddrIn) {data : List UInt8} {request : HeartBeatRequest}
    (parsed : parseHeartBeat data = some request) :
    ShutsDown (some (sender.sinAddr, htons request.queryPort)) reg
        (heartBeat cfg env sender data reg) ↔
      (∃ cell ∈ reg.cells, cell.2.key = (sender.sinAddr, htons request.queryPort) ∧
        (request.statechanged = true ∨ cell.2.shutdownIssued = true)) ∨
      (∀ cell ∈ reg.cells, cell.2.key ≠ (sender.sinAddr, htons request.queryPort)) ∧
        (request.addCall sender).accepted = none := by
  cases found : reg.find (request.found sender) with
  | none =>
      have missing : ∀ cell ∈ reg.cells,
          cell.2.key ≠ (sender.sinAddr, htons request.queryPort) := by
        intro cell member key
        have passes := find_none found member
        rw [request_found_iff.mpr key] at passes
        cases passes
      rw [heartBeat_unknown parsed found]
      constructor
      · intro shuts
        refine Or.inr ⟨missing, Option.eq_none_iff_forall_ne_some.mpr fun gamename accepted => ?_⟩
        have unchanged := shuts.unknown fun cell member named =>
          missing cell member (Option.some.inj named).symm
        have absent : reg.find (request.addCall sender).found = none :=
          List.find?_eq_none.mpr fun cell member passes =>
            missing cell member (found_iff.mp passes)
        have grown : (addServer cfg env (request.addCall sender) reg).cells.length =
            reg.cells.length + 1 := by
          rw [addServer, accepted]
          simp only [absent]
          exact List.length_append
        rw [unchanged] at grown
        exact absurd grown (Nat.ne_of_lt (Nat.lt_succ_self _))
      · rintro (⟨cell, member, key, -⟩ | ⟨-, rejected⟩)
        · exact absurd key (missing cell member)
        · rw [addServer, rejected]
          exact ShutsDown.of_unknown fun cell member named =>
            missing cell member (Option.some.inj named).symm
  | some cell =>
      obtain ⟨block, server⟩ := cell
      obtain ⟨member, passes⟩ := find_some found
      have key := request_found_iff.mp passes
      have written : (heartBeat cfg env sender data reg).cells =
          (reg.set block (request.written env server)).cells := by
        rw [heartBeat_known sound parsed found, set_cells sound found
          (fun other here => (request_found_iff.mp here).trans key.symm) (request.written env)]
      have waits : (request.written env server).shutdownIssued = true ↔
          request.statechanged = true ∨ server.shutdownIssued = true := by
        rw [HeartBeatRequest.written]
        split
        · rename_i statechanged
          exact iff_of_true rfl (Or.inl statechanged)
        · rename_i unchanged
          exact (or_iff_right unchanged).symm
      constructor
      · intro shuts
        obtain ⟨after, issued, same⟩ := shuts.known _ member (congrArg some key.symm)
        obtain rfl := set_inj member (written.symm.trans same)
        exact Or.inl ⟨_, member, key, waits.mp issued⟩
      · rintro (⟨other, inside, named, waiting⟩ | ⟨missing, -⟩)
        · obtain rfl := sound.key_inj inside member (named.trans key.symm)
          exact ShutsDown.of_set sound member key (waits.mpr waiting) written
        · exact absurd key (missing _ member)

/--
A shutdown announcement shuts the announced server down and registers none,
exactly if it is the command, the text that `HeartBeat` is given announces the
shutdown of a registered server or finds it waiting, or the server is not
registered and `AddServer` rejects it.
-/
theorem shutdown_announcement_iff (cfg : Config) (reg : ServerList) (reached : reg.Reachable cfg)
    (env : Nat → Env) (sender : SockaddrIn) (received : List UInt8)
    (announces : AnnouncesShutdown sender received) :
    (∃ reg', receive cfg env sender received reg = some reg' ∧
        ShutsDown (announcedKey sender received) reg reg') ↔
      ShutOrRejected reg sender received := by
  have sound := reached.wellFormed
  unfold receive announcedKey ShutOrRejected
  rcases announces.command_or_heartBeat with parsed | ⟨data, parsed⟩
  · simp only [parsed]
    refine iff_of_true ⟨_, rfl, shutsDown_queueShutdown sound (env 0) sender⟩ ?_
    intro data request other
    cases other
  · simp only [parsed]
    change (∃ reg', some (heartBeat cfg (env 0) sender data reg) = some reg' ∧ _) ↔ _
    simp only [Option.some.injEq, exists_eq_left', Command.heartBeat.injEq]
    cases read : parseHeartBeat data with
    | none =>
        refine iff_of_true ?_ ?_
        · rw [heartBeat, read]
          refine ShutsDown.of_unknown fun cell member named => ?_
          cases named
        · rintro _ request rfl other
          rw [read] at other
          cases other
    | some request =>
        rw [Option.map_some, shutsDown_heartBeat_iff sound cfg (env 0) sender read,
          parseHeartBeat_statechanged read]
        constructor
        · rintro known _ other rfl same
          obtain rfl : request = other := Option.some.inj (read.symm.trans same)
          exact known
        · exact fun known => known data request rfl read

/-- The heartbeat of the Unreal server before it shuts down. -/
def unrealShutdown : List UInt8 :=
  ascii "\\heartbeat\\7778\\gamename\\unreal\\statechanged\\2"

theorem shutdown_announcement_iff_unreal :
    ∃ reg : ServerList, reg.Reachable defaultConfig ∧ ∃ reg',
      receive defaultConfig (fun _ => quietEnv) unrealServer unrealShutdown reg = some reg' ∧
        ShutsDown (announcedKey unrealServer unrealShutdown) reg reg' := by
  obtain ⟨reg, reached, server, found, -⟩ := unrealHeartbeat_registers 0
  obtain ⟨member, passes⟩ := find_some found
  have parsed : parseUDPPacket unrealServer unrealShutdown =
      .heartBeat (unrealShutdown.drop 1) := by
    decide +kernel
  have announces : AnnouncesShutdown unrealServer unrealShutdown :=
    .heartBeat _ parsed (by decide +kernel)
  refine ⟨reg, reached, (shutdown_announcement_iff defaultConfig reg reached (fun _ => quietEnv)
    unrealServer unrealShutdown announces).mpr ?_⟩
  intro data request heartBeat read
  cases parsed.symm.trans heartBeat
  have port : (parseHeartBeat (unrealShutdown.drop 1)).map HeartBeatRequest.queryPort =
      some 7778 := by
    decide +kernel
  rw [read] at port
  refine Or.inl ⟨_, member, ?_, Or.inl (by decide +kernel)⟩
  rw [Option.some.inj port]
  exact sentBy_iff.mp passes

/-- The address and the port of a QuakeWorld server. -/
def quakeWorldServer : SockaddrIn :=
  ⟨⟨10, 0, 0, 9⟩, htons 27500⟩

/-- A QuakeWorld server that nobody knows is registered when it says that it shuts down. -/
theorem shutdown_registers_quakeworld :
    ¬ ∀ (cfg : Config) (reg : ServerList), reg.Reachable cfg →
      ∀ (env : Nat → Env) (sender : SockaddrIn) (received : List UInt8),
        AnnouncesShutdown sender received →
          ∃ reg', receive cfg env sender received reg = some reg' ∧
            ShutsDown (announcedKey sender received) reg reg' := by
  intro always
  have same : memcmpEq qwServerShutdown qwServerShutdown = true := by decide
  have parsed := parseUDPPacket_qwServerShutdown quakeWorldServer (by decide) same
  have announced := parseHeartBeat_shutdownText quakeWorldServer (Or.inr rfl)
  obtain ⟨reg', done, shuts⟩ := always defaultConfig ServerList.initial .refl
    (fun _ => quietEnv) quakeWorldServer qwServerShutdown (.message (by decide) (Or.inr same))
  rw [announcedKey, parsed] at shuts
  simp only [announced, Option.map_some] at shuts
  simp only [receive, parsed] at done
  obtain rfl := Option.some.inj done
  rcases (shutsDown_heartBeat_iff ServerList.initial_wellFormed defaultConfig quietEnv
    quakeWorldServer announced).mp shuts with ⟨cell, member, -⟩ | ⟨-, rejected⟩
  · cases member
  · exact absurd rejected (by decide)

end GSMaster.Packets
