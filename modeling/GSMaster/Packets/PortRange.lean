import GSMaster.Packets.MasterQueries
import GSMaster.Registry.Invariant

/-!
# Port texts out of range

The three readers of ports narrow what `atoi` reads to 16 bits before they look
whether it is zero. A number is refused as a port exactly when it is a multiple
of 65536; any other one is taken for its remainder.
-/

namespace GSMaster.Packets

open GSMaster.Text GSMaster.Net GSMaster.Games GSMaster.Registry GSMaster.Library

/-! ## Port texts -/

/-- A decimal text, with or without a sign, and the number that it denotes. -/
inductive Denotes : CString → Int → Prop where
  | unsigned {digits : CString} (some : digits ≠ []) (number : ∀ c ∈ digits, isDigit c = true) :
      Denotes digits (digitsValue 0 digits)
  | plus {digits : CString} (some : digits ≠ []) (number : ∀ c ∈ digits, isDigit c = true) :
      Denotes (43 :: digits) (digitsValue 0 digits)
  | minus {digits : CString} (some : digits ≠ []) (number : ∀ c ∈ digits, isDigit c = true) :
      Denotes (45 :: digits) (-(digitsValue 0 digits : Int))

namespace Denotes

variable {port : CString} {n : Int}

theorem named (denotes : Denotes port n) : port ≠ [] := by
  cases denotes with
  | unsigned some number => exact some
  | plus some number => exact List.cons_ne_nil _ _
  | minus some number => exact List.cons_ne_nil _ _

theorem mem (denotes : Denotes port n) {c : UInt8} (member : c ∈ port) :
    isDigit c = true ∨ c = 43 ∨ c = 45 := by
  cases denotes with
  | unsigned some number => exact Or.inl (number c member)
  | plus some number =>
      rcases List.mem_cons.mp member with rfl | inside
      · exact Or.inr (Or.inl rfl)
      · exact Or.inl (number c inside)
  | minus some number =>
      rcases List.mem_cons.mp member with rfl | inside
      · exact Or.inr (Or.inr rfl)
      · exact Or.inl (number c inside)

/-- No separator and no NUL stands in a port text. -/
theorem plain (denotes : Denotes port n) {c : UInt8} (member : c ∈ port) :
    listSeparators.contains c = false ∧ [backslash].contains c = false ∧ c ≠ 0 := by
  rcases denotes.mem member with digit | rfl | rfl
  · obtain ⟨separator, -, zero⟩ := listSeparators_digit digit
    have slash : [backslash].contains c = false := by
      simp only [List.contains_cons, List.contains_nil, Bool.or_false, beq_eq_false_iff_ne]
      rintro rfl
      exact absurd digit (by decide)
    exact ⟨separator, slash, zero⟩
  · decide
  · decide

theorem strtol_eq (denotes : Denotes port n) (low : -(2 ^ 63) ≤ n) (high : n < 2 ^ 63) :
    strtol port = n := by
  unfold strtol
  simp only
  cases denotes with
  | unsigned some number =>
      obtain ⟨c, rest, rfl⟩ := List.exists_cons_of_ne_nil some
      obtain ⟨notSpace, minus, plus⟩ := digit_plain (number c (List.mem_cons_self ..))
      rw [List.dropWhile_cons_of_neg (by rw [notSpace]; exact Bool.false_ne_true)]
      split
      · rename_i signed
        exact absurd (List.cons.inj signed).1 minus
      · rename_i signed
        exact absurd (List.cons.inj signed).1 plus
      · omega
  | plus some number =>
      rw [List.dropWhile_cons_of_neg (by decide)]
      simp only
      omega
  | minus some number =>
      rw [List.dropWhile_cons_of_neg (by decide)]
      simp only
      omega

/-- `atoi` reads the number of the text. -/
theorem atoi_eq (denotes : Denotes port n) (low : -(2 ^ 31) ≤ n) (high : n < 2 ^ 31) :
    atoi port = n := by
  rw [atoi, denotes.strtol_eq (by omega) (by omega), Int.bmod_eq_of_le (by omega) (by omega)]

end Denotes

/-- A number is narrowed to zero exactly when it is a multiple of 65536. -/
theorem ofInt_eq_zero_iff (n : Int) : UInt16.ofInt n = 0 ↔ (65536 : Int) ∣ n := by
  rw [UInt16.ofInt, ← UInt16.toNat_inj, UInt16.toNat_ofNat']
  change _ % 65536 = 0 ↔ _
  omega

/-- An operation has left the entries and their number as they were. -/
def Unchanged (reg reg' : ServerList) : Prop :=
  reg'.cells = reg.cells ∧ reg'.numservers = reg.numservers

/-- `AddServer` takes the game name. -/
def TakesGame (gamename : Option CString) : Prop :=
  ∃ name, gamename = some name ∧ name ≠ [] ∧ gameSpyGetGameSecKey name ≠ none

theorem accepted_isSome_iff (call : AddCall) :
    call.accepted.isSome = true ↔ call.queryPort ≠ 0 ∧ TakesGame call.gamename := by
  unfold AddCall.accepted TakesGame
  cases call.gamename with
  | none => simp
  | some name =>
      simp only [Option.some.injEq]
      split_ifs with empty zero unlisted
      · simp [empty]
      · simp [zero]
      · simp [unlisted]
      · simp [empty, zero, unlisted]

/-- A call leaves the registry as it is unless it is accepted and finds no live entry. -/
theorem addServer_unchanged_iff (cfg : Config) (env : Env) (call : AddCall) {reg : ServerList}
    (formed : reg.WellFormed) :
    Unchanged reg (addServer cfg env call reg) ↔
      call.queryPort = 0 ∨ ¬ TakesGame call.gamename ∨
        ∃ block server, reg.find call.found = some (block, server) ∧
          server.shutdownIssued = false := by
  have accepts := accepted_isSome_iff call
  have new : ∀ gamename, (reg.nextBlock, newServer cfg env call gamename) ∉ reg.cells := by
    intro gamename member
    exact absurd (formed.allocated _ (ServerList.mem_identities member)).2 (Nat.lt_irrefl _)
  unfold addServer
  cases accepted : call.accepted with
  | none =>
      rw [accepted] at accepts
      have refused : call.queryPort = 0 ∨ ¬ TakesGame call.gamename := by
        by_contra taken
        obtain ⟨port, game⟩ := not_or.mp taken
        cases accepts.mpr ⟨port, not_not.mp game⟩
      exact iff_of_true ⟨rfl, rfl⟩ (refused.imp_right Or.inl)
  | some gamename =>
      rw [accepted] at accepts
      obtain ⟨port, game⟩ := accepts.mp rfl
      rw [or_iff_right port, or_iff_right (not_not.mpr game)]
      cases found : reg.find call.found with
      | none =>
          refine iff_of_false (fun same => new gamename ?_) (by simp)
          rw [← same.1]
          exact List.mem_append_right _ (List.mem_singleton_self _)
      | some cell =>
          obtain ⟨block, server⟩ := cell
          simp only [Option.some.injEq, Prod.mk.injEq]
          cases waiting : server.shutdownIssued with
          | false => exact iff_of_true ⟨rfl, rfl⟩ ⟨block, server, ⟨rfl, rfl⟩, waiting⟩
          | true =>
              refine iff_of_false (fun same => new gamename ?_) ?_
              · rw [← same.1]
                exact List.mem_append_right _ (List.mem_singleton_self _)
              · rintro ⟨_, _, ⟨rfl, rfl⟩, live⟩
                rw [waiting] at live
                cases live

/-- A call with a port in network order looks for the entries with the port as it was read. -/
theorem found_narrowed (sender : SockaddrIn) (acknowledge : Bool) (queryPort : UInt16)
    (gamename hostnameIp : Option CString) :
    (⟨sender, acknowledge, htons queryPort, gamename, hostnameIp⟩ : AddCall).found =
      fun server => sender.sinAddr == server.ip.sinAddr && queryPort == htons server.port := by
  funext server
  rw [AddCall.found, htons_htons]

/-! ## Heartbeats -/

/-- The request has the port that stands first behind the command, narrowed. -/
theorem parseHeartBeat_port {data port : CString} {request : HeartBeatRequest}
    (parsed : parseHeartBeat data = some request)
    (text : (tokens [backslash] (cstr (data.drop 10))).head? = some port) :
    request.queryPort = UInt16.ofInt (atoi port) := by
  rw [← strtok_head] at text
  unfold parseHeartBeat at parsed
  split at parsed
  · cases parsed
  · split at parsed
    · next token cmdPtr read =>
        rw [read] at text
        cases text
        split at parsed
        · split at parsed
          · cases parsed
            rfl
          · cases parsed
        · cases parsed
    · cases parsed

/-- An entry of `QueueShutdown` was heard from when it was before. -/
theorem queueShutdown_lastHeartbeat {env : Env} {sender : SockaddrIn} {reg : ServerList}
    {cell : Nat × Server} (member : cell ∈ (queueShutdown env sender reg).cells) :
    ∃ cell' ∈ reg.cells, cell'.1 = cell.1 ∧ cell'.2.lastHeartbeat = cell.2.lastHeartbeat := by
  unfold queueShutdown at member
  split at member
  · exact ⟨cell, member, rfl, rfl⟩
  · next block server found =>
      obtain ⟨other, inside, rfl⟩ := List.mem_map.mp member
      split
      · exact ⟨_, (ServerList.find_some found).1, rfl, rfl⟩
      · exact ⟨other, inside, rfl, rfl⟩

/-- A heartbeat that finds its entry sets the time of the entry. -/
theorem heartBeat_lastHeartbeat {cfg : Config} {env : Env} {sender : SockaddrIn}
    {data : List UInt8} {reg : ServerList} {request : HeartBeatRequest} {block : Nat}
    {server : Server} (parsed : parseHeartBeat data = some request)
    (found : reg.find (request.found sender) = some (block, server)) {other : Server}
    (member : (block, other) ∈ (heartBeat cfg env sender data reg).cells) :
    other.lastHeartbeat = env.time 0 := by
  have set : ∀ cell ∈ (reg.set block (heartBeatServer env request server)).cells,
      cell.1 = block → cell.2.lastHeartbeat = env.time 0 := by
    intro cell inside here
    obtain ⟨before, -, rfl⟩ := List.mem_map.mp inside
    split
    · rfl
    · next there =>
        rw [if_neg there] at here
        exact absurd here there
  unfold heartBeat at member
  simp only [parsed, found] at member
  split at member
  · obtain ⟨cell, inside, here, same⟩ := queueShutdown_lastHeartbeat member
    exact same ▸ set cell inside here
  · exact set _ member rfl

/-- The request is for no entry, and `AddServer` does not take its game; or there is no request. -/
def HeartBeatRefused (sender : SockaddrIn) (data : List UInt8) (reg : ServerList) : Prop :=
  ∀ request, parseHeartBeat data = some request →
    reg.find (request.found sender) = none ∧ ¬ TakesGame request.gamename

theorem heartBeatRefused_iff {sender : SockaddrIn} {data : List UInt8} {reg : ServerList}
    {request : HeartBeatRequest} (parsed : parseHeartBeat data = some request) :
    HeartBeatRefused sender data reg ↔
      reg.find (request.found sender) = none ∧ ¬ TakesGame request.gamename := by
  constructor
  · exact fun all => all request parsed
  · intro here other read
    rw [parsed] at read
    cases read
    exact here

/-- A heartbeat that finds its entry does not leave the registry as it is at every time. -/
theorem heartBeat_known_changes (cfg : Config) {sender : SockaddrIn} {data : List UInt8}
    {reg : ServerList} {request : HeartBeatRequest} {block : Nat} {server : Server}
    (parsed : parseHeartBeat data = some request)
    (found : reg.find (request.found sender) = some (block, server)) :
    ¬ ∀ env, Unchanged reg (heartBeat cfg env sender data reg) := by
  intro same
  have after := same ⟨fun _ => server.lastHeartbeat + 1, fun _ => 0, fun _ => none⟩
  have kept := heartBeat_lastHeartbeat parsed found (after.1 ▸ (ServerList.find_some found).1)
  exact absurd kept (by simp)

theorem heartBeat_unchanged_iff {port : CString} {n : Int} (denotes : Denotes port n)
    (low : -(2 ^ 31) ≤ n) (high : n < 2 ^ 31) (cfg : Config) {sender : SockaddrIn}
    {data : List UInt8} {reg : ServerList} (formed : reg.WellFormed)
    (text : (tokens [backslash] (cstr (data.drop 10))).head? = some port) :
    (∀ env, Unchanged reg (heartBeat cfg env sender data reg)) ↔
      (65536 : Int) ∣ n ∨ HeartBeatRefused sender data reg := by
  cases parsed : parseHeartBeat data with
  | none =>
      refine iff_of_true (fun env => ?_) (Or.inr fun request read => ?_)
      · rw [heartBeat, parsed]
        exact ⟨rfl, rfl⟩
      · rw [parsed] at read
        cases read
  | some request =>
      have narrowed := parseHeartBeat_port parsed text
      rw [denotes.atoi_eq low high] at narrowed
      rw [heartBeatRefused_iff parsed, ← ofInt_eq_zero_iff, ← narrowed]
      cases found : reg.find (request.found sender) with
      | none =>
          have call : (request.addCall sender).found = request.found sender :=
            found_narrowed ..
          have zero : (request.addCall sender).queryPort = 0 ↔ request.queryPort = 0 :=
            show htons request.queryPort = htons 0 ↔ _ from htons_inj
          have added (env : Env) := addServer_unchanged_iff cfg env (request.addCall sender) formed
          simp only [zero, call, found, reduceCtorEq, false_and, exists_false, or_false] at added
          simp only [heartBeat, parsed, found, added, true_and]
          exact ⟨fun all => all quietEnv, fun here _ => here⟩
      | some cell =>
          obtain ⟨block, server⟩ := cell
          obtain ⟨member, test⟩ := ServerList.find_some found
          have port : request.queryPort ≠ 0 := by
            intro zero
            refine formed.ports _ (ServerList.mem_identities member) ?_
            exact (congrArg Prod.snd (request_found_iff.mp test)).trans (by rw [zero]; rfl)
          exact iff_of_false (heartBeat_known_changes cfg parsed found) (by simp [port])

/-! ## List lines -/

/-- The call of a line with a name that resolves and a port that is not narrowed to zero. -/
theorem addServersFromListExecute_fields {env : Env} {line ip port : CString}
    {rest : List CString} {addr : InAddr} (fields : tokens listSeparators line = ip :: port :: rest)
    (resolved : env.gethostbyname ip = some addr) (set : UInt16.ofInt (atoi port) ≠ 0)
    (gamenameFromHttp : Option CString) :
    addServersFromListExecute env line gamenameFromHttp =
      (gamenameFromHttp.or rest.head?).map fun gamename =>
        (env, ⟨⟨addr, htons (UInt16.ofInt (atoi port))⟩, sendAcknowledge (some gamename),
          htons (UInt16.ofInt (atoi port)), some gamename, some ip⟩) := by
  obtain ⟨listPtr, read, left⟩ := strtok_eq_of_tokens fields
  obtain ⟨listPtr', read', left'⟩ := strtok_eq_some left
  have third : (strtok listSeparators listPtr').1 = rest.head? := by
    rw [strtok_first, left']
  unfold addServersFromListExecute
  simp only [read, resolved, read', if_neg set, third]
  cases gamenameFromHttp with
  | some gamename => rfl
  | none => cases rest <;> rfl

/-- A line whose name does not resolve or whose port is narrowed to zero makes no call. -/
theorem addServersFromListExecute_none {env : Env} {line ip port : CString} {rest : List CString}
    (fields : tokens listSeparators line = ip :: port :: rest)
    (refused : env.gethostbyname ip = none ∨ UInt16.ofInt (atoi port) = 0)
    (gamenameFromHttp : Option CString) :
    addServersFromListExecute env line gamenameFromHttp = none := by
  obtain ⟨listPtr, read, left⟩ := strtok_eq_of_tokens fields
  obtain ⟨listPtr', read', -⟩ := strtok_eq_some left
  unfold addServersFromListExecute
  simp only [read]
  rcases refused with unresolved | zero
  · rw [unresolved]
  · cases env.gethostbyname ip with
    | none => rfl
    | some addr => simp only [read', zero, if_true]

/--
The name of the line does not resolve, or `AddServer` does not take its game,
or there is a live entry of that address and port.
-/
def ListLineRefused (env : Env) (line : CString) (gamenameFromHttp : Option CString)
    (queryPort : UInt16) (reg : ServerList) : Prop :=
  ∀ addr, (tokens listSeparators line).head?.bind env.gethostbyname = some addr →
    TakesGame (gamenameFromHttp.or (tokens listSeparators line)[2]?) →
      ∃ block server, reg.find (fun server =>
          addr == server.ip.sinAddr && queryPort == htons server.port) = some (block, server) ∧
        server.shutdownIssued = false

theorem listLine_unchanged_iff {port : CString} {n : Int} (denotes : Denotes port n)
    (low : -(2 ^ 31) ≤ n) (high : n < 2 ^ 31) (cfg : Config) (env : Env) {line : CString}
    {reg : ServerList} (formed : reg.WellFormed)
    (text : (tokens listSeparators line)[1]? = some port) (gamenameFromHttp : Option CString) :
    Unchanged reg
        (addServers cfg (addServersFromListExecute env line gamenameFromHttp).toList reg) ↔
      (65536 : Int) ∣ n ∨ ListLineRefused env line gamenameFromHttp (UInt16.ofInt n) reg := by
  obtain ⟨ip, rest, fields⟩ : ∃ ip rest, tokens listSeparators line = ip :: port :: rest := by
    match tokens listSeparators line, text with
    | ip :: _ :: rest, rfl => exact ⟨ip, rest, rfl⟩
  have number := denotes.atoi_eq low high
  have third : (tokens listSeparators line)[2]? = rest.head? := by
    rw [fields, List.head?_eq_getElem?]
    rfl
  rw [← ofInt_eq_zero_iff, ListLineRefused, third, fields, List.head?_cons, Option.bind_some]
  cases resolved : env.gethostbyname ip with
  | none =>
      rw [addServersFromListExecute_none fields (Or.inl resolved)]
      exact iff_of_true ⟨rfl, rfl⟩ (Or.inr fun addr missing => by cases missing)
  | some addr =>
      simp only [Option.some.injEq, forall_eq']
      by_cases zero : UInt16.ofInt n = 0
      · rw [addServersFromListExecute_none fields (Or.inr (number.symm ▸ zero))]
        exact iff_of_true ⟨rfl, rfl⟩ (Or.inl zero)
      · rw [addServersFromListExecute_fields fields resolved (number.symm ▸ zero), number,
          or_iff_right zero]
        cases game : gamenameFromHttp.or rest.head? with
        | none =>
            refine iff_of_true ⟨rfl, rfl⟩ fun takes => ?_
            obtain ⟨name, missing, -⟩ := takes
            cases missing
        | some gamename =>
            have set : htons (UInt16.ofInt n) ≠ 0 := fun same =>
              zero (htons_inj.mp (same.trans (show 0 = htons 0 from rfl)))
            rw [Option.map_some, Option.toList_some]
            refine (addServer_unchanged_iff cfg env _ formed).trans ?_
            rw [or_iff_right set, ← imp_iff_not_or]
            rw [found_narrowed]

/-! ## Queries to other masters -/

/-- A game whose masters are queried. -/
def IsQueried (gamename : CString) : Prop :=
  ∃ game ∈ ([ascii "quakeworld", ascii "hexenworld", ascii "quake2", ascii "kingpin"] :
    List CString), stricmpEq gamename game = true

/-- A round of the loop reads a record here whose name resolves and whose game is queried. -/
structure QueriedAt (env : Env) (file : List UInt8) (index : Nat) : Prop where
  long : 3 ≤ file.length
  threes : 3 ∣ index
  usable : TriplesPass (recordPasses env)
    ((tokens listSeparators (cstr (file ++ [newline]))).take index)
  resolves : ∃ ip addr, (tokens listSeparators (cstr (file ++ [newline])))[index]? = some ip ∧
    env.gethostbyname ip = some addr
  queried : ∃ gamename,
    (tokens listSeparators (cstr (file ++ [newline])))[index + 2]? = some gamename ∧
      IsQueried gamename

/-- No query is sent for the record of a file that begins with this token. -/
def NotQueried (env : Env) (file : List UInt8) (index : Nat) : Prop :=
  ∀ queries, (index, .sent queries) ∉ masterDLList env file

theorem queryMaster_sent_iff (master : SockaddrIn) (gamename : CString) :
    (∃ queries, queryMaster master gamename = .sent queries) ↔ IsQueried gamename := by
  unfold queryMaster IsQueried
  split_ifs with quakeworld hexenworld quake2 kingpin
  · simp [quakeworld]
  · simp [hexenworld]
  · simp [quake2]
  · simp [kingpin]
  · simp [quakeworld, hexenworld, quake2, kingpin]

/-- What a record with a port comes to. -/
theorem recordOutcome_sent_iff (env : Env) (ip port : CString) (rest : List CString) :
    (∃ queries, recordOutcome env (ip :: port :: rest) = .sent queries) ↔
      (∃ addr, env.gethostbyname ip = some addr) ∧ UInt16.ofInt (atoi port) ≠ 0 ∧
        ∃ gamename, rest.head? = some gamename ∧ IsQueried gamename := by
  unfold recordOutcome
  cases resolved : env.gethostbyname ip with
  | none => simp [resolved]
  | some addr =>
      by_cases zero : UInt16.ofInt (atoi port) = 0
      · simp [resolved, zero]
      · cases rest with
        | nil => simp [resolved, zero]
        | cons gamename rest => simp [resolved, zero, queryMaster_sent_iff]

/-- A query is sent for the record that begins at a token exactly where the record is read. -/
theorem queried_iff (env : Env) {file : List UInt8} {index : Nat} {port : CString}
    (text : (tokens listSeparators (cstr (file ++ [newline])))[index + 1]? = some port) :
    (∃ queries, (index, .sent queries) ∈ masterDLList env file) ↔
      UInt16.ofInt (atoi port) ≠ 0 ∧ QueriedAt env file index := by
  by_cases long : 3 ≤ file.length
  · rw [masterDLList_eq env long]
    obtain ⟨inside, -⟩ := List.getElem?_eq_some_iff.mp text
    have before := List.length_take_of_le (Nat.le_of_lt (Nat.lt_of_succ_lt inside))
    have parts := List.take_append_drop index (tokens listSeparators (cstr (file ++ [newline])))
    obtain ⟨ip, rest, fields⟩ : ∃ ip rest,
        (tokens listSeparators (cstr (file ++ [newline]))).drop index = ip :: port :: rest := by
      rw [List.drop_eq_getElem_cons (Nat.lt_of_succ_lt inside), List.drop_eq_getElem_cons inside]
      exact ⟨_, _, by rw [(List.getElem?_eq_some_iff.mp text).2]⟩
    have first : (tokens listSeparators (cstr (file ++ [newline])))[index]? = some ip := by
      rw [← List.head?_drop, fields]
      rfl
    have third : (tokens listSeparators (cstr (file ++ [newline])))[index + 2]? = rest.head? := by
      rw [← List.head?_drop, ← List.drop_drop, fields]
      rfl
    have reads (group : List CString) := mem_readTriples_iff (recordPasses env)
      (show (tokens listSeparators (cstr (file ++ [newline]))).drop index ≠ [] by simp [fields])
      group 0 ((tokens listSeparators (cstr (file ++ [newline]))).take index)
    simp only [Nat.zero_add, before, parts] at reads
    have sent : (∃ queries, recordOutcome env ((ip :: port :: rest).take 3) = .sent queries) ↔ _ :=
      recordOutcome_sent_iff env ip port (rest.take 1)
    constructor
    · rintro ⟨queries, member⟩
      obtain ⟨⟨i, group⟩, read, same⟩ := List.mem_map.mp member
      obtain ⟨rfl, outcome⟩ : i = index ∧ recordOutcome env group = .sent queries :=
        Prod.mk.inj same
      obtain ⟨threes, usable, rfl⟩ := (reads group).mp read
      rw [fields] at outcome
      obtain ⟨⟨addr, resolved⟩, set, gamename, named, queried⟩ := sent.mp ⟨queries, outcome⟩
      rw [List.head?_take] at named
      exact ⟨set, long, threes, usable, ⟨ip, addr, first, resolved⟩, gamename,
        third.trans (by simpa using named), queried⟩
    · rintro ⟨set, -, threes, usable, ⟨ip', addr, here, resolved⟩, gamename, named, queried⟩
      obtain rfl := Option.some.inj (first.symm.trans here)
      obtain ⟨queries, outcome⟩ := sent.mpr ⟨⟨addr, resolved⟩, set, gamename,
        by rw [List.head?_take, ← third]; simpa using named, queried⟩
      refine ⟨queries, List.mem_map.mpr ⟨_, (reads _).mpr ⟨threes, usable, rfl⟩, ?_⟩⟩
      rw [fields, outcome]
  · refine iff_of_false (fun sent => ?_) fun read => long read.2.long
    obtain ⟨queries, member⟩ := sent
    rw [masterDLList, if_pos (Nat.lt_of_not_le long)] at member
    cases member

theorem notQueried_iff {port : CString} {n : Int} (denotes : Denotes port n)
    (low : -(2 ^ 31) ≤ n) (high : n < 2 ^ 31) (env : Env) {file : List UInt8} {index : Nat}
    (text : (tokens listSeparators (cstr (file ++ [newline])))[index + 1]? = some port) :
    NotQueried env file index ↔ (65536 : Int) ∣ n ∨ ¬ QueriedAt env file index := by
  have sent := queried_iff env text
  rw [denotes.atoi_eq low high, ne_eq, ofInt_eq_zero_iff] at sent
  rw [NotQueried, ← not_exists, sent, not_and_or, not_not]

/-! ## Ports -/

/--
A number is refused as a port by all three readers exactly when it is a
multiple of 65536; where it is not, the operation leaves the registry alone, or
sends nothing, only for another reason.
-/
theorem portsRefused_iff {port : CString} {n : Int} (denotes : Denotes port n)
    (low : -(2 ^ 31) ≤ n) (high : n < 2 ^ 31) :
    (∀ cfg reg, ServerList.Reachable cfg reg → ∀ sender data,
      (tokens [backslash] (cstr (data.drop 10))).head? = some port →
        ((∀ env, Unchanged reg (heartBeat cfg env sender data reg)) ↔
          (65536 : Int) ∣ n ∨ HeartBeatRefused sender data reg)) ∧
      (∀ cfg reg, ServerList.Reachable cfg reg → ∀ env line gamenameFromHttp,
        (tokens listSeparators line)[1]? = some port →
          (Unchanged reg
              (addServers cfg (addServersFromListExecute env line gamenameFromHttp).toList reg) ↔
            (65536 : Int) ∣ n ∨
              ListLineRefused env line gamenameFromHttp (UInt16.ofInt n) reg)) ∧
      ∀ env file index,
        (tokens listSeparators (cstr (file ++ [newline])))[index + 1]? = some port →
          (NotQueried env file index ↔ (65536 : Int) ∣ n ∨ ¬ QueriedAt env file index) :=
  ⟨fun cfg _ reached _ _ text =>
      heartBeat_unchanged_iff denotes low high cfg reached.wellFormed text,
    fun cfg _ reached env _ gamenameFromHttp text =>
      listLine_unchanged_iff denotes low high cfg env reached.wellFormed text gamenameFromHttp,
    fun env _ _ text => notQueried_iff denotes low high env text⟩

/-- The multiple of 65536 itself. -/
theorem portsRefused_iff_multiple :
    Unchanged .initial (heartBeat defaultConfig quietEnv unrealServer
        (ascii "heartbeat\\65536\\gamename\\unreal") .initial) ∧
      NotQueried quietEnv (ascii "192.0.2.1,65536,quake2") 0 := by
  have denotes : Denotes (ascii "65536") 65536 := .unsigned (by decide) (by simp [ascii, isDigit])
  obtain ⟨heartbeats, -, queries⟩ := portsRefused_iff denotes (by decide) (by decide)
  constructor
  · exact (heartbeats defaultConfig _ .refl unrealServer _ (by decide)).mpr
      (Or.inl (Int.dvd_refl _)) quietEnv
  · exact (queries _ _ 0 (by decide)).mpr (Or.inl (Int.dvd_refl _))

/-- A port text registers nothing and has nothing queried. -/
structure PortIgnored (port : CString) : Prop where
  heartBeats : ∀ cfg reg, ServerList.Reachable cfg reg → ∀ env sender data,
    (tokens [backslash] (cstr (data.drop 10))).head? = some port →
      Unchanged reg (heartBeat cfg env sender data reg)
  listLines : ∀ cfg reg, ServerList.Reachable cfg reg → ∀ env line gamenameFromHttp,
    (tokens listSeparators line)[1]? = some port →
      Unchanged reg
        (addServers cfg (addServersFromListExecute env line gamenameFromHttp).toList reg)
  queries : ∀ env file index,
    (tokens listSeparators (cstr (file ++ [newline])))[index + 1]? = some port →
      NotQueried env file index

/-- A server that announces port 73314 is registered with port 7778. -/
theorem port_wraps : ¬ ∀ (port : CString) (n : Int), Denotes port n → -(2 ^ 31) ≤ n → n < 2 ^ 31 →
    n < 1 ∨ 65535 < n → PortIgnored port := by
  intro always
  have denotes : Denotes (ascii "73314") 73314 := .unsigned (by decide) (by simp [ascii, isDigit])
  have ignored := always _ _ denotes (by decide) (by decide) (by decide)
  have same := ignored.heartBeats defaultConfig _ .refl quietEnv unrealServer
    (ascii "heartbeat\\73314\\gamename\\unreal") (by decide)
  exact absurd same.1 (List.cons_ne_nil _ _)

end GSMaster.Packets
