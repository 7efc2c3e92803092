import GSMaster.Database.RoundTrip
import GSMaster.Lists.Agreement
import GSMaster.Registry.ListFiles

/-!
# List files can be read back

Reading the list file of a game in a fresh master registers the servers that
the file gives, in its order, under the name of the game.
-/

namespace GSMaster.Lists

open GSMaster.Text GSMaster.Net GSMaster.Games GSMaster.Registry GSMaster.Database

/-- The line of a server in a list file. -/
def keyLine (key : ServerKey) : CString :=
  keyText key ++ ascii "\n"

theorem keyText_plain {key : ServerKey} {c : UInt8} (member : c ∈ keyText key) :
    c ≠ newline ∧ c ≠ 0 := by
  rcases List.mem_append.mp member with early | port
  · rcases List.mem_append.mp early with ip | colon
    · exact (inetNtoa_plain ip).2
    · rw [List.mem_singleton.mp colon]
      decide
  · exact (listSeparators_digit (isDigit_of_mem_decimal port)).2

/-- An address alone has three points. -/
theorem three_le_keyText (key : ServerKey) : 3 ≤ (keyText key).length := by
  have point : (ascii ".").length = 1 := rfl
  simp only [keyText, inetNtoa, List.length_append, point]
  omega

/-- The splitter gives back the lines of a file without their newlines. -/
theorem serverLines_keyLines {keys : List ServerKey} {fuel : Nat}
    (enough : (keys.flatMap keyLine).length ≤ fuel) :
    serverLines fuel (keys.flatMap keyLine) = keys.map keyText := by
  induction keys generalizing fuel with
  | nil =>
      cases fuel with
      | zero => rfl
      | succ fuel => exact if_pos rfl
  | cons key keys ih =>
      have text : (key :: keys).flatMap keyLine =
          keyText key ++ newline :: keys.flatMap keyLine := by
        rw [List.flatMap_cons, keyLine, List.append_assoc]
        rfl
      rw [text, List.length_append, List.length_cons] at enough
      obtain ⟨fuel, rfl⟩ : ∃ less, fuel = less + 1 := ⟨fuel - 1, by omega⟩
      have line : (keyText key ++ newline :: keys.flatMap keyLine).takeWhile
          (fun c => c != newline) = keyText key := by
        rw [List.takeWhile_append_of_pos fun c member => by
          simpa using (keyText_plain member).1, List.takeWhile_cons_of_neg (by simp),
          List.append_nil]
      have rest : (keyText key ++ newline :: keys.flatMap keyLine).drop
          ((keyText key).length + 1) = keys.flatMap keyLine := by
        rw [List.drop_append, List.drop_of_length_le (Nat.le_succ _), List.nil_append,
          Nat.add_sub_cancel_left]
        rfl
      rw [text, serverLines, if_neg (by simp), List.map_cons]
      simp only [line, rest]
      rw [ih (by omega)]

/-- What the fresh master is asked to register for a line of the file. -/
def keyCall (gamename : CString) (key : ServerKey) : AddCall :=
  ⟨⟨key.1, key.2⟩, sendAcknowledge (some gamename), key.2, some gamename,
    some (inetNtoa key.1)⟩

theorem serverLineCalls_keyText {env : Nat → Env}
    (resolves : ∀ index addr, (env index).gethostbyname (inetNtoa addr) = some addr)
    (gamename : CString) (index : Nat) {keys : List ServerKey} (ports : ∀ key ∈ keys, key.2 ≠ 0) :
    (serverLineCalls env (some gamename) index (keys.map keyText)).map Prod.snd =
      keys.map (keyCall gamename) := by
  induction keys generalizing index with
  | nil => rfl
  | cons key keys ih =>
      have line : cstr (keyText key) = inetNtoa key.1 ++ 58 :: decimal (ntohs key.2).toNat := by
        rw [cstr_of_forall fun c inside => (keyText_plain inside).2]
        simp [keyText, ascii]
      have later := ih (index + 1) fun other member => ports other (List.mem_cons_of_mem _ member)
      rw [List.map_cons, serverLineCalls, line,
        addServersFromListExecute_line (resolves index key.1) (ports key (List.mem_cons_self ..)),
        Option.toList_some, List.singleton_append, List.map_cons, later]
      rfl

/-- Each line of the file becomes a call for its server, in the order of the lines. -/
theorem addServersFromList_keyLines {env : Nat → Env}
    (resolves : ∀ index addr, (env index).gethostbyname (inetNtoa addr) = some addr)
    (gamename : CString) {keys : List ServerKey} (ports : ∀ key ∈ keys, key.2 ≠ 0) :
    (addServersFromList env (keys.flatMap keyLine) (some gamename)).map Prod.snd =
      keys.map (keyCall gamename) := by
  unfold addServersFromList
  cases keys with
  | nil => rfl
  | cons key rest =>
      have long := three_le_keyText key
      have size : ¬ ((key :: rest).flatMap keyLine).length < 3 := by
        rw [List.flatMap_cons, keyLine, List.length_append, List.length_append]
        omega
      rw [if_neg size, parseServerList, serverLines_keyLines (Nat.le_refl _)]
      exact serverLineCalls_keyText resolves gamename 0 ports

/-- The calls for distinct keys make a registry of these keys. -/
theorem addServers_keyCalls (cfg : Config) {gamename : CString} (supported : Supported gamename)
    {keys : List ServerKey} (ports : ∀ key ∈ keys, key.2 ≠ 0) (distinct : keys.Nodup)
    {calls : List (Env × AddCall)} (named : calls.map Prod.snd = keys.map (keyCall gamename)) :
    roster (addServers cfg calls ServerList.initial) = keys.map fun key => (key, gamename) := by
  refine addServers_roster ServerList.initial ?_ ?_
  · have accepted : (calls.map Prod.snd).map (fun call => (call.key, call.accepted)) =
        keys.map fun key => (key, some gamename) := by
      rw [named, List.map_map]
      refine List.map_congr_left fun key member => ?_
      change (key, if gamename = [] then none
        else if key.2 = 0 then none
        else if gameSpyGetGameSecKey gamename = none then none
        else some gamename) = _
      rw [if_neg supported.nonempty, if_neg (ports key member), if_neg supported]
    rw [List.map_map] at accepted
    rw [List.map_map]
    exact accepted
  · rw [List.map_append, List.map_map]
    exact (List.map_id keys).symm ▸ distinct

/-- The addresses and ports of the servers that a registry lists for a game. -/
def listedKeys (cfg : Config) (gamename : CString) (reg : ServerList) : List ServerKey :=
  (reg.servers.filter (udpListed cfg gamename)).map Server.key

/--
The list file of a game has the servers that the registry lists for it, and a
fresh master that reads the file registers these servers in their order under
the name of the game.
-/
theorem list_reimports (cfg : Config) (reg : ServerList) (reached : reg.Reachable cfg)
    (entry : GameTableEntry) (game : entry ∈ gameTable) (path : CString) (named : path ≠ [])
    (fopen : CString → Bool) (opens : fopen (serverFile path entry.gamename) = true)
    (fresh : Config) (env : Nat → Env)
    (resolves : ∀ index addr, (env index).gethostbyname (inetNtoa addr) = some addr) :
    (serverFile path entry.gamename, (listedKeys cfg entry.gamename reg).flatMap keyLine) ∈
        generateServersList cfg true path fopen reg.servers ∧
      roster (addServers fresh (addServersFromList env
        ((listedKeys cfg entry.gamename reg).flatMap keyLine) (some entry.gamename))
          ServerList.initial) =
        (listedKeys cfg entry.gamename reg).map fun key => (key, entry.gamename) := by
  have sound := reached.wellFormed
  have listed : (listedKeys cfg entry.gamename reg).Sublist
      (reg.cells.map fun cell => cell.2.key) := by
    have kept := List.filter_sublist (p := udpListed cfg entry.gamename) (l := reg.servers)
    have all := kept.map Server.key
    rw [ServerList.servers, List.map_map] at all
    exact all
  have ports : ∀ key ∈ listedKeys cfg entry.gamename reg, key.2 ≠ 0 := by
    intro key member
    obtain ⟨cell, held, rfl⟩ := List.mem_map.mp (listed.subset member)
    exact sound.ports _ (ServerList.mem_identities held)
  refine ⟨?_, addServers_keyCalls fresh (gameTable_supported entry game) ports
    (sound.cell_keys.sublist listed) (addServersFromList_keyLines resolves entry.gamename ports)⟩
  have written := serverFile_written game cfg named opens reg.servers
  rw [serversFileLoop_eq, List.nil_append, funext serverLine_eq] at written
  rw [listedKeys, List.flatMap_map]
  exact written

/-- Two Quake 2 servers that are listed at once. -/
def pairRegistry : ServerList :=
  let text := ascii "heartbeat\\27910\\gamename\\quake2"
  heartBeat immediately quietEnv ⟨⟨10, 0, 0, 2⟩, htons 27910⟩ text
    (heartBeat immediately quietEnv quake2Server text ServerList.initial)

theorem pairRegistry_reachable : pairRegistry.Reachable immediately :=
  let text := ascii "heartbeat\\27910\\gamename\\quake2"
  .tail (.single ⟨fun _ => quietEnv, quake2Heartbeat, rfl⟩)
    ⟨fun _ => quietEnv, .heartBeat ⟨⟨10, 0, 0, 2⟩, htons 27910⟩ text, rfl⟩

theorem list_reimports_quake2 :
    (ascii "lists\\quake2.txt", ascii "10.0.0.1:27910\n10.0.0.2:27910\n") ∈
        generateServersList immediately true (ascii "lists") (fun _ => true) pairRegistry.servers ∧
      roster (addServers defaultConfig
        (addServersFromList (fun _ => numericEnv) (ascii "10.0.0.1:27910\n10.0.0.2:27910\n")
          (some (ascii "quake2"))) ServerList.initial) =
        [((⟨10, 0, 0, 1⟩, htons 27910), ascii "quake2"),
          ((⟨10, 0, 0, 2⟩, htons 27910), ascii "quake2")] := by
  obtain ⟨written, read⟩ := list_reimports immediately pairRegistry pairRegistry_reachable
    ⟨ascii "quake2", ascii "rtW0xg", 27901⟩ (by decide) (ascii "lists") (by decide)
    (fun _ => true) rfl defaultConfig (fun _ => numericEnv) fun _ addr => dottedQuad_inetNtoa addr
  exact ⟨written, read⟩

end GSMaster.Lists
