import GSMaster.Library.KeyedList
import GSMaster.Registry.Invariant

/-!
# What an import leaves

The list of another master, a list file and the database come to the registry
as a sequence of calls of `AddServer`. An import keeps every entry but those
that wait for a shutdown and are named again, appends one entry for the first
mention of each server that is not kept, and queries these alone. Importing the
same servers again, in any order and at any time, changes nothing.
-/

namespace GSMaster.Registry

open GSMaster.Text GSMaster.Net GSMaster.Games GSMaster.Library

/-- A call of `AddServer` that passes its checks, with the game name that it has. -/
structure Arrival where
  env : Env
  call : AddCall
  gamename : CString

/-- The calls of an import that pass the checks. -/
def arrivals (calls : List (Env × AddCall)) : List Arrival :=
  calls.filterMap fun call => call.2.accepted.map fun gamename => ⟨call.1, call.2, gamename⟩

namespace Arrival

def server (cfg : Config) (arrival : Arrival) : Server :=
  newServer cfg arrival.env arrival.call arrival.gamename

/-- What is sent to a server that joins. -/
def sends (cfg : Config) (arrival : Arrival) : List Datagram :=
  newServerSends cfg arrival.call arrival.gamename (arrival.server cfg)

theorem server_key (cfg : Config) (arrival : Arrival) :
    (arrival.server cfg).key = arrival.call.key :=
  rfl

theorem server_lively (cfg : Config) (arrival : Arrival) :
    (arrival.server cfg).shutdownIssued = false :=
  rfl

end Arrival

/-- The keys of the entries that do not wait for a shutdown. -/
def ServerList.heldKeys (reg : ServerList) : List ServerKey :=
  Library.heldKeys Server.key Server.shutdownIssued reg.servers

/-- The arrivals that join a registry. -/
def joining (cfg : Config) (reg : ServerList) (calls : List (Env × AddCall)) : List Arrival :=
  newcomers Server.key (Arrival.server cfg) reg.heldKeys (arrivals calls)

/-! ## One call -/

theorem ServerList.WellFormed.server_keys {reg : ServerList} (sound : reg.WellFormed) :
    (reg.servers.map Server.key).Nodup := by
  rw [ServerList.servers, List.map_map]
  exact sound.cell_keys

/-- Dropping the block of an entry drops the entry with its key. -/
theorem drop_servers {reg : ServerList} (sound : reg.WellFormed) {block : Nat} {server : Server}
    (member : (block, server) ∈ reg.cells) :
    (reg.drop block).servers =
      reg.servers.filter fun other => decide (other.key ≠ server.key) := by
  rw [ServerList.servers, ServerList.servers, List.filter_map]
  refine congrArg (List.map Prod.snd) (List.filter_congr fun cell inside => ?_)
  refine decide_eq_decide.mpr (not_congr ⟨fun same => ?_, fun same => ?_⟩)
  · obtain ⟨held, other⟩ := cell
    obtain rfl : held = block := same
    rw [sound.cell_inj inside member]
  · rw [sound.key_inj inside member same]

/-- An entry that does not wait for a shutdown keeps a call for its key out. -/
theorem addServer_held {reg : ServerList} (sound : reg.WellFormed) (cfg : Config) (env : Env)
    {call : AddCall} (held : call.accepted ≠ none → call.key ∈ reg.heldKeys) :
    addServer cfg env call reg = reg := by
  rw [addServer]
  cases accepted : call.accepted with
  | none => rfl
  | some gamename =>
      rw [accepted] at held
      obtain ⟨holder, inside, lively, same⟩ := mem_heldKeys.mp (held (Option.some_ne_none _))
      obtain ⟨cell, member, rfl⟩ := List.mem_map.mp inside
      obtain ⟨⟨block, server⟩, found⟩ : ∃ found, reg.find call.found = some found :=
        Option.isSome_iff_exists.mp
          (List.find?_isSome.mpr ⟨cell, member, found_iff.mpr same⟩)
      obtain ⟨there, passes⟩ := ServerList.find_some found
      obtain rfl := sound.key_inj there member ((found_iff.mp passes).trans same.symm)
      rw [found]
      exact if_neg (Bool.eq_false_iff.mp lively)

/-- Another call that passes the checks appends its entry. -/
theorem addServer_joins {reg : ServerList} (sound : reg.WellFormed) (cfg : Config) (env : Env)
    {call : AddCall} {gamename : CString} (accepted : call.accepted = some gamename)
    (free : call.key ∉ reg.heldKeys) :
    (addServer cfg env call reg).servers =
        (reg.servers.filter fun other => decide (other.key ≠ call.key)) ++
          [newServer cfg env call gamename] ∧
      (addServer cfg env call reg).sent =
        reg.sent ++ newServerSends cfg call gamename (newServer cfg env call gamename) := by
  rw [addServer, accepted]
  cases found : reg.find call.found with
  | none =>
      refine ⟨?_, rfl⟩
      have others : ∀ other ∈ reg.servers, decide (other.key ≠ call.key) = true := by
        intro other inside
        obtain ⟨cell, member, rfl⟩ := List.mem_map.mp inside
        refine decide_eq_true fun same => ?_
        have passes := ServerList.find_none found member
        rw [found_iff.mpr same] at passes
        cases passes
      rw [List.filter_eq_self.mpr others]
      exact List.map_append
  | some cell =>
      obtain ⟨block, server⟩ := cell
      obtain ⟨member, passes⟩ := ServerList.find_some found
      have same := found_iff.mp passes
      have waiting : server.shutdownIssued = true := by
        by_contra lively
        refine free (mem_heldKeys.mpr ⟨server, ?_, Bool.eq_false_iff.mpr lively, same⟩)
        exact List.mem_map_of_mem member
      simp only [waiting, if_true]
      refine ⟨?_, rfl⟩
      rw [← same, ← drop_servers sound member]
      exact List.map_append

/-! ## An import -/

theorem arrivals_cons_none {env : Env} {call : AddCall} (refused : call.accepted = none)
    (calls : List (Env × AddCall)) : arrivals ((env, call) :: calls) = arrivals calls :=
  List.filterMap_cons_none (by rw [refused]; rfl)

theorem arrivals_cons_some {env : Env} {call : AddCall} {gamename : CString}
    (accepted : call.accepted = some gamename) (calls : List (Env × AddCall)) :
    arrivals ((env, call) :: calls) = ⟨env, call, gamename⟩ :: arrivals calls :=
  List.filterMap_cons_some (by rw [accepted]; rfl)

theorem arrivals_lively (cfg : Config) (calls : List (Env × AddCall)) :
    ∀ arrival ∈ arrivals calls, (arrival.server cfg).shutdownIssued = false :=
  fun arrival _ => arrival.server_lively cfg

/-- To the entries the calls are arrivals at a list with keys. -/
theorem addServers_enrols (cfg : Config) (calls : List (Env × AddCall)) {reg : ServerList}
    (sound : reg.WellFormed) :
    (addServers cfg calls reg).servers =
        enrolAll Server.key (Arrival.server cfg) Server.shutdownIssued (arrivals calls)
          reg.servers ∧
      (addServers cfg calls reg).sent =
        reg.sent ++ (joining cfg reg calls).flatMap (Arrival.sends cfg) := by
  induction calls generalizing reg with
  | nil => exact ⟨rfl, (List.append_nil _).symm⟩
  | cons call calls ih =>
      obtain ⟨env, call⟩ := call
      have rest := ih (addServer_sound sound cfg env call).1
      change (addServers cfg calls (addServer cfg env call reg)).servers = _ ∧
        (addServers cfg calls (addServer cfg env call reg)).sent = _
      rw [rest.1, rest.2, joining, joining]
      cases accepted : call.accepted with
      | none =>
          have same : addServer cfg env call reg = reg :=
            addServer_held sound cfg env fun some => absurd accepted some
          rw [same, arrivals_cons_none accepted]
          exact ⟨rfl, rfl⟩
      | some gamename =>
          rw [arrivals_cons_some accepted, enrolAll, enrolAll, List.foldl_cons, newcomers]
          by_cases held : call.key ∈ reg.heldKeys
          · have same : addServer cfg env call reg = reg :=
              addServer_held sound cfg env fun _ => held
            have out : enrol Server.key (Arrival.server cfg) Server.shutdownIssued reg.servers
                ⟨env, call, gamename⟩ = reg.servers := enrol_held sound.server_keys held
            rw [same, out, Arrival.server_key, if_pos held]
            exact ⟨rfl, rfl⟩
          · obtain ⟨servers, sent⟩ := addServer_joins sound cfg env accepted held
            have joins : enrol Server.key (Arrival.server cfg) Server.shutdownIssued reg.servers
                ⟨env, call, gamename⟩ = _ := enrol_joins held
            have after := servers.trans joins.symm
            have taken (key : ServerKey) : key ∈ (addServer cfg env call reg).heldKeys ↔
                key ∈ call.key :: reg.heldKeys := by
              rw [ServerList.heldKeys, after, List.mem_cons]
              exact mem_heldKeys_enrol sound.server_keys rfl
            rw [← after, Arrival.server_key, if_neg held, newcomers_congr taken, sent,
              List.flatMap_cons, List.append_assoc]
            exact ⟨rfl, rfl⟩

/-- Calls for keys that are held change nothing. -/
theorem addServers_held {reg : ServerList} (sound : reg.WellFormed) (cfg : Config)
    {calls : List (Env × AddCall)}
    (held : ∀ arrival ∈ arrivals calls, arrival.call.key ∈ reg.heldKeys) :
    addServers cfg calls reg = reg := by
  induction calls with
  | nil => rfl
  | cons call calls ih =>
      obtain ⟨env, call⟩ := call
      have first : call.accepted ≠ none → call.key ∈ reg.heldKeys := by
        intro accepted
        obtain ⟨gamename, accepted⟩ := Option.ne_none_iff_exists'.mp accepted
        rw [arrivals_cons_some accepted] at held
        exact held _ (List.mem_cons_self ..)
      have later : ∀ arrival ∈ arrivals calls, arrival.call.key ∈ reg.heldKeys := by
        intro arrival member
        cases accepted : call.accepted with
        | none =>
            rw [arrivals_cons_none accepted] at held
            exact held arrival member
        | some gamename =>
            rw [arrivals_cons_some accepted] at held
            exact held arrival (List.mem_cons_of_mem _ member)
      change addServers cfg calls (addServer cfg env call reg) = reg
      rw [addServer_held sound cfg env first]
      exact ih later

/--
An import is exact. Afterwards the registry has the entries that were there, in
their order, but for those that wait for a shutdown and are named again, and
behind them one new entry for the first mention of each server that is not
kept; these alone are sent anything. An import of servers that are all among
those of this one then changes nothing, whatever its order, its game names, its
host names and its time are.
-/
theorem import_exact (cfg : Config) (reg : ServerList) (reached : reg.Reachable cfg)
    (calls : List (Env × AddCall)) :
    (addServers cfg calls reg).servers =
        reg.servers.filter (stays Server.key Server.shutdownIssued
          ((arrivals calls).map fun arrival => arrival.call.key)) ++
          (joining cfg reg calls).map (Arrival.server cfg) ∧
      (addServers cfg calls reg).sent =
        reg.sent ++ (joining cfg reg calls).flatMap (Arrival.sends cfg) ∧
      ∀ again : List (Env × AddCall),
        (∀ arrival ∈ arrivals again,
          arrival.call.key ∈ (arrivals calls).map fun arrival => arrival.call.key) →
        addServers cfg again (addServers cfg calls reg) = addServers cfg calls reg := by
  have sound := reached.wellFormed
  obtain ⟨servers, sent⟩ := addServers_enrols cfg calls sound
  have lively := arrivals_lively cfg calls
  refine ⟨servers.trans (enrolAll_eq lively sound.server_keys), sent, fun again named => ?_⟩
  refine addServers_held (addServers_sound sound cfg calls).1 cfg fun arrival member => ?_
  rw [ServerList.heldKeys, servers, mem_heldKeys_enrolAll lively sound.server_keys]
  exact Or.inl (named arrival member)

/-- A call of `AddServer` for 10.0.0.1:27910. -/
def arrivalCall (gamename : CString) : AddCall :=
  ⟨⟨⟨10, 0, 0, 1⟩, htons 27910⟩, false, htons 27910, some gamename, none⟩

/-- The first mention of a server decides on its game. -/
theorem import_exact_twice :
    ((addServers defaultConfig
        [(quietEnv, arrivalCall (ascii "quake2")), (quietEnv, arrivalCall (ascii "kingpin"))]
        ServerList.initial).servers.map Server.gamename = [ascii "quake2"]) ∧
      addServers defaultConfig [(quietEnv, arrivalCall (ascii "kingpin"))]
          (addServers defaultConfig [(quietEnv, arrivalCall (ascii "quake2"))]
            ServerList.initial) =
        addServers defaultConfig [(quietEnv, arrivalCall (ascii "quake2"))]
          ServerList.initial := by
  refine ⟨by decide +kernel, ?_⟩
  exact (import_exact defaultConfig ServerList.initial .refl _).2.2 _ (by decide +kernel)

end GSMaster.Registry
