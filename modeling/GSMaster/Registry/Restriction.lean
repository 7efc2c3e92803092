import GSMaster.Registry.Entries
import GSMaster.Registry.Jitter

/-!
# Servers do not depend on each other

The entries of some keys are what they would be if no other server had ever
been heard of: leaving everything out of a run that is about other servers
leaves exactly these entries. What the entries share is the generator only,
from which a pass of `RunFrame` draws for one entry after the other.
-/

namespace GSMaster.Registry

open GSMaster.Text GSMaster.Net GSMaster.Games GSMaster.Library ServerList

/-- An operation with its surroundings. -/
abbrev Deed := (Nat → Env) × Operation

/-- A run of some operations in their surroundings. -/
inductive Performs (cfg : Config) : List Deed → ServerList → Prop where
  | start : Performs cfg [] ServerList.initial
  | step {deeds : List Deed} {reg reg' : ServerList} (env : Nat → Env) (op : Operation)
      (run : Performs cfg deeds reg) (done : exec cfg env op reg = some reg') :
      Performs cfg (deeds ++ [(env, op)]) reg'

/-- The values that a pass draws for those of the servers that have one of some keys. -/
def keptDraws (cfg : Config) (among : ServerKey → Bool) (env : Env) : Nat → List Server → List Nat
  | _, [] => []
  | drawn, server :: rest =>
      if server.Expired (env.time 0) then keptDraws cfg among env drawn rest
      else if server.PingDue cfg (env.time 0) then
        if among server.key then
          (List.range 7).map (fun i => env.rand (drawn + i)) ++
            keptDraws cfg among env (drawn + 7) rest
        else keptDraws cfg among env (drawn + 7) rest
      else keptDraws cfg among env drawn rest

/--
What is left of an operation without the servers of other keys: the calls of
`AddServer` that a list makes for these keys, a pass that draws the values left
to it, and the operation itself if it is for one of these keys.
-/
def Operation.part (among : ServerKey → Bool) (env : Nat → Env) (draws : List Nat) :
    Operation → List Deed
  | .addServer call => if among call.key then [(env, .addServer call)] else []
  | .queueShutdown sender =>
      if among (sender.sinAddr, sender.sinPort) then [(env, .queueShutdown sender)] else []
  | .ack sender dataPacket dglen =>
      if among (sender.sinAddr, sender.sinPort) then [(env, .ack sender dataPacket dglen)] else []
  | .heartBeat sender data =>
      match parseHeartBeat data with
      | none => []
      | some request =>
          if among (sender.sinAddr, htons request.queryPort) then [(env, .heartBeat sender data)]
          else []
  | .runFrame => [(fun _ => { env 0 with rand := fun i => draws.getD i 0 }, .runFrame)]
  | list => ((list.calls env).filter fun call => among call.2.key).map fun call =>
      (fun _ => call.1, .addServer call.2)

/--
A run with the registry it ends with, and the same run without what is about
the servers of other keys. A pass draws for each entry what it drew for it in
the whole run.
-/
inductive Restricts (cfg : Config) (among : ServerKey → Bool) :
    List Deed → ServerList → List Deed → Prop where
  | start : Restricts cfg among [] ServerList.initial []
  | step {deeds kept : List Deed} {reg reg' : ServerList} (env : Nat → Env) (op : Operation)
      (earlier : Restricts cfg among deeds reg kept) (done : exec cfg env op reg = some reg') :
      Restricts cfg among (deeds ++ [(env, op)]) reg'
        (kept ++ op.part among env (keptDraws cfg among (env 0) 0 reg.servers))

/-- The servers of some keys. -/
def keep (among : ServerKey → Bool) (servers : List Server) : List Server :=
  servers.filter fun server => among server.key

variable {cfg : Config} {among : ServerKey → Bool} {reg reg' part : ServerList}
  {kept : List Deed}

/-! ## The draws of a pass -/

/-- A pass over the servers of a registry, of which some values have been drawn already. -/
def frameServers (cfg : Config) (env : Env) : Nat → List Server → List Server
  | _, [] => []
  | drawn, server :: rest =>
      if server.Expired (env.time 0) then frameServers cfg env drawn rest
      else if server.PingDue cfg (env.time 0) then
        pingedServer cfg env drawn server :: frameServers cfg env (drawn + 7) rest
      else server :: frameServers cfg env drawn rest

section Cases

variable {env : Env} {drawn : Nat} {server : Server} {rest : List Server}

theorem frameServers_expired (expired : server.Expired (env.time 0)) :
    frameServers cfg env drawn (server :: rest) = frameServers cfg env drawn rest := by
  rw [frameServers, if_pos expired]

theorem frameServers_due (due : server.PingDue cfg (env.time 0)) :
    frameServers cfg env drawn (server :: rest) =
      pingedServer cfg env drawn server :: frameServers cfg env (drawn + 7) rest := by
  rw [frameServers, if_neg fun expired : server.Expired _ => expired.not_due due, if_pos due]

theorem frameServers_idle (fresh : ¬ server.Expired (env.time 0))
    (early : ¬ server.PingDue cfg (env.time 0)) :
    frameServers cfg env drawn (server :: rest) = server :: frameServers cfg env drawn rest := by
  rw [frameServers, if_neg fresh, if_neg early]

end Cases

theorem sweepCells_servers (cfg : Config) (env : Env) (state : FrameState)
    (cells : List (Nat × Server)) :
    (sweepCells (runFrameVisit cfg env) state cells).1.map Prod.snd =
      frameServers cfg env state.drawn (cells.map Prod.snd) := by
  induction cells generalizing state with
  | nil => rfl
  | cons cell cells ih =>
      obtain ⟨block, server⟩ := cell
      rw [List.map_cons, sweepCells]
      rcases runFrameVisit_cases cfg env state server with
        ⟨expired, dropped⟩ | ⟨due, pinged⟩ | ⟨fresh, early, same⟩
      · rw [frameServers_expired expired, dropped]
        exact ih _
      · rw [frameServers_due due, pinged]
        exact congrArg (List.cons _) (ih _)
      · rw [frameServers_idle fresh early, same]
        exact congrArg (List.cons _) (ih _)

theorem runFrame_servers (cfg : Config) (env : Env) (reg : ServerList) :
    (runFrame cfg env reg).servers = frameServers cfg env 0 reg.servers :=
  sweepCells_servers cfg env _ reg.cells

/-- A ping takes seven values. -/
theorem pingedServer_congr (cfg : Config) {env env' : Env} {drawn drawn' : Nat}
    (time : env.time = env'.time) (same : ∀ i < 7, env.rand (drawn + i) = env'.rand (drawn' + i))
    (server : Server) :
    pingedServer cfg env drawn server = pingedServer cfg env' drawn' server := by
  have jitter : pingJitter cfg (env.drawn drawn) = pingJitter cfg (env'.drawn drawn') :=
    congrArg (fun value => value.toUInt64 % cfg.heartbeatInterval) (same 0 (by decide))
  have key : gameSpyCreateChallengeKey (env.drawn (drawn + 1)).rand 6 =
      gameSpyCreateChallengeKey (env'.drawn (drawn' + 1)).rand 6 := by
    refine gameSpyCreateChallengeKey_congr fun i inside => ?_
    change env.rand (drawn + 1 + i) = env'.rand (drawn' + 1 + i)
    rw [Nat.add_assoc, Nat.add_assoc, Nat.add_comm 1 i]
    exact same (i + 1) (Nat.succ_lt_succ inside)
  unfold pingedServer
  rw [jitter, key, time]

theorem keep_cons_of_pos {server : Server} {servers : List Server}
    (member : among server.key = true) :
    keep among (server :: servers) = server :: keep among servers :=
  List.filter_cons_of_pos member

theorem keep_cons_of_neg {server : Server} {servers : List Server}
    (other : ¬ among server.key = true) :
    keep among (server :: servers) = keep among servers :=
  List.filter_cons_of_neg other

theorem draws_early (rand : Nat → Nat) (drawn : Nat) (later : List Nat) {i : Nat} (few : i < 7) :
    ((List.range 7).map (fun i => rand (drawn + i)) ++ later).getD i 0 = rand (drawn + i) := by
  have inside : i < ((List.range 7).map fun i => rand (drawn + i)).length := by
    rwa [List.length_map, List.length_range]
  rw [List.getD_append _ _ _ _ inside, List.getD_eq_getElem _ _ inside, List.getElem_map,
    List.getElem_range]

theorem draws_late (rand : Nat → Nat) (drawn : Nat) (later : List Nat) (i : Nat) :
    ((List.range 7).map (fun i => rand (drawn + i)) ++ later).getD (7 + i) 0 = later.getD i 0 := by
  have seven : ((List.range 7).map fun i => rand (drawn + i)).length = 7 := by
    rw [List.length_map, List.length_range]
  rw [List.getD_append_right _ _ _ _ (by rw [seven]; exact Nat.le_add_right 7 i), seven,
    Nat.add_sub_cancel_left]

/-- A pass over some of the servers alone that draws what a pass over all draws for them. -/
theorem frameServers_keep (cfg : Config) (among : ServerKey → Bool) (env : Env)
    (rand : Nat → Nat) (servers : List Server) (drawn drawn' : Nat)
    (draws : ∀ i, rand (drawn' + i) = (keptDraws cfg among env drawn servers).getD i 0) :
    frameServers cfg { env with rand := rand } drawn' (keep among servers) =
      keep among (frameServers cfg env drawn servers) := by
  induction servers generalizing drawn drawn' with
  | nil => rfl
  | cons server servers ih =>
      rw [keptDraws] at draws
      by_cases expired : server.Expired (env.time 0)
      · simp only [if_pos expired] at draws
        rw [frameServers_expired expired, ← ih drawn drawn' draws]
        by_cases member : among server.key = true
        · rw [keep_cons_of_pos member]
          exact frameServers_expired expired
        · rw [keep_cons_of_neg member]
      by_cases due : server.PingDue cfg (env.time 0)
      · simp only [if_neg expired, if_pos due] at draws
        rw [frameServers_due due]
        by_cases member : among server.key = true
        · have pinged : among (pingedServer cfg env drawn server).key = true := member
          simp only [if_pos member] at draws
          have same : pingedServer cfg { env with rand := rand } drawn' server =
              pingedServer cfg env drawn server := by
            apply pingedServer_congr
            · rfl
            · intro i few
              exact (draws i).trans (draws_early env.rand drawn _ few)
          have rest := ih (drawn + 7) (drawn' + 7) fun i => by
            rw [Nat.add_assoc]
            exact (draws (7 + i)).trans (draws_late env.rand drawn _ i)
          rw [keep_cons_of_pos member, keep_cons_of_pos pinged, ← rest, ← same]
          exact frameServers_due due
        · have pinged : ¬ among (pingedServer cfg env drawn server).key = true := member
          simp only [if_neg member] at draws
          rw [keep_cons_of_neg member, keep_cons_of_neg pinged]
          exact ih (drawn + 7) drawn' draws
      · simp only [if_neg expired, if_neg due] at draws
        rw [frameServers_idle expired due]
        by_cases member : among server.key = true
        · rw [keep_cons_of_pos member, keep_cons_of_pos member, ← ih drawn drawn' draws]
          exact frameServers_idle expired due
        · rw [keep_cons_of_neg member, keep_cons_of_neg member]
          exact ih drawn drawn' draws

/-! ## The other operations on some of the servers -/

theorem find_servers (reg : ServerList) (test : Server → Bool) :
    reg.servers.find? test = (reg.find test).map Prod.snd :=
  List.find?_map ..

/-- A search for a key among others finds what it finds among all. -/
theorem find_keep {test : Server → Bool} {servers : List Server}
    (member : ∀ server, test server = true → among server.key = true) :
    (keep among servers).find? test = servers.find? test := by
  rw [keep, List.find?_filter]
  refine congrArg (fun test => servers.find? test) (funext fun server => ?_)
  cases found : test server with
  | false => simp
  | true => simp [member server found]

/-- Writing the entries of a key among others is writing them and leaving the others out. -/
theorem keep_written {test : Server → Bool} {change : Server → Server}
    (key : ∀ server, test server = true → (change server).key = server.key)
    (servers : List Server) :
    keep among (servers.map fun server => if test server then change server else server) =
      (keep among servers).map fun server => if test server then change server else server := by
  rw [keep, List.filter_map]
  refine congrArg (List.map _) (List.filter_congr fun server _ => ?_)
  rw [Function.comp_apply]
  split
  · rename_i found
    rw [key server found]
  · rfl

/-- Writing an entry that is left out changes nothing. -/
theorem keep_unwritten {test : Server → Bool} {change : Server → Server}
    (key : ∀ server, test server = true → (change server).key = server.key)
    (other : ∀ server, test server = true → ¬ among server.key = true) (servers : List Server) :
    keep among (servers.map fun server => if test server then change server else server) =
      keep among servers := by
  rw [keep_written key]
  refine (List.map_congr_left fun server member => ?_).trans (List.map_id _)
  exact if_neg fun found => other server found (List.mem_filter.mp member).2

/-- `AddServer` on the servers alone. -/
def addTo (cfg : Config) (env : Env) (call : AddCall) (servers : List Server) : List Server :=
  match call.accepted with
  | none => servers
  | some gamename =>
      match servers.find? call.found with
      | none => servers ++ [newServer cfg env call gamename]
      | some server =>
          if server.shutdownIssued then
            keep (fun key => key ≠ call.key) servers ++ [newServer cfg env call gamename]
          else servers

theorem appendServer_servers (cfg : Config) (env : Env) (call : AddCall) (gamename : CString)
    (reg : ServerList) : (appendServer cfg env call gamename reg).servers =
      reg.servers ++ [newServer cfg env call gamename] := by
  change (reg.cells ++ [_]).map Prod.snd = _
  rw [List.map_append]
  rfl

theorem addServer_servers (sound : reg.WellFormed) (cfg : Config) (env : Env) (call : AddCall) :
    (addServer cfg env call reg).servers = addTo cfg env call reg.servers := by
  unfold addServer addTo
  cases call.accepted with
  | none => rfl
  | some gamename =>
      simp only [find_servers]
      cases found : reg.find call.found with
      | none => exact appendServer_servers cfg env call gamename reg
      | some cell =>
          obtain ⟨block, server⟩ := cell
          obtain ⟨member, passes⟩ := find_some found
          simp only [Option.map_some]
          split
          · rw [appendServer_servers]
            refine congrArg (· ++ _) ?_
            rw [keep, servers, servers, ServerList.drop, List.filter_map]
            refine congrArg (List.map _) (List.filter_congr fun cell inside => ?_)
            rw [Function.comp_apply, decide_eq_decide, ← found_iff.mp passes]
            refine not_congr ⟨fun same => ?_, fun same => ?_⟩
            · obtain ⟨held, other⟩ := cell
              obtain rfl : held = block := same
              rw [sound.cell_inj inside member]
            · exact congrArg Prod.fst (sound.key_inj inside member same)
          · rfl

/-- A call for a server that stays adds it to those that stay; another one changes none of them. -/
theorem addTo_keep (cfg : Config) (env : Env) (call : AddCall) (servers : List Server) :
    keep among (addTo cfg env call servers) =
      if among call.key = true then addTo cfg env call (keep among servers)
      else keep among servers := by
  have new (gamename : CString) :
      keep among [newServer cfg env call gamename] =
        if among call.key = true then [newServer cfg env call gamename] else [] := by
    split
    · rename_i member
      exact keep_cons_of_pos member
    · rename_i other
      exact keep_cons_of_neg other
  have left (rest : List Server) : keep among (servers ++ rest) =
      keep among servers ++ keep among rest := List.filter_append ..
  unfold addTo
  cases call.accepted with
  | none => exact (ite_self _).symm
  | some gamename =>
      by_cases member : among call.key = true
      · have found : (keep among servers).find? call.found = servers.find? call.found :=
          find_keep fun server passes => (congrArg among (found_iff.mp passes)).trans member
        simp only [if_pos member, found]
        cases servers.find? call.found with
        | none => rw [left, new, if_pos member]
        | some server =>
            simp only
            split
            · have both : keep among (keep (fun key => key ≠ call.key) servers) =
                  keep (fun key => key ≠ call.key) (keep among servers) := by
                rw [keep, keep, keep, keep, List.filter_filter, List.filter_filter]
                exact List.filter_congr fun server _ => Bool.and_comm ..
              rw [keep, List.filter_append]
              exact congr (congrArg _ both) ((new gamename).trans (if_pos member))
            · rfl
      · simp only [if_neg member]
        cases servers.find? call.found with
        | none => rw [left, new, if_neg member, List.append_nil]
        | some server =>
            simp only
            split
            · have rest : keep among (keep (fun key => key ≠ call.key) servers) =
                  keep among servers := by
                rw [keep, keep, keep, List.filter_filter]
                refine List.filter_congr fun server _ => ?_
                cases kept : among server.key with
                | false => rfl
                | true =>
                    have apart : server.key ≠ call.key := fun same => member (same ▸ kept)
                    exact decide_eq_true apart
              rw [keep, List.filter_append]
              refine (congr (congrArg _ rest) ((new gamename).trans (if_neg member))).trans ?_
              exact List.append_nil _
            · rfl

/-! ## Runs -/

theorem servers_of_cells {change : Server → Server}
    (same : reg'.cells = reg.cells.map fun cell => (cell.1, change cell.2)) :
    reg'.servers = reg.servers.map change := by
  rw [servers, same, servers, List.map_map, List.map_map]
  rfl

theorem Performs.wellFormed {deeds : List Deed} (run : Performs cfg deeds reg) :
    reg.WellFormed := by
  induction run with
  | start => exact initial_wellFormed
  | step env op _ done ih => exact (exec_sound ih done).1

/-- An operation that writes the entry of one key is made for that key, or left out. -/
theorem restrict_written {key : ServerKey} {test : Server → Bool} {change : Server → Server}
    (keyed : ∀ server, test server = true ↔ server.key = key)
    (stays : ∀ server, test server = true → (change server).key = server.key)
    (whole : reg'.servers =
      reg.servers.map fun server => if test server then change server else server)
    (run : Performs cfg kept part) (same : part.servers = keep among reg.servers) {deed : Deed}
    (partly : among key = true → ∃ part', Performs cfg (kept ++ [deed]) part' ∧
      part'.servers = part.servers.map fun server =>
        if test server then change server else server) :
    ∃ part', Performs cfg (kept ++ if among key then [deed] else []) part' ∧
      part'.servers = keep among reg'.servers := by
  rw [whole]
  by_cases member : among key = true
  · obtain ⟨part', run', written⟩ := partly member
    rw [if_pos member]
    exact ⟨part', run', by rw [written, same, keep_written stays]⟩
  · rw [if_neg member, List.append_nil]
    refine ⟨part, run, same.trans (keep_unwritten stays (fun server found inside => ?_) _).symm⟩
    exact member ((keyed server).mp found ▸ inside)

theorem restrict_addServer (sound : reg.WellFormed) (env : Nat → Env) (call : AddCall)
    (run : Performs cfg kept part) (same : part.servers = keep among reg.servers) :
    ∃ part', Performs cfg (kept ++ if among call.key then [(env, .addServer call)] else []) part' ∧
      part'.servers = keep among (addServer cfg (env 0) call reg).servers := by
  rw [addServer_servers sound, addTo_keep, ← same]
  split
  · refine ⟨addServer cfg (env 0) call part, run.step env (.addServer call) rfl, ?_⟩
    exact addServer_servers run.wellFormed cfg (env 0) call
  · rw [List.append_nil]
    exact ⟨part, run, rfl⟩

theorem restrict_addServers (calls : List (Env × AddCall)) (sound : reg.WellFormed)
    (run : Performs cfg kept part) (same : part.servers = keep among reg.servers) :
    ∃ part', Performs cfg (kept ++ (calls.filter fun call => among call.2.key).map fun call =>
        (fun _ => call.1, .addServer call.2)) part' ∧
      part'.servers = keep among (addServers cfg calls reg).servers := by
  induction calls generalizing reg part kept with
  | nil =>
      refine ⟨part, ?_, same⟩
      rw [List.filter_nil, List.map_nil, List.append_nil]
      exact run
  | cons call calls ih =>
      obtain ⟨part', run', same'⟩ := restrict_addServer sound (fun _ => call.1) call.2 run same
      obtain ⟨last, whole, lastSame⟩ :=
        ih (addServer_sound sound cfg call.1 call.2).1 run' same'
      refine ⟨last, ?_, lastSame⟩
      by_cases member : among call.2.key = true
      · rw [if_pos member] at whole
        rw [List.filter_cons_of_pos (by exact member), List.map_cons, List.append_cons]
        exact whole
      · rw [if_neg member, List.append_nil] at whole
        rw [List.filter_cons_of_neg (by exact member)]
        exact whole

theorem restrict_heartBeat (sound : reg.WellFormed) (env : Nat → Env) (draws : List Nat)
    (sender : SockaddrIn) (data : List UInt8) (run : Performs cfg kept part)
    (same : part.servers = keep among reg.servers) :
    ∃ part', Performs cfg (kept ++ (Operation.heartBeat sender data).part among env draws)
        part' ∧
      part'.servers = keep among (heartBeat cfg (env 0) sender data reg).servers := by
  cases parsed : parseHeartBeat data with
  | none =>
      have nothing : (Operation.heartBeat sender data).part among env draws = [] := by
        simp only [Operation.part, parsed]
      rw [nothing, List.append_nil, heartBeat, parsed]
      exact ⟨part, run, same⟩
  | some request =>
      have remains : (Operation.heartBeat sender data).part among env draws =
          if among (sender.sinAddr, htons request.queryPort) then
            [(env, .heartBeat sender data)] else [] := by
        simp only [Operation.part, parsed]
      rw [remains]
      have keyed (server : Server) : request.found sender server = true ↔
          server.key = (sender.sinAddr, htons request.queryPort) := request_found_iff
      have missing {other : ServerList} (none : other.find (request.found sender) = none) :
          exec cfg env (.heartBeat sender data) other =
            exec cfg env (.addServer (request.addCall sender)) other := by
        change some (heartBeat cfg (env 0) sender data other) =
          some (addServer cfg (env 0) (request.addCall sender) other)
        rw [heartBeat_unknown parsed none]
      cases found : reg.find (request.found sender) with
      | none =>
          rw [heartBeat_unknown parsed found, addServer_servers sound, addTo_keep, ← same]
          have key : (request.addCall sender).key =
              (sender.sinAddr, htons request.queryPort) := rfl
          rw [key]
          split
          · rename_i member
            have absent : part.find (request.found sender) = Option.none := by
              have there := find_servers part (request.found sender)
              rw [same, find_keep fun server passes =>
                (congrArg among ((keyed server).mp passes)).trans member, find_servers, found]
                at there
              exact Option.map_eq_none_iff.mp there.symm
            refine ⟨addServer cfg (env 0) (request.addCall sender) part,
              run.step env (.heartBeat sender data) (missing absent), ?_⟩
            exact addServer_servers run.wellFormed cfg (env 0) _
          · rw [List.append_nil]
            exact ⟨part, run, rfl⟩
      | some cell =>
          have known := @heartBeat_known cfg (env 0) _ _ _ sound _ parsed _ found
          refine restrict_written keyed (fun server passes => ?_) (servers_of_cells known) run
            same fun member => ?_
          · have identity := congrArg Prod.fst (heartBeatServer_identity (env 0) passes)
            unfold HeartBeatRequest.written
            split
            · exact identity
            · exact identity
          · have there : part.servers.find? (request.found sender) = some cell.2 := by
              rw [same, find_keep fun server passes =>
                (congrArg among ((keyed server).mp passes)).trans member, find_servers, found]
              rfl
            rw [find_servers] at there
            obtain ⟨cell', found', -⟩ := Option.map_eq_some_iff.mp there
            refine ⟨heartBeat cfg (env 0) sender data part,
              run.step env (.heartBeat sender data) rfl, ?_⟩
            exact servers_of_cells (heartBeat_known run.wellFormed parsed found')

/-- What is left of an operation does to some of the servers what it does to them among all. -/
theorem restrict_step {env : Nat → Env} {op : Operation} (sound : reg.WellFormed)
    (done : exec cfg env op reg = some reg') (run : Performs cfg kept part)
    (same : part.servers = keep among reg.servers) :
    ∃ part', Performs cfg
        (kept ++ op.part among env (keptDraws cfg among (env 0) 0 reg.servers)) part' ∧
      part'.servers = keep among reg'.servers := by
  have sound' := run.wellFormed
  cases op with
  | addServer call =>
      cases done
      exact restrict_addServer sound env call run same
  | queueShutdown sender =>
      cases done
      refine restrict_written (fun server => sentBy_iff) (fun server _ => ?_)
        (servers_of_cells (queueShutdown_cells sound (env 0) sender)) run same fun _ => ?_
      · rfl
      · exact ⟨_, run.step env (.queueShutdown sender) rfl,
          servers_of_cells (queueShutdown_cells sound' (env 0) sender)⟩
  | runFrame =>
      cases done
      refine ⟨_, run.step _ .runFrame rfl, ?_⟩
      rw [runFrame_servers, runFrame_servers, same]
      refine frameServers_keep cfg among (env 0) _ reg.servers 0 0 fun i => ?_
      rw [Nat.zero_add]
  | ack sender dataPacket dglen =>
      cases done
      refine restrict_written (fun server => sentBy_iff) (fun server _ => ?_)
        (servers_of_cells (ack_cells sound cfg (env 0) sender dataPacket dglen)) run same
        fun _ => ?_
      · exact congrArg Prod.fst (ackServer_identity cfg (env 0) dataPacket dglen server)
      · exact ⟨_, run.step env (.ack sender dataPacket dglen) rfl,
          servers_of_cells (ack_cells sound' cfg (env 0) sender dataPacket dglen)⟩
  | heartBeat sender data =>
      cases done
      exact restrict_heartBeat sound env _ sender data run same
  | parseUDPMSList tmp gamename size =>
      cases done
      exact restrict_addServers _ sound run same
  | addServersFromListExecute fileBuffer gamename =>
      cases done
      exact restrict_addServers _ sound run same
  | readMasterDBBlob file stale =>
      obtain ⟨calls, read, rfl⟩ := Option.map_eq_some_iff.mp done
      obtain ⟨part', whole, same'⟩ := restrict_addServers calls sound run same
      refine ⟨part', ?_, same'⟩
      change Performs cfg
        (kept ++ (((readMasterDBBlob env file stale).getD []).filter _).map _) part'
      rw [read]
      exact whole

/--
What is left of a run without anything that is about the servers of other keys
ends with exactly the entries of the run that have one of these keys, in the
same order and with the same contents. So no datagram of another server, no
list entry for one and no removal of one makes a difference to them.
-/
theorem servers_independent {deeds : List Deed} (run : Performs cfg deeds reg)
    (among : ServerKey → Bool) :
    ∃ kept part, Restricts cfg among deeds reg kept ∧ Performs cfg kept part ∧
      part.servers = reg.servers.filter fun server => among server.key := by
  induction run with
  | start => exact ⟨[], ServerList.initial, .start, .start, rfl⟩
  | step env op run done ih =>
      obtain ⟨kept, part, restricts, alone, same⟩ := ih
      obtain ⟨part', performs, same'⟩ := restrict_step run.wellFormed done alone same
      exact ⟨_, part', restricts.step env op done, performs, same'⟩

def quakeCall : AddCall :=
  ⟨⟨⟨10, 0, 0, 1⟩, htons 27910⟩, true, htons 27910, some (ascii "quake2"), none⟩

def unrealCall : AddCall :=
  ⟨unrealServer, false, unrealServer.sinPort, some (ascii "unreal"), none⟩

/-- The registry after calls for a Quake 2 server and an Unreal server. -/
def twoGames : ServerList :=
  addServer defaultConfig quietEnv unrealCall
    (addServer defaultConfig quietEnv quakeCall ServerList.initial)

/-- Without the Quake 2 server the Unreal server is registered all the same. -/
theorem servers_independent_unreal :
    ∃ kept part, Restricts defaultConfig (fun key => key == unrealCall.key)
        [(fun _ => quietEnv, .addServer quakeCall), (fun _ => quietEnv, .addServer unrealCall)]
        twoGames kept ∧
      Performs defaultConfig kept part ∧ part.servers.map Server.gamename = [ascii "unreal"] := by
  have run : Performs defaultConfig [(fun _ => quietEnv, .addServer quakeCall),
      (fun _ => quietEnv, .addServer unrealCall)] twoGames :=
    ((Performs.start).step (fun _ => quietEnv) (.addServer quakeCall) rfl).step
      (fun _ => quietEnv) (.addServer unrealCall) rfl
  obtain ⟨kept, part, restricts, alone, same⟩ :=
    servers_independent run fun key => key == unrealCall.key
  exact ⟨kept, part, restricts, alone, by rw [same]; decide⟩

end GSMaster.Registry
