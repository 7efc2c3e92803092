import GSMaster.Registry.FrameRule

/-!
# The seeds of a pass

`RunFrame` seeds the generator with the time before it draws the jitter of an
entry, and `GameSpy_Create_Challenge_Key` seeds it with the time again. The
values that the rest of this development takes as given are those of one
generator here, and the draws are told apart by their places in its streams.
-/

namespace GSMaster.Registry

open GSMaster.Text GSMaster.Net GSMaster.Games GSMaster.Library

/-- `rand()`: the value of each call after `srand(seed)`, whatever the generator. -/
abbrev Generator := UInt32 → Nat → Nat

/-- Where a generator stands: its seed, and the calls since `srand`. -/
structure RandState where
  seed : UInt32
  calls : Nat
  deriving DecidableEq, Repr

def srand (seed : UInt32) : RandState :=
  ⟨seed, 0⟩

namespace RandState

/-- The values of the calls from a state on. -/
def values (generator : Generator) (rng : RandState) (i : Nat) : Nat :=
  generator rng.seed (rng.calls + i)

def advance (rng : RandState) (calls : Nat) : RandState :=
  { rng with calls := rng.calls + calls }

/-- The second state draws from the same stream, and a later value. -/
def Earlier (first second : RandState) : Prop :=
  first.seed = second.seed ∧ first.calls < second.calls

end RandState

/-- The draws are successive draws of one stream. -/
def Spread (draws : List RandState) : Prop :=
  draws.Pairwise RandState.Earlier

/-- `GameSpy_Create_Challenge_Key` at a time, and the generator after it. -/
def seededChallengeKey (generator : Generator) (time : UInt64) (len : Nat) : CString × RandState :=
  let rng := srand time.toUInt32
  (gameSpyCreateChallengeKey (rng.values generator) len, rng.advance len)

/-- What a pass has done so far, with the states in which the jitters were drawn. -/
structure SeededState where
  numservers : UInt64
  sent : List Datagram
  rng : RandState
  draws : List RandState

/-- The body of the loop of `RunFrame` with its generator. -/
def seededVisit (cfg : Config) (generator : Generator) (env : Env) (state : SeededState)
    (server : Server) : Option Server × SeededState :=
  let curtime := env.time 0
  if 60 < curtime - server.lastHeartbeat then
    if server.shutdownIssued || 6 < server.queuedPings then
      (none, { state with numservers := dropCount state.numservers })
    else if cfg.heartbeatInterval ≤ curtime - server.lastPing then
      let rng := srand curtime.toUInt32
      let jitter := (rng.values generator 0).toUInt64 % cfg.heartbeatInterval
      let keyed := seededChallengeKey generator curtime 6
      let pinged := { server with
        queuedPings := server.queuedPings + 1
        lastPing := curtime - jitter
        challengeKey := keyed.1 }
      let ping : Datagram := ⟨⟨hostnameToIP env server, server.port⟩,
        statusQuery pinged.gamename pinged.challengeKey⟩
      (some pinged, ⟨state.numservers, state.sent ++ [ping], keyed.2, state.draws ++ [rng]⟩)
    else (some server, state)
  else (some server, state)

/-- `RunFrame` with a generator, while `time()` stays the same. -/
def seededRunFrame (cfg : Config) (generator : Generator) (env : Env) (rng : RandState)
    (reg : ServerList) : List (Nat × Server) × SeededState :=
  sweepCells (seededVisit cfg generator env) ⟨reg.numservers, [], rng, []⟩ reg.cells

/-! ## The values of the pass -/

/-- What `rand()` returns over a pass: a jitter and six characters, each from the start again. -/
def reseeded (generator : Generator) (time : UInt64) (n : Nat) : Nat :=
  generator time.toUInt32 (if n % 7 = 0 then 0 else n % 7 - 1)

variable {cfg : Config} {generator : Generator} {env : Env}

/-- The entry after its ping: both seedings start the stream of the time again. -/
def seededServer (cfg : Config) (generator : Generator) (curtime : UInt64) (server : Server) :
    Server :=
  { server with
    queuedPings := server.queuedPings + 1
    lastPing := curtime - (generator curtime.toUInt32 0).toUInt64 % cfg.heartbeatInterval
    challengeKey := gameSpyCreateChallengeKey (generator curtime.toUInt32) 6 }

theorem srand_values (generator : Generator) (seed : UInt32) :
    (srand seed).values generator = generator seed := by
  funext i
  exact congrArg (generator seed) (Nat.zero_add i)

theorem seededVisit_eq (cfg : Config) (generator : Generator) (env : Env) (state : SeededState)
    (server : Server) :
    seededVisit cfg generator env state server =
      if server.Expired (env.time 0) then
        (none, { state with numservers := dropCount state.numservers })
      else if server.PingDue cfg (env.time 0) then
        (some (seededServer cfg generator (env.time 0) server),
          ⟨state.numservers,
            state.sent ++ [⟨⟨hostnameToIP env server, server.port⟩, statusQuery server.gamename
              (gameSpyCreateChallengeKey (generator (env.time 0).toUInt32) 6)⟩],
            (srand (env.time 0).toUInt32).advance 6,
            state.draws ++ [srand (env.time 0).toUInt32]⟩)
      else (some server, state) := by
  refine (frame_branches cfg (env.time 0) server _ _ _).trans ?_
  simp only [seededChallengeKey, srand_values]
  rfl

/-- The six characters of a key depend on six values only. -/
theorem gameSpyCreateChallengeKey_congr {rand rand' : Nat → Nat} {len : Nat}
    (same : ∀ i < len, rand i = rand' i) :
    gameSpyCreateChallengeKey rand len = gameSpyCreateChallengeKey rand' len := by
  unfold gameSpyCreateChallengeKey
  refine List.map_congr_left fun i inside => ?_
  rw [same i (List.mem_range.mp inside)]

/-- Between entries the draws of a pass are a multiple of seven, one for the jitter. -/
structure InStep (state : SeededState) (frame : FrameState) : Prop where
  numservers : state.numservers = frame.numservers
  sent : state.sent = frame.sent
  drawn : frame.drawn % 7 = 0

/-- With the generator's values for its surroundings, the body of the loop does the same. -/
theorem seededVisit_inStep {state : SeededState} {frame : FrameState}
    (inStep : InStep state frame) (server : Server) :
    (seededVisit cfg generator env state server).1 =
        (runFrameVisit cfg { env with rand := reseeded generator (env.time 0) } frame server).1 ∧
      InStep (seededVisit cfg generator env state server).2
        (runFrameVisit cfg { env with rand := reseeded generator (env.time 0) } frame server).2 := by
  obtain ⟨numservers, sent, drawn⟩ := inStep
  have jitter : reseeded generator (env.time 0) (frame.drawn + 0) =
      generator (env.time 0).toUInt32 0 := by
    rw [reseeded, Nat.add_zero, if_pos drawn]
  have key : gameSpyCreateChallengeKey
      (Env.drawn { env with rand := reseeded generator (env.time 0) } (frame.drawn + 1)).rand 6 =
        gameSpyCreateChallengeKey (generator (env.time 0).toUInt32) 6 := by
    refine gameSpyCreateChallengeKey_congr fun i inside => ?_
    change reseeded generator (env.time 0) (frame.drawn + 1 + i) = _
    rw [reseeded, if_neg (by omega)]
    exact congrArg _ (by omega)
  have entry : pingedServer cfg { env with rand := reseeded generator (env.time 0) } frame.drawn
      server = seededServer cfg generator (env.time 0) server := by
    unfold pingedServer
    rw [key, pingJitter]
    change { server with
      queuedPings := _
      lastPing := env.time 0 - (reseeded generator (env.time 0) (frame.drawn + 0)).toUInt64 % _
      challengeKey := _ } = _
    rw [jitter]
    rfl
  have ping : framePing { env with rand := reseeded generator (env.time 0) } frame.drawn server =
      ⟨⟨hostnameToIP env server, server.port⟩, statusQuery server.gamename
        (gameSpyCreateChallengeKey (generator (env.time 0).toUInt32) 6)⟩ := by
    unfold framePing
    rw [key]
    rfl
  rw [seededVisit_eq, runFrameVisit_eq, entry, ping]
  by_cases expired : server.Expired (env.time 0)
  · simp only [if_pos expired, true_and]
    exact ⟨congrArg dropCount numservers, sent, drawn⟩
  · by_cases due : server.PingDue cfg (env.time 0)
    · simp only [if_neg expired, if_pos due, true_and]
      exact ⟨numservers, congrArg (· ++ _) sent, (Nat.add_mod_right _ 7).trans drawn⟩
    · simp only [if_neg expired, if_neg due, true_and]
      exact ⟨numservers, sent, drawn⟩

/-- The pass with a generator is the pass on the values of this generator. -/
theorem seededRunFrame_runFrame (cfg : Config) (generator : Generator) (env : Env)
    (rng : RandState) (reg : ServerList) :
    let seeded := seededRunFrame cfg generator env rng reg
    runFrame cfg { env with rand := reseeded generator (env.time 0) } reg =
      { reg with
        cells := seeded.1
        numservers := seeded.2.numservers
        sent := reg.sent ++ seeded.2.sent } := by
  intro seeded
  have start : InStep ⟨reg.numservers, [], rng, []⟩ ⟨reg.numservers, [], 0⟩ := ⟨rfl, rfl, rfl⟩
  have agree : ∀ state frame server, InStep state frame →
      (seededVisit cfg generator env state server).1 =
          (runFrameVisit cfg { env with rand := reseeded generator (env.time 0) } frame server).1 ∧
        InStep (seededVisit cfg generator env state server).2
          (runFrameVisit cfg { env with rand := reseeded generator (env.time 0) } frame server).2 :=
    fun _ _ server inStep => seededVisit_inStep inStep server
  obtain ⟨cells, numservers, sent, -⟩ := sweepCells_related agree start reg.cells
  change seeded.1 = _ at cells
  change seeded.2.numservers = _ at numservers
  change seeded.2.sent = _ at sent
  rw [cells, numservers, sent]
  rfl

/-! ## The draws of the pass -/

/-- Every pinged entry adds one draw, and it is the first of the stream each time. -/
theorem sweepCells_draws (state : SeededState) (cells : List (Nat × Server)) :
    (sweepCells (seededVisit cfg generator env) state cells).2.draws =
      state.draws ++
        List.replicate (cells.countP fun cell => cell.2.PingDue cfg (env.time 0))
          (srand (env.time 0).toUInt32) := by
  induction cells generalizing state with
  | nil => exact (List.append_nil _).symm
  | cons cell cells ih =>
      have visited : (seededVisit cfg generator env state cell.2).2.draws =
          state.draws ++ if cell.2.PingDue cfg (env.time 0) then [srand (env.time 0).toUInt32]
            else [] := by
        rw [seededVisit_eq]
        by_cases expired : cell.2.Expired (env.time 0)
        · rw [if_pos expired, if_neg expired.not_due, List.append_nil]
        · rw [if_neg expired]
          by_cases due : cell.2.PingDue cfg (env.time 0)
          · rw [if_pos due, if_pos due]
          · rw [if_neg due, if_neg due, List.append_nil]
      have rest := ih (seededVisit cfg generator env state cell.2).2
      rw [List.countP_cons]
      simp only [sweepCells, rest, visited, List.append_assoc]
      by_cases due : cell.2.PingDue cfg (env.time 0)
      · simp only [due, if_true, decide_true, List.replicate_succ, List.singleton_append]
      · simp only [due, if_false, decide_false, Bool.false_eq_true, Nat.add_zero, List.nil_append]

/-- The jitters of a pass are successive draws when no more than one entry is pinged. -/
theorem seededRunFrame_spread_iff (cfg : Config) (generator : Generator) (env : Env)
    (rng : RandState) (reg : ServerList) :
    Spread (seededRunFrame cfg generator env rng reg).2.draws ↔
      (reg.cells.countP fun cell => cell.2.PingDue cfg (env.time 0)) ≤ 1 := by
  have same : ¬ RandState.Earlier (srand (env.time 0).toUInt32) (srand (env.time 0).toUInt32) :=
    fun earlier => Nat.lt_irrefl _ earlier.2
  rw [Spread, seededRunFrame, sweepCells_draws, List.nil_append, List.pairwise_replicate]
  exact or_iff_left same

/-- Entries that are pinged in one pass are due again in the same second. -/
theorem seededRunFrame_lastPing {rng : RandState} {reg : ServerList} {cell : Nat × Server}
    (left : cell ∈ (seededRunFrame cfg generator env rng reg).1) :
    ∃ server, (cell.1, server) ∈ reg.cells ∧
      cell.2.lastPing = if server.PingDue cfg (env.time 0) then
        env.time 0 - (generator (env.time 0).toUInt32 0).toUInt64 % cfg.heartbeatInterval
      else server.lastPing := by
  obtain ⟨server, held, state, visited⟩ := mem_sweepCells left
  refine ⟨server, held, ?_⟩
  rw [seededVisit_eq] at visited
  by_cases expired : server.Expired (env.time 0)
  · rw [if_pos expired] at visited
    cases visited
  · rw [if_neg expired] at visited
    by_cases due : server.PingDue cfg (env.time 0)
    · rw [if_pos due] at visited ⊢
      rw [← Option.some.inj visited]
      rfl
    · rw [if_neg due] at visited ⊢
      rw [← Option.some.inj visited]

/-- Two silent entries. -/
def twoSilent : ServerList where
  cells :=
    [(1, { Server.zero with
        ip := unrealServer, port := unrealServer.sinPort, gamename := ascii "unreal" }),
      (2, { Server.zero with
        ip := ⟨⟨10, 0, 0, 3⟩, htons 7778⟩, port := htons 7778, gamename := ascii "ut" })]
  nextBlock := 3
  numservers := 2
  sent := []

/-- Both get the first draw of the stream of the second 1000. -/
theorem seededRunFrame_not_spread :
    ¬ Spread (seededRunFrame defaultConfig (fun seed n => seed.toNat + n)
      { quietEnv with time := fun _ => 1000 } ⟨1, 0⟩ twoSilent).2.draws := by
  have draws : (seededRunFrame defaultConfig (fun seed n => seed.toNat + n)
      { quietEnv with time := fun _ => 1000 } ⟨1, 0⟩ twoSilent).2.draws =
        [⟨1000, 0⟩, ⟨1000, 0⟩] := by
    decide +kernel
  rw [draws]
  intro spread
  exact Nat.lt_irrefl 0 (List.rel_of_pairwise_cons spread (List.mem_singleton_self _)).2

end GSMaster.Registry
