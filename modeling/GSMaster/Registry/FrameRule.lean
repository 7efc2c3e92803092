import GSMaster.Registry.MemorySafety

/-!
# A pass of `RunFrame`, entry by entry

`RunFrame` unlinks and frees entries in the middle of its walk. What it does to
an entry is a rule that looks at this entry only, and the pass is the rule
applied to every entry in list order.
-/

namespace GSMaster.Registry

open GSMaster.Text GSMaster.Net GSMaster.Games GSMaster.Library

/-! ## The rule -/

/-- What a pass leaves of an entry, and what it sends to it. -/
structure Outcome where
  kept : Option Server
  sent : List Datagram

/-- The rule of one entry at the time of the pass. -/
inductive FrameRule (cfg : Config) (env : Env) (server : Server) : Outcome → Prop where
  | removed (expired : server.Expired (env.time 0)) : FrameRule cfg env server ⟨none, []⟩
  | pinged (due : server.PingDue cfg (env.time 0)) (jitter : UInt64) (rand : Nat → Nat)
      (small : jitter < cfg.heartbeatInterval) :
      FrameRule cfg env server
        ⟨some { server with
            queuedPings := server.queuedPings + 1
            lastPing := env.time 0 - jitter
            challengeKey := gameSpyCreateChallengeKey rand 6 },
          [⟨⟨hostnameToIP env server, server.port⟩,
            statusQuery server.gamename (gameSpyCreateChallengeKey rand 6)⟩]⟩
  | unchanged (fresh : ¬ server.Expired (env.time 0)) (early : ¬ server.PingDue cfg (env.time 0)) :
      FrameRule cfg env server ⟨some server, []⟩

/-- The cells that are left, in their order. -/
def keptCells (cells : List (Nat × Server)) (outcomes : List Outcome) : List (Nat × Server) :=
  (cells.zip outcomes).filterMap fun visit => visit.2.kept.map fun server => (visit.1.1, server)

/-- The number of entries that are removed. -/
def removedCount (outcomes : List Outcome) : Nat :=
  outcomes.countP fun outcome => outcome.kept.isNone

/-! ## The visits -/

variable {cfg : Config} {server : Server}

theorem pingJitter_lt (positive : 0 < cfg.heartbeatInterval) (env : Env) :
    pingJitter cfg env < cfg.heartbeatInterval :=
  UInt64.mod_lt _ positive

/-- A visit follows the rule, counts down for a removed entry and sends what the rule sends. -/
theorem runFrameVisit_rule (positive : 0 < cfg.heartbeatInterval) (env : Env) (state : FrameState)
    (server : Server) :
    ∃ outcome, FrameRule cfg env server outcome ∧
      (runFrameVisit cfg env state server).1 = outcome.kept ∧
      (runFrameVisit cfg env state server).2.sent = state.sent ++ outcome.sent ∧
      (runFrameVisit cfg env state server).2.numservers =
        if outcome.kept.isNone then dropCount state.numservers else state.numservers := by
  rcases runFrameVisit_cases cfg env state server with
    ⟨expired, dropped⟩ | ⟨due, pinged⟩ | ⟨fresh, early, same⟩
  · rw [dropped]
    exact ⟨_, .removed expired, rfl, (List.append_nil _).symm, rfl⟩
  · rw [pinged]
    exact ⟨_, .pinged due _ _ (pingJitter_lt positive _), rfl, rfl, rfl⟩
  · rw [same]
    exact ⟨_, .unchanged fresh early, rfl, (List.append_nil _).symm, rfl⟩

/-- The visits of a pass follow the rule, each for its entry. -/
theorem sweepCells_rule (positive : 0 < cfg.heartbeatInterval) (env : Env) (state : FrameState)
    {cells : List (Nat × Server)} (counted : cells.length ≤ state.numservers.toNat) :
    ∃ outcomes, List.Forall₂ (fun cell outcome => FrameRule cfg env cell.2 outcome) cells outcomes ∧
      (sweepCells (runFrameVisit cfg env) state cells).1 = keptCells cells outcomes ∧
      (sweepCells (runFrameVisit cfg env) state cells).2.sent =
        state.sent ++ outcomes.flatMap Outcome.sent ∧
      (sweepCells (runFrameVisit cfg env) state cells).2.numservers.toNat + removedCount outcomes =
        state.numservers.toNat := by
  induction cells generalizing state with
  | nil => exact ⟨[], .nil, rfl, (List.append_nil _).symm, rfl⟩
  | cons cell cells ih =>
      obtain ⟨⟨kept, sent⟩, rule, keptEq, sentEq, counts⟩ :=
        runFrameVisit_rule positive env state cell.2
      have counter : (runFrameVisit cfg env state cell.2).2.numservers.toNat +
          (if kept.isNone then 1 else 0) = state.numservers.toNat := by
        rw [counts]
        cases kept with
        | none =>
            obtain ⟨count, countEq⟩ := Nat.exists_eq_succ_of_ne_zero
              (Nat.ne_of_gt (Nat.lt_of_lt_of_le (Nat.zero_lt_succ cells.length) counted))
            exact (congrArg Nat.succ (ServerList.dropCount_toNat countEq)).trans countEq.symm
        | some server => rfl
      obtain ⟨outcomes, rules, keptRest, sentRest, countsRest⟩ :=
        ih (runFrameVisit cfg env state cell.2).2 (by
          rw [List.length_cons] at counted
          split at counter <;> omega)
      refine ⟨⟨kept, sent⟩ :: outcomes, .cons rule rules, ?_, ?_, ?_⟩
      · simp only [sweepCells, keptEq, keptRest]
        cases kept <;> rfl
      · simp only [sweepCells, sentRest, sentEq, List.flatMap_cons, List.append_assoc]
      · rw [removedCount, List.countP_cons, ← removedCount, ← counter, ← countsRest]
        simp only [sweepCells]
        omega

/-! ## The pass -/

/-- The memory holds a list of entries, in blocks that have been allocated, and their number. -/
structure Memory.WellLinked (m : Memory) (cells : List (Nat × Server)) : Prop where
  linked : Linked m.heap ((0, Server.zero) :: cells)
  allocated : ∀ cell ∈ cells, cell.1 < m.nextBlock
  counted : m.numservers.toNat = cells.length
  fresh : 0 < m.nextBlock

/-- The blocks that the walk of `RunFrame` visits, in order. -/
def Memory.runFrameVisits (cfg : Config) (env : Env) (m : Memory) : Option (List Nat) :=
  (sweepVisits (runFrameVisit cfg env) m.nextBlock m.heap ⟨m.numservers, [], 0⟩ 0).map
    fun swept => swept.2.map Prod.fst

/--
The memory after a pass: the cells that the outcomes leave, in order, what the
outcomes send, and a counter that is smaller by the entries removed.
-/
structure FramePass (cfg : Config) (env : Env) (cells : List (Nat × Server))
    (outcomes : List Outcome) (m m' : Memory) : Prop where
  rule : List.Forall₂ (fun cell outcome => FrameRule cfg env cell.2 outcome) cells outcomes
  linked : m'.WellLinked (keptCells cells outcomes)
  sent : m'.sent = m.sent ++ outcomes.flatMap Outcome.sent
  counted : m'.numservers.toNat + removedCount outcomes = m.numservers.toNat

theorem keptCells_blocks (cells : List (Nat × Server)) (outcomes : List Outcome) :
    ((keptCells cells outcomes).map Prod.fst).Sublist (cells.map Prod.fst) := by
  induction cells generalizing outcomes with
  | nil => exact List.Sublist.refl _
  | cons cell cells ih =>
      cases outcomes with
      | nil => exact List.nil_sublist _
      | cons outcome outcomes =>
          obtain ⟨kept, sent⟩ := outcome
          cases kept with
          | none => exact (ih outcomes).cons cell.1
          | some server => exact (ih outcomes).cons_cons cell.1

theorem keptCells_length {cells : List (Nat × Server)} {outcomes : List Outcome}
    (paired : cells.length = outcomes.length) :
    (keptCells cells outcomes).length + removedCount outcomes = cells.length := by
  induction cells generalizing outcomes with
  | nil =>
      rw [List.eq_nil_of_length_eq_zero paired.symm]
      rfl
  | cons cell cells ih =>
      cases outcomes with
      | nil => cases paired
      | cons outcome outcomes =>
          have rest := ih (Nat.succ.inj paired)
          obtain ⟨kept, sent⟩ := outcome
          cases kept with
          | none =>
              change (keptCells cells outcomes).length + removedCount (_ :: outcomes) = _
              rw [removedCount, List.countP_cons_of_pos rfl, List.length_cons, ← rest]
              rfl
          | some server =>
              change (keptCells cells outcomes).length + 1 + removedCount (_ :: outcomes) = _
              rw [removedCount, List.countP_cons_of_neg Bool.false_ne_true, List.length_cons, ← rest,
                removedCount]
              omega

/--
A pass visits every entry once and in list order, whichever it drops, and
leaves a well-linked list, the rule applied to each entry.
-/
theorem runFrame_refines (cfg : Config) (positive : 0 < cfg.heartbeatInterval) (env : Env)
    {m : Memory} {cells : List (Nat × Server)} (formed : m.WellLinked cells) :
    m.runFrameVisits cfg env = some (cells.map Prod.fst) ∧
      ∃ m' outcomes, m.runFrame cfg env = some m' ∧ FramePass cfg env cells outcomes m m' := by
  have blocks := formed.linked.distinct
  rw [List.map_cons, List.nodup_cons] at blocks
  have enough : cells.length < m.nextBlock := by
    refine blocks_length_lt blocks.2 (fun cell member => ⟨?_, formed.allocated cell member⟩)
      formed.fresh
    exact Nat.pos_of_ne_zero fun zero => blocks.1 (List.mem_map.mpr ⟨cell, member, zero⟩)
  obtain ⟨heap', swept, linked⟩ := Holding.sweepVisits (runFrameVisit cfg env)
    ⟨m.numservers, [], 0⟩ [] formed.linked enough
  obtain ⟨outcomes, rule, kept, sent, counts⟩ :=
    sweepCells_rule positive env ⟨m.numservers, [], 0⟩ (Nat.le_of_eq formed.counted.symm)
  refine ⟨by rw [Memory.runFrameVisits, swept]; rfl, _, outcomes,
    by rw [Memory.runFrame, ← sweepVisits_sweep, swept]; rfl, rule, ?_, ?_, counts⟩
  · rw [kept] at linked
    refine ⟨linked, fun cell member => ?_, ?_, formed.fresh⟩
    · obtain ⟨old, held, same⟩ := List.mem_map.mp
        ((keptCells_blocks cells outcomes).subset (List.mem_map_of_mem member))
      rw [← same]
      exact formed.allocated old held
    · have lengths := keptCells_length rule.length_eq
      have before := formed.counted
      change (sweepCells (runFrameVisit cfg env) ⟨m.numservers, [], 0⟩ cells).2.numservers.toNat = _
      change _ = m.numservers.toNat at counts
      omega
  · exact congrArg (m.sent ++ ·) sent

/-- Two entries that have announced their shutdown, and one that is due for a ping. -/
def threeCells : List (Nat × Server) :=
  [(1, { Server.zero with shutdownIssued := true }),
    (2, { Server.zero with shutdownIssued := true }),
    (3, { Server.zero with gamename := ascii "unreal" })]

def threeMemory : Memory where
  heap
    | 0 => some ⟨none, some 1, Server.zero⟩
    | 1 => some ⟨some 0, some 2, { Server.zero with shutdownIssued := true }⟩
    | 2 => some ⟨some 1, some 3, { Server.zero with shutdownIssued := true }⟩
    | 3 => some ⟨some 2, none, { Server.zero with gamename := ascii "unreal" }⟩
    | _ => none
  nextBlock := 4
  numservers := 3
  sent := []

theorem threeMemory_wellLinked : threeMemory.WellLinked threeCells where
  linked := ⟨⟨rfl, rfl, rfl, rfl, trivial⟩, by decide⟩
  allocated := by decide
  counted := rfl
  fresh := by decide

theorem runFrame_refines_three :
    threeMemory.runFrameVisits defaultConfig { quietEnv with time := fun _ => 1000 } =
        some [1, 2, 3] ∧
      ∃ m' outcomes,
        threeMemory.runFrame defaultConfig { quietEnv with time := fun _ => 1000 } = some m' ∧
          FramePass defaultConfig { quietEnv with time := fun _ => 1000 } threeCells outcomes
            threeMemory m' :=
  runFrame_refines defaultConfig (by decide) { quietEnv with time := fun _ => 1000 }
    threeMemory_wellLinked

end GSMaster.Registry
