import GSMaster.Loop.MainLoop

/-!
# How far the main loop counts

Nothing counts `newConnection` down again, so the indices of a run reach as far
as the number of datagrams and connections in it.
-/

namespace GSMaster.Loop

def arrivals (events : List Event) : Nat :=
  events.countP Event.isArrival

/-- How a step changes the counters, and the indices it uses. -/
structure Counts (sockets : Listeners) (event : Event) (state state' : LoopState)
    (indices : List Nat) : Prop where
  newConnection : state'.newConnection = state.newConnection + arrivals [event]
  maxConnections : state'.maxConnections = max state.maxConnections state'.newConnection
  bounded : ∀ index ∈ indices, index ≤ max (sockets.listener + sockets.listenerTCP)
    state'.maxConnections
  reached : event.isArrival = true → state'.newConnection ∈ indices

/-- A step that takes nothing keeps the counters. -/
theorem Counts.of_same {sockets : Listeners} {event : Event} {state state' : LoopState}
    {indices : List Nat} (ordered : state.newConnection ≤ state.maxConnections)
    (none : event.isArrival = false) (newConnection : state'.newConnection = state.newConnection)
    (maxConnections : state'.maxConnections = state.maxConnections)
    (bounded : ∀ index ∈ indices, index ≤ max (sockets.listener + sockets.listenerTCP)
      state.maxConnections) : Counts sockets event state state' indices where
  newConnection := by
    rw [newConnection, arrivals, List.countP_singleton, none]
    rfl
  maxConnections := by rw [maxConnections, newConnection, Nat.max_eq_left ordered]
  bounded := maxConnections ▸ bounded
  reached arrival := absurd arrival (none ▸ Bool.false_ne_true)

theorem connect_maxConnections (state : LoopState) :
    state.connect.maxConnections = max state.maxConnections (state.newConnection + 1) := by
  unfold LoopState.connect
  simp only
  split <;> omega

/-- One more index that is in reach changes nothing. -/
theorem Counts.cons {sockets : Listeners} {event : Event} {state state' : LoopState}
    {indices : List Nat} (counts : Counts sockets event state state' indices) {index : Nat}
    (reach : index ≤ max (sockets.listener + sockets.listenerTCP) state.maxConnections) :
    Counts sockets event state state' (index :: indices) where
  newConnection := counts.newConnection
  maxConnections := counts.maxConnections
  bounded other member := by
    rcases List.mem_cons.mp member with rfl | inside
    · have grows := counts.maxConnections
      omega
    · exact counts.bounded other inside
  reached arrival := List.mem_cons_of_mem _ (counts.reached arrival)

theorem take_counts (sockets : Listeners) {event : Event} {state state' : LoopState}
    {indices : List Nat} (ordered : state.newConnection ≤ state.maxConnections)
    (taken : state.take event = some (state', indices)) :
    Counts sockets event state state' indices := by
  cases event with
  | quiet => cases taken
  | silent ready left => cases taken
  | failed left =>
      cases taken
      refine Counts.of_same ordered rfl rfl rfl ?_
      exact List.forall_mem_singleton.mpr (le_max_of_le_right ordered)
  | arrived left =>
      cases taken
      have maximum := connect_maxConnections state
      refine ⟨rfl, maximum, fun index member => ?_, fun _ => List.mem_cons_self ..⟩
      have index_eq : index = state.newConnection + 1 := by simpa using member
      rw [index_eq, maximum]
      exact le_max_of_le_right (Nat.le_max_right ..)

theorem poll_counts {sockets : Listeners} {event : Event} {state state' : LoopState}
    {protocol : Protocol} {indices : List Nat}
    (ordered : state.newConnection ≤ state.maxConnections)
    (polled : poll sockets event state protocol = some (state', indices)) :
    Counts sockets event state state' indices := by
  have reach : sockets.listenerTCP ≤
      max (sockets.listener + sockets.listenerTCP) state.maxConnections :=
    le_max_of_le_left (Nat.le_add_left ..)
  have silent : ∀ ready left, Counts sockets (.silent ready left) state state [] := fun _ _ =>
    Counts.of_same ordered rfl rfl rfl fun _ member => nomatch member
  unfold poll at polled
  cases protocol with
  | udp =>
      simp only at polled
      split at polled
      · split at polled
        · cases polled
        · cases polled
          exact silent _ _
      · exact take_counts sockets ordered polled
  | tcp =>
      simp only at polled
      split at polled
      · split at polled
        · cases polled
          exact silent _ _
        · split at polled
          · cases polled
          · cases polled
            exact (silent _ _).cons reach
      · split at polled
        · obtain ⟨⟨taken, used⟩, takes, same⟩ := Option.map_eq_some_iff.mp polled
          cases same
          exact (take_counts sockets ordered takes).cons reach
        · cases polled

/-- Every step counts what arrives, and uses no index beyond the maximum. -/
theorem step_counts {sockets : Listeners} {event : Event} {state state' : LoopState}
    {indices : List Nat} (ordered : state.newConnection ≤ state.maxConnections)
    (stepped : step sockets event state = some (state', indices)) :
    Counts sockets event state state' indices := by
  have quiet : ∀ {next : LoopState} {used : List Nat}, next.newConnection = state.newConnection →
      next.maxConnections = state.maxConnections →
      (∀ index ∈ used, index ≤ max (sockets.listener + sockets.listenerTCP) state.maxConnections) →
      Counts sockets .quiet state next used := Counts.of_same ordered rfl
  unfold step at stepped
  cases phase : state.phase with
  | top =>
      rw [phase] at stepped
      cases event with
      | quiet =>
          cases stepped
          refine quiet rfl rfl ?_
          exact List.forall_mem_singleton.mpr (le_max_of_le_left (Nat.le_add_right ..))
      | _ => cases stepped
  | scan protocol i =>
      rw [phase] at stepped
      simp only at stepped
      split at stepped
      · rename_i here
        have reach : i ≤ max (sockets.listener + sockets.listenerTCP) state.maxConnections :=
          le_max_of_le_right here
        split at stepped
        · obtain ⟨⟨done, used⟩, polled, same⟩ := Option.map_eq_some_iff.mp stepped
          cases same
          have counts := (poll_counts (by exact ordered) polled).cons (by exact reach)
          exact ⟨counts.newConnection, counts.maxConnections, counts.bounded, counts.reached⟩
        · cases event with
          | quiet =>
              cases stepped
              exact quiet rfl rfl (List.forall_mem_singleton.mpr reach)
          | _ => cases stepped
      · cases protocol with
        | udp =>
            cases event with
            | quiet =>
                cases stepped
                refine quiet rfl rfl ?_
                exact List.forall_mem_singleton.mpr (le_max_of_le_left (Nat.le_add_left ..))
            | _ => cases stepped
        | tcp =>
            cases event with
            | quiet =>
                cases stepped
                exact quiet rfl rfl (List.forall_mem_nil _)
            | _ => cases stepped

/-! ## Whole runs -/

/-- After a run the counters and the indices are those of the arrivals in it. -/
structure Reaches (sockets : Listeners) (events : List Event) (indices : List Nat)
    (state : LoopState) : Prop where
  newConnection : state.newConnection = arrivals events
  maxConnections : state.maxConnections =
    max (sockets.listener + sockets.listenerTCP) (arrivals events)
  bounded : ∀ index ∈ indices, index ≤ state.maxConnections
  reached : ∀ count, 0 < count → count ≤ arrivals events → count ∈ indices

theorem Run.reaches {sockets : Listeners} {events : List Event} {indices : List Nat}
    {state : LoopState} (run : Run sockets events indices state) :
    Reaches sockets events indices state := by
  induction run with
  | start =>
      refine ⟨rfl, (Nat.max_eq_left (Nat.zero_le _)).symm, fun index member => ?_,
        fun count positive none => ?_⟩
      · rw [List.mem_singleton.mp member]
        exact Nat.le_add_right ..
      · exact absurd none (Nat.not_le.mpr positive)
  | @step events indices indices' state state' event run stepped ih =>
      have ordered : state.newConnection ≤ state.maxConnections := by
        rw [ih.newConnection, ih.maxConnections]
        exact Nat.le_max_right ..
      have counts := step_counts ordered stepped
      have total : arrivals (events ++ [event]) = arrivals events + arrivals [event] :=
        List.countP_append
      have next : state'.newConnection = arrivals (events ++ [event]) := by
        rw [counts.newConnection, ih.newConnection, total]
      have maximum : state'.maxConnections =
          max (sockets.listener + sockets.listenerTCP) (arrivals (events ++ [event])) := by
        rw [counts.maxConnections, ih.maxConnections, next, total]
        omega
      refine ⟨next, maximum, fun index member => ?_, fun count positive within => ?_⟩
      · rcases List.mem_append.mp member with old | new
        · have bound := ih.bounded index old
          rw [ih.maxConnections] at bound
          omega
        · have bound := counts.bounded index new
          omega
      · by_cases old : count ≤ arrivals events
        · exact List.mem_append_left _ (ih.reached count positive old)
        · have arrival : event.isArrival = true := by
            by_contra none
            have zero : arrivals [event] = 0 := by
              rw [arrivals, List.countP_singleton, if_neg none]
            omega
          have one : arrivals [event] = 1 := by
            rw [arrivals, List.countP_singleton, if_pos arrival]
          have last : count = state'.newConnection := by omega
          rw [last]
          exact List.mem_append_right _ (counts.reached arrival)

/--
The indices of a run are below `FD_SETSIZE` exactly as long as fewer datagrams
and connections than that have been taken.
-/
theorem indices_within_iff {sockets : Listeners} {events : List Event} {indices : List Nat}
    {state : LoopState} (run : Run sockets events indices state) :
    (∀ index ∈ indices, index < fdSetsize) ↔ arrivals events < fdSetsize := by
  have reaches := run.reaches
  constructor
  · intro within
    by_contra many
    exact absurd (within fdSetsize (reaches.reached fdSetsize (by decide) (Nat.not_lt.mp many)))
      (Nat.lt_irrefl _)
  · intro few index member
    have bound := reaches.bounded index member
    have small := sockets.small
    rw [reaches.maxConnections] at bound
    omega

/-! ## A run with any number of datagrams -/

/-- A scan goes on without a poll past indices that are not the socket's. -/
theorem scan_quiet {sockets : Listeners} {events : List Event} {indices : List Nat}
    {state : LoopState} (run : Run sockets events indices state) {protocol : Protocol} {i : Nat}
    (phase : state.phase = .scan protocol i) (rounds : Nat)
    (inside : i + rounds ≤ state.maxConnections + 1)
    (apart : ∀ k, i ≤ k → k < i + rounds → k ≠ sockets.fd protocol) :
    ∃ events' indices', arrivals events' = arrivals events ∧
      Run sockets events' indices' { state with phase := .scan protocol (i + rounds) } := by
  induction rounds with
  | zero =>
      refine ⟨events, indices, rfl, ?_⟩
      rw [Nat.add_zero, ← phase]
      exact run
  | succ rounds ih =>
      obtain ⟨events', indices', same, before⟩ := ih (by omega) fun k low high =>
        apart k low (by omega)
      have other : (i + rounds == sockets.fd protocol) = false :=
        beq_eq_false_iff_ne.mpr (apart (i + rounds) (by omega) (by omega))
      have stepped : step sockets .quiet { state with phase := .scan protocol (i + rounds) } =
          some ({ state with phase := .scan protocol (i + rounds + 1) }, [i + rounds]) := by
        unfold step
        simp only
        rw [if_pos (by omega), other, Bool.and_false, if_neg Bool.false_ne_true]
      refine ⟨_, _, ?_, before.step .quiet stepped⟩
      rw [arrivals, List.countP_append]
      exact same

/-- A scan polls its socket once and goes on to the maximum that the poll leaves. -/
theorem scan_whole {sockets : Listeners} {events : List Event} {indices used : List Nat}
    {state polled : LoopState} (run : Run sockets events indices state) {protocol : Protocol}
    (phase : state.phase = .scan protocol 0) (inside : sockets.fd protocol ≤ state.maxConnections)
    (member : state.set (sockets.fd protocol) = true) (event : Event)
    (polls : poll sockets event
      { state with
        phase := .scan protocol (sockets.fd protocol + 1)
        set := fun k => state.set k && event.left k } protocol = some (polled, used))
    (next : polled.phase = .scan protocol (sockets.fd protocol + 1))
    (grows : state.maxConnections ≤ polled.maxConnections) :
    ∃ events' indices', arrivals events' = arrivals events + arrivals [event] ∧
      Run sockets events' indices'
        { polled with phase := .scan protocol (polled.maxConnections + 1) } := by
  obtain ⟨events₁, indices₁, count₁, run₁⟩ := scan_quiet run phase (sockets.fd protocol) (by omega)
    fun k _ below => by omega
  rw [Nat.zero_add] at run₁
  have stepped : step sockets event { state with phase := .scan protocol (sockets.fd protocol) } =
      some (polled, sockets.fd protocol :: used) := by
    unfold step
    simp only
    rw [if_pos inside, member, beq_self_eq_true, Bool.true_and, if_pos rfl, polls]
    rfl
  obtain ⟨events₂, indices₂, count₂, run₂⟩ := scan_quiet (run₁.step event stepped) next
    (polled.maxConnections - sockets.fd protocol) (by omega) fun k above _ => by omega
  refine ⟨events₂, indices₂, ?_, ?_⟩
  · rw [count₂, arrivals, List.countP_append]
    exact congrArg (· + _) count₁
  · have last : sockets.fd protocol + 1 + (polled.maxConnections - sockets.fd protocol) =
        polled.maxConnections + 1 := by omega
    rwa [last] at run₂

/-- Behind the maximum the UDP scan gives way to the TCP scan, and that one to the head. -/
theorem step_turns {sockets : Listeners} {state : LoopState} {i : Nat}
    (past : state.maxConnections < i) :
    (state.phase = .scan .udp i → step sockets .quiet state = some ({ state with
      phase := .scan .tcp 0
      master := fdSet sockets.listenerTCP state.master
      set := fdSet sockets.listenerTCP state.master }, [sockets.listenerTCP])) ∧
    (state.phase = .scan .tcp i → step sockets .quiet state =
      some ({ state with phase := .top }, [])) := by
  constructor
  · intro phase
    unfold step
    rw [phase]
    exact if_neg (Nat.not_le.mpr past)
  · intro phase
    unfold step
    rw [phase]
    exact if_neg (Nat.not_le.mpr past)

/-- From the head of the loop a datagram can be received on the way to the head. -/
theorem datagram_round {sockets : Listeners} {events : List Event} {indices : List Nat}
    {state : LoopState} (run : Run sockets events indices state) (phase : state.phase = .top) :
    ∃ events' indices' state', arrivals events' = arrivals events + 1 ∧
      Run sockets events' indices' state' ∧ state'.phase = .top := by
  have maximum := run.reaches.maxConnections
  have began : step sockets .quiet state = some ({ state with
      phase := .scan .udp 0
      master := fdSet sockets.listener fdZero
      set := fdSet sockets.listener fdZero }, [sockets.listener]) := by
    unfold step
    rw [phase]
  have listening (fd : Nat) (set : FdSet) : fdSet fd set fd = true := by
    rw [fdSet, beq_self_eq_true, Bool.true_or]
  have grows := Nat.le_trans (Nat.le_max_left ..) (Nat.le_of_eq (connect_maxConnections state).symm)
  obtain ⟨events₁, indices₁, count₁, run₁⟩ := scan_whole (run.step .quiet began) rfl
    (show sockets.listener ≤ state.maxConnections by omega) (listening ..)
    (.arrived fun _ => true) rfl rfl grows
  have turned := run₁.step .quiet ((step_turns (Nat.lt_succ_self _)).1 rfl)
  obtain ⟨events₂, indices₂, count₂, run₂⟩ := scan_whole turned rfl
    (show sockets.listenerTCP ≤ state.connect.maxConnections by omega) (listening ..)
    (.silent 0 fun _ => true) rfl rfl (Nat.le_refl _)
  have returned := run₂.step .quiet ((step_turns (Nat.lt_succ_self _)).2 rfl)
  refine ⟨_, _, _, ?_, returned, rfl⟩
  simp only [arrivals, List.countP_append] at count₁ count₂ ⊢
  rw [count₂, count₁]
  rfl

/-- There are runs with any number of datagrams. -/
theorem datagram_run (sockets : Listeners) (count : Nat) :
    ∃ events indices state, arrivals events = count ∧ Run sockets events indices state ∧
      state.phase = .top := by
  induction count with
  | zero => exact ⟨[], _, _, rfl, Run.start, rfl⟩
  | succ count ih =>
      obtain ⟨events, indices, state, rfl, run, phase⟩ := ih
      exact datagram_round run phase

/-- The descriptors that the sockets have when three files are open. -/
def usualListeners : Listeners :=
  ⟨3, 4, by decide⟩

theorem indices_within_iff_sixty :
    ∃ events indices state, arrivals events = 60 ∧ Run usualListeners events indices state ∧
      ∀ index ∈ indices, index < fdSetsize := by
  obtain ⟨events, indices, state, sixty, run, -⟩ := datagram_run usualListeners 60
  exact ⟨events, indices, state, sixty, run, (indices_within_iff run).mpr (by rw [sixty]; decide)⟩

/-- The datagram with number `FD_SETSIZE` is out of range. -/
theorem indices_exceed :
    ¬ ∀ sockets events indices state, Run sockets events indices state →
      ∀ index ∈ indices, index < fdSetsize := by
  intro always
  obtain ⟨events, indices, state, many, run, -⟩ := datagram_run usualListeners fdSetsize
  have reached := run.reaches.reached fdSetsize (by decide) (Nat.le_of_eq many.symm)
  exact absurd (always usualListeners events indices state run fdSetsize reached) (Nat.lt_irrefl _)

end GSMaster.Loop
