import GSMaster.Library.HeapBlocks
import GSMaster.Loop.Termination

/-!
# The blocks of the registry

`AddServer` allocates a block for each entry and `DropServer` frees one. At
every moment the blocks that are allocated are those of the servers that are
listed, and after `ExitNicely` there is none but the sentinel.
-/

namespace GSMaster.Loop

open GSMaster.Text GSMaster.Net GSMaster.Games GSMaster.Registry GSMaster.Library ServerList

/-- The memory holds the abstract registry, and nothing besides. -/
structure Accounted (m : Memory) (reg : ServerList) : Prop where
  formed : reg.WellFormed
  layout : LayoutIn Exact m reg

namespace Accounted

variable {m : Memory} {reg : ServerList}

theorem initial : Accounted Memory.initial ServerList.initial where
  formed := initial_wellFormed
  layout :=
    { Layout.initial with
      linked := by
        refine ⟨Layout.initial.linked, fun p held => ?_⟩
        rcases allocated_update _ |>.mp held with rfl | none
        · exact List.mem_singleton_self _
        · exact absurd rfl none }

/-- No operation leaves a block behind, or frees one that is listed. -/
theorem exec {cfg : Config} {env : Nat → Env} {op : Operation} {reg' : ServerList}
    (held : Accounted m reg) (done : exec cfg env op reg = some reg') :
    ∃ m', m.exec cfg env op = some m' ∧ Accounted m' reg' := by
  obtain ⟨m', ran, layout⟩ := held.layout.exec held.formed done
  exact ⟨m', ran, (exec_sound held.formed done).1, layout⟩

theorem run {cfg : Config}
    (run : Relation.ReflTransGen (Memory.StepWithin cfg) Memory.initial m) :
    ∃ reg, Accounted m reg := by
  induction run with
  | refl => exact ⟨_, initial⟩
  | tail _ step ih =>
      obtain ⟨reg, held⟩ := ih
      obtain ⟨env, op, inRange, fits, leads⟩ := step
      obtain ⟨reg', done⟩ := exec_isSome cfg env inRange reg
      obtain ⟨after, ran, held'⟩ := held.exec done
      obtain rfl := leads fits after ran
      exact ⟨reg', held'⟩

end Accounted

/-! ## The whole program -/

/-- After `ExitNicely` the sentinel is the only block. -/
theorem exitNicely_frees {m : Memory} {reg : ServerList} (held : Accounted m reg) :
    ∃ cleared, exitNicely m = some cleared ∧ ∀ p, Allocated cleared.heap p ↔ p = 0 := by
  obtain ⟨heap, freed, gone, exits⟩ :=
    exitNicely_eq held.formed { held.layout with linked := held.layout.linked.linked }
  refine ⟨_, exits, fun p => ?_⟩
  rw [allocated_update]
  refine or_iff_left_of_imp fun still => ?_
  have before := held.layout.linked.only p (freeNodes_allocated freed still)
  rcases List.mem_cons.mp before with sentinel | listed
  · exact sentinel
  · exact absurd (gone p listed) still

/--
In every run whose operations fit their buffers the blocks that are allocated
are the sentinel and those of the servers that a walk finds, as many as the
counter says and one more; and `ExitNicely` frees all of them but the sentinel.
-/
theorem memory_leaks_nothing (cfg : Config) (m : Memory)
    (run : Relation.ReflTransGen (Memory.StepWithin cfg) Memory.initial m) :
    (∃ cells, m.entries = some cells ∧ m.numservers.toNat = cells.length ∧
      (cells.map Prod.fst).Nodup ∧
      ∀ p, Allocated m.heap p ↔ p = 0 ∨ p ∈ cells.map Prod.fst) ∧
    ∃ cleared, exitNicely m = some cleared ∧ ∀ p, Allocated cleared.heap p ↔ p = 0 := by
  obtain ⟨reg, held⟩ := Accounted.run run
  refine ⟨⟨reg.cells, held.layout.entries held.formed, ?_, held.formed.cell_blocks, fun p => ?_⟩,
    exitNicely_frees held⟩
  · rw [held.layout.numservers, held.formed.counted, identities_length]
  · rw [← List.mem_cons]
    exact held.layout.linked.allocated_iff

/-- The first heartbeat of a Quake 2 server allocates block 1, which `ExitNicely` frees. -/
theorem memory_leaks_nothing_heartbeat :
    ∃ m : Memory, m.numservers = 1 ∧ Allocated m.heap 1 ∧
      ∃ cleared, exitNicely m = some cleared ∧ ¬ Allocated cleared.heap 1 := by
  obtain ⟨reg, registered, server, found, -⟩ := quake2Heartbeat_registers
  obtain ⟨m, ran, held⟩ := Accounted.initial.exec registered
  have step : Memory.initial.StepWithin defaultConfig m :=
    ⟨fun _ => quietEnv, quake2Heartbeat, trivial, trivial, fun _ after done =>
      Option.some.inj (ran.symm.trans done)⟩
  have counted : m.numservers = 1 := held.layout.numservers.trans (by cases registered; rfl)
  obtain ⟨⟨cells, walked, -, -, blocks⟩, cleared, exits, none⟩ :=
    memory_leaks_nothing defaultConfig m (.single step)
  obtain rfl := Option.some.inj ((held.layout.entries held.formed).symm.trans walked)
  refine ⟨m, counted, (blocks 1).mpr (Or.inr ?_), cleared, exits, fun still => ?_⟩
  · exact List.mem_map_of_mem (find_some found).1
  · exact absurd ((none 1).mp still) (by decide)

end GSMaster.Loop
