import GSMaster.Loop.Simulation
import GSMaster.Session.Waiting

/-!
# How long a client can hold the program

The program serves one connection at a time. Each session is bounded, so the
time that connections cost is bounded by their number.
-/

namespace GSMaster.Loop

open GSMaster.Text GSMaster.Session

variable {setup : Setup} {met : Surroundings}

/-! ## The program -/

namespace Program

theorem accept_sessions {program after : Program} (done : program.accept setup met = some after) :
    after = { program with sessions := program.sessions ++ (met.client.map
      (gameSpyParseTCPPacket setup.tcpOptions setup.cfg)).toList } := by
  unfold accept at done
  split at done
  · rename_i none
    obtain rfl := Option.some.inj done
    rw [none, Option.map_none, Option.toList_none, List.append_nil]
  · rename_i client some
    simp only at done
    split at done
    · cases done
    · rw [← Option.some.inj done, some]
      rfl

/-- An iteration runs the session of the connection that it meets, if there is one. -/
theorem iterate_sessions {before after : Program} (done : before.iterate setup met = some after) :
    after.sessions = before.sessions ++ (met.client.map
      (gameSpyParseTCPPacket setup.tcpOptions setup.cfg)).toList := by
  obtain ⟨updated, scraped, received, accepted, registry, first, second, third, fourth, -, rfl⟩ :=
    iterate_spec done
  obtain ⟨last, written, generated⟩ := generate_spec setup met (scraped.save met)
  rw [generated, save_spec] at third
  obtain ⟨curl, rfl, -⟩ := curlHttpUpdate_spec first
  obtain ⟨-, curl', answers, -, rfl⟩ := scrape_spec second
  obtain ⟨registry', answers', rfl, -⟩ := receive_spec third
  rw [accept_sessions fourth]

end Program

/--
Whatever its clients do, the program sleeps for less than two seconds in the
session of an iteration: each session is bounded, an iteration runs one at
most, and so the sleep in the sessions of a whole run is bounded by its number
of iterations. What the loop sleeps of itself and at each ping is not counted.
-/
theorem sessions_patient {turns : List Turn} {program : Program}
    (run : ProgramRun setup turns program) :
    (∀ events ∈ program.sessions, ∃ turn ∈ turns, ∃ client ∈ turn.met.client,
        events = gameSpyParseTCPPacket setup.tcpOptions setup.cfg client ∧
        Bounded client events) ∧
      program.sessions.length ≤ turns.length ∧
      (program.sessions.map slept).sum ≤ 1900 * turns.length := by
  induction run with
  | load met stale database proper loaded =>
      obtain ⟨registry, requests, curl, calls, answers, -, -, rfl⟩ :=
        Program.load_spec loaded
      exact ⟨fun events member => (nomatch member), Nat.le_refl 0, Nat.le_refl 0⟩
  | iterate met run proper done ih =>
      rename_i turns before after
      obtain ⟨bounded, few, short⟩ := ih
      rw [Program.iterate_sessions done, List.length_append, List.length_append, List.map_append,
        List.sum_append, List.length_singleton, Nat.mul_add]
      refine ⟨?_, Nat.add_le_add few ?_, Nat.add_le_add short ?_⟩
      · intro events member
        rcases List.mem_append.mp member with old | new
        · obtain ⟨turn, inside, rest⟩ := bounded events old
          exact ⟨turn, List.mem_append_left _ inside, rest⟩
        · obtain ⟨client, arrived, rfl⟩ := Option.map_eq_some_iff.mp (Option.mem_toList.mp new)
          exact ⟨_, List.mem_append_right _ (List.mem_singleton_self _), client, arrived, rfl,
            gameSpyParseTCPPacket_bounded setup.tcpOptions setup.cfg client⟩
      · cases met.client with
        | none => exact Nat.zero_le _
        | some client => exact Nat.le_refl 1
      · cases met.client with
        | none => exact Nat.zero_le _
        | some client =>
            exact (gameSpyParseTCPPacket_bounded setup.tcpOptions setup.cfg client).slept

/-- An iteration that meets a client whose every packet is the same. -/
def visitedMet : Surroundings :=
  { quietMet 1000 with client := some (repeating (ascii "\\final\\")) }

theorem sessions_patient_visited :
    ∃ turn program events, ProgramRun quietSetup [turn] program ∧ program.sessions = [events] ∧
      slept events ≤ 1900 := by
  have loaded : Program.load quietSetup (quietMet 900) 0 none = some (Program.initial none) := rfl
  obtain ⟨after, done⟩ : ∃ after, (Program.initial none).iterate quietSetup visitedMet =
      some after := Option.isSome_iff_exists.mp (by decide +kernel)
  have quiet : (quietMet 1000).Proper Downloads.Pool.initial := quietMet_proper 1000 rfl
  have run : ProgramRun quietSetup [⟨Program.initial none, visitedMet, after⟩] after :=
    .iterate visitedMet (.load (quietMet 900) 0 none (quietMet_proper 900 rfl) loaded)
      ⟨quiet.reported, quiet.queued, quiet.listed, quiet.apart, quiet.distinct⟩ done
  have one := Program.iterate_sessions done
  have short := (sessions_patient run).2.2
  rw [one] at short
  refine ⟨_, after, _, run, one, ?_⟩
  exact (Nat.le_of_eq (Nat.add_zero _).symm).trans short

end GSMaster.Loop
