import GSMaster.Lists.Reading
import GSMaster.Loop.Patience
import GSMaster.Session.HonestClients

/-!
# What an honest client gets

In every run an honest client reads in its answer the servers that the registry
holds for it at that moment, in either style and either encoding, and its own
address in their place where a record begins a new block of a plain list.
-/

namespace GSMaster.Loop

open GSMaster.Text GSMaster.Net GSMaster.Registry GSMaster.Lists GSMaster.Library
open GSMaster.Session GSMaster.Games GSMaster.Startup

variable {setup : Setup} {met : Surroundings}

/-- An iteration as far as the connection. -/
def Program.prepare (setup : Setup) (met : Surroundings) (program : Program) : Option Program := do
  let program ← program.curlHttpUpdate setup met
  let program ← program.scrape setup met
  ((program.save met).generate setup met).receive setup met

/-- The connection finds a registry that operations have made of the one before. -/
theorem Program.iterate_prepare {before after : Program}
    (done : before.iterate setup met = some after) :
    ∃ served, before.prepare setup met = some served ∧
      Relation.ReflTransGen (ServerList.Step setup.cfg) before.registry served.registry := by
  obtain ⟨updated, scraped, received, -, -, first, second, third, -⟩ := iterate_spec done
  refine ⟨received, ?_, ?_⟩
  · rw [prepare, first, Option.bind_eq_bind, Option.bind_some, second, Option.bind_some, third]
  · obtain ⟨curl, rfl, -⟩ := curlHttpUpdate_spec first
    obtain ⟨-, curl', answers, -, rfl⟩ := scrape_spec second
    obtain ⟨last, files, generated⟩ := generate_spec setup met (Program.save met _)
    rw [generated, save_spec] at third
    obtain ⟨registry, answers', rfl, served⟩ := receive_spec third
    exact (addServers_run setup.cfg _ before.registry).trans served

/--
In every run an honest client is sent its challenge and one list. What it reads
there are the entries that are named for the servers that it asks for, as the
registry holds them when the connection is served, and these servers themselves
exactly if each one whose record begins a new block has its own address.
-/
theorem honest_client_reads {turns : List Turn} {program : Program}
    (run : ProgramRun setup turns program) {turn : Turn} (member : turn ∈ turns)
    {client : Client} (arrived : turn.met.client = some client) {query : ListQuery} {waits : Nat}
    {packet : List UInt8} {secure : CString}
    (honest : HonestClient client query waits packet secure) :
    ∃ served prelude listed, turn.before.prepare setup turn.met = some served ∧
      served.registry.Reachable setup.cfg ∧ Preludes query.wanted prelude ∧
      turn.after.sessions = turn.before.sessions ++
        [.send (challengeText secure) :: (prelude ++ [.list (query.call secure), .close])] ∧
      listed = (served.registry.servers.filter fun server =>
        Requested setup.cfg query.wanted (some query.filter) server) ∧
      ∀ (sink : Sink UInt8) (cipher : CipherEnv), sink.Full → ∃ text,
        AnsweredWith cipher secure query.encType text
          (sendGameSpyListToClient setup.cfg sink cipher client.sinAddr query.wanted secure
            query.encType query.bCompressed (some query.filter) served.registry.servers) ∧
        readList query.bCompressed text = namedEntries client.sinAddr query.encType
          query.bCompressed (headerLength query.bCompressed) listed ∧
        (readList query.bCompressed text = listed.map (entryOf query.encType) ↔
          ∀ server ∈ openers client.sinAddr query.encType query.bCompressed
            (headerLength query.bCompressed) listed, server.ip.sinAddr = client.sinAddr) := by
  obtain ⟨early, late, split⟩ := List.append_of_mem member
  obtain ⟨before, done, -⟩ := run.between split
  obtain ⟨served, prepared, reached⟩ := Program.iterate_prepare done
  obtain ⟨prelude, quiet, session⟩ := gameSpyParseTCPPacket_list honest setup.tcpOptions setup.cfg
  have key : gameSpyCreateChallengeKey client.rand 6 = secure := by
    have sent := honest.challenged
    rw [challengeText_secure] at sent
    exact Option.some.inj sent
  rw [key] at session
  refine ⟨served, prelude, _, prepared, before.reachable.1.trans reached, quiet, ?_, rfl, ?_⟩
  · have sessions := Program.iterate_sessions done
    rw [arrived] at sessions
    rw [sessions, ← session]
    rfl
  · intro sink cipher full
    have read := readList_listText query.encType query.bCompressed
      (namedEntries client.sinAddr query.encType query.bCompressed
        (headerLength query.bCompressed)
        (listedServers setup.cfg query.wanted (some query.filter) served.registry.servers))
    refine ⟨_, sendGameSpyListToClient_text full setup.cfg cipher client.sinAddr
      honest.proper.named secure query.encType query.bCompressed (some query.filter)
      served.registry.servers, read, ?_⟩
    rw [read]
    exact namedEntries_eq_iff _ _

/-- New servers are listed at once. -/
def servingSetup : Setup :=
  ⟨{ Settings.initial with bValidateNewserverImmediately := true }, fun _ => 0⟩

/-- The answer of a client of quake2 to its challenge, with a request in the same packet. -/
def answeringPacket : CString :=
  ascii "\\gamename\\quake2\\validate\\PUOrGqDP\\final\\\\list\\gamename\\quake2\\final\\"

/-- An iteration that meets a heartbeat of a server and a client that asks for it. -/
def servingMet : Surroundings :=
  { quietMet 1000 with
    datagram := some (⟨⟨10, 0, 0, 1⟩, htons 27910⟩,
      ascii "\\heartbeat\\27910\\gamename\\quake2")
    client := some (repeating answeringPacket) }

theorem answering_honest : HonestClient (repeating answeringPacket)
    ⟨ascii "quake2", false, ascii "final\\", 0⟩ 0 answeringPacket
    (gameSpyCreateChallengeKey (fun _ => 0) 6) where
  connected := ⟨rfl, rfl, rfl, rfl⟩
  challenged := challengeText_secure fun _ => 0
  first := firstPacket_repeating answeringPacket
  answers := by
    have answer : gsseckey (gameSpyCreateChallengeKey (fun _ => 0) 6) (ascii "rtW0xg") 0 =
        ascii "PUOrGqDP" := by
      decide +kernel
    refine ⟨ascii "quake2", ascii "rtW0xg", by decide +kernel, by decide +kernel, ?_⟩
    rw [answer]
    decide +kernel
  encoding := by
    have none : infoValueForKey (cstr answeringPacket) (ascii "enctype") = Option.none := by
      decide +kernel
    rw [AsksEncoding, none]
    exact ⟨by decide, rfl⟩
  proper := ⟨by decide, by decide +kernel, fun _ => by decide +kernel⟩
  asks := Or.inl ⟨ascii "\\gamename\\quake2\\validate\\PUOrGqDP\\final\\", by decide +kernel,
    by decide +kernel⟩

theorem honest_client_reads_quake2 :
    ∃ turn program, ProgramRun servingSetup [turn] program ∧ ∃ served,
      turn.before.prepare servingSetup turn.met = some served ∧ ∃ text,
        readList false text = [(⟨10, 0, 0, 1⟩, htons 27910)] ∧
        Delivers (sendGameSpyListToClient servingSetup.cfg openSocket
          ⟨fun _ => 0, ⟨ByteTable.ofFn id, 0, 0, 0, 0, 0⟩⟩ ⟨10, 0, 0, 2⟩ (ascii "quake2")
          (gameSpyCreateChallengeKey (fun _ => 0) 6) 0 false
          (some (requestFilter (ascii "final\\"))) served.registry.servers) text := by
  have loaded : Program.load servingSetup (quietMet 900) 0 none = some (Program.initial none) := rfl
  obtain ⟨after, done⟩ : ∃ after, (Program.initial none).iterate servingSetup servingMet =
      some after := Option.isSome_iff_exists.mp (by decide +kernel)
  have quiet : (quietMet 1000).Proper Downloads.Pool.initial := quietMet_proper 1000 rfl
  have run : ProgramRun servingSetup [⟨Program.initial none, servingMet, after⟩] after :=
    .iterate servingMet (.load (quietMet 900) 0 none (quietMet_proper 900 rfl) loaded)
      ⟨quiet.reported, quiet.queued, quiet.listed, quiet.apart, quiet.distinct⟩ done
  obtain ⟨served, -, listed, prepared, -, -, -, asked, reads⟩ :=
    honest_client_reads run (List.mem_singleton_self _) rfl answering_honest
  obtain ⟨text, answered, read, -⟩ := reads openSocket
    ⟨fun _ => 0, ⟨ByteTable.ofFn id, 0, 0, 0, 0, 0⟩⟩ fun _ _ => rfl
  have entries : ((Program.initial none).prepare servingSetup servingMet).map (fun served =>
      namedEntries ⟨10, 0, 0, 2⟩ 0 false 1 (listedServers servingSetup.cfg (ascii "quake2")
        (some (requestFilter (ascii "final\\"))) served.registry.servers)) =
      some [(⟨10, 0, 0, 1⟩, htons 27910)] := by
    decide +kernel
  have found : (Program.initial none).prepare servingSetup servingMet = some served := prepared
  rw [found] at entries
  rw [asked] at read
  exact ⟨_, after, run, served, prepared, text, read.trans (Option.some.inj entries), answered⟩

end GSMaster.Loop
