import GSMaster.Lists.Agreement
import GSMaster.Registry.Chronicle

/-!
# What is listed has been earned

Whatever a run has been through, the lists it publishes are made of entries
whose journal accounts for them, but for the records of an uncompressed list
that name the client.
-/

namespace GSMaster.Lists

open GSMaster.Text GSMaster.Net GSMaster.Games GSMaster.Registry GSMaster.Library

/-- Some of the entries of the registry, in its order, each earned by the journal. -/
def EarnedServers (cfg : Config) (journal : List Notice) (reg : ServerList)
    (listed : List Server) : Prop :=
  listed.Sublist reg.servers ∧
    ∀ server ∈ listed, Earned cfg.minimumHeartbeats journal server.key

/-- What a list names is a server of the registry that has earned it. -/
def EarnedEntry (cfg : Config) (journal : List Notice) (reg : ServerList) (encType : UInt16)
    (entry : Entry) : Prop :=
  ∃ server ∈ reg.servers, entryOf encType server = entry ∧
    Earned cfg.minimumHeartbeats journal server.key

section Published

variable {cfg : Config} (slow : cfg.bValidateNewserverImmediately = false)
  {journal : List Notice} {reg : ServerList} (run : Run cfg journal reg)

include slow run

theorem earned_of_presentable {gamename : CString} {server : Server}
    (member : server ∈ reg.servers) (listed : presentable cfg gamename server = true) :
    Earned cfg.minimumHeartbeats journal server.key := by
  obtain ⟨cell, held, rfl⟩ := List.mem_map.mp member
  simp only [presentable, Bool.and_eq_true, decide_eq_true_eq, Bool.not_eq_true'] at listed
  obtain ⟨⟨⟨enough, running⟩, validated⟩, -⟩ := listed
  exact (run.accounted slow cell held).earned enough validated running

theorem earnedServers_filter (gamename : CString) {test : Server → Bool}
    (presents : ∀ server, test server = true → presentable cfg gamename server = true) :
    EarnedServers cfg journal reg (reg.servers.filter test) := by
  refine ⟨List.filter_sublist, fun server member => ?_⟩
  obtain ⟨inside, listed⟩ := List.mem_filter.mp member
  exact earned_of_presentable slow run inside (presents server listed)

theorem earnedServers_udp (gamename : CString) :
    EarnedServers cfg journal reg (reg.servers.filter (udpListed cfg gamename)) := by
  refine earnedServers_filter slow run gamename fun server listed => ?_
  simp only [udpListed, Bool.and_eq_true] at listed
  exact listed.1.1

/-- A reply over TCP names earned entries only if it does where it begins a new block. -/
theorem earned_namedEntries_iff (sender : InAddr) (gamename : CString) (encType : UInt16)
    (bCompressed : Bool) (filter : Option GamespyFilter) :
    (∀ entry ∈ namedEntries sender encType bCompressed (headerLength bCompressed)
        (listedServers cfg gamename filter reg.servers),
        EarnedEntry cfg journal reg encType entry) ↔
      ∀ server ∈ openers sender encType bCompressed (headerLength bCompressed)
        (listedServers cfg gamename filter reg.servers),
        EarnedEntry cfg journal reg encType (sender, listedPort encType server) := by
  refine forall_namedEntries_iff (fun server member => ?_) _
  rw [listedServers, ← filter_tcpListed] at member
  obtain ⟨inside, listed⟩ := List.mem_filter.mp member
  rw [tcpListed, Bool.and_eq_true] at listed
  exact ⟨server, inside, rfl, earned_of_presentable slow run inside listed.1⟩

/--
In every registry that a run reaches, every list reply over UDP and every list
file is made of earned entries only. A reply over TCP is written from the
entries that a client reads in it, and these are earned exactly if that is so
of the address of the client with the port of each server whose record begins
a new block.
-/
theorem published_earned_iff :
    (∀ gamename reply, sendUDPServerListToClient cfg gamename reg.servers = some reply →
      ∃ udpheader listed, udpHeader gamename = some udpheader ∧
        EarnedServers cfg journal reg listed ∧ reply = udpheader ++ listed.flatMap serverBytes) ∧
    (∀ bGenerateServerList path fopen,
      ∀ file ∈ generateServersList cfg bGenerateServerList path fopen reg.servers, ∃ listed,
        EarnedServers cfg journal reg listed ∧ file.2 = listed.flatMap serverLine) ∧
    ∀ sink cipher sender gamename challengeKey encType bCompressed filter, gamename ≠ [] →
      ∃ entries text,
        sendGameSpyListToClient cfg sink cipher sender gamename challengeKey encType bCompressed
          filter reg.servers = writeList sink cipher challengeKey encType bCompressed entries ∧
        (sink.Full → AnsweredWith cipher challengeKey encType text
          (sendGameSpyListToClient cfg sink cipher sender gamename challengeKey encType bCompressed
            filter reg.servers)) ∧
        readList bCompressed text = entries ∧
        ((∀ entry ∈ entries, EarnedEntry cfg journal reg encType entry) ↔
          ∀ server ∈ openers sender encType bCompressed (headerLength bCompressed)
            (listedServers cfg gamename filter reg.servers),
            EarnedEntry cfg journal reg encType (sender, listedPort encType server)) := by
  refine ⟨?_, ?_, ?_⟩
  · intro gamename reply built
    obtain ⟨udpheader, header, rfl⟩ := Option.map_eq_some_iff.mp built
    exact ⟨udpheader, _, header, earnedServers_udp slow run gamename,
      udpListLoop_eq cfg gamename udpheader reg.servers⟩
  · intro bGenerateServerList path fopen file member
    obtain ⟨entry, -, contents⟩ := mem_generateServersList member
    exact ⟨_, earnedServers_udp slow run entry.gamename, contents⟩
  · intro sink cipher sender gamename challengeKey encType bCompressed filter named
    exact ⟨_, _,
      sendGameSpyListToClient_eq cfg sink cipher sender named challengeKey encType bCompressed
        filter reg.servers,
      fun full => sendGameSpyListToClient_text full cfg cipher sender named challengeKey encType
        bCompressed filter reg.servers,
      readList_listText encType bCompressed _,
      earned_namedEntries_iff slow run sender gamename encType bCompressed filter⟩

end Published

/-- A status reply of the Quake 2 server. -/
def quake2Reply : Operation :=
  .ack quake2Server (printstring ++ ascii "\\hostname\\base1") 24

theorem published_earned_iff_quake2 :
    ∃ journal reg, Run defaultConfig journal reg ∧
      sendUDPServerListToClient defaultConfig (ascii "quake2") reg.servers =
        some (q2ReplyHdr ++ [10, 0, 0, 1, 109, 6]) ∧
      (∃ listed, EarnedServers defaultConfig journal reg listed ∧
        listed.flatMap serverBytes = [10, 0, 0, 1, 109, 6]) ∧
      ∃ text, Delivers (sendGameSpyListToClient defaultConfig openSocket
          ⟨fun _ => 0, ⟨ByteTable.ofFn id, 0, 0, 0, 0, 0⟩⟩ ⟨10, 0, 0, 5⟩ (ascii "quake2")
          (ascii "HKUGFD") 0 false none reg.servers) text ∧
        ∀ entry ∈ readList false text, EarnedEntry defaultConfig journal reg 0 entry := by
  have run : Run defaultConfig _ _ :=
    (((Run.start).step (fun _ => quietEnv) quake2Heartbeat rfl).step (fun _ => quietEnv) quake2Reply
      rfl).step (fun _ => quietEnv) quake2Reply rfl
  obtain ⟨udp, -, tcp⟩ := published_earned_iff rfl run
  refine ⟨_, _, run, rfl, ?_, ?_⟩
  · obtain ⟨udpheader, listed, header, earned, reply⟩ := udp (ascii "quake2") _ rfl
    refine ⟨listed, earned, ?_⟩
    obtain rfl := Option.some.inj header
    exact (List.append_cancel_left reply).symm
  · obtain ⟨entries, text, -, answered, read, earned⟩ := tcp openSocket
      ⟨fun _ => 0, ⟨ByteTable.ofFn id, 0, 0, 0, 0, 0⟩⟩ ⟨10, 0, 0, 5⟩ (ascii "quake2")
      (ascii "HKUGFD") 0 false none (by decide)
    refine ⟨text, answered fun _ _ => rfl, ?_⟩
    rw [read]
    refine earned.mpr fun server member => ?_
    change server ∈ ([] : List Server) at member
    cases member

/-- The settings under which one reply is enough. -/
def firstReply : Config :=
  { defaultConfig with minimumHeartbeats := 1 }

/-- The crowd is registered from a list, and every server of it answers. -/
def crowdedOperations : List Operation :=
  crowdedList :: crowd.map fun server =>
    .ack server.ip (printstring ++ ascii "\\hostname\\base1") 24

theorem run_operations {cfg : Config} {journal : List Notice} {reg reg' : ServerList}
    (run : Run cfg journal reg) (env : Nat → Env) {operations : List Operation}
    (done : operations.foldlM (fun reg op => exec cfg env op reg) reg = some reg') :
    ∃ journal', Run cfg journal' reg' := by
  induction operations generalizing journal reg with
  | nil =>
      obtain rfl := Option.some.inj done
      exact ⟨journal, run⟩
  | cons op rest ih =>
      rw [List.foldlM_cons] at done
      obtain ⟨middle, first, later⟩ := Option.bind_eq_some_iff.mp done
      exact ih (run.step env op first) later

/-- A client reads its own address in the list, which is not an entry of the registry at all. -/
theorem published_unearned :
    ¬ ∀ (cfg : Config), cfg.bValidateNewserverImmediately = false → 1 ≤ cfg.minimumHeartbeats →
      ∀ (journal : List Notice) (reg : ServerList), Run cfg journal reg →
      ∀ (cipher : CipherEnv) (sender : InAddr) (gamename challengeKey : CString)
        (bCompressed : Bool) (filter : Option GamespyFilter) (text : List UInt8),
        Delivers (sendGameSpyListToClient cfg openSocket cipher sender gamename challengeKey 0
          bCompressed filter reg.servers) text →
        ∀ entry ∈ readList bCompressed text, EarnedEntry cfg journal reg 0 entry := by
  intro always
  obtain ⟨reg, made⟩ : ∃ reg, crowdedOperations.foldlM
      (fun reg op => exec firstReply (fun _ => numericEnv) op reg) ServerList.initial = some reg :=
    Option.isSome_iff_exists.mp (by decide +kernel)
  have empty : Run firstReply [] ServerList.initial := .start
  obtain ⟨journal, run⟩ := run_operations empty _ made
  have full : openSocket.Full := fun _ _ => rfl
  have named : ascii "quake2" ≠ [] := by decide
  have text : Delivers _ _ := sendGameSpyListToClient_text full firstReply
    ⟨fun _ => 0, ⟨ByteTable.ofFn id, 0, 0, 0, 0, 0⟩⟩ ⟨10, 0, 0, 5⟩ named (ascii "HKUGFD") 0 false
    none reg.servers
  have earned := always firstReply rfl (by decide) journal reg run _ _ _ _ _ _ _ text
  rw [readList_listText, earned_namedEntries_iff rfl run] at earned
  have elsewhere : (crowdedOperations.foldlM
      (fun reg op => exec firstReply (fun _ => numericEnv) op reg) ServerList.initial).all
        (fun reg => (openers ⟨10, 0, 0, 5⟩ 0 false 1
          (listedServers firstReply (ascii "quake2") none reg.servers)).any fun _ =>
            reg.servers.all fun server => server.ip.sinAddr != ⟨10, 0, 0, 5⟩) = true := by
    decide +kernel
  rw [made] at elsewhere
  obtain ⟨server, member, apart⟩ := List.any_eq_true.mp elsewhere
  obtain ⟨other, inside, same, -⟩ := earned server member
  exact bne_iff_ne.mp (List.all_eq_true.mp apart other inside) (congrArg Prod.fst same)

end GSMaster.Lists
