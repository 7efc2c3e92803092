import GSMaster.Registry.Entries
import GSMaster.Registry.Validation

/-!
# Challenges and honest replies

The master stores one challenge key for an entry and replaces it whenever it
sends a query. A server that answers every query correctly may still answer
one whose key has been replaced by the time its reply arrives.
-/

namespace GSMaster.Registry

open GSMaster.Text GSMaster.Net GSMaster.Games ServerList

/-! ## The keys of the entries -/

theorem exec_challengeKey {cfg : Config} {env : Nat → Env} {op : Operation} {reg reg' : ServerList}
    (sound : reg.WellFormed) (done : exec cfg env op reg = some reg')
    (before : ∀ cell ∈ reg.cells, cell.2.challengeKey.length = 6) :
    ∀ cell ∈ reg'.cells, cell.2.challengeKey.length = 6 := by
  refine exec_forall (fun server => server.challengeKey.length = 6) sound done ?_ ?_ before
  · rintro server ⟨call, -, gamename, -, rfl⟩
    exact gameSpyCreateChallengeKey_length _ 6
  · intro server server' writes long
    refine Operation.Writes.keeps (fun server => server.challengeKey.length = 6) writes
      ?_ ?_ ?_ ?_ long
    · exact fun env other _ => gameSpyCreateChallengeKey_length env.rand 6
    · intro env dataPacket dglen kept
      obtain ⟨serverInfo, nqData, stored⟩ := ackServer_stores cfg env dataPacket dglen server
      rw [stored]
      exact kept
    · exact fun env request sender _ _ => gameSpyCreateChallengeKey_length env.rand 6
    · intro env state visited kept
      rcases runFrameVisit_kept visited with rfl | ⟨lastPing, rand, rfl⟩
      · exact kept
      · exact gameSpyCreateChallengeKey_length rand 6

/-- Every entry has a key that can be answered. -/
theorem ServerList.Reachable.challengeKey {cfg : Config} {reg : ServerList}
    (reached : reg.Reachable cfg) : ∀ cell ∈ reg.cells, cell.2.challengeKey.length = 6 := by
  induction reached with
  | refl => exact fun cell member => nomatch member
  | tail before step ih =>
      obtain ⟨env, op, done⟩ := step
      exact exec_challengeKey (Reachable.wellFormed before) done ih

/-! ## The exchange with one server -/

/-- A server of a game whose replies are checked. -/
structure HonestServer where
  address : SockaddrIn
  gamename : CString
  supported : Supported gamename
  modern : isLegacy gamename = false
  checked : ¬ ExemptServer gamename

/-- A reply on its way, as `Ack` sees it, and the challenge that it answers. -/
structure Reply where
  packet : List UInt8
  challenge : CString
  deriving DecidableEq, Repr

/-- The server's reply to a query: its game and the answer to the challenge of the query. -/
structure HonestServer.Answers (server : HonestServer) (query : List UInt8) (reply : Reply) :
    Prop where
  challenge : query = statusstring ++ reply.challenge
  game : ∃ named, packetValue (cstr reply.packet) "gamename" = some named ∧
    stricmpEq named server.gamename = true
  answer : CarriesAnswer reply.challenge (cstr reply.packet) server.gamename

/-- The master, the queries on their way to the server and the replies on their way back. -/
structure Wire where
  reg : ServerList
  queries : List Datagram
  replies : List Reply

/-- A reply that `Ack` processes, with the entry it finds and what it makes of it. -/
structure Delivery where
  reply : Reply
  before : Server
  after : Server

/-- The delivery of a reply to the entry of its sender, if there is one. -/
def deliver (cfg : Config) (env : Env) (address : SockaddrIn) (reply : Reply)
    (reg : ServerList) : List Delivery :=
  match reg.find (sentBy address) with
  | none => []
  | some (_, before) =>
      [⟨reply, before, ackServer cfg env reply.packet reply.packet.length.toUInt64 before⟩]

/-- What the master sends to an address between two registries of a run. -/
def sentTo (address : SockaddrIn) (reg reg' : ServerList) : List Datagram :=
  (reg'.sent.drop reg.sent.length).filter fun datagram => datagram.dest = address

/--
The runs of the master and one honest server, with the replies that have been
delivered. Queries and replies may be delayed, overtaken and lost; no one else
sends replies in the server's name.
-/
inductive Exchange (cfg : Config) (server : HonestServer) : List Delivery → Wire → Prop where
  | start : Exchange cfg server [] ⟨ServerList.initial, [], []⟩
  | operate {deliveries : List Delivery} {wire : Wire} {reg' : ServerList} (env : Nat → Env)
      (op : Operation) (run : Exchange cfg server deliveries wire)
      (silent : ∀ dataPacket dglen, op ≠ .ack server.address dataPacket dglen)
      (done : exec cfg env op wire.reg = some reg') :
      Exchange cfg server deliveries
        { wire with
          reg := reg'
          queries := wire.queries ++ sentTo server.address wire.reg reg' }
  | answer {deliveries : List Delivery} {wire : Wire} (query : Datagram) (reply : Reply)
      (run : Exchange cfg server deliveries wire) (member : query ∈ wire.queries)
      (answers : server.Answers query.bytes reply) :
      Exchange cfg server deliveries
        { wire with
          queries := wire.queries.erase query
          replies := wire.replies ++ [reply] }
  | deliver {deliveries : List Delivery} {wire : Wire} (env : Env) (reply : Reply)
      (run : Exchange cfg server deliveries wire) (member : reply ∈ wire.replies) :
      Exchange cfg server (deliveries ++ deliver cfg env server.address reply wire.reg)
        { wire with
          reg := ack cfg env server.address reply.packet reply.packet.length.toUInt64 wire.reg
          replies := wire.replies.erase reply }
  | lose {deliveries : List Delivery} {wire : Wire} (query : Datagram) (reply : Reply)
      (run : Exchange cfg server deliveries wire) :
      Exchange cfg server deliveries
        { wire with
          queries := wire.queries.erase query
          replies := wire.replies.erase reply }

/-- A reply takes the validation of its entry away. -/
def Delivery.Unvalidates (delivery : Delivery) : Prop :=
  delivery.before.validated = true ∧ delivery.after.validated = false

/--
The challenge that is stored in the entry has the answer that the reply gives
to its own challenge. So it is as long as no other has been issued since.
-/
def Delivery.Timely (server : HonestServer) (delivery : Delivery) : Prop :=
  ∀ gameSecKey, gameSpyGetGameSecKey server.gamename = some gameSecKey →
    gsseckey delivery.reply.challenge gameSecKey 0 =
      gsseckey delivery.before.challengeKey gameSecKey 0

/-- An honest reply is accepted exactly when the stored challenge has the same answer. -/
theorem ackVerdict_honest {cfg : Config}
    (required : cfg.validationRequired = 2 ∨ cfg.validationRequired = 3) {server : HonestServer}
    {query : List UInt8} {reply : Reply} (answers : server.Answers query reply) {before : Server}
    (modern : isLegacy before.gamename = false) (keyed : before.challengeKey.length = 6)
    (after : Server) :
    ackVerdict cfg before reply.packet = true ↔ Delivery.Timely server ⟨reply, before, after⟩ := by
  have checks : skipsValidation cfg.validationRequired true = false :=
    skipsValidation_required required
  obtain ⟨named, name, same⟩ := answers.game
  obtain ⟨gameSecKey, key, value⟩ := answers.answer
  have key' : gameSpyGetGameSecKey named = some gameSecKey :=
    (gameSpyGetGameSecKey_congr same).trans key
  have checked : ¬ ExemptServer named := by
    unfold ExemptServer
    rw [stricmpEq_congr same, stricmpEq_congr same]
    exact server.checked
  rw [ackVerdict, modern, Bool.false_or, gameSpyChallengeCrossCheck_server, checks, Bool.false_or,
    answersChallenge_iff]
  constructor
  · rintro ⟨other, name', exempt | ⟨-, gameSecKey', found, carried⟩⟩
    · obtain rfl : named = other := Option.some.inj (name.symm.trans name')
      exact absurd exempt checked
    · obtain rfl : named = other := Option.some.inj (name.symm.trans name')
      intro gameSecKey'' found'
      obtain rfl : gameSecKey = gameSecKey'' := Option.some.inj (key.symm.trans found')
      obtain rfl : gameSecKey = gameSecKey' := Option.some.inj (key'.symm.trans found)
      exact Option.some.inj (value.symm.trans carried)
  · intro timely
    refine ⟨named, name, Or.inr ⟨by omega, gameSecKey, key', ?_⟩⟩
    rw [value, timely gameSecKey key]

/-! ## What holds in every run -/

theorem ServerList.Reachable.ack {cfg : Config} {reg : ServerList} (reached : reg.Reachable cfg)
    (env : Env) (sender : SockaddrIn) (dataPacket : List UInt8) (dglen : UInt64) :
    (ack cfg env sender dataPacket dglen reg).Reachable cfg :=
  Relation.ReflTransGen.tail reached ⟨fun _ => env, .ack sender dataPacket dglen, rfl⟩

/-- The registry is reachable, and every reply on its way is honest. -/
structure Wire.Sound (cfg : Config) (server : HonestServer) (wire : Wire) : Prop where
  reached : wire.reg.Reachable cfg
  honest : ∀ reply ∈ wire.replies, ∃ query, server.Answers query reply

theorem Exchange.sound {cfg : Config} {server : HonestServer} {deliveries : List Delivery}
    {wire : Wire} (run : Exchange cfg server deliveries wire) : wire.Sound cfg server := by
  induction run with
  | start => exact ⟨Relation.ReflTransGen.refl, fun _ member => nomatch member⟩
  | operate env op _ _ done ih =>
      exact ⟨Relation.ReflTransGen.tail ih.reached ⟨env, op, done⟩, ih.honest⟩
  | answer query reply _ _ answers ih =>
      refine ⟨ih.reached, fun other member => ?_⟩
      rcases List.mem_append.mp member with old | new
      · exact ih.honest other old
      · rw [List.mem_singleton.mp new]
        exact ⟨query.bytes, answers⟩
  | deliver env reply _ _ ih =>
      exact ⟨ih.reached.ack env server.address reply.packet _,
        fun other member => ih.honest other (List.mem_of_mem_erase member)⟩
  | lose query reply _ ih =>
      exact ⟨ih.reached, fun other member => ih.honest other (List.mem_of_mem_erase member)⟩

/-- A delivery changes an entry as its verdict says, which is whether the reply is timely. -/
theorem Exchange.verdict {cfg : Config}
    (required : cfg.validationRequired = 2 ∨ cfg.validationRequired = 3) {server : HonestServer}
    {deliveries : List Delivery} {wire : Wire} (run : Exchange cfg server deliveries wire) :
    ∀ delivery ∈ deliveries, isLegacy delivery.before.gamename = false →
      (delivery.after.validated = true ↔ delivery.Timely server) := by
  induction run with
  | start => exact fun _ member => nomatch member
  | operate _ _ _ _ _ ih => exact ih
  | answer _ _ _ _ _ ih => exact ih
  | lose _ _ _ ih => exact ih
  | deliver env reply run inFlight ih =>
      intro delivery member modern
      rcases List.mem_append.mp member with old | new
      · exact ih delivery old modern
      · have sound := run.sound
        unfold Registry.deliver at new
        split at new
        · cases new
        · rename_i block before found
          obtain rfl := List.mem_singleton.mp new
          obtain ⟨query, answers⟩ := sound.honest reply inFlight
          exact ackVerdict_honest required answers modern
            (sound.reached.challengeKey _ (find_some found).1) _

/--
No reply takes the validation of its server away exactly in the runs where each
reply that reaches a validated entry is timely.
-/
theorem honest_validation_iff (cfg : Config)
    (required : cfg.validationRequired = 2 ∨ cfg.validationRequired = 3) (server : HonestServer)
    (deliveries : List Delivery) (wire : Wire) (run : Exchange cfg server deliveries wire) :
    (∀ delivery ∈ deliveries, isLegacy delivery.before.gamename = false →
        ¬ delivery.Unvalidates) ↔
      ∀ delivery ∈ deliveries, isLegacy delivery.before.gamename = false →
        delivery.before.validated = true → delivery.Timely server := by
  have verdict := run.verdict required
  constructor
  · intro kept delivery member modern validated
    by_contra late
    have rejected := (verdict delivery member modern).not.mpr late
    exact kept delivery member modern ⟨validated, Bool.eq_false_iff.mpr rejected⟩
  · rintro timely delivery member modern ⟨validated, lost⟩
    have accepted := (verdict delivery member modern).mpr (timely delivery member modern validated)
    rw [lost] at accepted
    cases accepted

/-! ## A late reply -/

def unrealPeer : HonestServer where
  address := unrealServer
  gamename := ascii "unreal"
  supported := by decide
  modern := by decide
  checked := by unfold ExemptServer; decide

/-- The replies of the Unreal server to two challenges. -/
def earlyReply : Reply :=
  ⟨ascii "\\gamename\\unreal\\validate\\v+0126Jf", ascii "aaaaaa"⟩

def lateReply : Reply :=
  ⟨ascii "\\gamename\\unreal\\validate\\YxF+0IEq", ascii "bbbbbb"⟩

theorem earlyReply_answers : unrealPeer.Answers (statusstring ++ ascii "aaaaaa") earlyReply where
  challenge := rfl
  game := ⟨ascii "unreal", by decide, by decide⟩
  answer := ⟨ascii "DAncRK", by decide, by
    rw [show earlyReply.challenge = ascii "aaaaaa" from rfl, unreal_gsseckey.1]
    decide⟩

theorem lateReply_answers : unrealPeer.Answers (statusstring ++ ascii "bbbbbb") lateReply where
  challenge := rfl
  game := ⟨ascii "unreal", by decide, by decide⟩
  answer := ⟨ascii "DAncRK", by decide, by
    rw [show lateReply.challenge = ascii "bbbbbb" from rfl, unreal_gsseckey.2]
    decide⟩

def serversOnly : Config :=
  { defaultConfig with validationRequired := 2 }

/-- Surroundings that draw the key of ones. -/
def onesEnv : Env :=
  { quietEnv with rand := fun _ => 1 }

/-- The registry after the first heartbeat. -/
def unrealRegistered : ServerList :=
  (exec serversOnly (fun _ => quietEnv) unrealHeartbeat ServerList.initial).getD ServerList.initial

/-- The server registers and answers the query. -/
theorem firstExchange :
    Exchange serversOnly unrealPeer
      (deliver serversOnly quietEnv unrealPeer.address earlyReply unrealRegistered)
      ⟨ack serversOnly quietEnv unrealPeer.address earlyReply.packet
        earlyReply.packet.length.toUInt64 unrealRegistered, [], []⟩ := by
  have fresh : Exchange serversOnly unrealPeer [] ⟨ServerList.initial, [], []⟩ := Exchange.start
  have registered : Exchange serversOnly unrealPeer []
      ⟨unrealRegistered, [⟨unrealServer, statusstring ++ ascii "aaaaaa"⟩], []⟩ :=
    fresh.operate (fun _ => quietEnv) unrealHeartbeat (by simp [unrealHeartbeat]) rfl
  have answered := registered.answer ⟨unrealServer, statusstring ++ ascii "aaaaaa"⟩ earlyReply
    (List.mem_singleton_self _) earlyReply_answers
  have delivered := answered.deliver quietEnv earlyReply (List.mem_singleton_self _)
  simpa only [List.erase_cons_head, List.nil_append] using delivered

/-- The validated server sends a heartbeat and answers the new query in time: it stays validated. -/
theorem honest_validation_iff_unreal :
    ∃ (first second : Delivery) (wire : Wire),
      Exchange serversOnly unrealPeer [first, second] wire ∧
      second.before.validated = true ∧ second.after.validated = true := by
  have challenged := firstExchange.operate (fun _ => onesEnv) unrealHeartbeat
    (by simp [unrealHeartbeat]) rfl
  have answered := challenged.answer ⟨unrealServer, statusstring ++ ascii "bbbbbb"⟩ lateReply
    (by decide) lateReply_answers
  have run := answered.deliver quietEnv lateReply (List.mem_singleton_self _)
  have kept := (honest_validation_iff serversOnly (Or.inl rfl) unrealPeer _ _ run).mpr
    fun delivery member _ _ gameSecKey _ => by
      rcases List.mem_append.mp member with first | second
      · rw [List.mem_singleton.mp first]
        rfl
      · rw [List.mem_singleton.mp second]
        rfl
  have early := (run.verdict (Or.inl rfl) _ (List.mem_append_left _ (List.mem_singleton_self _))
    (by decide)).mpr fun gameSecKey _ => rfl
  refine ⟨_, _, _, run, early, ?_⟩
  by_contra lost
  exact kept _ (List.mem_append_right _ (List.mem_singleton_self _)) (by decide)
    ⟨early, Bool.eq_false_iff.mpr lost⟩

/--
The validated server sends two heartbeats; its reply to the query for the first
arrives after the second and takes its validation away.
-/
theorem honest_server_unvalidated :
    ¬ ∀ cfg : Config, cfg.validationRequired = 2 ∨ cfg.validationRequired = 3 →
      ∀ (server : HonestServer) (deliveries : List Delivery) (wire : Wire),
        Exchange cfg server deliveries wire → ∀ delivery ∈ deliveries,
          isLegacy delivery.before.gamename = false → ¬ delivery.Unvalidates := by
  intro always
  have challenged := firstExchange.operate (fun _ => onesEnv) unrealHeartbeat
    (by simp [unrealHeartbeat]) rfl
  have again := challenged.operate (fun _ => quietEnv) unrealHeartbeat
    (by simp [unrealHeartbeat]) rfl
  have late := again.answer ⟨unrealServer, statusstring ++ ascii "bbbbbb"⟩ lateReply
    (by decide) lateReply_answers
  have run := late.deliver quietEnv lateReply (List.mem_singleton_self _)
  have verdict := run.verdict (Or.inl rfl)
  have early := verdict _ (List.mem_append_left _ (List.mem_singleton_self _)) (by decide)
  have last := verdict _ (List.mem_append_right _ (List.mem_singleton_self _)) (by decide)
  refine always serversOnly (Or.inl rfl) unrealPeer _ _ run _
    (List.mem_append_right _ (List.mem_singleton_self _)) (by decide) ⟨?_, ?_⟩
  · exact early.mpr fun gameSecKey _ => rfl
  · refine Bool.eq_false_iff.mpr fun accepted => ?_
    have same := last.mp accepted (ascii "DAncRK") (by decide)
    have answers : ascii "YxF+0IEq" = ascii "v+0126Jf" :=
      unreal_gsseckey.2.symm.trans (same.trans unreal_gsseckey.1)
    revert answers
    decide

end GSMaster.Registry
