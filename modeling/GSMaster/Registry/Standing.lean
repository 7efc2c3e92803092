import GSMaster.Registry.Invariant

/-!
# The life of an entry

A journal records, under the key of an entry, its creation, the replies that
`Ack` matches with it and the shutdowns announced for it. What decides whether
an entry is listed is the result of the notices since its creation.
-/

namespace GSMaster.Registry

open GSMaster.Text GSMaster.Net GSMaster.Games GSMaster.Library

inductive Notice where
  | created (key : ServerKey)
  | acked (key : ServerKey) (verdict : Bool)
  | shutdown (key : ServerKey)
  deriving DecidableEq, Repr

/-- The fields of an entry that the list functions look at. -/
structure Standing where
  heartbeats : UInt32
  validated : Bool
  shutdownIssued : Bool
  deriving DecidableEq, Repr

namespace Standing

/-- The standing of an entry that is not validated at once. -/
def fresh : Standing :=
  ⟨0, false, false⟩

/-- What a notice does to the standing of the entry of a key. -/
def update (key : ServerKey) (standing : Standing) : Notice → Standing
  | .created _ => standing
  | .acked key' verdict =>
      if key' = key then ⟨standing.heartbeats + 1, verdict, false⟩ else standing
  | .shutdown key' => if key' = key then { standing with shutdownIssued := true } else standing

def after (key : ServerKey) (standing : Standing) (life : List Notice) : Standing :=
  life.foldl (update key) standing

theorem after_append (key : ServerKey) (standing : Standing) (early late : List Notice) :
    after key standing (early ++ late) = after key (after key standing early) late :=
  List.foldl_append

theorem after_snoc (key : ServerKey) (standing : Standing) (life : List Notice) (notice : Notice) :
    after key standing (life ++ [notice]) = update key (after key standing life) notice :=
  after_append key standing life [notice]

theorem update_acked_self (key : ServerKey) (standing : Standing) (verdict : Bool) :
    update key standing (.acked key verdict) = ⟨standing.heartbeats + 1, verdict, false⟩ :=
  if_pos rfl

theorem update_acked_of_ne {key other : ServerKey} (apart : other ≠ key) (standing : Standing)
    (verdict : Bool) : update key standing (.acked other verdict) = standing :=
  if_neg apart

theorem update_shutdown_self (key : ServerKey) (standing : Standing) :
    update key standing (.shutdown key) = { standing with shutdownIssued := true } :=
  if_pos rfl

theorem update_shutdown_of_ne {key other : ServerKey} (apart : other ≠ key) (standing : Standing) :
    update key standing (.shutdown other) = standing :=
  if_neg apart

/-- Creations do not change the standing of an entry that is there. -/
theorem after_created (key : ServerKey) (standing : Standing) (keys : List ServerKey) :
    after key standing (keys.map .created) = standing := by
  induction keys with
  | nil => rfl
  | cons other keys ih => exact ih

end Standing

def Server.standing (server : Server) : Standing :=
  ⟨server.heartbeats, server.validated, server.shutdownIssued⟩

/-! ## What the notices of a life add up to -/

def Notice.acks (key : ServerKey) : Notice → Bool
  | .acked key' _ => key' = key
  | _ => false

/-- The counter wraps, so it is at most the number of replies. -/
theorem Standing.after_heartbeats_le (key : ServerKey) (life : List Notice) :
    (Standing.after key .fresh life).heartbeats.toNat ≤ life.countP (Notice.acks key) := by
  induction life using List.reverseRecOn with
  | nil => exact Nat.le_refl 0
  | append_singleton life notice ih =>
      rw [after_snoc, List.countP_append]
      cases notice with
      | created other => exact Nat.le_add_right_of_le ih
      | shutdown other =>
          refine Nat.le_add_right_of_le ?_
          by_cases same : other = key
          · subst same
            rw [update_shutdown_self]
            exact ih
          · rw [update_shutdown_of_ne same]
            exact ih
      | acked other verdict =>
          by_cases same : other = key
          · subst same
            have one : List.countP (Notice.acks other) [.acked other verdict] = 1 := by
              simp [Notice.acks]
            rw [update_acked_self, one, UInt32.toNat_add]
            exact Nat.le_trans (Nat.mod_le _ _) (Nat.add_le_add_right ih 1)
          · rw [update_acked_of_ne same]
            exact Nat.le_add_right_of_le ih

/-- In a life the latest reply was accepted, and no shutdown was announced after it. -/
def LatestReplyAccepted (key : ServerKey) (life : List Notice) : Prop :=
  ∃ early late, life = early ++ .acked key true :: late ∧
    (∀ verdict, .acked key verdict ∉ late) ∧ .shutdown key ∉ late

theorem LatestReplyAccepted.snoc {key : ServerKey} {life : List Notice}
    (accepted : LatestReplyAccepted key life) {notice : Notice}
    (reply : ∀ verdict, notice ≠ .acked key verdict) (shutdown : notice ≠ .shutdown key) :
    LatestReplyAccepted key (life ++ [notice]) := by
  obtain ⟨early, late, rfl, noReply, noShutdown⟩ := accepted
  refine ⟨early, late ++ [notice], ?_, ?_, ?_⟩
  · rw [List.append_assoc]
    rfl
  · intro verdict member
    rcases List.mem_append.mp member with inside | last
    · exact noReply verdict inside
    · exact reply verdict (List.mem_singleton.mp last).symm
  · intro member
    rcases List.mem_append.mp member with inside | last
    · exact noShutdown inside
    · exact shutdown (List.mem_singleton.mp last).symm

theorem Standing.after_accepted {key : ServerKey} {life : List Notice}
    (validated : (Standing.after key .fresh life).validated = true)
    (running : (Standing.after key .fresh life).shutdownIssued = false) :
    LatestReplyAccepted key life := by
  induction life using List.reverseRecOn with
  | nil => cases validated
  | append_singleton life notice ih =>
      rw [after_snoc] at validated running
      cases notice with
      | created other => exact (ih validated running).snoc (by simp) (by simp)
      | shutdown other =>
          by_cases same : other = key
          · subst same
            rw [update_shutdown_self] at running
            cases running
          · rw [update_shutdown_of_ne same] at validated running
            exact (ih validated running).snoc (by simp) (by simpa using same)
      | acked other verdict =>
          by_cases same : other = key
          · subst same
            rw [update_acked_self] at validated
            obtain rfl : verdict = true := validated
            exact ⟨life, [], rfl, by simp, by simp⟩
          · rw [update_acked_of_ne same] at validated running
            exact (ih validated running).snoc (by simp [same]) (by simp)

/-! ## The notices of an operation -/

/-- A reply that matches an entry, with what `Ack` decides about it. -/
def ackNotices (cfg : Config) (sender : SockaddrIn) (dataPacket : List UInt8) (reg : ServerList) :
    List Notice :=
  match reg.find (sentBy sender) with
  | none => []
  | some (_, server) => [.acked server.key (ackVerdict cfg server dataPacket)]

def HeartBeatRequest.notices (request : HeartBeatRequest) (sender : SockaddrIn) : List Notice :=
  if request.statechanged then [.shutdown (sender.sinAddr, htons request.queryPort)] else []

/-- A heartbeat that announces a shutdown. -/
def heartBeatNotices (sender : SockaddrIn) (data : List UInt8) : List Notice :=
  match parseHeartBeat data with
  | none => []
  | some request => request.notices sender

/-- The reply or the announcement that an operation brings. -/
def heard (cfg : Config) : Operation → ServerList → List Notice
  | .ack sender dataPacket _, reg => ackNotices cfg sender dataPacket reg
  | .queueShutdown sender, _ => [.shutdown (sender.sinAddr, sender.sinPort)]
  | .heartBeat sender data, _ => heartBeatNotices sender data
  | _, _ => []

/-- The keys of the entries that were not there before. -/
def born (reg reg' : ServerList) : List ServerKey :=
  (reg'.cells.filter fun cell => reg.nextBlock ≤ cell.1).map fun cell => cell.2.key

def notices (cfg : Config) (op : Operation) (reg reg' : ServerList) : List Notice :=
  heard cfg op reg ++ (born reg reg').map .created

/-- A run from the start of the program, with its journal. -/
inductive Run (cfg : Config) : List Notice → ServerList → Prop where
  | start : Run cfg [] ServerList.initial
  | step {journal : List Notice} {reg reg' : ServerList} (env : Nat → Env) (op : Operation)
      (run : Run cfg journal reg) (done : exec cfg env op reg = some reg') :
      Run cfg (journal ++ notices cfg op reg reg') reg'

theorem Run.wellFormed {cfg : Config} {journal : List Notice} {reg : ServerList}
    (run : Run cfg journal reg) : reg.WellFormed := by
  induction run with
  | start => exact ServerList.initial_wellFormed
  | step _ _ _ done ih => exact (exec_sound ih done).1

end GSMaster.Registry
