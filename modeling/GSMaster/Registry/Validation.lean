import GSMaster.Registry.Invariant

/-!
# The validation of servers

`Ack` validates an entry by a cross check that takes the game from the packet
and not from the entry. The answer it accepts is therefore the answer of the
registered game only under a condition on the packet.
-/

namespace GSMaster.Registry

open GSMaster.Text GSMaster.Net GSMaster.Games

/-- `gamename` and `validate` as the cross check copies them from a packet. -/
def packetValue (packet : CString) (key : String) : Option CString :=
  (infoValueForKey packet (ascii key)).map fun ptr => strlcpy [] ptr maxInfoString

/-- The packet's `validate` value is the answer to the challenge under the key of a game. -/
def CarriesAnswer (challengeKey packet gamename : CString) : Prop :=
  ∃ gameSecKey, gameSpyGetGameSecKey gamename = some gameSecKey ∧
    packetValue packet "validate" = some (gsseckey challengeKey gameSecKey 0)

/-- The games whose servers are exempt from the cross check. -/
def ExemptServer (gamename : CString) : Prop :=
  stricmpEq gamename (ascii "nolf") = true ∨ stricmpEq gamename (ascii "heretic2") = true

/--
Whatever game the packet names, an exempt one or one whose answer it carries,
it carries the answer of the registered game.
-/
def NamesNoOtherGame (challengeKey packet gamename : CString) : Prop :=
  ∀ named, packetValue packet "gamename" = some named →
    ExemptServer named ∨ CarriesAnswer challengeKey packet named →
      CarriesAnswer challengeKey packet gamename

theorem skipsAnswer_server (gamename : CString) :
    skipsAnswer gamename true = true ↔ ExemptServer gamename := by
  simp only [skipsAnswer, Bool.and_true, Bool.or_eq_true, ExemptServer]

/-- When the cross check looks at the packet, it accepts an exempt game or a game's own answer. -/
theorem answersChallenge_iff (challengeKey packet : CString) :
    answersChallenge challengeKey packet true 0 = true ↔
      ∃ named, packetValue packet "gamename" = some named ∧
        (ExemptServer named ∨ (1 ≤ challengeKey.length ∧ challengeKey.length ≤ 65) ∧
          CarriesAnswer challengeKey packet named) := by
  rw [answersChallenge_accepts_iff]
  simp only [packetValue, CarriesAnswer, skipsAnswer_server, Option.map_eq_some_iff]
  constructor
  · rintro ⟨ptr, found, accepted⟩
    exact ⟨strlcpy [] ptr maxInfoString, ⟨ptr, found, rfl⟩, accepted⟩
  · rintro ⟨_, ⟨ptr, found, rfl⟩, accepted⟩
    exact ⟨ptr, found, accepted⟩

/-- `Ack` sets the matching entry and leaves its block. -/
theorem ack_cell {cfg : Config} {env : Env} {reg : ServerList} {sender : SockaddrIn} {block : Nat}
    {server server' : Server} {dataPacket : List UInt8} {dglen : UInt64} (sound : reg.WellFormed)
    (found : reg.find (sentBy sender) = some (block, server)) :
    (block, server') ∈ (ack cfg env sender dataPacket dglen reg).cells ↔
      server' = ackServer cfg env dataPacket dglen server := by
  have member := (ServerList.find_some found).1
  have set : ack cfg env sender dataPacket dglen reg =
      reg.set block (ackServer cfg env dataPacket dglen server) := by
    rw [ack, found]
  have here : (block, ackServer cfg env dataPacket dglen server) ∈
      (reg.set block (ackServer cfg env dataPacket dglen server)).cells :=
    List.mem_map.mpr ⟨(block, server), member, if_pos rfl⟩
  rw [set]
  constructor
  · intro inside
    exact (sound.set _ member (ackServer_identity cfg env dataPacket dglen server)).1.cell_inj
      inside here
  · rintro rfl
    exact here

/--
An entry of a game that answers challenges is validated by the answer of its
own game only, exactly when the packet names no other game to its advantage.
-/
theorem ack_validation_iff (cfg : Config)
    (required : cfg.validationRequired = 2 ∨ cfg.validationRequired = 3) (env : Env)
    (reg : ServerList) (reached : reg.Reachable cfg) (sender : SockaddrIn) (block : Nat)
    (server : Server) (found : reg.find (sentBy sender) = some (block, server))
    (modern : isLegacy server.gamename = false) (dataPacket : List UInt8) (dglen : UInt64) :
    (∀ server', (block, server') ∈ (ack cfg env sender dataPacket dglen reg).cells →
        server'.validated = true →
          CarriesAnswer server.challengeKey (cstr dataPacket) server.gamename) ↔
      NamesNoOtherGame server.challengeKey (cstr dataPacket) server.gamename := by
  have member := (ServerList.find_some found).1
  obtain ⟨gameSecKey, key⟩ : ∃ gameSecKey, gameSpyGetGameSecKey server.gamename = some gameSecKey :=
    Option.ne_none_iff_exists'.mp
      (reached.wellFormed.games _ (ServerList.mem_identities member))
  have checks : skipsValidation cfg.validationRequired true = false :=
    skipsValidation_required required
  have verdict : (ackServer cfg env dataPacket dglen server).validated =
      answersChallenge server.challengeKey (cstr dataPacket) true 0 := by
    change ackVerdict cfg server dataPacket = _
    rw [ackVerdict, modern, Bool.false_or, gameSpyChallengeCrossCheck_server, checks, Bool.false_or]
  simp only [ack_cell reached.wellFormed found, forall_eq, verdict]
  rw [answersChallenge_iff]
  constructor
  · intro sound named name
    rintro (exempt | carries)
    · exact sound ⟨named, name, Or.inl exempt⟩
    · by_cases usable : 1 ≤ server.challengeKey.length ∧ server.challengeKey.length ≤ 65
      · exact sound ⟨named, name, Or.inr ⟨usable, carries⟩⟩
      · have empty : ∀ key, gsseckey server.challengeKey key 0 = [] := fun key =>
          gsseckey_eq_nil_iff.mpr (by omega)
        obtain ⟨otherKey, -, value⟩ := carries
        exact ⟨gameSecKey, key, by rw [value, empty, empty]⟩
  · rintro same ⟨named, name, accepted⟩
    exact same named name (accepted.imp_right And.right)

theorem unreal_gsseckey :
    gsseckey (ascii "aaaaaa") (ascii "DAncRK") 0 = ascii "v+0126Jf" ∧
      gsseckey (ascii "bbbbbb") (ascii "DAncRK") 0 = ascii "YxF+0IEq" := by
  decide +kernel

/-- A reply that names its own game and answers the challenge. -/
def unrealReply : List UInt8 :=
  ascii "\\gamename\\unreal\\validate\\v+0126Jf"

theorem unrealReply_answers :
    CarriesAnswer (ascii "aaaaaa") (cstr unrealReply) (ascii "unreal") := by
  refine ⟨ascii "DAncRK", by decide, ?_⟩
  rw [unreal_gsseckey.1]
  decide

/-- The reply validates its server, by the answer of its own game. -/
theorem ack_validation_iff_unreal :
    ∃ (reg : ServerList) (server server' : Server),
      reg.find (sentBy unrealServer) = some (1, server) ∧ server.gamename = ascii "unreal" ∧
      (1, server') ∈ (ack { defaultConfig with validationRequired := 3 } quietEnv unrealServer
        unrealReply 35 reg).cells ∧ server'.validated = true ∧
      CarriesAnswer server.challengeKey (cstr unrealReply) server.gamename := by
  obtain ⟨reg, reached, server, found, game, challenge⟩ := unrealHeartbeat_registers 3
  have answers : CarriesAnswer server.challengeKey (cstr unrealReply) server.gamename := by
    rw [challenge, game]
    exact unrealReply_answers
  have accepted : answersChallenge server.challengeKey (cstr unrealReply) true 0 = true :=
    (answersChallenge_iff _ _).mpr ⟨ascii "unreal", by decide,
      Or.inr ⟨by rw [challenge]; decide, game ▸ answers⟩⟩
  have member : (1, ackServer { defaultConfig with validationRequired := 3 } quietEnv unrealReply 35
      server) ∈ (ack { defaultConfig with validationRequired := 3 } quietEnv unrealServer
        unrealReply 35 reg).cells :=
    (ack_cell reached.wellFormed found).mpr rfl
  have validated : ackVerdict { defaultConfig with validationRequired := 3 } server unrealReply =
      true := by
    rw [ackVerdict, gameSpyChallengeCrossCheck_server, accepted, Bool.or_true, Bool.or_true]
  exact ⟨reg, server, _, found, game, member, validated,
    (ack_validation_iff _ (Or.inr rfl) quietEnv reg reached unrealServer 1 server found
      (by rw [game]; decide) _ 35).mpr (fun _ _ _ => answers) _ member validated⟩

/-- An Unreal server is validated by a reply that names an exempt game and answers nothing. -/
theorem ack_validates_unanswered :
    ¬ ∀ cfg : Config, cfg.validationRequired = 2 ∨ cfg.validationRequired = 3 →
      ∀ env (reg : ServerList), reg.Reachable cfg → ∀ sender block server,
        reg.find (sentBy sender) = some (block, server) → isLegacy server.gamename = false →
          ¬ ExemptServer server.gamename → ∀ dataPacket dglen server',
            (block, server') ∈ (ack cfg env sender dataPacket dglen reg).cells →
              server'.validated = true →
                CarriesAnswer server.challengeKey (cstr dataPacket) server.gamename := by
  intro always
  obtain ⟨reg, reached, server, found, game, -⟩ := unrealHeartbeat_registers 2
  have accepted : answersChallenge server.challengeKey
      (cstr (ascii "\\gamename\\heretic2")) true 0 = true :=
    (answersChallenge_iff _ _).mpr ⟨ascii "heretic2", by decide, Or.inl (Or.inr (by decide))⟩
  have validated : ackVerdict { defaultConfig with validationRequired := 2 } server
      (ascii "\\gamename\\heretic2") = true := by
    rw [ackVerdict, gameSpyChallengeCrossCheck_server, accepted, Bool.or_true, Bool.or_true]
  obtain ⟨gameSecKey, -, answer⟩ := always _ (Or.inl rfl) quietEnv reg reached unrealServer 1 server
    found (by rw [game]; decide) (by rw [game, ExemptServer]; decide)
    (ascii "\\gamename\\heretic2") 18 _ ((ack_cell reached.wellFormed found).mpr rfl) validated
  have unanswered : packetValue (cstr (ascii "\\gamename\\heretic2")) "validate" = none := by decide
  rw [unanswered] at answer
  cases answer

end GSMaster.Registry
