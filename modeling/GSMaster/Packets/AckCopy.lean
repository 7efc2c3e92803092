import GSMaster.Packets.ParseResponse
import GSMaster.Registry.AckBounds

/-!
# The copy of a reply into its entry

`Ack` passes the length of the datagram as the size of `serverInfo`. The copy
is faithful exactly when that size neither cuts the text nor exceeds the field.
-/

namespace GSMaster.Packets

open GSMaster.Text GSMaster.Net GSMaster.Games GSMaster.Lists GSMaster.Registry

/-- The text that a reply of a legacy game with the print header carries. -/
def printText (data : List UInt8) : CString :=
  cstr (data.drop printstring.length)

/-- The bytes that `Ack` stores from the start of `serverInfo` on. -/
def serverInfoStores (dataPacket : List UInt8) (dglen : UInt64) (server : Server) : Nat :=
  if isLegacy server.gamename then
    if 6 < dglen && memcmpEq dataPacket printstring && 0 < dglen - 9 then
      strlcpyStores (cstr (dataPacket.drop 9)) (dglen - 9).toNat
    else 0
  else strlcpyStores (cstr dataPacket) dglen.toNat

/-- What `serverInfo` should hold after a reply: its text, cut to what the field can hold. -/
def expectedInfo (data : List UInt8) (server : Server) : CString :=
  if isLegacy server.gamename then
    if memcmpEq data printstring then (printText data).take (serverInfoSize - 1)
    else server.serverInfo
  else (cstr data).take (serverInfoSize - 1)

/-- The reply is stored inside the field, and stored whole. -/
def StoresReply (cfg : Config) (env : Env) (server : Server) (data : List UInt8) (dglen : UInt64) :
    Prop :=
  serverInfoStores data dglen server ≤ serverInfoSize ∧
    (ackServer cfg env data dglen server).serverInfo = expectedInfo data server

/--
A text fits a copy of size `size`: either a NUL ends it before the end of the
datagram and the field holds it, or it fills a datagram of exactly the size of
the field.
-/
def FitsCopy (text : CString) (size : Nat) : Prop :=
  (text.length < size ∧ text.length < serverInfoSize) ∨
    (text.length = size ∧ size = serverInfoSize)

/-- The replies that `Ack` stores as it should. -/
def FitsInfo (data : List UInt8) (server : Server) : Prop :=
  if isLegacy server.gamename then
    memcmpEq data printstring = true →
      if data.length = printstring.length then server.serverInfo = []
      else FitsCopy (printText data) (data.length - printstring.length)
  else FitsCopy (cstr data) data.length

/-- A copy whose size is the number of bytes available is faithful for the texts that fit it. -/
theorem strlcpy_faithful_iff {old text : CString} {size : Nat} (available : text.length ≤ size)
    (positive : 0 < size) :
    (strlcpyStores text size ≤ serverInfoSize ∧
      strlcpy old text size = text.take (serverInfoSize - 1)) ↔ FitsCopy text size := by
  rw [strlcpyStores, strlcpy, if_neg (Nat.ne_of_gt positive), if_neg (Nat.ne_of_gt positive),
    List.take_eq_take_iff]
  unfold FitsCopy serverInfoSize
  omega

theorem legacyReply_serverInfo (dataPacket : List UInt8) (dglen : UInt64) (server : Server) :
    (legacyReply dataPacket dglen server).serverInfo =
      if 6 < dglen && memcmpEq dataPacket printstring && 0 < dglen - 9 then
        strlcpy server.serverInfo (cstr (dataPacket.drop 9)) (dglen - 9).toNat
      else server.serverInfo := by
  unfold legacyReply
  by_cases long : 6 < dglen
  · rw [if_pos long, decide_eq_true long, Bool.true_and]
    split
    · rfl
    · split
      · rfl
      · split <;> rfl
  · rw [if_neg long, decide_eq_false long, Bool.false_and, Bool.false_and]
    rfl

theorem ackServer_serverInfo (cfg : Config) (env : Env) (dataPacket : List UInt8) (dglen : UInt64)
    (server : Server) :
    (ackServer cfg env dataPacket dglen server).serverInfo =
      if isLegacy server.gamename then (legacyReply dataPacket dglen server).serverInfo
      else strlcpy server.serverInfo (cstr dataPacket) dglen.toNat := by
  unfold ackServer
  split <;> rfl

/--
`Ack` stores a reply as it should exactly when the text fits the copy: a
datagram without a NUL loses its last character unless it is of one length, and
a text of 4000 characters or more leaves the field.
-/
theorem ack_storesReply_iff (cfg : Config) (env : Env) (server : Server) (sender : SockaddrIn)
    (received dataPacket : List UInt8) (dglen : UInt64) (long : 4 < received.length)
    (short : received.length ≤ 65507)
    (handed : parseResponse sender received = .ack dataPacket dglen) :
    StoresReply cfg env server dataPacket dglen ↔ FitsInfo dataPacket server := by
  obtain ⟨rfl, rfl⟩ := parseResponse_ack handed
  set data := cleanNewlines received with dataEq
  have lengthEq : data.length = received.length := cleanNewlines_length received
  have size : received.length.toUInt64.toNat = received.length :=
    UInt64.toNat_ofNat_of_lt' (by
      change received.length < 2 ^ 64
      omega)
  unfold StoresReply FitsInfo
  rw [ackServer_serverInfo]
  by_cases legacy : isLegacy server.gamename = true
  · rw [if_pos legacy, if_pos legacy, serverInfoStores, if_pos legacy, expectedInfo, if_pos legacy,
      legacyReply_serverInfo]
    by_cases header : memcmpEq data printstring = true
    · have nine : 9 ≤ received.length := lengthEq ▸ memcmpEq_length_le (by decide) header
      have more : 6 < received.length.toUInt64 := by
        rw [UInt64.lt_iff_toNat_lt, size]
        exact Nat.lt_of_lt_of_le (by decide) nine
      have rest : (received.length.toUInt64 - 9).toNat = received.length - 9 := by
        rw [UInt64.toNat_sub_of_le _ _ (by rw [UInt64.le_iff_toNat_le, size]; exact nine), size]
        rfl
      have positive : 0 < received.length.toUInt64 - 9 ↔ received.length ≠ 9 := by
        rw [UInt64.lt_iff_toNat_lt, rest]
        change 0 < received.length - 9 ↔ _
        omega
      rw [header, decide_eq_true more, Bool.true_and, Bool.true_and, rest, lengthEq]
      by_cases bare : received.length = 9
      · have none : cstr (data.drop printstring.length) = [] := by
          have empty : data.drop printstring.length = [] :=
            List.drop_eq_nil_of_le (Nat.le_of_eq (lengthEq.trans bare))
          rw [empty]
          rfl
        rw [decide_eq_false fun some => positive.mp some bare, if_neg Bool.false_ne_true,
          if_neg Bool.false_ne_true, if_pos rfl, printText, none, List.take_nil]
        have nine : received.length = printstring.length := bare
        simp only [Nat.zero_le, true_and, if_pos nine, forall_const]
      · have other : received.length ≠ printstring.length := bare
        rw [decide_eq_true (positive.mpr bare), if_pos rfl, if_pos rfl, if_pos rfl]
        simp only [if_neg other, forall_const]
        refine strlcpy_faithful_iff ?_ (by omega)
        have available := cstr_length_le (data.drop 9)
        rwa [List.length_drop, lengthEq] at available
    · rw [Bool.eq_false_iff.mpr header, Bool.and_false, Bool.false_and]
      simp
  · rw [if_neg legacy, if_neg legacy, serverInfoStores, if_neg legacy, expectedInfo, if_neg legacy,
      size, lengthEq]
    exact strlcpy_faithful_iff (lengthEq ▸ cstr_length_le data) (by omega)

/-! ## Two replies -/

theorem ack_storesReply_iff_nul :
    ∃ reg : ServerList, reg.Reachable defaultConfig ∧ ∃ server : Server,
      reg.find (sentBy unrealServer) = some (1, server) ∧
        StoresReply defaultConfig quietEnv server (ascii "\\hostname\\ab" ++ [0]) 13 := by
  obtain ⟨reg, reached, server, found, game, -⟩ := unrealHeartbeat_registers 0
  refine ⟨reg, reached, server, found, (ack_storesReply_iff defaultConfig quietEnv server unrealServer
    (ascii "\\hostname\\ab" ++ [0]) _ 13 (by decide) (by decide) (by decide)).mpr ?_⟩
  have modern : ¬ isLegacy server.gamename = true := by
    rw [game]
    decide
  rw [FitsInfo, if_neg modern]
  exact Or.inl (by decide)

/-- An ordinary reply without a NUL loses its last character. -/
theorem ack_loses_character :
    ¬ ∀ cfg env (reg : ServerList) block server sender received dataPacket dglen,
      reg.Reachable cfg →
      reg.find (sentBy sender) = some (block, server) → 4 < received.length →
      received.length ≤ 65507 → parseResponse sender received = .ack dataPacket dglen →
      StoresReply cfg env server dataPacket dglen := by
  intro always
  obtain ⟨reg, reached, server, found, game, -⟩ := unrealHeartbeat_registers 0
  have stored := always defaultConfig quietEnv reg 1 server unrealServer (ascii "\\hostname\\abc")
    (ascii "\\hostname\\abc") 13 reached found (by decide) (by decide) (by decide)
  have modern : isLegacy server.gamename = false := by
    rw [game]
    decide
  have text := stored.2
  rw [ackServer_serverInfo, expectedInfo, modern, if_neg Bool.false_ne_true,
    if_neg Bool.false_ne_true, strlcpy, if_neg (by decide)] at text
  exact absurd text (by decide)

end GSMaster.Packets
