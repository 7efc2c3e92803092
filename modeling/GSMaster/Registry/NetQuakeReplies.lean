import GSMaster.Registry.NetQuakeBounds

/-!
# What is kept of a NetQuake reply

A reply is three texts and three counts behind its header. `Parse_NQData` goes
on to the next field only behind a text that is not empty, so a reply with an
empty text leaves the fields from that text on as they were, and it takes the
counts for `char`s.
-/

namespace GSMaster.Registry

open GSMaster.Text

/-- A text of 0 to 63 characters, which a field of `netquake_data_s` can hold. -/
abbrev NQText := {text : CString // 0 ∉ text ∧ text.length < netquakeMaxstr}

/-- What a server tells about itself. -/
structure NQReply where
  ip : NQText
  hostname : NQText
  mapname : NQText
  users : UInt8
  maxusers : UInt8
  protocol : UInt8

namespace NQReply

/-- The reply behind its header. -/
def body (reply : NQReply) : List UInt8 :=
  reply.ip.val ++ 0 :: (reply.hostname.val ++ 0 :: (reply.mapname.val ++
    [0, reply.users, reply.maxusers, reply.protocol]))

def packet (reply : NQReply) (header : List UInt8) : List UInt8 :=
  header ++ reply.body

/-- The six fields with the values of the reply. -/
def record (reply : NQReply) : NetquakeData where
  ip := reply.ip
  hostname := reply.hostname
  mapname := reply.mapname
  users := reply.users.toNat
  maxusers := reply.maxusers.toNat
  protocol := reply.protocol.toNat

end NQReply

/-- The headers that are followed by `Parse_NQData`. -/
def IsNQHeader (header : List UInt8) : Prop :=
  header = hexen2ServerinfoReply ∨ header = quake1ServerinfoReply

/--
Everything of the reply is in the record afterwards: each field from the first
empty text on held the value of the reply before, and where there is no such
text no count is negative as a `char`.
-/
structure NQReply.Arrives (reply : NQReply) (before : NetquakeData) : Prop where
  ip : reply.ip.val = [] → before.ip = []
  hostname : reply.ip.val = [] ∨ reply.hostname.val = [] → before.hostname = reply.hostname
  mapname : reply.ip.val = [] ∨ reply.hostname.val = [] ∨ reply.mapname.val = [] →
    before.mapname = reply.mapname
  counts : reply.ip.val = [] ∨ reply.hostname.val = [] ∨ reply.mapname.val = [] →
    before.users = reply.users.toNat ∧ before.maxusers = reply.maxusers.toNat ∧
      before.protocol = reply.protocol.toNat
  plain : reply.ip.val ≠ [] → reply.hostname.val ≠ [] → reply.mapname.val ≠ [] →
    reply.users < 128 ∧ reply.maxusers < 128 ∧ reply.protocol < 128

/-- A text that is followed by a NUL. -/
theorem cstr_terminated (text : NQText) (rest : List UInt8) :
    cstr (text.val ++ 0 :: rest) = text := by
  rw [cstr_append text.property.1]
  exact List.append_nil _

theorem drop_terminated (text : NQText) (rest : List UInt8) :
    (text.val ++ 0 :: rest).drop (text.val.length + 1) = rest := by
  rw [List.drop_append, List.drop_eq_nil_of_le (Nat.le_succ _), Nat.add_sub_cancel_left]
  rfl

/-- A byte is the same count as a `char` and as a number up to 127. -/
theorem charInt_eq_toNat (c : UInt8) (rest : List UInt8) :
    charInt (c :: rest) = c.toNat ↔ c < 128 := by
  have signed : charInt (c :: rest) = c.toBitVec.toInt := rfl
  rw [signed, BitVec.toInt_eq_toNat_cond, UInt8.lt_iff_toNat_lt]
  have size := c.toNat_lt
  have same : c.toBitVec.toNat = c.toNat := rfl
  rw [same]
  split_ifs with small
  · exact iff_of_true rfl (by simp; omega)
  · exact iff_of_false (by omega) (by simp; omega)

namespace NQReply

variable (reply : NQReply) (before : NetquakeData)

theorem packet_length (header : List UInt8) : (reply.packet header).length = header.length +
    (reply.ip.val.length + reply.hostname.val.length + reply.mapname.val.length + 6) := by
  simp only [packet, body, List.length_append, List.length_cons, List.length_nil]
  omega

/-- `Parse_NQData` on a reply: the first empty text ends it, and nothing else does. -/
theorem parseNQData_packet {header : List UInt8} (size : header.length = 5) :
    parseNQData (reply.packet header) before (reply.packet header).length 6 =
      if reply.ip.val = [] then before
      else if reply.hostname.val = [] then { before with ip := reply.ip }
      else if reply.mapname.val = [] then
        { before with ip := reply.ip, hostname := reply.hostname }
      else
        { ip := reply.ip, hostname := reply.hostname, mapname := reply.mapname
          users := charInt [reply.users], maxusers := charInt [reply.maxusers]
          protocol := charInt [reply.protocol] } := by
  have start : (reply.packet header).drop (6 - 1) = reply.body := by
    rw [packet, show 6 - 1 = header.length from size.symm]
    exact List.drop_left
  have long := reply.packet_length header
  unfold parseNQData
  simp only [start]
  rw [body, cstr_terminated, drop_terminated, cstr_terminated, drop_terminated, cstr_terminated,
    drop_terminated, parseNQCounts]
  simp only [List.length_eq_zero_iff]
  have ipPasses : reply.ip.val.length + 1 < (reply.packet header).length := by omega
  have hostnamePasses : reply.hostname.val.length < (reply.packet header).length := by omega
  have mapnamePasses : reply.hostname.val.length + reply.mapname.val.length <
      (reply.packet header).length := by omega
  have countsPass : reply.hostname.val.length + reply.mapname.val.length + 1 + 2 <
      (reply.packet header).length := by omega
  have usersPass : reply.hostname.val.length + reply.mapname.val.length + 1 <
      (reply.packet header).length := by omega
  have maxusersPass : reply.hostname.val.length + reply.mapname.val.length + 1 + 1 <
      (reply.packet header).length := by omega
  rw [if_pos ipPasses, if_pos hostnamePasses, if_pos mapnamePasses, if_pos usersPass,
    if_pos maxusersPass, if_pos countsPass]
  rfl

theorem eq_record_iff (data : NetquakeData) :
    data = reply.record ↔ data.ip = reply.ip ∧ data.hostname = reply.hostname ∧
      data.mapname = reply.mapname ∧ data.users = reply.users.toNat ∧
      data.maxusers = reply.maxusers.toNat ∧ data.protocol = reply.protocol.toNat := by
  cases data
  simp only [record, NetquakeData.mk.injEq]

/-- Without an address nothing is stored. -/
theorem arrives_iff_noIp (ip : reply.ip.val = []) :
    before = reply.record ↔ reply.Arrives before := by
  rw [eq_record_iff]
  constructor
  · rintro ⟨sameIp, hostname, mapname, counts⟩
    exact ⟨fun _ => sameIp.trans ip, fun _ => hostname, fun _ => mapname, fun _ => counts,
      fun some => absurd ip some⟩
  · intro arrives
    exact ⟨(arrives.ip ip).trans ip.symm, arrives.hostname (Or.inl ip),
      arrives.mapname (Or.inl ip), arrives.counts (Or.inl ip)⟩

/-- Without a host name the address alone is stored. -/
theorem arrives_iff_noHostname (ip : reply.ip.val ≠ []) (hostname : reply.hostname.val = []) :
    { before with ip := reply.ip.val } = reply.record ↔ reply.Arrives before := by
  rw [eq_record_iff]
  constructor
  · rintro ⟨-, sameHostname, mapname, counts⟩
    exact ⟨fun none => absurd none ip, fun _ => sameHostname, fun _ => mapname, fun _ => counts,
      fun _ some => absurd hostname some⟩
  · intro arrives
    exact ⟨rfl, arrives.hostname (Or.inr hostname), arrives.mapname (Or.inr (Or.inl hostname)),
      arrives.counts (Or.inr (Or.inl hostname))⟩

/-- Without a map name the counts are not stored. -/
theorem arrives_iff_noMapname (ip : reply.ip.val ≠ []) (hostname : reply.hostname.val ≠ [])
    (mapname : reply.mapname.val = []) :
    { before with ip := reply.ip.val, hostname := reply.hostname.val } = reply.record ↔
      reply.Arrives before := by
  rw [eq_record_iff]
  constructor
  · rintro ⟨-, -, sameMapname, counts⟩
    refine ⟨fun none => absurd none ip, fun none => ?_, fun _ => sameMapname, fun _ => counts,
      fun _ _ some => absurd mapname some⟩
    exact absurd none (not_or.mpr ⟨ip, hostname⟩)
  · intro arrives
    exact ⟨rfl, rfl, arrives.mapname (Or.inr (Or.inr mapname)),
      arrives.counts (Or.inr (Or.inr mapname))⟩

/-- With all three texts everything is stored, the counts as `char`s. -/
theorem arrives_iff_full (ip : reply.ip.val ≠ []) (hostname : reply.hostname.val ≠ [])
    (mapname : reply.mapname.val ≠ []) :
    ({ ip := reply.ip, hostname := reply.hostname, mapname := reply.mapname
       users := charInt [reply.users], maxusers := charInt [reply.maxusers]
       protocol := charInt [reply.protocol] } : NetquakeData) = reply.record ↔
      reply.Arrives before := by
  have full : ¬ (reply.ip.val = [] ∨ reply.hostname.val = [] ∨ reply.mapname.val = []) :=
    not_or.mpr ⟨ip, not_or.mpr ⟨hostname, mapname⟩⟩
  rw [eq_record_iff]
  simp only [charInt_eq_toNat, true_and]
  constructor
  · intro small
    refine ⟨fun none => absurd none ip, fun none => ?_, fun none => absurd none full,
      fun none => absurd none full, fun _ _ _ => small⟩
    exact absurd none (not_or.mpr ⟨ip, hostname⟩)
  · intro arrives
    exact arrives.plain ip hostname mapname

/-- The record afterwards is the reply's exactly when the whole reply arrives. -/
theorem parseNQData_eq_record_iff {header : List UInt8} (size : header.length = 5) :
    parseNQData (reply.packet header) before (reply.packet header).length 6 = reply.record ↔
      reply.Arrives before := by
  rw [parseNQData_packet reply before size]
  split_ifs with ip hostname mapname
  · exact arrives_iff_noIp reply before ip
  · exact arrives_iff_noHostname reply before ip hostname
  · exact arrives_iff_noMapname reply before ip hostname mapname
  · exact arrives_iff_full reply before ip hostname mapname

end NQReply

/-- `Ack` hands every such reply to `Parse_NQData`. -/
theorem NQReply.isNQReply (reply : NQReply) {header : List UInt8} (known : IsNQHeader header) :
    IsNQReply (reply.packet header) := by
  have size : header.length = 5 := by
    rcases known with rfl | rfl <;> rfl
  have long := reply.packet_length header
  have ip := reply.ip.property.2
  have hostname := reply.hostname.property.2
  have mapname := reply.mapname.property.2
  have maxstr : netquakeMaxstr = 64 := rfl
  refine ⟨by omega, by omega, ?_⟩
  have front : memcmpEq (reply.packet header) header = true := by
    rw [memcmpEq, packet, beq_iff_eq, List.takeD_eq_take _ (by simp), List.take_left]
  rcases known with rfl | rfl
  · exact Or.inl front
  · exact Or.inr front

/--
`Ack` stores what `Parse_NQData` makes of a reply, and that is the six values of
the reply exactly when the whole reply arrives.
-/
theorem netQuakeReply_whole_iff (reply : NQReply) (header : List UInt8)
    (known : IsNQHeader header) (server : Server) :
    (legacyReply (reply.packet header) (reply.packet header).length.toUInt64 server).nqData =
        parseNQData (reply.packet header) server.nqData (reply.packet header).length 6 ∧
      (parseNQData (reply.packet header) server.nqData (reply.packet header).length 6 =
        reply.record ↔ reply.Arrives server.nqData) := by
  have size : header.length = 5 := by
    rcases known with rfl | rfl <;> rfl
  refine ⟨?_, reply.parseNQData_eq_record_iff server.nqData size⟩
  rw [(reply.isNQReply known).legacyReply server]

/-- A server without a host name. -/
def namelessReply : NQReply where
  ip := ⟨ascii "10.0.0.2", by decide⟩
  hostname := ⟨[], by decide⟩
  mapname := ⟨ascii "e1m1", by decide⟩
  users := 1
  maxusers := 8
  protocol := 3

theorem netQuakeReply_whole_iff_nameless :
    parseNQData (namelessReply.packet quake1ServerinfoReply) namelessReply.record
      (namelessReply.packet quake1ServerinfoReply).length 6 = namelessReply.record := by
  have again : namelessReply.Arrives
      ({ Server.zero with nqData := namelessReply.record } : Server).nqData :=
    ⟨fun none => absurd none (by decide), fun _ => rfl, fun _ => rfl, fun _ => ⟨rfl, rfl, rfl⟩,
      fun _ some => absurd rfl some⟩
  exact (netQuakeReply_whole_iff namelessReply quake1ServerinfoReply (Or.inr rfl)
    { Server.zero with nqData := namelessReply.record }).2.mpr again

/-- The map and the counts of a server without a host name are not stored. -/
theorem netQuakeReply_not_whole :
    ¬ ∀ (reply : NQReply) (header : List UInt8), IsNQHeader header → ∀ server : Server,
      (legacyReply (reply.packet header) (reply.packet header).length.toUInt64 server).nqData =
        reply.record := by
  intro always
  have whole := always namelessReply quake1ServerinfoReply (Or.inr rfl) .zero
  revert whole
  decide

end GSMaster.Registry
