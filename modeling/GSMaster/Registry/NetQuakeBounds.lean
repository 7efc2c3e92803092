import GSMaster.Registry.AckBounds
import GSMaster.Text.Decimal

/-!
# The texts of a NetQuake reply

`Parse_NQData` copies three texts one after another, each to the end that it
finds for itself. It compares running lengths with the length of the datagram,
never a text with its field, and what it compares leaves out the header and the
first text, so no comparison ever fails.
-/

namespace GSMaster.Registry

open GSMaster.Text

/-- The fields of `netquake_data_s` that are texts. -/
inductive NQField where
  | ip
  | hostname
  | mapname
  deriving DecidableEq, Repr

/-- A byte of the packet that is read, or a byte of a field that is stored. -/
inductive NQAccess where
  | read (position : Nat)
  | store (field : NQField) (position : Nat)
  deriving DecidableEq, Repr

/-- Reads are inside the datagram or at the zero behind it, and stores are inside their field. -/
def NQAccess.Inside (dglen : Nat) : NQAccess → Prop
  | read position => position ≤ dglen
  | store _ position => position < netquakeMaxstr

/-- The accesses of `strlen`. -/
def strlenAccesses (data : List UInt8) (start : Nat) : List NQAccess :=
  (List.range ((cstr (data.drop start)).length + 1)).map fun i => .read (start + i)

/-- The accesses of `strcpy`. -/
def strcpyAccesses (field : NQField) (data : List UInt8) (start : Nat) : List NQAccess :=
  (List.range ((cstr (data.drop start)).length + 1)).flatMap fun i =>
    [.read (start + i), .store field i]

/-- The accesses of the last three fields. -/
def countAccesses (start dglen totallen : Nat) : List NQAccess :=
  if totallen < dglen then
    .read start ::
      if totallen + 1 < dglen then
        .read (start + 1) :: if totallen + 2 < dglen then [.read (start + 2)] else []
      else []
  else []

/-- The accesses of `Parse_NQData`, in order. -/
def parseNQAccesses (data : List UInt8) (dglen offset : Nat) : List NQAccess :=
  let start := offset - 1
  let ip := cstr (data.drop start)
  strlenAccesses data start ++
    if ip.length = 0 then []
    else strcpyAccesses .ip data start ++
      if ip.length + 1 < dglen then
        let start := start + (ip.length + 1)
        let hostname := cstr (data.drop start)
        strlenAccesses data start ++
          if hostname.length = 0 then []
          else if hostname.length < dglen then
            strcpyAccesses .hostname data start ++
              let start := start + (hostname.length + 1)
              let mapname := cstr (data.drop start)
              strlenAccesses data start ++
                if mapname.length = 0 then []
                else if hostname.length + mapname.length < dglen then
                  strcpyAccesses .mapname data start ++
                    countAccesses (start + (mapname.length + 1)) dglen
                      (hostname.length + mapname.length + 1)
                else []
          else []
      else []

/-- Everything that is accessed is inside. -/
def NQAccessesInside (dglen : Nat) (accesses : List NQAccess) : Prop :=
  ∀ access ∈ accesses, access.Inside dglen

/-! ## Replies -/

/-- A packet that `Ack` hands to `Parse_NQData`. -/
structure IsNQReply (dataPacket : List UInt8) : Prop where
  long : 6 < dataPacket.length
  short : dataPacket.length ≤ 65507
  header : memcmpEq dataPacket hexen2ServerinfoReply = true ∨
    memcmpEq dataPacket quake1ServerinfoReply = true

/--
The texts behind the header fit: each is shorter than its field and ends in the
datagram, and two bytes at least stand behind the last. A text that is empty is
the last that is looked at.
-/
def NQTextsFit (dataPacket : List UInt8) : Prop :=
  let ip := cstr (dataPacket.drop 5)
  let hostname := cstr (dataPacket.drop (ip.length + 6))
  let mapname := cstr (dataPacket.drop (ip.length + hostname.length + 7))
  ip = [] ∨ (ip.length < netquakeMaxstr ∧ ip.length + 6 ≤ dataPacket.length ∧
    (hostname = [] ∨ (hostname.length < netquakeMaxstr ∧
      ip.length + hostname.length + 7 ≤ dataPacket.length ∧
      (mapname = [] ∨ (mapname.length < netquakeMaxstr ∧
        ip.length + hostname.length + mapname.length + 10 ≤ dataPacket.length)))))

/-- `Ack` hands the packet over with its own length. -/
theorem IsNQReply.legacyReply {dataPacket : List UInt8} (reply : IsNQReply dataPacket)
    (server : Server) :
    legacyReply dataPacket dataPacket.length.toUInt64 server =
      { server with nqData := parseNQData dataPacket server.nqData dataPacket.length 6 } := by
  have size : dataPacket.length.toUInt64.toNat = dataPacket.length :=
    UInt64.toNat_ofNat_of_lt' (Nat.lt_of_le_of_lt reply.short (by decide))
  have long : 6 < dataPacket.length.toUInt64 := by
    rw [UInt64.lt_iff_toNat_lt, size]
    exact reply.long
  have print : memcmpEq dataPacket printstring = false := by
    refine Bool.eq_false_iff.mpr fun same => ?_
    have first := (beq_iff_eq.mp same).symm
    have other (header : List UInt8) (here : memcmpEq dataPacket header = true) :
        header = dataPacket.takeD header.length 0 := (beq_iff_eq.mp here).symm
    match dataPacket, reply.long with
    | c :: _, _ =>
        have text : (255 : UInt8) = c := (List.cons.inj first).1
        rcases reply.header with here | here
        · exact absurd (text.trans (List.cons.inj (other _ here)).1.symm) (by decide)
        · exact absurd (text.trans (List.cons.inj (other _ here)).1.symm) (by decide)
  rw [Registry.legacyReply, if_pos long, print, size]
  rcases reply.header with hexen2 | quake1
  · simp [hexen2]
  · cases memcmpEq dataPacket hexen2ServerinfoReply <;> simp [quake1]

/-! ## What is accessed -/

section Inside

variable {dglen : Nat}

@[simp] theorem nqAccessesInside_nil : NQAccessesInside dglen [] := by
  simp [NQAccessesInside]

@[simp] theorem nqAccessesInside_cons (access : NQAccess) (accesses : List NQAccess) :
    NQAccessesInside dglen (access :: accesses) ↔
      access.Inside dglen ∧ NQAccessesInside dglen accesses := by
  simp [NQAccessesInside]

@[simp] theorem nqAccessesInside_append (first second : List NQAccess) :
    NQAccessesInside dglen (first ++ second) ↔
      NQAccessesInside dglen first ∧ NQAccessesInside dglen second := by
  simp [NQAccessesInside, or_imp, forall_and]

/-- A text is read up to its end. -/
@[simp] theorem strlenAccesses_inside_iff (data : List UInt8) (start : Nat) :
    NQAccessesInside dglen (strlenAccesses data start) ↔
      start + (cstr (data.drop start)).length ≤ dglen := by
  simp only [NQAccessesInside, strlenAccesses, List.forall_mem_map, List.mem_range,
    NQAccess.Inside]
  constructor
  · exact fun all => all _ (Nat.lt_succ_self _)
  · intro last i inside
    omega

/-- A text is stored up to its end. -/
@[simp] theorem strcpyAccesses_inside_iff (field : NQField) (data : List UInt8) (start : Nat) :
    NQAccessesInside dglen (strcpyAccesses field data start) ↔
      start + (cstr (data.drop start)).length ≤ dglen ∧
        (cstr (data.drop start)).length < netquakeMaxstr := by
  simp only [NQAccessesInside, strcpyAccesses, List.forall_mem_flatMap, List.mem_range,
    List.forall_mem_cons, List.not_mem_nil, false_implies, implies_true, and_true,
    NQAccess.Inside]
  constructor
  · exact fun all => all _ (Nat.lt_succ_self _)
  · intro last i inside
    omega

end Inside

/-- A text that starts in the datagram or at the zero behind it ends there. -/
theorem text_end_iff (data : List UInt8) (start : Nat) :
    start + (cstr (data.drop start)).length ≤ data.length ↔ start ≤ data.length := by
  have available := cstr_length_le (data.drop start)
  rw [List.length_drop] at available
  omega

@[simp] theorem countAccesses_inside_iff (start dglen totallen : Nat) :
    NQAccessesInside dglen (countAccesses start dglen totallen) ↔
      (totallen < dglen → start ≤ dglen) ∧ (totallen + 1 < dglen → start + 1 ≤ dglen) ∧
        (totallen + 2 < dglen → start + 2 ≤ dglen) := by
  unfold countAccesses
  split_ifs with users maxusers protocol
  · simp [users, maxusers, protocol, NQAccess.Inside]
  · simp [users, maxusers, protocol, NQAccess.Inside]
  · have later : ¬ totallen + 2 < dglen := by omega
    simp [users, maxusers, later, NQAccess.Inside]
  · have next : ¬ totallen + 1 < dglen := by omega
    have later : ¬ totallen + 2 < dglen := by omega
    simp [users, next, later]

/-- Where nothing more is compared, a text that is not empty is copied and the next one follows. -/
theorem text_inside_iff (field : NQField) (data : List UInt8) (start : Nat)
    (rest : List NQAccess) :
    NQAccessesInside data.length (strlenAccesses data start ++
        if (cstr (data.drop start)).length = 0 then []
        else strcpyAccesses field data start ++ rest) ↔
      start ≤ data.length ∧ (cstr (data.drop start) = [] ∨
        (cstr (data.drop start)).length < netquakeMaxstr ∧ NQAccessesInside data.length rest) := by
  have ends := text_end_iff data start
  rw [nqAccessesInside_append, strlenAccesses_inside_iff, ends]
  refine and_congr_right fun starts => ?_
  by_cases empty : cstr (data.drop start) = []
  · simp [empty]
  · rw [if_neg (mt List.length_eq_zero_iff.mp empty), or_iff_right empty,
      nqAccessesInside_append, strcpyAccesses_inside_iff, ends, and_iff_right starts]

/-- No comparison of `Parse_NQData` fails, so everything is inside exactly when the texts fit. -/
theorem parseNQAccesses_inside_iff {data : List UInt8} (long : 6 < data.length) :
    NQAccessesInside data.length (parseNQAccesses data data.length 6) ↔ NQTextsFit data := by
  have available (start : Nat) : (cstr (data.drop start)).length ≤ data.length - start :=
    (cstr_length_le _).trans_eq List.length_drop
  unfold parseNQAccesses NQTextsFit
  simp only [Nat.add_one_sub_one]
  have secondStart (ip : CString) : 5 + (ip.length + 1) = ip.length + 6 := by omega
  have thirdStart (ip hostname : CString) :
      ip.length + 6 + (hostname.length + 1) = ip.length + hostname.length + 7 := by omega
  simp only [secondStart, thirdStart]
  have first := available 5
  have second := available ((cstr (data.drop 5)).length + 6)
  have third := available ((cstr (data.drop 5)).length +
    (cstr (data.drop ((cstr (data.drop 5)).length + 6))).length + 7)
  have hostnamePasses :
      (cstr (data.drop ((cstr (data.drop 5)).length + 6))).length < data.length := by omega
  have mapnamePasses : (cstr (data.drop ((cstr (data.drop 5)).length + 6))).length +
      (cstr (data.drop ((cstr (data.drop 5)).length +
        (cstr (data.drop ((cstr (data.drop 5)).length + 6))).length + 7))).length <
        data.length := by omega
  rw [text_inside_iff, if_pos (by omega), if_pos hostnamePasses, text_inside_iff,
    if_pos mapnamePasses, text_inside_iff, countAccesses_inside_iff]
  generalize cstr (data.drop 5) = ip at *
  generalize cstr (data.drop (ip.length + 6)) = hostname at *
  generalize cstr (data.drop (ip.length + hostname.length + 7)) = mapname at *
  refine (and_iff_right (by omega)).trans (or_congr_right' fun ipSome => ?_)
  refine and_congr_right fun ipShort => and_congr_right fun secondInside => ?_
  refine or_congr_right' fun hostnameSome => ?_
  refine and_congr_right fun hostnameShort => and_congr_right fun thirdInside => ?_
  refine or_congr_right' fun mapnameSome => and_congr_right fun mapnameShort => ?_
  have ipLong := List.length_pos_iff.mpr ipSome
  constructor
  · rintro ⟨-, -, protocol⟩
    have counted := protocol (by omega)
    omega
  · intro room
    exact ⟨fun _ => by omega, fun _ => by omega, fun _ => by omega⟩

/-! ## The stores alone -/

/-- Every store is inside its field. -/
def NQStoresInside (accesses : List NQAccess) : Prop :=
  ∀ field position, .store field position ∈ accesses → position < netquakeMaxstr

@[simp] theorem nqStoresInside_nil : NQStoresInside [] := by
  simp [NQStoresInside]

@[simp] theorem nqStoresInside_append (first second : List NQAccess) :
    NQStoresInside (first ++ second) ↔ NQStoresInside first ∧ NQStoresInside second := by
  simp [NQStoresInside, or_imp, forall_and]

@[simp] theorem strlenAccesses_stores (data : List UInt8) (start : Nat) :
    NQStoresInside (strlenAccesses data start) := by
  simp [NQStoresInside, strlenAccesses]

@[simp] theorem countAccesses_stores (start dglen totallen : Nat) :
    NQStoresInside (countAccesses start dglen totallen) := by
  unfold countAccesses
  split_ifs <;> simp [NQStoresInside]

@[simp] theorem strcpyAccesses_stores_iff (field : NQField) (data : List UInt8) (start : Nat) :
    NQStoresInside (strcpyAccesses field data start) ↔
      (cstr (data.drop start)).length < netquakeMaxstr := by
  simp only [NQStoresInside, strcpyAccesses, List.mem_flatMap, List.mem_range, List.mem_cons,
    List.not_mem_nil, or_false, reduceCtorEq, false_or, NQAccess.store.injEq]
  constructor
  · exact fun all => all field _ ⟨_, Nat.lt_succ_self _, rfl, rfl⟩
  · rintro short _ position ⟨i, inside, -, rfl⟩
    omega

/-- The stores are inside exactly when the copies of `Parse_NQData` fit. -/
theorem parseNQAccesses_stores_iff (data : List UInt8) (dglen offset : Nat) :
    NQStoresInside (parseNQAccesses data dglen offset) ↔
      parseNQDataFits data dglen offset = true := by
  have room : 0 < netquakeMaxstr := by decide
  unfold parseNQAccesses parseNQDataFits
  simp only [List.drop_drop, nqStoresInside_append, strlenAccesses_stores, true_and]
  split_ifs <;> simp [*]

/-! ## Two replies -/

/--
The accesses of `Parse_NQData` to a reply that `Ack` hands to it stay inside the
fields and inside the datagram exactly when the texts of the reply fit.
-/
theorem netQuakeReply_inside_iff {dataPacket : List UInt8} (reply : IsNQReply dataPacket)
    (server : Server) :
    legacyReply dataPacket dataPacket.length.toUInt64 server =
        { server with nqData := parseNQData dataPacket server.nqData dataPacket.length 6 } ∧
      (NQAccessesInside dataPacket.length (parseNQAccesses dataPacket dataPacket.length 6) ↔
        NQTextsFit dataPacket) :=
  ⟨reply.legacyReply server, parseNQAccesses_inside_iff reply.long⟩

/-- A reply of a Hexen II server. -/
def hexen2Reply : List UInt8 :=
  hexen2ServerinfoReply ++ ascii "10.0.0.2" ++ [0] ++ ascii "a host" ++ [0] ++ ascii "demo1" ++
    [0, 1, 8, 4]

theorem netQuakeReply_inside_iff_hexen2 :
    NQAccessesInside hexen2Reply.length (parseNQAccesses hexen2Reply hexen2Reply.length 6) := by
  have reply : IsNQReply hexen2Reply := ⟨by decide, by decide, by decide⟩
  refine (netQuakeReply_inside_iff reply .zero).2.mpr (Or.inr ?_)
  decide

/-- A text of 64 characters has its terminator stored behind the field. -/
theorem netQuakeReply_overruns : ¬ ∀ dataPacket : List UInt8, IsNQReply dataPacket →
    NQAccessesInside dataPacket.length (parseNQAccesses dataPacket dataPacket.length 6) := by
  intro always
  have reply : IsNQReply (quake1ServerinfoReply ++ List.replicate 64 97 ++ [0, 0]) :=
    ⟨by decide, by decide, by decide⟩
  rcases (parseNQAccesses_inside_iff reply.long).mp (always _ reply) with empty | ⟨short, -⟩
  · exact absurd empty (by decide)
  · exact absurd short (by decide)

end GSMaster.Registry
