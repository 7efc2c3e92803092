import GSMaster.Packets.Exchange
import GSMaster.Registry.MasterList

/-!
# The two headers of a QuakeWorld list

`ParseResponse` takes both headers for the same and reads the records from one
fixed offset. The newline of the first header has been shifted out by then. The
zero of the second has stopped the clean-up and is still there, so it is read
as the first byte of the first record, and every record is read a byte early.
-/

namespace GSMaster.Packets

open GSMaster.Text GSMaster.Net GSMaster.Lists GSMaster.Registry

/-- The registry after the operation that `ParseResponse` asks for, if it asks for one. -/
def registryAfter (cfg : Config) (env : Nat → Env) (sender : SockaddrIn) (received : List UInt8)
    (reg : ServerList) : Option ServerList :=
  ((parseResponse sender received).operation sender).bind fun op => exec cfg env op reg

/-- Whatever the registry holds, it does not matter which header the records stand behind. -/
def RegistriesAgree (records : List UInt8) : Prop :=
  ∀ cfg env sender reg, registryAfter cfg env sender (qwReplyHdr ++ records) reg =
    registryAfter cfg env sender (qwReplyHdr2 ++ records) reg

/-- The list that is parsed begins with the records that stand behind the header. -/
def StartsBehind (header records : List UInt8) : Prop :=
  ∀ sender, ∃ tmp size, parseResponse sender (header ++ records) =
    .parseUDPMSList tmp (ascii "quakeworld") size ∧ records <+: tmp

/-- The two headers mean the same. -/
structure HeadersAgree (records : List UInt8) : Prop where
  registries : RegistriesAgree records
  newlineStart : StartsBehind qwReplyHdr records
  nulStart : StartsBehind qwReplyHdr2 records

/-- Every record ends with three zero bytes: it has no port, and an address that ends in zero. -/
def Portless (records : List UInt8) : Prop :=
  ∀ i, (msRecord records i).getD 3 0 = 0 ∧ (msRecord records i).getD 4 0 = 0 ∧
    (msRecord records i).getD 5 0 = 0

/-! ## What is parsed -/

theorem parseResponse_eq {sender : SockaddrIn} {received : List UInt8}
    (long : 4 < received.length) :
    parseResponse sender received = parseUDPPacket sender received := by
  rw [parseUDPPacket, if_pos long]

theorem untouched_plain {bytes : List UInt8} (plain : newline ∉ bytes) : Untouched bytes := by
  intro before after split
  refine absurd ?_ plain
  rw [split]
  exact List.mem_append_right _ (List.mem_cons_self ..)

/-- Behind the newline the list begins with the records. -/
theorem parseResponse_newline (sender : SockaddrIn) {records : List UInt8}
    (whole : 6 ∣ records.length) (plain : newline ∉ records) :
    ∃ tmp, parseResponse sender (qwReplyHdr ++ records) =
      .parseUDPMSList tmp (ascii "quakeworld") records.length ∧ records <+: tmp := by
  match records, whole, plain with
  | [], _, _ => exact ⟨[newline], rfl, List.nil_prefix⟩
  | [_], whole, _ => exact absurd (show 6 ∣ 1 from whole) (by decide)
  | [_, _], whole, _ => exact absurd (show 6 ∣ 2 from whole) (by decide)
  | x :: y :: z :: more, _, plain =>
      have long : 4 < (qwReplyHdr ++ x :: y :: z :: more).length := by
        rw [List.length_append]
        exact Nat.lt_of_lt_of_le (by decide) (Nat.le_add_right 6 _)
      refine ⟨shifted x y (z :: more), ?_, ?_⟩
      · rw [parseResponse_eq long]
        exact parseUDPPacket_quakeworld sender x y (z :: more)
      · have kept := (shifted_eq_iff x y z more).mpr
          (untouched_plain fun member =>
          plain (List.mem_cons_of_mem _ (List.mem_cons_of_mem _ member)))
        exact kept ▸ List.take_prefix ..

/-- The zero of the other header is the first byte of the list. -/
theorem parseResponse_nul (sender : SockaddrIn) (records : List UInt8) :
    parseResponse sender (qwReplyHdr2 ++ records) =
      .parseUDPMSList (0 :: records) (ascii "quakeworld") records.length := by
  have plain : ∀ c ∈ ([255, 255, 255, 255, 100] : List UInt8), c ≠ 0 ∧ c ≠ newline := by
    simp [newline]
  have long : 4 < (qwReplyHdr2 ++ records).length := by
    rw [List.length_append]
    exact Nat.lt_of_lt_of_le (by decide) (Nat.le_add_right 6 _)
  have cleaned : cleanNewlines (qwReplyHdr2 ++ records) =
      [255, 255, 255, 255, 100] ++ 0 :: records := by
    have length : (qwReplyHdr2 ++ records).length =
        ([255, 255, 255, 255, 100] : List UInt8).length + (records.length + 1) := by
      rw [List.length_append, Nat.add_comm records.length, ← Nat.add_assoc]
      rfl
    rw [cleanNewlines, length]
    exact (cleanLoop_append plain _ (0 :: records)).trans (by rw [cleanLoop_zero])
  have starts := startsWith_append (fun c member => (plain c member).1) (0 :: records)
  have quake2 := starts q2ReplyHdr 11
  have kingpin := starts kpReplyHdr 7
  have hexenworld := starts hwReplyHdr 6
  have quakeworld := starts qwReplyHdr 5
  have size : listSize ([255, 255, 255, 255, 100] ++ 0 :: records).length 6 = records.length := by
    rw [listSize, List.length_append, List.length_cons]
    simp only [List.length_cons, List.length_nil]
    omega
  rw [parseResponse_eq long]
  refine parseUDPPacket_outOfBand long cleaned ?_
  change parseOutOfBand sender ([255, 255, 255, 255, 100] ++ 0 :: records) = _
  unfold parseOutOfBand
  simp only [size]
  rw [if_neg (quake2 ▸ Bool.false_ne_true), if_neg (kingpin ▸ Bool.false_ne_true),
    if_neg (hexenworld ▸ Bool.false_ne_true), if_pos (by rw [quakeworld]; rfl)]
  rfl

/-- A list is read to the end of its complete records. -/
theorem parseUDPMSList_prefix {env : Nat → Env} {records tmp : List UInt8}
    (whole : 6 ∣ records.length) (front : records <+: tmp) (gamename : CString) :
    parseUDPMSList env tmp gamename records.length =
      parseUDPMSList env records gamename records.length := by
  obtain ⟨rest, rfl⟩ := front
  refine parseUDPMSList_reads ?_
  rw [Int.toNat_natCast, Nat.mul_div_cancel' whole, List.take_left, List.take_length]

theorem registriesAgree_iff_calls {records : List UInt8} (whole : 6 ∣ records.length)
    (plain : newline ∉ records) :
    RegistriesAgree records ↔ ∀ cfg env reg,
      addServers cfg (parseUDPMSList env records (ascii "quakeworld") records.length) reg =
        addServers cfg (parseUDPMSList env (0 :: records) (ascii "quakeworld") records.length)
          reg := by
  have after (cfg : Config) (env : Nat → Env) (sender : SockaddrIn) (reg : ServerList) :
      registryAfter cfg env sender (qwReplyHdr ++ records) reg =
          some (addServers cfg (parseUDPMSList env records (ascii "quakeworld") records.length)
            reg) ∧
        registryAfter cfg env sender (qwReplyHdr2 ++ records) reg =
          some (addServers cfg (parseUDPMSList env (0 :: records) (ascii "quakeworld")
            records.length) reg) := by
    obtain ⟨tmp, parsed, front⟩ := parseResponse_newline sender whole plain
    constructor
    · rw [← parseUDPMSList_prefix whole front, registryAfter, parsed]
      rfl
    · rw [registryAfter, parseResponse_nul]
      rfl
  constructor
  · intro agree cfg env reg
    have same := agree cfg env ⟨⟨0, 0, 0, 0⟩, 0⟩ reg
    rw [(after cfg env _ reg).1, (after cfg env _ reg).2] at same
    exact Option.some.inj same
  · intro same cfg env sender reg
    rw [(after cfg env sender reg).1, (after cfg env sender reg).2, same]

/-! ## One record at a time -/

/-- Surroundings in which only the name of one record resolves. -/
def onlyRecord (i : Nat) : Nat → Env :=
  fun j => if j = i then quadEnv else quietEnv

theorem filterMap_range_only {α : Type} (found : Option α) {i count : Nat} (inside : i < count) :
    (List.range count).filterMap (fun j => if j = i then found else none) = found.toList := by
  induction count with
  | zero => exact absurd inside (Nat.not_lt_zero i)
  | succ count ih =>
      rw [List.range_succ, List.filterMap_append]
      by_cases last : count = i
      · subst last
        have early : (List.range count).filterMap (fun j => if j = count then found else none) =
            [] := by
          rw [List.filterMap_eq_nil_iff]
          exact fun j member => if_neg (Nat.ne_of_lt (List.mem_range.mp member))
        rw [early, List.nil_append]
        cases found with
        | none => simp
        | some _ => simp
      · rw [ih (by omega)]
        simp [last]

theorem parseUDPMSList_onlyRecord {i : Nat} {size : Int} (inside : i < size.toNat / 6)
    (tmp : List UInt8) (gamename : CString) :
    parseUDPMSList (onlyRecord i) tmp gamename size =
      (udpRecordCall quadEnv gamename (msRecord tmp i)).toList := by
  rw [parseUDPMSList_eq, ← filterMap_range_only _ inside]
  refine List.filterMap_congr fun j _ => ?_
  unfold onlyRecord
  by_cases here : j = i
  · rw [if_pos here, if_pos here, here]
  · rw [if_neg here, if_neg here]
    rfl

/-- The key under which the server of a record is registered, if the record has a port. -/
def recordKey (record : List UInt8) : List ServerKey :=
  if recordPort record = 0 then []
  else [(recordAddr record, bytesShort (record.getD 4 0) (record.getD 5 0))]

theorem addServers_record (cfg : Config) (record : List UInt8) :
    (addServers cfg (udpRecordCall quadEnv (ascii "quakeworld") record).toList
      ServerList.initial).servers.map Server.key = recordKey record := by
  have call : udpRecordCall quadEnv (ascii "quakeworld") record =
      some (quadEnv, ⟨⟨recordAddr record, htons (recordPort record)⟩, true,
        htons (recordPort record), some (ascii "quakeworld"),
        some (inetNtoa (recordAddr record))⟩) := by
    rw [udpRecordCall, quadEnv_resolves 0]
    rfl
  have port : htons (recordPort record) = bytesShort (record.getD 4 0) (record.getD 5 0) :=
    htons_ntohs _
  unfold recordKey
  rw [call]
  by_cases zero : recordPort record = 0
  · rw [if_pos zero, zero]
    rfl
  · rw [if_neg zero, ← port]
    have nonzero : htons (recordPort record) ≠ 0 := fun same => zero (htons_inj.mp same)
    have accepted (sender : SockaddrIn) (name : Option CString) :
        AddCall.accepted ⟨sender, true, htons (recordPort record), some (ascii "quakeworld"),
          name⟩ = some (ascii "quakeworld") := by
      unfold AddCall.accepted
      simp only
      rw [if_neg (by decide), if_neg nonzero, if_neg (by decide)]
    change (addServer cfg quadEnv _ ServerList.initial).servers.map Server.key = _
    unfold addServer
    rw [accepted]
    rfl

theorem recordPort_eq_zero {record : List UInt8} :
    recordPort record = 0 ↔ record.getD 4 0 = 0 ∧ record.getD 5 0 = 0 := by
  have high := (record.getD 4 0).toNat_lt
  have low := (record.getD 5 0).toNat_lt
  rw [← UInt16.toNat_inj, recordPort_toNat, msPort, ← UInt8.toNat_inj, ← UInt8.toNat_inj]
  change _ = 0 ↔ _ = 0 ∧ _ = 0
  omega

/-- Byte `k` of a record that is read one byte early. -/
theorem msRecord_early (records : List UInt8) (i k : Nat) :
    (msRecord (0 :: records) i).getD (k + 1) 0 = (msRecord records i).getD k 0 := by
  simp only [msRecord, List.getD_eq_getElem?_getD, List.getElem?_drop]
  rw [← Nat.add_assoc, List.getElem?_cons_succ]

/-- Its first byte is the last of the record before. -/
theorem msRecord_early_zero (records : List UInt8) (i : Nat) :
    (msRecord (0 :: records) (i + 1)).getD 0 0 = (msRecord records i).getD 5 0 := by
  simp only [msRecord, List.getD_eq_getElem?_getD, List.getElem?_drop]
  rw [show 6 * (i + 1) + 0 = 6 * i + 5 + 1 by omega, List.getElem?_cons_succ]

/-- A record is taken for the one a byte early only if neither has a port. -/
theorem recordKey_early {records : List UInt8} {i : Nat}
    (first : (msRecord (0 :: records) i).getD 0 0 = 0)
    (same : recordKey (msRecord records i) = recordKey (msRecord (0 :: records) i)) :
    (msRecord records i).getD 3 0 = 0 ∧ (msRecord records i).getD 4 0 = 0 ∧
      (msRecord records i).getD 5 0 = 0 := by
  have early : recordPort (msRecord (0 :: records) i) = 0 ↔ _ := recordPort_eq_zero
  rw [msRecord_early, msRecord_early] at early
  unfold recordKey at same
  by_cases port : recordPort (msRecord records i) = 0
  · rw [if_pos port] at same
    obtain ⟨high, low⟩ := recordPort_eq_zero.mp port
    by_cases earlyPort : recordPort (msRecord (0 :: records) i) = 0
    · exact ⟨(early.mp earlyPort).1, high, low⟩
    · rw [if_neg earlyPort] at same
      cases same
  · rw [if_neg port] at same
    by_cases earlyPort : recordPort (msRecord (0 :: records) i) = 0
    · rw [if_pos earlyPort] at same
      cases same
    · rw [if_neg earlyPort] at same
      obtain ⟨addr, ports⟩ := Prod.mk.inj (List.cons.inj same).1
      simp only [recordAddr, InAddr.mk.injEq, msRecord_early, first] at addr
      have bytes := congrArg shortBytes ports
      simp only [shortBytes_bytesShort, msRecord_early, List.cons.injEq] at bytes
      -- Each byte is the one before it, and the first is zero.
      obtain ⟨b0, b1, b2, b3⟩ := addr
      obtain ⟨b4, b5, -⟩ := bytes
      rw [b2, b1, b0] at b3
      rw [b3] at b4
      rw [b4] at b5
      exact ⟨b3, b4, b5⟩

/-! ## The registries -/

/-- Calls that are not accepted leave the registry as it is. -/
theorem addServers_rejected (cfg : Config) {calls : List (Env × AddCall)}
    (rejected : ∀ call ∈ calls, call.2.accepted = none) (reg : ServerList) :
    addServers cfg calls reg = reg := by
  induction calls with
  | nil => rfl
  | cons call calls ih =>
      have unchanged : addServer cfg call.1 call.2 reg = reg := by
        rw [addServer, rejected call (List.mem_cons_self ..)]
      change addServers cfg calls (addServer cfg call.1 call.2 reg) = reg
      rw [unchanged]
      exact ih fun later member => rejected later (List.mem_cons_of_mem _ member)

theorem addServers_portless (cfg : Config) (env : Nat → Env) {tmp : List UInt8}
    (portless : ∀ i, recordPort (msRecord tmp i) = 0) (size : Int) (reg : ServerList) :
    addServers cfg (parseUDPMSList env tmp (ascii "quakeworld") size) reg = reg := by
  refine addServers_rejected cfg (fun call member => ?_) reg
  rw [parseUDPMSList_eq] at member
  obtain ⟨i, -, called⟩ := List.mem_filterMap.mp member
  obtain ⟨addr, -, rfl⟩ := Option.map_eq_some_iff.mp called
  simp only [portless]
  rfl

theorem msRecord_outside {records : List UInt8} {i : Nat} (outside : records.length ≤ 6 * i) :
    msRecord records i = [] :=
  List.drop_eq_nil_of_le outside

theorem recordKey_early_of_agree {records : List UInt8} {i : Nat} (whole : 6 ∣ records.length)
    (agree : ∀ cfg env reg,
      addServers cfg (parseUDPMSList env records (ascii "quakeworld") records.length) reg =
        addServers cfg (parseUDPMSList env (0 :: records) (ascii "quakeworld") records.length) reg)
    (first : (msRecord (0 :: records) i).getD 0 0 = 0) :
    (msRecord records i).getD 3 0 = 0 ∧ (msRecord records i).getD 4 0 = 0 ∧
      (msRecord records i).getD 5 0 = 0 := by
  by_cases inside : i < records.length / 6
  · refine recordKey_early first ?_
    have same := agree defaultConfig (onlyRecord i) ServerList.initial
    rw [parseUDPMSList_onlyRecord inside, parseUDPMSList_onlyRecord inside] at same
    rw [← addServers_record defaultConfig, same, addServers_record]
  · rw [msRecord_outside (by omega)]
    exact ⟨rfl, rfl, rfl⟩

/-- The registries agree exactly where neither header makes anything of the records. -/
theorem registriesAgree_iff {records : List UInt8} (whole : 6 ∣ records.length)
    (plain : newline ∉ records) : RegistriesAgree records ↔ Portless records := by
  rw [registriesAgree_iff_calls whole plain]
  constructor
  · intro agree i
    -- The byte in front of a record is zero if the record before it ends with zero bytes.
    induction i with
    | zero => exact recordKey_early_of_agree whole agree rfl
    | succ i ih =>
        have first := (msRecord_early_zero records i).trans ih.2.2
        exact recordKey_early_of_agree whole agree first
  · intro portless cfg env reg
    have behind (i : Nat) : recordPort (msRecord records i) = 0 :=
      recordPort_eq_zero.mpr (portless i).2
    have early (i : Nat) : recordPort (msRecord (0 :: records) i) = 0 := by
      rw [recordPort_eq_zero, msRecord_early, msRecord_early]
      exact ⟨(portless i).1, (portless i).2.1⟩
    rw [addServers_portless cfg env behind, addServers_portless cfg env early]

/-! ## The headers -/

/-- A text is its own continuation only if it repeats its first byte. -/
theorem eq_of_prefix_cons {first : UInt8} {bytes : List UInt8} (front : bytes <+: first :: bytes) :
    ∀ c ∈ bytes, c = first := by
  induction bytes with
  | nil => exact fun c member => absurd member List.not_mem_nil
  | cons c rest ih =>
      obtain ⟨rfl, later⟩ := List.cons_prefix_cons.mp front
      intro d member
      rcases List.mem_cons.mp member with rfl | member
      · rfl
      · exact ih later d member

/--
The two headers mean the same exactly for records of zero bytes alone, and they
leave the same registry exactly for records that register nothing.
-/
theorem headersAgree_iff (records : List UInt8) (whole : 6 ∣ records.length)
    (plain : newline ∉ records) :
    (HeadersAgree records ↔ ∀ c ∈ records, c = 0) ∧
      (RegistriesAgree records ↔ Portless records) := by
  have registries := registriesAgree_iff whole plain
  refine ⟨⟨fun agree => ?_, fun zeros => ?_⟩, registries⟩
  · obtain ⟨tmp, size, parsed, front⟩ := agree.nulStart ⟨⟨0, 0, 0, 0⟩, 0⟩
    rw [parseResponse_nul] at parsed
    cases parsed
    exact eq_of_prefix_cons front
  · have zero (i k : Nat) : (msRecord records i).getD k 0 = 0 := by
      rw [msRecord, List.getD_eq_getElem?_getD, List.getElem?_drop]
      cases found : records[6 * i + k]? with
      | none => rfl
      | some c => exact zeros c (List.mem_of_getElem? found)
    refine ⟨registries.mpr fun i => ⟨zero i 3, zero i 4, zero i 5⟩, fun sender => ?_,
      fun sender => ⟨_, _, parseResponse_nul sender records, ?_⟩⟩
    · obtain ⟨tmp, parsed, front⟩ := parseResponse_newline sender whole plain
      exact ⟨tmp, _, parsed, front⟩
    · rw [List.eq_replicate_of_mem zeros, ← List.replicate_succ, List.replicate_succ']
      exact List.prefix_append ..

theorem headersAgree_iff_zero : HeadersAgree [0, 0, 0, 0, 0, 0] :=
  (headersAgree_iff [0, 0, 0, 0, 0, 0] (by decide) (by decide)).1.mpr (by simp)

/-- A server at 192.0.2.1 is registered at 0.192.0.2 behind the other header. -/
theorem headers_disagree :
    ¬ ∀ records : List UInt8, 6 ∣ records.length → newline ∉ records → HeadersAgree records := by
  intro always
  have agree := (always [192, 0, 2, 1, 109, 6] (by decide) (by decide)).registries defaultConfig
    (fun _ => quadEnv) quake2Server ServerList.initial
  have keys := congrArg (Option.map fun reg => reg.servers.map Server.key) agree
  revert keys
  decide +kernel

end GSMaster.Packets
