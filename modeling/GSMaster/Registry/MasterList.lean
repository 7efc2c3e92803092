import GSMaster.Net.Resolver
import GSMaster.Registry.Invariant

/-!
# The records of a master list

`Parse_UDP_MS_List` decodes six-byte records. For kingpin it takes ten off the
port in the arithmetic of an `unsigned short`, and only `AddServer` looks at
the result: ten becomes the port that it rejects, less than ten a high port.
-/

namespace GSMaster.Registry

open GSMaster.Text GSMaster.Net GSMaster.Games

/-- The bytes from record `i` of a list on. -/
def msRecord (tmp : List UInt8) (i : Nat) : List UInt8 :=
  tmp.drop (6 * i)

/-- The port of a record, most significant byte first. -/
def msPort (record : List UInt8) : Nat :=
  (record.getD 4 0).toNat * 256 + (record.getD 5 0).toNat

def MsResolves (env : Env) (record : List UInt8) : Bool :=
  (env.gethostbyname (inetNtoa (recordAddr record))).isSome

/-- The complete records whose addresses resolve, in order. -/
def msResolved (env : Nat → Env) (tmp : List UInt8) (size : Int) : List Nat :=
  (List.range (size.toNat / 6)).filter fun i => MsResolves (env i) (msRecord tmp i)

/-- The port that a record stands for; there is none below the offset of kingpin. -/
def msListedPort (gamename : CString) (record : List UInt8) : Option Nat :=
  if stricmpEq gamename (ascii "kingpin") then
    if msPort record ≤ 10 then none else some (msPort record - 10)
  else some (msPort record)

/-- The call of `AddServer` for a record; it registers nothing where there is no port. -/
def DecodesRecord (gamename : CString) (record : List UInt8) (call : AddCall) : Prop :=
  call.sender.sinAddr = recordAddr record ∧ call.gamename = some gamename ∧
    match msListedPort gamename record with
    | some port => (ntohs call.queryPort).toNat = port
    | none => call.accepted = none

/-- The list is decoded record by record, from the bytes of its complete records alone. -/
structure DecodesList (env : Nat → Env) (tmp : List UInt8) (gamename : CString) (size : Int) :
    Prop where
  reads : ∀ other : List UInt8,
    other.take (6 * (size.toNat / 6)) = tmp.take (6 * (size.toNat / 6)) →
    parseUDPMSList env other gamename size = parseUDPMSList env tmp gamename size
  calls : List.Forall₂ (fun i (call : Env × AddCall) =>
      DecodesRecord gamename (msRecord tmp i) call.2)
    (msResolved env tmp size) (parseUDPMSList env tmp gamename size)

/-- The resolver returns the address that a dotted quad writes out, or nothing. -/
def KnowsDottedQuads (env : Env) : Prop :=
  ∀ addr found, env.gethostbyname (inetNtoa addr) = some found → found = addr

/-! ## The loop -/

theorem udpRecordCalls_eq (env : Nat → Env) (gamename : CString) (records index : Nat)
    (tmp : List UInt8) :
    udpRecordCalls env gamename records index tmp =
      (List.range records).filterMap fun i =>
        udpRecordCall (env (index + i)) gamename (msRecord tmp i) := by
  induction records generalizing index tmp with
  | zero => rfl
  | succ records ih =>
      have later (i : Nat) :
          udpRecordCall (env (index + 1 + i)) gamename (msRecord (tmp.drop 6) i) =
          udpRecordCall (env (index + (i + 1))) gamename (msRecord tmp (i + 1)) := by
        rw [msRecord, msRecord, List.drop_drop, Nat.mul_succ, Nat.add_comm 6, Nat.add_assoc,
          Nat.add_comm 1]
      have first : msRecord tmp 0 = tmp := rfl
      rw [udpRecordCalls, ih, List.range_succ_eq_map, List.filterMap_cons, List.filterMap_map,
        Nat.add_zero, first, List.filterMap_congr fun i _ => later i]
      cases udpRecordCall (env index) gamename tmp with
      | none => rfl
      | some call => rfl

/-- The calls for the complete records; a list of less than one has none. -/
theorem parseUDPMSList_eq (env : Nat → Env) (tmp : List UInt8) (gamename : CString) (size : Int) :
    parseUDPMSList env tmp gamename size =
      (List.range (size.toNat / 6)).filterMap fun i =>
        udpRecordCall (env i) gamename (msRecord tmp i) := by
  unfold parseUDPMSList
  split
  · have none : size.toNat / 6 = 0 := by omega
    rw [none]
    rfl
  · rw [udpRecordCalls_eq]
    simp only [Nat.zero_add]

theorem udpRecordCall_isSome (env : Env) (gamename : CString) (record : List UInt8) :
    (udpRecordCall env gamename record).isSome = MsResolves env record :=
  Option.isSome_map ..

/-- Two lists that filter and map in step are related where every element is. -/
theorem forall₂_filterMap_iff {α β : Type} {related : α → β → Prop} {f : α → Option β}
    {elements : List α} :
    List.Forall₂ related (elements.filter fun a => (f a).isSome) (elements.filterMap f) ↔
      ∀ a ∈ elements, ∀ b, f a = some b → related a b := by
  induction elements with
  | nil => exact iff_of_true List.Forall₂.nil fun _ member => nomatch member
  | cons a rest ih =>
      rw [List.forall_mem_cons, ← ih]
      cases found : f a with
      | none =>
          rw [List.filter_cons_of_neg (by rw [found]; exact Bool.false_ne_true),
            List.filterMap_cons_none found]
          exact (and_iff_right fun b made => by cases made).symm
      | some b =>
          rw [List.filter_cons_of_pos (by rw [found]; rfl), List.filterMap_cons_some found,
            List.forall₂_cons]
          refine and_congr_left' ⟨fun holds c made => ?_, fun all => all b rfl⟩
          obtain rfl := Option.some.inj made
          exact holds

/-- The loop reads six bytes for each record. -/
theorem parseUDPMSList_reads {env : Nat → Env} {tmp other : List UInt8} {gamename : CString}
    {size : Int} (same : other.take (6 * (size.toNat / 6)) = tmp.take (6 * (size.toNat / 6))) :
    parseUDPMSList env other gamename size = parseUDPMSList env tmp gamename size := by
  rw [parseUDPMSList_eq, parseUDPMSList_eq]
  refine List.filterMap_congr fun i member => ?_
  have inside : i < size.toNat / 6 := List.mem_range.mp member
  have byte (k : Nat) (small : k < 6) :
      (msRecord other i).getD k 0 = (msRecord tmp i).getD k 0 := by
    have early : 6 * i + k < 6 * (size.toNat / 6) := by omega
    have bytes := congrArg (fun bytes => bytes[6 * i + k]?) same
    simp only [List.getElem?_take_of_lt early] at bytes
    simp only [msRecord, List.getD_eq_getElem?_getD, List.getElem?_drop, bytes]
  simp only [udpRecordCall, recordAddr, recordPort, byte _ (by decide : 0 < 6),
    byte _ (by decide : 1 < 6), byte _ (by decide : 2 < 6), byte _ (by decide : 3 < 6),
    byte _ (by decide : 4 < 6), byte _ (by decide : 5 < 6)]

/-! ## One record -/

theorem recordPort_toNat (record : List UInt8) : (recordPort record).toNat = msPort record := by
  have low := (record.getD 4 0).toNat_lt
  have high := (record.getD 5 0).toNat_lt
  unfold recordPort msPort
  rw [ntohs_toNat, bytesShort_toNat]
  omega

/-- `port -= 10` goes round below ten. -/
theorem sub_ten_toNat (port : UInt16) :
    (port - 10).toNat = if port.toNat < 10 then port.toNat + 65526 else port.toNat - 10 := by
  have bound := port.toNat_lt
  have ten : (10 : UInt16).toNat = 10 := rfl
  rw [UInt16.toNat_sub, ten]
  split <;> omega

/-- A call for a game like kingpin is accepted on every port but zero. -/
theorem accepted_kingpin {call : AddCall} {gamename : CString}
    (kingpin : stricmpEq gamename (ascii "kingpin") = true)
    (named : call.gamename = some gamename) :
    call.accepted = none ↔ call.queryPort = 0 := by
  have nonempty : gamename ≠ [] := by
    rintro rfl
    exact absurd (stricmpEq_length kingpin) (by decide)
  have supported : gameSpyGetGameSecKey gamename ≠ none := by
    rw [gameSpyGetGameSecKey_congr kingpin]
    decide
  unfold AddCall.accepted
  simp only [named, if_neg nonempty, if_neg supported]
  split
  · rename_i zero
    exact iff_of_true rfl zero
  · rename_i port
    exact iff_of_false (Option.some_ne_none _) port

/-- The call for a record is right, unless the port of a kingpin server goes round. -/
theorem decodesRecord_iff {env : Env} (knows : KnowsDottedQuads env) {gamename : CString}
    {record : List UInt8} {call : Env × AddCall}
    (called : udpRecordCall env gamename record = some call) :
    DecodesRecord gamename record call.2 ↔
      (stricmpEq gamename (ascii "kingpin") = true → 10 ≤ msPort record) := by
  obtain ⟨addr, resolved, rfl⟩ := Option.map_eq_some_iff.mp called
  obtain rfl := knows _ _ resolved
  unfold DecodesRecord msListedPort
  by_cases kingpin : stricmpEq gamename (ascii "kingpin") = true
  · simp only [kingpin, if_true, true_and, forall_const]
    have wrapped := sub_ten_toNat (recordPort record)
    rw [recordPort_toNat] at wrapped
    by_cases small : msPort record ≤ 10
    · simp only [if_pos small]
      rw [accepted_kingpin kingpin rfl, ← htons_inj, htons_htons, ← UInt16.toNat_inj, wrapped]
      change _ = 0 ↔ _
      split <;> omega
    · simp only [if_neg small]
      rw [show htons (recordPort record - 10) = ntohs (recordPort record - 10) from rfl,
        ntohs_ntohs, wrapped, if_neg (by omega)]
      exact iff_of_true rfl (by omega)
  · simp only [if_neg kingpin, true_and]
    rw [show htons (recordPort record) = ntohs (recordPort record) from rfl, ntohs_ntohs,
      recordPort_toNat]
    exact iff_of_true rfl fun same => absurd same kingpin

/--
A list is decoded as it should be exactly if it is not for kingpin or no
complete record whose address resolves has a port below ten.
-/
theorem parseUDPMSList_decodes_iff (env : Nat → Env) (knows : ∀ i, KnowsDottedQuads (env i))
    (tmp : List UInt8) (gamename : CString) (size : Int) :
    DecodesList env tmp gamename size ↔
      (stricmpEq gamename (ascii "kingpin") = true →
        ∀ i ∈ msResolved env tmp size, 10 ≤ msPort (msRecord tmp i)) := by
  have related : List.Forall₂ (fun i (call : Env × AddCall) =>
        DecodesRecord gamename (msRecord tmp i) call.2)
      (msResolved env tmp size) (parseUDPMSList env tmp gamename size) ↔
      ∀ i ∈ List.range (size.toNat / 6), ∀ call,
        udpRecordCall (env i) gamename (msRecord tmp i) = some call →
          DecodesRecord gamename (msRecord tmp i) call.2 := by
    rw [parseUDPMSList_eq, msResolved, ← forall₂_filterMap_iff]
    simp only [udpRecordCall_isSome]
  constructor
  · rintro ⟨-, calls⟩ kingpin i member
    obtain ⟨inside, resolves⟩ := List.mem_filter.mp member
    rw [← udpRecordCall_isSome (env i) gamename] at resolves
    obtain ⟨call, called⟩ := Option.isSome_iff_exists.mp resolves
    exact (decodesRecord_iff (knows i) called).mp (related.mp calls i inside call called) kingpin
  · intro high
    refine ⟨fun other same => parseUDPMSList_reads same, related.mpr fun i inside call called => ?_⟩
    refine (decodesRecord_iff (knows i) called).mpr fun kingpin => high kingpin i ?_
    refine List.mem_filter.mpr ⟨inside, ?_⟩
    rw [← udpRecordCall_isSome (env i) gamename, called]
    rfl

/-- Surroundings that resolve numeric names. -/
def numericEnv : Env :=
  { quietEnv with gethostbyname := dottedQuad }

theorem numericEnv_knows : KnowsDottedQuads numericEnv := fun addr _ resolved =>
  (Option.some.inj ((dottedQuad_inetNtoa addr).symm.trans resolved)).symm

/-- The game port of a kingpin server on 10.0.0.1 is 31510. -/
theorem parseUDPMSList_decodes_iff_kingpin :
    DecodesList (fun _ => numericEnv) [10, 0, 0, 1, 123, 22] (ascii "kingpin") 6 :=
  (parseUDPMSList_decodes_iff (fun _ => numericEnv) (fun _ => numericEnv_knows)
    [10, 0, 0, 1, 123, 22] (ascii "kingpin") 6).mpr (by decide +kernel)

/-- The port 5 of a kingpin server is registered as 65531. -/
theorem parseUDPMSList_wraps :
    ¬ ∀ env : Nat → Env, (∀ i, KnowsDottedQuads (env i)) →
      ∀ tmp gamename size, DecodesList env tmp gamename size := by
  intro always
  have decodes := (always (fun _ => numericEnv) (fun _ => numericEnv_knows) [10, 0, 0, 1, 0, 5]
    (ascii "kingpin") 6).calls
  have resolved : msResolved (fun _ => numericEnv) [10, 0, 0, 1, 0, 5] 6 = [0] := by decide +kernel
  have calls : parseUDPMSList (fun _ => numericEnv) [10, 0, 0, 1, 0, 5] (ascii "kingpin") 6 =
      [(numericEnv, ⟨⟨⟨10, 0, 0, 1⟩, htons 65531⟩, false, htons 65531, some (ascii "kingpin"),
        some (ascii "10.0.0.1")⟩)] := rfl
  rw [resolved, calls] at decodes
  obtain ⟨⟨-, -, rejected⟩, -⟩ := List.forall₂_cons.mp decodes
  have portless : msListedPort (ascii "kingpin") (msRecord [10, 0, 0, 1, 0, 5] 0) = none := by
    decide
  rw [portless] at rejected
  revert rejected
  decide

end GSMaster.Registry
