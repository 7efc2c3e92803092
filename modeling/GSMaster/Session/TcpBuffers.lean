import GSMaster.Session.ListRequests
import GSMaster.Text.Decimal

/-!
# The buffers of a session

`recv` is allowed to fill `incomingTcpValidate` and `incomingTcpList` to the
last byte, and nothing sets a terminator behind what it returns. A text has one
because the buffers are cleared before each session, unless the packet is as
long as the buffer and has no NUL of its own. The text that is appended for
unreal clients is appended whatever room is left.
-/

namespace GSMaster.Session

open GSMaster.Text GSMaster.Registry GSMaster.Games GSMaster.Lists

/-- `MAX_INCOMING_LEN`, the size of both buffers and of each `recv`. -/
def maxIncomingLen : Nat := 65536

/-- A cleared buffer after `recv` has placed a payload in it. -/
def incoming (payload : List UInt8) : List UInt8 :=
  payload ++ List.replicate (maxIncomingLen - payload.length) 0

/-- A string function is given a buffer to read, or stores `count` bytes from `first` on. -/
inductive TextAccess where
  | read (buffer : List UInt8)
  | store (first count : Nat)
  deriving DecidableEq, Repr

/-- A text that is read ends in its buffer, and stores are inside it. -/
def TextAccess.Inside : TextAccess → Prop
  | read buffer => 0 ∈ buffer
  | store first count => first + count ≤ maxIncomingLen

def AccessesInside (accesses : List TextAccess) : Prop :=
  ∀ access ∈ accesses, access.Inside

def unrealGamename : CString := ascii "\\gamename\\unreal\\"

def unrealList : CString := ascii "\\list\\gamename\\unreal\\"

/-- The buffer after `strcat`. -/
def strcat (buffer : List UInt8) (text : CString) : List UInt8 :=
  buffer.take (cstr buffer).length ++ text ++ [0] ++
    buffer.drop ((cstr buffer).length + text.length + 1)

/-- The lookups of `GameSpy_Challenge_Cross_Check` in the packet of a client. -/
def crossCheckReads (validationRequired : Int) (buffer : List UInt8) : List TextAccess :=
  if skipsValidation validationRequired false then []
  else
    .read buffer ::
      match infoValueForKey (cstr buffer) (ascii "gamename") with
      | none => []
      | some ptr =>
          if skipsAnswer (strlcpy [] ptr maxInfoString) false then [] else [.read buffer]

/-- The string functions that are given `incomingTcpList`. -/
def listAccesses (buffer : List UInt8) (len : Nat) : List TextAccess :=
  if buffer.headD 0 = 0 then []
  else
    -- the debug print
    .read buffer ::
      if 4 < len then
        .read buffer ::
          if contains (cstr buffer) (ascii "\\list\\") then
            .read buffer ::
              if contains (cstr buffer) (ascii "\\gamename\\") then [.read buffer] else []
          else []
      else []

/-- What is accessed from the test for a list request on; `buffer` is `incomingTcpValidate`. -/
def requestAccesses (client : Client) (first : Received) (buffer : List UInt8) :
    List TextAccess :=
  .read buffer ::
    if contains (cstr buffer) (ascii "\\list\\") then [.read buffer]
    else
      match (receive client.recv false totalRetry first.calls 50 first.lastWSAError).packet with
      | none => []
      | some packet => listAccesses (incoming packet) packet.length

/-- The special hack for unreal, and what follows it. -/
def unrealAccesses (client : Client) (first : Received) (buffer : List UInt8) :
    List TextAccess :=
  .read buffer ::
    if contains (cstr buffer) unrealGamename then
      .read buffer :: .store (cstr buffer).length (unrealList.length + 1) ::
        requestAccesses client first (strcat buffer unrealList)
    else requestAccesses client first buffer

/-- The string functions that are given `incomingTcpValidate`, in order. -/
def validateAccesses (cfg : Config) (client : Client) (first : Received) (buffer : List UInt8) :
    List TextAccess :=
  if buffer.headD 0 = 0 then []
  else
    -- the client name, which is looked up again where it is found, and the debug print
    .read buffer ::
      ((if (infoValueForKey (cstr buffer) (ascii "clientname")).isSome then [.read buffer]
          else []) ++
        .read buffer :: .read buffer ::
          if gamespyEnctype1 < encodeType (cstr buffer) then []
          else
            crossCheckReads cfg.validationRequired buffer ++
              if !validated cfg client (cstr buffer) then []
              else unrealAccesses client first buffer)

/-- The accesses of the string functions to the two buffers in a session. -/
def tcpAccesses (cfg : Config) (client : Client) : List TextAccess :=
  if client.challengeKeyAllocated && client.challengeBufferAllocated && client.nonBlocking &&
      client.challengeSent then
    let first := receive client.recv true totalRetry 0 50 none
    match first.packet with
    | none => []
    | some packet => validateAccesses cfg client first (incoming packet)
  else []

/--
The texts of a session are short enough: shorter than the buffers, and the text
of an unreal client by as much more as is appended to it.
-/
def TextsFit (cfg : Config) (client : Client) : Prop :=
  Connected client → ∀ waits packet, FirstPacket client waits packet →
    (cstr packet).length < maxIncomingLen ∧
      (cstr packet ≠ [] → encodeType (cstr packet) ≤ gamespyEnctype1 →
        validated cfg client (cstr packet) = true →
        if contains (cstr packet) unrealGamename then
          (cstr packet).length + unrealList.length < maxIncomingLen
        else contains (cstr packet) (ascii "\\list\\") = false →
          ∀ second, SecondPacket client waits second → (cstr second).length < maxIncomingLen)

/-! ## The texts in their buffers -/

theorem zero_mem_iff (buffer : List UInt8) : 0 ∈ buffer ↔ (cstr buffer).length < buffer.length := by
  constructor
  · intro member
    refine Nat.lt_of_le_of_ne (cstr_length_le buffer) fun same => ?_
    have whole := List.takeWhile_eq_self_iff.mp
      ((List.takeWhile_prefix (fun c : UInt8 => c != 0)).eq_of_length same)
    exact absurd (whole 0 member) (by decide)
  · intro shorter
    by_contra missing
    rw [cstr_of_forall fun c member zero => missing (zero ▸ member)] at shorter
    exact Nat.lt_irrefl _ shorter

/-- The cleared part of a buffer adds nothing to a text. -/
theorem cstr_incoming (payload : List UInt8) : cstr (incoming payload) = cstr payload := by
  unfold incoming cstr
  rw [List.takeWhile_append]
  split
  · rename_i whole
    rw [(List.takeWhile_prefix _).eq_of_length whole, List.takeWhile_replicate]
    simp
  · rfl

theorem zero_mem_incoming {payload : List UInt8} (received : payload.length ≤ maxIncomingLen) :
    0 ∈ incoming payload ↔ (cstr payload).length < maxIncomingLen := by
  have full : (incoming payload).length = maxIncomingLen := by
    rw [incoming, List.length_append, List.length_replicate]
    omega
  rw [zero_mem_iff, full, cstr_incoming]

theorem headD_eq_zero_iff (buffer : List UInt8) : buffer.headD 0 = 0 ↔ cstr buffer = [] := by
  cases buffer with
  | nil => exact iff_of_true rfl rfl
  | cons c rest =>
      rw [List.headD_cons, cstr, List.takeWhile_cons]
      by_cases zero : c = 0
      · simp [zero]
      · simp [zero]

/-- Whatever there was in the buffer, its text is longer by what is appended. -/
theorem cstr_strcat (buffer : List UInt8) {text : CString} (plain : 0 ∉ text) :
    cstr (strcat buffer text) = cstr buffer ++ text := by
  have taken : buffer.take (cstr buffer).length = cstr buffer :=
    (List.prefix_iff_eq_take.mp (List.takeWhile_prefix _)).symm
  have whole : 0 ∉ cstr buffer ++ text := by
    intro member
    rcases List.mem_append.mp member with held | added
    · exact absurd (List.mem_takeWhile_imp held) (by decide)
    · exact plain added
  rw [strcat, taken, List.append_assoc (cstr buffer ++ text), cstr_append whole]
  simp [cstr]

theorem zero_mem_strcat (buffer : List UInt8) (text : CString) : 0 ∈ strcat buffer text := by
  simp [strcat]

/-! ## The accesses -/

@[simp] theorem accessesInside_nil : AccessesInside [] :=
  fun _ member => absurd member List.not_mem_nil

@[simp] theorem accessesInside_cons (access : TextAccess) (accesses : List TextAccess) :
    AccessesInside (access :: accesses) ↔ access.Inside ∧ AccessesInside accesses :=
  List.forall_mem_cons

@[simp] theorem accessesInside_append (first second : List TextAccess) :
    AccessesInside (first ++ second) ↔ AccessesInside first ∧ AccessesInside second :=
  List.forall_mem_append

@[simp] theorem inside_read (buffer : List UInt8) :
    (TextAccess.read buffer).Inside ↔ 0 ∈ buffer :=
  Iff.rfl

@[simp] theorem inside_store (first count : Nat) :
    (TextAccess.store first count).Inside ↔ first + count ≤ maxIncomingLen :=
  Iff.rfl

theorem crossCheckReads_inside {buffer : List UInt8} (ends : 0 ∈ buffer)
    (validationRequired : Int) : AccessesInside (crossCheckReads validationRequired buffer) := by
  unfold crossCheckReads
  split
  · simp
  · split
    · simp [ends]
    · split
      · simp [ends]
      · simp [ends]

/-- The second packet is read only if it has a text. -/
theorem listAccesses_inside_iff {buffer : List UInt8} {len : Nat}
    (ends : cstr buffer = [] → 0 ∈ buffer) :
    AccessesInside (listAccesses buffer len) ↔ 0 ∈ buffer := by
  unfold listAccesses
  by_cases empty : buffer.headD 0 = 0
  · rw [if_pos empty]
    exact iff_of_true accessesInside_nil (ends ((headD_eq_zero_iff buffer).mp empty))
  · rw [if_neg empty, accessesInside_cons, inside_read]
    refine and_iff_left_of_imp fun terminated => ?_
    split
    · split
      · split
        · simp [terminated]
        · simp [terminated]
      · simp [terminated]
    · simp

/-- The first loop when it has received its packet. -/
def receivedFirst (events : List SocketEvent) (waits : Nat) (packet : List UInt8) : Received :=
  ⟨events, some packet, waits + 1, if waits = 0 then none else some .wouldBlock⟩

section Sized

variable {cfg : Config} {client : Client}
  (sizes : ∀ call payload, client.recv call = .data payload → payload.length ≤ maxIncomingLen)

include sizes

theorem requestAccesses_inside_iff (events : List SocketEvent) (waits : Nat) (packet : List UInt8)
    (buffer : List UInt8) :
    AccessesInside (requestAccesses client (receivedFirst events waits packet) buffer) ↔
      0 ∈ buffer ∧ (contains (cstr buffer) (ascii "\\list\\") = false →
        ∀ second, SecondPacket client waits second → (cstr second).length < maxIncomingLen) := by
  unfold requestAccesses receivedFirst
  rw [accessesInside_cons, inside_read]
  refine and_congr_right fun ends => ?_
  by_cases listed : contains (cstr buffer) (ascii "\\list\\") = true
  · rw [if_pos listed]
    exact iff_of_true (by simp [ends]) fun unlisted => absurd listed (by rw [unlisted]; decide)
  · rw [if_neg listed, forall_prop_of_true (Bool.eq_false_iff.mpr listed)]
    cases received : (receive client.recv false totalRetry (waits + 1) 50
        (if waits = 0 then none else some .wouldBlock)).packet with
    | none =>
        refine iff_of_true accessesInside_nil fun second later => ?_
        rw [(receive_second_iff client waits second).mpr later] at received
        cases received
    | some second =>
        have later := (receive_second_iff client waits second).mp received
        obtain ⟨failures, -, -, -, arrives⟩ := later
        have small := sizes _ second arrives
        have only : (∀ other, SecondPacket client waits other →
            (cstr other).length < maxIncomingLen) ↔ (cstr second).length < maxIncomingLen := by
          refine ⟨fun all => all second ((receive_second_iff client waits second).mp received),
            fun short other packet => ?_⟩
          have same := (receive_second_iff client waits other).mpr packet
          rw [received, Option.some.injEq] at same
          exact same ▸ short
        rw [only, ← zero_mem_incoming small]
        refine listAccesses_inside_iff fun empty => ?_
        rw [zero_mem_incoming small, ← cstr_incoming, empty]
        exact Nat.zero_lt_succ _

theorem unrealAccesses_inside_iff (events : List SocketEvent) (waits : Nat) (packet : List UInt8)
    {buffer : List UInt8} (ends : 0 ∈ buffer) :
    AccessesInside (unrealAccesses client (receivedFirst events waits packet) buffer) ↔
      if contains (cstr buffer) unrealGamename then
        (cstr buffer).length + unrealList.length < maxIncomingLen
      else contains (cstr buffer) (ascii "\\list\\") = false →
        ∀ second, SecondPacket client waits second → (cstr second).length < maxIncomingLen := by
  unfold unrealAccesses
  rw [accessesInside_cons, inside_read, and_iff_right ends]
  by_cases unreal : contains (cstr buffer) unrealGamename = true
  · have listed : contains (cstr (strcat buffer unrealList)) (ascii "\\list\\") = true := by
      rw [cstr_strcat buffer (by decide), contains_iff]
      exact ⟨cstr buffer, ascii "gamename\\unreal\\", by simp [unrealList, ascii]⟩
    have rest := (requestAccesses_inside_iff sizes events waits packet
      (strcat buffer unrealList)).mpr
        ⟨zero_mem_strcat buffer unrealList, fun unlisted => absurd listed (by
          rw [unlisted]
          exact Bool.false_ne_true)⟩
    rw [if_pos unreal, if_pos unreal, accessesInside_cons, accessesInside_cons, inside_read,
      inside_store, and_iff_right ends, and_iff_left rest]
    exact Nat.succ_le_iff
  · rw [if_neg unreal, if_neg unreal, requestAccesses_inside_iff sizes, and_iff_right ends]

theorem validateAccesses_inside_iff (events : List SocketEvent) {waits : Nat}
    {packet : List UInt8} (first : FirstPacket client waits packet) :
    AccessesInside (validateAccesses cfg client (receivedFirst events waits packet)
        (incoming packet)) ↔
      (cstr packet).length < maxIncomingLen ∧
        (cstr packet ≠ [] → encodeType (cstr packet) ≤ gamespyEnctype1 →
          validated cfg client (cstr packet) = true →
          if contains (cstr packet) unrealGamename then
            (cstr packet).length + unrealList.length < maxIncomingLen
          else contains (cstr packet) (ascii "\\list\\") = false →
            ∀ second, SecondPacket client waits second →
              (cstr second).length < maxIncomingLen) := by
  have small := sizes waits packet first.2.2
  have terminated := zero_mem_incoming small
  unfold validateAccesses
  rw [cstr_incoming]
  by_cases empty : cstr packet = []
  · rw [if_pos ((headD_eq_zero_iff _).mpr (by rwa [cstr_incoming])), empty]
    exact iff_of_true accessesInside_nil ⟨Nat.zero_lt_succ _, fun nonempty => absurd rfl nonempty⟩
  · rw [if_neg (fun zero => empty (by rwa [headD_eq_zero_iff, cstr_incoming] at zero)),
      accessesInside_cons, inside_read, terminated, forall_prop_of_true empty]
    refine and_congr_right fun short => ?_
    have ends := terminated.mpr short
    have names (found : Bool) :
        AccessesInside (if found then [.read (incoming packet)] else []) := by
      cases found <;> simp [ends]
    rw [accessesInside_append, accessesInside_cons, accessesInside_cons, inside_read,
      and_iff_right (names _), and_iff_right ends, and_iff_right ends]
    by_cases unsupported : gamespyEnctype1 < encodeType (cstr packet)
    · rw [if_pos unsupported]
      exact iff_of_true accessesInside_nil fun supported =>
        absurd unsupported (UInt16.not_lt.mpr supported)
    · rw [if_neg unsupported, forall_prop_of_true (UInt16.not_lt.mp unsupported),
        accessesInside_append, and_iff_right (crossCheckReads_inside ends _)]
      by_cases passed : validated cfg client (cstr packet) = true
      · rw [passed, Bool.not_true, if_neg Bool.false_ne_true, forall_prop_of_true rfl,
          unrealAccesses_inside_iff sizes events waits packet ends, cstr_incoming]
      · rw [Bool.eq_false_iff.mpr passed, Bool.not_false, if_pos rfl]
        exact iff_of_true accessesInside_nil fun passes => absurd passes Bool.false_ne_true

end Sized

/-- The texts of a session stay inside the two buffers exactly when they are short enough. -/
theorem tcpAccesses_inside_iff (cfg : Config) (client : Client)
    (sizes : ∀ call payload, client.recv call = .data payload → payload.length ≤ maxIncomingLen) :
    AccessesInside (tcpAccesses cfg client) ↔ TextsFit cfg client := by
  unfold tcpAccesses TextsFit
  by_cases connected : Connected client
  · obtain ⟨key, buffer, blocking, sent⟩ := connected
    rw [forall_prop_of_true ⟨key, buffer, blocking, sent⟩, key, buffer, blocking, sent]
    simp only [Bool.and_self, if_true]
    cases received : (receive client.recv true totalRetry 0 50 none).packet with
    | none =>
        refine iff_of_true accessesInside_nil fun waits packet first => ?_
        obtain ⟨events, whole⟩ := receive_first first
        rw [whole] at received
        cases received
    | some packet =>
        obtain ⟨waits, first⟩ := firstPacket_of_receive received
        obtain ⟨events, whole⟩ := receive_first first
        rw [whole]
        refine (validateAccesses_inside_iff sizes events first).trans
          ⟨fun fits waits' packet' first' => ?_, fun fits => fits waits packet first⟩
        obtain ⟨rfl, rfl⟩ := first.unique first'
        exact fits
  · have missing : ¬ (client.challengeKeyAllocated && client.challengeBufferAllocated &&
        client.nonBlocking && client.challengeSent) = true := fun all =>
      connected (by simpa only [Connected, Bool.and_eq_true, and_assoc] using all)
    rw [if_neg missing]
    exact iff_of_true accessesInside_nil fun connects => absurd connects connected

/-- A short first packet without a list request. -/
theorem tcpAccesses_inside_iff_final :
    AccessesInside (tcpAccesses defaultConfig (repeating (ascii "\\final\\"))) := by
  refine (tcpAccesses_inside_iff _ _ fun call payload received => ?_).mpr
    fun _ waits packet first => ?_
  · obtain rfl := RecvOutcome.data.inj received
    decide
  · obtain ⟨rfl, rfl⟩ := first.unique (firstPacket_repeating _)
    refine ⟨by decide, fun _ _ _ => ?_⟩
    rw [if_neg (by decide)]
    rintro - second ⟨failures, -, -, -, arrives⟩
    obtain rfl := RecvOutcome.data.inj arrives
    decide

/-- A client that fills the buffer to the last byte. -/
def fillingClient : Client :=
  repeating (List.replicate maxIncomingLen 97)

theorem text_without_end :
    ¬ ∀ cfg (client : Client),
      (∀ call payload, client.recv call = .data payload → payload.length ≤ maxIncomingLen) →
        AccessesInside (tcpAccesses cfg client) := by
  intro always
  have inside := always defaultConfig fillingClient fun call payload received => by
    obtain rfl := RecvOutcome.data.inj received
    rw [List.length_replicate]
  have full : incoming (List.replicate maxIncomingLen 97) = List.replicate maxIncomingLen 97 := by
    rw [incoming, List.length_replicate, Nat.sub_self, List.replicate_zero, List.append_nil]
  have first : (List.replicate maxIncomingLen (97 : UInt8)).headD 0 = 97 := by
    rw [maxIncomingLen, List.replicate_succ]
    rfl
  have packet : receive fillingClient.recv true totalRetry 0 50 none =
      ⟨[.recv], some (List.replicate maxIncomingLen 97), 1, none⟩ :=
    receive_data rfl true totalRetry 50 none
  unfold tcpAccesses at inside
  rw [if_pos (by rfl), packet] at inside
  simp only [full, validateAccesses, first] at inside
  rw [if_neg (by decide), accessesInside_cons, inside_read] at inside
  exact absurd (List.eq_of_mem_replicate inside.1) (by decide)

end GSMaster.Session
