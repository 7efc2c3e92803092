import GSMaster.Registry.Server

/-!
# The message of the day

`GameSpy_Send_MOTD` binds a socket to a fixed port before it looks at the file
that it is to send, and only the exit behind `sendto` closes the socket. An
exit in between leaves the port bound, and then no later call gets a socket.
-/

namespace GSMaster.Session

open GSMaster.Text GSMaster.Net GSMaster.Registry GSMaster.Games

/-! ## Sockets -/

/--
The open sockets that are bound to a port. Descriptors are given out in turn,
and no two sockets are bound to the same port.
-/
structure Sockets where
  next : Nat
  bound : List (Nat × UInt16)
  fresh : ∀ socket ∈ bound, socket.1 < next
  exclusive : (bound.map Prod.snd).Nodup

namespace Sockets

def IsBound (sockets : Sockets) (port : UInt16) : Prop :=
  port ∈ sockets.bound.map Prod.snd

instance (sockets : Sockets) (port : UInt16) : Decidable (sockets.IsBound port) :=
  inferInstanceAs (Decidable (_ ∈ _))

/-- `bind` of a new socket, which fails for a port that is bound. -/
def bind (sockets : Sockets) (port : UInt16) : Option (Nat × Sockets) :=
  if free : sockets.IsBound port then none
  else some (sockets.next,
    { next := sockets.next + 1
      bound := (sockets.next, port) :: sockets.bound
      fresh := by
        intro socket member
        rcases List.mem_cons.mp member with rfl | inside
        · exact Nat.lt_succ_self _
        · exact Nat.lt_succ_of_lt (sockets.fresh socket inside)
      exclusive := List.nodup_cons.mpr ⟨free, sockets.exclusive⟩ })

/-- `closesocket`. -/
def close (sockets : Sockets) (socket : Nat) : Sockets where
  next := sockets.next
  bound := sockets.bound.filter fun other => other.1 != socket
  fresh := fun other member => sockets.fresh other (List.mem_of_mem_filter member)
  exclusive := sockets.exclusive.sublist (List.filter_sublist.map Prod.snd)

/-- Closing the socket that has just been bound leaves the others. -/
theorem close_bind {sockets sockets' : Sockets} {port : UInt16} {socket : Nat}
    (bound : sockets.bind port = some (socket, sockets')) :
    (sockets'.close socket).bound = sockets.bound := by
  unfold bind at bound
  split at bound
  · cases bound
  · obtain ⟨rfl, rfl⟩ := Prod.mk.inj (Option.some.inj bound)
    have others : ∀ other ∈ sockets.bound, (other.1 != sockets.next) = true := fun other member =>
      bne_iff_ne.mpr (Nat.ne_of_lt (sockets.fresh other member))
    rw [close]
    simp only [List.filter_cons, bne_self_eq_false, Bool.false_eq_true, if_false]
    exact List.filter_eq_self.mpr others

end Sockets

/-! ## The system during a call -/

/-- `motd.txt` once it is open: what `ftell`, `calloc` and `fread` make of it. -/
structure MotdFile where
  fileSize : Int
  calloc : Bool
  content : List UInt8
  deriving DecidableEq, Repr

/-- What the system does during a call: `socket`, `Set_Non_Blocking_Socket` and `fopen`. -/
structure MotdSystem where
  socket : Bool
  nonBlocking : Bool
  fopen : Option MotdFile
  deriving DecidableEq, Repr

/-- A call of `GameSpy_Send_MOTD`. -/
structure MotdCall where
  gamename : CString
  sender : SockaddrIn
  system : MotdSystem
  deriving DecidableEq, Repr

/-- `UDP_OpenSocket`; a socket that cannot be set up is closed again. -/
def udpOpenSocket (system : MotdSystem) (sockets : Sockets) (port : UInt16) :
    Option (Nat × Sockets) :=
  if !system.socket then none
  else if !system.nonBlocking then none
  else sockets.bind port

/-! ## The message -/

/-- `MOTD_SIZE`. -/
def motdSize : Nat := 1024

def motdPort : UInt16 := 21005

def gameSpyGetMotdPort (gamename : CString) : UInt16 :=
  if gamename = [] then 0
  else match gameTable.find? fun entry => stricmpEq gamename entry.gamename with
    | some entry => entry.motdPort
    | none => 0

/-- `motd` after `Com_sprintf`, with green text for Quake 2. -/
def motdText (gamename : CString) (content : List UInt8) : CString :=
  let fileBuffer := cstr (content ++ [newline, 0])
  let front := if gamename ≠ [] ∧ stricmpEq gamename (ascii "quake2") then
      oobSeq ++ ascii "print\n" ++ [2]
    else oobSeq ++ ascii "print\n"
  (front ++ fileBuffer).take (motdSize - 1)

/-- `GameSpy_Send_MOTD`: the sockets that are left open, and what is sent. -/
def gameSpySendMotd (call : MotdCall) (sockets : Sockets) : Sockets × Option Datagram :=
  let motdGamePort := gameSpyGetMotdPort call.gamename
  if motdGamePort = 0 then (sockets, none)
  else match udpOpenSocket call.system sockets motdPort with
    | none => (sockets, none)
    | some (motdSocket, sockets) =>
        match call.system.fopen with
        | none => (sockets, none)
        | some f =>
            if f.fileSize < 3 then (sockets, none)
            else if !f.calloc then (sockets, none)
            else if f.content.length = 0 then (sockets, none)
            else
              (sockets.close motdSocket,
                some ⟨⟨call.sender.sinAddr, htons motdGamePort⟩,
                  motdText call.gamename f.content⟩)

/-! ## One call -/

namespace MotdCall

/-- The game has a port for the message, and the system gives a socket. -/
def GetsSocket (call : MotdCall) : Prop :=
  gameSpyGetMotdPort call.gamename ≠ 0 ∧ call.system.socket = true ∧
    call.system.nonBlocking = true

/-- The file opens, has three bytes at least, finds memory and can be read. -/
def Readable (call : MotdCall) : Prop :=
  ∃ file, call.system.fopen = some file ∧ 3 ≤ file.fileSize ∧ file.calloc = true ∧
    file.content ≠ []

/-- The call does not get to the file, or the file is readable. -/
def Harmless (call : MotdCall) : Prop :=
  call.GetsSocket → call.Readable

/-- What is sent, if anything is. -/
def message (call : MotdCall) (content : List UInt8) : Datagram :=
  ⟨⟨call.sender.sinAddr, htons (gameSpyGetMotdPort call.gamename)⟩,
    motdText call.gamename content⟩

end MotdCall

/-- Without a socket nothing happens. -/
theorem gameSpySendMotd_quiet {call : MotdCall} (quiet : ¬ call.GetsSocket)
    (sockets : Sockets) : gameSpySendMotd call sockets = (sockets, none) := by
  unfold gameSpySendMotd
  simp only
  split_ifs with port
  · rfl
  · have unopened : udpOpenSocket call.system sockets motdPort = none := by
      unfold udpOpenSocket
      by_cases socket : call.system.socket = true
      · have blocking : call.system.nonBlocking ≠ true := fun nonBlocking =>
          quiet ⟨port, socket, nonBlocking⟩
        simp [socket, Bool.eq_false_iff.mpr blocking]
      · simp [Bool.eq_false_iff.mpr socket]
    rw [unopened]

/-- A port that is bound is not bound again. -/
theorem gameSpySendMotd_bound {sockets : Sockets} (bound : sockets.IsBound motdPort)
    (call : MotdCall) : gameSpySendMotd call sockets = (sockets, none) := by
  have refused : sockets.bind motdPort = none := dif_pos bound
  have unopened : udpOpenSocket call.system sockets motdPort = none := by
    unfold udpOpenSocket
    split_ifs
    · rfl
    · rfl
    · exact refused
  unfold gameSpySendMotd
  simp only [unopened]
  split_ifs <;> rfl

/-- The socket of a call that gets one. -/
theorem udpOpenSocket_free {call : MotdCall} (gets : call.GetsSocket) {sockets : Sockets}
    (free : ¬ sockets.IsBound motdPort) :
    ∃ socket sockets', udpOpenSocket call.system sockets motdPort = some (socket, sockets') ∧
      sockets'.IsBound motdPort ∧ (sockets'.close socket).bound = sockets.bound := by
  have opened : udpOpenSocket call.system sockets motdPort = sockets.bind motdPort := by
    simp [udpOpenSocket, gets.2.1, gets.2.2]
  cases bound : sockets.bind motdPort with
  | none =>
      rw [Sockets.bind, dif_neg free] at bound
      cases bound
  | some result =>
      obtain ⟨socket, sockets'⟩ := result
      refine ⟨socket, sockets', opened.trans bound, ?_, Sockets.close_bind bound⟩
      rw [Sockets.bind, dif_neg free] at bound
      obtain ⟨-, rfl⟩ := Prod.mk.inj (Option.some.inj bound)
      exact List.mem_cons_self ..

/-- A call with a readable file sends it and leaves the sockets as they were. -/
theorem gameSpySendMotd_readable {call : MotdCall} (gets : call.GetsSocket)
    (readable : call.Readable) {sockets : Sockets} (free : ¬ sockets.IsBound motdPort) :
    (gameSpySendMotd call sockets).1.bound = sockets.bound ∧
      ∃ file, call.system.fopen = some file ∧
        (gameSpySendMotd call sockets).2 = some (call.message file.content) := by
  obtain ⟨socket, sockets', opened, -, closed⟩ := udpOpenSocket_free gets free
  obtain ⟨file, fopen, long, memory, nonempty⟩ := readable
  have sends : gameSpySendMotd call sockets =
      (sockets'.close socket, some (call.message file.content)) := by
    unfold gameSpySendMotd
    simp only [if_neg gets.1, opened, fopen, if_neg (not_lt.mpr long), memory, Bool.not_true,
      Bool.false_eq_true, if_false, List.length_eq_zero_iff, if_neg nonempty]
    rfl
  rw [sends]
  exact ⟨closed, file, fopen, rfl⟩

/-- A call with an unreadable file returns with the port bound. -/
theorem gameSpySendMotd_leaks {call : MotdCall} (gets : call.GetsSocket)
    (unreadable : ¬ call.Readable) {sockets : Sockets} (free : ¬ sockets.IsBound motdPort) :
    (gameSpySendMotd call sockets).1.IsBound motdPort := by
  obtain ⟨socket, sockets', opened, bound, -⟩ := udpOpenSocket_free gets free
  have leaves : gameSpySendMotd call sockets = (sockets', none) := by
    unfold gameSpySendMotd
    simp only [if_neg gets.1, opened]
    cases fopen : call.system.fopen with
    | none => rfl
    | some file =>
        simp only
        split_ifs with short memory empty
        · rfl
        · rfl
        · rfl
        · refine absurd ⟨file, fopen, not_lt.mp short, ?_, ?_⟩ unreadable
          · simpa using memory
          · exact mt List.length_eq_zero_iff.mpr empty
  rw [leaves]
  exact bound

/-- A call leaves the port unbound exactly when it is harmless. -/
theorem gameSpySendMotd_free_iff (call : MotdCall) {sockets : Sockets}
    (free : ¬ sockets.IsBound motdPort) :
    ¬ (gameSpySendMotd call sockets).1.IsBound motdPort ↔ call.Harmless := by
  by_cases gets : call.GetsSocket
  · by_cases readable : call.Readable
    · refine iff_of_true ?_ fun _ => readable
      rw [Sockets.IsBound, (gameSpySendMotd_readable gets readable free).1]
      exact free
    · have leaks := gameSpySendMotd_leaks gets readable free
      exact iff_of_false (not_not.mpr leaks) fun harmless => readable (harmless gets)
  · rw [gameSpySendMotd_quiet gets]
    exact iff_of_true free fun other => absurd other gets

/-! ## A run of calls -/

/-- The calls one after the other: what each leaves open and what it sends. -/
def motdRun (sockets : Sockets) : List MotdCall → List (Sockets × Option Datagram)
  | [] => []
  | call :: rest =>
      gameSpySendMotd call sockets :: motdRun (gameSpySendMotd call sockets).1 rest

/-- The call sends its file if the system gives it a socket and the file is readable. -/
def SendsReadable (call : MotdCall) (result : Sockets × Option Datagram) : Prop :=
  call.GetsSocket → call.Readable → ∃ file, call.system.fopen = some file ∧
    result.2 = some (call.message file.content)

/-- Every call leaves the port unbound, and every call with a readable file sends it. -/
structure LeavesNoSocket (sockets : Sockets) (calls : List MotdCall) : Prop where
  unbound : ∀ result ∈ motdRun sockets calls, ¬ result.1.IsBound motdPort
  sends : List.Forall₂ SendsReadable calls (motdRun sockets calls)

/-- A port that is left bound stays bound, and no call sends anything any more. -/
theorem motdRun_bound {sockets : Sockets} (bound : sockets.IsBound motdPort)
    (calls : List MotdCall) :
    ∀ result ∈ motdRun sockets calls, result.1.IsBound motdPort ∧ result.2 = none := by
  induction calls with
  | nil => exact List.forall_mem_nil _
  | cons call rest ih =>
      rw [motdRun, gameSpySendMotd_bound bound]
      exact List.forall_mem_cons.mpr ⟨⟨bound, rfl⟩, ih⟩

/-- A run of calls leaves no socket behind exactly when every call is harmless. -/
theorem motdRun_leavesNoSocket_iff (sockets : Sockets) (free : ¬ sockets.IsBound motdPort)
    (calls : List MotdCall) :
    LeavesNoSocket sockets calls ↔ ∀ call ∈ calls, call.Harmless := by
  induction calls generalizing sockets with
  | nil => exact iff_of_true ⟨List.forall_mem_nil _, .nil⟩ (List.forall_mem_nil _)
  | cons call rest ih =>
      rw [List.forall_mem_cons, ← gameSpySendMotd_free_iff call free]
      constructor
      · rintro ⟨unbound, sends⟩
        obtain ⟨first, later⟩ := List.forall_mem_cons.mp unbound
        obtain ⟨-, laterSends⟩ := List.forall₂_cons.mp sends
        exact ⟨first, (ih _ first).mp ⟨later, laterSends⟩⟩
      · rintro ⟨first, harmless⟩
        obtain ⟨later, laterSends⟩ := (ih _ first).mpr harmless
        refine ⟨List.forall_mem_cons.mpr ⟨first, later⟩, .cons ?_ laterSends⟩
        exact fun gets readable => (gameSpySendMotd_readable gets readable free).2

/-- No socket is open. -/
def Sockets.none : Sockets where
  next := 0
  bound := []
  fresh := by simp
  exclusive := List.nodup_nil

/-- A request for Quake 2 with a `motd.txt` in the given state. -/
def quake2Motd (file : Option MotdFile) : MotdCall :=
  ⟨ascii "quake2", ⟨⟨10, 0, 0, 2⟩, 0⟩, ⟨true, true, file⟩⟩

theorem motdRun_leavesNoSocket_iff_quake2 :
    LeavesNoSocket .none [quake2Motd (some ⟨5, true, ascii "Hello"⟩)] := by
  refine (motdRun_leavesNoSocket_iff .none (by decide) _).mpr ?_
  refine List.forall_mem_singleton.mpr fun _ => ⟨⟨5, true, ascii "Hello"⟩, rfl, ?_⟩
  decide

/-- One request while `motd.txt` is missing. -/
theorem motdRun_leavesSocket :
    ¬ ∀ (sockets : Sockets), ¬ sockets.IsBound motdPort → ∀ calls : List MotdCall,
      LeavesNoSocket sockets calls := by
  intro always
  have clean := always .none (by decide) [quake2Motd none]
  exact clean.unbound _ (List.mem_cons_self ..) (by decide)

end GSMaster.Session
