import GSMaster.Registry.Imports
import GSMaster.Text.Decimal

/-!
# List files

`Add_Servers_From_List` reads a file whole and splits it at its newlines; each
line goes to `AddServers_From_List_Execute`. A line has an address or a name, a
port, and a game name unless the game is that of the whole file.
-/

namespace GSMaster.Registry

open GSMaster.Text GSMaster.Net GSMaster.Games

/-- The lines of `Parse_ServerList`; the rest after the last newline is a line unless empty. -/
def serverLines : Nat → List UInt8 → List (List UInt8)
  | 0, _ => []
  | fuel + 1, text =>
      if text = [] then []
      else
        let line := text.takeWhile fun c => c != newline
        line :: serverLines fuel (text.drop (line.length + 1))

/-- The lines that are left are executed one after another. -/
def serverLineCalls (env : Nat → Env) (gamenameFromHttp : Option CString) :
    Nat → List (List UInt8) → List (Env × AddCall)
  | _, [] => []
  | index, line :: lines =>
      (addServersFromListExecute (env index) (cstr line) gamenameFromHttp).toList ++
        serverLineCalls env gamenameFromHttp (index + 1) lines

/-- `Parse_ServerList` of the bytes of a file, each of whose lines fits into `line`. -/
def parseServerList (env : Nat → Env) (fileBuffer : List UInt8)
    (gamenameFromHttp : Option CString) : List (Env × AddCall) :=
  serverLineCalls env gamenameFromHttp 0 (serverLines fileBuffer.length fileBuffer)

/-- `Add_Servers_From_List` of the bytes of the file that it opens. -/
def addServersFromList (env : Nat → Env) (file : List UInt8) (gamename : Option CString) :
    List (Env × AddCall) :=
  if file.length < 3 then [] else parseServerList env file gamename

/-! ## Addresses and ports as tokens -/

theorem listSeparators_digit {c : UInt8} (digit : isDigit c = true) :
    listSeparators.contains c = false ∧ c ≠ newline ∧ c ≠ 0 := by
  obtain ⟨value, rfl⟩ := exists_digit digit
  revert value
  decide

/-- An address is written in digits and points. -/
theorem mem_inetNtoa {addr : InAddr} {c : UInt8} (member : c ∈ inetNtoa addr) :
    isDigit c = true ∨ c = 46 := by
  simp only [inetNtoa, List.mem_append] at member
  have point : c ∈ ascii "." → isDigit c = true ∨ c = 46 :=
    fun inside => Or.inr (List.mem_singleton.mp inside)
  rcases member with (((((a | p) | b) | p) | c) | p) | d
  · exact Or.inl (isDigit_of_mem_decimal a)
  · exact point p
  · exact Or.inl (isDigit_of_mem_decimal b)
  · exact point p
  · exact Or.inl (isDigit_of_mem_decimal c)
  · exact point p
  · exact Or.inl (isDigit_of_mem_decimal d)

theorem inetNtoa_plain {addr : InAddr} {c : UInt8} (member : c ∈ inetNtoa addr) :
    listSeparators.contains c = false ∧ c ≠ newline ∧ c ≠ 0 := by
  rcases mem_inetNtoa member with digit | rfl
  · exact listSeparators_digit digit
  · decide

theorem inetNtoa_ne_nil (addr : InAddr) : inetNtoa addr ≠ [] := by
  unfold inetNtoa
  simp [decimal_ne_nil]

/-- The first token of a line that begins with an address and a colon. -/
theorem strtok_inetNtoa (addr : InAddr) (rest : CString) :
    strtok listSeparators (some (inetNtoa addr ++ 58 :: rest)) =
      (some (inetNtoa addr), some rest) :=
  strtok_delimited (inetNtoa_ne_nil addr) (fun _ member => (inetNtoa_plain member).1) (by decide)
    rest

/-- Whatever follows the address, a line registers servers of that address only. -/
theorem addServersFromListExecute_addr {env : Env} {addr : InAddr}
    (resolves : env.gethostbyname (inetNtoa addr) = some addr) {rest : CString}
    {gamename : Option CString} {call : Env × AddCall}
    (read : addServersFromListExecute env (inetNtoa addr ++ 58 :: rest) gamename = some call) :
    call.2.sender.sinAddr = addr := by
  obtain ⟨ip, listPtr, found, port, named, token, resolved, rfl⟩ :=
    addServersFromListExecute_some read
  rw [strtok_inetNtoa] at token
  cases token
  exact Option.some.inj (resolved.symm.trans resolves)

/-- The port that `atoi` reads is the one that `%d` wrote. -/
theorem port_decimal (port : UInt16) : UInt16.ofInt (atoi (decimal port.toNat)) = port := by
  have small := port.toNat_lt
  rw [atoi_decimal (Nat.lt_trans small (by decide)), UInt16.ofInt,
    Int.emod_eq_of_lt (by omega) (by omega), Int.toNat_natCast, UInt16.ofNat_toNat]

/-- A line with an address and a port registers that server under the game of the file. -/
theorem addServersFromListExecute_line {env : Env} {addr : InAddr}
    (resolves : env.gethostbyname (inetNtoa addr) = some addr) {port : UInt16} (set : port ≠ 0)
    (gamename : CString) :
    addServersFromListExecute env (inetNtoa addr ++ 58 :: decimal (ntohs port).toNat)
        (some gamename) =
      some (env, ⟨⟨addr, port⟩, sendAcknowledge (some gamename), port, some gamename,
        some (inetNtoa addr)⟩) := by
  have token : strtok listSeparators (some (decimal (ntohs port).toNat)) =
      (some (decimal (ntohs port).toNat), none) :=
    strtok_last (decimal_ne_nil _) fun _ member =>
      (listSeparators_digit (isDigit_of_mem_decimal member)).1
  have positive : ntohs port ≠ 0 := by
    intro zero
    rw [← ntohs_ntohs port, zero] at set
    exact set (by decide)
  unfold addServersFromListExecute
  simp only [strtok_inetNtoa, resolves, token, port_decimal, if_neg positive, htons_ntohs]

end GSMaster.Registry
