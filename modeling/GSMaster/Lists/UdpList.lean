import GSMaster.Registry.Server

/-!
# The list reply over UDP

`SendUDPServerListToClient` puts a header and six bytes for each listed server
into one buffer whose size it takes from the server counter.
-/

namespace GSMaster.Lists

open GSMaster.Text GSMaster.Net GSMaster.Games GSMaster.Registry

def hwReplyHdr : List UInt8 := [255, 255, 255, 255, 255, 100, 10]

def kpReplyHdr : List UInt8 := [255, 255, 255, 255, 255, 255, 100, 10]

def qwReplyHdr : List UInt8 := [255, 255, 255, 255, 100, 10]

def qwReplyHdr2 : List UInt8 := [255, 255, 255, 255, 100, 0]

def q2ReplyHdr : List UInt8 := oobSeq ++ ascii "servers "

/-- The header for a game; a game that has none gets no reply. -/
def udpHeader (gamename : CString) : Option (List UInt8) :=
  if gamename = [] then none
  else if stricmpEq gamename (ascii "hexenworld") then some hwReplyHdr
  else if stricmpEq gamename (ascii "kingpin") then some kpReplyHdr
  else if stricmpEq gamename (ascii "quakeworld") then some qwReplyHdr
  else if stricmpEq gamename (ascii "quake2") || stricmpEq gamename (ascii "daikatana") then
    some q2ReplyHdr
  else none

/-- The condition that the three list functions share. -/
def presentable (cfg : Config) (gamename : CString) (server : Server) : Bool :=
  cfg.minimumHeartbeats ≤ server.heartbeats && !server.shutdownIssued && server.validated &&
    stricmpEq server.gamename gamename

/-- The condition of the UDP list and of the list files. -/
def udpListed (cfg : Config) (gamename : CString) (server : Server) : Bool :=
  presentable cfg gamename server && server.ip.sinPort != 0 && server.port != 0

/-- The address and the port of a server as they stand in memory. -/
def serverBytes (server : Server) : List UInt8 :=
  server.ip.sinAddr.bytes ++ shortBytes server.port

/-- The loop over the servers, with the bytes of `buff` below `buflen`. -/
def udpListLoop (cfg : Config) (gamename : CString) : List UInt8 → List Server → List UInt8
  | buff, [] => buff
  | buff, server :: rest =>
      if udpListed cfg gamename server then
        udpListLoop cfg gamename (buff ++ serverBytes server) rest
      else udpListLoop cfg gamename buff rest

/-- `SendUDPServerListToClient`: the bytes that are sent, if any. -/
def sendUDPServerListToClient (cfg : Config) (gamename : CString) (servers : List Server) :
    Option (List UInt8) :=
  (udpHeader gamename).map fun udpheader => udpListLoop cfg gamename udpheader servers

/-- `bufsize`, in the arithmetic of `size_t`. -/
def udpBufsize (udpheader : List UInt8) (numservers : UInt64) : UInt64 :=
  udpheader.length.toUInt64 + 6 * (numservers + 1)

@[simp] theorem serverBytes_length (server : Server) : (serverBytes server).length = 6 :=
  rfl

/-- A loop that appends the text of each element that it does not skip. -/
theorem appendLoop_eq {α β : Type} {loop : List β → List α → List β} {keep : α → Bool}
    {text : α → List β} (ends : ∀ buff, loop buff [] = buff)
    (goes : ∀ buff a rest, loop buff (a :: rest) =
      if keep a then loop (buff ++ text a) rest else loop buff rest)
    (buff : List β) (elements : List α) :
    loop buff elements = buff ++ (elements.filter keep).flatMap text := by
  induction elements generalizing buff with
  | nil => rw [ends, List.filter_nil, List.flatMap_nil, List.append_nil]
  | cons a rest ih =>
      rw [goes]
      by_cases kept : keep a = true
      · rw [if_pos kept, ih, List.filter_cons_of_pos kept, List.flatMap_cons, List.append_assoc]
      · rw [if_neg kept, ih, List.filter_cons_of_neg kept]

/-- The loop appends the records of the listed servers in list order. -/
theorem udpListLoop_eq (cfg : Config) (gamename : CString) (buff : List UInt8)
    (servers : List Server) :
    udpListLoop cfg gamename buff servers =
      buff ++ (servers.filter (udpListed cfg gamename)).flatMap serverBytes :=
  appendLoop_eq (fun _ => rfl) (fun _ _ _ => rfl) buff servers

theorem udpListLoop_length (cfg : Config) (gamename : CString) (buff : List UInt8)
    (servers : List Server) :
    (udpListLoop cfg gamename buff servers).length ≤ buff.length + 6 * servers.length := by
  have records : ((servers.filter (udpListed cfg gamename)).flatMap serverBytes).length =
      6 * (servers.filter (udpListed cfg gamename)).length := by
    rw [List.length_flatMap, List.map_congr_left fun server _ => serverBytes_length server,
      List.map_const', List.sum_replicate, smul_eq_mul, Nat.mul_comm]
  have listed := List.length_filter_le (udpListed cfg gamename) servers
  rw [udpListLoop_eq, List.length_append, records]
  omega

theorem udpHeader_length {gamename : CString} {udpheader : List UInt8}
    (header : udpHeader gamename = some udpheader) : udpheader.length ≤ 12 := by
  unfold udpHeader at header
  split at header
  · cases header
  · split at header
    · cases header; decide
    · split at header
      · cases header; decide
      · split at header
        · cases header; decide
        · split at header
          · cases header; decide
          · cases header

/-- A counter that covers the list makes the buffer large enough for the reply. -/
theorem sendUDPServerListToClient_fits {cfg : Config} {gamename : CString} {servers : List Server}
    {udpheader reply : List UInt8} {numservers : UInt64}
    (header : udpHeader gamename = some udpheader)
    (built : sendUDPServerListToClient cfg gamename servers = some reply)
    (counted : numservers.toNat = servers.length) (small : servers.length ≤ 2 ^ 48) :
    reply.length ≤ (udpBufsize udpheader numservers).toNat := by
  have short := udpHeader_length header
  rw [sendUDPServerListToClient, header] at built
  obtain rfl := Option.some.inj built
  have written := udpListLoop_length cfg gamename udpheader servers
  have size : (udpBufsize udpheader numservers).toNat =
      udpheader.length + 6 * (servers.length + 1) := by
    have lengthEq : udpheader.length.toUInt64.toNat = udpheader.length :=
      UInt64.toNat_ofNat_of_lt' (by
        change udpheader.length < 2 ^ 64
        omega)
    rw [udpBufsize, UInt64.toNat_add, UInt64.toNat_mul, UInt64.toNat_add, lengthEq, counted]
    change (udpheader.length + 6 * ((servers.length + 1) % 2 ^ 64) % 2 ^ 64) % 2 ^ 64 = _
    omega
  refine Nat.le_trans written ?_
  rw [size]
  omega

end GSMaster.Lists
