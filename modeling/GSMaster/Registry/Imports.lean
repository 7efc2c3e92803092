import GSMaster.Registry.Server

/-!
# Imports of many servers

The three functions that read servers from elsewhere: the list of another
master, a line of a list file, and the database. Each is the sequence of calls
of `AddServer` it makes, every call with the surroundings it is made in.
-/

namespace GSMaster.Registry

open GSMaster.Text GSMaster.Net GSMaster.Games

/-! ## The list of another master -/

/-- The next address and the two bytes of the next port, in a buffer of six-byte records. -/
def recordAddr (tmp : List UInt8) : InAddr :=
  ⟨tmp.getD 0 0, tmp.getD 1 0, tmp.getD 2 0, tmp.getD 3 0⟩

def recordPort (tmp : List UInt8) : UInt16 :=
  ntohs (bytesShort (tmp.getD 4 0) (tmp.getD 5 0))

/-- One round of the loop of `Parse_UDP_MS_List`. -/
def udpRecordCall (env : Env) (gamename : CString) (tmp : List UInt8) : Option (Env × AddCall) :=
  let port := if stricmpEq gamename (ascii "kingpin") then recordPort tmp - 10 else recordPort tmp
  let ip := inetNtoa (recordAddr tmp)
  (env.gethostbyname ip).map fun addr =>
    (env, ⟨⟨addr, htons port⟩, sendAcknowledge (some gamename), htons port, some gamename, some ip⟩)

/-- The loop of `Parse_UDP_MS_List`, for the records that are left. -/
def udpRecordCalls (env : Nat → Env) (gamename : CString) :
    Nat → Nat → List UInt8 → List (Env × AddCall)
  | 0, _, _ => []
  | records + 1, index, tmp =>
      (udpRecordCall (env index) gamename tmp).toList ++
        udpRecordCalls env gamename records (index + 1) (tmp.drop 6)

/-- `Parse_UDP_MS_List`; the buffer is zero after the bytes of the list. -/
def parseUDPMSList (env : Nat → Env) (tmp : List UInt8) (gamename : CString) (size : Int) :
    List (Env × AddCall) :=
  if size < 6 then [] else udpRecordCalls env gamename (size.toNat / 6) 0 tmp

/-! ## A line of a list file -/

def listSeparators : List UInt8 := ascii ",:\n"

/-- `AddServers_From_List_Execute`, whose loop ends after one round. -/
def addServersFromListExecute (env : Env) (fileBuffer : CString)
    (gamenameFromHttp : Option CString) : Option (Env × AddCall) :=
  match strtok listSeparators (some fileBuffer) with
  | (none, _) => none
  | (some ip, listPtr) =>
      match env.gethostbyname ip with
      | none => none
      | some addr =>
          match strtok listSeparators listPtr with
          | (none, _) => none
          | (some portToken, listPtr) =>
              let queryPort := UInt16.ofInt (atoi portToken)
              if queryPort = 0 then none
              else
                let listToken := match gamenameFromHttp with
                  | some gamename => some gamename
                  | none => (strtok listSeparators listPtr).1
                match listToken with
                | none => none
                | some gamename =>
                    some (env, ⟨⟨addr, htons queryPort⟩, sendAcknowledge (some gamename),
                      htons queryPort, some gamename, some ip⟩)

/-- A line that calls `AddServer` begins with a name that resolves, and gives one port. -/
theorem addServersFromListExecute_some {env : Env} {fileBuffer : CString}
    {gamenameFromHttp : Option CString} {call : Env × AddCall}
    (read : addServersFromListExecute env fileBuffer gamenameFromHttp = some call) :
    ∃ ip listPtr addr port gamename, strtok listSeparators (some fileBuffer) = (some ip, listPtr) ∧
      env.gethostbyname ip = some addr ∧
      call = (env, ⟨⟨addr, port⟩, sendAcknowledge (some gamename), port, some gamename,
        some ip⟩) := by
  unfold addServersFromListExecute at read
  split at read
  · cases read
  · rename_i ip listPtr token
    split at read
    · cases read
    · rename_i addr resolved
      split at read
      · cases read
      · simp only at read
        split at read
        · cases read
        · split at read
          · cases read
          · rename_i gamename _
            exact ⟨ip, listPtr, addr, _, gamename, token, resolved, (Option.some.inj read).symm⟩

/-! ## The database -/

/-- `GSPY_DB_VERSION`. -/
def gspyDbVersion : UInt16 := 1

/-- `fread` of `size` bytes over a buffer: what the file lacks stays as it was. -/
def fread (rest held : List UInt8) (size : Nat) : List UInt8 :=
  rest.take size ++ held.drop (rest.take size).length

/-- The buffer and the game index of each round of the loop of `ReadMasterDBBlob`. -/
def blobRecords : Nat → List UInt8 → List UInt8 → List UInt8 → List (List UInt8 × UInt16)
  | 0, _, _, _ => []
  | rounds + 1, rest, buff, game =>
      let buff := fread rest buff 6
      let game := fread (rest.drop 6) game 2
      (buff, bytesShort (game.getD 0 0) (game.getD 1 0)) ::
        blobRecords rounds (rest.drop 8) buff game

/-- One round of `ReadMasterDBBlob`; an index outside the named games is a fault. -/
def blobRecordCall (env : Env) (buff : List UInt8) (game : UInt16) :
    Option (Option (Env × AddCall)) :=
  let port := recordPort buff
  let ip := inetNtoa (recordAddr buff)
  match env.gethostbyname ip with
  | none => some none
  | some addr =>
      match gameTable[game.toNat]? with
      | none => none
      | some entry =>
          some (some (env, ⟨⟨addr, htons port⟩, sendAcknowledge (some entry.gamename), htons port,
            some entry.gamename, some ip⟩))

def blobRecordCalls (env : Nat → Env) :
    Nat → List (List UInt8 × UInt16) → Option (List (Env × AddCall))
  | _, [] => some []
  | index, (buff, game) :: records => do
      let call ← blobRecordCall (env index) buff game
      let calls ← blobRecordCalls env (index + 1) records
      some (call.toList ++ calls)

/--
`ReadMasterDBBlob` of the bytes of the file. The bytes of `game` are not
initialised before the first record; a file of whole records overwrites them.
-/
def readMasterDBBlob (env : Nat → Env) (file stale : List UInt8) :
    Option (List (Env × AddCall)) :=
  if file.length < 3 then some []
  else if bytesShort (file.getD 0 0) (file.getD 1 0) ≠ gspyDbVersion then some []
  else if file.length < 8 then some []
  else
    blobRecordCalls env 0
      (blobRecords ((file.length - 2 + 7) / 8) (file.drop 2) (List.replicate 6 0) stale)

end GSMaster.Registry
