import GSMaster.Registry.Operations

/-!
# The database file

`GenerateMasterDBBlob` writes a version word and eight bytes for each server:
the address, the port in network order and the index of the game.
-/

namespace GSMaster.Database

open GSMaster.Text GSMaster.Net GSMaster.Games GSMaster.Registry

def blobRecord (server : Server) : List UInt8 :=
  server.ip.sinAddr.bytes ++ shortBytes server.port ++
    shortBytes (gameSpyGetTableNumber server.gamename)

def generateBlobLoop : List UInt8 → List Server → List UInt8
  | buff, [] => buff
  | buff, server :: rest => generateBlobLoop (buff ++ blobRecord server) rest

/-- `GenerateMasterDBBlob`: the bytes of the file. -/
def generateMasterDBBlob (servers : List Server) : List UInt8 :=
  generateBlobLoop (shortBytes gspyDbVersion) servers

/-- `maxsize`, in the arithmetic of `size_t`. -/
def blobMaxsize (numservers : UInt64) : UInt64 :=
  8 * numservers + 2

@[simp] theorem blobRecord_length (server : Server) : (blobRecord server).length = 8 :=
  rfl

theorem generateBlobLoop_eq (buff : List UInt8) (servers : List Server) :
    generateBlobLoop buff servers = buff ++ servers.flatMap blobRecord := by
  induction servers generalizing buff with
  | nil => simp only [generateBlobLoop, List.flatMap_nil, List.append_nil]
  | cons server rest ih => rw [generateBlobLoop, ih, List.flatMap_cons, List.append_assoc]

theorem generateMasterDBBlob_eq (servers : List Server) :
    generateMasterDBBlob servers = shortBytes gspyDbVersion ++ servers.flatMap blobRecord :=
  generateBlobLoop_eq _ servers

theorem generateMasterDBBlob_length (servers : List Server) :
    (generateMasterDBBlob servers).length = 8 * servers.length + 2 := by
  have records : (servers.flatMap blobRecord).length = 8 * servers.length := by
    induction servers with
    | nil => rfl
    | cons server rest ih =>
        rw [List.flatMap_cons, List.length_append, blobRecord_length, ih, List.length_cons]
        omega
  rw [generateMasterDBBlob_eq, List.length_append, records, shortBytes_length, Nat.add_comm]

theorem generateMasterDBBlob_fits {servers : List Server} {numservers : UInt64}
    (counted : numservers.toNat = servers.length) (small : servers.length ≤ 2 ^ 48) :
    (generateMasterDBBlob servers).length ≤ (blobMaxsize numservers).toNat := by
  rw [generateMasterDBBlob_length, blobMaxsize, UInt64.toNat_add, UInt64.toNat_mul, counted]
  change _ ≤ (8 * servers.length % 2 ^ 64 + 2) % 2 ^ 64
  omega

end GSMaster.Database
