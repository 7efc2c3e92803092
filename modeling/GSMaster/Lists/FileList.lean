import GSMaster.Lists.UdpList

/-!
# The list files

`GenerateServersList` writes a text file for each game of the table, with a
line for each listed server.
-/

namespace GSMaster.Lists

open GSMaster.Text GSMaster.Net GSMaster.Games GSMaster.Registry

/-- `MAX_PATH`, the size of `serverFile`. -/
def maxPath : Nat := 256

/-- `tempStr`, a buffer of 23 bytes. -/
def serverLine (server : Server) : List UInt8 :=
  (inetNtoa server.ip.sinAddr ++ ascii ":" ++ decimal (ntohs server.port).toNat ++
    ascii "\n").take 22

/-- The loop over the servers, with what has been written to the file. -/
def serversFileLoop (cfg : Config) (gamename : CString) : List UInt8 → List Server → List UInt8
  | written, [] => written
  | written, server :: rest =>
      if udpListed cfg gamename server then
        serversFileLoop cfg gamename (written ++ serverLine server) rest
      else serversFileLoop cfg gamename written rest

/--
`GenerateServersList`: the names and the contents of the files it writes. A
file that `fopen` refuses is left out.
-/
def generateServersList (cfg : Config) (bGenerateServerList : Bool)
    (serverListGenerationPath : CString) (fopen : CString → Bool) (servers : List Server) :
    List (CString × List UInt8) :=
  if bGenerateServerList = false ∨ serverListGenerationPath = [] then []
  else
    gameTable.filterMap fun entry =>
      let serverFile := (serverListGenerationPath ++ ascii "\\" ++ entry.gamename ++
        ascii ".txt").take (maxPath - 1)
      if fopen serverFile then some (serverFile, serversFileLoop cfg entry.gamename [] servers)
      else none

/-- A file has the lines of the listed servers in list order. -/
theorem serversFileLoop_eq (cfg : Config) (gamename : CString) (written : List UInt8)
    (servers : List Server) :
    serversFileLoop cfg gamename written servers =
      written ++ (servers.filter (udpListed cfg gamename)).flatMap serverLine :=
  appendLoop_eq (fun _ => rfl) (fun _ _ _ => rfl) written servers

/-- Each file belongs to a game of the table. -/
theorem mem_generateServersList {cfg : Config} {bGenerateServerList : Bool}
    {serverListGenerationPath : CString} {fopen : CString → Bool} {servers : List Server}
    {file : CString × List UInt8}
    (member : file ∈ generateServersList cfg bGenerateServerList serverListGenerationPath fopen
      servers) :
    ∃ entry ∈ gameTable,
      file.2 = (servers.filter (udpListed cfg entry.gamename)).flatMap serverLine := by
  unfold generateServersList at member
  split at member
  · cases member
  · obtain ⟨entry, inside, made⟩ := List.mem_filterMap.mp member
    simp only at made
    split at made
    · cases made
      exact ⟨entry, inside, serversFileLoop_eq cfg entry.gamename [] servers⟩
    · cases made

end GSMaster.Lists
