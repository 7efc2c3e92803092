import GSMaster.Enctype.RoundTrip
import GSMaster.Lists.TcpReply

/-!
# The bounds of a list over TCP

Before a record is stored the block has room for the longest one. The closing
string of the uncompressed style has no room of its own: it relies on what the
last record has left, and that is too little when the last record starts just
below the point at which the block would have grown.
-/

namespace GSMaster.Lists

open GSMaster.Text GSMaster.Net GSMaster.Registry GSMaster.Library GSMaster.Enctype

/-! ## The output of the encoder -/

/-- What `write_enctype1_encrypted_data` copies to `output`, one piece behind the other. -/
def encryptedPieces (rand : Nat → UInt32) (scrambleData encryptedData : List UInt8)
    (encshare4Data : UInt32) : List (List UInt8) :=
  [[0, 0, 0, 0], [42], [218]] ++ (randBytes rand 17 13).map (fun randout => [randout]) ++
    [scrambleData] ++ (randBytes rand 30 1).map (fun randout => [randout]) ++
    [intBytes encshare4Data] ++ (randBytes rand 31 18).map (fun randout => [randout]) ++
    [encryptedData]

/-- An output buffer of `size` bytes after the pieces have been copied to it. -/
def writtenOutput (size : Nat) (pieces : List (List UInt8)) : BlockWriter UInt8 :=
  pieces.foldl BlockWriter.store (BlockWriter.empty size)

/-- The message is the pieces, the length stored over the first of them. -/
theorem encryptedPieces_flatten (rand : Nat → UInt32) (scrambleData encryptedData : List UInt8)
    (encshare4Data : UInt32) :
    (encryptedPieces rand scrambleData encryptedData encshare4Data).flatten =
      [0, 0, 0, 0] ++
        (writeEnctype1EncryptedData rand scrambleData encryptedData encshare4Data).drop 4 := by
  have bytes : ∀ bytes : List UInt8, (bytes.map fun randout => [randout]).flatten = bytes := by
    intro bytes
    rw [← List.flatMap_def]
    exact List.flatMap_singleton' bytes
  have rest : (writeEnctype1EncryptedData rand scrambleData encryptedData encshare4Data).drop 4 =
      [42, 218] ++ randBytes rand 17 13 ++ scrambleData ++ randBytes rand 30 1 ++
        intBytes encshare4Data ++ randBytes rand 31 18 ++ encryptedData := rfl
  rw [rest]
  simp only [encryptedPieces, List.flatten_append, bytes, List.flatten_cons, List.flatten_nil,
    List.append_nil, List.append_assoc, List.cons_append, List.nil_append]

theorem createEnctype1Buffer_pieces {validateKey : CString} {input output : List UInt8}
    {rand : Nat → UInt32} {enc1key : Enc1Key}
    (created : createEnctype1Buffer validateKey input rand enc1key = some output) :
    ∃ scrambleData encryptedData, scrambleData.length = 16 ∧ encryptedData.length = input.length ∧
      output = writeEnctype1EncryptedData rand scrambleData encryptedData (rand 0) := by
  obtain ⟨masked, scrambled, final, maskedEq, scrambledEq, outputEq⟩ :=
    createEnctype1Buffer_some created
  obtain ⟨again, unmasked, last, lengthEq, scramble, -⟩ := layers_inverse
    (func3 ((randBytes rand 1 16).map masterKeyAt) 16) (Vector.replicate 326 0) maskedEq
  have same : scrambled = again := by
    rw [scrambledEq] at scramble
    exact congrArg Prod.fst (Option.some.inj scramble)
  refine ⟨_, feedbackLayer validateKey enc1key scrambled input.length, ?_, ?_, outputEq⟩
  · rw [obfuscateScrambleData, List.length_map, List.length_map, randBytes_length]
  · rw [feedbackLayer_length, same, lengthEq]

/-- The header and the text need 58 bytes more than the text. -/
theorem writtenOutput_fits (rand : Nat → UInt32) {scrambleData encryptedData : List UInt8}
    (encshare4Data : UInt32) (size : scrambleData.length = 16) :
    (writtenOutput (encryptedData.length * 2 + 100)
      (encryptedPieces rand scrambleData encryptedData encshare4Data)).overrun = false := by
  refine (BlockWriter.Fits.stores (BlockWriter.fits_empty _) ?_).clean
  rw [encryptedPieces_flatten, List.length_append, List.length_drop, write_length _ _ _ _ size]
  change 0 + (4 + _) ≤ encryptedData.length * 2 + 100
  omega

/-! ## The block -/

/-- The writer that a run of the function leaves. -/
def Halt.list : Halt → ListWriter
  | .socketError list => list
  | .outOfTable list => list

def finalList : Except Halt ListWriter → ListWriter
  | .ok list => list
  | .error halt => halt.list

theorem finalList_mapError (run : Except ListWriter ListWriter) :
    finalList (run.mapError .socketError) = BlockWriter.left run := by
  cases run <;> rfl

variable {cfg : Config} {sink : Sink UInt8} {cipher : CipherEnv} {sender : InAddr}
  {gamename challengeKey : CString}
  {encType : UInt16} {bCompressed : Bool} {filter : Option GamespyFilter}

/-- A record is stored inside the capacity. -/
theorem listServer_fits {least : Nat} {list : ListWriter} (fits : list.Fits least)
    (server : Server) :
    (BlockWriter.left (listServer sink sender encType bCompressed list server)).Fits least := by
  have flushes : (BlockWriter.left
      (flushBlock sink encType list (recordRoom bCompressed))).Fits least := by
    unfold flushBlock
    split
    · exact fits
    · exact fits.flush sink _ maxGspyMtuSize
  rw [listServer_eq, writeEntry]
  cases flushed : flushBlock sink encType list (recordRoom bCompressed) with
  | error failed =>
      rw [flushed] at flushes
      exact flushes
  | ok ready =>
      rw [flushed] at flushes
      have still : ready.Fits least := flushes
      have enough : recordRoom bCompressed < gspyBufferGrowbySize := by cases bCompressed <;> decide
      obtain ⟨reserved, room⟩ := still.reserve enough
      have short := entryBytes_length_le_room bCompressed
        (namedEntry sender encType bCompressed list.block.length server)
      refine BlockWriter.Fits.stores reserved ?_
      rw [BlockWriter.reserve_block, entryPieces_flatten]
      omega

theorem listServers_fits {least : Nat} {list : ListWriter} (fits : list.Fits least)
    (listed : List Server) :
    (BlockWriter.left
      (listed.foldlM (listServer sink sender encType bCompressed) list)).Fits least := by
  induction listed generalizing list with
  | nil => exact fits
  | cons server rest ih =>
      rw [List.foldlM_cons]
      exact BlockWriter.left_bind (P := BlockWriter.Fits least)
        (listServer_fits fits server) fun next still => ih still

theorem startList_fits (bCompressed : Bool) :
    (startList bCompressed).Fits gspyBufferGrowbySize := by
  cases bCompressed with
  | true => exact BlockWriter.fits_empty _
  | false => exact (BlockWriter.fits_empty _).store (by decide)

/-- The closing string of the compressed style has room of its own. -/
theorem closeList_fits {list : ListWriter} (fits : list.Fits gspyBufferGrowbySize) :
    (BlockWriter.left (closeList sink true list)).Fits gspyBufferGrowbySize := by
  unfold closeList
  rw [if_pos rfl]
  refine BlockWriter.left_bind (P := BlockWriter.Fits gspyBufferGrowbySize)
    (fits.flush sink 7 maxGspyMtuSize) fun flushed still => ?_
  obtain ⟨reserved, room⟩ := still.reserve (show 7 < gspyBufferGrowbySize by decide)
  change ([ascii "\\", finalstring].foldl BlockWriter.store
    (flushed.reserve 7 gspyBufferGrowbySize)).Fits gspyBufferGrowbySize
  refine reserved.stores ?_
  change (flushed.reserve 7 gspyBufferGrowbySize).block.length + 7 ≤ _
  rw [BlockWriter.reserve_block]
  omega

/-- An enciphered list stores nothing behind the capacity. -/
theorem sendList_enciphered_fits {list : ListWriter} (fits : list.Fits gspyBufferGrowbySize) :
    (finalList (sendList sink cipher challengeKey gamespyEnctype1 bCompressed list)).Fits
      gspyBufferGrowbySize := by
  have filled : (fillEmpty list).Fits gspyBufferGrowbySize := by
    unfold fillEmpty
    split
    · rename_i empty
      change ([ascii "\\", finalstring].foldl BlockWriter.store list).Fits gspyBufferGrowbySize
      refine fits.stores ?_
      rw [empty]
      exact Nat.le_trans (by decide) fits.grown
    · exact fits
  unfold sendList
  rw [if_pos rfl]
  simp only
  split
  · exact filled
  · rw [finalList_mapError]
    exact filled.sendChunks sink _ _

/-! ## The uncompressed style -/

/-- The bytes before the closing string of an uncompressed list of these servers. -/
def textLength (encType : UInt16) (listed : List Server) : Nat :=
  1 + (listed.flatMap (record encType false)).length

@[simp] theorem textLength_snoc (encType : UInt16) (listed : List Server) (server : Server) :
    textLength encType (listed ++ [server]) =
      textLength encType listed + (record encType false server).length := by
  simp [textLength, Nat.add_assoc]

/-- The last record adds at most 25 bytes. -/
theorem textLength_dropLast (encType : UInt16) (listed : List Server) :
    textLength encType listed.dropLast ≤ textLength encType listed ∧
      textLength encType listed ≤ textLength encType listed.dropLast + 25 := by
  cases listed using List.reverseRecOn with
  | nil => exact ⟨Nat.le_refl _, Nat.le_add_right _ _⟩
  | append_singleton listed server =>
      have short : (record encType false server).length ≤ 25 := entryBytes_length_le _
      rw [List.dropLast_concat, textLength_snoc]
      omega

/-- The block has not grown: each record found room in it, and it is the text so far. -/
structure Ungrown (encType : UInt16) (listed : List Server) (list : ListWriter) : Prop where
  fits : list.Fits 511
  capacity : list.capacity = 511
  text : list.block.length = textLength encType listed
  room : textLength encType listed.dropLast ≤ 484

/-- The block has grown before the last record or an earlier one. -/
structure Grown (encType : UInt16) (listed : List Server) (list : ListWriter) : Prop where
  fits : list.Fits 1022
  reached : 484 < textLength encType listed.dropLast

/-- What a run over the listed servers leaves; a send fails only when the block has grown. -/
def Reaches (encType : UInt16) (listed : List Server) : Except ListWriter ListWriter → Prop
  | .ok list => Ungrown encType listed list ∨ Grown encType listed list
  | .error list => Grown encType listed list

/-- A record that leaves the block below a packet is stored as it is, without a send. -/
theorem listServer_unsent (plain : encType ≠ gamespyEnctype1) {list : ListWriter}
    (packet : list.block.length + 26 < 1022) (server : Server) :
    listServer sink sender encType false list server =
      .ok ((entryPieces false (entryOf encType server)).foldl BlockWriter.store
        (list.reserve 26 511)) := by
  have flushed : list.flush sink (recordRoom false) maxGspyMtuSize = .ok list :=
    BlockWriter.flush_below packet
  have early : ¬ maxGspyMtuSize ≤ list.block.length + recordRoom false := Nat.not_le.mpr packet
  have kept : overwritten encType false list.block.length = false := by
    simp [overwritten, chunkDue, early]
  rw [listServer_eq, writeEntry, flushBlock, if_neg plain, flushed, namedEntry, kept]
  rfl

theorem Ungrown.listServer (plain : encType ≠ gamespyEnctype1) {listed : List Server}
    {list : ListWriter} (ungrown : Ungrown encType listed list) (server : Server) :
    Reaches encType (listed ++ [server]) (listServer sink sender encType false list server) := by
  obtain ⟨fits, capacity, text, room⟩ := ungrown
  have short := (textLength_dropLast encType listed).2
  have stores :
      (BlockWriter.left (Lists.listServer sink sender encType false list server)).Fits _ :=
    listServer_fits fits server
  rw [listServer_unsent plain (by omega)] at stores ⊢
  by_cases small : textLength encType listed ≤ 484
  · refine Or.inl ⟨stores, ?_, ?_, by rwa [List.dropLast_concat]⟩
    · rw [BlockWriter.stores_capacity, BlockWriter.reserve_below _ (by omega), capacity]
    · rw [BlockWriter.stores_block, List.length_append, entryPieces_flatten,
        BlockWriter.reserve_block, textLength_snoc, text]
      rfl
  · have grows : list.capacity ≤ list.block.length + 26 := by omega
    refine Or.inr ⟨⟨stores.clean, stores.inside, ?_⟩, by
      rw [List.dropLast_concat]
      omega⟩
    rw [BlockWriter.stores_capacity, BlockWriter.reserve, if_pos grows, capacity]

/-- What has been reached stays reached. -/
theorem reached_snoc {listed : List Server} (reached : 484 < textLength encType listed.dropLast)
    (server : Server) : 484 < textLength encType (listed ++ [server]).dropLast := by
  rw [List.dropLast_concat]
  exact Nat.lt_of_lt_of_le reached (textLength_dropLast encType listed).1

theorem Grown.listServer {listed : List Server} {list : ListWriter}
    (grown : Grown encType listed list) (server : Server) :
    Reaches encType (listed ++ [server]) (listServer sink sender encType false list server) := by
  have stores :
      (BlockWriter.left (Lists.listServer sink sender encType false list server)).Fits _ :=
    listServer_fits grown.fits server
  have reached := reached_snoc grown.reached server
  cases run : Lists.listServer sink sender encType false list server with
  | ok next =>
      rw [run] at stores
      exact Or.inr ⟨stores, reached⟩
  | error failed =>
      rw [run] at stores
      exact ⟨stores, reached⟩

theorem listServers_reaches (plain : encType ≠ gamespyEnctype1) (listed : List Server) :
    Reaches encType listed
      (listed.foldlM (listServer sink sender encType false) (startList false)) := by
  induction listed using List.reverseRecOn with
  | nil => exact Or.inl ⟨startList_fits false, rfl, rfl, show 1 ≤ 484 by decide⟩
  | append_singleton listed server ih =>
      rw [List.foldlM_append]
      cases run : listed.foldlM (listServer sink sender encType false) (startList false) with
      | ok list =>
          rw [run] at ih
          change Reaches _ _ ([server].foldlM (listServer sink sender encType false) list)
          rw [List.foldlM_cons]
          simp only [List.foldlM_nil, bind_pure]
          rcases ih with ungrown | grown
          · exact ungrown.listServer plain server
          · exact grown.listServer server
      | error failed =>
          rw [run] at ih
          have grown : Grown encType listed failed := ih
          exact ⟨grown.fits, reached_snoc grown.reached server⟩

/-- The part of the function after the loop, without the encoder. -/
theorem finalList_sendList (plain : encType ≠ gamespyEnctype1) (list : ListWriter) :
    finalList (sendList sink cipher challengeKey encType bCompressed list) =
      BlockWriter.left (closeList sink bCompressed list >>= fun list =>
        list.send sink list.block) := by
  rw [sendList, if_neg plain, finalList_mapError]

/-- The closing string is stored behind what has not grown. -/
theorem Ungrown.sendList_overrun (plain : encType ≠ gamespyEnctype1) {listed : List Server}
    {list : ListWriter} (ungrown : Ungrown encType listed list) :
    (finalList (sendList sink cipher challengeKey encType false list)).overrun = false ↔
      textLength encType listed ≤ 505 := by
  obtain ⟨fits, capacity, text, room⟩ := ungrown
  have short := (textLength_dropLast encType listed).2
  have below : list.flush sink 6 maxGspyMtuSize = .ok list :=
    BlockWriter.flush_below (show list.block.length + 6 < 1022 by omega)
  have closes : closeList sink false list = .ok (list.store finalstring) := by
    rw [closeList, if_neg Bool.false_ne_true, below]
    rfl
  have sent : (BlockWriter.left
      ((list.store finalstring).send sink (list.store finalstring).block)).overrun =
      (list.store finalstring).overrun := by
    unfold BlockWriter.send
    split <;> rfl
  have six : finalstring.length = 6 := rfl
  rw [finalList_sendList plain, closes]
  change (BlockWriter.left ((list.store finalstring).send sink _)).overrun = false ↔ _
  rw [sent, BlockWriter.store_overrun fits, capacity, text, six]
  omega

/-- In a block of 1022 bytes there is room for the closing string. -/
theorem Grown.sendList_fits (plain : encType ≠ gamespyEnctype1) {listed : List Server}
    {list : ListWriter} (grown : Grown encType listed list) :
    (finalList (sendList sink cipher challengeKey encType false list)).Fits 1022 := by
  rw [finalList_sendList plain]
  refine BlockWriter.left_bind (P := BlockWriter.Fits 1022) ?_ fun closed still =>
    still.send sink closed.block
  have flushes := grown.fits.flush sink 6 maxGspyMtuSize
  unfold closeList
  rw [if_neg Bool.false_ne_true]
  cases run : list.flush sink 6 maxGspyMtuSize with
  | ok flushed =>
      rw [run] at flushes
      have still : flushed.Fits 1022 := flushes
      have room : flushed.block.length + 6 < 1022 :=
        BlockWriter.flush_room (show 6 < maxGspyMtuSize by decide) run
      exact still.store ((Nat.le_of_lt room).trans still.grown)
  | error failed =>
      rw [run] at flushes
      exact flushes

/-! ## The whole function -/

/--
A plain list in the uncompressed style whose last record starts at 484 bytes or
before, where the block does not grow, and ends behind 505, where the closing
string does not fit into 511.
-/
def ClosesOutside (cfg : Config) (gamename : CString) (encType : UInt16) (bCompressed : Bool)
    (filter : Option GamespyFilter) (servers : List Server) : Prop :=
  gamename ≠ [] ∧ encType ≠ gamespyEnctype1 ∧ bCompressed = false ∧
    textLength encType (listedServers cfg gamename filter servers).dropLast ≤ 484 ∧
    505 < textLength encType (listedServers cfg gamename filter servers)

instance : Decidable (ClosesOutside cfg gamename encType bCompressed filter servers) :=
  inferInstanceAs (Decidable (_ ∧ _))

/-- Whatever the encoder is given, it stores the message inside its allocation. -/
def EncoderConfined (challengeKey : CString) (cipher : CipherEnv) : Prop :=
  ∀ input output, createEnctype1Buffer challengeKey input cipher.rand cipher.enc1key =
      some output →
    ∃ scrambleData encryptedData,
      output = writeEnctype1EncryptedData cipher.rand scrambleData encryptedData (cipher.rand 0) ∧
      (writtenOutput (input.length * 2 + 100)
        (encryptedPieces cipher.rand scrambleData encryptedData (cipher.rand 0))).overrun = false

theorem encoderConfined (challengeKey : CString) (cipher : CipherEnv) :
    EncoderConfined challengeKey cipher := by
  intro input output created
  obtain ⟨scrambleData, encryptedData, size, length, written⟩ := createEnctype1Buffer_pieces created
  refine ⟨scrambleData, encryptedData, written, ?_⟩
  rw [← length]
  exact writtenOutput_fits cipher.rand (cipher.rand 0) size

/-- The list that a run leaves is the one it ends or fails at. -/
theorem finalList_bind {P : ListWriter → Prop} {run : Except ListWriter ListWriter}
    {next : ListWriter → Except Halt ListWriter} (early : P (BlockWriter.left run))
    (later : ∀ list, P list → P (finalList (next list))) :
    P (finalList (run.mapError .socketError >>= next)) := by
  cases run with
  | ok list => exact later list early
  | error list => exact early

/-- Lists that are enciphered or in the compressed style stay inside their block. -/
theorem sendGameSpyListToClient_fits
    (roomy : encType = gamespyEnctype1 ∨ bCompressed = true) (servers : List Server) :
    (finalList (sendGameSpyListToClient cfg sink cipher sender gamename challengeKey encType
      bCompressed filter servers)).Fits gspyBufferGrowbySize := by
  by_cases named : gamename = []
  · have ended : sendGameSpyListToClient cfg sink cipher sender gamename challengeKey encType
        bCompressed filter servers = .ok (BlockWriter.empty gspyBufferGrowbySize) := if_pos named
    rw [ended]
    exact BlockWriter.fits_empty _
  rw [sendGameSpyListToClient_run cfg sink cipher sender named]
  refine finalList_bind (P := BlockWriter.Fits gspyBufferGrowbySize)
    (listServers_fits (startList_fits bCompressed) _) fun list still => ?_
  by_cases enciphered : encType = gamespyEnctype1
  · rw [enciphered]
    exact sendList_enciphered_fits still
  · rw [finalList_sendList enciphered, roomy.resolve_left enciphered]
    exact BlockWriter.left_bind (P := BlockWriter.Fits gspyBufferGrowbySize)
      (closeList_fits still) fun closed fits => fits.send sink closed.block

/-- A plain list in the uncompressed style stays inside unless it closes outside. -/
theorem sendGameSpyListToClient_plain_overrun (named : gamename ≠ [])
    (plain : encType ≠ gamespyEnctype1) (servers : List Server) :
    (finalList (sendGameSpyListToClient cfg sink cipher sender gamename challengeKey encType false
        filter servers)).overrun = false ↔
      ¬ (textLength encType (listedServers cfg gamename filter servers).dropLast ≤ 484 ∧
        505 < textLength encType (listedServers cfg gamename filter servers)) := by
  have reaches : Reaches encType (listedServers cfg gamename filter servers)
      ((listedServers cfg gamename filter servers).foldlM (listServer sink sender encType false)
        (startList false)) := listServers_reaches plain _
  rw [sendGameSpyListToClient_run cfg sink cipher sender named]
  cases run : (listedServers cfg gamename filter servers).foldlM
      (listServer sink sender encType false) (startList false) with
  | ok list =>
      rw [run] at reaches
      change (finalList (sendList sink cipher challengeKey encType false list)).overrun = false ↔ _
      rcases reaches with ungrown | grown
      · rw [ungrown.sendList_overrun plain, not_and, Nat.not_lt]
        exact ⟨fun short _ => short, fun short => short ungrown.room⟩
      · exact iff_of_true (grown.sendList_fits plain).clean fun outside =>
          absurd grown.reached (Nat.not_lt.mpr outside.1)
  | error list =>
      rw [run] at reaches
      have grown : Grown encType (listedServers cfg gamename filter servers) list := reaches
      exact iff_of_true grown.fits.clean fun outside =>
        absurd grown.reached (Nat.not_lt.mpr outside.1)

/--
Every byte of a list is stored inside the block, and every byte of an
enciphered one inside its own, unless the closing string is stored outside.
-/
theorem sendGameSpyListToClient_confined_iff (cfg : Config) (sink : Sink UInt8)
    (cipher : CipherEnv) (sender : InAddr) (gamename challengeKey : CString) (encType : UInt16)
    (bCompressed : Bool) (filter : Option GamespyFilter) (servers : List Server) :
    (finalList (sendGameSpyListToClient cfg sink cipher sender gamename challengeKey encType
        bCompressed filter servers)).overrun = false ∧ EncoderConfined challengeKey cipher ↔
      ¬ ClosesOutside cfg gamename encType bCompressed filter servers := by
  rw [and_iff_left (encoderConfined challengeKey cipher)]
  by_cases roomy : encType = gamespyEnctype1 ∨ bCompressed = true
  · refine iff_of_true (sendGameSpyListToClient_fits roomy servers).clean ?_
    rintro ⟨named, plain, uncompressed, outside⟩
    rcases roomy with enciphered | compressed
    · exact plain enciphered
    · rw [uncompressed] at compressed
      cases compressed
  · rw [not_or, Bool.not_eq_true] at roomy
    obtain ⟨plain, uncompressed⟩ := roomy
    subst uncompressed
    by_cases named : gamename = []
    · have ended : sendGameSpyListToClient cfg sink cipher sender gamename challengeKey encType
          false filter servers = .ok (BlockWriter.empty gspyBufferGrowbySize) := if_pos named
      rw [ended]
      exact iff_of_true rfl fun outside => outside.1 named
    · rw [sendGameSpyListToClient_plain_overrun named plain]
      exact not_congr ⟨fun outside => ⟨named, plain, rfl, outside⟩,
        fun outside => outside.2.2.2⟩

/-- Twenty servers with records of 24 bytes and one with a record of 25. -/
def crowdedServers : List Server :=
  (List.range 20).map (fun i => { answeredServer with
      ip := ⟨⟨10, 100, 100, 100 + i.toUInt8⟩, htons 27910⟩, port := htons 27910 }) ++
    [{ answeredServer with
      ip := ⟨⟨100, 100, 100, 100⟩, htons 27910⟩, port := htons 27910 }]

theorem crowdedServers_listed :
    textLength 0 (listedServers defaultConfig (ascii "unreal") none crowdedServers).dropLast = 481 ∧
      textLength 0 (listedServers defaultConfig (ascii "unreal") none crowdedServers) = 506 := by
  decide +kernel

/-- The closing string of their list ends at 512 bytes in a block of 511. -/
theorem sendGameSpyListToClient_overruns :
    ¬ (finalList (sendGameSpyListToClient defaultConfig openSocket
      ⟨fun _ => 0, ⟨ByteTable.ofFn id, 0, 0, 0, 0, 0⟩⟩ ⟨10, 0, 0, 1⟩ (ascii "unreal")
      (ascii "HKUGFD") 0 false none crowdedServers)).overrun = false := by
  rw [sendGameSpyListToClient_plain_overrun (by decide) (by decide), crowdedServers_listed.1,
    crowdedServers_listed.2]
  decide

end GSMaster.Lists
