import GSMaster.Library.RecordStream
import GSMaster.Lists.TcpReply
import GSMaster.Net.Resolver

/-!
# What a client reads in a list

A client takes a list apart into addresses and ports. The records of neither
style have a count or a length, and an address may begin like the closing text;
even so a list of either style is read back as the servers that it lists.
-/

namespace GSMaster.Lists

open GSMaster.Text GSMaster.Net GSMaster.Registry GSMaster.Library GSMaster.Enctype

/-! ## Readers -/

/-- Six bytes, unless the closing text is all that is left. -/
def readRecord (stream : List UInt8) : Option (Entry × List UInt8) :=
  if stream = ascii "\\final\\" then none
  else match stream with
    | a :: b :: c :: d :: low :: high :: rest => some ((⟨a, b, c, d⟩, bytesShort low high), rest)
    | _ => none

def colon : UInt8 := 58

/-- The text of an address up to a colon, and the number of a port up to a backslash. -/
def readEntry (stream : List UInt8) : Option (Entry × List UInt8) :=
  if (ascii "ip\\").isPrefixOf stream then
    let text := stream.drop 3
    let behind := (text.dropWhile (· != colon)).drop 1
    (dottedQuad (text.takeWhile (· != colon))).map fun addr =>
      ((addr, htons (atoi (behind.takeWhile (· != backslash))).toNat.toUInt16),
        (behind.dropWhile (· != backslash)).drop 1)
  else none

/-- The addresses and ports of a list of either style; the text style begins with a backslash. -/
def readList (bCompressed : Bool) (list : List UInt8) : List Entry :=
  if bCompressed then readStream readRecord list else readStream readEntry (list.drop 1)

/-! ## The two styles -/

/-- Behind a record there is never a single byte, so no record can be taken for the closing text. -/
theorem record_delimits :
    Delimits (entryBytes true) id readRecord fun rest => rest.length ≠ 1 where
  nonempty entry := List.cons_ne_nil _ _
  more entry rest _ := by
    change rest.length + 6 ≠ 1
    omega
  reads entry rest behind := by
    have bytes : entryBytes true entry ++ rest =
        entry.1.a :: entry.1.b :: entry.1.c :: entry.1.d :: entry.2.toUInt8 ::
          (entry.2 >>> 8).toUInt8 :: rest := rfl
    have apart : entryBytes true entry ++ rest ≠ ascii "\\final\\" := by
      intro same
      have length := congrArg List.length same
      change rest.length + 6 = 7 at length
      omega
    rw [bytes] at apart ⊢
    rw [readRecord, if_neg apart, bytesShort_shortBytes]
    rfl

theorem takeWhile_ne {stop : UInt8} {text : CString} (plain : stop ∉ text) (rest : CString) :
    (text ++ stop :: rest).takeWhile (· != stop) = text ∧
      ((text ++ stop :: rest).dropWhile (· != stop)).drop 1 = rest := by
  have passes : ∀ c ∈ text, (c != stop) = true := fun c member =>
    bne_iff_ne.mpr fun same => plain (same ▸ member)
  have stops : ¬ (stop != stop) = true := by simp
  constructor
  · rw [List.takeWhile_append_of_pos passes, List.takeWhile_cons_of_neg (p := (· != stop)) stops,
      List.append_nil]
  · rw [List.dropWhile_append_of_pos passes, List.dropWhile_cons_of_neg (p := (· != stop)) stops,
      List.drop_one, List.tail_cons]

theorem isDigit_ne {c : UInt8} (digit : isDigit c = true) : c ≠ colon ∧ c ≠ backslash := by
  obtain ⟨value, rfl⟩ := exists_digit digit
  revert value
  decide

theorem inetNtoa_colon (addr : InAddr) : colon ∉ inetNtoa addr := by
  have number (value : Nat) : colon ∉ decimal value := fun member =>
    (isDigit_ne (isDigit_of_mem_decimal member)).1 rfl
  have point : colon ∉ ascii "." := by decide
  simp only [inetNtoa, List.mem_append, number, point, or_self, not_false_eq_true]

theorem atoi_port (port : UInt16) :
    htons (atoi (decimal (ntohs port).toNat)).toNat.toUInt16 = port := by
  have small : (ntohs port).toNat < 2 ^ 31 := Nat.lt_trans (ntohs port).toNat_lt (by decide)
  rw [atoi_decimal small, Int.toNat_natCast]
  have back : (ntohs port).toNat.toUInt16 = ntohs port := UInt16.ofNat_toNat
  rw [back, htons_ntohs]

theorem entry_delimits : Delimits (entryBytes false) id readEntry fun _ => True where
  nonempty entry := by
    change ascii "ip\\" ++ _ ++ _ ++ _ ++ _ ≠ []
    simp [ascii]
  more _ _ _ := trivial
  reads entry rest _ := by
    have bytes : entryBytes false entry ++ rest = ascii "ip\\" ++ (inetNtoa entry.1 ++ colon ::
        (decimal (ntohs entry.2).toNat ++ backslash :: rest)) := by
      change (ascii "ip\\" ++ inetNtoa entry.1 ++ ascii ":" ++ decimal (ntohs entry.2).toNat ++
        ascii "\\") ++ rest = _
      simp only [List.append_assoc]
      rfl
    have number : backslash ∉ decimal (ntohs entry.2).toNat := fun member =>
      (isDigit_ne (isDigit_of_mem_decimal member)).2 rfl
    obtain ⟨address, behind⟩ := takeWhile_ne (inetNtoa_colon entry.1)
      (decimal (ntohs entry.2).toNat ++ backslash :: rest)
    obtain ⟨port, left⟩ := takeWhile_ne number rest
    have starts : (ascii "ip\\").isPrefixOf (entryBytes false entry ++ rest) = true := by
      rw [bytes, List.isPrefixOf_iff_prefix]
      exact List.prefix_append ..
    have text : (entryBytes false entry ++ rest).drop 3 = inetNtoa entry.1 ++
        colon :: (decimal (ntohs entry.2).toNat ++ backslash :: rest) := by
      rw [bytes]
      rfl
    rw [readEntry, if_pos starts, text]
    simp only [address, behind, port, left, dottedQuad_inetNtoa, Option.map_some, atoi_port, id,
      Prod.mk.eta]

/-! ## Lists -/

theorem readStream_records (entries : List Entry) {closing : List UInt8}
    (closes : closing = [] ∨ closing = ascii "\\final\\") :
    readStream readRecord (entries.flatMap (entryBytes true) ++ closing) = entries := by
  refine (record_delimits.readStream_eq ?_ ?_ entries).trans (List.map_id entries)
  · rcases closes with rfl | rfl
    · decide
    · decide
  · rcases closes with rfl | rfl
    · rfl
    · rfl

theorem readStream_entries (entries : List Entry) {closing : List UInt8}
    (closes : closing = [] ∨ closing = ascii "final\\") :
    readStream readEntry (entries.flatMap (entryBytes false) ++ closing) = entries := by
  refine (entry_delimits.readStream_eq trivial ?_ entries).trans (List.map_id entries)
  rcases closes with rfl | rfl
  · rfl
  · rfl

/-- Every list is read as the entries that it is made of, in their order. -/
theorem readList_listText (encType : UInt16) (bCompressed : Bool) (entries : List Entry) :
    readList bCompressed (listText encType bCompressed entries) = entries := by
  unfold readList listText closing
  cases bCompressed with
  | true =>
      have whole := readStream_records entries (Or.inl rfl)
      rw [List.append_nil] at whole
      simp only [if_true, List.nil_append]
      split
      · split
        · rename_i empty
          rw [empty] at whole
          rw [← whole]
          rfl
        · exact whole
      · exact readStream_records entries (Or.inr rfl)
  | false =>
      have whole := readStream_entries entries (Or.inl rfl)
      rw [List.append_nil] at whole
      have filled : ascii "\\" ++ entries.flatMap (entryBytes false) ≠ [] :=
        List.cons_ne_nil _ _
      have behind (rest : List UInt8) : (ascii "\\" ++ rest).drop 1 = rest := rfl
      simp only [Bool.false_eq_true, if_false, if_neg filled]
      split
      · rw [behind]
        exact whole
      · rw [List.append_assoc, behind]
        exact readStream_entries entries (Or.inr rfl)

/-- Two lists with one text are the same. -/
theorem listText_inj {encType : UInt16} {bCompressed : Bool} {first second : List Entry} :
    listText encType bCompressed first = listText encType bCompressed second ↔
      first = second := by
  refine ⟨fun same => ?_, congrArg _⟩
  rw [← readList_listText encType bCompressed first, same, readList_listText]

/-! ## The answer -/

/-- The blocks that are sent are together these bytes. -/
def Delivers (sent : Except Halt ListWriter) (bytes : List UInt8) : Prop :=
  ∃ done, sent = .ok done ∧ done.sent.flatten = bytes

/-- The answer is the text, or the message that the cipher makes of it where it makes one. -/
def AnsweredWith (cipher : CipherEnv) (challengeKey : CString) (encType : UInt16)
    (text : List UInt8) (sent : Except Halt ListWriter) : Prop :=
  if encType = gamespyEnctype1 then
    ∀ bytes, createEnctype1Buffer challengeKey text cipher.rand cipher.enc1key = some bytes →
      Delivers sent bytes
  else Delivers sent text

theorem delivers_iff {sent : Except Halt ListWriter} {bytes : List UInt8} :
    Delivers sent bytes ↔
      sent.toOption.map (fun list => list.sent.flatten) = some bytes := by
  cases sent with
  | ok done => simp [Delivers, Except.toOption]
  | error halt => simp [Delivers, Except.toOption]

/-- A request is answered with the text of the named entries. -/
theorem sendGameSpyListToClient_text {sink : Sink UInt8} (full : sink.Full) (cfg : Config)
    (cipher : CipherEnv) (sender : InAddr) {gamename : CString} (named : gamename ≠ [])
    (challengeKey : CString) (encType : UInt16) (bCompressed : Bool)
    (filter : Option GamespyFilter) (servers : List Server) :
    AnsweredWith cipher challengeKey encType
      (listText encType bCompressed (namedEntries sender encType bCompressed
        (headerLength bCompressed) (listedServers cfg gamename filter servers)))
      (sendGameSpyListToClient cfg sink cipher sender gamename challengeKey encType bCompressed
        filter servers) := by
  have sent := (sendGameSpyListToClient_full full cfg cipher sender named challengeKey encType
    bCompressed filter servers).1
  rw [encoded] at sent
  rw [AnsweredWith]
  split
  · rename_i enciphered
    intro bytes created
    rw [if_pos enciphered, created] at sent
    exact delivers_iff.mpr sent
  · rename_i plain
    rw [if_neg plain] at sent
    exact delivers_iff.mpr sent

/-! ## The exact reply -/

section Exact

variable {sink : Sink UInt8} (full : sink.Full) (cfg : Config) (cipher : CipherEnv)
  (sender : InAddr) {gamename : CString} (named : gamename ≠ []) (challengeKey : CString)
  (encType : UInt16) (bCompressed : Bool) (filter : Option GamespyFilter) (servers : List Server)

include full named

theorem sendGameSpyListToClient_reply_iff :
    (sendGameSpyListToClient cfg sink cipher sender gamename challengeKey encType bCompressed
        filter servers).toOption.map (fun list => list.sent.flatten) =
      reply cfg cipher gamename challengeKey encType bCompressed filter servers ↔
      ∀ server ∈ openers sender encType bCompressed (headerLength bCompressed)
        (listedServers cfg gamename filter servers), server.ip.sinAddr = sender := by
  have sent := (sendGameSpyListToClient_full full cfg cipher sender named challengeKey encType
    bCompressed filter servers).1
  rw [sent, reply, ← namedEntries_eq_iff]
  by_cases enciphered : encType = gamespyEnctype1
  · -- nothing is sent before the end, so the texts are the same
    have same : namedEntries sender encType bCompressed (headerLength bCompressed)
        (listedServers cfg gamename filter servers) =
          (listedServers cfg gamename filter servers).map (entryOf encType) := by
      refine (namedEntries_eq_iff _ _).mpr ?_
      rw [openers_eq_nil (Or.inl enciphered)]
      exact fun _ member => nomatch member
    exact iff_of_true (by rw [same]) same
  · rw [encoded, encoded, if_neg enciphered, if_neg enciphered, Option.some.injEq, listText_inj]

/--
When every send succeeds in full, the blocks of a reply are together the list
that was asked for and none is longer than a packet, exactly if every server
whose record begins a new block has the address of the client.
-/
theorem sendGameSpyListToClient_exact_iff :
    SendsInPackets
        (sendGameSpyListToClient cfg sink cipher sender gamename challengeKey encType bCompressed
          filter servers)
        (reply cfg cipher gamename challengeKey encType bCompressed filter servers) ↔
      ∀ server ∈ openers sender encType bCompressed (headerLength bCompressed)
        (listedServers cfg gamename filter servers), server.ip.sinAddr = sender := by
  have within := (sendGameSpyListToClient_full full cfg cipher sender named challengeKey encType
    bCompressed filter servers).2
  rw [SendsInPackets, and_iff_left within]
  exact sendGameSpyListToClient_reply_iff full cfg cipher sender named challengeKey encType
    bCompressed filter servers

end Exact

theorem sendGameSpyListToClient_exact_iff_unreal :
    ((sendGameSpyListToClient defaultConfig openSocket
        ⟨fun _ => 0, ⟨ByteTable.ofFn id, 0, 0, 0, 0, 0⟩⟩ ⟨10, 0, 0, 1⟩ (ascii "unreal")
        (ascii "HKUGFD") 0 false (some ⟨[], [], ascii "dmdeck16", 0, []⟩)
        [answeredServer]).toOption.map fun list => list.sent.flatten) =
      some (ascii "\\ip\\10.0.0.2:7778\\final\\") :=
  ((sendGameSpyListToClient_exact_iff (fun _ _ => rfl) defaultConfig _ ⟨10, 0, 0, 1⟩ (by decide)
    (ascii "HKUGFD") 0 false _ [answeredServer]).mpr (by decide)).1.trans (by decide)

/-- Servers whose records are 25 bytes long, so that the 41st begins a second block. -/
def crowd : List Server :=
  (List.range 41).map fun index =>
    { answeredServer with
      ip := ⟨⟨100, 100, 100, 100 + index.toUInt8⟩, htons 27910⟩
      port := htons 27910 }

/-- The second block of the reply to a client begins with the address of the client. -/
theorem sendGameSpyListToClient_misnames :
    ¬ ∀ (sink : Sink UInt8), sink.Full → ∀ (cfg : Config) (cipher : CipherEnv) (sender : InAddr)
      (gamename : CString), gamename ≠ [] → ∀ (challengeKey : CString) (encType : UInt16)
      (bCompressed : Bool) (filter : Option GamespyFilter) (servers : List Server),
      SendsInPackets
        (sendGameSpyListToClient cfg sink cipher sender gamename challengeKey encType bCompressed
          filter servers)
        (reply cfg cipher gamename challengeKey encType bCompressed filter servers) := by
  intro always
  have full : openSocket.Full := fun _ _ => rfl
  have named : ascii "unreal" ≠ [] := by decide
  have exact := (always openSocket full defaultConfig
    ⟨fun _ => 0, ⟨ByteTable.ofFn id, 0, 0, 0, 0, 0⟩⟩ ⟨10, 0, 0, 1⟩ _ named (ascii "HKUGFD") 0 false
    none crowd).1
  rw [sendGameSpyListToClient_reply_iff full defaultConfig _ _ named] at exact
  revert exact
  decide +kernel

end GSMaster.Lists
