import GSMaster.Database.RoundTrip

/-!
# Reading a damaged database

`ReadMasterDBBlob` counts the bytes that it asks for and not those that it
gets, and takes the index of the game as it comes. A round is the bytes in its
two buffers together with the number of bytes that were read into each.
-/

namespace GSMaster.Database

open GSMaster.Text GSMaster.Net GSMaster.Games GSMaster.Registry

structure Round where
  buff : List UInt8
  game : UInt16
  buffRead : Nat
  gameRead : Nat

namespace Round

def fields (round : Round) : List UInt8 × UInt16 :=
  (round.buff, round.game)

/-- Every round uses the six bytes of `buff`; one whose address resolves uses `game` too. -/
def UsesRead (env : Env) (round : Round) : Prop :=
  round.buffRead = 6 ∧
    (env.gethostbyname (inetNtoa (recordAddr round.buff)) ≠ none → round.gameRead = 2)

end Round

/-- The number of bytes that `fread` reads. -/
def freadCount (rest : List UInt8) (size : Nat) : Nat :=
  (rest.take size).length

/-- The rounds of the loop, as `blobRecords` has them, with the bytes they have read. -/
def blobRounds : Nat → List UInt8 → List UInt8 → List UInt8 → List Round
  | 0, _, _, _ => []
  | rounds + 1, rest, buff, game =>
      let buff' := fread rest buff 6
      let game' := fread (rest.drop 6) game 2
      ⟨buff', bytesShort (game'.getD 0 0) (game'.getD 1 0), freadCount rest 6,
          freadCount (rest.drop 6) 2⟩ ::
        blobRounds rounds (rest.drop 8) buff' game'

/-- The rounds of `ReadMasterDBBlob` after its three early returns. -/
def readRounds (file stale : List UInt8) : List Round :=
  if file.length < 3 then []
  else if bytesShort (file.getD 0 0) (file.getD 1 0) ≠ gspyDbVersion then []
  else if file.length < 8 then []
  else blobRounds ((file.length - 2 + 7) / 8) (file.drop 2) (List.replicate 6 0) stale

theorem blobRounds_fields (rounds : Nat) (rest buff game : List UInt8) :
    (blobRounds rounds rest buff game).map Round.fields = blobRecords rounds rest buff game := by
  induction rounds generalizing rest buff game with
  | zero => rfl
  | succ rounds ih =>
      rw [blobRounds, blobRecords, List.map_cons, ih]
      rfl

/-- The calls of the reader are those of its rounds. -/
theorem readMasterDBBlob_rounds (env : Nat → Env) (file stale : List UInt8) :
    readMasterDBBlob env file stale =
      blobRecordCalls env 0 ((readRounds file stale).map Round.fields) := by
  unfold readMasterDBBlob readRounds
  split
  · rfl
  · split
    · rfl
    · split
      · rfl
      · rw [blobRounds_fields]

/-! ## The records of a file -/

/-- The fields of record `i` behind the version. -/
def recordAt (body : List UInt8) (i : Nat) : Record :=
  let bytes := body.drop (8 * i)
  ⟨recordAddr bytes, bytesShort (bytes.getD 4 0) (bytes.getD 5 0),
    (bytesShort (bytes.getD 6 0) (bytes.getD 7 0)).toNat⟩

def Record.Resolves (env : Env) (record : Record) : Prop :=
  env.gethostbyname (inetNtoa record.addr) ≠ none

/-- The game of the record is in the table, if the address resolves. -/
def Record.Known (env : Env) (record : Record) : Prop :=
  record.Resolves env → record.game < gameTable.length

/-- What a complete record asks for: a call, if its address resolves and its game is known. -/
def Record.wanted (env : Env) (record : Record) : Option (Env × AddCall) :=
  (env.gethostbyname (inetNtoa record.addr)).bind fun addr =>
    gameTable[record.game]?.map fun entry =>
      (env, ⟨⟨addr, record.port⟩, sendAcknowledge (some entry.gamename), record.port,
        some entry.gamename, some (inetNtoa record.addr)⟩)

/-- The calls for the complete records of a body, in order. -/
def recordCalls (env : Nat → Env) (body : List UInt8) : List (Env × AddCall) :=
  (List.range (body.length / 8)).filterMap fun i => (recordAt body i).wanted (env i)

/--
The reader stays inside the table, uses only what it has read for the record at
hand, and calls `AddServer` for the complete records of known games in order.
-/
structure SafeAndExact (env : Nat → Env) (file stale : List UInt8) : Prop where
  usesRead : ∀ i (round : Round), (readRounds file stale)[i]? = some round → round.UsesRead (env i)
  calls : readMasterDBBlob env file stale = some (recordCalls env (file.drop 2))

/--
The complete records whose address resolves name a game of the table; and no
record is cut, or one is cut in its game only and its address does not resolve.
-/
structure WellRead (env : Nat → Env) (body : List UInt8) : Prop where
  known : ∀ i < body.length / 8, (recordAt body i).Known (env i)
  whole : body.length % 8 = 0 ∨
    6 ≤ body.length % 8 ∧ ¬ (recordAt body (body.length / 8)).Resolves (env (body.length / 8))

/-! ## One round after the other -/

theorem blobRecordCalls_next (env : Nat → Env) (index : Nat)
    (records : List (List UInt8 × UInt16)) :
    blobRecordCalls env (index + 1) records =
      blobRecordCalls (fun i => env (i + 1)) index records := by
  induction records generalizing index with
  | nil => rfl
  | cons record records ih => simp only [blobRecordCalls, ih]

theorem recordAt_drop (body : List UInt8) (i : Nat) :
    recordAt (body.drop 8) i = recordAt body (i + 1) := by
  have further : (body.drop 8).drop (8 * i) = body.drop (8 * (i + 1)) := by
    rw [List.drop_drop]
    congr 1
    omega
  rw [recordAt, recordAt, further]

theorem recordCalls_next (env : Nat → Env) {body : List UInt8} (long : 8 ≤ body.length) :
    recordCalls env body = ((recordAt body 0).wanted (env 0)).toList ++
      recordCalls (fun i => env (i + 1)) (body.drop 8) := by
  have count : body.length / 8 = (body.drop 8).length / 8 + 1 := by
    rw [List.length_drop]
    omega
  rw [recordCalls, recordCalls, count, List.range_succ_eq_map, List.filterMap_cons,
    List.filterMap_map]
  simp only [Function.comp_def, recordAt_drop]
  cases (recordAt body 0).wanted (env 0) <;> rfl

theorem wellRead_next (env : Nat → Env) {body : List UInt8} (long : 8 ≤ body.length) :
    WellRead env body ↔
      (recordAt body 0).Known (env 0) ∧
        WellRead (fun i => env (i + 1)) (body.drop 8) := by
  have count : (body.drop 8).length / 8 + 1 = body.length / 8 := by
    rw [List.length_drop]
    omega
  have rest : (body.drop 8).length % 8 = body.length % 8 := by
    rw [List.length_drop]
    omega
  constructor
  · rintro ⟨known, whole⟩
    refine ⟨known 0 (by omega), fun i inside => ?_, ?_⟩
    · rw [recordAt_drop]
      exact known (i + 1) (by omega)
    · rw [recordAt_drop, count, rest]
      exact whole
  · rintro ⟨first, known, whole⟩
    rw [recordAt_drop, count, rest] at whole
    refine ⟨fun i inside => ?_, whole⟩
    cases i with
    | zero => exact first
    | succ i =>
        rw [← recordAt_drop]
        exact known i (by omega)

/-! ## The loop -/

/-- `SafeAndExact` of the loop alone, for buffers that hold anything. -/
structure LoopExact (env : Nat → Env) (body buff game : List UInt8) : Prop where
  usesRead : ∀ i (round : Round),
    (blobRounds ((body.length + 7) / 8) body buff game)[i]? = some round → round.UsesRead (env i)
  calls : blobRecordCalls env 0 (blobRecords ((body.length + 7) / 8) body buff game) =
    some (recordCalls env body)

theorem fread_enough {rest held : List UInt8} {size : Nat} (enough : size ≤ rest.length)
    (room : held.length = size) : fread rest held size = rest.take size := by
  have whole : (rest.take size).length = size := by
    rw [List.length_take]
    omega
  have read : fread (rest.take size ++ rest.drop size) held size = rest.take size :=
    fread_whole whole room
  rwa [List.take_append_drop] at read

/-- The round of a complete record reads all of its bytes. -/
theorem blobRounds_next {body buff game : List UInt8} (long : 8 ≤ body.length)
    (room : buff.length = 6) (word : game.length = 2) :
    blobRounds ((body.length + 7) / 8) body buff game =
      ⟨body.take 6, bytesShort (body.getD 6 0) (body.getD 7 0), 6, 2⟩ ::
        blobRounds (((body.drop 8).length + 7) / 8) (body.drop 8) (body.take 6)
          ((body.drop 6).take 2) := by
  have count : (body.length + 7) / 8 = ((body.drop 8).length + 7) / 8 + 1 := by
    rw [List.length_drop]
    omega
  have six : freadCount body 6 = 6 := by
    rw [freadCount, List.length_take]
    omega
  have two : freadCount (body.drop 6) 2 = 2 := by
    rw [freadCount, List.length_take, List.length_drop]
    omega
  have game' : fread (body.drop 6) game 2 = (body.drop 6).take 2 :=
    fread_enough (by rw [List.length_drop]; omega) word
  rw [count, blobRounds, fread_enough (by omega) room, game', six, two]
  simp only [List.getD_eq_getElem?_getD, List.getElem?_take, List.getElem?_drop, Nat.reduceLT,
    if_true, Nat.reduceAdd]

theorem recordAddr_take (body : List UInt8) :
    recordAddr (body.take 6) = (recordAt body 0).addr := by
  simp only [recordAt, recordAddr, Nat.mul_zero, List.drop_zero, List.getD_eq_getElem?_getD,
    List.getElem?_take, Nat.reduceLT, if_true]

theorem recordPort_take (body : List UInt8) :
    recordPort (body.take 6) = ntohs (recordAt body 0).port := by
  simp only [recordAt, recordPort, Nat.mul_zero, List.drop_zero, List.getD_eq_getElem?_getD,
    List.getElem?_take, Nat.reduceLT, if_true]

/-- The round of a complete record does what the record asks for, or faults. -/
theorem blobRecordCall_complete (env : Env) (body : List UInt8) :
    let call := blobRecordCall env (body.take 6) (bytesShort (body.getD 6 0) (body.getD 7 0))
    (recordAt body 0).Known env ∧ call = some ((recordAt body 0).wanted env) ∨
      ¬ (recordAt body 0).Known env ∧ call = none := by
  intro call
  have index : (bytesShort (body.getD 6 0) (body.getD 7 0)).toNat = (recordAt body 0).game := rfl
  unfold call blobRecordCall Record.Known Record.Resolves Record.wanted
  rw [recordAddr_take, recordPort_take]
  cases resolved : env.gethostbyname (inetNtoa (recordAt body 0).addr) with
  | none => simp [resolved]
  | some addr =>
      cases found : gameTable[(recordAt body 0).game]? with
      | none =>
          have outside := List.getElem?_eq_none_iff.mp found
          refine Or.inr ⟨by simp [outside], ?_⟩
          simp only [resolved, index, found]
      | some entry =>
          have inside := (List.getElem?_eq_some_iff.mp found).1
          refine Or.inl ⟨fun _ => inside, ?_⟩
          simp only [resolved, index, found, htons_ntohs, Option.bind_some, Option.map_some]

/-- A round whose record is not complete has not read `game`. -/
theorem blobRounds_last {body : List UInt8} (cut : body.length % 8 ≠ 0) (short : body.length < 8)
    (buff game : List UInt8) :
    ∃ last : Round, blobRounds ((body.length + 7) / 8) body buff game = [last] ∧
      last.buff = fread body buff 6 ∧ last.buffRead = min 6 body.length ∧ last.gameRead < 2 := by
  have count : (body.length + 7) / 8 = 1 := by omega
  refine ⟨_, by rw [count, blobRounds, blobRounds], rfl, List.length_take .., ?_⟩
  change freadCount (body.drop 6) 2 < 2
  rw [freadCount, List.length_take, List.length_drop]
  omega

/-- On a complete record the loop does as asked if the record is known and the rest is read so. -/
theorem loopExact_next (env : Nat → Env) {body buff game : List UInt8} (long : 8 ≤ body.length)
    (room : buff.length = 6) (word : game.length = 2) :
    LoopExact env body buff game ↔
      (recordAt body 0).Known (env 0) ∧
        LoopExact (fun i => env (i + 1)) (body.drop 8) (body.take 6) ((body.drop 6).take 2) := by
  have rounds := blobRounds_next long room word
  have records : blobRecords ((body.length + 7) / 8) body buff game =
      (body.take 6, bytesShort (body.getD 6 0) (body.getD 7 0)) ::
        blobRecords (((body.drop 8).length + 7) / 8) (body.drop 8) (body.take 6)
          ((body.drop 6).take 2) := by
    rw [← blobRounds_fields, rounds, List.map_cons, blobRounds_fields]
    rfl
  have first := blobRecordCall_complete (env 0) body
  constructor
  · rintro ⟨usesRead, calls⟩
    rw [rounds] at usesRead
    rw [records, recordCalls_next env long, blobRecordCalls, blobRecordCalls_next] at calls
    rcases first with ⟨known, here⟩ | ⟨-, fault⟩
    · rw [here, Option.bind_eq_bind, Option.bind_some] at calls
      obtain ⟨rest, later, appended⟩ := Option.bind_eq_some_iff.mp calls
      refine ⟨known, fun i round found => usesRead (i + 1) round found, ?_⟩
      rw [later, List.append_cancel_left (Option.some.inj appended)]
    · rw [fault] at calls
      cases calls
  · rintro ⟨known, usesRead, calls⟩
    refine ⟨fun i round found => ?_, ?_⟩
    · rw [rounds] at found
      cases i with
      | zero =>
          cases found
          exact ⟨rfl, fun _ => rfl⟩
      | succ i => exact usesRead i round found
    · rcases first with ⟨-, here⟩ | ⟨unknown, -⟩
      · rw [records, recordCalls_next env long, blobRecordCalls, blobRecordCalls_next, here]
        simp only [Option.bind_eq_bind, Option.bind_some, calls]
      · exact absurd known unknown

/-- On less than a record the loop does what is asked if its only round does not get to the game. -/
theorem loopExact_last (env : Nat → Env) {body buff game : List UInt8} (short : body.length < 8)
    (room : buff.length = 6) : LoopExact env body buff game ↔ WellRead env body := by
  have noRecord : body.length / 8 = 0 := by omega
  have nothing : recordCalls env body = [] := by rw [recordCalls, noRecord]; rfl
  by_cases empty : body.length = 0
  · have noRound : (body.length + 7) / 8 = 0 := by omega
    refine iff_of_true ⟨?_, ?_⟩ ⟨fun i inside => by omega, Or.inl (by omega)⟩
    · rw [noRound]
      rintro i round found
      cases found
    · rw [noRound, nothing]
      rfl
  · obtain ⟨last, rounds, buff', buffRead, gameRead⟩ :=
      blobRounds_last (by omega) short buff game
    have records : blobRecords ((body.length + 7) / 8) body buff game = [last.fields] := by
      rw [← blobRounds_fields, rounds]
      rfl
    constructor
    · rintro ⟨usesRead, -⟩
      rw [rounds] at usesRead
      obtain ⟨six, two⟩ := usesRead 0 last rfl
      have address : 6 ≤ body.length := by omega
      refine ⟨fun i inside => by omega, Or.inr ⟨by omega, fun resolves => ?_⟩⟩
      rw [buff', fread_enough address room, recordAddr_take] at two
      rw [noRecord] at resolves
      have whole := two resolves
      omega
    · rintro ⟨-, whole⟩
      have address : 6 ≤ body.length := by omega
      have unresolved : (env 0).gethostbyname (inetNtoa (recordAddr last.buff)) = none := by
        rcases whole with whole | ⟨-, unresolved⟩
        · omega
        · rw [noRecord] at unresolved
          rw [buff', fread_enough address room, recordAddr_take]
          exact not_not.mp unresolved
      refine ⟨fun i round found => ?_, ?_⟩
      · rw [rounds] at found
        cases i with
        | zero =>
            cases found
            exact ⟨by omega, fun resolves => absurd unresolved resolves⟩
        | succ i => cases found
      · have skipped : blobRecordCall (env 0) last.buff last.game = some none := by
          unfold blobRecordCall
          simp only [unresolved]
        rw [records, nothing, Round.fields, blobRecordCalls, skipped, blobRecordCalls]
        rfl

/-- The loop does what is asked of the bytes behind the version exactly if they are read well. -/
theorem loopExact_iff (env : Nat → Env) (records : Nat) {body buff game : List UInt8}
    (count : body.length / 8 = records) (room : buff.length = 6) (word : game.length = 2) :
    LoopExact env body buff game ↔ WellRead env body := by
  induction records generalizing env body buff game with
  | zero => exact loopExact_last env (by omega) room
  | succ records ih =>
      have long : 8 ≤ body.length := by omega
      have rest : (body.drop 8).length / 8 = records := by
        rw [List.length_drop]
        omega
      have address : (body.take 6).length = 6 := by
        rw [List.length_take]
        omega
      have index : ((body.drop 6).take 2).length = 2 := by
        rw [List.length_take, List.length_drop]
        omega
      rw [loopExact_next env long room word, wellRead_next env long, ih _ rest address index]

/-- The rounds for a file of the current version. -/
theorem readRounds_version (body stale : List UInt8) :
    readRounds (shortBytes gspyDbVersion ++ body) stale =
      if body.length < 6 then []
      else blobRounds ((body.length + 7) / 8) body (List.replicate 6 0) stale := by
  have length : (shortBytes gspyDbVersion ++ body).length = 2 + body.length := by
    rw [List.length_append, shortBytes_length]
  have count : (shortBytes gspyDbVersion ++ body).length - 2 + 7 = body.length + 7 := by omega
  have rest : (shortBytes gspyDbVersion ++ body).drop 2 = body := rfl
  have version : ¬ bytesShort ((shortBytes gspyDbVersion ++ body).getD 0 0)
      ((shortBytes gspyDbVersion ++ body).getD 1 0) ≠ gspyDbVersion := by
    rw [not_not]
    rfl
  rw [readRounds, if_neg version, count, rest]
  by_cases short : body.length < 6
  · rw [if_pos short, if_pos (by omega : (shortBytes gspyDbVersion ++ body).length < 8), ite_self]
  · rw [if_neg short, if_neg (by omega), if_neg (by omega)]

/--
`ReadMasterDBBlob` of a file of the current version is safe and exact if and
only if it returns before its loop or the bytes behind the version are read
well.
-/
theorem readMasterDBBlob_exact_iff (env : Nat → Env) (body : List UInt8) (stale : UInt16) :
    SafeAndExact env (shortBytes gspyDbVersion ++ body) (shortBytes stale) ↔
      body.length < 6 ∨ WellRead env body := by
  have rest : (shortBytes gspyDbVersion ++ body).drop 2 = body := rfl
  have rounds := readRounds_version body (shortBytes stale)
  by_cases short : body.length < 6
  · rw [if_pos short] at rounds
    refine iff_of_true ⟨?_, ?_⟩ (Or.inl short)
    · rw [rounds]
      rintro i round found
      cases found
    · have noRecord : body.length / 8 = 0 := by omega
      rw [readMasterDBBlob_rounds, rounds, rest, recordCalls, noRecord]
      rfl
  · rw [if_neg short] at rounds
    rw [or_iff_right short, ← loopExact_iff env _ rfl (List.length_replicate ..)
      (shortBytes_length stale)]
    constructor
    · rintro ⟨usesRead, calls⟩
      rw [rounds] at usesRead
      rw [readMasterDBBlob_rounds, rounds, blobRounds_fields, rest] at calls
      exact ⟨usesRead, calls⟩
    · rintro ⟨usesRead, calls⟩
      refine ⟨?_, ?_⟩
      · rw [rounds]
        exact usesRead
      · rw [readMasterDBBlob_rounds, rounds, blobRounds_fields, rest]
        exact calls

/-- The record of the server 10.0.0.1:27910 with a game number behind the table. -/
def unknownGame : List UInt8 :=
  [10, 0, 0, 1, 109, 6, 20, 0]

theorem readMasterDBBlob_faults :
    readMasterDBBlob (fun _ => { quietEnv with gethostbyname := dottedQuad })
      (shortBytes gspyDbVersion ++ unknownGame) (shortBytes 0) = none := by
  decide +kernel

/-- A record with an unknown game number makes the reader leave its table. -/
theorem readMasterDBBlob_inexact :
    ¬ ∀ (env : Nat → Env) (body : List UInt8) (stale : UInt16),
      SafeAndExact env (shortBytes gspyDbVersion ++ body) (shortBytes stale) := by
  intro always
  have exactly := (always (fun _ => { quietEnv with gethostbyname := dottedQuad }) unknownGame 0).calls
  rw [readMasterDBBlob_faults] at exactly
  cases exactly

end GSMaster.Database
