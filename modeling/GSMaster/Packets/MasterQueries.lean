import GSMaster.Library.Triples
import GSMaster.Packets.ParseResponse
import GSMaster.Registry.ListFiles
import GSMaster.Text.Tokens

/-!
# The queries to other masters

`Master_DL_List` reads a file of masters, each with its port and the game that
it is asked for. A newline is one separator among others and the first record
that cannot be used ends the loop, so a record is read as the line that it
stands on only if everything before it could be used and came in threes.
-/

namespace GSMaster.Packets

open GSMaster.Text GSMaster.Net GSMaster.Registry GSMaster.Library

def kpMsg : List UInt8 := [255, 255, 99, 0]

def q2Msg : List UInt8 := oobSeq ++ ascii "getservers" ++ [0]

def q2MsgAlternate : List UInt8 := oobSeq ++ ascii "query" ++ [0]

def q2MsgNoOOB : List UInt8 := ascii "getservers" ++ [0]

def q2MsgAlternateNoOOB : List UInt8 := ascii "query" ++ [0]

/-- What a round of the loop comes to: the report of a skipped record, or the queries it sends. -/
inductive QueryOutcome where
  | unresolved
  | noPort
  | invalidPort
  | noGame
  | unknownGame
  | sent (queries : List Datagram)
  deriving DecidableEq, Repr

/-- The queries to a master for a game. -/
def queryMaster (master : SockaddrIn) (gamename : CString) : QueryOutcome :=
  if stricmpEq gamename (ascii "quakeworld") then .sent [⟨master, qwMsg⟩]
  else if stricmpEq gamename (ascii "hexenworld") then
    .sent [⟨master, hwGspyMsg⟩, ⟨master, hwHwqMsg⟩]
  else if stricmpEq gamename (ascii "quake2") then
    .sent [⟨master, q2Msg⟩, ⟨master, q2MsgAlternate⟩, ⟨master, q2MsgNoOOB⟩,
      ⟨master, q2MsgAlternateNoOOB⟩]
  else if stricmpEq gamename (ascii "kingpin") then .sent [⟨master, kpMsg⟩]
  else .unknownGame

/--
The loop of `Master_DL_List` with a name in `listToken`: what each round comes
to, under the number of tokens that were taken before it.
-/
def masterDLLoop (env : Env) :
    Nat → Nat → Option CString → Option CString → List (Nat × QueryOutcome)
  | 0, _, _, _ => []
  | _, _, none, _ => []
  | fuel + 1, index, some ip, listPtr =>
      match env.gethostbyname ip with
      | none => [(index, .unresolved)]
      | some addr =>
          match strtok listSeparators listPtr with
          | (none, _) => [(index, .noPort)]
          | (some portToken, listPtr) =>
              let queryPort := UInt16.ofInt (atoi portToken)
              if queryPort = 0 then [(index, .invalidPort)]
              else
                match strtok listSeparators listPtr with
                | (none, _) => [(index, .noGame)]
                | (some gamename, listPtr) =>
                    let listToken := strtok listSeparators listPtr
                    (index, queryMaster ⟨addr, htons queryPort⟩ gamename) ::
                      masterDLLoop env fuel (index + 3) listToken.1 listToken.2

/-- The rounds of `Master_DL_List` for the bytes of the list file. -/
def masterDLList (env : Env) (file : List UInt8) : List (Nat × QueryOutcome) :=
  if file.length < 3 then []
  else
    let listToken := strtok listSeparators (some (cstr (file ++ [newline])))
    masterDLLoop env (file.length + 2) 0 listToken.1 listToken.2

/-! ## Records -/

/-- What a record comes to that has up to three fields. -/
def recordOutcome (env : Env) : List CString → QueryOutcome
  | [] => .unresolved
  | ip :: fields =>
      match env.gethostbyname ip with
      | none => .unresolved
      | some addr =>
          match fields with
          | [] => .noPort
          | port :: fields =>
              if UInt16.ofInt (atoi port) = 0 then .invalidPort
              else
                match fields with
                | [] => .noGame
                | gamename :: _ =>
                    queryMaster ⟨addr, htons (UInt16.ofInt (atoi port))⟩ gamename

/-- The name of a record resolves and its port is not zero, so that the loop goes on. -/
def recordPasses (env : Env) (ip port : CString) : Bool :=
  (env.gethostbyname ip).isSome && UInt16.ofInt (atoi port) != 0

/-- The loop takes the tokens of the file in threes. -/
theorem masterDLLoop_eq (env : Env) {fuel : Nat} (index : Nat) {listToken listPtr : Option CString}
    (enough : (listToken.toList ++ tokensLeft listSeparators listPtr).length ≤ fuel)
    (ended : listToken = none → tokensLeft listSeparators listPtr = []) :
    masterDLLoop env fuel index listToken listPtr =
      (readTriples (recordPasses env) index
        (listToken.toList ++ tokensLeft listSeparators listPtr)).map fun round =>
          (round.1, recordOutcome env round.2) := by
  induction fuel generalizing index listToken listPtr with
  | zero =>
      rw [List.length_eq_zero_iff.mp (Nat.le_zero.mp enough)]
      rfl
  | succ fuel ih =>
      cases listToken with
      | none =>
          rw [ended rfl]
          rfl
      | some ip =>
          rw [Option.toList_some, List.singleton_append] at enough ⊢
          unfold masterDLLoop
          cases fields : tokensLeft listSeparators listPtr with
          | nil =>
              rw [strtok_eq_none fields]
              cases resolved : env.gethostbyname ip <;> simp [readTriples, recordOutcome, resolved]
          | cons port fields' =>
              obtain ⟨listPtr', read, left⟩ := strtok_eq_some fields
              rw [read]
              cases resolved : env.gethostbyname ip with
              | none =>
                  have stops : recordPasses env ip port = false := by
                    rw [recordPasses, resolved]
                    rfl
                  cases fields' with
                  | nil => simp [readTriples, recordOutcome, resolved]
                  | cons gamename rest => simp [readTriples, recordOutcome, resolved, stops]
              | some addr =>
                  cases fields' with
                  | nil =>
                      simp only [strtok_eq_none left]
                      by_cases zero : UInt16.ofInt (atoi port) = 0
                      · simp [readTriples, recordOutcome, resolved, zero]
                      · simp [readTriples, recordOutcome, resolved, zero]
                  | cons gamename rest =>
                      obtain ⟨listPtr'', read', left'⟩ := strtok_eq_some left
                      simp only [read']
                      by_cases zero : UInt16.ofInt (atoi port) = 0
                      · simp [readTriples, recordOutcome, recordPasses, resolved, zero]
                      · rw [fields, List.length_cons, List.length_cons, List.length_cons] at enough
                        have next := strtok_left listSeparators listPtr''
                        rw [left'] at next
                        have later := ih (index + 3) (next.1 ▸ (by omega)) next.2
                        rw [next.1] at later
                        simp [readTriples, recordOutcome, recordPasses, resolved, zero, later]

theorem masterDLList_eq (env : Env) {file : List UInt8} (long : 3 ≤ file.length) :
    masterDLList env file =
      (readTriples (recordPasses env) 0
        (tokens listSeparators (cstr (file ++ [newline])))).map fun round =>
          (round.1, recordOutcome env round.2) := by
  obtain ⟨stream, ended⟩ := strtok_left listSeparators (some (cstr (file ++ [newline])))
  have count := tokens_file_length_le listSeparators file
  rw [masterDLList, if_neg (Nat.not_lt.mpr long), masterDLLoop_eq env 0 (stream ▸ count) ended,
    stream]
  rfl

/-! ## Masters -/

end GSMaster.Packets
