import GSMaster.Net.Address

/-!
# The supported games

`gs_helpers.c`: the game table and the lookups in it. The table of the program
has a twentieth element with NULL names that ends the lookup loops.
-/

namespace GSMaster.Games

open GSMaster.Text GSMaster.Net

structure GameTableEntry where
  gamename : CString
  seckey : CString
  motdPort : UInt16
  deriving DecidableEq, Repr

def gameTable : List GameTableEntry :=
  [⟨ascii "blood2", ascii "jUOF0p", 0⟩,
   ⟨ascii "daikatana", ascii "fl8aY7", 27991⟩,
   ⟨ascii "gamespy2", ascii "d4kZca", 0⟩,
   ⟨ascii "gspylite", ascii "mgNUaC", 0⟩,
   ⟨ascii "heretic2", ascii "2iuCAS", 0⟩,
   ⟨ascii "hexen2", ascii "FAKEKEY", 0⟩,
   ⟨ascii "hexenworld", ascii "6SeXQB", 0⟩,
   ⟨ascii "kingpin", ascii "QFWxY2", 0⟩,
   ⟨ascii "nolf", ascii "Jn3Ab4", 0⟩,
   ⟨ascii "nolf2", ascii "g3Fo6x", 0⟩,
   ⟨ascii "quake1", ascii "7W7yZz", 0⟩,
   ⟨ascii "quake2", ascii "rtW0xg", 27901⟩,
   ⟨ascii "quakeworld", ascii "FU6Vqn", 27501⟩,
   ⟨ascii "shogo", ascii "MQMhRK", 0⟩,
   ⟨ascii "sin", ascii "Ij1uAB", 0⟩,
   ⟨ascii "southpark", ascii "yoI7mE", 0⟩,
   ⟨ascii "turok2", ascii "RWd3BG", 0⟩,
   ⟨ascii "unreal", ascii "DAncRK", 0⟩,
   ⟨ascii "ut", ascii "Z5Nfb0", 0⟩]

/-- `MAX_GAMENAME_LEN`, the size of the game name field of a server. -/
def maxGamenameLen : Nat := 16

/-- The characters of a challenge key. -/
def challengeAlphabet : CString :=
  ascii "abcdefghijklmnopqrstuvwxyzABCDEFGHIJKLMNOPQRSTUVWXYZ0123456789"

/-- `GameSpy_Create_Challenge_Key`, with the values that `rand()` returns to it. -/
def gameSpyCreateChallengeKey (rand : Nat → Nat) (len : Nat) : CString :=
  (List.range len).map fun i => challengeAlphabet.getD (rand i % challengeAlphabet.length) 0

def gameSpyGetGameSecKey (gamename : CString) : Option CString :=
  if gamename = [] then none
  else (gameTable.find? fun entry => stricmpEq gamename entry.gamename).map (·.seckey)

def gameSpyGetTableNumber (gamename : CString) : UInt16 :=
  if gamename = [] then 0
  else match gameTable.findIdx? fun entry => stricmpEq gamename entry.gamename with
    | some index => index.toUInt16
    | none => 65535

def gameSpyGetGS3DPortOffset (gamename : CString) (port : UInt16) : UInt16 :=
  if stricmpEq gamename (ascii "sin") then htons (ntohs port + 1) else port

/-- The game is in the table, in any letter case. -/
def Supported (gamename : CString) : Prop :=
  gameSpyGetGameSecKey gamename ≠ none

instance (gamename : CString) : Decidable (Supported gamename) :=
  inferInstanceAs (Decidable (_ ≠ _))

theorem gameSpyGetGameSecKey_congr {first second : CString}
    (same : stricmpEq first second = true) :
    gameSpyGetGameSecKey first = gameSpyGetGameSecKey second := by
  have empty : first = [] ↔ second = [] := by
    rw [← List.length_eq_zero_iff, ← List.length_eq_zero_iff, stricmpEq_length same]
  unfold gameSpyGetGameSecKey
  simp only [empty, stricmpEq_congr same]

theorem gameTable_names_short : ∀ entry ∈ gameTable, entry.gamename.length < maxGamenameLen := by
  decide

theorem supported_iff {gamename : CString} :
    Supported gamename ↔ ∃ entry ∈ gameTable, stricmpEq gamename entry.gamename = true := by
  constructor
  · intro supported
    unfold Supported gameSpyGetGameSecKey at supported
    split at supported
    · exact absurd rfl supported
    · cases found : gameTable.find? fun entry => stricmpEq gamename entry.gamename with
      | none => rw [found] at supported; exact absurd rfl supported
      | some entry =>
          exact ⟨entry, List.mem_of_find?_eq_some found, by simpa using List.find?_some found⟩
  · rintro ⟨entry, member, same⟩
    have nonempty : gamename ≠ [] := by
      intro empty
      have lengths := stricmpEq_length same
      rw [empty] at lengths
      have positive : ∀ entry ∈ gameTable, entry.gamename.length ≠ 0 := by decide
      exact positive entry member lengths.symm
    unfold Supported gameSpyGetGameSecKey
    rw [if_neg nonempty]
    cases found : gameTable.find? fun entry => stricmpEq gamename entry.gamename with
    | none =>
        have missing := List.find?_eq_none.mp found entry member
        exact absurd same missing
    | some entry => exact Option.some_ne_none _

/-- A supported name fits the game name field of a server. -/
theorem Supported.length_lt {gamename : CString} (supported : Supported gamename) :
    gamename.length < maxGamenameLen := by
  obtain ⟨entry, member, same⟩ := supported_iff.mp supported
  rw [stricmpEq_length same]
  exact gameTable_names_short entry member

theorem Supported.nonempty {gamename : CString} (supported : Supported gamename) :
    gamename ≠ [] := by
  intro empty
  rw [empty] at supported
  exact supported rfl

/-- The name of the table entry that a game name matches. -/
def tableName (gamename : CString) : Option CString :=
  (gameTable.find? fun entry => stricmpEq gamename entry.gamename).map (·.gamename)

/-- A supported game has an index in the table, and the entry there is the one it matches. -/
theorem Supported.tableNumber {gamename : CString} (supported : Supported gamename) :
    ∃ (index : Nat) (entry : GameTableEntry), gameTable[index]? = some entry ∧
      gameSpyGetTableNumber gamename = index.toUInt16 ∧
      tableName gamename = some entry.gamename := by
  obtain ⟨witness, member, same⟩ := supported_iff.mp supported
  unfold gameSpyGetTableNumber
  rw [if_neg supported.nonempty]
  cases found : gameTable.findIdx? fun entry => stricmpEq gamename entry.gamename with
  | none =>
      have missing := List.findIdx?_eq_none_iff.mp found witness member
      rw [same] at missing
      cases missing
  | some index =>
      obtain ⟨inside, passes, first⟩ := List.findIdx?_eq_some_iff_getElem.mp found
      refine ⟨index, gameTable[index], List.getElem?_eq_getElem inside, rfl, ?_⟩
      have entry : gameTable.find? (fun entry => stricmpEq gamename entry.gamename) =
          some gameTable[index] :=
        List.find?_eq_some_iff_getElem.mpr
          ⟨passes, index, inside, rfl, fun j earlier => by simpa using first j earlier⟩
      rw [tableName, entry]
      rfl

/-- A table name is found at its own index. -/
theorem gameSpyGetTableNumber_entry {index : Nat} {entry : GameTableEntry}
    (found : gameTable[index]? = some entry) :
    gameSpyGetTableNumber entry.gamename = index.toUInt16 := by
  have own : ∀ i : Fin gameTable.length,
      gameSpyGetTableNumber gameTable[i].gamename = i.val.toUInt16 := by decide
  obtain ⟨inside, rfl⟩ := List.getElem?_eq_some_iff.mp found
  exact own ⟨index, inside⟩

theorem gameTable_supported : ∀ entry ∈ gameTable, Supported entry.gamename := by
  decide

theorem gameSpyCreateChallengeKey_length (rand : Nat → Nat) (len : Nat) :
    (gameSpyCreateChallengeKey rand len).length = len := by
  rw [gameSpyCreateChallengeKey, List.length_map, List.length_range]

theorem gameSpyCreateChallengeKey_mem {rand : Nat → Nat} {len : Nat} {c : UInt8}
    (member : c ∈ gameSpyCreateChallengeKey rand len) : c ∈ challengeAlphabet := by
  obtain ⟨i, _, rfl⟩ := List.mem_map.mp member
  have bound : rand i % challengeAlphabet.length < challengeAlphabet.length :=
    Nat.mod_lt _ (by decide)
  rw [List.getD_eq_getElem _ _ bound]
  exact List.getElem_mem bound

end GSMaster.Games
