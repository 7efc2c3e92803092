import GSMaster.Enctype.KeyTable
import GSMaster.Games.SecKey

/-!
# The tables stay permutations

The three byte ciphers start from a table in which each byte stands once, and
all that they do to it is to exchange entries, however it is written down. So
whatever the key and the data, the table is a permutation after every byte.
-/

namespace GSMaster.Enctype

open GSMaster.Text GSMaster.Library GSMaster.Games ByteTable

theorem isPermutation_identity : (ByteTable.ofFn fun i => i).IsPermutation :=
  isPermutation_ofFn Function.bijective_id

/-- A loop whose rounds keep the table a permutation. -/
theorem foldl_permutes {τ ι : Type} {step : ByteTable UInt8 × τ → ι → ByteTable UInt8 × τ}
    (keeps : ∀ state i, state.1.IsPermutation → (step state i).1.IsPermutation)
    {state : ByteTable UInt8 × τ} (start : state.1.IsPermutation) (indices : List ι) :
    (indices.foldl step state).1.IsPermutation := by
  induction indices generalizing state with
  | nil => exact start
  | cons i indices ih => exact ih (keeps state i start)

/-! ## The answer to a challenge -/

/-- The state of `gsseckey` in front of its third loop. -/
def secKeyStart (key : CString) : SecKeyState :=
  ⟨((List.range 256).foldl (gsseckeySchedule key) (ByteTable.ofFn fun i => i, 0)).1, 0, 0⟩

theorem gsseckeySchedule_permutes (key : CString) (state : ByteTable UInt8 × UInt8) (i : Nat)
    (permutes : state.1.IsPermutation) : (gsseckeySchedule key state i).1.IsPermutation :=
  permutes.swap _ i.toUInt8

theorem secKeyStart_permutes (key : CString) : (secKeyStart key).enctmp.IsPermutation := by
  unfold secKeyStart
  exact @foldl_permutes _ _ (gsseckeySchedule key) (gsseckeySchedule_permutes key)
    (ByteTable.ofFn fun i => i, 0) isPermutation_identity (List.range 256)

/-- What `gsseckey` enciphers, it enciphers from that state on. -/
theorem gsseckey_secKeyStart {src key : CString} (fits : ¬ (src.length < 1 ∨ 65 < src.length)) :
    gsseckey src key 0 =
      gsseckeyText (padThree (feedback gsseckeyStep src.length (secKeyStart key) src)) := by
  unfold gsseckey
  rw [if_neg fits]
  rfl

theorem gsseckeyStep_permutes (state : SecKeyState) (c : UInt8)
    (permutes : state.enctmp.IsPermutation) : (gsseckeyStep state c).2.enctmp.IsPermutation :=
  permutes.swap (state.b + state.enctmp.get (state.a + (c + 1))) (state.a + (c + 1))

/-! ## The scramble layer -/

theorem func3Step_permutes (data : List UInt8) (len : Nat) (buff : ByteTable UInt8 × UInt8)
    (i : Nat) (permutes : buff.1.IsPermutation) : (func3Step data len buff i).1.IsPermutation :=
  permutes.swap i.toUInt8 _

theorem func3_permutes (data : List UInt8) (len : Nat) : (func3 data len).table.IsPermutation := by
  have start : (ByteTable.ofFn fun i => 255 - i).IsPermutation := by
    refine isPermutation_ofFn (Function.Involutive.bijective fun i => ?_)
    exact sub_sub_cancel 255 i
  unfold func3
  exact @foldl_permutes _ _ (func3Step data len) (func3Step_permutes data len)
    (ByteTable.ofFn fun i => 255 - i, 0) start (List.range 256)

theorem func2Step_permutes (crypt : Crypt) (drawn : UInt8 × Crypt)
    (stepped : func2Step crypt = some drawn) (permutes : crypt.table.IsPermutation) :
    drawn.2.table.IsPermutation := by
  obtain rfl := Option.some.inj stepped
  exact permutes.swap _ _

/-! ## The feedback layer -/

theorem func4Step_permutes (id : CString) (state : ByteTable UInt8 × Nat × Nat) (i : Nat)
    (permutes : state.1.IsPermutation) : (func4Step id state i).1.IsPermutation :=
  permutes.swap i.toUInt8 _

theorem func4_permutes {id : CString} (nonempty : id ≠ []) (held : Enc1Key) :
    (func4 id held).table.IsPermutation := by
  cases id with
  | nil => exact absurd rfl nonempty
  | cons c rest =>
      unfold func4
      exact @foldl_permutes _ _ (func4Step (c :: rest)) (func4Step_permutes (c :: rest))
        (ByteTable.ofFn fun i => i, 0, 0) isPermutation_identity (List.range 256).reverse

/-- The four entries that `func7` and `func7e` move go round. -/
theorem func7Mix_table (enc1key : Enc1Key) :
    (func7Mix enc1key).2.table =
      ((enc1key.table.swap enc1key.k260 (func7Mix enc1key).2.k257).swap
        (func7Mix enc1key).2.k257 enc1key.k259).swap enc1key.k259 (func7Mix enc1key).2.k256 := by
  have start : enc1key.table.set enc1key.k260 (enc1key.table.get enc1key.k260) = enc1key.table := by
    apply ext_get
    intro i
    rw [get_set]
    split
    · rename_i here
      rw [here]
    · rfl
  have first := set_get_set enc1key.table enc1key.k260 (func7Mix enc1key).2.k257
    (enc1key.table.get enc1key.k260)
  rw [start] at first
  rw [← first, ← set_get_set, ← set_get_set]
  rfl

theorem func7Mix_permutes (enc1key : Enc1Key) (permutes : enc1key.table.IsPermutation) :
    (func7Mix enc1key).2.table.IsPermutation := by
  rw [func7Mix_table]
  exact ((permutes.swap _ _).swap _ _).swap _ _

theorem func7_permutes (enc1key : Enc1Key) (c : UInt8) (permutes : enc1key.table.IsPermutation) :
    (func7 enc1key c).2.table.IsPermutation :=
  func7Mix_permutes enc1key permutes

theorem func7e_permutes (enc1key : Enc1Key) (c : UInt8) (permutes : enc1key.table.IsPermutation) :
    (func7e enc1key c).2.table.IsPermutation :=
  func7Mix_permutes enc1key permutes

/--
For every key, every table that the ciphers work with is a permutation of the
bytes, whatever the data: those that `func3`, `func2` and `func4` leave, and
the ones under which `gsseckey` enciphers each character of a challenge and
`func6e` and `func6` each byte of a list.
-/
theorem cipher_tables_permute :
    (∀ key : CString,
      EachIn (fun state => state.enctmp.IsPermutation) gsseckeyStep (secKeyStart key) ∧
      ∀ src : CString, 0 < src.length → src.length ≤ 65 → gsseckey src key 0 =
        gsseckeyText (padThree (feedback gsseckeyStep src.length (secKeyStart key) src))) ∧
    (∀ (scrambleData : List UInt8) (len : Nat),
      (func3 scrambleData len).table.IsPermutation ∧
      ∀ (size : Nat) (data : List UInt8) (done : List UInt8 × Crypt),
        func2 data size (func3 scrambleData len) = some done →
          done.2.table.IsPermutation) ∧
    ∀ (id : CString) (held : Enc1Key), id ≠ [] →
      (func4 id held).table.IsPermutation ∧
      EachIn (fun enc1key => enc1key.table.IsPermutation) func7e (func4 id held) ∧
      EachIn (fun enc1key => enc1key.table.IsPermutation) func7 (func4 id held) := by
  refine ⟨fun key => ?_, fun scrambleData len => ⟨func3_permutes scrambleData len, ?_⟩,
    fun id held nonempty => ⟨func4_permutes nonempty held, ?_, ?_⟩⟩
  · refine ⟨eachIn_of_keeps gsseckeyStep_permutes (secKeyStart_permutes key), ?_⟩
    intro src nonempty short
    exact gsseckey_secKeyStart (not_or.mpr ⟨Nat.not_lt.mpr nonempty, Nat.not_lt.mpr short⟩)
  · intro size data done enciphered
    exact @streamXor_keeps _ func2Step (fun crypt => crypt.table.IsPermutation) func2Step_permutes
      size _ (func3_permutes scrambleData len) data done enciphered
  · exact eachIn_of_keeps func7e_permutes (func4_permutes nonempty held)
  · exact eachIn_of_keeps func7_permutes (func4_permutes nonempty held)

theorem cipher_tables_permute_hku6fd :
    EachIn (fun enc1key => enc1key.table.IsPermutation) func7e
      (func4 (ascii "Hku6Fd") ⟨ByteTable.ofFn id, 0, 0, 0, 0, 0⟩) :=
  (cipher_tables_permute.2.2 (ascii "Hku6Fd") _ (by decide)).2.1

end GSMaster.Enctype
