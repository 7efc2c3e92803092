import GSMaster.Registry.ListFiles

/-!
# The lines of a list file

`Parse_ServerList` takes one line after another from the front of the file,
copies it to `line` and moves what is left down to the front. It finds the
lines as they should be found, and it copies each one as it is, however long.
-/

namespace GSMaster.Registry

open GSMaster.Text GSMaster.Games

/-- `MAX_SERVERLIST_LINE`: a name, a port and a game name with two separators. -/
def maxServerlistLine : Nat :=
  maxDnsNamelen + 1 + 5 + 1 + maxGamenameLen

/-- `i` after the search for a newline in the first `fileSize` bytes. -/
def lineEnd (fileSize : Nat) (text : List UInt8) : Nat :=
  (text.take fileSize).findIdx fun c => c == newline

/-- `memmove(text, text + shift, count)`. -/
def moveDown (text : List UInt8) (shift count : Nat) : List UInt8 :=
  (text.drop shift).take count ++ text.drop count

/--
The loop of `Parse_ServerList`: the bytes copied to `line` in each round. There
is no result while bytes are left and the rounds are used up.
-/
def parseServerListLoop : Nat → Nat → List UInt8 → Option (List (List UInt8))
  | 0, fileSize, _ => if fileSize = 0 then some [] else none
  | rounds + 1, fileSize, text =>
      if fileSize = 0 then some []
      else
        let i := lineEnd fileSize text
        let left := if i = fileSize then 0 else fileSize - (i + 1)
        let moved := if i = fileSize then text else moveDown text (i + 1) left
        (parseServerListLoop rounds left moved).map (text.take i :: ·)

/-- The indices of `line` that are stored to, the terminator last. -/
def lineStores (line : List UInt8) : List Nat :=
  List.range (line.length + 1)

/-- The lines of a file; what follows a final newline is none. -/
def fileLines (content : List UInt8) : List (List UInt8) :=
  let pieces := content.splitOn newline
  if pieces.getLast? = some [] then pieces.dropLast else pieces

/--
Whatever follows the file in memory, the loop ends, the texts that it executes
are the lines of the file, and what it stores is inside `line`.
-/
def SplitsSafely (content : List UInt8) : Prop :=
  ∀ rest, ∃ rounds lines, parseServerListLoop rounds content.length (content ++ rest) = some lines ∧
    lines.map cstr = fileLines content ∧
      ∀ line ∈ lines, ∀ i ∈ lineStores line, i < maxServerlistLine

/-! ## The lines -/

theorem fileLines_cons {line : List UInt8} (whole : newline ∉ line) (rest : List UInt8) :
    fileLines (line ++ newline :: rest) = line :: fileLines rest := by
  obtain ⟨first, others, pieces⟩ := List.exists_cons_of_ne_nil (List.splitOn_ne_nil newline rest)
  unfold fileLines
  rw [List.splitOn_append_cons_self_of_not_mem whole, pieces]
  simp only [List.getLast?_cons_cons, List.dropLast_cons_cons]
  split <;> rfl

theorem fileLines_last {line : List UInt8} (whole : newline ∉ line) (some : line ≠ []) :
    fileLines line = [line] := by
  unfold fileLines
  rw [List.splitOn_eq_singleton whole]
  simp [some]

/-- A file is empty, a last line, or a line and the rest of the file. -/
@[elab_as_elim]
theorem content_induction {motive : List UInt8 → Prop} (nil : motive [])
    (last : ∀ line, newline ∉ line → line ≠ [] → motive line)
    (line : ∀ line rest, newline ∉ line → motive rest → motive (line ++ newline :: rest))
    (content : List UInt8) : motive content := by
  induction size : content.length using Nat.strongRecOn generalizing content with
  | ind size ih =>
      by_cases more : newline ∈ content
      · obtain ⟨first, rest, rfl, whole⟩ := List.eq_append_cons_of_mem more
        refine line first rest whole (ih rest.length ?_ rest rfl)
        rw [← size, List.length_append, List.length_cons]
        omega
      · by_cases empty : content = []
        · exact empty ▸ nil
        · exact last content more empty

theorem lineEnd_last {line : List UInt8} (whole : newline ∉ line) (rest : List UInt8) :
    lineEnd line.length (line ++ rest) = line.length := by
  rw [lineEnd, List.take_left, List.findIdx_eq_length]
  intro c member
  exact beq_eq_false_iff_ne.mpr fun same => whole (same ▸ member)

theorem lineEnd_newline {line : List UInt8} (whole : newline ∉ line) (rest : List UInt8)
    {fileSize : Nat} (more : line.length < fileSize) :
    lineEnd fileSize (line ++ newline :: rest) = line.length := by
  obtain ⟨left, room⟩ : ∃ left, fileSize - line.length = left + 1 :=
    ⟨fileSize - line.length - 1, by omega⟩
  have missing : ¬ ∃ c ∈ line, (c == newline) = true := by
    rintro ⟨c, member, same⟩
    exact whole (beq_iff_eq.mp same ▸ member)
  rw [lineEnd, List.take_append, List.take_of_length_le (Nat.le_of_lt more), room,
    List.take_succ_cons, List.findIdx_append, if_neg (mt List.findIdx_lt_length.mp missing),
    List.findIdx_cons, beq_self_eq_true, cond_true, Nat.zero_add]

/-- What is behind the newline is moved to the front. -/
theorem moveDown_line (line tail rest : List UInt8) :
    moveDown (line ++ newline :: tail ++ rest) (line.length + 1) tail.length =
      tail ++ (line ++ newline :: tail ++ rest).drop tail.length := by
  have behind : (line ++ newline :: tail ++ rest).drop (line.length + 1) = tail ++ rest := by
    rw [List.append_assoc, ← List.drop_drop, List.drop_left]
    rfl
  rw [moveDown, behind, List.take_left]

/-! ## The loop -/

/-- A round for each byte is enough, and the lines are those of the file. -/
theorem parseServerListLoop_eq (content rest : List UInt8) {rounds : Nat}
    (enough : content.length ≤ rounds) :
    parseServerListLoop rounds content.length (content ++ rest) = some (fileLines content) := by
  induction content using content_induction generalizing rest rounds with
  | nil => cases rounds <;> rfl
  | last line whole some =>
      obtain ⟨rounds, rfl⟩ := Nat.exists_eq_succ_of_ne_zero
        (show rounds ≠ 0 from fun zero => some (List.length_eq_zero_iff.mp (by omega)))
      unfold parseServerListLoop
      rw [if_neg (mt List.length_eq_zero_iff.mp some)]
      simp only [lineEnd_last whole, if_true, List.take_left, fileLines_last whole some]
      cases rounds <;> rfl
  | line line tail whole ih =>
      have length : (line ++ newline :: tail).length = line.length + (tail.length + 1) :=
        List.length_append
      rw [length] at enough
      obtain ⟨rounds, rfl⟩ := Nat.exists_eq_succ_of_ne_zero (show rounds ≠ 0 by omega)
      have found : lineEnd (line.length + (tail.length + 1)) (line ++ newline :: tail ++ rest) =
          line.length := by
        rw [List.append_assoc]
        exact lineEnd_newline whole (tail ++ rest) (by omega)
      have taken : (line ++ newline :: tail ++ rest).take line.length = line := by
        rw [List.append_assoc, List.take_left]
      have left : line.length + (tail.length + 1) - (line.length + 1) = tail.length := by omega
      have later := ih ((line ++ newline :: tail ++ rest).drop tail.length)
        (show tail.length ≤ rounds by omega)
      unfold parseServerListLoop
      rw [length, if_neg (by omega), fileLines_cons whole]
      simp only [found, if_neg (show line.length ≠ line.length + (tail.length + 1) by omega),
        taken, left, moveDown_line, later, Option.map_some]

/-- The rounds of the loop do not matter once it ends. -/
theorem parseServerListLoop_mono {rounds more fileSize : Nat} {text : List UInt8}
    {lines : List (List UInt8)} (ends : parseServerListLoop rounds fileSize text = some lines)
    (enough : rounds ≤ more) : parseServerListLoop more fileSize text = some lines := by
  induction rounds generalizing more fileSize text lines with
  | zero =>
      unfold parseServerListLoop at ends
      split at ends
      · rename_i empty
        cases more with
        | zero => rwa [parseServerListLoop, if_pos empty]
        | succ more => rwa [parseServerListLoop, if_pos empty]
      · cases ends
  | succ rounds ih =>
      obtain ⟨more, rfl⟩ := Nat.exists_eq_succ_of_ne_zero (Nat.ne_zero_of_lt enough)
      unfold parseServerListLoop at ends ⊢
      split at ends
      · rename_i empty
        rwa [if_pos empty]
      · rename_i bytes
        obtain ⟨later, done, rfl⟩ := Option.map_eq_some_iff.mp ends
        rw [if_neg bytes]
        simp only [ih done (Nat.le_of_succ_le_succ enough), Option.map_some]

/-- The loop has at most one result. -/
theorem parseServerListLoop_unique {content rest : List UInt8} {rounds : Nat}
    {lines : List (List UInt8)}
    (ends : parseServerListLoop rounds content.length (content ++ rest) = some lines) :
    lines = fileLines content := by
  have longer := parseServerListLoop_mono ends (Nat.le_max_left rounds content.length)
  rw [parseServerListLoop_eq content rest (Nat.le_max_right rounds content.length)] at longer
  exact (Option.some.inj longer).symm

theorem lineStores_inside_iff (line : List UInt8) :
    (∀ i ∈ lineStores line, i < maxServerlistLine) ↔ line.length < maxServerlistLine := by
  unfold lineStores
  constructor
  · exact fun inside => inside line.length (List.mem_range.mpr (Nat.lt_succ_self _))
  · exact fun short i member =>
      Nat.lt_of_le_of_lt (Nat.le_of_lt_succ (List.mem_range.mp member)) short

/-- The bytes of the lines are bytes of the file. -/
theorem fileLines_subset (content : List UInt8) : ∀ line ∈ fileLines content, line ⊆ content := by
  induction content using content_induction with
  | nil => exact fun line listed => absurd listed List.not_mem_nil
  | last line whole some =>
      rw [fileLines_last whole some]
      exact fun other listed => (List.mem_singleton.mp listed) ▸ List.Subset.refl line
  | line line rest whole ih =>
      rw [fileLines_cons whole]
      intro other listed
      rcases List.mem_cons.mp listed with rfl | later
      · exact List.subset_append_left ..
      · intro c member
        exact List.mem_append_right _ (List.mem_cons_of_mem _ (ih other later member))

/-- The lines that are executed are those of the file. -/
theorem serverLines_eq (content : List UInt8) {fuel : Nat} (enough : content.length ≤ fuel) :
    serverLines fuel content = fileLines content := by
  induction content using content_induction generalizing fuel with
  | nil => cases fuel <;> rfl
  | last line whole some =>
      obtain ⟨fuel, rfl⟩ := Nat.exists_eq_succ_of_ne_zero
        (show fuel ≠ 0 from fun zero => some (List.length_eq_zero_iff.mp (by omega)))
      have taken : line.takeWhile (fun c => c != newline) = line :=
        List.takeWhile_eq_self_iff.mpr fun c member =>
          bne_iff_ne.mpr fun same => whole (same ▸ member)
      have behind : line.drop (line.length + 1) = [] := List.drop_eq_nil_of_le (Nat.le_succ _)
      rw [serverLines, if_neg some, fileLines_last whole some]
      simp only [taken, behind]
      cases fuel <;> rfl
  | line line rest whole ih =>
      have length : (line ++ newline :: rest).length = line.length + (rest.length + 1) :=
        List.length_append
      rw [length] at enough
      obtain ⟨fuel, rfl⟩ := Nat.exists_eq_succ_of_ne_zero (show fuel ≠ 0 by omega)
      have taken : (line ++ newline :: rest).takeWhile (fun c => c != newline) = line := by
        have plain : ∀ c ∈ line, (c != newline) = true := fun c member =>
          bne_iff_ne.mpr fun same => whole (same ▸ member)
        rw [List.takeWhile_append_of_pos plain]
        simp
      have behind : (line ++ newline :: rest).drop (line.length + 1) = rest := by
        rw [← List.drop_drop, List.drop_left]
        rfl
      rw [serverLines, if_neg (by simp), fileLines_cons whole]
      simp only [taken, behind, ih (show rest.length ≤ fuel by omega)]

/-! ## A file -/

theorem parseServerList_fileLines (env : Nat → Env) (content : List UInt8)
    (gamenameFromHttp : Option CString) :
    parseServerList env content gamenameFromHttp =
      serverLineCalls env gamenameFromHttp 0 (fileLines content) := by
  rw [parseServerList, serverLines_eq content (Nat.le_refl _)]

/--
A file is split safely exactly when each of its lines leaves room for the
terminator in `line`.
-/
theorem splitsSafely_iff (content : List UInt8) (text : 0 ∉ content) :
    SplitsSafely content ↔ ∀ line ∈ fileLines content, line.length < maxServerlistLine := by
  constructor
  · intro safely line listed
    obtain ⟨rounds, lines, ends, -, inside⟩ := safely []
    rw [parseServerListLoop_unique ends] at inside
    exact (lineStores_inside_iff line).mp (inside line listed)
  · intro short rest
    refine ⟨content.length, fileLines content,
      parseServerListLoop_eq content rest (Nat.le_refl _), ?_,
      fun line listed => (lineStores_inside_iff line).mpr (short line listed)⟩
    refine (List.map_congr_left fun line listed => ?_).trans (List.map_id _)
    exact cstr_of_forall fun c member zero =>
      text (fileLines_subset content line listed (zero ▸ member))

/-- Two lines, the second without a newline. -/
theorem splitsSafely_iff_two :
    SplitsSafely (ascii "10.0.0.1:27910,quake2\n10.0.0.2:27910,quake2") :=
  (splitsSafely_iff _ (by decide)).mpr (by decide)

/-- A line of 277 characters leaves no room for the terminator. -/
theorem splits_unsafely : ¬ ∀ content : List UInt8, 0 ∉ content → SplitsSafely content := by
  intro always
  have whole : newline ∉ List.replicate 277 (97 : UInt8) := fun member =>
    absurd (List.eq_of_mem_replicate member) (by decide)
  have text : 0 ∉ List.replicate 277 (97 : UInt8) := fun member =>
    absurd (List.eq_of_mem_replicate member) (by decide)
  obtain ⟨rounds, lines, ends, -, inside⟩ := always _ text []
  rw [parseServerListLoop_unique ends, fileLines_last whole (List.cons_ne_nil _ _)] at inside
  have last := (lineStores_inside_iff _).mp (inside _ (List.mem_singleton_self _))
  rw [List.length_replicate] at last
  exact absurd last (by decide)

end GSMaster.Registry
