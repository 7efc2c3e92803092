import GSMaster.Text.Decimal

/-!
# The tokens of a text

`GSM_strtok_r`, called again and again, returns the runs of a text between its
delimiters. A text that is cut at a delimiter has the tokens of its two parts;
a text that is cut elsewhere has no fewer than the part before the cut.
-/

namespace GSMaster.Text

def tokens (delimiters : List UInt8) (text : CString) : List CString :=
  (text.splitOnP fun c => delimiters.contains c).filter fun token => token ≠ []

/-- The tokens that are left where `*last` points, if it does. -/
def tokensLeft (delimiters : List UInt8) : Option CString → List CString
  | none => []
  | some text => tokens delimiters text

variable {delimiters : List UInt8}

theorem tokens_nil : tokens delimiters [] = [] := by
  simp [tokens]

theorem tokens_append {delimiter : UInt8} (stops : delimiters.contains delimiter = true)
    (first second : CString) :
    tokens delimiters (first ++ delimiter :: second) =
      tokens delimiters first ++ tokens delimiters second := by
  unfold tokens
  rw [List.splitOnP_append_cons first second stops, List.filter_append]

theorem tokens_delimiter {delimiter : UInt8} (stops : delimiters.contains delimiter = true)
    (rest : CString) : tokens delimiters (delimiter :: rest) = tokens delimiters rest := by
  have split := tokens_append stops [] rest
  rwa [tokens_nil, List.nil_append] at split

/-- There are at most as many tokens as there are places between characters. -/
theorem tokens_length_le (text : CString) :
    (tokens delimiters text).length ≤ text.length + 1 := by
  refine (List.length_filter_le ..).trans ?_
  induction text with
  | nil => simp
  | cons c rest ih =>
      rw [List.splitOnP_cons_eq_if_modifyHead, List.length_cons]
      split
      · rw [List.length_cons]
        omega
      · rw [List.length_modifyHead]
        omega

/-- A text without delimiters is one token. -/
theorem tokens_plain {token : CString} (named : token ≠ [])
    (plain : ∀ c ∈ token, delimiters.contains c = false) : tokens delimiters token = [token] := by
  unfold tokens
  rw [List.splitOnP_eq_singleton plain]
  simp [named]

/-- Delimiters in front of a text are skipped. -/
theorem tokens_dropWhile (text : CString) :
    tokens delimiters (text.dropWhile fun c => delimiters.contains c) = tokens delimiters text := by
  induction text with
  | nil => rfl
  | cons c rest ih =>
      by_cases stops : delimiters.contains c = true
      · rw [List.dropWhile_cons_of_pos stops, ih, tokens_delimiter stops]
      · rw [List.dropWhile_cons_of_neg stops]

theorem strtok_dropWhile (text : CString) :
    strtok delimiters (some (text.dropWhile fun c => delimiters.contains c)) =
      strtok delimiters (some text) := by
  unfold strtok
  simp only [List.dropWhile_idempotent]

/-- A text that begins with no delimiter is a token, or a token, a delimiter and what follows. -/
theorem token_cases {text : CString} (some : text ≠ [])
    (starts : ∀ c ∈ text.head?, delimiters.contains c = false) :
    ∃ token, token ≠ [] ∧ (∀ c ∈ token, delimiters.contains c = false) ∧
      (text = token ∨ ∃ delimiter rest, delimiters.contains delimiter = true ∧
        text = token ++ delimiter :: rest) := by
  have parts : text.takeWhile (fun c => !delimiters.contains c) ++
      text.dropWhile (fun c => !delimiters.contains c) = text :=
    List.takeWhile_append_dropWhile
  refine ⟨text.takeWhile fun c => !delimiters.contains c, ?_, fun c member => ?_, ?_⟩
  · obtain ⟨c, rest, rfl⟩ := List.exists_cons_of_ne_nil some
    rw [List.takeWhile_cons_of_pos (by rw [starts c rfl]; rfl)]
    exact List.cons_ne_nil _ _
  · simpa using List.mem_takeWhile_imp (p := fun c => !delimiters.contains c) member
  · cases left : text.dropWhile fun c => !delimiters.contains c with
    | nil =>
        rw [left, List.append_nil] at parts
        exact Or.inl parts.symm
    | cons delimiter rest =>
        have stops := List.head?_dropWhile_not (fun c => !delimiters.contains c) text
        rw [left] at stops parts
        exact Or.inr ⟨delimiter, rest, by simpa using stops, parts.symm⟩

/-- `GSM_strtok_r` takes the first token off. -/
theorem strtok_tokens (delimiters : List UInt8) (text : CString) :
    (strtok delimiters (some text)).1.toList ++
      tokensLeft delimiters (strtok delimiters (some text)).2 = tokens delimiters text := by
  rw [← tokens_dropWhile, ← strtok_dropWhile]
  have starts := List.head?_dropWhile_not (fun c => delimiters.contains c) text
  by_cases empty : text.dropWhile (fun c => delimiters.contains c) = []
  · rw [empty, tokens_nil]
    rfl
  · have first : ∀ c ∈ (text.dropWhile fun c => delimiters.contains c).head?,
        delimiters.contains c = false := by
      intro c member
      rw [Option.mem_def.mp member] at starts
      exact starts
    obtain ⟨token, named, plain, whole | ⟨delimiter, rest, stops, whole⟩⟩ :=
      token_cases empty first
    · rw [whole, strtok_last named plain, tokens_plain named plain]
      rfl
    · rw [whole, strtok_delimited named plain stops, tokens_append stops, tokens_plain named plain]
      rfl

/-- Where there is a first token it is the one that is returned. -/
theorem strtok_eq_of_tokens {text token : CString} {rest : List CString}
    (split : tokens delimiters text = token :: rest) :
    ∃ last, strtok delimiters (some text) = (some token, last) ∧
      tokensLeft delimiters last = rest := by
  have taken := strtok_tokens delimiters text
  rw [split] at taken
  cases read : strtok delimiters (some text) with
  | mk first last =>
      rw [read] at taken
      cases first with
      | none =>
          have none : (strtok delimiters (some text)).1 = none := by rw [read]
          have skipped := List.dropWhile_eq_nil_iff.mpr (strtok_none_iff.mp none)
          rw [← tokens_dropWhile, skipped, tokens_nil] at split
          cases split
      | some first =>
          obtain ⟨rfl, left⟩ := List.cons.inj taken
          exact ⟨last, rfl, left⟩

/-- Where there is no token `*last` is NULL too. -/
theorem strtok_eq_none {text : Option CString} (absent : tokensLeft delimiters text = []) :
    strtok delimiters text = (none, none) := by
  cases text with
  | none => rfl
  | some text =>
      have taken := strtok_tokens delimiters text
      rw [show tokens delimiters text = [] from absent, List.append_eq_nil_iff,
        Option.toList_eq_nil_iff] at taken
      have skipped := List.dropWhile_eq_nil_iff.mpr (strtok_none_iff.mp taken.1)
      unfold strtok
      simp only [skipped]

theorem strtok_eq_some {text : Option CString} {token : CString} {rest : List CString}
    (split : tokensLeft delimiters text = token :: rest) :
    ∃ last, strtok delimiters text = (some token, last) ∧ tokensLeft delimiters last = rest := by
  cases text with
  | none => cases split
  | some text => exact strtok_eq_of_tokens split

/-- The next token, if there is one, and those that are left make up what was left. -/
theorem strtok_left (delimiters : List UInt8) (text : Option CString) :
    (strtok delimiters text).1.toList ++ tokensLeft delimiters (strtok delimiters text).2 =
        tokensLeft delimiters text ∧
      ((strtok delimiters text).1 = none →
        tokensLeft delimiters (strtok delimiters text).2 = []) := by
  cases left : tokensLeft delimiters text with
  | nil =>
      rw [strtok_eq_none left]
      exact ⟨rfl, fun _ => rfl⟩
  | cons token rest =>
      obtain ⟨last, read, after⟩ := strtok_eq_some left
      rw [read, after]
      exact ⟨rfl, fun absent => by cases absent⟩

/-- What is returned is the first token. -/
theorem strtok_head (delimiters : List UInt8) (text : CString) :
    (strtok delimiters (some text)).1 = (tokens delimiters text).head? := by
  cases split : tokens delimiters text with
  | nil =>
      have absent : tokensLeft delimiters (some text) = [] := split
      rw [strtok_eq_none absent]
      rfl
  | cons token rest =>
      obtain ⟨last, read, -⟩ := strtok_eq_of_tokens split
      rw [read]
      rfl

/-- The next token is the first of those that are left. -/
theorem strtok_first (delimiters : List UInt8) (text : Option CString) :
    (strtok delimiters text).1 = (tokensLeft delimiters text).head? := by
  cases text with
  | none => rfl
  | some text => exact strtok_head delimiters text

/-- A token is followed by the end of the text or by the delimiter that ends it. -/
theorem strtok_inv {text token : CString} {last : Option CString}
    (read : strtok delimiters (some text) = (some token, last)) :
    token ≠ [] ∧ (∀ c ∈ token, delimiters.contains c = false) ∧
      (last = none ∧ text.dropWhile (fun c => delimiters.contains c) = token ∨
        ∃ delimiter rest, delimiters.contains delimiter = true ∧ last = some rest ∧
          text.dropWhile (fun c => delimiters.contains c) = token ++ delimiter :: rest) := by
  rw [← strtok_dropWhile] at read
  have starts := List.head?_dropWhile_not (fun c => delimiters.contains c) text
  generalize text.dropWhile (fun c => delimiters.contains c) = start at *
  cases start with
  | nil => cases read
  | cons c others =>
      obtain ⟨first, named, plain, whole | ⟨delimiter, rest, stops, whole⟩⟩ :=
        token_cases (List.cons_ne_nil c others) fun d member => Option.mem_some.mp member ▸ starts
      · rw [whole, strtok_last named plain] at read
        cases read
        exact ⟨named, plain, Or.inl ⟨rfl, whole⟩⟩
      · rw [whole, strtok_delimited named plain stops] at read
        cases read
        exact ⟨named, plain, Or.inr ⟨delimiter, rest, stops, rfl, whole⟩⟩

/--
`*last` is NULL after a token exactly when nothing but delimiters stands before
the token and nothing at all behind it.
-/
theorem strtok_ended_iff {text token : CString} :
    strtok delimiters (some text) = (some token, none) ↔
      token ≠ [] ∧ (∀ c ∈ token, delimiters.contains c = false) ∧
        text.dropWhile (fun c => delimiters.contains c) = token := by
  constructor
  · intro ended
    obtain ⟨named, plain, ⟨-, whole⟩ | ⟨delimiter, rest, -, more, -⟩⟩ := strtok_inv ended
    · exact ⟨named, plain, whole⟩
    · cases more
  · rintro ⟨named, plain, whole⟩
    rw [← strtok_dropWhile, whole]
    exact strtok_last named plain

/-! ## The tokens of a part -/

/-- A line of a file, with what stands before it and behind it. -/
structure LineAt (file front line back : List UInt8) : Prop where
  split : file = front ++ line ++ back
  whole : newline ∉ line
  starts : front = [] ∨ front.getLast? = some newline
  ends : back = [] ∨ back.head? = some newline

/-- A newline that is added to the end of a file adds no token. -/
theorem tokens_newline (ends : delimiters.contains newline = true) (file : List UInt8) :
    tokens delimiters (cstr (file ++ [newline])) = tokens delimiters (cstr file) := by
  by_cases text : 0 ∈ file
  · obtain ⟨first, rest, rfl, missing⟩ := List.eq_append_cons_of_mem text
    rw [List.append_assoc, cstr_append missing, cstr_append missing]
    rfl
  · have same : cstr file = file := cstr_of_forall fun _ member zero => text (zero ▸ member)
    have last : cstr [newline] = [newline] := rfl
    rw [cstr_append text, same, last, tokens_append ends, tokens_nil, List.append_nil]

/-- The loops over a file have fuel for every token of it. -/
theorem tokens_file_length_le (delimiters : List UInt8) (file : List UInt8) :
    (tokens delimiters (cstr (file ++ [newline]))).length ≤ file.length + 2 := by
  have size : (cstr (file ++ [newline])).length ≤ file.length + 1 :=
    (cstr_length_le _).trans_eq List.length_append
  exact (tokens_length_le _).trans (Nat.succ_le_succ size)

/-- The tokens of a file are those before a line, those of the line and those behind it. -/
theorem LineAt.tokens {file front line back : List UInt8} (here : LineAt file front line back)
    (ends : delimiters.contains newline = true) (early : 0 ∉ front) (text : 0 ∉ line) :
    Text.tokens delimiters (cstr (file ++ [newline])) = Text.tokens delimiters front ++
      (Text.tokens delimiters line ++ Text.tokens delimiters (cstr back)) := by
  have behind : Text.tokens delimiters (line ++ cstr back) =
      Text.tokens delimiters line ++ Text.tokens delimiters (cstr back) := by
    rcases here.ends with rfl | newlineFirst
    · simp [cstr, tokens_nil]
    · obtain ⟨rest, rfl⟩ := List.head?_eq_some_iff.mp newlineFirst
      have first : cstr (newline :: rest) = newline :: cstr rest := rfl
      rw [first, tokens_append ends, tokens_delimiter ends]
  have before (rest : CString) : Text.tokens delimiters (front ++ rest) =
      Text.tokens delimiters front ++ Text.tokens delimiters rest := by
    rcases here.starts with rfl | newlineLast
    · rw [List.nil_append, tokens_nil, List.nil_append]
    · obtain ⟨first, rfl⟩ := List.getLast?_eq_some_iff.mp newlineLast
      rw [List.append_assoc, List.singleton_append, tokens_append ends, tokens_append ends,
        tokens_nil, List.append_nil]
  rw [tokens_newline ends, here.split, List.append_assoc, cstr_append early, before,
    cstr_append text, behind]

end GSMaster.Text
