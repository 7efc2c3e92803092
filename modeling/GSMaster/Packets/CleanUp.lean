import GSMaster.Packets.ParseResponse

/-!
# What the newline clean-up leaves alone

The loop at the start of `ParseResponse` looks at the bytes of a datagram up to
the first zero. Where it meets a newline it shifts everything after it down by
one, so bytes survive only if nothing but newlines follows. The last byte stays
behind at every shift, so the text that is left is as long as the datagram.
-/

namespace GSMaster.Packets

open GSMaster.Text

/-- Every newline before the first zero byte has only newlines after it. -/
def Untouched (bytes : List UInt8) : Prop :=
  ∀ before after, bytes = before ++ newline :: after → 0 ∉ before → ∀ c ∈ after, c = newline

theorem untouched_nil : Untouched [] :=
  fun before _ split => absurd split (by cases before <;> simp)

theorem untouched_zero (rest : List UInt8) : Untouched (0 :: rest) := by
  intro before after split noZero
  cases before with
  | nil => exact absurd (List.cons.inj split).1 (by decide)
  | cons c before => exact absurd (List.mem_cons_self ..) ((List.cons.inj split).1 ▸ noZero)

theorem untouched_newline {rest : List UInt8} :
    Untouched (newline :: rest) ↔ ∀ c ∈ rest, c = newline := by
  constructor
  · exact fun untouched => untouched [] rest rfl List.not_mem_nil
  · intro newlines before after split _ c member
    cases before with
    | nil => exact newlines c ((List.cons.inj split).2 ▸ member)
    | cons d before =>
        refine newlines c ?_
        rw [(List.cons.inj split).2]
        exact List.mem_append_right _ (List.mem_cons_of_mem _ member)

theorem untouched_cons {c : UInt8} {rest : List UInt8} (nonzero : c ≠ 0) (text : c ≠ newline) :
    Untouched (c :: rest) ↔ Untouched rest := by
  constructor
  · intro untouched before after split noZero
    refine untouched (c :: before) after (congrArg (c :: ·) split) ?_
    rw [List.mem_cons, not_or]
    exact ⟨Ne.symm nonzero, noZero⟩
  · intro untouched before after split noZero
    cases before with
    | nil => exact absurd (List.cons.inj split).1 text
    | cons d before =>
        exact untouched before after (List.cons.inj split).2 fun member =>
          noZero (List.mem_cons_of_mem _ member)

/-! ## The loop -/

/-- The loop passes over bytes that are neither zero nor a newline. -/
theorem cleanLoop_cons {c : UInt8} (nonzero : c ≠ 0) (text : c ≠ newline) (fuel : Nat)
    (rest : List UInt8) : cleanLoop (fuel + 1) (c :: rest) = c :: cleanLoop fuel rest := by
  rw [cleanLoop.eq_def]
  simp only
  rw [if_neg nonzero, if_neg text]

theorem cleanLoop_zero (fuel : Nat) (rest : List UInt8) :
    cleanLoop fuel (0 :: rest) = 0 :: rest := by
  cases fuel <;> rfl

theorem cleanLoop_newline (fuel : Nat) (x y : UInt8) (more : List UInt8) :
    cleanLoop (fuel + 1) (newline :: x :: y :: more) =
      x :: y :: cleanLoop fuel (more ++ [(y :: more).getLast (List.cons_ne_nil y more)]) :=
  rfl

theorem cleanLoop_append {text : List UInt8} (plain : ∀ c ∈ text, c ≠ 0 ∧ c ≠ newline) (fuel : Nat)
    (rest : List UInt8) :
    cleanLoop (text.length + fuel) (text ++ rest) = text ++ cleanLoop fuel rest := by
  induction text with
  | nil => rw [List.length_nil, Nat.zero_add, List.nil_append, List.nil_append]
  | cons c text ih =>
      obtain ⟨nonzero, other⟩ := plain c (List.mem_cons_self ..)
      rw [List.length_cons, Nat.add_right_comm, List.cons_append, cleanLoop_cons nonzero other,
        ih fun d member => plain d (List.mem_cons_of_mem _ member), List.cons_append]

/-- Newlines up to the end are shifted onto newlines. -/
theorem cleanLoop_newlines (fuel count : Nat) :
    cleanLoop fuel (List.replicate count newline) = List.replicate count newline := by
  induction fuel generalizing count with
  | zero => rfl
  | succ fuel ih =>
      match count with
      | 0 => rfl
      | 1 => rfl
      | 2 => rfl
      | count + 3 =>
          have last : (newline :: List.replicate count newline).getLast
              (List.cons_ne_nil newline _) = newline :=
            List.eq_of_mem_replicate (n := count + 1) (List.getLast_mem _)
          change cleanLoop (fuel + 1)
            (newline :: newline :: newline :: List.replicate count newline) = _
          rw [cleanLoop_newline, last, ← List.replicate_succ', ih]
          rfl

/-- Another byte after some newlines is shifted to where a newline was. -/
theorem cleanLoop_shifts (count fuel : Nat) {v : UInt8} (other : v ≠ newline) (rest : List UInt8)
    (enough : count < fuel) :
    ∃ c ∈ (cleanLoop fuel (List.replicate count newline ++ v :: rest)).take (max count 1),
      c ≠ newline := by
  induction count using Nat.strongRecOn generalizing fuel rest with
  | ind count ih =>
      obtain ⟨fuel, rfl⟩ := Nat.exists_eq_succ_of_ne_zero (Nat.ne_of_gt (Nat.zero_lt_of_lt enough))
      match count with
      | 0 =>
          refine ⟨v, ?_, other⟩
          by_cases zero : v = 0
          · subst zero
            exact List.mem_cons_self ..
          · rw [List.replicate_zero, List.nil_append, cleanLoop_cons zero other]
            exact List.mem_cons_self ..
      | 1 =>
          refine ⟨v, ?_, other⟩
          cases rest with
          | nil => exact List.mem_cons_self ..
          | cons x more => exact List.mem_cons_self ..
      | 2 => exact ⟨v, List.mem_cons_of_mem _ (List.mem_cons_self ..), other⟩
      | count + 3 =>
          change ∃ c ∈ (cleanLoop (fuel + 1) (newline :: newline :: newline ::
            (List.replicate count newline ++ v :: rest))).take _, _
          rw [cleanLoop_newline, List.append_assoc, List.cons_append]
          obtain ⟨c, member, apart⟩ := ih count (by omega) fuel (rest ++ [_]) (by omega)
          refine ⟨c, ?_, apart⟩
          have early := List.take_subset_take_left _ (show max count 1 ≤ count + 1 by omega) member
          rw [show max (count + 3) 1 = count + 1 + 2 by omega]
          exact List.mem_cons_of_mem _ (List.mem_cons_of_mem _ early)

theorem eq_replicate_append {bytes : List UInt8} (mixed : ¬ ∀ c ∈ bytes, c = newline) :
    ∃ count v rest, v ≠ newline ∧ bytes = List.replicate count newline ++ v :: rest := by
  induction bytes with
  | nil => exact absurd (fun c member => nomatch member) mixed
  | cons c bytes ih =>
      by_cases here : c = newline
      · subst here
        obtain ⟨count, v, rest, other, rfl⟩ := ih fun newlines => mixed fun d member =>
          (List.mem_cons.mp member).elim id (newlines d)
        exact ⟨count + 1, v, rest, other, rfl⟩
      · exact ⟨0, c, bytes, here, rfl⟩

/-- If the bytes stay behind a newline at the front, they are all newlines. -/
theorem cleanLoop_newline_mixed {rest tail : List UInt8} {fuel : Nat}
    (enough : rest.length + tail.length ≤ fuel) (mixed : ¬ ∀ c ∈ rest, c = newline) :
    (cleanLoop (fuel + 1) (newline :: rest ++ tail)).take (rest.length + 1) ≠ newline :: rest := by
  intro kept
  obtain ⟨count, v, more, other, rfl⟩ := eq_replicate_append mixed
  rw [List.length_append, List.length_replicate, List.length_cons] at enough
  obtain ⟨d, member, apart⟩ := cleanLoop_shifts (count + 1) (fuel + 1) other
    (more ++ tail) (by omega)
  rw [Nat.max_eq_left (Nat.le_add_left 1 count)] at member
  have early := congrArg (List.take (count + 1)) kept
  rw [List.take_take, Nat.min_eq_left (by simp)] at early
  have inside : d ∈ List.take (count + 1) (newline ::
      (List.replicate count newline ++ v :: more)) := by
    rw [← early, List.cons_append, List.append_assoc, List.cons_append]
    exact member
  rw [← List.cons_append, ← List.replicate_succ, List.take_left' (List.length_replicate ..)]
    at inside
  exact apart (List.eq_of_mem_replicate inside)

/-- Newlines followed by newlines stay. -/
theorem cleanLoop_newlines_keeps {rest tail : List UInt8} {fuel : Nat}
    (newlines : ∀ c ∈ rest, c = newline)
    (repeats : ∀ c ∈ tail, c ∈ (newline :: rest).getLast?) :
    (cleanLoop fuel (newline :: rest ++ tail)).take (rest.length + 1) = newline :: rest := by
  have all : newline :: rest = List.replicate (rest.length + 1) newline :=
    List.eq_replicate_iff.mpr ⟨rfl, by simpa using newlines⟩
  have after : tail = List.replicate tail.length newline := by
    refine List.eq_replicate_iff.mpr ⟨rfl, fun c member => ?_⟩
    have last := List.mem_of_getLast? (repeats c member)
    rw [all] at last
    exact List.eq_of_mem_replicate last
  rw [after, all, ← List.replicate_add, cleanLoop_newlines, List.take_replicate,
    Nat.min_eq_left (Nat.le_add_right _ _)]

/--
The loop leaves the bytes of a text in place exactly when they are untouched.
A byte that it finds after the text may repeat the last byte of the text.
-/
theorem cleanLoop_keeps_iff {bytes : List UInt8} {tail : List UInt8} {fuel : Nat}
    (enough : bytes.length + tail.length ≤ fuel) (repeats : ∀ c ∈ tail, c ∈ bytes.getLast?) :
    (cleanLoop fuel (bytes ++ tail)).take bytes.length = bytes ↔ Untouched bytes := by
  induction bytes generalizing fuel with
  | nil => exact iff_of_true rfl untouched_nil
  | cons c rest ih =>
      rw [List.length_cons] at enough
      obtain ⟨fuel, rfl⟩ := Nat.exists_eq_succ_of_ne_zero (show fuel ≠ 0 by omega)
      by_cases zero : c = 0
      · subst zero
        rw [List.cons_append, cleanLoop_zero, ← List.cons_append, List.take_left]
        exact iff_of_true rfl (untouched_zero rest)
      · by_cases newlineHere : c = newline
        · subst newlineHere
          rw [untouched_newline]
          constructor
          · intro kept
            by_contra mixed
            exact cleanLoop_newline_mixed (by omega) mixed kept
          · exact fun newlines => cleanLoop_newlines_keeps newlines repeats
        · rw [untouched_cons zero newlineHere, List.cons_append, cleanLoop_cons zero newlineHere,
            List.length_cons, List.take_succ_cons, List.cons.injEq]
          simp only [true_and]
          cases rest with
          | nil => exact iff_of_true rfl untouched_nil
          | cons d rest =>
              exact ih (by omega) fun e member => by
                have last := repeats e member
                rwa [List.getLast?_cons_cons] at last

/-! ## The text that is left -/

/-- The loop stores no byte that the datagram does not have. -/
theorem cleanLoop_subset (fuel : Nat) (data : List UInt8) : cleanLoop fuel data ⊆ data := by
  induction fuel generalizing data with
  | zero => exact List.Subset.refl _
  | succ fuel ih =>
      cases data with
      | nil => exact List.Subset.refl _
      | cons c rest =>
          by_cases zero : c = 0
          · subst zero
            rw [cleanLoop_zero]
            exact List.Subset.refl _
          · by_cases newlineHere : c = newline
            · subst newlineHere
              match rest with
              | [] => exact List.Subset.refl _
              | [x] =>
                  intro d member
                  obtain rfl : d = x := by simpa [cleanLoop, newline] using member
                  exact List.mem_cons_of_mem _ (List.mem_singleton_self _)
              | x :: y :: more =>
                  rw [cleanLoop_newline]
                  have last := List.getLast_mem (List.cons_ne_nil y more)
                  intro d member
                  rcases List.mem_cons.mp member with rfl | member
                  · exact List.mem_cons_of_mem _ (List.mem_cons_self ..)
                  · rcases List.mem_cons.mp member with rfl | member
                    · exact List.mem_cons_of_mem _ (List.mem_cons_of_mem _ (List.mem_cons_self ..))
                    · rcases List.mem_append.mp (ih _ member) with inside | doubled
                      · simp [inside]
                      · rw [List.mem_singleton.mp doubled]
                        exact List.mem_cons_of_mem _ (List.mem_cons_of_mem _ last)
            · rw [cleanLoop_cons zero newlineHere]
              exact List.cons_subset_cons c (ih rest)

/-- A datagram without zero bytes leaves a text of its own length. -/
theorem cleanNewlines_text {received : List UInt8} (text : 0 ∉ received) :
    cstr (cleanNewlines received) = cleanNewlines received := by
  refine cstr_of_forall fun c member zero => text ?_
  subst zero
  exact cleanLoop_subset _ _ member

/-- Bytes none of which is a newline stay as they are. -/
theorem cleanNewlines_plain {received : List UInt8} (text : 0 ∉ received)
    (plain : newline ∉ received) : cleanNewlines received = received := by
  have others : ∀ c ∈ received, c ≠ 0 ∧ c ≠ newline := fun c member =>
    ⟨fun zero => text (zero ▸ member), fun same => plain (same ▸ member)⟩
  have kept := cleanLoop_append others 0 []
  rw [Nat.add_zero, List.append_nil] at kept
  exact kept.trans (List.append_nil _)

/-- The clean-up takes the newlines out, and nothing else, exactly where there are none. -/
theorem cleanNewlines_exact_iff (received : List UInt8) (text : 0 ∉ received) :
    cstr (cleanNewlines received) = received.filter (fun c => c ≠ newline) ↔
      newline ∉ received := by
  rw [cleanNewlines_text text]
  constructor
  · intro exactly member
    have shorter : (received.filter fun c => c ≠ newline).length < received.length :=
      List.length_filter_lt_length_iff_exists.mpr ⟨newline, member, by simp⟩
    rw [← exactly, cleanNewlines_length] at shorter
    exact Nat.lt_irrefl _ shorter
  · intro plain
    rw [cleanNewlines_plain text plain]
    refine (List.filter_eq_self.mpr fun c member => ?_).symm
    have apart : c ≠ newline := fun same => plain (same ▸ member)
    simpa using apart

theorem cleanNewlines_exact_iff_status :
    cstr (cleanNewlines (ascii "\\status")) = (ascii "\\status").filter fun c => c ≠ newline :=
  (cleanNewlines_exact_iff (ascii "\\status") (by decide)).mpr (by decide)

/-- A newline at the end of a datagram is not taken out. -/
theorem cleanNewlines_inexact :
    ¬ ∀ received : List UInt8, 5 ≤ received.length → received.length ≤ 65507 → 0 ∉ received →
      cstr (cleanNewlines received) = received.filter fun c => c ≠ newline := by
  intro always
  have exactly := always (ascii "\\status\n") (by decide) (by decide) (by decide)
  revert exactly
  decide

end GSMaster.Packets
