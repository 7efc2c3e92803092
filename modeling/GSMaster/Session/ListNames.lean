import GSMaster.Session.TcpSession
import GSMaster.Text.Decimal

/-!
# The name in a list request

A request of either style names its game behind a header. The tokenizer skips
the separators behind the header; where only separators follow there is no
token, and the test of `gamename[0]` reads through NULL.
-/

namespace GSMaster.Session

open GSMaster.Text GSMaster.Net GSMaster.Lists

def compressedHeader : CString := ascii "\\list\\cmp\\gamename\\"

/-- The text behind the header of a request. -/
def requestText (querystring : CString) : Option CString :=
  match strstr compressedHeader querystring with
  | some ret => some (ret.drop 19)
  | none =>
      (strstr (ascii "\\list\\") querystring).bind fun ret =>
        (strstr (ascii "gamename\\") (ret.drop 6)).map fun ret => ret.drop 9

/--
The request is refused with `\final\`, or a list is sent for a name that is not
empty and a part of the request.
-/
def AnswersRequest (querystring : CString) (events : Option (List SocketEvent)) : Prop :=
  events = some [.send finalstringerror] ∨
    ∃ before call, events = some (before ++ [.list call]) ∧
      call.gamename ≠ [] ∧ call.gamename.IsInfix querystring

/-- What the length guards test holds of every text that `strstr` returns. -/
theorem strstr_length_le {pattern text found : CString} (here : strstr pattern text = some found) :
    pattern.length ≤ found.length :=
  (strstr_some here).1.length_le

theorem requestText_suffix {querystring text : CString}
    (located : requestText querystring = some text) : text.IsSuffix querystring := by
  unfold requestText at located
  cases compressed : strstr compressedHeader querystring with
  | some ret =>
      rw [compressed] at located
      cases located
      exact (List.drop_suffix 19 ret).trans (strstr_some compressed).2
  | none =>
      rw [compressed] at located
      obtain ⟨list, listed, located⟩ := Option.bind_eq_some_iff.mp located
      obtain ⟨ret, named, rfl⟩ := Option.map_eq_some_iff.mp located
      have inner : ret.IsSuffix (list.drop 6) := (strstr_some named).2
      have outer : (list.drop 6).IsSuffix querystring :=
        (List.drop_suffix 6 list).trans (strstr_some listed).2
      exact (List.drop_suffix 9 ret).trans (inner.trans outer)

/-- The length guards never fire: a request is read at the text behind its header. -/
theorem listRequest_eq {querystring : CString}
    (listed : contains querystring (ascii "\\list\\") = true)
    (named : contains querystring (ascii "\\gamename\\") = true) :
    listRequest querystring =
      ((requestText querystring).map
        (requestedGame · (contains querystring compressedHeader))).getD .error := by
  have guards : ¬ ((!contains querystring (ascii "\\list\\") ||
      !contains querystring (ascii "\\gamename\\")) = true) := by
    rw [listed, named]
    exact Bool.false_ne_true
  unfold listRequest requestText contains
  unfold contains at guards
  rw [if_neg guards]
  change (match strstr compressedHeader querystring with | some ret => _ | none => _) = _
  cases compressed : strstr compressedHeader querystring with
  | some ret =>
      have long : ¬ ret.length < 19 := Nat.not_lt.mpr (strstr_length_le compressed)
      simp only [if_neg long, Option.isSome_some, Option.map_some, Option.getD_some]
  | none =>
      cases list : strstr (ascii "\\list\\") querystring with
      | none => rfl
      | some ret =>
          have long : ¬ ret.length < 6 := Nat.not_lt.mpr (strstr_length_le list)
          simp only [if_neg long, Option.bind_some]
          cases name : strstr (ascii "gamename\\") (ret.drop 6) with
          | none => rfl
          | some ret =>
              have long : ¬ ret.length < 9 := Nat.not_lt.mpr (strstr_length_le name)
              simp only [if_neg long, Option.isSome_none, Option.map_some, Option.getD_some]

/-- A name is read where a character other than a separator follows. -/
theorem requestedGame_cases (text : CString) (bCompressed : Bool) :
    (∃ gamename queryPtr, requestedGame text bCompressed = .named gamename bCompressed queryPtr ∧
      gamename ≠ [] ∧ gamename.IsInfix text ∧ ∃ c ∈ text, c ≠ backslash ∧ c ≠ newline) ∨
    requestedGame text bCompressed = .nameless ∧ ∀ c ∈ text, c = backslash ∨ c = newline := by
  have separators : ∀ c : UInt8,
      ([backslash, newline].contains c = true) ↔ c = backslash ∨ c = newline := by
    intro c
    simp
  have absent : (strtok [backslash, newline] (some text)).1 = none ↔
      ∀ c ∈ text, c = backslash ∨ c = newline := by
    rw [strtok_none_iff]
    exact forall₂_congr fun c _ => separators c
  unfold requestedGame
  cases read : strtok [backslash, newline] (some text) with
  | mk token queryPtr =>
      rw [read] at absent
      cases token with
      | none => exact Or.inr ⟨rfl, absent.mp rfl⟩
      | some gamename =>
          obtain ⟨filled, inside⟩ := strtok_token read
          have present : ¬ ∀ c ∈ text, c = backslash ∨ c = newline := fun only =>
            Option.some_ne_none gamename (absent.mpr only)
          push Not at present
          exact Or.inl ⟨gamename, queryPtr, if_neg filled, filled, inside, present⟩

/-- A request is answered unless only separators follow its header. -/
theorem gameSpyParseListRequest_answers_iff (options : TcpOptions) (sinAddr : InAddr)
    (clientName querystring challengeKey : CString) (encType : UInt16)
    (listed : contains querystring (ascii "\\list\\") = true)
    (named : contains querystring (ascii "\\gamename\\") = true) :
    AnswersRequest querystring
        (gameSpyParseListRequest options sinAddr clientName querystring challengeKey encType) ↔
      ∀ text, requestText querystring = some text → ∃ c ∈ text, c ≠ backslash ∧ c ≠ newline := by
  unfold gameSpyParseListRequest
  rw [listRequest_eq listed named]
  cases located : requestText querystring with
  | none => exact iff_of_true (Or.inl rfl) fun text absent => by cases absent
  | some text =>
      simp only [Option.map_some, Option.getD_some, Option.some.injEq, forall_eq']
      rcases requestedGame_cases text (contains querystring compressedHeader) with
        ⟨gamename, queryPtr, read, filled, inside, present⟩ | ⟨read, separators⟩
      · rw [read]
        refine iff_of_true (Or.inr ⟨_, _, rfl, filled, ?_⟩) present
        exact inside.trans (requestText_suffix located).isInfix
      · rw [read]
        refine iff_of_false ?_ ?_
        · rintro (refused | ⟨before, call, sent, -⟩)
          · cases refused
          · cases sent
        · rintro ⟨c, member, notBackslash, notNewline⟩
          exact (separators c member).elim notBackslash notNewline

theorem gameSpyParseListRequest_answers_iff_quake :
    AnswersRequest (ascii "\\list\\gamename\\quake2\\final\\")
      (gameSpyParseListRequest ⟨false, false⟩ ⟨127, 0, 0, 1⟩ (ascii "Unknown User")
        (ascii "\\list\\gamename\\quake2\\final\\") [] 0) :=
  (gameSpyParseListRequest_answers_iff ⟨false, false⟩ ⟨127, 0, 0, 1⟩ (ascii "Unknown User")
    (ascii "\\list\\gamename\\quake2\\final\\") [] 0 (by decide) (by decide)).mpr fun text located =>
      ⟨113, by
        have found : requestText (ascii "\\list\\gamename\\quake2\\final\\") =
          some (ascii "quake2\\final\\") := by decide
        rw [found] at located
        cases located
        decide⟩

/-- Nothing follows the header, and `gamename` stays NULL. -/
theorem gameSpyParseListRequest_nameless :
    contains (ascii "\\list\\gamename\\") (ascii "\\list\\") = true ∧
      contains (ascii "\\list\\gamename\\") (ascii "\\gamename\\") = true ∧
      ¬ AnswersRequest (ascii "\\list\\gamename\\")
        (gameSpyParseListRequest ⟨false, false⟩ ⟨127, 0, 0, 1⟩ (ascii "Unknown User")
          (ascii "\\list\\gamename\\") [] 0) := by
  refine ⟨by decide, by decide, ?_⟩
  have absent : gameSpyParseListRequest ⟨false, false⟩ ⟨127, 0, 0, 1⟩ (ascii "Unknown User")
      (ascii "\\list\\gamename\\") [] 0 = none := by
    decide
  rw [absent]
  rintro (refused | ⟨before, call, sent, -⟩)
  · cases refused
  · cases sent

end GSMaster.Session
