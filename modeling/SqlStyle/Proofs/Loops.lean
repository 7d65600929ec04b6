import SqlStyle.Proofs.Punctuation

/-! # Loops over a document

Four loops read a document from left to right: the search for code, the search for line comments,
and the checks of the closing semicolon and of quotes. Each turn asks the probes what is open at the
index and goes on behind it. The probes never answer an index before the one asked about or past the
end of the text, and find nothing at the end (`Progresses`), so a turn moves the index on, whatever
the text and the delimiter.

`Loop` says what a loop does without saying that it ends: it is a chain of turns from a first state
to a state whose index is not inside the text any more. That there is such a chain is what has to be
proved. -/

namespace SqlStyle

namespace Scan

/-! ## Probes -/

/-- What a probe answers, as whether something is open at the index asked about and where it ends;
the index itself where nothing is. -/
def answered (p : Nat) (found : Option Nat) : Bool × Nat := (found.isSome, found.getD p)

/-- How the answer of a probe at `p` lies in a text of a size. -/
structure Progresses (size p : Nat) (answer : Bool × Nat) : Prop where
  le : p ≤ answer.2
  le_size : answer.2 ≤ size
  stays : answer.1 = false → answer.2 = p
  none_at_end : p = size → answer.1 = false

/-- A probe that only answers indices of the rest of the text, and only inside the text, makes
progress. -/
theorem progresses_answered {size p : Nat} (hp : p ≤ size) {found : Option Nat}
    (h : ∀ e, found = some e → p < size ∧ p ≤ e ∧ e ≤ size) :
    Progresses size p (answered p found) := by
  cases found with
  | none => exact ⟨Nat.le_refl p, hp, fun _ => rfl, fun _ => rfl⟩
  | some e =>
    obtain ⟨hlt, hle, hsize⟩ := h e rfl
    exact ⟨hle, hsize, fun hno => Bool.noConfusion hno, fun heq => absurd heq (Nat.ne_of_lt hlt)⟩

theorem stringEnd?_bounds {t : Text} {p e : Nat} (h : stringEnd? t p = some e) :
    p < t.size ∧ p ≤ e ∧ e ≤ t.size := by
  obtain ⟨hp, he⟩ := stringEnd?_lt h
  exact ⟨hp, le_of_stringEnd? h, Nat.le_of_lt he⟩

theorem blockEnd?_bounds {t : Text} {p e : Nat} (h : blockEnd? t p = some e) :
    p < t.size ∧ p ≤ e ∧ e ≤ t.size := by
  have hle := le_of_blockEnd? h
  unfold blockEnd? at h
  obtain ⟨b, hb, he⟩ := Option.map_eq_some_iff.mp h
  obtain ⟨-, hp⟩ := lt_of_blockBody? hb
  refine ⟨hp, hle, ?_⟩
  cases hf : t.find? ['*', '/'] b with
  | none =>
    rw [hf] at he
    simp only at he
    omega
  | some close =>
    -- the `/` after the `*` that was found is in the text, too
    obtain ⟨-, -, hocc, -⟩ := firstFrom_eq_some hf
    have hslash := lt_size_of_getElem? ((occursAt_two t '*' '/' close).mp hocc).2
    rw [hf] at he
    simp only at he
    omega

theorem commentEnd?_bounds {t : Text} {delimiter : List Char} {p e : Nat}
    (h : commentEnd? t delimiter p = some e) : p < t.size ∧ p ≤ e ∧ e ≤ t.size := by
  have hle := le_of_commentEnd? h
  unfold commentEnd? at h
  split at h
  · rename_i hblock
    cases h
    exact blockEnd?_bounds hblock
  · split at h
    · rename_i hmarker
      cases h
      exact ⟨lt_size_of_onMarker hmarker, hle, lineEnd_le t delimiter p⟩
    · cases h

/-! ## Loops -/

/-- A loop over a text of a size: while its index is inside the text, a turn moves the index and
changes what was collected. From an index and a first state it takes turns at the indices `seen`,
and ends in the state `last`. -/
inductive Loop {σ : Type} (size : Nat) (turn : Nat → σ → Nat × σ) : Nat → σ → List Nat → σ → Prop
  | done {i : Nat} {state : σ} : size ≤ i → Loop size turn i state [] state
  | step {i : Nat} {state last : σ} {seen : List Nat} : i < size →
      Loop size turn (turn i state).1 (turn i state).2 seen last →
        Loop size turn i state (i :: seen) last

/-- Each turn inside the text moves the index on. -/
def Advances {σ : Type} (size : Nat) (turn : Nat → σ → Nat × σ) : Prop :=
  ∀ i state, i < size → i < (turn i state).1

/-- A loop from the start of a text ends in a state. The indices of its turns increase, and there
are not more turns than characters. -/
def EndsIn {σ : Type} (size : Nat) (turn : Nat → σ → Nat × σ) (first last : σ) : Prop :=
  ∃ seen, Loop size turn 0 first seen last ∧ seen.Pairwise (· < ·) ∧ seen.length ≤ size

section

variable {σ : Type} {size : Nat} {turn : Nat → σ → Nat × σ}

/-- Where every turn moves the index on, the indices of the turns increase. -/
theorem Loop.increases (hturn : Advances size turn) {i : Nat} {first last : σ} {seen : List Nat}
    (h : Loop size turn i first seen last) :
    (∀ j ∈ seen, i ≤ j) ∧ seen.Pairwise (· < ·) ∧ seen.length ≤ size - i := by
  induction h with
  | done _ => exact ⟨fun j hj => absurd hj List.not_mem_nil, List.Pairwise.nil, Nat.zero_le _⟩
  | @step i state last seen hlt _ ih =>
    obtain ⟨hle, hpairwise, hlength⟩ := ih
    have hnext := hturn i state hlt
    refine ⟨List.forall_mem_cons.mpr ⟨Nat.le_refl i, fun j hj => ?_⟩,
      List.pairwise_cons.mpr ⟨fun j hj => ?_, hpairwise⟩, ?_⟩
    · have := hle j hj
      omega
    · have := hle j hj
      omega
    · rw [List.length_cons]
      omega

theorem Loop.endsIn (hturn : Advances size turn) {first last : σ} {seen : List Nat}
    (h : Loop size turn 0 first seen last) : EndsIn size turn first last := by
  obtain ⟨-, hpairwise, hlength⟩ := h.increases hturn
  exact ⟨seen, h, hpairwise, hlength⟩

end

/-! ## Turns -/

section

variable (t : Text) (delimiter : List Char)

/-- A turn of the search for code. -/
def codeTurn (i : Nat) (found : List Nat) : Nat × List Nat :=
  match commentEnd? t delimiter i with
  | some e => (e + 1, found)
  | none =>
    match stringEnd? t i with
    | some e => (e + 1, found)
    | none => (i + 1, found ++ [i])

/-- A turn of the search for line comments. -/
def lineCommentTurn (i : Nat) (found : List LineComment) : Nat × List LineComment :=
  match blockEnd? t i with
  | some e => (e + 1, found)
  | none =>
    match stringEnd? t i with
    | some e => (e + 1, found)
    | none =>
      match marker? t i with
      | none => (i + 1, found)
      | some m => (lineEnd t delimiter i + 1, found ++ [⟨i, m, lineEnd t delimiter i⟩])

/-- A turn of the check of the closing semicolon. It keeps the last index that is in no comment and
holds no space of code, and whether a semicolon of code is there. -/
def semicolonTurn (i : Nat) (last : Option (Nat × Bool)) : Nat × Option (Nat × Bool) :=
  match commentEnd? t delimiter i with
  | some e => (e + 1, last)
  | none =>
    match stringEnd? t i with
    | some e => (e + 1, some (e, false))
    | none => (i + 1, if t[i]?.any Text.isSpace then last else some (i, t[i]? == some ';'))

/-- A turn of the check of quotes. A quote that is not preferred is noted before the string that it
opens is passed. -/
def quoteTurn (other : Char) (i : Nat) (found : List Nat) : Nat × List Nat :=
  match commentEnd? t delimiter i with
  | some e => (e + 1, found)
  | none => ((answered i (stringEnd? t i)).2 + 1, if t[i]? = some other then
    found ++ [i] else found)

end

/-! ## What the loops come to -/

/-- The turns of a loop read a document piece by piece. -/
def ReadsPieces {σ : Type} (t : Text) (delimiter : List Char) (turn : Nat → σ → Nat × σ)
    (act : σ → Piece → σ) :
    Prop :=
  ∀ i state, i < t.size → turn i state =
    ((pieceAt t delimiter i).next, act state (pieceAt t delimiter i))

section

variable {σ : Type} {t : Text} {delimiter : List Char}

theorem ReadsPieces.advances {turn : Nat → σ → Nat × σ} {act : σ → Piece → σ}
    (h : ReadsPieces t delimiter turn act) : Advances t.size turn := by
  intro i state hi
  rw [h i state hi]
  exact lt_next_pieceAt t delimiter i

theorem ReadsPieces.loop {turn : Nat → σ → Nat × σ} {act : σ → Piece → σ}
    (h : ReadsPieces t delimiter turn act) (i : Nat) :
    ∀ first, ∃ seen, Loop t.size turn i first seen
        ((piecesFrom t delimiter i).foldl act first) := by
  fun_induction piecesFrom t delimiter i with
  | case1 i hi piece hlt ih =>
    intro first
    obtain ⟨seen, hseen⟩ := ih (act first piece)
    refine ⟨i :: seen, .step hi ?_⟩
    rw [h i first hi]
    exact hseen
  | case2 i hi =>
    intro first
    exact ⟨[], .done (Nat.le_of_not_lt hi)⟩

theorem ReadsPieces.endsIn {turn : Nat → σ → Nat × σ} {act : σ → Piece → σ}
    (h : ReadsPieces t delimiter turn act) (first : σ) :
    EndsIn t.size turn first ((pieces t delimiter).foldl act first) := by
  obtain ⟨seen, hseen⟩ := h.loop 0 first
  exact hseen.endsIn h.advances

theorem foldl_last {α β : Type} (f : α → Option β) (xs : List α) :
    ∀ last : Option β, xs.foldl (fun last x => (f x).or last) last =
        (xs.filterMap f).getLast?.or last := by
  induction xs with
  | nil => simp
  | cons x rest ih =>
    intro last
    rw [List.foldl_cons, ih, getLast?_filterMap_cons, Option.or_assoc]

/-- A loop that collects what it reads off the pieces ends with all of it. -/
theorem ReadsPieces.endsIn_filterMap {β : Type} {turn : Nat → List β → Nat × List β}
    {read : Piece → Option β} (h : ReadsPieces t delimiter turn fun found piece =>
      found ++ (read piece).toList) :
    EndsIn t.size turn [] ((pieces t delimiter).filterMap read) := by
  have hends := h.endsIn []
  rwa [← List.flatMap_eq_foldl, ← List.filterMap_eq_flatMap_toList] at hends

end

theorem codeTurn_endsIn (t : Text) (delimiter : List Char) :
    EndsIn t.size (codeTurn t delimiter) [] (code t delimiter) := by
  refine ReadsPieces.endsIn_filterMap ?_
  intro i found _
  unfold codeTurn pieceAt
  cases commentEnd? t delimiter i with
  | some e => simp [Piece.next]
  | none => cases stringEnd? t i <;> simp [Piece.next]

theorem semicolonTurn_endsIn (t : Text) (delimiter : List Char) :
    EndsIn t.size (semicolonTurn t delimiter) none
      ((pieces t delimiter).filterMap (Check.significant? t)).getLast? := by
  have hreads : ReadsPieces t delimiter (semicolonTurn t delimiter)
      fun last piece => (Check.significant? t piece).or last := by
    intro i last _
    unfold semicolonTurn pieceAt
    cases commentEnd? t delimiter i with
    | some e => rfl
    | none =>
      cases stringEnd? t i with
      | some e => rfl
      | none =>
        simp only [Piece.next, Check.significant?]
        split <;> rfl
  have hends := hreads.endsIn none
  rwa [foldl_last, Option.or_none] at hends

/-- The place of a string that a quote opens. -/
def Piece.opensWith? (quote : Char) (t : Text) : Piece → Option Nat
  | .string start _ => if t[start]? == some quote then some start else none
  | _ => none

theorem quoteTurn_endsIn (t : Text) (delimiter : List Char) {other : Char}
    (hother : isQuote other = true) :
    EndsIn t.size (quoteTurn t delimiter other) []
      ((pieces t delimiter).filterMap (Piece.opensWith? other t)) := by
  refine ReadsPieces.endsIn_filterMap ?_
  intro i found hi
  unfold quoteTurn pieceAt
  cases commentEnd? t delimiter i with
  | some e => simp [Piece.next, Piece.opensWith?]
  | none =>
    cases hstring : stringEnd? t i with
    | some e =>
      simp only [answered, Option.getD_some, Piece.next, Piece.opensWith?, beq_iff_eq]
      split <;> simp
    | none =>
      -- every quote opens a string, so code holds none
      have hcode : t[i]? ≠ some other := by
        intro hquote
        rw [stringEnd?, hquote] at hstring
        simp [hother] at hstring
      simp [answered, Piece.next, Piece.opensWith?, hcode]

theorem lineCommentTurn_eq (t : Text) (delimiter : List Char) (i : Nat) (found : List LineComment) :
    lineCommentTurn t delimiter i found =
      ((lineCommentStep t delimiter i).2, found ++ (lineCommentStep t delimiter i).1.toList) := by
  unfold lineCommentTurn lineCommentStep
  cases blockEnd? t i with
  | some e => simp
  | none =>
    cases stringEnd? t i with
    | some e => simp
    | none => cases marker? t i <;> simp

theorem lineCommentTurn_loop (t : Text) (delimiter : List Char) (i : Nat) :
    ∀ found, ∃ seen, Loop t.size (lineCommentTurn t delimiter) i found seen
      (found ++ lineCommentsFrom t delimiter i) := by
  fun_induction lineCommentsFrom t delimiter i with
  | case1 i hi step hlt ih =>
    intro found
    obtain ⟨seen, hseen⟩ := ih (found ++ step.1.toList)
    refine ⟨i :: seen, .step hi ?_⟩
    rw [lineCommentTurn_eq, ← List.append_assoc]
    exact hseen
  | case2 i hi =>
    intro found
    rw [List.append_nil]
    exact ⟨[], .done (Nat.le_of_not_lt hi)⟩

theorem lineCommentTurn_endsIn (t : Text) (delimiter : List Char) :
    EndsIn t.size (lineCommentTurn t delimiter) [] (lineComments t delimiter) := by
  obtain ⟨seen, hseen⟩ := lineCommentTurn_loop t delimiter 0 []
  refine hseen.endsIn ?_
  intro i found hi
  rw [lineCommentTurn_eq]
  exact lt_lineCommentStep t delimiter hi

end Scan

namespace Check

open Scan

/-- What is reported of a missing semicolon, by the last index that counts. -/
def missingSemicolon : Option (Nat × Bool) → List Finding
  | some (last, false) => [⟨last + 1, "Each statement should end with a semicolon ';'."⟩]
  | _ => []

/-- The quote that is not preferred. -/
def otherQuote (settings : Settings) : Char := if settings.singleQuote then '"' else '\''

/-- What is reported of a string that the other quote opens at an index. -/
def wrongQuote (settings : Settings) (p : Nat) : Finding :=
  ⟨p, s!"Use {quoteName settings.singleQuote} instead of {quoteName !settings.singleQuote}"⟩

theorem statementSemicolon_run (c : Context) (s : Source) (session : Session) :
    statementSemicolon.run c s session = (c.ledger.report .statementSemicolon s (missingSemicolon
      ((pieces s.text s.delimiter).filterMap (significant? s.text)).getLast?), session) :=
  rfl

theorem quoteStyle_run (c : Context) (s : Source) (session : Session) :
    quoteStyle.run c s session = (c.ledger.report .quoteStyle s
      (((pieces s.text s.delimiter).filterMap (Piece.opensWith? (otherQuote c.settings) s.text)).map
        (wrongQuote c.settings)), session) := by
  refine congrArg (fun findings => (c.ledger.report .quoteStyle s findings, session)) ?_
  rw [List.map_filterMap]
  refine List.filterMap_congr fun piece _ => ?_
  cases piece with
  | string start stop =>
    simp only [Piece.opensWith?, apply_ite (Option.map _)]
    rfl
  | comment _ _ => rfl
  | code _ => rfl

theorem isQuote_otherQuote (settings : Settings) : isQuote (otherQuote settings) = true := by
  unfold otherQuote
  split <;> rfl

/-- **Probes make progress, so every loop ends.** In every text and with every delimiter, a probe
asked about an index up to the end answers an index from there up to the end, the index itself where
it finds nothing, and it finds nothing at the end. The loops that read the document for its code,
for its line comments, for the closing semicolon and for quotes take their turns at increasing
indices, not more than there are characters, and end: the first two with what the readings list, the
others with what the checks report. -/
theorem loops_end (s : Source) :
    (∀ p, p ≤ s.text.size →
      Progresses s.text.size p (answered p (stringEnd? s.text p)) ∧
      Progresses s.text.size p (answered p (blockEnd? s.text p)) ∧
      Progresses s.text.size p (answered p (commentEnd? s.text s.delimiter p))) ∧
    EndsIn s.text.size (codeTurn s.text s.delimiter) [] (code s.text s.delimiter) ∧
    EndsIn s.text.size (lineCommentTurn s.text s.delimiter) [] (lineComments s.text s.delimiter) ∧
    (∃ last, EndsIn s.text.size (semicolonTurn s.text s.delimiter) none last ∧
      ∀ c session, statementSemicolon.run c s session =
        (c.ledger.report .statementSemicolon s (missingSemicolon last), session)) ∧
    ∀ c : Context, ∃ starts,
      EndsIn s.text.size (quoteTurn s.text s.delimiter (otherQuote c.settings)) [] starts ∧
      ∀ session, quoteStyle.run c s session =
        (c.ledger.report .quoteStyle s (starts.map (wrongQuote c.settings)), session) := by
  refine ⟨?_, codeTurn_endsIn _ _, lineCommentTurn_endsIn _ _, ?_, ?_⟩
  · intro p hp
    exact ⟨progresses_answered hp fun _ => stringEnd?_bounds,
      progresses_answered hp fun _ => blockEnd?_bounds,
      progresses_answered hp fun _ => commentEnd?_bounds⟩
  · exact ⟨_, semicolonTurn_endsIn _ _, fun c session => statementSemicolon_run c s session⟩
  · intro c
    exact ⟨_, quoteTurn_endsIn _ _ (isQuote_otherQuote c.settings), fun session =>
      quoteStyle_run c s session⟩

/-- A delimiter that is half of a marker, before a comment that is never closed: from the second `-`
the line comment ends where it begins, and the block comment ends with the text. -/
theorem loops_end_unclosed :
    let s : Source := { text := #['-', '-', '/', '*'], delimiter := ['-'] }
    (commentEnd? s.text s.delimiter 1 = some 1 ∧ commentEnd? s.text s.delimiter 2 = some 3 ∧
      2 ≤ s.text.size ∧ Progresses s.text.size 2 (answered 2 (commentEnd? s.text s.delimiter 2))) ∧
    EndsIn s.text.size (codeTurn s.text s.delimiter) [] (code s.text s.delimiter) := by
  intro s
  obtain ⟨hprobes, hcode, -⟩ := loops_end s
  have hp : 2 ≤ s.text.size := by decide
  exact ⟨⟨by decide, by decide, hp, (hprobes 2 hp).2.2⟩, hcode⟩

end Check

end SqlStyle
