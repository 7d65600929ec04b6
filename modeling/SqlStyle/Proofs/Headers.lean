import SqlStyle.Proofs.Lines

/-! # Lines that may be of any length

A line over the limit is let off if it opens a statement and ends at the object word, such as
`TABLE`, or at most one word behind it. What is let off besides is every line that opens a statement
and has no object word at all, however long it is (`isHeaderLine_iff`). So the check of line length
reports the lines over the limit that are neither (`lineLimit_lets_off`). -/

namespace SqlStyle

namespace Name

/-- The words of a line in upper case: its pieces between spaces, the empty ones left out. -/
def lineWords (line : String) : List String :=
  ((line.toList.splitOn ' ').filter (· ≠ [])).map fun word => Text.upper (String.ofList word)

/-- The words that name the object of a statement, or end its header. -/
def objectWords : List String :=
  ["FUNCTION", "EXISTS", "TABLE", "TYPE", "VIEW", "=", "PROTO", "MODULE"]

/-- The first object word is the last word, or it is no equals sign and exactly one word follows
it. -/
def EndsAtObject (words : List String) : Prop :=
  ∃ before word after, words = before ++ word :: after ∧ (∀ w ∈ before, w ∉ objectWords) ∧
    word ∈ objectWords ∧ (after = [] ∨ word ≠ "=" ∧ ∃ last, after = [last])

/-- The first word of the line opens a statement, and these words follow it. -/
def Opens (line : String) (rest : List String) : Prop :=
  ∃ first ∈ ["CREATE", "IMPORT"], lineWords line = first :: rest

/-- The line is a statement header that cannot be wrapped: it opens a statement and ends at its
object. -/
def IsUnbreakable (line : String) : Prop := ∃ rest, Opens line rest ∧ EndsAtObject rest

/-- The line opens a statement and holds no object word. -/
def IsObjectless (line : String) : Prop := ∃ rest, Opens line rest ∧ ∀ w ∈ rest, w ∉ objectWords

theorem isHeaderTail_iff (word : String) : isHeaderTail word = true ↔ word ∈ objectWords :=
  List.contains_iff_mem

theorem words_eq_lineWords (line : String) :
    ((Text.words (· == ' ') line.toList).map fun w => Text.upper (String.ofList w)) =
        lineWords line := by
  rw [Text.words, Directive.splitAll_eq_splitOn, lineWords]
  congr 2
  funext piece
  cases piece with
  | nil => rfl
  | cons c piece => rfl

/-- What an object word in front asks of the words behind it. -/
theorem endsAtObject_cons_of_mem {word : String} (h : word ∈ objectWords) (rest : List String) :
    EndsAtObject (word :: rest) ↔ rest = [] ∨ word ≠ "=" ∧ ∃ last, rest = [last] := by
  constructor
  · rintro ⟨before, object, after, heq, hbefore, -, hafter⟩
    cases before with
    | nil =>
      obtain ⟨rfl, rfl⟩ := List.cons.inj heq
      exact hafter
    | cons first before =>
      obtain ⟨rfl, -⟩ := List.cons.inj heq
      exact absurd h (hbefore word List.mem_cons_self)
  · intro hafter
    exact ⟨[], word, rest, rfl, by simp, h, hafter⟩

theorem endsAtObject_cons_of_not_mem {word : String} (h : word ∉ objectWords) (rest : List String) :
    EndsAtObject (word :: rest) ↔ EndsAtObject rest := by
  constructor
  · rintro ⟨before, object, after, heq, hbefore, hobject, hafter⟩
    cases before with
    | nil =>
      obtain ⟨rfl, -⟩ := List.cons.inj heq
      exact absurd hobject h
    | cons first before =>
      obtain ⟨-, rfl⟩ := List.cons.inj heq
      exact ⟨before, object, after, rfl, fun w hw => hbefore w (List.mem_cons_of_mem _ hw),
        hobject, hafter⟩
  · rintro ⟨before, object, after, rfl, hbefore, hobject, hafter⟩
    exact ⟨word :: before, object, after, rfl, List.forall_mem_cons.mpr ⟨h, hbefore⟩,
      hobject, hafter⟩

/-- The walk over the words behind the first is content with no object word at all, too. -/
theorem endsHeader_iff (words : List String) :
    endsHeader words = true ↔ EndsAtObject words ∨ ∀ w ∈ words, w ∉ objectWords := by
  induction words with
  | nil => simp [endsHeader]
  | cons word rest ih =>
    rw [endsHeader, List.forall_mem_cons]
    by_cases hword : word ∈ objectWords
    · rw [if_pos ((isHeaderTail_iff word).mpr hword), endsAtObject_cons_of_mem hword,
        decide_eq_true_eq]
      -- how many words may follow depends on the equals sign alone
      by_cases heq : word = "="
      · subst heq
        simp [hword]
      · simp only [beq_iff_eq, heq, if_false, hword, not_true, false_and, or_false, ne_eq,
          not_false_eq_true, true_and, ← List.length_eq_one_iff, ← List.length_eq_zero_iff]
        omega
    · rw [if_neg (fun h => hword ((isHeaderTail_iff word).mp h)), ih,
        endsAtObject_cons_of_not_mem hword]
      simp only [hword, not_false_eq_true, true_and]

/-- **What is let off.** A line is taken for a header if it is one that cannot be wrapped, or if it
opens a statement without an object word. -/
theorem isHeaderLine_iff (line : String) :
    isHeaderLine line = true ↔ IsUnbreakable line ∨ IsObjectless line := by
  unfold isHeaderLine
  rw [words_eq_lineWords]
  cases hwords : lineWords line with
  | nil => simp [IsUnbreakable, IsObjectless, Opens, hwords]
  | cons first rest =>
    have hopens : ∀ words, Opens line words ↔ isHeaderStart first = true ∧ words = rest := by
      intro words
      rw [Opens, hwords, isHeaderStart, List.contains_iff_mem]
      constructor
      · rintro ⟨word, hword, heq⟩
        obtain ⟨rfl, rfl⟩ := List.cons.inj heq
        exact ⟨hword, rfl⟩
      · rintro ⟨hfirst, rfl⟩
        exact ⟨first, hfirst, rfl⟩
    simp only [IsUnbreakable, IsObjectless, hopens, Bool.and_eq_true, endsHeader_iff, and_assoc,
      exists_and_left, exists_eq_left, ← and_or_left]

theorem Opens.unique {line : String} {rest rest' : List String} (h : Opens line rest)
    (h' : Opens line rest') :
    rest = rest' := by
  obtain ⟨first, -, hwords⟩ := h
  obtain ⟨first', -, hwords'⟩ := h'
  exact (List.cons.inj (hwords.symm.trans hwords')).2

/-- A line that ends at its object has an object word. -/
theorem IsUnbreakable.not_isObjectless {line : String} (h : IsUnbreakable line) :
    ¬ IsObjectless line := by
  rintro ⟨rest, hopens, hnone⟩
  obtain ⟨_, hopens', before, word, after, rfl, -, hword, -⟩ := h
  obtain rfl := hopens.unique hopens'
  exact hnone word (List.mem_append_right before List.mem_cons_self) hword

/-- The lines that cannot be wrapped are told from the others, except from those without an object
word. -/
theorem isHeaderLine_right_iff (line : String) :
    (isHeaderLine line = true ↔ IsUnbreakable line) ↔ ¬ IsObjectless line := by
  rw [isHeaderLine_iff]
  constructor
  · intro h hobjectless
    exact (h.mp (.inr hobjectless)).not_isObjectless hobjectless
  · intro hobjectless
    rw [or_iff_left hobjectless]

end Name

namespace Check

/-- The issues on lines are at the ends of those over the limit that are no headers. -/
theorem overlongLines_offsets (limit : Nat) (lines : List (List Char)) :
    ∀ start, (overlongLines limit start lines).map Finding.offset =
      ((((beginnings start lines).zip lines).filter fun e => IsOverlong limit e.2).map
        fun e => e.1 + e.2.length).map Int.ofNat := by
  induction lines with
  | nil => intro start; rfl
  | cons line rest ih =>
    intro start
    have hfound : (decide (limit < line.length) && !Name.isHeaderLine (String.ofList line)) =
        decide (IsOverlong limit line) := by
      rw [Bool.eq_iff_iff, decide_eq_true_iff, IsOverlong, Bool.and_eq_true, decide_eq_true_iff,
        Bool.not_eq_true']
    rw [overlongLines, List.map_append, ih, beginnings, List.zip_cons_cons,
      List.filter_cons, hfound]
    by_cases hlong : IsOverlong limit line
    · simp [hlong]
    · simp [hlong]

theorem le_of_mem_zip_beginnings (lines : List (List Char)) :
    ∀ start, ∀ e ∈ (beginnings start lines).zip lines, start ≤ e.1 := by
  induction lines with
  | nil => intro start e he; cases he
  | cons line rest ih =>
    intro start e he
    rcases List.mem_cons.mp he with rfl | he
    · exact Nat.le_refl _
    · have := ih _ e he
      omega

/-- A line ends before the next ones begin. -/
theorem zip_beginnings_pairwise (lines : List (List Char)) :
    ∀ start, ((beginnings start lines).zip lines).Pairwise fun a b => a.1 + a.2.length < b.1 := by
  induction lines with
  | nil => intro start; exact List.Pairwise.nil
  | cons line rest ih =>
    intro start
    refine List.pairwise_cons.mpr ⟨?_, ih _⟩
    intro e he
    have := le_of_mem_zip_beginnings rest _ e he
    dsimp only
    omega

/-- The `k`-th line of a document, cut at a character, ends at an offset. -/
def LineEndsAt (s : Source) (d : Char) (k : Nat) (line : List Char) (p : Nat) : Prop :=
  (s.text.toList.splitOn d)[k]? = some line ∧ ∃ start, s.lineStarts[k]? = some start ∧
    p = start + line.length

theorem LineEndsAt.le_size {s : Source} {d : Char} (hd : s.delimiter = [d]) {k : Nat}
    {line : List Char} {p : Nat} (h : LineEndsAt s d k line p) : p ≤ s.text.size := by
  obtain ⟨hline, start, hstart, rfl⟩ := h
  rw [← linesOf_eq_splitOn hd] at hline
  obtain ⟨start', hstart', hholds, -⟩ := exists_holdsLine hd hline
  rw [beginnings_linesOf hd, hstart] at hstart'
  obtain rfl := Option.some.inj hstart'
  rcases hholds.ends with ⟨hdelim, -⟩ | ⟨heq, -⟩
  · exact Nat.le_of_lt (Scan.lt_size_of_getElem? hdelim)
  · exact Nat.le_of_eq heq

theorem mem_zip_beginnings {s : Source} {d : Char} (hd : s.delimiter = [d]) (start : Nat)
    (line : List Char) :
    (start, line) ∈ (beginnings 0 (linesOf s)).zip (linesOf s) ↔
      ∃ k : Nat, s.lineStarts[k]? = some start ∧ (s.text.toList.splitOn d)[k]? = some line := by
  rw [List.mem_iff_getElem?, beginnings_linesOf hd, linesOf_eq_splitOn hd]
  simp only [List.getElem?_zip_eq_some]

/-- The check of line length reports the ends of the lines over the limit that are no headers. -/
theorem lineLimit_reportsExactly {c : Context} {s : Source} {d : Char} (hd : s.delimiter = [d])
    (hactive : ∀ p, c.ledger.isActive .lineLimit p = true) :
    lineLimit.ReportsExactly c s fun p =>
      ∃ k line, LineEndsAt s d k line p ∧ IsOverlong c.settings.lineLimit.val line := by
  have hmem : ∀ p, p ∈ (((beginnings 0 (linesOf s)).zip (linesOf s)).filter fun e =>
      IsOverlong c.settings.lineLimit.val e.2).map (fun e => e.1 + e.2.length) ↔
      ∃ k line, LineEndsAt s d k line p ∧ IsOverlong c.settings.lineLimit.val line := by
    intro p
    rw [List.mem_map]
    constructor
    · rintro ⟨⟨start, line⟩, he, rfl⟩
      obtain ⟨hzip, hlong⟩ := List.mem_filter.mp he
      obtain ⟨k, hstart, hline⟩ := (mem_zip_beginnings hd start line).mp hzip
      exact ⟨k, line, ⟨hline, start, hstart, rfl⟩, of_decide_eq_true hlong⟩
    · rintro ⟨k, line, ⟨hline, start, hstart, rfl⟩, hlong⟩
      have hzip := (mem_zip_beginnings hd start line).mpr ⟨k, hstart, hline⟩
      exact ⟨(start, line), List.mem_filter.mpr ⟨hzip, decide_eq_true hlong⟩, rfl⟩
  refine ofText_reportsExactly hactive (overlongLines_offsets _ _ 0) ?_ ?_ hmem
  · refine List.pairwise_map.mpr (((zip_beginnings_pairwise (linesOf s) 0).imp ?_).filter _)
    intro a b hlt
    omega
  · intro p hp
    obtain ⟨k, line, hends, -⟩ := (hmem p).mp hp
    exact hends.le_size hd

/-- **What the limit lets off.** A line is taken for a header that may be of any length just if it
cannot be wrapped (it opens a statement and ends at its first object word, or one word behind one
that is no equals sign) or if it opens a statement without any object word. So headers that cannot
be wrapped are told from all other lines but these last ones. In a document with one-character
delimiters where the rule is active everywhere, the check reports exactly the ends of the lines over
the limit that are neither: a line over the limit that opens a statement and names no object is let
off. -/
theorem lineLimit_lets_off {c : Context} {s : Source} {d : Char} (hd : s.delimiter = [d])
    (hactive : ∀ p, c.ledger.isActive .lineLimit p = true) :
    (∀ line, Name.isHeaderLine line = true ↔ Name.IsUnbreakable line ∨ Name.IsObjectless line) ∧
    (∀ line, (Name.isHeaderLine line = true ↔ Name.IsUnbreakable line) ↔ ¬ Name.IsObjectless line) ∧
    lineLimit.ReportsExactly c s fun p => ∃ k line, LineEndsAt s d k line p ∧
      c.settings.lineLimit.val < line.length ∧
      ¬ Name.IsUnbreakable (String.ofList line) ∧ ¬ Name.IsObjectless (String.ofList line) := by
  refine ⟨Name.isHeaderLine_iff, Name.isHeaderLine_right_iff, ?_⟩
  have hoverlong : ∀ line, IsOverlong c.settings.lineLimit.val line ↔
      c.settings.lineLimit.val < line.length ∧
      ¬ Name.IsUnbreakable (String.ofList line) ∧ ¬ Name.IsObjectless (String.ofList line) := by
    intro line
    rw [IsOverlong, Bool.eq_false_iff, Ne, Name.isHeaderLine_iff, not_or]
  simp only [← hoverlong]
  exact lineLimit_reportsExactly hd hactive

/-- A query over the limit, a line that ends at its object and one that names no object: the first
is reported. -/
theorem lineLimit_lets_off_query :
    let c : Context := ⟨{ lineLimit := ⟨5, by decide⟩ }, Ledger.start [], Toolkit.empty⟩
    let s : Source :=
      { text := "SELECT 1 2;CREATE TABLE t;CREATE a b c".toList.toArray, delimiter := [';'] }
    s.delimiter = [';'] ∧ (∀ p, c.ledger.isActive .lineLimit p = true) ∧
      ∃ found, (lineLimit.run c s {}).1 = .ok found ∧ ∃ x ∈ found.diagnostics, x.offset = 10 := by
  intro c s
  have hs : s.Valid := fun width h => by cases h
  have hactive : ∀ p, c.ledger.isActive .lineLimit p = true := fun _ => rfl
  obtain ⟨hheader, -, hexact⟩ := lineLimit_lets_off (s := s) (d := ';') rfl hactive
  obtain ⟨found, hrun⟩ := hexact.reports hs {}
  refine ⟨rfl, hactive, found, hrun, ((hexact.exact _ _ hrun).offsets 10).mpr ?_⟩
  have hline : LineEndsAt s ';' 0 "SELECT 1 2".toList 10 := ⟨by decide +kernel, 0, rfl, by decide⟩
  have hplain : ¬ Name.isHeaderLine "SELECT 1 2" = true := by decide +kernel
  rw [hheader, not_or] at hplain
  exact ⟨0, _, hline, by decide, hplain⟩

/-- A line that opens a statement, names no object and goes on for several words: it does not end at
an object, and yet the check lets it off. -/
theorem objectless_line_let_off :
    let line := "CREATE some words that go on"
    let c : Context := ⟨{ lineLimit := ⟨10, by decide⟩ }, Ledger.start [], Toolkit.empty⟩
    let s : Source := { text := line.toList.toArray }
    c.settings.lineLimit.val < line.length ∧ ¬ Name.IsUnbreakable line ∧
      Name.isHeaderLine line = true ∧
      (lineLimit.run c s {}).1 = .ok (Report.forSource s) := by
  intro line c s
  have hwords : Name.lineWords line = ["CREATE", "SOME", "WORDS", "THAT", "GO", "ON"] := by
    decide +kernel
  have hobjectless : Name.IsObjectless line := ⟨_, ⟨"CREATE", by decide, hwords⟩, by decide⟩
  have hnone : overlongLines c.settings.lineLimit.val 0 (linesOf s) = [] := by decide +kernel
  refine ⟨by decide, fun h => h.not_isObjectless hobjectless, by decide +kernel, ?_⟩
  show c.ledger.report .lineLimit s (overlongLines c.settings.lineLimit.val 0 (linesOf s)) = _
  rw [hnone]
  rfl

end Check

end SqlStyle
