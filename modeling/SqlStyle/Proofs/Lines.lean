import Mathlib.Data.List.Forall2
import SqlStyle.Proofs.DirectiveSyntax
import SqlStyle.Proofs.Exactness
import SqlStyle.Proofs.Offsets.Text
import SqlStyle.Proofs.Translation

/-! # Lines as pieces and lines by their starts

The check of line length cuts the text at its delimiters and keeps a running offset; positions count
line starts. Both see the same lines: the pieces begin where the lines start (`beginnings_linesOf`),
and each stands in the text from there up to a delimiter or to the end (`HoldsLine`). So an issue at
the end of a piece, which is on its delimiter, has the number of the piece as its line and the
length of the piece as its column. -/

namespace SqlStyle

namespace Text

/-- Cutting a text finds nothing to cut at, or cuts at the first character that passes the test. -/
theorem splitAll_cases (test : Char → Bool) (cs : List Char) :
    (splitAll test cs = [cs] ∧ ∀ ch ∈ cs, test ch = false) ∨
      ∃ line ch rest, cs = line ++ ch :: rest ∧ (∀ x ∈ line, test x = false) ∧ test ch = true ∧
        splitAll test cs = line :: splitAll test rest := by
  induction cs with
  | nil => exact .inl ⟨rfl, by simp⟩
  | cons c cs ih =>
    rcases ih with ⟨hsplit, hnone⟩ | ⟨line, ch, rest, rfl, hline, hch, hsplit⟩
    · cases hc : test c with
      | true => exact .inr ⟨[], c, cs, rfl, by simp, hc, by simp [splitAll, hsplit, hc]⟩
      | false => exact .inl ⟨by simp [splitAll, hsplit, hc], by simpa [hc] using hnone⟩
    · cases hc : test c with
      | true => exact .inr ⟨[], c, _, rfl, by simp, hc, by simp [splitAll, hsplit, hc]⟩
      | false =>
        exact .inr ⟨c :: line, ch, rest, rfl, by simpa [hc] using hline, hch,
          by simp [splitAll, hsplit, hc]⟩

end Text

namespace Check

/-- Where lines begin that stand one after the other from an offset on, with one delimiter after
each. -/
def beginnings : Nat → List (List Char) → List Nat
  | _, [] => []
  | start, line :: rest => start :: beginnings (start + line.length + 1) rest

theorem length_beginnings (lines : List (List Char)) :
    ∀ start, (beginnings start lines).length = lines.length := by
  induction lines with
  | nil => intro start; rfl
  | cons line rest ih => intro start; simp [beginnings, ih]

/-- Pieces begin at the start and one past each character that was cut at. -/
theorem beginnings_splitAll (test : Char → Bool) (cs : List Char) : ∀ start,
    beginnings start (Text.splitAll test cs) =
      start :: ((List.range cs.length).filter fun i => cs[i]?.any test).map (start + 1 + ·) := by
  induction cs with
  | nil => intro start; rfl
  | cons c cs ih =>
    intro start
    -- the characters that pass the test, past the first
    have hlater : (((List.range cs.length).map Nat.succ).filter fun i => (c :: cs)[i]?.any test).map
        (start + 1 + ·) =
        ((List.range cs.length).filter fun i => cs[i]?.any test).map (start + 1 + 1 + ·) := by
      rw [List.filter_map, List.map_map]
      simp only [Function.comp_def, List.getElem?_cons_succ, Nat.succ_eq_add_one, Nat.add_assoc,
        Nat.add_comm 1]
    have hrest := ih (start + 1)
    rw [List.length_cons, List.range_succ_eq_map, List.filter_cons, List.getElem?_cons_zero,
      Option.any_some]
    unfold Text.splitAll
    cases hsplit : Text.splitAll test cs with
    | nil => rw [hsplit] at hrest; cases hrest
    | cons piece pieces =>
      rw [hsplit, beginnings] at hrest
      obtain ⟨-, hpieces⟩ := List.cons.inj hrest
      cases hc : test c with
      | true =>
        simp only [if_true, beginnings, List.map_cons, List.length_nil, Nat.add_zero]
        rw [hlater, hpieces]
      | false =>
        simp only [Bool.false_eq_true, if_false, beginnings, List.length_cons]
        rw [hlater, ← hpieces, Nat.add_right_comm start 1]
        rfl

theorem linesOf_eq_splitOn {s : Source} {d : Char} (hd : s.delimiter = [d]) :
    linesOf s = s.text.toList.splitOn d := by
  rw [linesOf_eq hd, Directive.splitAll_eq_splitOn]

/-- **The pieces begin where the lines start.** -/
theorem beginnings_linesOf {s : Source} {d : Char} (hd : s.delimiter = [d]) :
    beginnings 0 (linesOf s) = s.lineStarts := by
  have htest : ∀ i, s.text.toList[i]?.any (· == d) = s.text.occursAt [d] i := by
    intro i
    rw [Bool.eq_iff_iff, Scan.occursAt_one, Array.getElem?_toList]
    cases s.text[i]? <;> simp
  have hend : s.text.occursAt [d] s.text.size = false := by
    rw [Bool.eq_false_iff, Ne, Scan.occursAt_one]
    simp
  rw [linesOf_eq hd, beginnings_splitAll, Source.lineStarts, hd, List.range_succ,
    List.filter_append, List.filter_singleton, hend]
  simp only [htest, Array.length_toList, Nat.zero_add, Nat.add_comm 1, cond_false, List.append_nil]

/-! ## Where a piece stands -/

/-- A line of a document stands in the text: it begins at the start of the `k`-th line, holds no
delimiter, and goes up to the next one, or to the end of the text if it is the last line. -/
structure HoldsLine (s : Source) (d : Char) (k : Nat) (line : List Char) (stop : Nat) : Prop where
  chars : ∃ start, s.lineStarts[k]? = some start ∧ stop = start + line.length ∧
    (s.text.extract start stop).toList = line
  plain : d ∉ line
  ends : s.text[stop]? = some d ∧ k + 1 < s.lineStarts.length ∨
    stop = s.text.size ∧ k + 1 = s.lineStarts.length

/-- The `k`-th piece stands in the text with `k` delimiters before it and one after it, unless it is
the last. -/
theorem splitAll_getElem? {d : Char} (k : Nat) :
    ∀ {cs line : List Char}, (Text.splitAll (· == d) cs)[k]? = some line →
      ∃ before after, cs = before ++ (line ++ after) ∧ before.count d = k ∧ d ∉ line ∧
        (∀ start, (beginnings start (Text.splitAll (· == d) cs))[k]? =
          some (start + before.length)) ∧
        (after.head? = some d ∧ k + 1 < (Text.splitAll (· == d) cs).length ∨
          after = [] ∧ k + 1 = (Text.splitAll (· == d) cs).length) := by
  induction k with
  | zero =>
    intro cs line h
    rcases Text.splitAll_cases (· == d) cs
      with ⟨hsplit, hnone⟩ | ⟨first, ch, rest, hcs, hplain, hch, hsplit⟩
    · rw [hsplit] at h ⊢
      cases h
      exact ⟨[], [], by simp, rfl, fun hm => by simpa using hnone d hm, fun _ => rfl,
        .inr ⟨rfl, rfl⟩⟩
    · rw [hsplit] at h ⊢
      cases h
      have hrest := List.length_pos_iff.mpr (Text.splitAll_ne_nil (· == d) rest)
      refine ⟨[], _, hcs, rfl, fun hm => by simpa using hplain d hm, fun _ => rfl, .inl ⟨?_, ?_⟩⟩
      · rw [List.head?_cons, beq_iff_eq.mp hch]
      · rw [List.length_cons]
        omega
  | succ k ih =>
    intro cs line h
    rcases Text.splitAll_cases (· == d) cs
      with ⟨hsplit, -⟩ | ⟨first, ch, rest, hcs, hplain, hch, hsplit⟩
    · rw [hsplit] at h
      cases h
    · -- the other pieces are those of what is left past the first one and its delimiter
      obtain rfl := beq_iff_eq.mp hch
      have hzero : first.count ch = 0 := List.count_eq_zero.mpr fun hm => by
        simpa using hplain ch hm
      rw [hsplit] at h ⊢
      obtain ⟨before, after, rfl, hcount, hplain, hstart, hends⟩ := ih h
      refine ⟨first ++ ch :: before, after, by simp [hcs], by simp [hzero, hcount], hplain,
        fun start => ?_, ?_⟩
      · rw [beginnings, List.getElem?_cons_succ, hstart, List.length_append, List.length_cons]
        congr 1
        omega
      · rw [List.length_cons]
        rcases hends with ⟨hhead, hlt⟩ | ⟨hnil, heq⟩
        · exact .inl ⟨hhead, by omega⟩
        · exact .inr ⟨hnil, by omega⟩

/-- Every piece is a line of the document, and its number says how many delimiters come before its
end. -/
theorem exists_holdsLine {s : Source} {d : Char} (hd : s.delimiter = [d]) {k : Nat}
    {line : List Char} (h : (linesOf s)[k]? = some line) :
    ∃ start, (beginnings 0 (linesOf s))[k]? = some start ∧
      HoldsLine s d k line (start + line.length) ∧
      (s.text.toList.take (start + line.length)).count d = k := by
  have hlines := linesOf_eq hd
  have hlength : (linesOf s).length = s.lineStarts.length := by
    rw [← beginnings_linesOf hd, length_beginnings]
  rw [hlines] at h
  obtain ⟨before, after, htext, hcount, hplain, hstart, hends⟩ := splitAll_getElem? k h
  rw [← hlines] at hstart hends
  rw [hlength] at hends
  have hstart := hstart 0
  rw [Nat.zero_add] at hstart
  refine ⟨before.length, hstart, ⟨⟨before.length, ?_, rfl, ?_⟩, hplain, ?_⟩, ?_⟩
  · rw [← beginnings_linesOf hd, hstart]
  · rw [Array.toList_extract, htext, List.extract_eq_take_drop, List.drop_left,
      Nat.add_sub_cancel_left, List.take_left]
  · rcases hends with ⟨hhead, hlt⟩ | ⟨rfl, heq⟩
    · refine .inl ⟨?_, hlt⟩
      rw [← Array.getElem?_toList, htext, ← List.append_assoc, ← List.length_append,
        List.getElem?_append_right
        (Nat.le_refl _), Nat.sub_self, ← List.head?_eq_getElem?, hhead]
    · refine .inr ⟨?_, heq⟩
      rw [← Array.length_toList, htext, List.append_nil, List.length_append]
  · rw [htext, ← List.append_assoc, ← List.length_append, List.take_left, List.count_append, hcount,
      List.count_eq_zero.mpr hplain, Nat.add_zero]

/-- The end of a line has the number of the line, and a column one past its length. -/
theorem HoldsLine.translate_eq {s : Source} {d : Char} (hd : s.delimiter = [d])
    (htab : s.tabSize = none) {k : Nat} {line : List Char} {stop : Nat}
    (h : HoldsLine s d k line stop) (hcount : (s.text.toList.take stop).count d = k) :
    s.translate stop = .ok ⟨k + 1, line.length + 1⟩ := by
  obtain ⟨start, hstart, rfl, hchars⟩ := h.chars
  have hle : start + line.length ≤ s.text.size := by
    rcases h.ends with ⟨hdelim, -⟩ | ⟨heq, -⟩
    · exact Nat.le_of_lt (Scan.lt_size_of_getElem? hdelim)
    · exact Nat.le_of_eq heq
  have hs : s.Valid := fun width hwidth => by rw [htab] at hwidth; cases hwidth
  have hlines := Source.startsBy_length hle hd
  rw [hcount] at hlines
  have hfirst := Source.lineStarts_getElem? hle
  rw [hlines, Nat.add_sub_cancel_left, hstart] at hfirst
  obtain ⟨col, hcol, -, hposition⟩ := Source.positionAt_ok hs (start + line.length)
  rw [← Option.some.inj hfirst, hchars, htab] at hcol
  cases hcol
  rw [Source.translate, if_pos ⟨by omega, by omega⟩, Int.toNat_natCast, hposition, hlines,
    Nat.add_comm 1]

/-! ## The check of line length -/

/-- The line is over the limit and could be wrapped. -/
def IsOverlong (limit : Nat) (line : List Char) : Prop :=
  limit < line.length ∧ Name.isHeaderLine (String.ofList line) = false

instance (limit : Nat) (line : List Char) : Decidable (IsOverlong limit line) :=
  inferInstanceAs (Decidable (_ ∧ _))

/-- A diagnostic on a line, given with its number: it is at the end of the line. -/
structure OnLine (s : Source) (d : Char) (entry : List Char × Nat) (x : Diagnostic) : Prop where
  rule : x.rule = .lineLimit
  offset : HoldsLine s d entry.2 entry.1 x.offset
  line : x.line = entry.2 + 1
  column : x.column = entry.1.length + 1

/-- The issues on lines from one line on are, one by one, those of the lines over the limit. -/
theorem forall₂_overlongLines {s : Source} {d : Char} {limit : Nat} (lines : List (List Char)) :
    ∀ start k, (∀ (j : Nat) (line : List Char) (first : Nat), lines[j]? = some line →
        (beginnings start lines)[j]? = some first →
        ∀ message, ∃ x, Report.placed? .lineLimit s ⟨(first + line.length : Nat), message⟩ =
          some x ∧
          OnLine s d (line, k + j) x) →
      List.Forall₂ (OnLine s d) ((lines.zipIdx k).filter fun entry => IsOverlong limit entry.1)
        ((overlongLines limit start lines).filterMap (Report.placed? .lineLimit s)) := by
  induction lines with
  | nil => intro start k _; exact .nil
  | cons line rest ih =>
    intro start k h
    have hrest := ih (start + line.length + 1) (k + 1) fun j other first hother hfirst =>
      Nat.add_right_comm k 1 j ▸ h (j + 1) other first hother hfirst
    rw [List.zipIdx_cons, overlongLines, List.filterMap_append]
    by_cases hlong : IsOverlong limit line
    · obtain ⟨x, hx, hon⟩ := h 0 line start rfl rfl s!"Lines should be <= {limit} characters long."
      have hfound : (decide (limit < line.length) && !Name.isHeaderLine (String.ofList line)) =
          true := by
        simpa [IsOverlong] using hlong
      rw [List.filter_cons_of_pos (by simpa using hlong), if_pos hfound,
        List.filterMap_cons_some hx]
      exact .cons hon hrest
    · have hnone : ¬ (decide (limit < line.length) && !Name.isHeaderLine (String.ofList line)) =
          true := by
        simpa [IsOverlong] using hlong
      rw [List.filter_cons_of_neg (by simpa using hlong), if_neg hnone]
      exact hrest

/-- **Line length agrees with positions.** Cut a document at its one-character delimiter. There are
as many pieces as line starts, and the `k`-th piece stands in the text from the `k`-th line start up
to the next delimiter, or to the end of the text. Where tabs count as one column and the rule is
active everywhere, the check reports exactly one diagnostic for each piece that is over the limit
and no header, in order: at the end of the piece, on the line with its number, in the column one
past its length. -/
theorem lineLimit_exact (c : Context) (text : Text) (filename : Option String) (d : Char)
    (session : Session) (hactive : ∀ p, c.ledger.isActive .lineLimit p = true) :
    let s : Source := { text, filename, delimiter := [d], tabSize := none }
    let lines := text.toList.splitOn d
    lines.length = s.lineStarts.length ∧
    (∀ k line, lines[k]? = some line → ∃ stop, HoldsLine s d k line stop) ∧
    ∃ found, (lineLimit.run c s session).1 = .ok found ∧ found.failures = [] ∧
      List.Forall₂ (OnLine s d)
        (lines.zipIdx.filter fun entry => IsOverlong c.settings.lineLimit.val entry.1)
            found.diagnostics := by
  intro s lines
  have hd : s.delimiter = [d] := rfl
  have hs : s.Valid := fun width hwidth => by cases hwidth
  have hlines : lines = linesOf s := (linesOf_eq_splitOn hd).symm
  rw [hlines]
  refine ⟨?_, ?_, ?_⟩
  · rw [← beginnings_linesOf hd, length_beginnings]
  · intro k line hline
    obtain ⟨start, -, hholds, -⟩ := exists_holdsLine hd hline
    exact ⟨_, hholds⟩
  · obtain ⟨found, hrun, hfailures, -⟩ := lineLimit_clean (c := c) hs
    refine ⟨found, hrun, hfailures, ?_⟩
    have hfound := Except.ok.inj (hrun.symm.trans (Ledger.report_eq hs c.ledger .lineLimit _))
    rw [hfound, Ledger.filter_active hactive]
    refine forall₂_overlongLines (linesOf s) 0 0 ?_
    intro k line start hline hstart message
    obtain ⟨start', hstart', hholds, hcount⟩ := exists_holdsLine hd hline
    obtain rfl : start' = start := Option.some.inj (hstart'.symm.trans hstart)
    have hposition := hholds.translate_eq hd rfl hcount
    refine ⟨_, by rw [Report.placed?, hposition], rfl, ?_, ?_, rfl⟩
    · rwa [Nat.zero_add]
    · rw [Nat.zero_add]

/-- A line over the limit, an empty line and a header over the limit: only the first is reported, at
its delimiter. -/
theorem lineLimit_exact_header :
    let c : Context := ⟨{ lineLimit := ⟨3, by decide⟩ }, Ledger.start [], Toolkit.empty⟩
    let s : Source := { text := "WITH;;CREATE TABLE t".toList.toArray, delimiter := [';'] }
    (∀ p, c.ledger.isActive .lineLimit p = true) ∧
      ∃ found x, (lineLimit.run c s {}).1 = .ok found ∧ found.diagnostics = [x] ∧
        x.offset = 4 ∧ x.line = 1 ∧ x.column = 5 := by
  intro c s
  have hactive : ∀ p, c.ledger.isActive .lineLimit p = true := fun _ => rfl
  obtain ⟨-, -, found, hrun, -, hdiagnostics⟩ := lineLimit_exact c s.text none ';' {} hactive
  have hlong : ((s.text.toList.splitOn ';').zipIdx.filter fun entry =>
      IsOverlong c.settings.lineLimit.val entry.1) = [("WITH".toList, 0)] := by
    decide +kernel
  rw [hlong] at hdiagnostics
  obtain ⟨x, rest, hx, hrest, hfound⟩ := List.forall₂_cons_left_iff.mp hdiagnostics
  rw [List.forall₂_nil_left_iff.mp hrest] at hfound
  obtain ⟨start, hstart, hstop, -⟩ := hx.offset.chars
  obtain rfl : 0 = start := Option.some.inj hstart
  exact ⟨hactive, found, x, hrun, hfound, hstop, hx.line, hx.column⟩

end Check

end SqlStyle
