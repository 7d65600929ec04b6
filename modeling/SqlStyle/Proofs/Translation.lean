import SqlStyle.Proofs.Positions
import SqlStyle.Proofs.Segmentation

/-! # Offsets to lines and columns, and back

Line starts are in order, so those up to an index are as many as one more than the delimiters before
it, and the last of them is found again by the line number. Without tab stops the column then says
how far past it the index lies, so an offset can be read back from its position. -/

namespace SqlStyle.Source

theorem lineStarts_pairwise (s : Source) : s.lineStarts.Pairwise (· < ·) := by
  unfold lineStarts
  refine List.pairwise_cons.mpr ⟨?_, List.pairwise_map.mpr ?_⟩
  · intro start hstart
    obtain ⟨i, _, rfl⟩ := List.mem_map.mp hstart
    exact Nat.succ_pos i
  · exact (List.pairwise_lt_range.filter _).imp Nat.succ_lt_succ

theorem startsBy_eq_filter (s : Source) (index : Nat) :
    s.startsBy index = s.lineStarts.filter (· ≤ index) := by
  refine takeWhile_eq_filter (s.lineStarts_pairwise.imp ?_)
  intro a b hab hb
  exact decide_eq_true (Nat.le_trans (Nat.le_of_lt hab) (of_decide_eq_true hb))

/-- The occurrences of a character before an index, counted by index. -/
theorem countP_occursAt (t : Text) (d : Char) {index : Nat} (h : index ≤ t.size) :
    (List.range index).countP (t.occursAt [d]) = (t.toList.take index).count d := by
  induction index with
  | zero => rfl
  | succ i ih =>
    have hi : i < t.toList.length := by rw [Array.length_toList]; omega
    rw [List.range_succ, List.countP_append, ih (Nat.le_of_succ_le h),
      List.take_succ_eq_append_getElem hi, List.count_append]
    congr 1
    rw [List.countP_singleton, List.count_singleton]
    congr 1
    rw [Bool.eq_iff_iff, Scan.occursAt_one]
    simp [Array.getElem?_eq_getElem (Nat.lt_of_succ_le h)]

/-- A line starts at or before an index just if its delimiter stands before the index. -/
theorem startsBy_eq (s : Source) {index : Nat} (h : index ≤ s.text.size) :
    s.startsBy index = 0 :: ((List.range index).filter (s.text.occursAt s.delimiter)).map
        (· + 1) := by
  -- the line starts come from the indices before `index` and from `more` indices past it
  obtain ⟨more, hmore⟩ : ∃ more, s.text.size + 1 = index + more :=
    Nat.exists_eq_add_of_le (Nat.le_succ_of_le h)
  have hbefore : ∀ i ∈ (List.range index).filter (s.text.occursAt s.delimiter),
      decide (i + 1 ≤ index) = true := by
    intro i hi
    exact decide_eq_true (List.mem_range.mp (List.mem_filter.mp hi).1)
  have hpast : ∀ i ∈ ((List.range more).map (index + ·)).filter (s.text.occursAt s.delimiter),
      ¬ decide (i + 1 ≤ index) = true := by
    intro i hi
    obtain ⟨j, _, rfl⟩ := List.mem_map.mp (List.mem_filter.mp hi).1
    simp only [decide_eq_true_eq]
    omega
  rw [startsBy_eq_filter, lineStarts, List.filter_cons_of_pos (by simp), List.filter_map, hmore,
    List.range_add, List.filter_append, List.filter_append]
  simp only [Function.comp_def]
  rw [List.filter_eq_self.mpr hbefore, List.filter_eq_nil_iff.mpr hpast, List.append_nil]

section

variable {s : Source} {d : Char} {index : Nat} (h : index ≤ s.text.size)

include h

theorem startsBy_length (hd : s.delimiter = [d]) :
    (s.startsBy index).length = 1 + (s.text.toList.take index).count d := by
  rw [startsBy_eq s h, List.length_cons, List.length_map, ← List.countP_eq_length_filter, hd,
    countP_occursAt s.text d h, Nat.add_comm]

/-- The line number finds the start of the line again. -/
theorem lineStarts_getElem? :
    s.lineStarts[(s.startsBy index).length - 1]? = some (s.lineStart index) := by
  have hne : s.startsBy index ≠ [] := by rw [startsBy_eq s h]; exact List.cons_ne_nil _ _
  obtain ⟨later, hlater⟩ := List.takeWhile_prefix (l := s.lineStarts) (· ≤ index)
  have hpos : (s.startsBy index).length - 1 < (s.startsBy index).length :=
    Nat.sub_lt (List.length_pos_iff.mpr hne) Nat.one_pos
  rw [← hlater]
  show (s.startsBy index ++ later)[_]? = _
  rw [List.getElem?_append_left hpos, ← List.getLast?_eq_getElem?, lineStart,
    List.getLastD_eq_getLast?, List.getLast?_eq_some_getLast hne, Option.getD_some]

theorem length_extract_lineStart :
    (s.text.extract (s.lineStart index) index).toList.length = index - s.lineStart index := by
  rw [Array.length_toList, Array.size_extract, Nat.min_eq_left h]

end

/-- **Where an offset stands.** In a document with one-character delimiters and tabs of positive
width, if any, an offset has a position just if it lies in the text, its end included. The line is
one more than the delimiters before the offset, the column is at least one, and a later offset
stands strictly later. Where a tab is one column, the start of the line and the column give the
offset back. -/
theorem translate_exact (text : Text) (filename : Option String) (d : Char) (tabSize : Option Int)
    (ht : ∀ width ∈ tabSize, 0 < width) :
    let s : Source := { text, filename, delimiter := [d], tabSize }
    (∀ o : Int, s.translate o = .error (.outside o text.size) ↔ o < 0 ∨ text.size < o) ∧
    (∀ o : Int, 0 ≤ o → o ≤ text.size → ∃ p, s.translate o = .ok p ∧
      p.line = 1 + (text.toList.take o.toNat).count d ∧ 1 ≤ p.column ∧
      (tabSize = none → ∃ start, s.lineStarts[p.line - 1]? = some start ∧
        start + p.column - 1 = o)) ∧
    ∀ a b : Int, 0 ≤ a → a < b → b ≤ text.size →
      ∃ p q, s.translate a = .ok p ∧ s.translate b = .ok q ∧ p.Before q := by
  intro s
  have hs : s.Valid := fun width h => ht width h
  refine ⟨?_, ?_, ?_⟩
  · intro o
    rcases translate_cases hs o with ⟨h0, hle, p, hp, _⟩ | ⟨hout, herr⟩
    · rw [hp]
      constructor
      · intro h
        cases h
      · intro hout
        have hle : o ≤ text.size := hle
        omega
    · refine ⟨fun _ => ?_, fun _ => herr⟩
      have hout : ¬ (0 ≤ o ∧ o ≤ text.size) := hout
      omega
  · intro o h0 hle
    have hindex : o.toNat ≤ s.text.size := Int.toNat_le.mpr hle
    obtain ⟨col, hcol, hcol0, hp⟩ := positionAt_ok hs o.toNat
    refine ⟨⟨(s.startsBy o.toNat).length, col + 1⟩, ?_, startsBy_length hindex rfl,
      Int.le_add_of_nonneg_left hcol0, ?_⟩
    · rw [translate, if_pos ⟨h0, hle⟩, hp]
    · intro hnone
      subst hnone
      have hlen : ((s.text.extract (s.lineStart o.toNat) o.toNat).toList.length : Int) = col :=
        Except.ok.inj hcol
      rw [length_extract_lineStart hindex] at hlen
      have hstart := s.lineStart_le o.toNat
      exact ⟨s.lineStart o.toNat, lineStarts_getElem? hindex, by simp only; omega⟩
  · intro a b ha hab hb
    rcases translate_cases hs a with ⟨_, _, p, hp, _⟩ | ⟨hout, _⟩
    · rcases translate_cases hs b with ⟨_, _, q, hq, _⟩ | ⟨hout, _⟩
      · exact ⟨p, q, hp, hq, translate_before hs hab hp hq⟩
      · exact absurd ⟨by omega, hb⟩ hout
    · exact absurd ⟨ha, by show a ≤ text.size; omega⟩ hout

/-- An empty line, tabs at the front and at exact tab stops; the end of the text is on the third
line. -/
theorem translate_exact_tabs :
    let text : Text := #['\t', 'a', '\n', '\n', '\t', '\t', 'b']
    let tabbed : Source := { text, tabSize := some 4 }
    let plain : Source := { text }
    (∀ width ∈ some (4 : Int), 0 < width) ∧
    (∃ p, tabbed.translate 7 = .ok p ∧ p.line = 3 ∧ 1 ≤ p.column) ∧
    (∃ p q, tabbed.translate 4 = .ok p ∧ tabbed.translate 5 = .ok q ∧ p.Before q) ∧
    ∃ p start, plain.translate 7 = .ok p ∧ plain.lineStarts[p.line - 1]? = some start ∧
      start + p.column - 1 = 7 := by
  intro text tabbed plain
  have hwidth : ∀ width ∈ some (4 : Int), 0 < width := by decide
  obtain ⟨_, hline, hlater⟩ := translate_exact text none '\n' (some 4) hwidth
  obtain ⟨_, hback, _⟩ := translate_exact text none '\n' none (by simp)
  obtain ⟨p, hp, hpline, hpcol, _⟩ := hline 7 (by decide) (by decide)
  obtain ⟨q, hq, _, _, hstart⟩ := hback 7 (by decide) (by decide)
  obtain ⟨start, hs, heq⟩ := hstart rfl
  exact ⟨hwidth, ⟨p, hp, hpline.trans (by decide), hpcol⟩, hlater 4 5 (by decide)
    (by decide) (by decide),
    q, start, hq, hs, heq⟩

end SqlStyle.Source
