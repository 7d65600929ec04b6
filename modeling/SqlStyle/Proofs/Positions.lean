import Mathlib.Data.List.TakeWhile
import SqlStyle.Settings.Basic

/-! # Lines and columns follow offsets

Where tabs have a positive width, every offset up to the end of the text has a position, its column
is at least one, and a later offset has a later position. Two offsets on one line differ in column
because every character moves the column on by at least one; on different lines the count of line
starts decides. -/

namespace SqlStyle

/-- Where every element before one that passes a test passes it too, the leading ones that pass are
all that pass. -/
theorem takeWhile_eq_filter {α : Type} {p : α → Bool} {xs : List α}
    (h : xs.Pairwise fun a b => p b = true → p a = true) : xs.takeWhile p = xs.filter p := by
  induction xs with
  | nil => rfl
  | cons a rest ih =>
    obtain ⟨hlater, hrest⟩ := List.pairwise_cons.mp h
    by_cases ha : p a = true
    · rw [List.takeWhile_cons_of_pos ha, List.filter_cons_of_pos ha, ih hrest]
    · rw [List.takeWhile_cons_of_neg ha, List.filter_cons_of_neg ha]
      refine (List.filter_eq_nil_iff.mpr ?_).symm
      intro b hb hpb
      exact ha (hlater b hb hpb)

/-- `p` stands before `q`: on an earlier line, or on the same line in an earlier column. -/
def Position.Before (p q : Position) : Prop :=
  p.line < q.line ∨ (p.line = q.line ∧ p.column < q.column)

namespace Source

/-- Tabs have a positive width where they have one at all. -/
def Valid (s : Source) : Prop := ∀ width, s.tabSize = some width → 0 < width

theorem valid_of_settings (settings : Settings) (text : Text) (filename : Option String) :
    (settings.source text filename).Valid := by
  intro width h
  obtain ⟨w, _, rfl⟩ := Option.map_eq_some_iff.mp h
  have := w.pos
  omega

theorem advance_pos {width : Int} (hw : 0 < width) (col : Int) (c : Char) :
    ∃ next, advance width col c = .ok next ∧ col + 1 ≤ next := by
  unfold advance
  split
  · have hlt := Int.fmod_lt_of_pos col hw
    rw [if_neg (by omega)]
    exact ⟨_, rfl, by omega⟩
  · exact ⟨_, rfl, Int.le_refl _⟩

/-- A run of characters moves the column on by at least their number. -/
theorem foldlM_advance {width : Int} (hw : 0 < width) (chars : List Char) :
    ∀ col, ∃ next, chars.foldlM (advance width) col = .ok next ∧ col + chars.length ≤ next := by
  induction chars with
  | nil => intro col; exact ⟨col, rfl, by simp⟩
  | cons c rest ih =>
    intro col
    obtain ⟨mid, hmid, hle⟩ := advance_pos hw col c
    obtain ⟨next, hnext, hle'⟩ := ih mid
    refine ⟨next, ?_, by simp only [List.length_cons]; omega⟩
    rw [List.foldlM_cons, hmid]
    exact hnext

theorem column_append {tabSize : Option Int} (ht : ∀ width, tabSize = some width → 0 < width)
    (before more : List Char) :
    ∃ a b, column tabSize before = .ok a ∧ column tabSize (before ++ more) = .ok b ∧
      0 ≤ a ∧ a + more.length ≤ b := by
  cases tabSize with
  | none => exact ⟨_, _, rfl, rfl, by omega, by simp⟩
  | some width =>
    have hw := ht width rfl
    obtain ⟨a, ha, hle⟩ := foldlM_advance hw before 0
    obtain ⟨b, hb, hle'⟩ := foldlM_advance hw more a
    refine ⟨a, b, ha, ?_, by omega, hle'⟩
    show (before ++ more).foldlM (advance width) 0 = .ok b
    rw [List.foldlM_append, ha]
    exact hb

/-- The line starts up to an index. -/
def startsBy (s : Source) (index : Nat) : List Nat := s.lineStarts.takeWhile (· ≤ index)

/-- The start of the line an index is on. -/
def lineStart (s : Source) (index : Nat) : Nat := (s.startsBy index).getLastD 0

/-- Every index has a position: its line is counted by the line starts up to it, and its column is
that of the characters since the last of them. -/
theorem positionAt_ok {s : Source} (hs : s.Valid) (index : Nat) :
    ∃ col, column s.tabSize (s.text.extract (s.lineStart index) index).toList = .ok col ∧ 0 ≤ col ∧
      s.positionAt index = .ok ⟨(s.startsBy index).length, col + 1⟩ := by
  obtain ⟨a, _, ha, _, hle, _⟩ := column_append hs
    (s.text.extract (s.lineStart index) index).toList []
  refine ⟨a, ha, hle, ?_⟩
  show (column s.tabSize (s.text.extract (s.lineStart index) index).toList).map _ = _
  rw [ha]
  rfl

/-- An offset has a position, in a column of at least one, just if it lies in the document. -/
theorem translate_cases {s : Source} (hs : s.Valid) (offset : Int) :
    (0 ≤ offset ∧ offset ≤ s.text.size ∧ ∃ p, s.translate offset = .ok p ∧ 0 < p.column) ∨
      (¬ (0 ≤ offset ∧ offset ≤ s.text.size) ∧
        s.translate offset = .error (.outside offset s.text.size)) := by
  by_cases h : 0 ≤ offset ∧ offset ≤ s.text.size
  · obtain ⟨col, _, hle, hp⟩ := positionAt_ok hs offset.toNat
    refine Or.inl ⟨h.1, h.2, ⟨(s.startsBy offset.toNat).length, col + 1⟩, ?_,
      Int.lt_add_one_of_le hle⟩
    rw [translate, if_pos h]
    exact hp
  · exact Or.inr ⟨h, by rw [translate, if_neg h]⟩

theorem lineStart_le (s : Source) (index : Nat) : s.lineStart index ≤ index := by
  unfold lineStart
  rw [List.getLastD_eq_getLast?]
  cases hl : (s.startsBy index).getLast? with
  | none => exact Nat.zero_le _
  | some start =>
    have := List.mem_takeWhile_imp (List.mem_of_getLast? hl)
    simpa using this

theorem startsBy_prefix (s : Source) {a b : Nat} (h : a ≤ b) : s.startsBy a <+: s.startsBy b := by
  have hboth : s.startsBy a = (s.startsBy b).takeWhile (· ≤ a) := by
    unfold startsBy
    rw [List.takeWhile_takeWhile]
    congr 1
    funext start
    by_cases hs : start ≤ a
    · simp [hs, Nat.le_trans hs h]
    · simp [hs]
  rw [hboth]
  exact List.takeWhile_prefix _

theorem positionAt_before {s : Source} (hs : s.Valid) {a b : Nat} (hab : a < b)
    (hb : b ≤ s.text.size) {p q : Position} (hp : s.positionAt a = .ok p)
    (hq : s.positionAt b = .ok q) : p.Before q := by
  have hpre := s.startsBy_prefix (Nat.le_of_lt hab)
  obtain ⟨ca, hca, _, hpa⟩ := positionAt_ok hs a
  obtain ⟨cb, hcb, _, hpb⟩ := positionAt_ok hs b
  rw [hpa] at hp
  rw [hpb] at hq
  cases hp
  cases hq
  by_cases hlen : (s.startsBy a).length = (s.startsBy b).length
  · -- on one line: the characters up to `b` are those up to `a` and at least one more
    have hstart : s.lineStart b = s.lineStart a := by
      unfold lineStart
      rw [hpre.eq_of_length hlen]
    have hsplit : (s.text.extract (s.lineStart a) b).toList =
        (s.text.extract (s.lineStart a) a).toList ++ (s.text.extract a b).toList := by
      rw [← Array.toList_append, Array.extract_append_extract, Nat.min_eq_left (s.lineStart_le a),
        Nat.max_eq_right (Nat.le_of_lt hab)]
    obtain ⟨da, db, hda, hdb, _, hle⟩ := column_append hs
      (s.text.extract (s.lineStart a) a).toList (s.text.extract a b).toList
    rw [← hsplit, ← hstart, hcb] at hdb
    rw [hca] at hda
    cases hda
    cases hdb
    have hmore : (s.text.extract a b).toList.length = b - a := by
      rw [Array.length_toList, Array.size_extract, Nat.min_eq_left hb]
    exact Or.inr ⟨hlen, by simp only; omega⟩
  · exact Or.inl (Nat.lt_of_le_of_ne hpre.length_le hlen)

/-- A later offset has a later position. -/
theorem translate_before {s : Source} (hs : s.Valid) {a b : Int} (hab : a < b) {p q : Position}
    (hp : s.translate a = .ok p) (hq : s.translate b = .ok q) : p.Before q := by
  unfold translate at hp hq
  split at hp
  · rename_i ha
    split at hq
    · exact positionAt_before hs (by omega) (by omega) hp hq
    · cases hq
  · cases hp

end Source

end SqlStyle
