import Mathlib.Data.List.Basic
import SqlStyle.Proofs.Causality
import SqlStyle.Proofs.Positions
import SqlStyle.Scan.Word

/-! # Looking back in a text

What stands before an index is found by looking back over characters that are skipped. Inside the
text that meets no fault, so it is an optional index (`solid?`) and an optional word
(`wordBefore?`).

A block comment ends a look back: its last character is neither blank nor part of a word. With
spaces in place of the comment the look goes on in front of it (`CommentBefore.solid?_blankOut`). A
look back that stops behind the comment is the same with and without it, as no word reaches across
its end (`AgreeFrom.wordBefore?_eq`). -/

namespace SqlStyle

/-- The text with the indices from `a` up to `b` overwritten by spaces. -/
def Text.blankOut (t : Text) (a b : Nat) : Text :=
  t.mapIdx fun i c => if a ≤ i ∧ i < b then ' ' else c

theorem Text.size_blankOut (t : Text) (a b : Nat) : (t.blankOut a b).size = t.size :=
  Array.size_mapIdx

theorem Text.getElem?_blankOut (t : Text) (a b i : Nat) :
    (t.blankOut a b)[i]? = t[i]?.map fun c => if a ≤ i ∧ i < b then ' ' else c :=
      Array.getElem?_mapIdx

theorem Text.blankOut_outside (t : Text) {a b i : Nat} (h : i < a ∨ b ≤ i) :
    (t.blankOut a b)[i]? = t[i]? := by
  have hout : ¬ (a ≤ i ∧ i < b) := by omega
  simp only [getElem?_blankOut, hout, if_false, Option.map_id']

theorem Text.blankOut_inside {t : Text} {a b i : Nat} (ha : a ≤ i) (hb : i < b)
    (hsize : i < t.size) :
    (t.blankOut a b)[i]? = some ' ' := by
  rw [getElem?_blankOut, Array.getElem?_eq_getElem hsize, Option.map_some, if_pos ⟨ha, hb⟩]

/-- The document with a range of its text overwritten by spaces. -/
def Source.blankOut (s : Source) (a b : Nat) : Source := { s with text := s.text.blankOut a b }

theorem Source.Valid.blankOut {s : Source} (hs : s.Valid) (a b : Nat) : (s.blankOut a b).Valid := hs

theorem Source.size_blankOut (s : Source) (a b : Nat) : (s.blankOut a b).text.size = s.text.size :=
  s.text.size_blankOut a b

namespace Scan

/-! ## Looking back inside the text -/

/-- The last index before `n` whose character is not to be skipped. -/
def solid? (skip : Char → Bool) (t : Text) : Nat → Option Nat
  | 0 => none
  | n + 1 => if t[n]?.any skip then solid? skip t n else some n

/-- The word that ends with the character at `last`, and the index at which it starts. -/
def wordAt? (t : Text) (last : Nat) : Option (String × Nat) :=
  match t.runBefore Text.isWordChar (last + 1) with
  | 0 => none
  | length + 1 => some (t.slice (last - length) (last + 1), last - length)

/-- The word before `p`, blanks apart. -/
def wordBefore? (t : Text) (p : Nat) : Option (String × Nat) :=
  (solid? Text.isBlank t p).bind (wordAt? t)

/-- Looking back from an index of the text meets no fault. -/
theorem lastBefore_eq (skip : Char → Bool) (t : Text) :
    ∀ {n : Nat}, n ≤ t.size → lastBefore skip t n = .ok (solid? skip t n)
  | 0, _ => rfl
  | n + 1, h => by
    rw [lastBefore, solid?, Array.getElem?_eq_getElem h, Option.any_some]
    dsimp only
    split
    · exact lastBefore_eq skip t (Nat.le_of_succ_le h)
    · rfl

theorem previousWord_eq {t : Text} {p : Nat} (h : p ≤ t.size) :
    previousWord t p = .ok (wordBefore? t p) := by
  rw [previousWord, solidBefore, lastBefore_eq Text.isBlank t h, wordBefore?]
  cases solid? Text.isBlank t p with
  | none => rfl
  | some last => rfl

theorem solid?_lt {skip : Char → Bool} {t : Text} {n i : Nat} (h : solid? skip t n = some i) :
    i < n := by
  induction n with
  | zero => cases h
  | succ n ih =>
    rw [solid?] at h
    split at h
    · exact Nat.lt_succ_of_lt (ih h)
    · cases h
      exact Nat.lt_succ_self _

/-- What a look back stops at is not skipped. -/
theorem solid?_not_skipped {skip : Char → Bool} {t : Text} {n i : Nat}
    (h : solid? skip t n = some i) :
    t[i]?.any skip = false := by
  induction n with
  | zero => cases h
  | succ n ih =>
    rw [solid?] at h
    split at h
    · exact ih h
    · rename_i hsolid
      cases h
      exact Bool.eq_false_iff.mpr hsolid

theorem wordBefore?_lt {t : Text} {p : Nat} {word : String × Nat}
    (h : wordBefore? t p = some word) :
    word.2 < p := by
  obtain ⟨last, hlast, hword⟩ := Option.bind_eq_some_iff.mp h
  have := solid?_lt hlast
  unfold wordAt? at hword
  split at hword
  · cases hword
  · cases hword
    dsimp only
    omega

/-! ## What a look back goes through -/

/-- Looking back from `p` goes through to `q`: all that stands between is skipped. -/
def Reaches (skip : Char → Bool) (t : Text) (q p : Nat) : Prop :=
  q ≤ p ∧ ∀ i, q ≤ i → i < p → t[i]?.any skip = true

theorem Reaches.solid?_eq {skip : Char → Bool} {t : Text} {q p : Nat} (h : Reaches skip t q p) :
    solid? skip t p = solid? skip t q := by
  obtain ⟨hle, hskip⟩ := h
  induction p, hle using Nat.le_induction with
  | base => rfl
  | succ p hle ih =>
    rw [solid?, if_pos (hskip p hle (Nat.lt_succ_self p))]
    exact ih fun i hi hip => hskip i hi (Nat.lt_succ_of_lt hip)

/-- A look back goes through to an index or stops behind it. -/
theorem reaches_or_stops (skip : Char → Bool) (t : Text) {q p : Nat} (h : q ≤ p) :
    Reaches skip t q p ∨ ∃ i, q ≤ i ∧ solid? skip t p = some i := by
  induction p, h using Nat.le_induction with
  | base => exact .inl ⟨Nat.le_refl q, fun i hi hiq => by omega⟩
  | succ p hle ih =>
    rw [solid?]
    by_cases hskip : t[p]?.any skip = true
    · rw [if_pos hskip]
      refine ih.imp_left fun hreach => ⟨Nat.le_succ_of_le hle, fun i hi hip => ?_⟩
      rcases Nat.lt_succ_iff_lt_or_eq.mp hip with hlt | rfl
      · exact hreach.2 i hi hlt
      · exact hskip
    · rw [if_neg hskip]
      exact .inr ⟨p, hle, rfl⟩

/-! ## Two texts -/

theorem solid?_agree {p : Nat} {t u : Text} (h : Text.Agree p t u) (skip : Char → Bool) :
    ∀ {n : Nat}, n ≤ p → solid? skip t n = solid? skip u n := by
  intro n
  induction n with
  | zero => intro _; rfl
  | succ n ih =>
    intro hn
    rw [solid?, solid?, h.same n hn, ih (Nat.le_of_succ_le hn)]

theorem wordAt?_agree {p : Nat} {t u : Text} (h : Text.Agree p t u) {last : Nat}
    (hlast : last < p) :
    wordAt? t last = wordAt? u last := by
  have hstop : last + 1 ≤ p := hlast
  rw [wordAt?, wordAt?, h.runBefore_eq Text.isWordChar hstop]
  split
  · rfl
  · rw [h.slice_eq _ hstop]

theorem wordBefore?_agree {p : Nat} {t u : Text} (h : Text.Agree p t u) {n : Nat} (hn : n ≤ p) :
    wordBefore? t n = wordBefore? u n := by
  rw [wordBefore?, wordBefore?, solid?_agree h Text.isBlank hn]
  refine Option.bind_congr fun last hlast => ?_
  have := solid?_lt hlast
  exact wordAt?_agree h (by omega)

/-- Two texts of the same length hold the same characters from index `q` on, and no word reaches
across it. -/
structure AgreeFrom (q : Nat) (t u : Text) : Prop where
  size : t.size = u.size
  same : ∀ i, q ≤ i → t[i]? = u[i]?
  left : ∀ i, i + 1 = q → t[i]?.any Text.isWordChar = false
  right : ∀ i, i + 1 = q → u[i]?.any Text.isWordChar = false

namespace AgreeFrom

variable {q : Nat} {t u : Text}

theorem solid?_eq (h : AgreeFrom q t u) {skip : Char → Bool} {p i : Nat} (hi : q ≤ i)
    (hsolid : solid? skip t p = some i) : solid? skip u p = some i := by
  induction p with
  | zero => cases hsolid
  | succ p ih =>
    have hlt := solid?_lt hsolid
    rw [solid?, ← h.same p (by omega)]
    rw [solid?] at hsolid
    split at hsolid
    · exact (if_pos ‹_›).trans (ih hsolid)
    · exact (if_neg ‹_›).trans hsolid

/-- A run of letters behind the index is the same in both texts, and starts behind it. -/
theorem runBefore_eq (h : AgreeFrom q t u) {n : Nat} (hn : q ≤ n) :
    t.runBefore Text.isWordChar n = u.runBefore Text.isWordChar n ∧
        t.runBefore Text.isWordChar n ≤ n - q := by
  induction n, hn using Nat.le_induction with
  | base =>
    cases q with
    | zero => exact ⟨rfl, Nat.le_refl _⟩
    | succ q =>
      rw [Text.runBefore, Text.runBefore, h.left q rfl, h.right q rfl]
      exact ⟨rfl, Nat.zero_le _⟩
  | succ n hn ih =>
    rw [Text.runBefore, Text.runBefore, ← h.same n hn, ← ih.1]
    refine ⟨rfl, ?_⟩
    split
    · omega
    · omega

theorem slice_eq (h : AgreeFrom q t u) {start : Nat} (hstart : q ≤ start) (stop : Nat) :
    t.slice start stop = u.slice start stop := by
  have hext : t.extract start stop = u.extract start stop := by
    refine Array.ext_getElem? fun i => ?_
    rw [Array.getElem?_extract, Array.getElem?_extract, h.size, h.same (start + i) (by omega)]
  rw [Text.slice, hext, ← Text.slice]

theorem wordAt?_eq (h : AgreeFrom q t u) {last : Nat} (hlast : q ≤ last) :
    wordAt? t last = wordAt? u last := by
  obtain ⟨hrun, hbound⟩ := h.runBefore_eq (n := last + 1) (by omega)
  rw [wordAt?, wordAt?, ← hrun]
  split
  · rfl
  · rename_i length hlength
    have hstart : q ≤ last - length := by omega
    rw [h.slice_eq hstart]

/-- A word that is found behind the index is found in both texts. -/
theorem wordBefore?_eq (h : AgreeFrom q t u) {p i : Nat} (hi : q ≤ i)
    (hsolid : solid? Text.isBlank t p = some i) :
    wordBefore? t p = wordBefore? u p := by
  rw [wordBefore?, wordBefore?, hsolid, h.solid?_eq hi hsolid]
  exact h.wordAt?_eq hi

end AgreeFrom

/-! ## Comments -/

theorem Segments.segmentAt {t : Text} {d : Char} {i : Nat} {segs : List Segment}
    (h : Segments t d i segs) :
    ∀ seg ∈ segs, SegmentAt t d seg.start seg := by
  induction h with
  | done _ => simp
  | step hlt hseg _ ih =>
    refine List.forall_mem_cons.mpr ⟨?_, ih⟩
    rw [hseg.start_eq]
    exact hseg

/-- A character that opens nothing is code. -/
theorem segmentAt_code {t : Text} {d c : Char} {i : Nat} (h : t[i]? = some c)
    (hc : c ∉ ['/', '-', '#', '\'', '"']) : SegmentAt t d i (.code i) := by
  have hne : ∀ {opener}, opener ∈ ['/', '-', '#', '\'', '"'] → t[i]? ≠ some opener := by
    intro opener hopener heq
    rw [h, Option.some.injEq] at heq
    exact hc (heq ▸ hopener)
  refine .code ?_ ?_ ?_
  · intro hblock
    exact hne (by simp) hblock.1
  · intro m hm
    cases m with
    | dashes => exact hne (by simp) hm.1
    | slashes => exact hne (by simp) hm.1
    | hash => exact hne (by simp) hm
  · intro quote hquote
    exact hne (by rcases hquote.2 with rfl | rfl <;> simp) hquote.1

/-- A comment stands from index `a` up to index `b`, and more of the text behind it. -/
structure CommentBefore (t : Text) (a b : Nat) : Prop where
  lt : a < b
  le : b ≤ t.size
  slash : t[b - 1]? = some '/'

/-- A comment that does not reach to the end of the text is closed. -/
theorem Segments.commentBefore {t : Text} {d : Char} {segs : List Segment}
    (h : Segments t d 0 segs) {a b : Nat} (hm : .block a b ∈ segs) :
    a < b ∧ (b < t.size → CommentBefore t a b) := by
  have hsize := (h.le_start _ hm).2
  have hat := h.segmentAt _ hm
  simp only [Segment.start] at hsize hat
  cases hat with
  | block hopens hthrough =>
    rcases hthrough with ⟨e, hle, hcloses, -, rfl⟩ | ⟨-, rfl⟩
    · exact ⟨by omega, fun hlt => ⟨by omega, by omega, hcloses.2⟩⟩
    · exact ⟨hsize, fun hlt => absurd hlt (Nat.lt_irrefl _)⟩

theorem agree_blankOut {t : Text} {a n : Nat} (ha : n ≤ a) (hsize : n ≤ t.size) (b : Nat) :
    Text.Agree n t (t.blankOut a b) where
  left := hsize
  right := by rwa [t.size_blankOut]
  same i hi := (t.blankOut_outside (.inl (by omega))).symm

namespace CommentBefore

variable {t : Text} {a b p : Nat} {skip : Char → Bool}

theorem agree (h : CommentBefore t a b) : Text.Agree a t (t.blankOut a b) :=
  agree_blankOut (Nat.le_refl a) (by have := h.lt; have := h.le; omega) b

/-- No word reaches across the end of a comment, nor across spaces in its place. -/
theorem agreeFrom (h : CommentBefore t a b) : AgreeFrom b t (t.blankOut a b) where
  size := (t.size_blankOut a b).symm
  same i hi := (t.blankOut_outside (.inr hi)).symm
  left i hi := by
    have hslash := h.slash
    rw [← hi, Nat.add_sub_cancel] at hslash
    rw [hslash]
    decide
  right i hi := by
    have := h.lt
    have := h.le
    rw [Text.blankOut_inside (by omega) (by omega) (by omega)]
    decide

/-- Looking back to a comment ends at its last character. -/
theorem solid?_eq (h : CommentBefore t a b) (hslash : skip '/' = false)
    (hreach : Reaches skip t b p) :
    solid? skip t p = some (b - 1) := by
  have hlast := h.slash
  rw [hreach.solid?_eq]
  cases b with
  | zero => exact absurd h.lt (Nat.not_lt_zero a)
  | succ b =>
    rw [Nat.add_sub_cancel] at hlast ⊢
    rw [solid?, hlast, Option.any_some, hslash]
    rfl

/-- Looking back to spaces in place of a comment goes on in front of it. -/
theorem solid?_blankOut (h : CommentBefore t a b) (hspace : skip ' ' = true)
    (hreach : Reaches skip t b p) :
    solid? skip (t.blankOut a b) p = solid? skip t a := by
  have hlt := h.lt
  have hle := h.le
  have hreach' : Reaches skip (t.blankOut a b) a p := by
    refine ⟨by have := hreach.1; omega, fun i hi hip => ?_⟩
    by_cases hb : i < b
    · rw [Text.blankOut_inside hi hb (by omega), Option.any_some, hspace]
    · rw [t.blankOut_outside (.inr (by omega))]
      exact hreach.2 i (by omega) hip
  rw [hreach'.solid?_eq, ← solid?_agree h.agree skip (Nat.le_refl a)]

theorem wordBefore?_eq_none (h : CommentBefore t a b) (hreach : Reaches Text.isBlank t b p) :
    wordBefore? t p = none := by
  have hrun : t.runBefore Text.isWordChar (b - 1 + 1) = 0 := by
    rw [Text.runBefore, h.slash]
    rfl
  rw [wordBefore?, h.solid?_eq (by decide) hreach, Option.bind_some, wordAt?, hrun]

theorem wordBefore?_blankOut (h : CommentBefore t a b) (hreach : Reaches Text.isBlank t b p) :
    wordBefore? (t.blankOut a b) p = wordBefore? t a := by
  rw [wordBefore?_agree h.agree (Nat.le_refl a), wordBefore?, wordBefore?,
    h.solid?_blankOut (by decide) hreach, solid?_agree h.agree Text.isBlank (Nat.le_refl a)]

/-- A word behind a comment is the same without it. -/
theorem wordBefore?_blankOut_of_not_reaches (h : CommentBefore t a b) (hp : b ≤ p)
    (hreach : ¬ Reaches Text.isBlank t b p) : wordBefore? (t.blankOut a b) p = wordBefore? t p := by
  obtain ⟨i, hi, hsolid⟩ := (reaches_or_stops Text.isBlank t hp).resolve_left hreach
  exact (h.agreeFrom.wordBefore?_eq hi hsolid).symm

end CommentBefore

end Scan

end SqlStyle
