import Mathlib.Logic.ExistsUnique
import SqlStyle.Scan.Code

/-! # The segmentation of a document

A document with one-character line delimiters falls, from left to right, into block comments, line
comments, strings and single characters of code. `SegmentAt` says which segment stands at an index,
without mentioning the probes: what opens it, and through which first place it goes. `Segments` puts
segments end to end. Every document has exactly one segmentation (`existsUnique_segments`). -/

namespace SqlStyle.Scan

/-- A stretch of a document. A block comment or string ends before index `stop`; the end of a line
comment is the index of the delimiter, or the length of the text. -/
inductive Segment where
  | block (start stop : Nat)
  | line (start : Nat) (marker : Marker) (stop : Nat)
  | string (start stop : Nat)
  | code (index : Nat)
deriving Repr, DecidableEq

/-- Where the next segment starts: a line comment takes its delimiter with it. -/
def Segment.next (t : Text) : Segment → Nat
  | block _ stop => stop
  | line _ _ stop => min (stop + 1) t.size
  | string _ stop => stop
  | code index => index + 1

/-- Where a segment starts. -/
def Segment.start : Segment → Nat
  | block start _ => start
  | line start _ _ => start
  | string start _ => start
  | code index => index

/-- The index of a segment of code. -/
def Segment.codeIndex? : Segment → Option Nat
  | code index => some index
  | _ => none

/-- The line comment that a segment is. -/
def Segment.lineComment? : Segment → Option LineComment
  | line start marker stop => some ⟨start, marker, stop⟩
  | _ => none

/-- `stop` lies `width` past the first index from `lo` on that has the property; if none has it,
`stop` is the end of the text. -/
def Through (P : Nat → Prop) (lo width size stop : Nat) : Prop :=
  (∃ e, lo ≤ e ∧ P e ∧ (∀ j, lo ≤ j → j < e → ¬ P j) ∧ stop = e + width) ∨
    ((∀ j, lo ≤ j → ¬ P j) ∧ stop = size)

def OpensBlock (t : Text) (i : Nat) : Prop := t[i]? = some '/' ∧ t[i + 1]? = some '*'

def ClosesBlock (t : Text) (i : Nat) : Prop := t[i]? = some '*' ∧ t[i + 1]? = some '/'

/-- A line comment marker stands at an index. -/
def OpensLine (t : Text) (i : Nat) : Marker → Prop
  | .dashes => t[i]? = some '-' ∧ t[i + 1]? = some '-'
  | .slashes => t[i]? = some '/' ∧ t[i + 1]? = some '/'
  | .hash => t[i]? = some '#'

/-- A quote stands at an index. -/
def OpensString (t : Text) (i : Nat) (quote : Char) : Prop :=
  t[i]? = some quote ∧ (quote = '\'' ∨ quote = '"')

/-- Exactly `n` backslashes stand directly before an index. -/
def BackslashRun (t : Text) (i n : Nat) : Prop :=
  n ≤ i ∧ (∀ k, k < i → i ≤ k + n → t[k]? = some '\\') ∧ ∀ k, k + n + 1 = i → t[k]? ≠ some '\\'

/-- The quote stands at an index, and not after an odd run of backslashes. -/
def ClosesString (t : Text) (quote : Char) (i : Nat) : Prop :=
  t[i]? = some quote ∧ ∀ n, BackslashRun t i n → n % 2 = 0

/-- The segment that stands at an index. -/
inductive SegmentAt (t : Text) (d : Char) (i : Nat) : Segment → Prop
  | block {stop : Nat} : OpensBlock t i → Through (ClosesBlock t) (i + 2) 2 t.size stop →
      SegmentAt t d i (.block i stop)
  | line {m : Marker} {stop : Nat} : OpensLine t i m →
      Through (fun j => t[j]? = some d) i 0 t.size stop → SegmentAt t d i (.line i m stop)
  | string {quote : Char} {stop : Nat} : OpensString t i quote →
      Through (ClosesString t quote) (i + 1) 1 t.size stop → SegmentAt t d i (.string i stop)
  | code : ¬ OpensBlock t i → (∀ m, ¬ OpensLine t i m) → (∀ quote, ¬ OpensString t i quote) →
      SegmentAt t d i (.code i)

/-- The segments of a document from an index on. -/
inductive Segments (t : Text) (d : Char) : Nat → List Segment → Prop
  | done {i : Nat} : t.size ≤ i → Segments t d i []
  | step {i : Nat} {seg : Segment} {rest : List Segment} : i < t.size → SegmentAt t d i seg →
      Segments t d (seg.next t) rest → Segments t d i (seg :: rest)

/-! ## There is one segmentation -/

theorem Through.unique {P : Nat → Prop} {lo width size a b : Nat} (ha : Through P lo width size a)
    (hb : Through P lo width size b) : a = b := by
  rcases ha with ⟨e, hle, he, hmin, rfl⟩ | ⟨hnone, rfl⟩
  · rcases hb with ⟨e', hle', he', hmin', rfl⟩ | ⟨hnone', rfl⟩
    · rcases Nat.lt_trichotomy e e' with h | rfl | h
      · exact absurd he (hmin' e hle h)
      · rfl
      · exact absurd he' (hmin e' hle' h)
    · exact absurd he (hnone' e hle)
  · rcases hb with ⟨e', hle', he', _⟩ | ⟨_, rfl⟩
    · exact absurd he' (hnone e' hle')
    · rfl

theorem firstFrom_eq_none {p : Nat → Bool} {n lo : Nat} (h : firstFrom p n lo = none) :
    ∀ j, lo ≤ j → j < lo + n → p j = false := by
  induction n generalizing lo with
  | zero => intro j h1 h2; omega
  | succ n ih =>
    simp only [firstFrom] at h
    split at h
    · cases h
    · rename_i hp
      intro j h1 h2
      by_cases hj : j = lo
      · subst hj; simpa using hp
      · exact ih h j (by omega) (by omega)

/-- Searching an interval that holds every index with the property finds where a stretch ends. -/
theorem through_firstBetween {P : Nat → Prop} {p : Nat → Bool}
    (hp : ∀ j, p j = true ↔ P j) {hi : Nat} (hhi : ∀ j, P j → j < hi) (lo width size : Nat) :
    Through P lo width size ((firstBetween p lo hi).elim size (· + width)) := by
  cases hf : firstBetween p lo hi with
  | some e =>
    obtain ⟨h1, _, h3, h4⟩ := firstFrom_eq_some hf
    refine Or.inl ⟨e, h1, (hp e).mp h3, ?_, rfl⟩
    intro j hj hje hP
    have := h4 j hj hje
    rw [(hp j).mpr hP] at this
    cases this
  | none =>
    refine Or.inr ⟨?_, rfl⟩
    intro j hj hP
    have := firstFrom_eq_none hf j hj (by have := hhi j hP; omega)
    rw [(hp j).mpr hP] at this
    cases this

/-- How many characters passing a test stand directly before an index: all of those do, and the one
before them, if there is one, does not. -/
theorem runBefore_eq_iff {t : Text} {test : Char → Bool} {i n : Nat} :
    t.runBefore test i = n ↔ n ≤ i ∧ (∀ k, k < i → i ≤ k + n → t[k]?.any test = true) ∧
      ∀ k, k + n + 1 = i → t[k]?.any test = false := by
  induction i generalizing n with
  | zero =>
    constructor
    · rintro rfl
      exact ⟨Nat.le_refl 0, fun k hk _ => by omega, fun k hk => by omega⟩
    · rintro ⟨hle, -, -⟩
      exact (Nat.le_zero.mp hle).symm
  | succ i ih =>
    rw [Text.runBefore]
    by_cases hpass : t[i]?.any test = true
    · rw [if_pos hpass]
      cases n with
      | zero =>
        refine iff_of_false (Nat.succ_ne_zero _) ?_
        rintro ⟨-, -, hend⟩
        exact absurd hpass (Bool.eq_false_iff.mp (hend i rfl))
      | succ m =>
        rw [Nat.succ_inj, ih]
        constructor
        · rintro ⟨hle, hall, hend⟩
          refine ⟨by omega, fun k hk hkm => ?_, fun k hk => hend k (by omega)⟩
          rcases Nat.lt_succ_iff_lt_or_eq.mp hk with hlt | rfl
          · exact hall k hlt (by omega)
          · exact hpass
        · rintro ⟨hle, hall, hend⟩
          exact ⟨by omega, fun k hk hkm => hall k (by omega) (by omega), fun k hk =>
            hend k (by omega)⟩
    · rw [if_neg hpass]
      constructor
      · rintro rfl
        refine ⟨Nat.zero_le _, fun k hk hkm => by omega, fun k hk => ?_⟩
        obtain rfl : k = i := by omega
        exact Bool.eq_false_iff.mpr hpass
      · rintro ⟨hle, hall, -⟩
        rcases Nat.eq_zero_or_pos n with hzero | hpos
        · exact hzero.symm
        · exact absurd (hall i (Nat.lt_succ_self i) (by omega)) hpass

theorem backslashRun_iff {t : Text} {i n : Nat} :
    BackslashRun t i n ↔ t.runBefore (· == '\\') i = n := by
  have hbackslash : ∀ k : Nat, t[k]?.any (· == '\\') = true ↔ t[k]? = some '\\' := by
    intro k
    cases t[k]? with
    | none => simp
    | some c => simp
  simp only [runBefore_eq_iff, BackslashRun, Bool.eq_false_iff, hbackslash, ne_eq]

theorem BackslashRun.unique {t : Text} {i m n : Nat} (hm : BackslashRun t i m)
    (hn : BackslashRun t i n) : m = n :=
  (backslashRun_iff.mp hm).symm.trans (backslashRun_iff.mp hn)

theorem backslashRun_runBefore (t : Text) (i : Nat) :
    BackslashRun t i (t.runBefore (· == '\\') i) :=
  backslashRun_iff.mpr rfl

theorem closesString_iff (t : Text) (quote : Char) (i : Nat) :
    (t[i]? == some quote && !isEscaped t i) = true ↔ ClosesString t quote i := by
  have hrun := backslashRun_runBefore t i
  rw [Bool.and_eq_true, beq_iff_eq, Bool.not_eq_true', isEscaped, beq_eq_false_iff_ne]
  constructor
  · rintro ⟨hq, hodd⟩
    refine ⟨hq, ?_⟩
    intro n hn
    rw [hn.unique hrun]
    omega
  · rintro ⟨hq, heven⟩
    have := heven _ hrun
    exact ⟨hq, by omega⟩

theorem occursAt_one (t : Text) (a : Char) (i : Nat) :
    t.occursAt [a] i = true ↔ t[i]? = some a := by
  constructor
  · intro h
    simp only [Text.occursAt, Text.holds, Bool.and_eq_true, beq_iff_eq] at h
    exact h.2.1
  · intro h
    have := (Array.getElem?_eq_some_iff.mp h).1
    simp only [Text.occursAt, Text.holds, h, Bool.and_eq_true, beq_self_eq_true, decide_eq_true_eq]
    exact ⟨by omega, trivial, trivial⟩

theorem occursAt_two (t : Text) (a b : Char) (i : Nat) :
    t.occursAt [a, b] i = true ↔ t[i]? = some a ∧ t[i + 1]? = some b := by
  constructor
  · intro h
    simp only [Text.occursAt, Text.holds, Bool.and_eq_true, beq_iff_eq] at h
    exact ⟨h.2.1, h.2.2.1⟩
  · rintro ⟨ha, hb⟩
    have := (Array.getElem?_eq_some_iff.mp ha).1
    simp only [Text.occursAt, Text.holds, ha, hb, Bool.and_eq_true, beq_self_eq_true,
      decide_eq_true_eq]
    exact ⟨by omega, trivial, trivial, trivial⟩

theorem lt_size_of_getElem? {t : Text} {i : Nat} {c : Char} (h : t[i]? = some c) : i < t.size :=
  (Array.getElem?_eq_some_iff.mp h).1

/-! ## Where the probes end a stretch -/

theorem through_block (t : Text) (i : Nat) :
    Through (ClosesBlock t) i 2 t.size ((t.find? ['*', '/'] i).elim t.size (· + 2)) :=
  through_firstBetween (fun j => occursAt_two t '*' '/' j)
    (fun _ h => Nat.lt_succ_of_lt (lt_size_of_getElem? h.1)) _ _ _

theorem through_line (t : Text) (d : Char) (i : Nat) :
    Through (fun j => t[j]? = some d) i 0 t.size (lineEnd t [d] i) := by
  have h := through_firstBetween (fun j => occursAt_one t d j)
    (fun _ h => Nat.lt_succ_of_lt (lt_size_of_getElem? h)) i 0 t.size
  rw [lineEnd]
  cases hf : t.find? [d] i with
  | none => rw [Text.find?] at hf; rw [hf] at h; exact h
  | some e => rw [Text.find?] at hf; rw [hf] at h; exact h

theorem through_string (t : Text) (quote : Char) (i : Nat) :
    Through (ClosesString t quote) i 1 t.size
      ((firstBetween (fun j => t[j]? == some quote && !isEscaped t j) i t.size).elim
          t.size (· + 1)) :=
  through_firstBetween (fun j => closesString_iff t quote j)
    (fun _ h => lt_size_of_getElem? h.1) _ _ _

/-! ## Openers exclude each other -/

theorem OpensBlock.not_line {t : Text} {i : Nat} (h : OpensBlock t i) (m : Marker) :
    ¬ OpensLine t i m := by
  obtain ⟨h1, h2⟩ := h
  cases m <;> simp [OpensLine, h1, h2]

theorem OpensBlock.not_string {t : Text} {i : Nat} (h : OpensBlock t i) (quote : Char) :
    ¬ OpensString t i quote := by
  rintro ⟨hq, rfl | rfl⟩
  · rw [h.1] at hq; cases hq
  · rw [h.1] at hq; cases hq

theorem OpensLine.not_string {t : Text} {i : Nat} {m : Marker} (h : OpensLine t i m)
    (quote : Char) :
    ¬ OpensString t i quote := by
  rintro ⟨hq, rfl | rfl⟩ <;> cases m <;> simp [OpensLine, hq] at h

theorem OpensLine.unique {t : Text} {i : Nat} {m n : Marker} (hm : OpensLine t i m)
    (hn : OpensLine t i n) : m = n := by
  cases m <;> cases n <;> simp_all [OpensLine]

theorem SegmentAt.unique {t : Text} {d : Char} {i : Nat} {a b : Segment} (ha : SegmentAt t d i a)
    (hb : SegmentAt t d i b) : a = b := by
  cases ha with
  | block ho hstop =>
    cases hb with
    | block _ hstop' => rw [hstop.unique hstop']
    | line ho' _ => exact absurd ho' (ho.not_line _)
    | string ho' _ => exact absurd ho' (ho.not_string _)
    | code hn _ _ => exact absurd ho hn
  | line ho hstop =>
    cases hb with
    | block ho' _ => exact absurd ho (ho'.not_line _)
    | line ho' hstop' => rw [ho.unique ho', hstop.unique hstop']
    | string ho' _ => exact absurd ho' (ho.not_string _)
    | code _ hn _ => exact absurd ho (hn _)
  | string ho hstop =>
    cases hb with
    | block ho' _ => exact absurd ho (ho'.not_string _)
    | line ho' _ => exact absurd ho (ho'.not_string _)
    | string ho' hstop' =>
      have := Option.some.inj (ho.1.symm.trans ho'.1)
      subst this
      rw [hstop.unique hstop']
    | code _ _ hn => exact absurd ho (hn _)
  -- code is what nothing opens
  | code hb' hl hs =>
    cases hb with
    | block ho _ => exact absurd ho hb'
    | line ho _ => exact absurd ho (hl _)
    | string ho _ => exact absurd ho (hs _)
    | code _ _ _ => rfl

theorem exists_segmentAt (t : Text) (d : Char) (i : Nat) : ∃ seg, SegmentAt t d i seg := by
  by_cases hb : OpensBlock t i
  · exact ⟨_, .block hb (through_block t (i + 2))⟩
  by_cases hl : ∃ m, OpensLine t i m
  · obtain ⟨m, hm⟩ := hl
    exact ⟨_, .line hm (through_line t d i)⟩
  by_cases hs : ∃ quote, OpensString t i quote
  · obtain ⟨quote, hq⟩ := hs
    exact ⟨_, .string hq (through_string t quote (i + 1))⟩
  exact ⟨_, .code hb (fun m hm => hl ⟨m, hm⟩) (fun q hq => hs ⟨q, hq⟩)⟩

theorem SegmentAt.lt_next {t : Text} {d : Char} {i : Nat} (hi : i < t.size) {seg : Segment}
    (h : SegmentAt t d i seg) : i < seg.next t := by
  cases h with
  | block _ hstop =>
    rcases hstop with ⟨e, _, _, _, rfl⟩ | ⟨_, rfl⟩ <;> simp only [Segment.next] <;> omega
  | line _ hstop =>
    rcases hstop with ⟨e, _, _, _, rfl⟩ | ⟨_, rfl⟩ <;> simp only [Segment.next] <;> omega
  | string _ hstop =>
    rcases hstop with ⟨e, _, _, _, rfl⟩ | ⟨_, rfl⟩ <;> simp only [Segment.next] <;> omega
  | code _ _ _ => exact Nat.lt_succ_self i

theorem exists_segments (t : Text) (d : Char) :
    ∀ n i, t.size - i ≤ n → ∃ segs, Segments t d i segs := by
  intro n
  induction n with
  | zero => intro i hn; exact ⟨[], .done (by omega)⟩
  | succ n ih =>
    intro i hn
    by_cases hi : i < t.size
    · obtain ⟨seg, hseg⟩ := exists_segmentAt t d i
      have hlt := hseg.lt_next hi
      obtain ⟨rest, hrest⟩ := ih (seg.next t) (by omega)
      exact ⟨seg :: rest, .step hi hseg hrest⟩
    · exact ⟨[], .done (by omega)⟩

theorem Segments.unique {t : Text} {d : Char} {i : Nat} {a b : List Segment} (ha : Segments t d i a)
    (hb : Segments t d i b) : a = b := by
  induction ha generalizing b with
  | done hle =>
    cases hb with
    | done _ => rfl
    | step hlt _ _ => omega
  | step hlt hseg _ ih =>
    cases hb with
    | done hle => omega
    | step _ hseg' hrest' =>
      cases hseg.unique hseg'
      rw [ih hrest']

theorem SegmentAt.start_eq {t : Text} {d : Char} {i : Nat} {seg : Segment}
    (h : SegmentAt t d i seg) :
    seg.start = i := by
  cases h <;> rfl

theorem Segments.le_start {t : Text} {d : Char} {i : Nat} {segs : List Segment}
    (h : Segments t d i segs) :
    ∀ seg ∈ segs, i ≤ seg.start ∧ seg.start < t.size := by
  induction h with
  | done _ => simp
  | @step i seg rest hlt hseg _ ih =>
    refine List.forall_mem_cons.mpr ⟨?_, ?_⟩
    · rw [hseg.start_eq]
      exact ⟨Nat.le_refl _, hlt⟩
    intro other hother
    have hnext := hseg.lt_next hlt
    obtain ⟨hle, hsize⟩ := ih other hother
    exact ⟨by omega, hsize⟩

theorem Segments.start_pairwise {t : Text} {d : Char} {i : Nat} {segs : List Segment}
    (h : Segments t d i segs) :
    segs.Pairwise (·.start < ·.start) := by
  induction h with
  | done _ => exact List.Pairwise.nil
  | @step i seg rest hlt hseg hrest ih =>
    refine List.pairwise_cons.mpr ⟨?_, ih⟩
    intro other hother
    have hnext := hseg.lt_next hlt
    have hle := (hrest.le_start other hother).1
    rw [hseg.start_eq]
    omega

/-- Starts that are read off some of the segments come in increasing order. -/
theorem Segments.filterMap_pairwise {t : Text} {d : Char} {i : Nat} {segs : List Segment}
    (h : Segments t d i segs) {read : Segment → Option Nat}
    (hread : ∀ seg k, read seg = some k → seg.start = k) :
    (segs.filterMap read).Pairwise (· < ·) := by
  refine List.pairwise_filterMap.mpr (h.start_pairwise.imp ?_)
  intro a b hlt j hj k hk
  rwa [hread a j hj, hread b k hk] at hlt

theorem Segments.codeIndex_pairwise {t : Text} {d : Char} {i : Nat} {segs : List Segment}
    (h : Segments t d i segs) : (segs.filterMap Segment.codeIndex?).Pairwise (· < ·) := by
  refine h.filterMap_pairwise ?_
  intro seg k hk
  cases seg with
  | code _ => exact Option.some.inj hk
  | block _ _ => cases hk
  | line _ _ _ => cases hk
  | string _ _ => cases hk

theorem existsUnique_segments (t : Text) (d : Char) : ∃! segs, Segments t d 0 segs := by
  obtain ⟨segs, h⟩ := exists_segments t d t.size 0 (Nat.sub_le _ _)
  exact ⟨segs, h, fun other hother => hother.unique h⟩

end SqlStyle.Scan
