import SqlStyle.Proofs.Fields
import SqlStyle.Proofs.Segmentation
import SqlStyle.Settings.Load

/-! # Both readings follow the segmentation

The two readings of a document probe differently: one lets a probe match on the second character of
an opener and relies on look-behind, the other tests markers itself. At an index where a segment
ends the difference does not show (`Fresh`), because what stands before it is a quote, a delimiter,
the `*/` of a comment, or a character of code that opens nothing together with the next one. That
holds for every delimiter but `-` and `/`, which can be the first character of an opener and end a
line comment at once. -/

namespace SqlStyle.Scan

/-- No opener is recognised from its second character here: a `-` before is not doubled, and a `/`
before either opens nothing with this character or closes a block comment. -/
def Fresh (t : Text) (i : Nat) : Prop :=
  ∀ j, i = j + 1 →
    (t[j]? = some '-' → t[i]? ≠ some '-') ∧
    (t[j]? = some '/' → (t[i]? ≠ some '/' ∧ t[i]? ≠ some '*') ∨ ∃ k, j = k + 1 ∧ t[k]? = some '*')

theorem fresh_zero (t : Text) : Fresh t 0 := by
  intro j hj
  omega

theorem fresh_of_le {t : Text} {i : Nat} (h : t.size ≤ i) : Fresh t i := by
  intro j _
  have hnone : t[i]? = none := Array.getElem?_eq_none h
  simp [hnone]

/-- Right after a character that begins no opener. -/
theorem fresh_succ {t : Text} {j : Nat} {c : Char} (hc : t[j]? = some c) (h1 : c ≠ '-')
    (h2 : c ≠ '/') :
    Fresh t (j + 1) := by
  intro k hk
  have : k = j := by omega
  subst this
  simp [hc, h1, h2]

/-- A segment leaves the next one a fresh start. -/
theorem SegmentAt.fresh_next {t : Text} {d : Char} (h1 : d ≠ '-') (h2 : d ≠ '/') {i : Nat}
    {seg : Segment} (h : SegmentAt t d i seg) : Fresh t (seg.next t) := by
  cases h with
  | block _ hstop =>
    rcases hstop with ⟨e, _, ⟨hstar, hslash⟩, _, rfl⟩ | ⟨_, rfl⟩
    · intro j hj
      simp only [Segment.next] at hj ⊢
      have : j = e + 1 := by omega
      subst this
      -- the `/` before belongs to `*/`, which the probes look behind for
      exact ⟨by simp [hslash], fun _ => Or.inr ⟨e, rfl, hstar⟩⟩
    · exact fresh_of_le (Nat.le_refl _)
  | @line m stop _ hstop =>
    rcases hstop with ⟨e, _, hd, _, heq⟩ | ⟨_, rfl⟩
    · have hlt := lt_size_of_getElem? hd
      -- only here does the delimiter matter: it is the character before the next segment
      have hnext : (Segment.line i m stop).next t = e + 1 := by
        simp only [Segment.next]
        omega
      rw [hnext]
      exact fresh_succ hd h1 h2
    · refine fresh_of_le ?_
      simp only [Segment.next]
      omega
  | string ho hstop =>
    rcases hstop with ⟨e, _, ⟨hq, _⟩, _, rfl⟩ | ⟨_, rfl⟩
    · rcases ho.2 with rfl | rfl
      · exact fresh_succ hq (by decide) (by decide)
      · exact fresh_succ hq (by decide) (by decide)
    · exact fresh_of_le (Nat.le_refl _)
  | code hb hl _ =>
    intro j hj
    have : j = i := by simpa [Segment.next] using hj.symm
    subst this
    exact ⟨fun hdash h => hl .dashes ⟨hdash, h⟩,
      fun hslash => Or.inl ⟨fun h => hl .slashes ⟨hslash, h⟩, fun h => hb ⟨hslash, h⟩⟩⟩

/-! ## Probes at a fresh start -/

/-- Only the start of an opener opens a block comment. -/
theorem Fresh.blockBody?_eq_none {t : Text} {i : Nat} (h : Fresh t i) (hb : ¬ OpensBlock t i) :
    blockBody? t i = none := by
  have hfirst : ¬ t.occursAt ['/', '*'] i = true := by
    rw [occursAt_two]
    exact hb
  rw [blockBody?, if_neg hfirst, if_neg]
  intro hsecond
  simp only [Bool.and_eq_true, Bool.or_eq_true, decide_eq_true_eq, bne_iff_ne] at hsecond
  obtain ⟨⟨hpos, hocc⟩, hbehind⟩ := hsecond
  obtain ⟨j, rfl⟩ : ∃ j, i = j + 1 := ⟨i - 1, by omega⟩
  obtain ⟨hslash, hstar⟩ := (occursAt_two t '/' '*' j).mp hocc
  rcases (h j rfl).2 hslash with ⟨_, hne⟩ | ⟨k, rfl, hk⟩
  · exact hne hstar
  · rcases hbehind with hlt | hne
    · omega
    · exact hne hk

theorem blockEnd?_of_opens {t : Text} {i stop : Nat} (hb : OpensBlock t i)
    (hstop : Through (ClosesBlock t) (i + 2) 2 t.size stop) : blockEnd? t i = some (stop - 1) := by
  have hbody : blockBody? t i = some (i + 2) := by
    rw [blockBody?, if_pos ((occursAt_two t '/' '*' i).mpr hb)]
  rw [blockEnd?, hbody, hstop.unique (through_block t (i + 2)), Option.map_some]
  cases t.find? ['*', '/'] (i + 2) with
  | none => rfl
  | some close => rfl

theorem Fresh.blockEnd?_eq_none {t : Text} {i : Nat} (h : Fresh t i) (hb : ¬ OpensBlock t i) :
    blockEnd? t i = none := by
  rw [blockEnd?, h.blockBody?_eq_none hb, Option.map_none]

theorem stringEnd?_of_opens {t : Text} {i stop : Nat} {quote : Char} (ho : OpensString t i quote)
    (hstop : Through (ClosesString t quote) (i + 1) 1 t.size stop) :
    stringEnd? t i = some (stop - 1) := by
  have hquote : isQuote quote = true := by rcases ho.2 with rfl | rfl <;> rfl
  rw [stringEnd?, ho.1, hstop.unique (through_string t quote (i + 1))]
  simp only [hquote, if_true]
  cases firstBetween (fun j => t[j]? == some quote && !isEscaped t j) (i + 1) t.size with
  | none => rfl
  | some close => rfl

theorem stringEnd?_eq_none {t : Text} {i : Nat} (h : ∀ quote, ¬ OpensString t i quote) :
    stringEnd? t i = none := by
  unfold stringEnd?
  split
  · rfl
  · rename_i quote hq
    rw [if_neg]
    intro hquote
    simp only [isQuote, Bool.or_eq_true, beq_iff_eq] at hquote
    exact h quote ⟨hq, hquote⟩

theorem occursAt_chars (t : Text) (m : Marker) (i : Nat) :
    t.occursAt m.chars i = true ↔ OpensLine t i m := by
  cases m with
  | dashes => exact occursAt_two t '-' '-' i
  | slashes => exact occursAt_two t '/' '/' i
  | hash => exact occursAt_one t '#' i

theorem marker?_of_opens {t : Text} {i : Nat} {m : Marker} (h : OpensLine t i m) :
    marker? t i = some m := by
  cases hm : marker? t i with
  | some n =>
    have hn : t.occursAt n.chars i = true := by simpa using List.find?_some hm
    rw [((occursAt_chars t n i).mp hn).unique h]
  | none =>
    have := List.find?_eq_none.mp hm m (by cases m <;> simp)
    exact absurd ((occursAt_chars t m i).mpr h) this

theorem marker?_eq_none {t : Text} {i : Nat} (h : ∀ m, ¬ OpensLine t i m) : marker? t i = none := by
  rw [marker?, List.find?_eq_none]
  intro m _ hm
  exact h m ((occursAt_chars t m i).mp hm)

/-- Only the start of a marker opens a line comment. -/
theorem Fresh.onMarker_eq_false {t : Text} {i : Nat} (h : Fresh t i) (hl : ∀ m, ¬ OpensLine t i m) :
    onMarker t i = false := by
  rw [onMarker, marker?_eq_none hl, Bool.eq_false_iff]
  intro hsecond
  simp only [Option.isSome_none, Bool.false_or, Bool.and_eq_true, Bool.or_eq_true,
    decide_eq_true_eq, Bool.not_eq_true'] at hsecond
  obtain ⟨⟨hpos, hocc⟩, hbehind⟩ := hsecond
  obtain ⟨j, rfl⟩ : ∃ j, i = j + 1 := ⟨i - 1, by omega⟩
  rcases hocc with hocc | hocc
  · obtain ⟨hdash, hdash'⟩ := (occursAt_two t '-' '-' j).mp hocc
    exact (h j rfl).1 hdash hdash'
  · obtain ⟨hslash, hslash'⟩ := (occursAt_two t '/' '/' j).mp hocc
    rcases (h j rfl).2 hslash with ⟨hne, _⟩ | ⟨k, rfl, hk⟩
    · exact hne hslash'
    · rcases hbehind with hlt | hclose
      · omega
      · have : t.occursAt ['*', '/'] k = true := (occursAt_two t '*' '/' k).mpr ⟨hk, hslash⟩
        rw [show k + 1 + 1 - 2 = k from rfl, this] at hclose
        cases hclose

/-! ## Readings -/

/-- A segment as the piece that a reading meets. -/
def Segment.piece : Segment → Piece
  | block start stop => .comment start (stop - 1)
  | line start _ stop => .comment start stop
  | string start stop => .string start (stop - 1)
  | code index => .code index

theorem SegmentAt.pieceAt_eq {t : Text} {d : Char} {i : Nat} (hfresh : Fresh t i) {seg : Segment}
    (h : SegmentAt t d i seg) : pieceAt t [d] i = seg.piece := by
  cases h with
  | block hb hstop =>
    rw [pieceAt, commentEnd?, blockEnd?_of_opens hb hstop]
    rfl
  | line hl hstop =>
    have hblock := hfresh.blockEnd?_eq_none fun hb => hb.not_line _ hl
    rw [pieceAt, commentEnd?, hblock, onMarker, marker?_of_opens hl,
      hstop.unique (through_line t d i)]
    rfl
  | string hs hstop =>
    have hblock := hfresh.blockEnd?_eq_none fun hb => hb.not_string _ hs
    have hmarker := hfresh.onMarker_eq_false fun m hl => hl.not_string _ hs
    rw [pieceAt, commentEnd?, hblock, hmarker, stringEnd?_of_opens hs hstop]
    rfl
  | code hb hl hs =>
    rw [pieceAt, commentEnd?, hfresh.blockEnd?_eq_none hb, hfresh.onMarker_eq_false hl,
      stringEnd?_eq_none hs]
    rfl

theorem SegmentAt.lineCommentStep_eq {t : Text} {d : Char} {i : Nat} (hfresh : Fresh t i)
    {seg : Segment} (h : SegmentAt t d i seg) :
    lineCommentStep t [d] i = (seg.lineComment?, seg.piece.next) := by
  cases h with
  | block hb hstop =>
    rw [lineCommentStep, blockEnd?_of_opens hb hstop]
    rfl
  | line hl hstop =>
    have hblock := hfresh.blockEnd?_eq_none fun hb => hb.not_line _ hl
    rw [lineCommentStep, hblock, stringEnd?_eq_none hl.not_string, marker?_of_opens hl,
      hstop.unique (through_line t d i)]
    rfl
  | string hs hstop =>
    have hblock := hfresh.blockEnd?_eq_none fun hb => hb.not_string _ hs
    rw [lineCommentStep, hblock, stringEnd?_of_opens hs hstop]
    rfl
  | code hb hl hs =>
    rw [lineCommentStep, hfresh.blockEnd?_eq_none hb, stringEnd?_eq_none hs, marker?_eq_none hl]
    rfl

/-- Readings go on where the next segment starts; only after a line comment that no delimiter ends
do they go on past the text instead of at its end. -/
theorem SegmentAt.next_piece {t : Text} {d : Char} {i : Nat} (hi : i < t.size) {seg : Segment}
    (h : SegmentAt t d i seg) :
    seg.piece.next = seg.next t ∨ t.size ≤ seg.next t ∧ t.size ≤ seg.piece.next := by
  have hlt := h.lt_next hi
  cases h with
  | block _ _ =>
    simp only [Segment.next] at hlt
    simp only [Segment.piece, Piece.next, Segment.next]
    omega
  | line _ _ =>
    simp only [Segment.piece, Piece.next, Segment.next]
    omega
  | string _ _ =>
    simp only [Segment.next] at hlt
    simp only [Segment.piece, Piece.next, Segment.next]
    omega
  | code _ _ _ => exact Or.inl rfl

theorem piecesFrom_of_le {t : Text} {delimiter : List Char} {i : Nat} (h : t.size ≤ i) :
    piecesFrom t delimiter i = [] := by
  rw [piecesFrom, if_neg (by omega)]

theorem lineCommentsFrom_of_le {t : Text} {delimiter : List Char} {i : Nat} (h : t.size ≤ i) :
    lineCommentsFrom t delimiter i = [] := by
  rw [lineCommentsFrom, dif_neg (by omega)]

/-- A reading that finds nothing past the text goes on alike from the end of a segment and of its
piece. -/
theorem SegmentAt.read_next {t : Text} {d : Char} {i : Nat} (hi : i < t.size) {seg : Segment}
    (h : SegmentAt t d i seg) {α : Type} {read : Nat → List α}
    (hread : ∀ j, t.size ≤ j → read j = []) :
    read seg.piece.next = read (seg.next t) := by
  rcases h.next_piece hi with heq | ⟨h1, h2⟩
  · rw [heq]
  · rw [hread _ h1, hread _ h2]

theorem Segments.piecesFrom_eq {t : Text} {d : Char} (h1 : d ≠ '-') (h2 : d ≠ '/') {i : Nat}
    {segs : List Segment} (h : Segments t d i segs) (hfresh : Fresh t i) :
    piecesFrom t [d] i = segs.map Segment.piece := by
  induction h with
  | done hle => exact piecesFrom_of_le hle
  | step hlt hseg _ ih =>
    rw [piecesFrom, if_pos hlt]
    simp only [hseg.pieceAt_eq hfresh, List.map_cons]
    rw [hseg.read_next hlt fun _ => piecesFrom_of_le, ih (hseg.fresh_next h1 h2)]

theorem Segments.lineCommentsFrom_eq {t : Text} {d : Char} (h1 : d ≠ '-') (h2 : d ≠ '/') {i : Nat}
    {segs : List Segment} (h : Segments t d i segs) (hfresh : Fresh t i) :
    lineCommentsFrom t [d] i = segs.filterMap Segment.lineComment? := by
  induction h with
  | done hle => exact lineCommentsFrom_of_le hle
  | @step i seg rest hlt hseg _ ih =>
    rw [lineCommentsFrom, dif_pos hlt]
    simp only [hseg.lineCommentStep_eq hfresh]
    rw [hseg.read_next hlt fun _ => lineCommentsFrom_of_le, ih (hseg.fresh_next h1 h2)]
    cases hc : seg.lineComment? with
    | none => simp [hc]
    | some c => simp [hc]

theorem Segments.code_eq {t : Text} {d : Char} (h1 : d ≠ '-') (h2 : d ≠ '/') {segs : List Segment}
    (h : Segments t d 0 segs) : code t [d] = segs.filterMap Segment.codeIndex? := by
  rw [code, pieces, h.piecesFrom_eq h1 h2 (fresh_zero t), List.filterMap_map]
  congr 1
  funext seg
  cases seg <;> rfl

/-! ## Delimiters that begin an opener

A delimiter that is itself half of a marker ends a doubled marker at its first character. The second
one is then code, but the probe takes it for the end of the marker. -/

/-- A marker of two equal characters. -/
def doubled (d : Char) : Text := #[d, d]

theorem segments_doubled {d : Char} {m : Marker} (hm : OpensLine (doubled d) 0 m) (hash : d ≠ '#')
    (h1 : d ≠ '\'') (h2 : d ≠ '"') : Segments (doubled d) d 0 [.line 0 m 0, .code 1] := by
  have hline : Through (fun j => (doubled d)[j]? = some d) 0 0 (doubled d).size 0 :=
    Or.inl ⟨0, Nat.le_refl _, rfl, fun j _ hj => by omega, rfl⟩
  have hcode : SegmentAt (doubled d) d 1 (.code 1) := by
    refine .code ?_ ?_ ?_
    · simp [OpensBlock, doubled]
    · intro m
      cases m <;> simp [OpensLine, doubled, hash]
    · rintro quote ⟨hq, rfl | rfl⟩
      · exact h1 (by simpa [doubled] using hq)
      · exact h2 (by simpa [doubled] using hq)
  exact .step (by simp [doubled]) (.line hm hline) (.step (by simp [doubled, Segment.next]) hcode
    (.done (Nat.le_refl _)))

theorem code_doubled {d : Char} (h0 : pieceAt (doubled d) [d] 0 = .comment 0 0)
    (h1 : pieceAt (doubled d) [d] 1 = .comment 1 1) : code (doubled d) [d] = [] := by
  have hfrom : piecesFrom (doubled d) [d] 0 = [.comment 0 0, .comment 1 1] := by
    rw [piecesFrom, if_pos (by simp [doubled])]
    simp only [h0, Piece.next]
    rw [piecesFrom, if_pos (by simp [doubled])]
    simp only [h1, Piece.next]
    rw [piecesFrom_of_le (by simp [doubled])]
  rw [code, pieces, hfrom]
  rfl

theorem code_doubled_ne {d : Char} (hd : d = '-' ∨ d = '/') :
    ∃ t segs, Segments t d 0 segs ∧ code t [d] ≠ segs.filterMap Segment.codeIndex? := by
  rcases hd with rfl | rfl
  · refine ⟨_, _, segments_doubled (m := .dashes) ⟨rfl, rfl⟩ (by decide) (by decide)
      (by decide), ?_⟩
    rw [code_doubled (by decide) (by decide)]
    decide
  · refine ⟨_, _, segments_doubled (m := .slashes) ⟨rfl, rfl⟩ (by decide) (by decide)
      (by decide), ?_⟩
    rw [code_doubled (by decide) (by decide)]
    decide

/-! ## The settings that choose a delimiter -/

/-- The two delimiters that a comment can begin with are accepted like any other. -/
theorem ofTable_delimiter {d : Char} (hd : d = '-' ∨ d = '/') :
    ∃ s, Settings.ofTable {} [("line_delimiter", .text (String.singleton d))] = .ok s ∧
      s.lineDelimiter = d := by
  apply exists_eq_ok_of_toOption (f := Settings.lineDelimiter)
  rcases hd with rfl | rfl <;> decide +kernel

/-! ## The two readings -/

/-- **Two readings, one segmentation.** Every document has exactly one segmentation. With a
delimiter other than `-` and `/`, the indices of code are those of its segments of code, in
increasing order, and the line comments are those of its segments, in order. The two delimiters left
out are accepted by settings too, and with either one there is a document whose code differs from
that of its segmentation. -/
theorem readings_eq_segments :
    (∀ (t : Text) (d : Char), ∃! segs, Segments t d 0 segs) ∧
    (∀ (t : Text) (d : Char) (segs : List Segment), d ≠ '-' → d ≠ '/' → Segments t d 0 segs →
      code t [d] = segs.filterMap Segment.codeIndex? ∧ (code t [d]).Pairwise (· < ·) ∧
      lineComments t [d] = segs.filterMap Segment.lineComment?) ∧
    ∀ d : Char, d = '-' ∨ d = '/' →
      (∃ s, Settings.ofTable {} [("line_delimiter", .text (String.singleton d))] = .ok s ∧
        s.lineDelimiter = d) ∧
      ∃ t segs, Segments t d 0 segs ∧ code t [d] ≠ segs.filterMap Segment.codeIndex? := by
  refine ⟨existsUnique_segments, ?_, ?_⟩
  · intro t d segs h1 h2 hsegs
    have hcode := hsegs.code_eq h1 h2
    refine ⟨hcode, ?_, hsegs.lineCommentsFrom_eq h1 h2 (fresh_zero t)⟩
    rw [hcode]
    exact hsegs.codeIndex_pairwise
  · intro d hd
    exact ⟨ofTable_delimiter hd, code_doubled_ne hd⟩

/-- A block comment whose closing `/` stands before a `*` opens nothing more. -/
theorem readings_eq_segments_lookBehind :
    code #['/', '*', '*', '/', '*', '#', '\n'] ['\n'] = [4] ∧
      lineComments #['/', '*', '*', '/', '*', '#', '\n'] ['\n'] = [⟨5, .hash, 6⟩] := by
  have hsegs : Segments #['/', '*', '*', '/', '*', '#', '\n'] '\n' 0
      [.block 0 4, .code 4, .line 5 .hash 6] := by
    refine .step (by decide) (.block ⟨rfl, rfl⟩ (Or.inl ⟨2, by decide, ⟨rfl, rfl⟩, ?_, rfl⟩)) ?_
    · intro j _ _
      omega
    refine .step (by decide) (.code ?_ ?_ ?_) ?_
    · simp [OpensBlock, Segment.next]
    · intro m
      cases m <;> simp [OpensLine, Segment.next]
    · rintro quote ⟨hq, rfl | rfl⟩ <;> cases hq
    refine .step (by decide) (.line rfl (Or.inl ⟨6, by decide, rfl, ?_, rfl⟩)) (.done (by decide))
    intro j hj hj'
    obtain rfl : j = 5 := Nat.le_antisymm (Nat.le_of_lt_succ hj') hj
    simp
  obtain ⟨hcode, _, hcomments⟩ := readings_eq_segments.2.1 _ _ _ (by decide) (by decide) hsegs
  exact ⟨hcode, hcomments⟩

end SqlStyle.Scan
