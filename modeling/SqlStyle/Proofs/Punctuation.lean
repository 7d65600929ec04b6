import SqlStyle.Proofs.Exactness
import SqlStyle.Proofs.Offsets.Text
import SqlStyle.Proofs.Scanning

/-! # Semicolons and quotes by the segmentation

The checks of the closing semicolon and of quotes read the document piece by piece. With a delimiter
that begins no opener the pieces are the segments of the document, so both checks can be told by the
segmentation alone: what counts for the semicolon are the characters of strings and of code that is
no space (`Significant`), and what counts for quotes is where strings open. Segments stand one after
the other, so the last significant character stands in the last segment that has one. -/

namespace SqlStyle

namespace Scan

/-- An index of a segment counts for the closing semicolon: comments never do, code does unless it
is a space, and strings always do. -/
def Segment.SignificantAt (t : Text) : Segment → Nat → Prop
  | .code index, q => q = index ∧ ∃ ch, t[index]? = some ch ∧ Text.isSpace ch = false
  | .string start stop, q => start ≤ q ∧ q < stop
  | _, _ => False

/-- An index of the document counts for the closing semicolon. -/
def Significant (t : Text) (segs : List Segment) (q : Nat) :
    Prop := ∃ seg ∈ segs, seg.SignificantAt t q

/-- The document does not end in a semicolon of code: its last significant index is right before `p`
and holds something else. -/
def LacksSemicolonAt (t : Text) (segs : List Segment) (p : Nat) : Prop :=
  ∃ last, Significant t segs last ∧ (∀ q, Significant t segs q → q ≤ last) ∧
    ¬ (.code last ∈ segs ∧ t[last]? = some ';') ∧ p = last + 1

/-- A string of the document opens at `p` with the quote. -/
def OpensWith (quote : Char) (t : Text) (segs : List Segment) (p : Nat) : Prop :=
  ∃ stop, .string p stop ∈ segs ∧ t[p]? = some quote

/-! ## Where significant indices stand -/

theorem SegmentAt.significant_bounds {t : Text} {d : Char} {i : Nat} {seg : Segment}
    (h : SegmentAt t d i seg) {q : Nat} (hq : seg.SignificantAt t q) : i ≤ q ∧ q < seg.next t := by
  cases h with
  | block _ _ => cases hq
  | line _ _ => cases hq
  | string _ _ => exact hq
  | code _ _ _ =>
    obtain ⟨rfl, -⟩ := hq
    exact ⟨Nat.le_refl _, Nat.lt_succ_self _⟩

theorem Segments.le_significant {t : Text} {d : Char} {i : Nat} {segs : List Segment}
    (h : Segments t d i segs) {q : Nat} (hq : Significant t segs q) : i ≤ q := by
  induction h with
  | done _ =>
    obtain ⟨seg, hm, -⟩ := hq
    cases hm
  | @step i seg rest hlt hseg hrest ih =>
    obtain ⟨other, hm, hother⟩ := hq
    rcases List.mem_cons.mp hm with rfl | hm
    · exact (hseg.significant_bounds hother).1
    · have hnext := hseg.lt_next hlt
      have hle := ih ⟨other, hm, hother⟩
      omega

/-! ## The last significant index -/

/-- What is read off segments is their last significant index, with whether it holds a semicolon of
code. -/
def ReadsLast (t : Text) (segs : List Segment) : Option (Nat × Bool) → Prop
  | none => ∀ q, ¬ Significant t segs q
  | some (last, closed) => Significant t segs last ∧ (∀ q, Significant t segs q → q ≤ last) ∧
      (closed = true ↔ .code last ∈ segs ∧ t[last]? = some ';')

theorem significant_singleton {t : Text} {seg : Segment} {q : Nat} :
    Significant t [seg] q ↔ seg.SignificantAt t q := by
  simp [Significant]

theorem significant_cons {t : Text} {seg : Segment} {rest : List Segment} {q : Nat} :
    Significant t (seg :: rest) q ↔ Significant t [seg] q ∨ Significant t rest q := by
  simp [Significant]

/-- What is read off one segment. -/
theorem SegmentAt.readsLast {t : Text} {d : Char} {i : Nat} (hi : i < t.size) {seg : Segment}
    (h : SegmentAt t d i seg) : ReadsLast t [seg] (Check.significant? t seg.piece) := by
  have hnext := h.lt_next hi
  cases h with
  | block _ _ => exact fun q hq => significant_singleton.mp hq
  | line _ _ => exact fun q hq => significant_singleton.mp hq
  | @string quote stop _ _ =>
    simp only [Segment.next] at hnext
    refine ⟨significant_singleton.mpr ⟨by omega, by omega⟩, fun q hq => ?_, by simp⟩
    have hlt := (significant_singleton.mp hq).2
    omega
  | code _ _ _ =>
    have hch : t[i]? = some t[i] := Array.getElem?_eq_getElem hi
    simp only [Segment.piece, Check.significant?, hch, Option.any_some]
    cases hspace : Text.isSpace t[i] with
    | true =>
      intro q hq
      obtain ⟨-, ch, hq, hno⟩ := significant_singleton.mp hq
      rw [hch] at hq
      cases hq
      rw [hspace] at hno
      cases hno
    | false =>
      refine ⟨significant_singleton.mpr ⟨rfl, _, hch, hspace⟩, fun q hq => ?_, by simp [hch]⟩
      exact Nat.le_of_eq (significant_singleton.mp hq).1

theorem getLast?_filterMap_cons {α β : Type} (f : α → Option β) (a : α) (rest : List α) :
    ((a :: rest).filterMap f).getLast? = ((rest.filterMap f).getLast?).or (f a) := by
  cases ha : f a with
  | none => rw [List.filterMap_cons_none ha, Option.or_none]
  | some b =>
    rw [List.filterMap_cons_some ha, List.getLast?_cons]
    cases (rest.filterMap f).getLast? <;> rfl

/-- A later segment decides where it has a significant index, because all of its indices come
later. -/
theorem Segments.readsLast {t : Text} {d : Char} {i : Nat} {segs : List Segment}
    (h : Segments t d i segs) :
    ReadsLast t segs ((segs.map Segment.piece).filterMap (Check.significant? t)).getLast? := by
  induction h with
  | done _ => exact fun q ⟨seg, hm, _⟩ => List.not_mem_nil hm
  | @step i seg rest hlt hseg hrest ih =>
    have hfirst := hseg.readsLast hlt
    have hbefore : ∀ q, Significant t [seg] q → q < seg.next t := fun q hq =>
      (hseg.significant_bounds (significant_singleton.mp hq)).2
    rw [List.map_cons, getLast?_filterMap_cons]
    cases hlast : ((rest.map Segment.piece).filterMap (Check.significant? t)).getLast? with
    | none =>
      rw [hlast] at ih
      have honly : ∀ q, Significant t (seg :: rest) q ↔ Significant t [seg] q := fun q =>
        significant_cons.trans (or_iff_left (ih q))
      rw [Option.none_or]
      cases hfound : Check.significant? t seg.piece with
      | none =>
        rw [hfound] at hfirst
        exact fun q hq => hfirst q ((honly q).mp hq)
      | some found =>
        obtain ⟨last, closed⟩ := found
        rw [hfound] at hfirst
        obtain ⟨hsig, hmax, hclosed⟩ := hfirst
        have hlater : .code last ∉ rest := fun hm =>
          absurd (hrest.le_start _ hm).1 (Nat.not_le_of_lt (hbefore last hsig))
        refine ⟨(honly last).mpr hsig, fun q hq => hmax q ((honly q).mp hq), ?_⟩
        rw [hclosed, List.mem_singleton, List.mem_cons, or_iff_left hlater]
    | some found =>
      obtain ⟨last, closed⟩ := found
      rw [hlast] at ih
      obtain ⟨hsig, hmax, hclosed⟩ := ih
      have hle := hrest.le_significant hsig
      have hnext := hseg.lt_next hlt
      have hne : .code last ≠ seg := by
        rintro rfl
        have : last = i := hseg.start_eq
        omega
      refine ⟨significant_cons.mpr (.inr hsig), fun q hq => ?_, ?_⟩
      · rcases significant_cons.mp hq with hq | hq
        · have := hbefore q hq
          omega
        · exact hmax q hq
      · rw [hclosed, List.mem_cons, or_iff_right hne]

/-- Where a semicolon is missed, by what was read of the last significant index. -/
def missedAt : Option (Nat × Bool) → List Nat
  | some (last, false) => [last + 1]
  | _ => []

theorem ReadsLast.mem_missedAt {t : Text} {segs : List Segment} {found : Option (Nat × Bool)}
    (h : ReadsLast t segs found) (p : Nat) : p ∈ missedAt found ↔ LacksSemicolonAt t segs p := by
  match found with
  | none => exact iff_of_false List.not_mem_nil fun ⟨last, hsig, _⟩ => h last hsig
  | some (last, closed) =>
    obtain ⟨hsig, hmax, hclosed⟩ := h
    have hunique : ∀ other, Significant t segs other → (∀ q, Significant t segs q → q ≤ other) →
        other = last := fun other hother hlater =>
          Nat.le_antisymm (hmax other hother) (hlater last hsig)
    cases closed with
    | true =>
      refine iff_of_false List.not_mem_nil ?_
      rintro ⟨other, hother, hlater, hopen, -⟩
      obtain rfl := hunique other hother hlater
      exact hopen (hclosed.mp rfl)
    | false =>
      rw [missedAt, List.mem_singleton]
      constructor
      · intro hp
        exact ⟨last, hsig, hmax, fun hsemi => Bool.false_ne_true (hclosed.mpr hsemi), hp⟩
      · rintro ⟨other, hother, hlater, -, hp⟩
        rw [hp, hunique other hother hlater]

/-- A document has one last significant index. -/
theorem LacksSemicolonAt.unique {t : Text} {segs : List Segment} {p q : Nat}
    (hp : LacksSemicolonAt t segs p) (hq : LacksSemicolonAt t segs q) : p = q := by
  obtain ⟨last, hsig, hmax, -, rfl⟩ := hp
  obtain ⟨other, hother, hlater, -, rfl⟩ := hq
  rw [Nat.le_antisymm (hlater last hsig) (hmax other hother)]

/-! ## Where strings open -/

/-- Where a segment opens, if it is a string that the quote opens. -/
def Segment.opensWith? (quote : Char) (t : Text) : Segment → Option Nat
  | .string start _ => if t[start]? == some quote then some start else none
  | _ => none

theorem Segment.opensWith?_eq_some {quote : Char} {t : Text} {seg : Segment} {p : Nat} :
    seg.opensWith? quote t = some p ↔ (∃ stop, seg = .string p stop) ∧ t[p]? = some quote := by
  cases seg with
  | string start stop =>
    simp only [opensWith?, Option.ite_none_right_eq_some, beq_iff_eq, Option.some.injEq]
    constructor
    · rintro ⟨hq, rfl⟩
      exact ⟨⟨stop, rfl⟩, hq⟩
    · rintro ⟨⟨_, heq⟩, hq⟩
      cases heq
      exact ⟨hq, rfl⟩
  | block _ _ => simp [opensWith?]
  | line _ _ _ => simp [opensWith?]
  | code _ => simp [opensWith?]

theorem mem_opensWith? {quote : Char} {t : Text} {segs : List Segment} (p : Nat) :
    p ∈ segs.filterMap (Segment.opensWith? quote t) ↔ OpensWith quote t segs p := by
  rw [List.mem_filterMap]
  constructor
  · rintro ⟨seg, hm, hseg⟩
    obtain ⟨⟨stop, rfl⟩, hq⟩ := Segment.opensWith?_eq_some.mp hseg
    exact ⟨stop, hm, hq⟩
  · rintro ⟨stop, hm, hq⟩
    exact ⟨_, hm, Segment.opensWith?_eq_some.mpr ⟨⟨stop, rfl⟩, hq⟩⟩

theorem Segments.opensWith?_pairwise {t : Text} {d : Char} {i : Nat} {segs : List Segment}
    (h : Segments t d i segs) (quote : Char) :
    (segs.filterMap (Segment.opensWith? quote t)).Pairwise (· < ·) := by
  refine h.filterMap_pairwise ?_
  intro seg p hp
  obtain ⟨⟨stop, rfl⟩, -⟩ := Segment.opensWith?_eq_some.mp hp
  rfl

end Scan

namespace Check

open Scan

section

variable {c : Context} {s : Source} {d : Char} {segs : List Segment} (hd : s.delimiter = [d])
    (h1 : d ≠ '-')
  (h2 : d ≠ '/') (hsegs : Segments s.text d 0 segs)

include hd h1 h2 hsegs

/-- The pieces that a check reads are the segments. -/
theorem pieces_eq_segments : pieces s.text s.delimiter = segs.map Segment.piece := by
  rw [hd]
  exact hsegs.piecesFrom_eq h1 h2 (fresh_zero s.text)

theorem statementSemicolon_reportsExactly
    (hactive : ∀ p, c.ledger.isActive .statementSemicolon p = true) :
    statementSemicolon.ReportsExactly c s (LacksSemicolonAt s.text segs) := by
  have hreads := hsegs.readsLast
  rw [← pieces_eq_segments hd h1 h2 hsegs] at hreads
  refine ofText_reportsExactly hactive ?_ ?_ ?_ hreads.mem_missedAt
  · generalize ((pieces s.text s.delimiter).filterMap (significant? s.text)).getLast? = found
    match found with
    | none => rfl
    | some (_, true) => rfl
    | some (_, false) => rfl
  · unfold missedAt
    split <;> simp
  · unfold missedAt
    split
    · rename_i last hlast
      obtain ⟨piece, hm, hpiece⟩ := List.mem_filterMap.mp (List.mem_of_getLast? hlast)
      rw [List.forall_mem_singleton]
      exact significant?_lt (piecesFrom_inside _ _ _ piece hm) hpiece
    · simp

theorem quoteStyle_reportsExactly (hactive : ∀ p, c.ledger.isActive .quoteStyle p = true) :
    quoteStyle.ReportsExactly c s
        (OpensWith (if c.settings.singleQuote then '"' else '\'') s.text segs) := by
  refine ofText_reportsExactly hactive ?_ (hsegs.opensWith?_pairwise _) ?_ mem_opensWith?
  · simp only [pieces_eq_segments hd h1 h2 hsegs, List.filterMap_map, List.map_filterMap]
    congr 1
    funext seg
    cases seg with
    | string start stop =>
      simp only [Function.comp_apply, Segment.piece, Segment.opensWith?, apply_ite (Option.map _)]
      rfl
    | block _ _ => rfl
    | line _ _ _ => rfl
    | code _ => rfl
  · intro p hp
    obtain ⟨stop, hm, -⟩ := (mem_opensWith? p).mp hp
    exact Nat.le_of_lt (hsegs.le_start _ hm).2

end

/-- **Semicolons and quotes follow the segmentation.** Every document has one segmentation, and with
a one-character delimiter other than `-` and `/`, where both rules are active everywhere, two checks
are told by it. The one misses the closing semicolon right after the last significant index, if
there is one and it holds no semicolon of code, and so reports at most once. The other reports
exactly where strings open with the quote that is not the preferred one. -/
theorem punctuation_follows_segments (c : Context) (s : Source) (d : Char) (hd : s.delimiter = [d])
    (h1 : d ≠ '-') (h2 : d ≠ '/') (hsemicolon : ∀ p, c.ledger.isActive .statementSemicolon p = true)
    (hquote : ∀ p, c.ledger.isActive .quoteStyle p = true) :
    (∃! segs, Segments s.text d 0 segs) ∧
    ∀ segs, Segments s.text d 0 segs →
      statementSemicolon.ReportsExactly c s (LacksSemicolonAt s.text segs) ∧
      (∀ session found, (statementSemicolon.run c s session).1 = .ok found →
        found.diagnostics.length ≤ 1) ∧
      quoteStyle.ReportsExactly c s
          (OpensWith (if c.settings.singleQuote then '"' else '\'') s.text segs) := by
  refine ⟨existsUnique_segments s.text d, ?_⟩
  intro segs hsegs
  have hexact := statementSemicolon_reportsExactly hd h1 h2 hsegs hsemicolon
  refine ⟨hexact, ?_, quoteStyle_reportsExactly hd h1 h2 hsegs hquote⟩
  intro session found hrun
  exact (hexact.exact session found hrun).length_le_one fun p q hp hq => hp.unique hq

/-- A string that holds a semicolon, before a comment that holds a quote: the semicolon is missed
after the string, and the only quote that counts is the one that opens it. -/
theorem punctuation_follows_segments_quotedSemicolon :
    let s : Source := { text := #['\'', ';', '\'', '#', '"'], delimiter := ['\n'] }
    let c : Context := ⟨{ singleQuote := false }, Ledger.start [], Toolkit.empty⟩
    ∃ semicolons quotes, (statementSemicolon.run c s {}).1 = .ok semicolons ∧
      (quoteStyle.run c s {}).1 = .ok quotes ∧ (∃ a ∈ semicolons.diagnostics, a.offset = 3) ∧
      ∃ b ∈ quotes.diagnostics, b.offset = 0 := by
  intro s c
  have hs : s.Valid := fun width h => by cases h
  have hsegs : Segments s.text '\n' 0 [.string 0 3, .line 3 .hash 5] := by
    refine .step (by decide) (.string ⟨rfl, .inl rfl⟩ (.inl ⟨2, by decide, ?_, ?_, rfl⟩)) ?_
    · refine ⟨rfl, fun n hn => ?_⟩
      rw [hn.unique (backslashRun_runBefore _ 2)]
      rfl
    · intro j hj hj' hclose
      obtain rfl : j = 1 := Nat.le_antisymm (Nat.le_of_lt_succ hj') hj
      cases hclose.1
    refine .step (by decide) (.line rfl (.inr ⟨?_, rfl⟩)) (.done (by decide))
    intro j hj hdelim
    have hlt := lt_size_of_getElem? hdelim
    obtain rfl | rfl : j = 3 ∨ j = 4 := by
      simp only [s, List.size_toArray, List.length_cons, List.length_nil] at hlt
      simp only [Segment.next] at hj
      omega
    · cases hdelim
    · cases hdelim
  obtain ⟨-, hall⟩ := punctuation_follows_segments c s '\n' rfl (by decide) (by decide)
    (fun _ => rfl)
    (fun _ => rfl)
  obtain ⟨hsemicolon, -, hquote⟩ := hall _ hsegs
  obtain ⟨semicolons, hsemicolonRun⟩ := hsemicolon.reports hs {}
  obtain ⟨quotes, hquoteRun⟩ := hquote.reports hs {}
  refine ⟨semicolons, quotes, hsemicolonRun, hquoteRun, ?_, ?_⟩
  · refine ((hsemicolon.exact _ _ hsemicolonRun).offsets 3).mpr ⟨2, ?_, ?_, ?_, rfl⟩
    · exact ⟨_, List.mem_cons_self, by decide, by decide⟩
    · rintro q ⟨seg, hm, hq⟩
      rcases List.mem_pair.mp hm with rfl | rfl
      · exact Nat.le_of_lt_succ hq.2
      · cases hq
    · rintro ⟨hm, -⟩
      simp at hm
  · exact ((hquote.exact _ _ hquoteRun).offsets 0).mpr ⟨3, List.mem_cons_self, rfl⟩

end Check

end SqlStyle
