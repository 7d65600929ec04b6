import SqlStyle.Proofs.Escapes

/-! # Probing an opener from either of its characters

A reading that stops inside an opener of two characters goes on from the second one, and the probes
are made to answer there what they answer at the first. They do unless the first character may close
a block comment (`Behind`): a `/*` is then not seen from its `*` at all, and a `//` only if a third
`/` follows. A `//` before a `*` is left out, because its second character opens a block comment. -/

namespace SqlStyle.Scan

/-- A `*` stands directly before an index. -/
def Behind (t : Text) (p : Nat) : Prop := 1 ≤ p ∧ t[p - 1]? = some '*'

instance (t : Text) (p : Nat) : Decidable (Behind t p) := inferInstanceAs (Decidable (_ ∧ _))

/-- An opener of two characters starts at an index. -/
def OpensTwo (t : Text) (p : Nat) : Prop :=
  OpensBlock t p ∨ OpensLine t p .dashes ∨ OpensLine t p .slashes

/-- A probe finds something that ends at the same place from an index and from the next one. -/
def SeenAlike (probe : Nat → Option Nat) (p : Nat) :
    Prop := ∃ e, probe p = some e ∧ probe (p + 1) = some e

/-! ## Block comments -/

theorem blockBody?_of_opens {t : Text} {p : Nat} (h : OpensBlock t p) :
    blockBody? t p = some (p + 2) := by
  rw [blockBody?, if_pos ((occursAt_two t '/' '*' p).mpr h)]

/-- From its second character an opener is seen unless its first one may close a comment. -/
theorem blockBody?_second {t : Text} {p : Nat} (h : OpensBlock t p) :
    blockBody? t (p + 1) = if Behind t p then none else some (p + 2) := by
  have hfirst : ¬ t.occursAt ['/', '*'] (p + 1) = true := by
    rw [occursAt_two, h.2]
    simp
  have hsecond : t.occursAt ['/', '*'] p = true := (occursAt_two t '/' '*' p).mpr h
  rw [blockBody?, if_neg hfirst, Nat.add_sub_cancel, hsecond]
  cases p with
  | zero => simp [Behind]
  | succ k => by_cases hstar : t[k]? = some '*' <;> simp [Behind, hstar]

theorem blockBody?_eq_none {t : Text} {i : Nat} (h : ¬ OpensBlock t i)
    (hbefore : ∀ k, i = k + 1 → ¬ OpensBlock t k) : blockBody? t i = none := by
  rw [blockBody?, if_neg (by rwa [occursAt_two]), if_neg]
  intro hsecond
  simp only [Bool.and_eq_true, decide_eq_true_eq] at hsecond
  obtain ⟨⟨hpos, hocc⟩, -⟩ := hsecond
  exact hbefore (i - 1) (by omega) ((occursAt_two t '/' '*' (i - 1)).mp hocc)

theorem blockEnd?_seenAlike_iff {t : Text} {p : Nat} (h : OpensBlock t p) :
    SeenAlike (blockEnd? t) p ↔ ¬ Behind t p := by
  unfold SeenAlike blockEnd?
  rw [blockBody?_of_opens h, blockBody?_second h]
  by_cases hbehind : Behind t p
  · simp [hbehind]
  · simp [hbehind]

/-! ## Line comments -/

theorem isSome_marker?_iff {t : Text} {i : Nat} :
    (marker? t i).isSome = true ↔ ∃ m, OpensLine t i m := by
  constructor
  · intro h
    obtain ⟨m, hm⟩ := Option.isSome_iff_exists.mp h
    have hocc : t.occursAt m.chars i = true := by simpa using List.find?_some hm
    exact ⟨m, (occursAt_chars t m i).mp hocc⟩
  · rintro ⟨m, hm⟩
    rw [marker?_of_opens hm]
    rfl

/-- A marker of two characters is one of them twice. -/
theorem OpensLine.doubled {t : Text} {p : Nat} {m : Marker} (h : OpensLine t p m) (hm : m ≠ .hash) :
    ∃ c, (c = '-' ∨ c = '/') ∧ t[p]? = some c ∧ t[p + 1]? = some c := by
  cases m with
  | dashes => exact ⟨'-', .inl rfl, h⟩
  | slashes => exact ⟨'/', .inr rfl, h⟩
  | hash => exact absurd rfl hm

theorem OpensLine.eq_slashes {t : Text} {i : Nat} {m : Marker} (h : OpensLine t i m)
    (hslash : t[i]? = some '/') :
    m = .slashes := by
  cases m with
  | dashes => exact absurd (h.1.symm.trans hslash) (by decide)
  | slashes => rfl
  | hash => exact absurd (Eq.trans (Eq.symm h) hslash) (by decide)

/-- From its second character a marker is seen if another one starts there, and else unless its
first one may close a comment, which only a `/` can. -/
theorem onMarker_second {t : Text} {p : Nat} {m : Marker} (h : OpensLine t p m) (hm : m ≠ .hash) :
    onMarker t (p + 1) = true ↔ (∃ n, OpensLine t (p + 1) n) ∨ ¬ (m = .slashes ∧ Behind t p) := by
  have hmarker : (t.occursAt ['-', '-'] p || t.occursAt ['/', '/'] p) = true := by
    rw [Bool.or_eq_true, occursAt_two, occursAt_two]
    cases m with
    | dashes => exact .inl h
    | slashes => exact .inr h
    | hash => exact absurd rfl hm
  have hcloses : (decide (p + 1 < 2) || !t.occursAt ['*', '/'] (p + 1 - 2)) = true ↔
      ¬ (m = .slashes ∧ Behind t p) := by
    cases p with
    | zero => simp [Behind]
    | succ k =>
      have hclosed : t.occursAt ['*', '/'] k = true ↔ m = .slashes ∧ Behind t (k + 1) := by
        rw [occursAt_two]
        cases m with
        | dashes => simp [h.1]
        | slashes => simp [h.1, Behind]
        | hash => exact absurd rfl hm
      have hpast : decide (k + 1 + 1 < 2) = false := decide_eq_false (by omega)
      rw [show k + 1 + 1 - 2 = k from rfl, hpast, Bool.false_or, Bool.not_eq_true',
        ← Bool.not_eq_true, hclosed]
  rw [onMarker, Bool.or_eq_true, isSome_marker?_iff, Nat.add_sub_cancel, hmarker, Bool.and_true,
    Bool.and_eq_true, hcloses]
  simp

/-- The end of a line is the same from the next index on, except from the delimiter itself. -/
theorem lineEnd_succ {t : Text} {d : Char} {p : Nat} (hlt : p < t.size) (hne : t[p]? ≠ some d) :
    lineEnd t [d] (p + 1) = lineEnd t [d] p := by
  have hno : ¬ t.occursAt [d] p = true := by rwa [occursAt_one]
  rw [lineEnd, lineEnd, Text.find?, Text.find?, firstBetween_of_lt _ (Nat.lt_succ_of_lt hlt),
    if_neg hno]

/-- Neither character of a marker is taken for one of a block comment. -/
theorem OpensLine.blockEnd?_eq_none {t : Text} {p : Nat} {m : Marker} (h : OpensLine t p m)
    (hm : m ≠ .hash) (hahead : ¬ OpensBlock t (p + 1)) :
    blockEnd? t p = none ∧ blockEnd? t (p + 1) = none := by
  obtain ⟨c, hc, hp, -⟩ := h.doubled hm
  have hfirst : ¬ OpensBlock t p := fun hb => hb.not_line m h
  have hbefore : ∀ k, p = k + 1 → ¬ OpensBlock t k := by
    rintro k rfl hb
    rw [hb.2] at hp
    rcases hc with rfl | rfl <;> simp at hp
  have hsecond : ∀ k, p + 1 = k + 1 → ¬ OpensBlock t k := by
    intro k hk
    rwa [← Nat.succ.inj hk]
  rw [blockEnd?, blockEnd?, blockBody?_eq_none hfirst hbefore, blockBody?_eq_none hahead hsecond]
  exact ⟨rfl, rfl⟩

theorem OpensLine.seenAlike_iff {t : Text} {d : Char} (h1 : d ≠ '-') (h2 : d ≠ '/')
    {p : Nat} {m : Marker} (h : OpensLine t p m) (hm : m ≠ .hash)
    (hahead : ¬ OpensBlock t (p + 1)) :
    SeenAlike (commentEnd? t [d]) p ↔ onMarker t (p + 1) = true := by
  obtain ⟨c, hc, hp, -⟩ := h.doubled hm
  have hdelimiter : t[p]? ≠ some d := by
    rw [hp]
    rintro heq
    cases heq
    rcases hc with rfl | rfl
    · exact h1 rfl
    · exact h2 rfl
  obtain ⟨hfirst, hsecond⟩ := h.blockEnd?_eq_none hm hahead
  have honMarker : onMarker t p = true := by
    rw [onMarker, marker?_of_opens h]
    rfl
  unfold SeenAlike commentEnd?
  rw [hfirst, hsecond, honMarker, lineEnd_succ (lt_size_of_getElem? hp) hdelimiter]
  simp

/-! ## Both kinds -/

/-- The `*` of a `/*` is on no marker. -/
theorem OpensBlock.onMarker_second {t : Text} {p : Nat} (h : OpensBlock t p) :
    onMarker t (p + 1) = false := by
  have hmarker : marker? t (p + 1) = none := by
    refine marker?_eq_none fun m hm => ?_
    cases m with
    | dashes => exact absurd (hm.1.symm.trans h.2) (by decide)
    | slashes => exact absurd (hm.1.symm.trans h.2) (by decide)
    | hash => exact absurd (Eq.trans (Eq.symm hm) h.2) (by decide)
  have hbefore : ¬ (t.occursAt ['-', '-'] p || t.occursAt ['/', '/'] p) = true := by
    rw [Bool.or_eq_true, occursAt_two, occursAt_two, h.2]
    simp
  rw [onMarker, hmarker, Nat.add_sub_cancel, Bool.eq_false_iff.mpr hbefore]
  rfl

theorem OpensBlock.seenAlike_iff {t : Text} {p : Nat} (h : OpensBlock t p) (delimiter : List Char) :
    SeenAlike (commentEnd? t delimiter) p ↔ ¬ Behind t p := by
  constructor
  · rintro ⟨e, -, hsecond⟩ hbehind
    rw [commentEnd?, blockEnd?, blockBody?_second h, if_pos hbehind, h.onMarker_second] at hsecond
    cases hsecond
  · intro hbehind
    obtain ⟨e, hfirst, hsecond⟩ := (blockEnd?_seenAlike_iff h).mpr hbehind
    exact ⟨e, by rw [commentEnd?, hfirst], by rw [commentEnd?, hsecond]⟩

/-- **An opener is the same from its second character.** With a delimiter other than `-` and `/`, a
probe for comments finds the same from both characters of an opener if no `*` stands before it and
it is not a `//` that a `*` follows; for a block comment so does the probe that leaves line comments
out. With a `*` before it, it does just for `--` and for a `//` that a third `/` follows. -/
theorem opener_seen_alike (t : Text) (d : Char) (h1 : d ≠ '-') (h2 : d ≠ '/') (p : Nat)
    (hopens : OpensTwo t p) (hahead : ¬ (OpensLine t p .slashes ∧ t[p + 2]? = some '*')) :
    (¬ Behind t p → SeenAlike (commentEnd? t [d]) p) ∧
    (OpensBlock t p → ¬ Behind t p → SeenAlike (blockEnd? t) p) ∧
    (Behind t p → (SeenAlike (commentEnd? t [d]) p ↔
      OpensLine t p .dashes ∨ OpensLine t p .slashes ∧ OpensLine t (p + 1) .slashes)) := by
  rcases hopens with hblock | hdashes | hslashes
  · have hno : ¬ (OpensLine t p .dashes ∨ OpensLine t p .slashes ∧ OpensLine t (p + 1) .slashes) :=
      fun h => h.elim (hblock.not_line _) fun h => hblock.not_line _ h.1
    exact ⟨(hblock.seenAlike_iff [d]).mpr, fun _ => (blockEnd?_seenAlike_iff hblock).mpr,
      fun hbehind => iff_of_false (fun halike => (hblock.seenAlike_iff [d]).mp halike hbehind) hno⟩
  · have hnext : ¬ OpensBlock t (p + 1) := fun hb => absurd (hdashes.2.symm.trans hb.1) (by decide)
    have halike : SeenAlike (commentEnd? t [d]) p := by
      rw [hdashes.seenAlike_iff h1 h2 (by decide) hnext, onMarker_second hdashes (by decide)]
      exact .inr fun h => by cases h.1
    exact ⟨fun _ => halike, fun hb => absurd hdashes (hb.not_line _), fun _ =>
      iff_of_true halike (.inl hdashes)⟩
  · have hnext : ¬ OpensBlock t (p + 1) := fun hb => hahead ⟨hslashes, hb.2⟩
    have halike := hslashes.seenAlike_iff h1 h2 (by decide) hnext
    rw [onMarker_second hslashes (by decide)] at halike
    refine ⟨fun hbehind => halike.mpr (.inr fun h => hbehind h.2), fun hb => absurd hslashes
      (hb.not_line _), ?_⟩
    intro hbehind
    rw [halike]
    constructor
    · rintro (⟨n, hn⟩ | hfree)
      · obtain rfl := hn.eq_slashes hslashes.2
        exact .inr ⟨hslashes, hn⟩
      · exact absurd ⟨rfl, hbehind⟩ hfree
    · rintro (hdashes | ⟨-, hnext⟩)
      · exact absurd (hdashes.unique hslashes) (by decide)
      · exact .inl ⟨_, hnext⟩

/-- A `*` that belongs to two openers at once: the comment `/*/*/` is found from both of its first
characters, and ends where the second `*/` does. -/
theorem opener_seen_alike_overlapping :
    let t : Text := #['/', '*', '/', '*', '/']
    OpensTwo t 0 ∧ ¬ Behind t 0 ∧ commentEnd? t ['\n'] 0 = some 4 ∧
        commentEnd? t ['\n'] 1 = some 4 := by
  intro t
  have hopens : OpensBlock t 0 := ⟨rfl, rfl⟩
  have hbehind : ¬ Behind t 0 := by decide
  have hfirst : commentEnd? t ['\n'] 0 = some 4 := by decide
  obtain ⟨halike, -, -⟩ := opener_seen_alike t '\n' (by decide) (by decide) 0 (.inl hopens)
    fun h => hopens.not_line _ h.1
  obtain ⟨e, he, hsecond⟩ := halike hbehind
  cases hfirst.symm.trans he
  exact ⟨.inl hopens, hbehind, hfirst, hsecond⟩

end SqlStyle.Scan
