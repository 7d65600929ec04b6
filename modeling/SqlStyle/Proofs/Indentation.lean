import SqlStyle.Check.Layout
import SqlStyle.Proofs.Escapes
import SqlStyle.Proofs.Exactness

/-! # Wrong indentation and stray tabs

Two checks look at the characters that a line begins with, each with a notion of its own: one wants
them to be the allowed character, the other to be spaces or tabs. Both walk the text with one flag
that a delimiter sets. The flag says that nothing but wanted characters stands earlier on the line
(`LedBy`), and one step lemma tells how that goes on at the next character, for either notion and
for every delimiter, a space or a tab included (`ledBy_succ`).

A delimiter ends its line and is itself no character of a line. -/

namespace SqlStyle

theorem Indent.other_ne (allowed : Indent) : allowed.other.char ≠ allowed.char := by
  cases allowed with
  | space => exact ne_of_beq_false rfl
  | tab => exact ne_of_beq_false rfl

theorem Indent.char_cases (allowed : Indent) : allowed.char = ' ' ∨ allowed.char = '\t' := by
  cases allowed with
  | space => exact .inl rfl
  | tab => exact .inr rfl

namespace Check

/-- Index `j` stands before index `p` on the same line: from `j` on, no delimiter comes before
`p`. -/
def EarlierOnLine (t : Text) (d : Char) (j p : Nat) : Prop :=
  j < p ∧ ∀ k, j ≤ k → k < p → t[k]? ≠ some d

/-- All characters before index `p` on its line are wanted. -/
def LedBy (wanted : Char → Prop) (t : Text) (d : Char) (p : Nat) : Prop :=
  ∀ j, EarlierOnLine t d j p → ∀ ch, t[j]? = some ch → wanted ch

/-- Index `p` holds the first character of its line that differs from the allowed one, and that is
the other one of space and tab. -/
structure WrongIndentAt (allowed : Indent) (t : Text) (d : Char) (p : Nat) : Prop where
  char : t[p]? = some allowed.other.char
  onLine : allowed.other.char ≠ d
  first : LedBy (· = allowed.char) t d p

/-- Index `p` holds a tab, and a character other than space and tab stands earlier on its line. -/
structure StrayTabAt (t : Text) (d : Char) (p : Nat) : Prop where
  char : t[p]? = some '\t'
  onLine : '\t' ≠ d
  late : ∃ j, EarlierOnLine t d j p ∧ ∃ ch, t[j]? = some ch ∧ ch ≠ ' ' ∧ ch ≠ '\t'

theorem endsLine_iff {s : Source} {d : Char} (hd : s.delimiter = [d]) (ch : Char) :
    endsLine s ch = true ↔ ch = d := by
  rw [endsLine_eq hd, beq_iff_eq]

/-! ## What leads a line -/

theorem ledBy_zero (wanted : Char → Prop) (t : Text) (d : Char) : LedBy wanted t d 0 :=
  fun _ hj => absurd hj.1 (Nat.not_lt_zero _)

/-- A delimiter begins a new line; any other character joins those before it. -/
theorem ledBy_succ (wanted : Char → Prop) {t : Text} {d : Char} {i : Nat} {ch : Char}
    (hch : t[i]? = some ch) :
    LedBy wanted t d (i + 1) ↔ ch = d ∨ wanted ch ∧ LedBy wanted t d i := by
  constructor
  · intro h
    by_cases hd : ch = d
    · exact .inl hd
    · have hne : t[i]? ≠ some d := by simpa [hch] using hd
      refine .inr ⟨h i ⟨Nat.lt_succ_self i, ?_⟩ ch hch, ?_⟩
      · intro k hk hk'
        rwa [show k = i by omega]
      · intro j hj
        refine h j ⟨Nat.lt_succ_of_lt hj.1, ?_⟩
        intro k hk hk'
        rcases Nat.lt_succ_iff_lt_or_eq.mp hk' with hlt | rfl
        · exact hj.2 k hk hlt
        · exact hne
  · rintro (rfl | ⟨hwanted, h⟩) j hj
    · exact absurd hch (hj.2 i (Nat.le_of_lt_succ hj.1) (Nat.lt_succ_self i))
    · intro other hother
      rcases Nat.lt_succ_iff_lt_or_eq.mp hj.1 with hlt | rfl
      · exact h j ⟨hlt, fun k hk hk' => hj.2 k hk (Nat.lt_succ_of_lt hk')⟩ other hother
      · rw [hch] at hother
        cases hother
        exact hwanted

/-- A property that fails at an index holds from there on where it holds from the next index on. -/
theorem from_succ_iff {P : Nat → Prop} {i : Nat} (h : ¬ P i) (k : Nat) :
    i + 1 ≤ k ∧ P k ↔ i ≤ k ∧ P k := by
  constructor
  · exact fun ⟨hle, hk⟩ => ⟨Nat.le_of_succ_le hle, hk⟩
  · intro ⟨hle, hk⟩
    refine ⟨Nat.lt_of_le_of_ne hle ?_, hk⟩
    rintro rfl
    exact h hk

theorem eq_or_from_succ_iff {P : Nat → Prop} {i : Nat} (h : P i) (k : Nat) :
    (k = i ∨ i + 1 ≤ k ∧ P k) ↔ i ≤ k ∧ P k := by
  constructor
  · rintro (rfl | ⟨hle, hk⟩)
    · exact ⟨Nat.le_refl _, h⟩
    · exact ⟨Nat.le_of_succ_le hle, hk⟩
  · intro ⟨hle, hk⟩
    rcases Nat.lt_or_eq_of_le hle with hlt | rfl
    · exact .inr ⟨hlt, hk⟩
    · exact .inl rfl

theorem getElem?_of_drop_nil {t : Text} {i k : Nat} (h : t.toList.drop i = []) (hk : i ≤ k) :
    t[k]? = none := by
  have := List.drop_eq_nil_iff.mp h
  rw [Array.length_toList] at this
  exact Array.getElem?_eq_none (by omega)

/-! ## The walks -/

/-- The walk finds wrong indentation from where it stands, if its flag says what leads the line. -/
theorem mem_wrongIndents {s : Source} {d : Char} (hd : s.delimiter = [d])
    (allowed : Indent) (i : Nat) (inIndent : Bool) (cs : List Char)
    (hcs : s.text.toList.drop i = cs)
    (hflag : inIndent = true ↔ LedBy (· = allowed.char) s.text d i) (k : Nat) :
    k ∈ wrongIndents s allowed i inIndent cs ↔ i ≤ k ∧ WrongIndentAt allowed s.text d k := by
  fun_induction wrongIndents s allowed i inIndent cs with
  | case1 i inIndent =>
    simp only [List.not_mem_nil, false_iff]
    rintro ⟨hle, hk⟩
    have hnone := getElem?_of_drop_nil hcs hle
    rw [hk.char] at hnone
    cases hnone
  | case2 i inIndent ch rest hend ih =>
    obtain ⟨hch, hrest⟩ := Scan.getElem?_of_drop hcs
    obtain rfl := (endsLine_iff hd ch).mp hend
    rw [ih hrest (by simp [ledBy_succ _ hch])]
    exact from_succ_iff (fun h => h.onLine (Option.some.inj (h.char.symm.trans hch))) k
  | case3 i inIndent ch rest hend hskip ih =>
    obtain ⟨hch, hrest⟩ := Scan.getElem?_of_drop hcs
    have hne : ch ≠ d := fun h => hend ((endsLine_iff hd ch).mpr h)
    rw [Bool.or_eq_true, Bool.not_eq_true', beq_iff_eq] at hskip
    rw [ih hrest ?_]
    · refine from_succ_iff (fun h => ?_) k
      rcases hskip with hout | rfl
      · rw [hflag.mpr h.first] at hout
        cases hout
      · exact Indent.other_ne allowed (Option.some.inj (h.char.symm.trans hch))
    · rw [ledBy_succ _ hch, ← hflag]
      rcases hskip with hout | rfl
      · simp [hout, hne]
      · simp [hne]
  | case4 i inIndent ch rest hend hskip hother ih =>
    obtain ⟨hch, hrest⟩ := Scan.getElem?_of_drop hcs
    have hne : ch ≠ d := fun h => hend ((endsLine_iff hd ch).mpr h)
    simp only [Bool.or_eq_true, Bool.not_eq_true', beq_iff_eq, not_or, Bool.not_eq_false] at hskip
    rw [beq_iff_eq] at hother
    subst hother
    rw [List.mem_cons, ih hrest (by simp [ledBy_succ _ hch, hne, hskip.2])]
    exact eq_or_from_succ_iff ⟨hch, hne, hflag.mp hskip.1⟩ k
  | case5 i inIndent ch rest hend hskip hother ih =>
    obtain ⟨hch, hrest⟩ := Scan.getElem?_of_drop hcs
    have hne : ch ≠ d := fun h => hend ((endsLine_iff hd ch).mpr h)
    simp only [Bool.or_eq_true, Bool.not_eq_true', beq_iff_eq, not_or, Bool.not_eq_false] at hskip
    rw [ih hrest (by simp [ledBy_succ _ hch, hne, hskip.2])]
    refine from_succ_iff (fun h => hother ?_) k
    exact beq_iff_eq.mpr (Option.some.inj (hch.symm.trans h.char))

theorem wrongIndents_sublist (s : Source) (allowed : Indent) (i : Nat) (inIndent : Bool)
    (cs : List Char) :
    (wrongIndents s allowed i inIndent cs).Sublist (List.range' i cs.length) := by
  fun_induction wrongIndents s allowed i inIndent cs with
  | case1 i inIndent => exact List.Sublist.slnil
  | case2 i inIndent ch rest hend ih => exact ih.cons i
  | case3 i inIndent ch rest hend hskip ih => exact ih.cons i
  | case4 i inIndent ch rest hend hskip hother ih => exact ih.cons_cons i
  | case5 i inIndent ch rest hend hskip hother ih => exact ih.cons i

/-- A line is led by spaces and tabs just if nothing else stands on it before the index. -/
theorem not_ledBy_blank {t : Text} {d : Char} {p : Nat} :
    ¬ LedBy (fun ch => ch = ' ' ∨ ch = '\t') t d p ↔
      ∃ j, EarlierOnLine t d j p ∧ ∃ ch, t[j]? = some ch ∧ ch ≠ ' ' ∧ ch ≠ '\t' := by
  simp only [LedBy, not_forall, not_or, exists_prop]

theorem mem_strayTabs {s : Source} {d : Char} (hd : s.delimiter = [d]) (i : Nat) (inIndent : Bool)
    (cs : List Char) (hcs : s.text.toList.drop i = cs)
    (hflag : inIndent = true ↔ LedBy (fun ch => ch = ' ' ∨ ch = '\t') s.text d i) (k : Nat) :
    k ∈ strayTabs s i inIndent cs ↔ i ≤ k ∧ StrayTabAt s.text d k := by
  fun_induction strayTabs s i inIndent cs with
  | case1 i inIndent =>
    simp only [List.not_mem_nil, false_iff]
    rintro ⟨hle, hk⟩
    have hnone := getElem?_of_drop_nil hcs hle
    rw [hk.char] at hnone
    cases hnone
  | case2 i inIndent ch rest hend ih =>
    obtain ⟨hch, hrest⟩ := Scan.getElem?_of_drop hcs
    obtain rfl := (endsLine_iff hd ch).mp hend
    rw [ih hrest (by simp [ledBy_succ _ hch])]
    exact from_succ_iff (fun h => h.onLine (Option.some.inj (h.char.symm.trans hch))) k
  | case3 i ch rest hend htab ih =>
    obtain ⟨hch, hrest⟩ := Scan.getElem?_of_drop hcs
    have hne : ch ≠ d := fun h => hend ((endsLine_iff hd ch).mpr h)
    obtain rfl := beq_iff_eq.mp htab
    rw [ih hrest (by simpa [ledBy_succ _ hch, hne] using hflag)]
    exact from_succ_iff (fun h => not_ledBy_blank.mpr h.late (hflag.mp rfl)) k
  | case4 i inIndent ch rest hend htab hin ih =>
    obtain ⟨hch, hrest⟩ := Scan.getElem?_of_drop hcs
    have hne : ch ≠ d := fun h => hend ((endsLine_iff hd ch).mpr h)
    obtain rfl := beq_iff_eq.mp htab
    rw [List.mem_cons, ih hrest (by simp [ledBy_succ _ hch, hne, hflag])]
    exact eq_or_from_succ_iff ⟨hch, hne, not_ledBy_blank.mp fun h => hin (hflag.mpr h)⟩ k
  | case5 i inIndent ch rest hend htab ih =>
    obtain ⟨hch, hrest⟩ := Scan.getElem?_of_drop hcs
    have hne : ch ≠ d := fun h => hend ((endsLine_iff hd ch).mpr h)
    rw [beq_iff_eq] at htab
    rw [ih hrest (by simp [ledBy_succ _ hch, hne, hflag, htab, and_comm])]
    exact from_succ_iff (fun h => htab (Option.some.inj (hch.symm.trans h.char))) k

theorem strayTabs_sublist (s : Source) (i : Nat) (inIndent : Bool) (cs : List Char) :
    (strayTabs s i inIndent cs).Sublist (List.range' i cs.length) := by
  fun_induction strayTabs s i inIndent cs with
  | case1 i inIndent => exact List.Sublist.slnil
  | case2 i inIndent ch rest hend ih => exact ih.cons i
  | case3 i ch rest hend htab ih => exact ih.cons i
  | case4 i inIndent ch rest hend htab hin ih => exact ih.cons_cons i
  | case5 i inIndent ch rest hend htab ih => exact ih.cons i

/-! ## The checks -/

theorem le_size_of_sublist {t : Text} {indices : List Nat}
    (h : indices.Sublist (List.range' 0 t.toList.length)) : ∀ i ∈ indices, i ≤ t.size := by
  intro i hi
  have hlt := List.mem_range'_1.mp (h.subset hi)
  rw [Array.length_toList] at hlt
  omega

section

variable {c : Context} {s : Source} {d : Char} (hd : s.delimiter = [d])

include hd

theorem uniformIndent_reportsExactly (hactive : ∀ p, c.ledger.isActive .uniformIndent p = true) :
    uniformIndent.ReportsExactly c s (WrongIndentAt c.settings.allowedIndent s.text d) := by
  have hsublist := wrongIndents_sublist s c.settings.allowedIndent 0 true s.text.toList
  refine ofText_reportsExactly hactive List.map_map ((List.pairwise_lt_range' 1).sublist hsublist)
    (le_size_of_sublist hsublist) fun k => ?_
  simpa using mem_wrongIndents hd c.settings.allowedIndent 0 true s.text.toList rfl
    (iff_of_true rfl (ledBy_zero _ s.text d)) k

theorem tabOutsideIndent_reportsExactly
    (hactive : ∀ p, c.ledger.isActive .tabOutsideIndent p = true) :
    tabOutsideIndent.ReportsExactly c s (StrayTabAt s.text d) := by
  have hsublist := strayTabs_sublist s 0 true s.text.toList
  refine ofText_reportsExactly hactive List.map_map ((List.pairwise_lt_range' 1).sublist hsublist)
    (le_size_of_sublist hsublist) fun k => ?_
  simpa using mem_strayTabs hd 0 true s.text.toList rfl (iff_of_true rfl (ledBy_zero _ s.text d)) k

end

/-- Between two places of wrong indentation a line ends. -/
theorem WrongIndentAt.exists_delimiter {allowed : Indent} {t : Text} {d : Char} {p q : Nat}
    (hp : WrongIndentAt allowed t d p) (hq : WrongIndentAt allowed t d q) (hlt : p < q) :
    ∃ k, p ≤ k ∧ k < q ∧ t[k]? = some d := by
  by_contra hnone
  have hearlier : EarlierOnLine t d p q := ⟨hlt, fun k hk hk' hdelim => hnone ⟨k, hk, hk', hdelim⟩⟩
  exact Indent.other_ne allowed (hq.first p hearlier _ hp.char)

/-- What leads a place of wrong indentation is indentation, so no tab there is stray. -/
theorem WrongIndentAt.not_strayTabAt {allowed : Indent} {t : Text} {d : Char} {p : Nat}
    (h : WrongIndentAt allowed t d p) : ¬ StrayTabAt t d p := by
  intro htab
  obtain ⟨j, hj, ch, hch, hspace, htab⟩ := htab.late
  have hallowed := h.first j hj ch hch
  rcases Indent.char_cases allowed with heq | heq
  · exact hspace (hallowed.trans heq)
  · exact htab (hallowed.trans heq)

/-- **Indentation is judged exactly.** In a document with one-character delimiters, where both rules
are active everywhere, the one check reports exactly the first characters of lines that differ from
the allowed one and are the other one of space and tab, so that a line ends between any two of them.
The other check reports exactly the tabs after a character of their line other than space and tab.
No offset is reported by both. -/
theorem indentation_exact (c : Context) (s : Source) (d : Char) (hd : s.delimiter = [d])
    (hindent : ∀ p, c.ledger.isActive .uniformIndent p = true)
    (htab : ∀ p, c.ledger.isActive .tabOutsideIndent p = true) :
    uniformIndent.ReportsExactly c s (WrongIndentAt c.settings.allowedIndent s.text d) ∧
    tabOutsideIndent.ReportsExactly c s (StrayTabAt s.text d) ∧
    (∀ p q, WrongIndentAt c.settings.allowedIndent s.text d p →
      WrongIndentAt c.settings.allowedIndent s.text d q → p < q →
        ∃ k, p ≤ k ∧ k < q ∧ s.text[k]? = some d) ∧
    ∀ session session' indents tabs, (uniformIndent.run c s session).1 = .ok indents →
      (tabOutsideIndent.run c s session').1 = .ok tabs →
      ∀ a ∈ indents.diagnostics, ∀ b ∈ tabs.diagnostics, a.offset ≠ b.offset := by
  have hindents := uniformIndent_reportsExactly hd hindent
  have htabs := tabOutsideIndent_reportsExactly hd htab
  refine ⟨hindents, htabs, fun p q hp hq hlt => hp.exists_delimiter hq hlt, ?_⟩
  intro session session' indents tabs hrun hrun' a ha b hb heq
  have hwrong := ((hindents.exact session indents hrun).offsets a.offset).mp ⟨a, ha, rfl⟩
  have hstray := ((htabs.exact session' tabs hrun').offsets a.offset).mp ⟨b, hb, heq.symm⟩
  exact hwrong.not_strayTabAt hstray

/-- Lines that end with a space, indented with spaces: the tab that begins the second line is wrong,
and the one after its `x` is stray. -/
theorem indentation_exact_spaceDelimiter :
    let s : Source := { text := #['\t', ' ', '\t', 'x', '\t'], delimiter := [' '] }
    let c : Context := ⟨{}, Ledger.start [], Toolkit.empty⟩
    ∃ indents tabs, (uniformIndent.run c s {}).1 = .ok indents ∧
      (tabOutsideIndent.run c s {}).1 = .ok tabs ∧
      (∃ a ∈ indents.diagnostics, a.offset = 2) ∧ ∃ b ∈ tabs.diagnostics, b.offset = 4 := by
  intro s c
  have hs : s.Valid := fun width h => by cases h
  obtain ⟨hindents, htabs, -⟩ := indentation_exact c s ' ' rfl (fun _ => rfl) (fun _ => rfl)
  obtain ⟨indents, hindentsRun⟩ := hindents.reports hs {}
  obtain ⟨tabs, htabsRun⟩ := htabs.reports hs {}
  refine ⟨indents, tabs, hindentsRun, htabsRun, ?_, ?_⟩
  · refine ((hindents.exact _ _ hindentsRun).offsets 2).mpr ⟨rfl, by decide, ?_⟩
    -- the delimiter at index 1 parts everything before it from the tab
    intro j hj
    exact absurd rfl (hj.2 1 (Nat.le_of_lt_succ hj.1) (by decide))
  · refine ((htabs.exact _ _ htabsRun).offsets 4).mpr
      ⟨rfl, by decide, 3, ⟨by decide, ?_⟩, 'x', rfl, by decide⟩
    intro k hk hk'
    obtain rfl : k = 3 := Nat.le_antisymm (Nat.le_of_lt_succ hk') hk
    decide

end Check

end SqlStyle
