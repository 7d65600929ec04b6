import Mathlib.Data.List.Basic
import SqlStyle.Proofs.Segmentation
import SqlStyle.Proofs.Streaming

/-! # Directives act forward only

What stands at or after an offset does not change which rules are active at it. The reading for line
comments looks ahead without bound, so two documents that agree up to the offset are read side by
side: as long as a step of the one ends before the offset, the other takes the same step
(`Settled.step_eq`). Once that fails, neither reading meets another comment that ends before the
offset, except for one that opens on the last index before it, and that one has no text. -/

namespace SqlStyle

/-- Two texts reach up to index `p` and hold the same characters before it. -/
structure Text.Agree (p : Nat) (a b : Text) : Prop where
  left : p ≤ a.size
  right : p ≤ b.size
  same : ∀ i, i < p → a[i]? = b[i]?

namespace Text.Agree

variable {p : Nat} {a b : Text}

theorem symm (h : Agree p a b) : Agree p b a := ⟨h.right, h.left, fun i hi => (h.same i hi).symm⟩

theorem runBefore_eq (h : Agree p a b) (test : Char → Bool) :
    ∀ {i : Nat}, i ≤ p → a.runBefore test i = b.runBefore test i := by
  intro i
  induction i with
  | zero => intro _; rfl
  | succ i ih =>
    intro hi
    simp only [Text.runBefore, h.same i hi, ih (Nat.le_of_succ_le hi)]

theorem occursAt_one_eq (h : Agree p a b) (c : Char) {i : Nat} (hi : i < p) :
    a.occursAt [c] i = b.occursAt [c] i := by
  rw [Bool.eq_iff_iff, Scan.occursAt_one, Scan.occursAt_one, h.same i hi]

theorem occursAt_two_eq (h : Agree p a b) (c d : Char) {i : Nat} (hi : i + 1 < p) :
    a.occursAt [c, d] i = b.occursAt [c, d] i := by
  rw [Bool.eq_iff_iff, Scan.occursAt_two, Scan.occursAt_two, h.same i (by omega), h.same (i + 1) hi]

theorem slice_eq (h : Agree p a b) (start : Nat) {stop : Nat} (hstop : stop ≤ p) :
    a.slice start stop = b.slice start stop := by
  have hext : a.extract start stop = b.extract start stop := by
    have := h.left
    have := h.right
    refine Array.ext (by simp only [Array.size_extract]; omega) ?_
    intro i hi _
    rw [Array.size_extract] at hi
    have hsame := h.same (start + i) (by omega)
    rw [Array.getElem?_eq_getElem (by omega), Array.getElem?_eq_getElem (by omega)] at hsame
    simpa using hsame
  rw [Text.slice, hext, ← Text.slice]

end Text.Agree

/-- The least index of an interval that passes a test is where a search stops. -/
theorem firstBetween_eq_some {q : Nat → Bool} {lo hi e : Nat} (hlo : lo ≤ e) (hhi : e < hi)
    (he : q e = true) (hmin : ∀ j, lo ≤ j → j < e → q j = false) :
    firstBetween q lo hi = some e := by
  cases hf : firstBetween q lo hi with
  | none =>
    have := Scan.firstFrom_eq_none hf e hlo (by omega)
    rw [he] at this
    cases this
  | some i =>
    obtain ⟨h1, _, h3, h4⟩ := firstFrom_eq_some hf
    rcases Nat.lt_trichotomy i e with hlt | heq | hlt
    · rw [hmin i h1 hlt] at h3
      cases h3
    · rw [heq]
    · rw [h4 e hlo hlt] at he
      cases he

/-- A search that stops early stops at the same index for a test that agrees so far. -/
theorem firstBetween_agree {q q' : Nat → Bool} {lo hi hi' e : Nat}
    (h : firstBetween q lo hi = some e) (hagree : ∀ j, j ≤ e → q j = q' j) (hhi : e < hi') :
    firstBetween q' lo hi' = some e := by
  obtain ⟨h1, _, h3, h4⟩ := firstFrom_eq_some h
  refine firstBetween_eq_some h1 hhi ((hagree e (Nat.le_refl _)) ▸ h3) ?_
  intro j hj hje
  rw [← hagree j (Nat.le_of_lt hje)]
  exact h4 j hj hje

namespace Scan

section

variable {p i e : Nat} {a b : Text}

/-! ## Probes that end before an index -/

theorem blockBody?_agree (h : Text.Agree p a b) (hi : i + 1 < p) :
    blockBody? a i = blockBody? b i := by
  have hbefore : 1 ≤ i → a.occursAt ['/', '*'] (i - 1) = b.occursAt ['/', '*'] (i - 1) :=
    fun h1 => h.occursAt_two_eq _ _ (by omega)
  unfold blockBody?
  rw [h.occursAt_two_eq _ _ hi, h.same (i - 2) (by omega)]
  by_cases h1 : 1 ≤ i
  · rw [hbefore h1]
  · simp [h1]

theorem blockEnd?_eq_none_agree (h : Text.Agree p a b) (hi : i + 1 < p)
    (hnone : blockEnd? a i = none) :
    blockEnd? b i = none := by
  rw [blockEnd?, Option.map_eq_none_iff] at hnone ⊢
  rw [← blockBody?_agree h hi, hnone]

theorem blockEnd?_agree (h : Text.Agree p a b) (hi : i + 1 < p) (hend : blockEnd? a i = some e)
    (he : e + 1 < p) : blockEnd? b i = some e := by
  have := h.left
  have := h.right
  obtain ⟨body, hbody, hclose⟩ := Option.map_eq_some_iff.mp hend
  cases hfind : a.find? ['*', '/'] body with
  | none =>
    -- a comment that is never closed runs past the index
    rw [hfind] at hclose
    simp only at hclose
    omega
  | some close =>
    rw [hfind] at hclose
    simp only at hclose
    have hfind' : b.find? ['*', '/'] body = some close :=
      firstBetween_agree hfind (fun j hj => h.occursAt_two_eq _ _ (by omega)) (by omega)
    rw [blockEnd?, ← blockBody?_agree h hi, hbody, Option.map_some, hfind', ← hclose]

theorem stringEnd?_eq_none_agree (h : Text.Agree p a b) (hi : i < p)
    (hnone : stringEnd? a i = none) :
    stringEnd? b i = none := by
  unfold stringEnd? at hnone ⊢
  rw [← h.same i hi]
  split at hnone
  · rfl
  · split at hnone
    · cases hnone
    · rename_i hq
      simp only [hq]
      rfl

theorem stringEnd?_agree (h : Text.Agree p a b) (hi : i < p) (hend : stringEnd? a i = some e)
    (he : e + 1 < p) : stringEnd? b i = some e := by
  have := h.left
  have := h.right
  unfold stringEnd? at hend ⊢
  rw [← h.same i hi]
  split at hend
  · cases hend
  · rename_i quote _
    split at hend
    · rename_i hq
      simp only [hq, if_true]
      cases hfind : firstBetween (fun j => a[j]? == some quote && !isEscaped a j)
          (i + 1) a.size with
      | none =>
        rw [hfind, Option.getD_none, Option.some.injEq] at hend
        omega
      | some close =>
        rw [hfind, Option.getD_some] at hend
        cases hend
        have hclose : ∀ j, j ≤ e → (a[j]? == some quote && !isEscaped a j) =
            (b[j]? == some quote && !isEscaped b j) := by
          intro j hj
          rw [h.same j (by omega), isEscaped, isEscaped, h.runBefore_eq _ (by omega)]
        rw [firstBetween_agree hfind hclose (by omega), Option.getD_some]
    · cases hend

theorem marker?_agree (h : Text.Agree p a b) (hi : i + 1 < p) : marker? a i = marker? b i := by
  unfold marker?
  congr 1
  funext m
  cases m with
  | dashes => exact h.occursAt_two_eq _ _ hi
  | slashes => exact h.occursAt_two_eq _ _ hi
  | hash => exact h.occursAt_one_eq _ (by omega)

theorem lineEnd_agree (h : Text.Agree p a b) {d : Char} (he : lineEnd a [d] i < p) :
    lineEnd b [d] i = lineEnd a [d] i := by
  have := h.left
  have := h.right
  unfold lineEnd at he ⊢
  cases hfind : a.find? [d] i with
  | none =>
    rw [hfind, Option.getD_none] at he
    omega
  | some stop =>
    rw [hfind, Option.getD_some] at he
    have hfind' : b.find? [d] i = some stop :=
      firstBetween_agree hfind (fun j hj => h.occursAt_one_eq _ (by omega)) (by omega)
    rw [hfind', Option.getD_some, Option.getD_some]

end

/-! ## Two readings side by side -/

/-- A step of the reading is settled before an index: it goes on before it, or its comment ends
before it. -/
def Settled (p : Nat) (step : Option LineComment × Nat) : Prop :=
  step.2 < p ∨ ∃ c, step.1 = some c ∧ c.stop < p

/-- Texts that agree take the same settled steps. -/
theorem Settled.step_eq {p : Nat} {a b : Text} (h : Text.Agree p a b) {d : Char} {i : Nat}
    (hi : i + 1 < p) (hset : Settled p (lineCommentStep a [d] i)) :
    lineCommentStep b [d] i = lineCommentStep a [d] i := by
  unfold lineCommentStep at hset ⊢
  cases hblock : blockEnd? a i with
  | some e =>
    simp only [hblock, Settled] at hset
    have he : e + 1 < p := by simpa using hset
    simp only [blockEnd?_agree h hi hblock he]
  | none =>
    simp only [hblock] at hset
    simp only [blockEnd?_eq_none_agree h hi hblock]
    cases hstring : stringEnd? a i with
    | some e =>
      simp only [hstring, Settled] at hset
      have he : e + 1 < p := by simpa using hset
      simp only [stringEnd?_agree h (by omega) hstring he]
    | none =>
      simp only [hstring] at hset
      simp only [stringEnd?_eq_none_agree h (by omega) hstring, ← marker?_agree h hi]
      cases hmarker : marker? a i with
      | none => rfl
      | some m =>
        have hstop : lineEnd a [d] i < p := by
          simp only [hmarker, Settled, Option.some.injEq] at hset
          rcases hset with hnext | ⟨c, rfl, hc⟩
          · omega
          · exact hc
        simp only [lineEnd_agree h hstop]

end Scan

namespace Directive

open Scan

/-- A comment without text switches nothing. -/
theorem switch?_of_empty (t : Text) (r : Rule) {c : LineComment} (h : c.stop ≤ c.start) :
    switch? t r c = none := by
  have hbody : c.body t = "" := by
    have : (t.extract (c.start + c.marker.length) c.stop) = #[] :=
      Array.extract_empty_of_stop_le_start (by omega)
    rw [LineComment.body, Text.slice, this]
  rw [switch?, hbody]
  rfl

theorem switch?_agree {p : Nat} {a b : Text} (h : Text.Agree p a b) (r : Rule) {c : LineComment}
    (hc : c.stop ≤ p) : switch? a r c = switch? b r c := by
  rw [switch?, switch?, LineComment.body, LineComment.body, h.slice_eq _ hc]

/-- The ways in which the comments from an index on that end before `p` switch a rule. -/
def switchesFrom (t : Text) (delimiter : List Char) (r : Rule) (p i : Nat) : List Direction :=
  ((lineCommentsFrom t delimiter i).filter fun c => decide (c.stop < p)).filterMap (switch? t r)

theorem switchesFrom_of_le {t : Text} {delimiter : List Char} (r : Rule) {p i : Nat} (h : p ≤ i) :
    switchesFrom t delimiter r p i = [] := by
  have hnone : ((lineCommentsFrom t delimiter i).filter fun c => decide (c.stop < p)) = [] := by
    refine List.filter_eq_nil_iff.mpr ?_
    intro c hc
    have := (lineCommentsFrom_stop t delimiter i c hc).1
    simp only [decide_eq_true_eq]
    omega
  rw [switchesFrom, hnone, List.filterMap_nil]

/-- What one step of the reading adds. -/
theorem switchesFrom_step {t : Text} {delimiter : List Char} (r : Rule) {p i : Nat}
    (h : i < t.size) :
    switchesFrom t delimiter r p i =
      ((lineCommentStep t delimiter i).1.toList.filter fun c => decide (c.stop < p)).filterMap
        (switch? t r) ++
      switchesFrom t delimiter r p (lineCommentStep t delimiter i).2 := by
  unfold switchesFrom
  rw [lineCommentsFrom, dif_pos h, List.filter_append, List.filterMap_append]

/-- A step that is not settled leads to no switch before the index. -/
theorem switchesFrom_of_not_settled {t : Text} {delimiter : List Char} (r : Rule) {p i : Nat}
    (hi : i < t.size) (h : ¬ Settled p (lineCommentStep t delimiter i)) :
    switchesFrom t delimiter r p i = [] := by
  obtain ⟨hnext, hcomment⟩ := not_or.mp h
  rw [switchesFrom_step r hi, switchesFrom_of_le r (by omega), List.append_nil]
  cases hc : (lineCommentStep t delimiter i).1 with
  | none => rfl
  | some c =>
    have : ¬ c.stop < p := fun hlt => hcomment ⟨c, hc, hlt⟩
    simp [this]

/-- The last index before `p` opens no comment that switches anything before `p`. -/
theorem switchesFrom_last {t : Text} {delimiter : List Char} (r : Rule) {i : Nat}
    (hi : i < t.size) :
    switchesFrom t delimiter r (i + 1) i = [] := by
  have hlt := lt_lineCommentStep t delimiter hi
  rw [switchesFrom_step r hi, switchesFrom_of_le r hlt, List.append_nil]
  refine List.filterMap_eq_nil_iff.mpr ?_
  intro c hc
  obtain ⟨hm, hstop⟩ := List.mem_filter.mp hc
  have hstart := start_of_lineCommentStep (Option.mem_toList.mp hm)
  simp only [decide_eq_true_eq] at hstop
  exact switch?_of_empty t r (by omega)

/-- Texts that agree up to an index switch every rule alike before it. -/
theorem switchesFrom_agree {p : Nat} {a b : Text} (h : Text.Agree p a b) (d : Char) (r : Rule) :
    ∀ n i, p - i ≤ n → switchesFrom a [d] r p i = switchesFrom b [d] r p i := by
  have hleft := h.left
  have hright := h.right
  intro n
  -- by induction on what is left up to the index: a settled step is shared, any other ends the
  -- reading
  induction n with
  | zero =>
    intro i hn
    rw [switchesFrom_of_le r (by omega), switchesFrom_of_le r (by omega)]
  | succ n ih =>
    intro i hn
    by_cases hp : p ≤ i
    · rw [switchesFrom_of_le r hp, switchesFrom_of_le r hp]
    have ha : i < a.size := by omega
    have hb : i < b.size := by omega
    by_cases hlast : p = i + 1
    · subst hlast
      rw [switchesFrom_last r ha, switchesFrom_last r hb]
    by_cases hset : Settled p (lineCommentStep a [d] i)
    · have hstep := hset.step_eq h (by omega)
      have hlt := lt_lineCommentStep a [d] ha
      have hshared : ∀ c? : Option LineComment,
          (c?.toList.filter fun c => decide (c.stop < p)).filterMap (switch? a r) =
            (c?.toList.filter fun c => decide (c.stop < p)).filterMap (switch? b r) := by
        intro c?
        refine List.filterMap_congr ?_
        intro c hc
        exact switch?_agree h r (Nat.le_of_lt (of_decide_eq_true (List.mem_filter.mp hc).2))
      rw [switchesFrom_step r ha, switchesFrom_step r hb, hstep, hshared, ih _ (by omega)]
    · have hset' : ¬ Settled p (lineCommentStep b [d] i) := by
        intro hb'
        rw [hb'.step_eq h.symm (by omega)] at hset
        exact hset hb'
      rw [switchesFrom_of_not_settled r ha hset, switchesFrom_of_not_settled r hb hset']

/-- The last request before an offset goes the way of the last switch before it. -/
theorem lastRequest?_elim (s : Source) (r : Rule) (p : Int) :
    (Ledger.lastRequest? (events s) r p).elim true (·.direction.active) =
      (switchesFrom s.text s.delimiter r p.toNat 0).getLast?.elim true Direction.active := by
  have hlt : ∀ c : LineComment, decide ((c.stop : Int) < p) = decide (c.stop < p.toNat) := by
    intro c
    rw [decide_eq_decide]
    omega
  have hlast := lastRequest?_source s r p
  simp only [hlt, lineComments] at hlast
  rw [switchesFrom, ← hlast, Option.elim_map]
  rfl

/-- **Activation is causal.** Take two documents with the same one-character delimiter, both
reaching up to an offset and equal before it. Whatever rules are locked, both ledgers can be built,
reading the directives builds no others, and they give the same answer for every rule at that
offset: no change at or after an offset reaches back to it. -/
theorem ledger_causal (s₁ s₂ : Source) (d : Char) (locked : List Rule) (p : Int)
    (hd₁ : s₁.delimiter = [d]) (hd₂ : s₂.delimiter = [d]) (h₁ : p ≤ s₁.text.size)
    (h₂ : p ≤ s₂.text.size) (hsame : ∀ i : Nat, (i : Int) < p → s₁.text[i]? = s₂.text[i]?) :
    ∃ l₁ l₂, ledger s₁ locked = .ok l₁ ∧ ledger s₂ locked = .ok l₂ ∧
      Builds s₁ locked l₁ ∧ Builds s₂ locked l₂ ∧ ∀ r, l₁.isActive r p = l₂.isActive r p := by
  obtain ⟨l₁, hl₁, _, hact₁⟩ := ledger_spec s₁ locked
  obtain ⟨l₂, hl₂, _, hact₂⟩ := ledger_spec s₂ locked
  have hagree : Text.Agree p.toNat s₁.text s₂.text :=
    ⟨by omega, by omega, fun i hi => hsame i (by omega)⟩
  refine ⟨l₁, l₂, hl₁, hl₂, builds_ledger hl₁, builds_ledger hl₂, ?_⟩
  intro r
  rw [hact₁, hact₂, lastRequest?_elim, lastRequest?_elim, hd₁, hd₂,
    switchesFrom_agree hagree d r p.toNat 0 (Nat.sub_le _ _)]

/-- A string that the one document closes after the offset and the other leaves open. -/
theorem ledger_causal_openString :
    let t₁ := Text.ofString "-- NOLINT(alias)\nSELECT '"
    let t₂ := Text.ofString "-- NOLINT(alias)\nSELECT ' -- LINT(alias)\n' -- LINT(alias)\n"
    ∃ l₁ l₂, ledger { text := t₁ } [.join] = .ok l₁ ∧ ledger { text := t₂ } [.join] = .ok l₂ ∧
      Builds { text := t₁ } [.join] l₁ ∧ Builds { text := t₂ } [.join] l₂ ∧
      ∀ r, l₁.isActive r 25 = l₂.isActive r 25 := by
  refine ledger_causal { text := Text.ofString "-- NOLINT(alias)\nSELECT '" }
    { text := Text.ofString "-- NOLINT(alias)\nSELECT ' -- LINT(alias)\n' -- LINT(alias)\n" } '\n'
    [.join] 25 rfl rfl (by decide +kernel) (by decide +kernel) ?_
  intro i hi
  have hall : ∀ i < 25, (Text.ofString "-- NOLINT(alias)\nSELECT '")[i]? =
      (Text.ofString "-- NOLINT(alias)\nSELECT ' -- LINT(alias)\n' -- LINT(alias)\n")[i]? := by
    decide +kernel
  exact hall i (by omega)

end Directive

end SqlStyle
