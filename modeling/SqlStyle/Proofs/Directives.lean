import SqlStyle.Directive
import SqlStyle.Proofs.Ledger

/-! # What directives mean at an offset

Read off the text, a rule is active at an offset unless the last comment before it that names the
rule in a well-formed directive says `NOLINT` (`activeAt`). The ledger of a document answers exactly
that, except that locked rules are never active. The comments of a document end one after the other,
so the requests they make are already in the order in which the ledger records them. -/

namespace SqlStyle

namespace Scan

theorem lineEnd_le (t : Text) (delimiter : List Char) (p : Nat) :
    lineEnd t delimiter p ≤ t.size := by
  unfold lineEnd
  cases hf : t.find? delimiter p with
  | none => exact Nat.le_refl _
  | some i =>
    have := lt_of_firstBetween hf
    simp only [Option.getD_some]
    omega

/-- A comment met at an index ends at or after it, inside the text, and reading goes on past its
end. -/
theorem lineCommentStep_stop {t : Text} {delimiter : List Char} {i : Nat} (h : i < t.size)
    {c : LineComment} (hc : (lineCommentStep t delimiter i).1 = some c) :
    i ≤ c.stop ∧ c.stop ≤ t.size ∧ c.stop < (lineCommentStep t delimiter i).2 := by
  unfold lineCommentStep at hc ⊢
  split at hc
  · cases hc
  · split at hc
    · cases hc
    · split at hc
      · cases hc
        exact ⟨le_lineEnd t delimiter (Nat.le_of_lt h), lineEnd_le t delimiter i,
          Nat.lt_succ_self _⟩
      · cases hc

theorem start_of_lineCommentStep {t : Text} {delimiter : List Char} {i : Nat} {c : LineComment}
    (h : (lineCommentStep t delimiter i).1 = some c) : c.start = i := by
  unfold lineCommentStep at h
  split at h
  · cases h
  · split at h
    · cases h
    · split at h
      · cases h; rfl
      · cases h

theorem lineCommentsFrom_stop (t : Text) (delimiter : List Char) (i : Nat) :
    ∀ c ∈ lineCommentsFrom t delimiter i, i ≤ c.stop ∧ c.stop ≤ t.size := by
  fun_induction lineCommentsFrom t delimiter i with
  | case1 i h step hlt ih =>
    intro c hc
    rcases List.mem_append.mp hc with hc | hc
    · obtain ⟨h1, h2, _⟩ := lineCommentStep_stop h (Option.mem_toList.mp hc)
      exact ⟨h1, h2⟩
    · obtain ⟨h1, h2⟩ := ih c hc
      exact ⟨Nat.le_trans (Nat.le_of_lt hlt) h1, h2⟩
  | case2 i h => intro c hc; simp at hc

/-- The line comments of a document end one after the other. -/
theorem lineCommentsFrom_pairwise (t : Text) (delimiter : List Char) (i : Nat) :
    (lineCommentsFrom t delimiter i).Pairwise (·.stop < ·.stop) := by
  fun_induction lineCommentsFrom t delimiter i with
  | case1 i h step hlt ih =>
    refine List.pairwise_append.mpr ⟨?_, ih, ?_⟩
    · cases step.1 with
      | none => exact List.Pairwise.nil
      | some c => exact List.pairwise_singleton _ _
    · intro a ha b hb
      have h1 := (lineCommentStep_stop h (Option.mem_toList.mp ha)).2.2
      have h2 := (lineCommentsFrom_stop t delimiter step.2 b hb).1
      exact Nat.lt_of_lt_of_le h1 h2
  | case2 i h => exact List.Pairwise.nil

end Scan

namespace Directive

/-- The directive names the rule, by its name or an older spelling of it. -/
def concerns (d : Directive) (r : Rule) : Bool := d.names.any fun name => Rule.find? name == some r

/-- Which way a comment switches a rule: not at all unless it is a directive that names the rule. -/
def switch? (t : Text) (r : Rule) (c : Scan.LineComment) : Option Direction :=
  match parse? (c.body t) with
  | none => none
  | some d => if d.concerns r then some d.direction else none

/-- Whether the directives of a document leave a rule active at an offset: the last comment that
switches the rule and ends strictly before the offset decides, and without one it is active. -/
def activeAt (s : Source) (r : Rule) (p : Int) : Bool :=
  let before := (Scan.lineComments s.text s.delimiter).filter fun c => decide ((c.stop : Int) < p)
  match (before.filterMap (switch? s.text r)).getLast? with
  | none => true
  | some direction => direction.active

theorem mem_inSource {s : Source} {d : Placed} (h : d ∈ inSource s) :
    ∃ c ∈ Scan.lineComments s.text s.delimiter, parse? (c.body s.text) = some d.directive ∧
      d.position = c.stop := by
  obtain ⟨c, hc, hd⟩ := List.mem_filterMap.mp h
  obtain ⟨directive, hp, rfl⟩ := Option.map_eq_some_iff.mp hd
  exact ⟨c, hc, hp, rfl⟩

theorem inSource_position_le {s : Source} {d : Placed} (h : d ∈ inSource s) :
    d.position ≤ s.text.size := by
  obtain ⟨c, hc, _, hp⟩ := mem_inSource h
  rw [hp]
  exact (Scan.lineCommentsFrom_stop s.text s.delimiter 0 c hc).2

theorem position_of_mem_events {d : Placed} {e : Event} (h : e ∈ d.events) :
    e.position = d.position := by
  obtain ⟨name, _, hn⟩ := List.mem_filterMap.mp h
  obtain ⟨rule, _, rfl⟩ := Option.map_eq_some_iff.mp hn
  rfl

theorem inSource_pairwise (s : Source) : (inSource s).Pairwise (·.position < ·.position) := by
  refine List.Pairwise.filterMap _ ?_ (Scan.lineCommentsFrom_pairwise s.text s.delimiter 0)
  intro a b hab da hda db hdb
  obtain ⟨_, _, rfl⟩ := Option.map_eq_some_iff.mp hda
  obtain ⟨_, _, rfl⟩ := Option.map_eq_some_iff.mp hdb
  exact hab

theorem events_pairwise (s : Source) : (events s).Pairwise (·.position ≤ ·.position) := by
  refine List.pairwise_flatMap.mpr ⟨?_, (inSource_pairwise s).imp ?_⟩
  · intro d _
    refine List.pairwise_of_forall_mem_list ?_
    intro a ha b hb
    exact Int.le_of_eq ((position_of_mem_events ha).trans (position_of_mem_events hb).symm)
  · intro a b hab x hx y hy
    rw [position_of_mem_events hx, position_of_mem_events hy]
    omega

theorem mem_events {d : Placed} {e : Event} :
    e ∈ d.events ↔ ∃ name ∈ d.directive.names,
      Rule.find? name = some e.rule ∧ e = ⟨d.position, e.rule, d.directive.direction⟩ := by
  constructor
  · intro h
    obtain ⟨name, hm, hn⟩ := List.mem_filterMap.mp h
    obtain ⟨rule, hr, rfl⟩ := Option.map_eq_some_iff.mp hn
    exact ⟨name, hm, hr, rfl⟩
  · rintro ⟨name, hm, hr, he⟩
    refine List.mem_filterMap.mpr ⟨name, hm, ?_⟩
    rw [hr, Option.map_some, ← he]

/-- Among the requests of one directive the last about a rule goes the directive's way, if there is
one. -/
theorem lastRequest?_events (d : Placed) (r : Rule) (p : Int) :
    (Ledger.lastRequest? d.events r p).map Event.direction =
      if d.directive.concerns r ∧ (d.position : Int) < p then
          some d.directive.direction else none := by
  cases hl : Ledger.lastRequest? d.events r p with
  | none =>
    have hnil := List.getLast?_eq_none_iff.mp hl
    rw [if_neg, Option.map_none]
    rintro ⟨hc, hp⟩
    obtain ⟨name, hm, hr⟩ := List.any_eq_true.mp hc
    have he : (⟨d.position, r, d.directive.direction⟩ : Event) ∈ d.events :=
      mem_events.mpr ⟨name, hm, by simpa using hr, rfl⟩
    have := List.filter_eq_nil_iff.mp hnil _ he
    simp [hp] at this
  | some e =>
    obtain ⟨he, hf⟩ := List.mem_filter.mp (List.mem_of_getLast? hl)
    obtain ⟨name, hm, hr, heq⟩ := mem_events.mp he
    obtain ⟨hrule, hp⟩ := Bool.and_eq_true_iff.mp hf
    rw [of_decide_eq_true hrule] at hr
    have hpos : (d.position : Int) < p := by
      rw [← position_of_mem_events he]
      exact of_decide_eq_true hp
    rw [if_pos ⟨List.any_eq_true.mpr ⟨name, hm, by simp [hr]⟩, hpos⟩, Option.map_some, heq]

/-- The last request before an offset is that of the last comment before it that switches the
rule. -/
theorem lastRequest?_source (s : Source) (r : Rule) (p : Int) :
    (Ledger.lastRequest? (events s) r p).map Event.direction =
      (((Scan.lineComments s.text s.delimiter).filter fun c =>
        decide ((c.stop : Int) < p)).filterMap
        (switch? s.text r)).getLast? := by
  unfold Ledger.lastRequest? events inSource
  rw [List.filter_flatMap, List.getLast?_flatMap, ← List.getLast?_filterMap, ← List.getLast?_map,
    List.map_filterMap, List.filterMap_filterMap, List.filterMap_filter]
  congr 2
  funext c
  cases hp : parse? (c.body s.text) with
  | none => simp [switch?, hp]
  | some d =>
    have h := lastRequest?_events ⟨d, c.stop⟩ r p
    unfold Ledger.lastRequest? at h
    simp only [hp, Option.map_some, Option.bind_some, switch?]
    rw [h]
    by_cases hc : (c.stop : Int) < p
    · simp [hc]
    · simp [hc]

/-- The ledger of a document can always be built, and the last request before an offset decides in
it. -/
theorem ledger_spec (s : Source) (locked : List Rule) :
    ∃ l, ledger s locked = .ok l ∧ l.locked = locked ∧
      ∀ r p, l.isActive r p =
        (decide (r ∉ locked) && (Ledger.lastRequest? (events s) r p).elim true
            (·.direction.active)) := by
  obtain ⟨l, hl, hlk, hact⟩ := Ledger.ofEvents_spec (events s) locked
  have hsorted : Ledger.inOrder (events s) = events s :=
    List.mergeSort_of_pairwise ((events_pairwise s).imp decide_eq_true)
  exact ⟨l, hl, hlk, fun r p => by rw [hact, hsorted]⟩

end Directive

end SqlStyle
