import SqlStyle.Proofs.Ledger
import SqlStyle.Proofs.StableSort

/-! # The order of discovery does not matter

Requests reach a ledger in any order and are recorded by position, those at one position as they
were found. That order is fixed by the requests (`SortedFrom.unique`). Recording acts on one
timeline at a time, so what a run of requests leaves for a rule is what the requests about that rule
alone leave (`recordAll_filter`). Both together: a ledger depends on nothing but the requests about
each rule at each position, in the order in which these were found. -/

namespace SqlStyle.Ledger

/-- The stable sort by position: in order, and at each position as before. -/
structure SortedFrom (events sorted : List Event) : Prop where
  ordered : sorted.Pairwise (·.position ≤ ·.position)
  stable : ∀ p, sorted.filter (fun e => decide (e.position = p)) = events.filter fun e =>
    decide (e.position = p)

/-- The same requests in another order, in which those about one rule at one position have not
changed places. -/
structure Reordered (events others : List Event) : Prop where
  perm : events.Perm others
  ties : ∀ r p, events.filter (fun e => decide (e.rule = r) && decide (e.position = p)) =
    others.filter fun e => decide (e.rule = r) && decide (e.position = p)

/-! ## Sorting by position -/

theorem tied_position (a : Event) :
    tied (fun a b : Event => decide (a.position ≤ b.position)) a = fun b =>
        decide (b.position = a.position) := by
  funext b
  rw [Bool.eq_iff_iff, tied, Bool.and_eq_true, decide_eq_true_eq, decide_eq_true_eq,
    decide_eq_true_eq]
  omega

theorem eq_of_ordered {a b : List Event} (ha : a.Pairwise (·.position ≤ ·.position))
    (hb : b.Pairwise (·.position ≤ ·.position))
    (h : ∀ p, a.filter (fun e => decide (e.position = p)) = b.filter fun e =>
      decide (e.position = p)) :
    a = b := by
  refine eq_of_ties position_total (ha.imp fun hle => decide_eq_true hle)
    (hb.imp fun hle => decide_eq_true hle) fun x => ?_
  rw [tied_position]
  exact h x.position

theorem SortedFrom.unique {events a b : List Event} (ha : SortedFrom events a)
    (hb : SortedFrom events b) :
    a = b :=
  eq_of_ordered ha.ordered hb.ordered fun p => (ha.stable p).trans (hb.stable p).symm

theorem inOrder_sortedFrom (events : List Event) : SortedFrom events (inOrder events) := by
  refine ⟨inOrder_pairwise events, ?_⟩
  intro p
  unfold inOrder
  rw [← mergeSort_filter position_trans position_total]
  -- requests at one position are in order already
  refine List.mergeSort_of_pairwise (List.pairwise_of_forall_mem_list ?_)
  intro a ha b hb
  have hpa : a.position = p := by simpa using (List.mem_filter.mp ha).2
  have hpb : b.position = p := by simpa using (List.mem_filter.mp hb).2
  simp [hpa, hpb]

/-- Reordering keeps, rule by rule, the order in which requests are recorded. -/
theorem Reordered.filter_inOrder {events others : List Event}
    (h : Reordered events others) (r : Rule) :
    (inOrder events).filter (fun e => decide (e.rule = r)) =
      (inOrder others).filter fun e => decide (e.rule = r) := by
  refine eq_of_ordered ((inOrder_pairwise events).filter _) ((inOrder_pairwise others).filter _) ?_
  intro p
  have hevents := congrArg (List.filter fun e => decide (e.rule = r))
    ((inOrder_sortedFrom events).stable p)
  have hothers := congrArg (List.filter fun e => decide (e.rule = r))
    ((inOrder_sortedFrom others).stable p)
  simp only [List.filter_filter] at hevents hothers ⊢
  simp only [Bool.and_comm (decide (Event.position _ = p)), hevents, hothers]
  exact h.ties r p

/-! ## One rule at a time -/

theorem record_cases {l l' : Ledger} {e : Event} (h : l.record e = .ok l') :
    (e.rule ∈ l.locked ∧ l' = l) ∨
      (e.rule ∉ l.locked ∧ ∃ t, (l.timeline e.rule).record e.direction e.position = .ok t ∧
        l' = l.set e.rule t) := by
  unfold record isLocked at h
  by_cases hl : e.rule ∈ l.locked
  · rw [if_pos (by simpa using hl)] at h
    cases h
    exact .inl ⟨hl, rfl⟩
  · rw [if_neg (by simpa using hl)] at h
    cases ht : (l.timeline e.rule).record e.direction e.position with
    | error stop => rw [ht] at h; cases h
    | ok t => rw [ht] at h; cases h; exact .inr ⟨hl, t, rfl, rfl⟩

theorem record_locked {l l' : Ledger} {e : Event} (h : l.record e = .ok l') :
    l'.locked = l.locked := by
  obtain ⟨_, rfl⟩ | ⟨_, t, _, rfl⟩ := record_cases h
  · rfl
  · rfl

theorem record_timeline?_ne {l l' : Ledger} {e : Event} (h : l.record e = .ok l') {r : Rule}
    (hr : e.rule ≠ r) : l'.timeline? r = l.timeline? r := by
  obtain ⟨_, rfl⟩ | ⟨_, t, _, rfl⟩ := record_cases h
  · rfl
  · simp [set, Ne.symm hr]

theorem record_congr {l m l' : Ledger} {e : Event} (hlk : m.locked = l.locked)
    (ht : m.timeline? e.rule = l.timeline? e.rule) (h : l.record e = .ok l') :
    ∃ m', m.record e = .ok m' ∧ m'.timeline? e.rule = l'.timeline? e.rule := by
  have hsame : m.timeline e.rule = l.timeline e.rule := by simp only [timeline, ht]
  obtain ⟨hl, rfl⟩ | ⟨hl, t, hrec, rfl⟩ := record_cases h
  · exact ⟨m, by simp [record, isLocked, hlk, hl], ht⟩
  · exact ⟨m.set e.rule t,
      by simp [record, isLocked, hlk, hl, hsame, hrec, Except.map], by simp [set]⟩

theorem recordAll_cons {l l' : Ledger} {e : Event} {rest : List Event}
    (h : l.recordAll (e :: rest) = .ok l') :
    ∃ next, l.record e = .ok next ∧ next.recordAll rest = .ok l' := by
  unfold recordAll at h
  rw [List.foldlM_cons] at h
  cases hr : l.record e with
  | error stop => rw [hr] at h; cases h
  | ok next => rw [hr] at h; exact ⟨next, rfl, h⟩

/-- What requests leave for a rule is what those about the rule leave on their own. -/
theorem recordAll_filter (r : Rule) (events : List Event) :
    ∀ {l m l' : Ledger}, m.locked = l.locked → m.timeline? r = l.timeline? r →
      l.recordAll events = .ok l' →
      ∃ m', m.recordAll (events.filter fun e => decide (e.rule = r)) = .ok m' ∧
        m'.locked = l'.locked ∧ m'.timeline? r = l'.timeline? r := by
  induction events with
  | nil =>
    intro l m l' hlk ht h
    cases h
    exact ⟨m, rfl, hlk, ht⟩
  | cons e rest ih =>
    intro l m l' hlk ht h
    obtain ⟨next, hnext, hrest⟩ := recordAll_cons h
    by_cases hr : e.rule = r
    · subst hr
      obtain ⟨m₁, hm₁, ht₁⟩ := record_congr hlk ht hnext
      have hlk₁ : m₁.locked = next.locked := by rw [record_locked hm₁, record_locked hnext, hlk]
      obtain ⟨m', hm', hlk', ht'⟩ := ih hlk₁ ht₁ hrest
      refine ⟨m', ?_, hlk', ht'⟩
      rw [List.filter_cons_of_pos (by simp)]
      unfold recordAll at hm' ⊢
      rw [List.foldlM_cons, hm₁]
      exact hm'
    · rw [List.filter_cons_of_neg (by simpa using hr)]
      exact ih (hlk.trans (record_locked hnext).symm)
        (ht.trans (record_timeline?_ne hnext hr).symm) hrest

theorem eq_of_recordAll {l la lb : Ledger} {a b : List Event} (ha : l.recordAll a = .ok la)
    (hb : l.recordAll b = .ok lb)
    (h : ∀ r, a.filter (fun e => decide (e.rule = r)) = b.filter fun e => decide (e.rule = r)) :
    la = lb := by
  have hrule : ∀ r, la.locked = lb.locked ∧ la.timeline? r = lb.timeline? r := by
    intro r
    obtain ⟨ma, hma, hlka, hta⟩ := recordAll_filter r a rfl rfl ha
    obtain ⟨mb, hmb, hlkb, htb⟩ := recordAll_filter r b rfl rfl hb
    rw [h r, hmb] at hma
    cases hma
    exact ⟨hlka.symm.trans hlkb, hta.symm.trans htb⟩
  cases la
  cases lb
  obtain ⟨rfl, _⟩ := hrule .noLint
  congr 1
  funext r
  exact (hrule r).2

/-- **The last request wins, in whatever order requests are found.** A ledger can be built from any
requests. In their stable sort by position, the last request before an offset about a rule that is
not locked says whether the rule is active there, and without one it is. Requests in another order
that keeps those about one rule at one position in place build the same ledger, timeline by
timeline. -/
theorem ofEvents_order_free (events : List Event) (locked : List Rule) :
    (∃ sorted, SortedFrom events sorted) ∧
    ∃ l, ofEvents events locked = .ok l ∧
      (∀ sorted, SortedFrom events sorted → ∀ r, r ∉ locked → ∀ p,
        l.isActive r p = (lastRequest? sorted r p).elim true (·.direction.active)) ∧
      ∀ others, Reordered events others → ofEvents others locked = .ok l := by
  refine ⟨⟨_, inOrder_sortedFrom events⟩, ?_⟩
  obtain ⟨l, hl, _, hact⟩ := ofEvents_spec events locked
  refine ⟨l, hl, ?_, ?_⟩
  · intro sorted hsorted r hr p
    rw [hact, hsorted.unique (inOrder_sortedFrom events)]
    simp [hr]
  · intro others hothers
    obtain ⟨l', hl', _⟩ := ofEvents_spec others locked
    rw [hl', eq_of_recordAll hl hl' hothers.filter_inOrder]

/-- Two requests about one rule at one offset keep their order while those around them move. -/
theorem ofEvents_order_free_tie :
    let found : List Event := [⟨9, .explicitAlias, .enable⟩, ⟨4, .join, .disable⟩,
      ⟨9, .explicitAlias, .disable⟩, ⟨4, .explicitAlias, .disable⟩]
    let moved : List Event := [⟨4, .explicitAlias, .disable⟩, ⟨9, .explicitAlias, .enable⟩,
      ⟨9, .explicitAlias, .disable⟩, ⟨4, .join, .disable⟩]
    let sorted : List Event := [⟨4, .join, .disable⟩, ⟨4, .explicitAlias, .disable⟩,
      ⟨9, .explicitAlias, .enable⟩, ⟨9, .explicitAlias, .disable⟩]
    Reordered found moved ∧ SortedFrom found sorted ∧
      ∃ l, ofEvents found [.join] = .ok l ∧ ofEvents moved [.join] = .ok l ∧
        ∀ p, l.isActive .explicitAlias p =
          (lastRequest? sorted .explicitAlias p).elim true (·.direction.active) := by
  intro found moved sorted
  have hmoved : Reordered found moved := by
    refine ⟨by decide, ?_⟩
    intro r p
    simp only [found, moved, List.filter_cons]
    grind
  have hsorted : SortedFrom found sorted := by
    refine ⟨by decide, ?_⟩
    intro p
    simp only [found, sorted, List.filter_cons]
    grind
  obtain ⟨l, hl, hlast, hsame⟩ := (ofEvents_order_free found [.join]).2
  exact ⟨hmoved, hsorted, l, hl, hsame moved hmoved,
    hlast sorted hsorted .explicitAlias (by decide)⟩

end SqlStyle.Ledger
