import Mathlib.Data.List.TakeWhile
import SqlStyle.Ledger.Basic

/-! # The last request wins

Requests that come in document order are never refused, and what a timeline then answers at an
offset is the direction of the last request strictly before it. The bookkeeping fact behind both is
that no flip lies past the request recorded last (`EndsBy`): recording at or after that point
appends at the end, so the answers before it stay and the answers after it are the new direction.
One request is `record_spec`, a run of them `recordAll_spec`, and `ofEvents_spec` adds the sorting
in front. -/

namespace SqlStyle

namespace Timeline

/-- No flip lies past a position. -/
def EndsBy (t : Timeline) (position : Int) : Prop := ∀ f ∈ t.flips, f ≤ position

theorem after_succ (initial : Bool) (n : Nat) : after initial (n + 1) = !after initial n := by
  unfold after
  rcases Nat.mod_two_eq_zero_or_one n with h | h
  · have h1 : (n + 1) % 2 = 1 := by omega
    simp [h, h1]
  · have h1 : (n + 1) % 2 = 0 := by omega
    simp [h, h1]

theorem current_concat {t : Timeline} {direction : Direction} (h : t.current ≠ direction.active)
    (position : Int) :
    ({ t with flips := t.flips ++ [position] } : Timeline).current = direction.active := by
  have hflip : ({ t with flips := t.flips ++ [position] } : Timeline).current = !t.current := by
    simp only [current, List.length_append, List.length_singleton]
    exact after_succ _ _
  rw [hflip, Bool.not_eq]
  exact h

theorem EndsBy.isActive_eq {t : Timeline} {position p : Int} (h : t.EndsBy position)
    (hp : position < p) : t.isActive p = t.current := by
  have hall : t.flips.takeWhile (· < p) = t.flips := by
    apply List.takeWhile_eq_self_iff.mpr
    intro f hf
    have := h f hf
    exact decide_eq_true (by omega)
  unfold isActive current
  rw [hall]

theorem EndsBy.flip_eq {t : Timeline} {position : Int} (h : t.EndsBy position) :
    t.flip position = .ok { t with flips := t.flips ++ [position] } := by
  unfold flip
  split
  · rename_i last hl
    have := h last (List.mem_of_getLast? hl)
    rw [if_neg (by omega)]
  · rfl

/-- Recording at or after every flip so far succeeds. It decides what is answered past its position
and leaves the rest alone. -/
theorem record_spec {t : Timeline} (direction : Direction) {position : Int}
    (h : t.EndsBy position) :
    ∃ t', t.record direction position = .ok t' ∧ t'.EndsBy position ∧
      ∀ p, t'.isActive p = if position < p then direction.active else t.isActive p := by
  by_cases hc : t.current = direction.active
  · refine ⟨t, by simp [record, hc], h, ?_⟩
    intro p
    split
    · rename_i hp
      rw [h.isActive_eq hp, hc]
    · rfl
  · -- a real flip: the new entry is the last one, and it counts exactly past its position
    have hend : ({ t with flips := t.flips ++ [position] } : Timeline).EndsBy position := by
      intro f hf
      rcases List.mem_append.mp hf with hf | hf
      · exact h f hf
      · have : f = position := by simpa using hf
        omega
    refine ⟨{ t with flips := t.flips ++ [position] }, ?_, hend, ?_⟩
    · rw [record, if_neg hc, h.flip_eq]
    intro p
    split
    · rename_i hp
      rw [hend.isActive_eq hp, current_concat hc]
    · rename_i hp
      have htw : (t.flips ++ [position]).takeWhile (· < p) = t.flips.takeWhile (· < p) := by
        rw [List.takeWhile_append]
        split
        · rename_i hl
          have hpos : [position].takeWhile (· < p) = [] := by simp [hp]
          have hself := (List.takeWhile_prefix (l := t.flips) (· < p)).eq_of_length hl
          rw [hpos, hself, List.append_nil]
        · rfl
      simp only [isActive, htw]

end Timeline

namespace Ledger

/-- No kept timeline flips past a position. -/
def EndsBy (l : Ledger) (position : Int) : Prop :=
  ∀ r t, l.timeline? r = some t → t.EndsBy position

theorem EndsBy.mono {l : Ledger} {a b : Int} (h : l.EndsBy a) (hab : a ≤ b) : l.EndsBy b := by
  intro r t ht f hf
  have := h r t ht f hf
  omega

theorem EndsBy.timeline {l : Ledger} {position : Int} (h : l.EndsBy position) (r : Rule) :
    (l.timeline r).EndsBy position := by
  unfold Ledger.timeline
  cases ht : l.timeline? r with
  | none => intro f hf; simp at hf
  | some t => exact h r t ht

theorem isActive_eq_timeline (l : Ledger) (r : Rule) (p : Int) :
    l.isActive r p = (l.timeline r).isActive p := by
  unfold isActive timeline
  cases l.timeline? r with
  | none => rfl
  | some t => rfl

theorem timeline_set (l : Ledger) (r r' : Rule) (t : Timeline) :
    (l.set r t).timeline r' = if r' = r then t else l.timeline r' := by
  unfold set timeline
  by_cases h : r' = r
  · simp [h]
  · simp [h]

/-- One request in order: it succeeds and changes exactly the answers about its own rule past its
position, unless the rule is locked. -/
theorem record_spec {l : Ledger} {e : Event} (h : l.EndsBy e.position) :
    ∃ l', l.record e = .ok l' ∧ l'.locked = l.locked ∧ l'.EndsBy e.position ∧
      ∀ r p, l'.isActive r p =
        if r = e.rule ∧ r ∉ l.locked ∧ e.position < p then
            e.direction.active else l.isActive r p := by
  by_cases hl : e.rule ∈ l.locked
  · refine ⟨l, by simp [record, isLocked, hl], rfl, h, ?_⟩
    intro r p
    rw [if_neg]
    rintro ⟨rfl, hn, -⟩
    exact hn hl
  · obtain ⟨t', ht', hend, hact⟩ := Timeline.record_spec e.direction (h.timeline e.rule)
    refine ⟨l.set e.rule t', by simp [record, isLocked, hl, ht', Except.map], rfl, ?_, ?_⟩
    · intro r t ht
      simp only [set] at ht
      split at ht
      · cases ht; exact hend
      · exact h r t ht
    · intro r p
      rw [isActive_eq_timeline, timeline_set]
      by_cases hr : r = e.rule
      · subst hr
        rw [if_pos rfl, hact, isActive_eq_timeline]
        simp [hl]
      · simp [hr, isActive_eq_timeline]

/-- The last request about a rule strictly before a position. -/
def lastRequest? (events : List Event) (r : Rule) (p : Int) : Option Event :=
  (events.filter fun e => decide (e.rule = r) && decide (e.position < p)).getLast?

theorem lastRequest?_cons (e : Event) (events : List Event) (r : Rule) (p : Int) :
    lastRequest? (e :: events) r p =
      (lastRequest? events r p).or (if e.rule = r ∧ e.position < p then some e else none) := by
  unfold lastRequest?
  by_cases h : e.rule = r ∧ e.position < p
  · simp [h, List.getLast?_cons, Option.or_some]
  · rw [List.filter_cons_of_neg (by simpa using h), if_neg h, Option.or_none]

/-- Requests in document order are all accepted, and the last one before an offset decides there. -/
theorem recordAll_spec (events : List Event) (hs : events.Pairwise (·.position ≤ ·.position)) :
    ∀ l : Ledger, (∀ e ∈ events, l.EndsBy e.position) →
      ∃ l', l.recordAll events = .ok l' ∧ l'.locked = l.locked ∧
        ∀ r p, l'.isActive r p = if r ∈ l.locked then l.isActive r p else
          (lastRequest? events r p).elim (l.isActive r p) (·.direction.active) := by
  induction events with
  | nil => intro l _; exact ⟨l, rfl, rfl, fun r p => by simp [lastRequest?]⟩
  | cons e rest ih =>
    intro l hl
    obtain ⟨hle, hs⟩ := List.pairwise_cons.mp hs
    obtain ⟨l₁, hr, hlk, hend, hact⟩ := record_spec (hl e List.mem_cons_self)
    obtain ⟨l₂, hr₂, hlk₂, hact₂⟩ := ih hs l₁ (fun e' he' => hend.mono (hle e' he'))
    refine ⟨l₂, ?_, hlk₂.trans hlk, ?_⟩
    · unfold recordAll at hr₂ ⊢
      rw [List.foldlM_cons, hr]
      exact hr₂
    · intro r p
      rw [hact₂, hlk, lastRequest?_cons, hact]
      by_cases hlock : r ∈ l.locked
      · simp [hlock]
      · simp only [hlock, if_false, not_false_eq_true, true_and]
        cases lastRequest? rest r p with
        | some e' => simp
        | none =>
          by_cases he : e.rule = r ∧ e.position < p
          · obtain ⟨rfl, hp⟩ := he
            simp [hp]
          · have he' : ¬ (r = e.rule ∧ e.position < p) := fun h => he ⟨h.1.symm, h.2⟩
            simp [he, he']

theorem start_endsBy (locked : List Rule) (position : Int) : (start locked).EndsBy position := by
  intro r t ht f hf
  simp only [start] at ht
  split at ht
  · cases ht; simp at hf
  · cases ht

theorem start_isActive (locked : List Rule) (r : Rule) (p : Int) :
    (start locked).isActive r p = decide (r ∉ locked) := by
  unfold isActive start
  by_cases h : r ∈ locked
  · simp [h, Timeline.isActive, Timeline.after]
  · simp [h]

/-- The order in which the requests of a ledger are recorded. -/
def inOrder (events : List Event) : List Event :=
  events.mergeSort fun a b => decide (a.position ≤ b.position)

theorem position_trans (a b c : Event) (hab : decide (a.position ≤ b.position) = true)
    (hbc : decide (b.position ≤ c.position) = true) : decide (a.position ≤ c.position) = true :=
  decide_eq_true (Int.le_trans (of_decide_eq_true hab) (of_decide_eq_true hbc))

theorem position_total (a b : Event) :
    (decide (a.position ≤ b.position) || decide (b.position ≤ a.position)) = true := by
  simpa using Int.le_total a.position b.position

theorem inOrder_pairwise (events : List Event) :
    (inOrder events).Pairwise (·.position ≤ ·.position) :=
  (List.pairwise_mergeSort position_trans position_total events).imp of_decide_eq_true

/-- A ledger is built from any requests, and answers for a rule that is not locked with the last
request before the offset, in order of position. -/
theorem ofEvents_spec (events : List Event) (locked : List Rule) :
    ∃ l, ofEvents events locked = .ok l ∧ l.locked = locked ∧
      ∀ r p, l.isActive r p =
        (decide (r ∉ locked) && (lastRequest? (inOrder events) r p).elim true
            (·.direction.active)) := by
  obtain ⟨l, hl, hlk, hact⟩ := recordAll_spec (inOrder events) (inOrder_pairwise events)
    (start locked)
    (fun e _ => start_endsBy locked e.position)
  refine ⟨l, hl, hlk, ?_⟩
  intro r p
  rw [hact, start_isActive]
  by_cases h : r ∈ locked
  · simp [start, h]
  · simp [start, h]

end Ledger

end SqlStyle
