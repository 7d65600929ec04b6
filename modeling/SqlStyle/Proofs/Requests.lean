import SqlStyle.Proofs.EventOrder
import SqlStyle.Proofs.Positions

/-! # A ledger after any calls

Requests may come out of order, ask for what holds already, concern locked rules or be refused, and
a timeline may be asked for in between. Calls change the ledger in place: a request first sees to it
that its rule has a timeline and then writes to it, so a refusal could leave half a change behind.
It does not: only a timeline with a flip can refuse, and that one was kept before (`request_cases`).
The flips of every rule therefore stay in order, and with that the leading flips before an offset
are all the flips before it. -/

namespace SqlStyle

namespace Timeline

theorem after_length {α : Type} (xs : List α) (initial : Bool) :
    after initial xs.length = xs.foldl (fun active _ => !active) initial := by
  induction xs generalizing initial with
  | nil => cases initial <;> rfl
  | cons x rest ih =>
    rw [List.foldl_cons, ← ih, List.length_cons, after_succ]
    cases initial <;> simp [after]

/-- What is answered along the document: the start flipped once per flip strictly before the
offset. -/
structure Regular (t : Timeline) : Prop where
  ordered : t.flips.Pairwise (· ≤ ·)
  flipped : ∀ p, t.isActive p = (t.flips.filter (· < p)).foldl (fun active _ => !active) t.initial
  before : ∀ p, (∀ first ∈ t.flips.head?, p ≤ first) → t.isActive p = t.initial
  past : ∀ p, (∀ last ∈ t.flips.getLast?, last < p) → t.isActive p = t.current

theorem le_getLast? {flips : List Int} (h : flips.Pairwise (· ≤ ·)) {last : Int}
    (hlast : flips.getLast? = some last) : ∀ f ∈ flips, f ≤ last := by
  obtain ⟨rest, rfl⟩ := List.getLast?_eq_some_iff.mp hlast
  intro f hf
  rcases List.mem_append.mp hf with hf | hf
  · exact (List.pairwise_append.mp h).2.2 f hf last List.mem_cons_self
  · exact Int.le_of_eq (List.mem_singleton.mp hf)

theorem regular_of_ordered {t : Timeline} (h : t.flips.Pairwise (· ≤ ·)) : t.Regular := by
  refine ⟨h, ?_, ?_, ?_⟩
  · intro p
    have hall : t.flips.takeWhile (· < p) = t.flips.filter (· < p) := by
      refine takeWhile_eq_filter (h.imp ?_)
      intro f g hfg hg
      exact decide_eq_true (Int.lt_of_le_of_lt hfg (of_decide_eq_true hg))
    rw [isActive, hall, after_length]
  · intro p hp
    cases hflips : t.flips with
    | nil => simp [isActive, hflips, after]
    | cons first rest =>
      have hle : p ≤ first := hp first (by rw [hflips]; rfl)
      have hnone : t.flips.takeWhile (· < p) = [] := by
        rw [hflips, List.takeWhile_cons_of_neg (by simpa using hle)]
      rw [isActive, hnone]
      simp [after]
  · intro p hp
    cases hlast : t.flips.getLast? with
    | none =>
      have hnil : t.flips = [] := List.getLast?_eq_none_iff.mp hlast
      simp [isActive, current, hnil]
    | some last =>
      have hend : t.EndsBy last := le_getLast? h hlast
      exact hend.isActive_eq (hp last hlast)

/-- All that recording can do. -/
theorem record_cases (t : Timeline) (direction : Direction) (position : Int) :
    (t.current = direction.active ∧ t.record direction position = .ok t) ∨
    (t.current ≠ direction.active ∧ (∀ last ∈ t.flips.getLast?, last ≤ position) ∧
      t.record direction position = .ok { t with flips := t.flips ++ [position] }) ∨
    (t.current ≠ direction.active ∧ ∃ last, t.flips.getLast? = some last ∧ position < last ∧
      t.record direction position = .error ⟨position, last⟩) := by
  by_cases hc : t.current = direction.active
  · exact .inl ⟨hc, by rw [record, if_pos hc]⟩
  · refine .inr ?_
    rw [record, if_neg hc, flip]
    cases hlast : t.flips.getLast? with
    | none => exact .inl ⟨hc, by simp, rfl⟩
    | some last =>
      by_cases hp : position < last
      · exact .inr ⟨hc, last, rfl, hp, if_pos hp⟩
      · refine .inl ⟨hc, ?_, if_neg hp⟩
        intro other hother
        cases hother
        exact Int.not_lt.mp hp

theorem ordered_concat {flips : List Int} (h : flips.Pairwise (· ≤ ·)) {position : Int}
    (hp : ∀ last ∈ flips.getLast?, last ≤ position) : (flips ++ [position]).Pairwise (· ≤ ·) := by
  refine List.pairwise_append.mpr ⟨h, List.pairwise_singleton _ _, ?_⟩
  intro f hf g hg
  rw [List.mem_singleton.mp hg]
  cases hlast : flips.getLast? with
  | none => rw [List.getLast?_eq_none_iff.mp hlast] at hf; cases hf
  | some last => exact Int.le_trans (le_getLast? h hlast f hf) (hp last hlast)

end Timeline

namespace Ledger

/-- A call on a ledger: a request, or a look at the timeline of a rule. -/
inductive Call where
  | request (e : Event)
  | timeline (r : Rule)

/-- What a call makes of a ledger, and its refusal if there is one. A rule without a timeline is
given one first, and what has been written by then stays. -/
def perform (l : Ledger) : Call → Ledger × Option OutOfOrder
  | .timeline r => (l.touch r, none)
  | .request e =>
    if l.isLocked e.rule then (l, none)
    else
      let touched := l.touch e.rule
      match (touched.timeline e.rule).record e.direction e.position with
      | .ok t => (touched.set e.rule t, none)
      | .error refusal => (touched, some refusal)

/-- The ledger after calls to a fresh one. -/
def afterCalls (locked : List Rule) (calls : List Call) : Ledger :=
  calls.foldl (fun l call => (l.perform call).1) (start locked)

/-! ## One call -/

theorem timeline_touch (l : Ledger) (r r' : Rule) : (l.touch r).timeline r' = l.timeline r' := by
  rw [touch, timeline_set]
  split
  · rename_i h; rw [h]
  · rfl

theorem touch_set (l : Ledger) (r : Rule) (t : Timeline) : (l.touch r).set r t = l.set r t := by
  unfold touch set
  congr 1
  funext r'
  by_cases hr : r' = r <;> simp [hr]

theorem touch_of_kept {l : Ledger} {r : Rule} {t : Timeline} (h : l.timeline? r = some t) :
    l.touch r = l := by
  unfold touch set timeline
  rw [h]
  congr 1
  funext r'
  split
  · rename_i hr; rw [hr, h]; rfl
  · rfl

theorem kept_of_flip {l : Ledger} {r : Rule} {last : Int}
    (h : (l.timeline r).flips.getLast? = some last) :
    ∃ t, l.timeline? r = some t := by
  cases ht : l.timeline? r with
  | none => simp [timeline, ht] at h
  | some t => exact ⟨t, rfl⟩

/-- All that a request can do. A refused one finds a timeline that was kept already. -/
theorem request_cases (l : Ledger) (e : Event) :
    (e.rule ∈ l.locked ∧ l.perform (.request e) = (l, none)) ∨
    (e.rule ∉ l.locked ∧ (l.timeline e.rule).current = e.direction.active ∧
      l.perform (.request e) = (l.touch e.rule, none)) ∨
    (e.rule ∉ l.locked ∧ (l.timeline e.rule).current ≠ e.direction.active ∧
      (∀ last ∈ (l.timeline e.rule).flips.getLast?, last ≤ e.position) ∧
      l.perform (.request e) = (l.set e.rule { l.timeline e.rule with
        flips := (l.timeline e.rule).flips ++ [e.position] }, none)) ∨
    (e.rule ∉ l.locked ∧ (l.timeline e.rule).current ≠ e.direction.active ∧
      ∃ last, (l.timeline e.rule).flips.getLast? = some last ∧ e.position < last ∧
        l.perform (.request e) = (l, some ⟨e.position, last⟩)) := by
  by_cases hl : e.rule ∈ l.locked
  · exact .inl ⟨hl, by simp [perform, isLocked, hl]⟩
  · refine .inr ?_
    have hfree : l.isLocked e.rule = false := decide_eq_false hl
    simp only [perform, hfree, Bool.false_eq_true, if_false, timeline_touch]
    obtain ⟨hc, hr⟩ | ⟨hc, hle, hr⟩ | ⟨hc, last, hlast, hlt, hr⟩ :=
      (l.timeline e.rule).record_cases e.direction e.position
    · refine .inl ⟨hl, hc, ?_⟩
      rw [hr]
      simp only [touch_set]
      rfl
    · refine .inr (.inl ⟨hl, hc, hle, ?_⟩)
      rw [hr]
      simp only [touch_set]
    · -- the flip that is in the way shows that the timeline was there before
      refine .inr (.inr ⟨hl, hc, last, hlast, hlt, ?_⟩)
      obtain ⟨t, ht⟩ := kept_of_flip hlast
      rw [hr, touch_of_kept ht]

/-- What a request does to a ledger. -/
structure Requested (l : Ledger) (e : Event) (l' : Ledger) (refusal : Option OutOfOrder) :
    Prop where
  others : ∀ r, r ≠ e.rule → l'.timeline? r = l.timeline? r
  locked : e.rule ∈ l.locked → l' = l
  refused : ∀ stop, refusal = some stop ↔
    e.rule ∉ l.locked ∧ (l.timeline e.rule).current ≠ e.direction.active ∧
      (l.timeline e.rule).flips.getLast? = some stop.last ∧ stop.position = e.position ∧
      e.position < stop.last
  atomic : refusal ≠ none → l' = l
  accepted : refusal = none → e.rule ∉ l.locked → (l'.timeline e.rule).current = e.direction.active

theorem perform_requested (l : Ledger) (e : Event) :
    l.Requested e (l.perform (.request e)).1 (l.perform (.request e)).2 := by
  obtain ⟨hl, hp⟩ | ⟨hl, hc, hp⟩ | ⟨hl, hc, hle, hp⟩ | ⟨hl, hc, last, hlast, hlt, hp⟩ :=
    l.request_cases e
  all_goals rw [hp]
  · exact ⟨fun _ _ => rfl, fun _ => rfl, by simp [hl], by simp, fun _ h => absurd hl h⟩
  · refine ⟨?_, fun h => absurd h hl, by simp [hc], by simp, ?_⟩
    · intro r hr
      simp [touch, set, hr]
    · intro _ _
      rw [timeline_touch, hc]
  · refine ⟨?_, fun h => absurd h hl, ?_, by simp, ?_⟩
    · intro r hr
      simp [set, hr]
    · intro stop
      constructor
      · intro h; cases h
      · rintro ⟨_, _, hlast, _, hlt⟩
        exact absurd (hle _ hlast) (Int.not_le.mpr hlt)
    · intro _ _
      rw [timeline_set, if_pos rfl, Timeline.current_concat hc]
  · refine ⟨fun _ _ => rfl, fun _ => rfl, ?_, fun _ => rfl, by simp⟩
    intro stop
    constructor
    · intro h
      cases h
      exact ⟨hl, hc, hlast, rfl, hlt⟩
    · rintro ⟨_, _, hlast', hpos, _⟩
      rw [hlast] at hlast'
      cases hlast'
      cases stop
      cases hpos
      rfl

/-- In place or not, a request comes to the same. -/
theorem record_eq_perform (l : Ledger) (e : Event) :
    l.record e = match l.perform (.request e) with
      | (l', none) => .ok l'
      | (_, some refusal) => .error refusal := by
  unfold record perform
  simp only [timeline_touch]
  split
  · rfl
  · cases (l.timeline e.rule).record e.direction e.position with
    | error refusal => rfl
    | ok t =>
      show Except.ok (l.set e.rule t) = .ok ((l.touch e.rule).set e.rule t)
      rw [touch_set]

/-! ## Runs -/

/-- Locked rules are off for good, the others start active, and no timeline is out of order. -/
structure WellKept (locked : List Rule) (l : Ledger) : Prop where
  locked_eq : l.locked = locked
  off : ∀ r ∈ locked, l.timeline? r = some { initial := false }
  initial : ∀ r, r ∉ locked → (l.timeline r).initial = true
  ordered : ∀ r, (l.timeline r).flips.Pairwise (· ≤ ·)

theorem start_wellKept (locked : List Rule) : WellKept locked (start locked) := by
  refine ⟨rfl, ?_, ?_, ?_⟩
  · intro r hr
    simp [start, hr]
  · intro r hr
    simp [timeline, start, hr]
  · intro r
    by_cases hr : r ∈ locked <;> simp [timeline, start, hr]

theorem WellKept.set {locked : List Rule} {l : Ledger} (h : WellKept locked l) {r : Rule}
    {t : Timeline} (hr : r ∈ locked → t = { initial := false })
    (hinitial : t.initial = (l.timeline r).initial) (hordered : t.flips.Pairwise (· ≤ ·)) :
    WellKept locked (l.set r t) := by
  refine ⟨h.locked_eq, ?_, ?_, ?_⟩
  · intro r' hr'
    by_cases heq : r' = r
    · subst heq
      simp [Ledger.set, hr hr']
    · simp [Ledger.set, heq, h.off r' hr']
  · intro r' hr'
    rw [timeline_set]
    split
    · rename_i heq
      subst heq
      rw [hinitial, h.initial r' hr']
    · exact h.initial r' hr'
  · intro r'
    rw [timeline_set]
    split
    · exact hordered
    · exact h.ordered r'

theorem WellKept.touch {locked : List Rule} {l : Ledger} (h : WellKept locked l) (r : Rule) :
    WellKept locked (l.touch r) := by
  refine h.set ?_ rfl (h.ordered r)
  intro hr
  simp [Ledger.timeline, h.off r hr]

theorem WellKept.perform {locked : List Rule} {l : Ledger} (h : WellKept locked l) (call : Call) :
    WellKept locked (l.perform call).1 := by
  cases call with
  | timeline r => exact h.touch r
  | request e =>
    obtain ⟨_, hp⟩ | ⟨_, _, hp⟩ | ⟨hl, _, hle, hp⟩ | ⟨_, _, _, _, _, hp⟩ := l.request_cases e
    · rwa [hp]
    · rw [hp]
      exact h.touch e.rule
    · rw [hp]
      refine h.set ?_ rfl (Timeline.ordered_concat (h.ordered e.rule) hle)
      intro hr
      exact absurd (h.locked_eq ▸ hr) hl
    · rwa [hp]

theorem afterCalls_concat (locked : List Rule) (calls : List Call) (call : Call) :
    afterCalls locked (calls ++ [call]) = ((afterCalls locked calls).perform call).1 := by
  simp [afterCalls]

theorem afterCalls_wellKept (locked : List Rule) (calls : List Call) :
    WellKept locked (afterCalls locked calls) :=
  List.foldlRecOn (motive := WellKept locked) calls _ (start_wellKept locked) fun _ h call _ =>
    h.perform call

/-- **A ledger after any calls.** Every timeline has its flips in order and answers with its start,
flipped once per flip strictly before the offset: the start up to the first flip, the latest state
past the last one. Locked rules are off everywhere. One more request touches nothing but the
timeline of its rule, and no locked rule. It is refused just if it would flip a rule before the
rule's last flip, and then the whole ledger is as before; otherwise it leaves the rule as requested,
unless the rule is locked. -/
theorem afterCalls_regular (locked : List Rule) (calls : List Call) :
    (afterCalls locked calls).locked = locked ∧
    (∀ r, ((afterCalls locked calls).timeline r).Regular ∧
      ((afterCalls locked calls).timeline r).initial = decide (r ∉ locked) ∧
      ∀ p, (afterCalls locked calls).isActive r p =
        ((afterCalls locked calls).timeline r).isActive p) ∧
    (∀ r ∈ locked, (afterCalls locked calls).timeline? r = some { initial := false }) ∧
    ∀ e, ∃ l' refusal, (afterCalls locked calls).perform (.request e) = (l', refusal) ∧
      afterCalls locked (calls ++ [.request e]) = l' ∧
      (afterCalls locked calls).record e = (match refusal with
        | none => .ok l'
        | some stop => .error stop) ∧
      (afterCalls locked calls).Requested e l' refusal := by
  have h := afterCalls_wellKept locked calls
  refine ⟨h.locked_eq, ?_, h.off, ?_⟩
  · intro r
    refine ⟨Timeline.regular_of_ordered (h.ordered r), ?_, isActive_eq_timeline _ r⟩
    by_cases hr : r ∈ locked
    · simp [Ledger.timeline, h.off r hr, hr]
    · simp [h.initial r hr, hr]
  · intro e
    have hrequested := perform_requested (afterCalls locked calls) e
    have hrecord := record_eq_perform (afterCalls locked calls) e
    rcases hperform : (afterCalls locked calls).perform (.request e) with ⟨l', refusal⟩
    rw [hperform] at hrequested hrecord
    refine ⟨l', refusal, rfl, by rw [afterCalls_concat, hperform], ?_, hrequested⟩
    rw [hrecord]
    cases refusal <;> rfl

/-- A rule goes off and on again at one offset, with a refusal and an idle request in between;
switching it off before that offset is refused once more. -/
theorem afterCalls_regular_refused :
    let calls : List Call := [.request ⟨9, .explicitAlias, .disable⟩, .timeline .join,
      .request ⟨4, .explicitAlias, .enable⟩, .request ⟨2, .explicitAlias, .disable⟩,
      .request ⟨9, .explicitAlias, .enable⟩, .request ⟨7, .countStar, .disable⟩]
    let late : Event := ⟨4, .explicitAlias, .disable⟩
    let l := afterCalls [.countStar] calls
    l.timeline .explicitAlias = ⟨true, [9, 9]⟩ ∧ (l.timeline .explicitAlias).Regular ∧
      l.timeline? .countStar = some { initial := false } ∧ l.record late = .error ⟨4, 9⟩ ∧
      afterCalls [.countStar] (calls ++ [.request late]) = l := by
  intro calls late l
  have ht : l.timeline .explicitAlias = ⟨true, [9, 9]⟩ := by decide
  obtain ⟨_, hregular, hoff, hnext⟩ := afterCalls_regular [.countStar] calls
  obtain ⟨l', refusal, _, hafter, hrecord, hrequested⟩ := hnext late
  have hrefused : refusal = some ⟨4, 9⟩ := by
    refine (hrequested.refused ⟨4, 9⟩).mpr ⟨by decide, ?_, ?_, rfl, by decide⟩
    · show (l.timeline .explicitAlias).current ≠ _
      rw [ht]
      decide
    · show (l.timeline .explicitAlias).flips.getLast? = _
      rw [ht]
      rfl
  refine ⟨ht, (hregular _).1, hoff _ List.mem_cons_self, ?_, ?_⟩
  · rw [hrecord, hrefused]
  · rw [hafter]
    exact hrequested.atomic (by rw [hrefused]; exact Option.some_ne_none _)

end Ledger

end SqlStyle
