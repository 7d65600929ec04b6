import Mathlib.Data.List.Induction
import Mathlib.Data.List.Nodup
import SqlStyle.Registry

/-! # Registering and removing checks

A registry is built by calls, some of which are refused. Whatever the calls, no two checks are of
one rule, no check fills the cache after another that looks at syntax trees, and the checks stand in
the order in which they were last registered. What one call can do is said once (`after_cases`);
each invariant is carried over a call by these cases, and over a run by induction on its calls. The
calls that were accepted are named by their index in the run (`Accepted`), so that "last registered"
is about the run and not about the registry. -/

namespace SqlStyle.Registry

/-- A call that asks to change a registry. -/
inductive Call where
  | register (check : Check)
  | unregister (rule : Rule)

def perform (r : Registry) : Call → Except RegistryError Registry
  | .register check => r.register check
  | .unregister rule => r.unregister rule

/-- The registry after a call. One that is refused changes nothing. -/
def after (r : Registry) (call : Call) : Registry :=
  match r.perform call with
  | .ok next => next
  | .error _ => r

/-- The registry after calls to an empty one. -/
def afterAll (calls : List Call) : Registry := calls.foldl after {}

/-- The call with this index in a run was accepted. -/
def Accepted (calls : List Call) (i : Nat) (call : Call) : Prop :=
  calls[i]? = some call ∧ ∃ next, (afterAll (calls.take i)).perform call = .ok next

/-- The last time a check of its rule was registered in a run, it was this check and this call. -/
structure LastRegistered (calls : List Call) (check : Check) (i : Nat) : Prop where
  accepted : Accepted calls i (.register check)
  last : ∀ j other, i < j → Accepted calls j (.register other) → other.rule ≠ check.rule

/-- The check was registered in a run, and its rule has not been removed since. -/
def Standing (calls : List Call) (check : Check) : Prop :=
  ∃ i, Accepted calls i (.register check) ∧ ∀ j, i < j → ¬ Accepted calls j (.unregister check.rule)

/-! ## One call -/

theorem register_error_iff (r : Registry) (check : Check) :
    (∃ e, r.register check = .error e) ↔
      check.rule ∈ r.rules ∨ check.fillsCache = true ∧ ∃ other ∈ r.checks,
          other.requiresTree = true := by
  have htree : r.treeRules.isEmpty = false ↔ ∃ other ∈ r.checks, other.requiresTree = true := by
    simp [treeRules, List.isEmpty_eq_false_iff, List.filter_eq_nil_iff]
  unfold register contains
  by_cases hrule : check.rule ∈ r.rules
  · simp [hrule]
  · rw [← htree]
    simp only [List.contains_eq_mem, hrule, decide_false, Bool.false_eq_true, if_false, false_or]
    cases check.fillsCache <;> cases r.treeRules.isEmpty <;> simp

theorem unregister_error_iff (r : Registry) (rule : Rule) :
    (∃ e, r.unregister rule = .error e) ↔ rule ∉ r.rules := by
  unfold unregister contains
  by_cases hrule : rule ∈ r.rules <;> simp [hrule]

theorem register_ok {r next : Registry} {check : Check} (h : r.register check = .ok next) :
    check.rule ∉ r.rules ∧ (check.fillsCache = true →
      ∀ other ∈ r.checks, other.requiresTree = false) ∧
      next = ⟨r.checks ++ [check]⟩ := by
  have hno : ¬ ∃ e, r.register check = .error e := by
    rintro ⟨e, he⟩
    rw [h] at he
    cases he
  rw [register_error_iff, not_or] at hno
  refine ⟨hno.1, ?_, ?_⟩
  · intro hfills other hm
    rw [Bool.eq_false_iff]
    exact fun htree => hno.2 ⟨hfills, other, hm, htree⟩
  · unfold register at h
    split at h
    · cases h
    · split at h
      · cases h
      · cases h; rfl

theorem unregister_ok {r next : Registry} {rule : Rule} (h : r.unregister rule = .ok next) :
    next = ⟨r.checks.filter (·.rule != rule)⟩ := by
  unfold unregister at h
  split at h
  · cases h; rfl
  · cases h

/-- All that a call can do. -/
theorem after_cases (r : Registry) (call : Call) :
    ((∀ next, r.perform call ≠ .ok next) ∧ r.after call = r) ∨
    (∃ check, call = .register check ∧ (∃ next, r.perform call = .ok next) ∧ check.rule ∉ r.rules ∧
      (check.fillsCache = true → ∀ other ∈ r.checks, other.requiresTree = false) ∧
      r.after call = ⟨r.checks ++ [check]⟩) ∨
    (∃ rule, call = .unregister rule ∧ (∃ next, r.perform call = .ok next) ∧
      r.after call = ⟨r.checks.filter (·.rule != rule)⟩) := by
  unfold after
  cases h : r.perform call with
  | error e => exact .inl ⟨by simp, rfl⟩
  | ok next =>
    cases call with
    | register check =>
      obtain ⟨hrule, hcache, hnext⟩ := register_ok h
      exact .inr (.inl ⟨check, rfl, ⟨next, rfl⟩, hrule, hcache, hnext⟩)
    | unregister rule => exact .inr (.inr ⟨rule, rfl, ⟨next, rfl⟩, unregister_ok h⟩)

theorem after_nodup {r : Registry} (h : r.rules.Nodup) (call : Call) :
    (r.after call).rules.Nodup := by
  obtain ⟨-, hr⟩ | ⟨check, -, -, hnew, -, hr⟩ | ⟨rule, -, -, hr⟩ := after_cases r call
  · rwa [hr]
  · rw [hr, rules, List.map_append]
    exact h.append (List.nodup_singleton _) (by simpa [rules] using hnew)
  · rw [hr]
    exact h.sublist (List.filter_sublist.map _)

/-- No check fills the cache after another check that looks at syntax trees. -/
def CacheFirst (r : Registry) : Prop :=
  r.checks.Pairwise fun a b => ¬ (a.requiresTree = true ∧ b.fillsCache = true)

theorem after_cacheFirst {r : Registry} (h : r.CacheFirst) (call : Call) :
    (r.after call).CacheFirst := by
  obtain ⟨-, hr⟩ | ⟨check, -, -, -, hcache, hr⟩ | ⟨rule, -, -, hr⟩ := after_cases r call
  · rwa [hr]
  · rw [hr]
    refine List.pairwise_append.mpr ⟨h, List.pairwise_singleton _ _, ?_⟩
    rintro other hm _ hcheck ⟨htree, hfills⟩
    obtain rfl := List.mem_singleton.mp hcheck
    rw [hcache hfills other hm] at htree
    cases htree
  · rw [hr]
    exact h.filter _

/-! ## Runs -/

theorem afterAll_concat (calls : List Call) (call : Call) :
    afterAll (calls ++ [call]) = (afterAll calls).after call := by
  simp [afterAll]

theorem Accepted.lt {calls : List Call} {i : Nat} {call : Call} (h : Accepted calls i call) :
    i < calls.length := (List.getElem?_eq_some_iff.mp h.1).1

/-- A longer run accepts the same calls, and the added one if the registry takes it. -/
theorem accepted_concat {calls : List Call} {added : Call} {i : Nat} {call : Call} :
    Accepted (calls ++ [added]) i call ↔ Accepted calls i call ∨
      i = calls.length ∧ call = added ∧ ∃ next, (afterAll calls).perform added = .ok next := by
  unfold Accepted
  rcases Nat.lt_trichotomy i calls.length with hi | rfl | hi
  · rw [List.getElem?_append_left hi, List.take_append_of_le_length (Nat.le_of_lt hi)]
    simp [Nat.ne_of_lt hi]
  · simp only [List.getElem?_concat_length, List.take_left, List.getElem?_eq_none (Nat.le_refl _)]
    constructor
    · rintro ⟨h, hnext⟩
      cases h
      exact .inr ⟨trivial, rfl, hnext⟩
    · rintro (⟨h, _⟩ | ⟨_, rfl, hnext⟩)
      · cases h
      · exact ⟨rfl, hnext⟩
  · rw [List.getElem?_eq_none (by simp; omega), List.getElem?_eq_none (by omega)]
    simp [Nat.ne_of_gt hi]

theorem not_accepted_past {calls : List Call} {added call : Call} {j : Nat} (h : calls.length < j) :
    ¬ Accepted (calls ++ [added]) j call := by
  intro hj
  have := hj.lt
  simp only [List.length_append, List.length_singleton] at this
  omega

/-- Another call changes what stands only by removing its rule or by registering it. -/
theorem standing_concat {calls : List Call} {added : Call} {check : Check} :
    Standing (calls ++ [added]) check ↔
      Standing calls check ∧
          ¬ (added = .unregister check.rule ∧ ∃ next, (afterAll calls).perform added = .ok next) ∨
        added = .register check ∧ ∃ next, (afterAll calls).perform added = .ok next := by
  constructor
  · rintro ⟨i, hi, hlater⟩
    rcases accepted_concat.mp hi with hi | ⟨_, h, hok⟩
    · refine .inl ⟨⟨i, hi, fun j hj h => hlater j hj (accepted_concat.mpr (.inl h))⟩, ?_⟩
      rintro ⟨h, hok⟩
      exact hlater calls.length hi.lt (accepted_concat.mpr (.inr ⟨rfl, h.symm, hok⟩))
    · exact .inr ⟨h.symm, hok⟩
  · rintro (⟨⟨i, hi, hlater⟩, hno⟩ | ⟨h, hok⟩)
    · refine ⟨i, accepted_concat.mpr (.inl hi), ?_⟩
      intro j hj h
      rcases accepted_concat.mp h with h | ⟨_, h, hok⟩
      · exact hlater j hj h
      · exact hno ⟨h.symm, hok⟩
    · exact ⟨calls.length, accepted_concat.mpr (.inr ⟨rfl, h.symm, hok⟩), fun j hj =>
        not_accepted_past hj⟩

/-- A check stays the last of its rule while no other of the rule is registered. -/
theorem LastRegistered.concat {calls : List Call} {added : Call} {check : Check} {i : Nat}
    (h : LastRegistered calls check i)
    (hadded : ∀ other, added = .register other →
      (∃ next, (afterAll calls).perform added = .ok next) →
      other.rule ≠ check.rule) : LastRegistered (calls ++ [added]) check i := by
  refine ⟨accepted_concat.mpr (.inl h.accepted), ?_⟩
  intro j other hj hother
  rcases accepted_concat.mp hother with hother | ⟨_, heq, hok⟩
  · exact h.last j other hj hother
  · exact hadded other heq.symm hok

theorem afterAll_nodup (calls : List Call) : (afterAll calls).rules.Nodup := by
  induction calls using List.reverseRecOn with
  | nil => exact List.nodup_nil
  | append_singleton calls call ih => rw [afterAll_concat]; exact after_nodup ih call

theorem afterAll_cacheFirst (calls : List Call) : (afterAll calls).CacheFirst := by
  induction calls using List.reverseRecOn with
  | nil => exact List.Pairwise.nil
  | append_singleton calls call ih => rw [afterAll_concat]; exact after_cacheFirst ih call

theorem mem_afterAll_iff (calls : List Call) (check : Check) :
    check ∈ (afterAll calls).checks ↔ Standing calls check := by
  induction calls using List.reverseRecOn with
  | nil =>
    constructor
    · intro h; cases h
    · rintro ⟨i, h, _⟩; exact absurd h.lt (Nat.not_lt_zero i)
  | append_singleton calls call ih =>
    rw [afterAll_concat, standing_concat, ← ih]
    obtain ⟨hno, hr⟩ | ⟨new, rfl, hok, -, -, hr⟩ | ⟨rule, rfl, hok, hr⟩ :=
      after_cases (afterAll calls) call
    · simp [hr, hno]
    · simp [hr, hok, @eq_comm _ new]
    · simp [hr, hok, @eq_comm _ rule]

/-- The checks stand in the order in which each was last registered. -/
theorem afterAll_order (calls : List Call) :
    ∃ time : Rule → Nat, (∀ check ∈ (afterAll calls).checks,
      LastRegistered calls check (time check.rule)) ∧
      (afterAll calls).checks.Pairwise fun a b => time a.rule < time b.rule := by
  induction calls using List.reverseRecOn with
  | nil => exact ⟨fun _ => 0, by simp [afterAll], List.Pairwise.nil⟩
  | append_singleton calls call ih =>
    obtain ⟨time, hlast, hsorted⟩ := ih
    rw [afterAll_concat]
    obtain ⟨hno, hr⟩ | ⟨new, rfl, hok, hnew, -, hr⟩ | ⟨rule, rfl, -, hr⟩ :=
      after_cases (afterAll calls) call
    · rw [hr]
      refine ⟨time, fun check hm => (hlast check hm).concat ?_, hsorted⟩
      rintro other - ⟨next, hnext⟩
      exact absurd hnext (hno next)
    · -- the new check is last in both orders, and the rules before it are other rules
      have hother : ∀ check ∈ (afterAll calls).checks, new.rule ≠ check.rule := by
        intro check hm heq
        exact hnew (heq ▸ List.mem_map_of_mem hm)
      have htime : ∀ check ∈ (afterAll calls).checks,
          Function.update time new.rule calls.length check.rule = time check.rule :=
        fun check hm => Function.update_of_ne (hother check hm).symm _ _
      rw [hr]
      refine ⟨Function.update time new.rule calls.length, ?_, ?_⟩
      · intro check hm
        rcases List.mem_append.mp hm with hm | hm
        · rw [htime check hm]
          refine (hlast check hm).concat ?_
          rintro other heq -
          cases heq
          exact hother check hm
        · obtain rfl := List.mem_singleton.mp hm
          rw [Function.update_self]
          exact ⟨accepted_concat.mpr (.inr ⟨rfl, rfl, hok⟩),
            fun j other hj h => absurd h (not_accepted_past hj)⟩
      · refine List.pairwise_append.mpr ⟨?_, List.pairwise_singleton _ _, ?_⟩
        · refine hsorted.imp_of_mem ?_
          intro a b ha hb hab
          rwa [htime a ha, htime b hb]
        · intro a ha b hb
          obtain rfl := List.mem_singleton.mp hb
          rw [htime a ha, Function.update_self]
          exact (hlast a ha).accepted.lt
    · rw [hr]
      refine ⟨time, fun check hm => (hlast check (List.mem_filter.mp hm).1).concat ?_,
        hsorted.filter _⟩
      rintro other heq -
      cases heq

/-- **A registry after any calls.** Its rules are distinct, its checks are those that were
registered and not removed since, in the order in which each was last registered, and none of them
fills the cache after another that looks at syntax trees. Registering is refused just if the rule
has a check, or if the check fills the cache and a registered one looks at trees; removing just if
the rule has no check. A refused call leaves the registry as it is. -/
theorem afterAll_wellFormed (calls : List Call) :
    (afterAll calls).rules.Nodup ∧
    (∃ time : Rule → Nat, (∀ check ∈ (afterAll calls).checks,
      LastRegistered calls check (time check.rule)) ∧
      (afterAll calls).checks.Pairwise fun a b => time a.rule < time b.rule) ∧
    (∀ check, check ∈ (afterAll calls).checks ↔ Standing calls check) ∧
    (afterAll calls).CacheFirst ∧
    (∀ check, (∃ e, (afterAll calls).register check = .error e) ↔
      check.rule ∈ (afterAll calls).rules ∨
        check.fillsCache = true ∧ ∃ other ∈ (afterAll calls).checks, other.requiresTree = true) ∧
    (∀ rule, (∃ e, (afterAll calls).unregister rule = .error e) ↔ rule ∉ (afterAll calls).rules) ∧
    ∀ call e, (afterAll calls).perform call = .error e →
        afterAll (calls ++ [call]) = afterAll calls := by
  refine ⟨afterAll_nodup calls, afterAll_order calls, mem_afterAll_iff calls,
    afterAll_cacheFirst calls, register_error_iff _, unregister_error_iff _, ?_⟩
  intro call e h
  rw [afterAll_concat, after, h]

/-- The check of joins makes room for the parsing check and comes back behind it; another check that
fills the cache is then refused. -/
theorem afterAll_wellFormed_reRegistered :
    let calls : List Call := [.register .join, .register .parserSucceeds, .register .countStar,
      .unregister .join, .register .parserSucceeds, .register .join, .unregister .letterCase]
    let late : Check := .fixed .letterCase false true (.ok [])
    (afterAll calls).rules = [.countStar, .parserFailed, .join] ∧ (afterAll calls).CacheFirst ∧
      (∃ e, (afterAll calls).perform (.register late) = .error e) ∧
      afterAll (calls ++ [.register late]) = afterAll calls := by
  intro calls late
  have hrules : (afterAll calls).rules = [.countStar, .parserFailed, .join] := by rfl
  obtain ⟨_, _, _, hcache, hregister, _, hsame⟩ := afterAll_wellFormed calls
  have hlate : ∃ e, (afterAll calls).perform (.register late) = .error e :=
    (hregister late).mpr (.inr ⟨rfl, .join, .tail _ (.tail _ (.head _)), rfl⟩)
  obtain ⟨e, he⟩ := hlate
  exact ⟨hrules, hcache, ⟨e, he⟩, hsame _ e he⟩

end SqlStyle.Registry
