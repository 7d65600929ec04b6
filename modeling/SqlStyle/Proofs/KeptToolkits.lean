import Mathlib.Data.List.Induction
import Mathlib.Data.List.Nodup
import SqlStyle.Toolkit.Store

/-! # Toolkits follow the backend

A store is used by calls: a factory is registered, a toolkit is asked for, the store is reset. Which
factory is in use is told by the calls alone (`backend`). To tell what it makes, every factory of a
run is replaced by one that notes in the world what it makes (`Factory.noting`). That changes
nothing else, and what is noted since the backend last changed is exactly what the store keeps
(`Accounts`): each dialect at most once. What one request can do is said once (`request_cases`). -/

namespace SqlStyle

/-- A toolkit that was made for a dialect, with the world before and after. -/
structure Making (σ τ : Type) where
  dialect : Dialect
  before : σ
  toolkit : τ
  after : σ

def Making.entry {σ τ : Type} (m : Making σ τ) : Dialect × τ := (m.dialect, m.toolkit)

namespace Factory

variable {σ τ : Type}

/-- The factory makes the toolkit in the world before, and leaves the world after. -/
def Makes (f : Factory σ τ) (m : Making σ τ) : Prop :=
  f m.dialect m.before = (.ok m.toolkit, m.after)

/-- The factory, except that it notes in the world what it makes. -/
def noting (f : Factory σ τ) : Factory (σ × List (Making σ τ)) τ := fun d world =>
  match f d world.1 with
  | (.ok toolkit, after) => (.ok toolkit, after, world.2 ++ [⟨d, world.1, toolkit, after⟩])
  | (.error fault, after) => (.error fault, after, world.2)

end Factory

namespace ToolkitStore

variable {σ τ : Type}

/-- A call on a store. -/
inductive Call (σ τ : Type) where
  | register (factory : Factory σ τ)
  | get (name : String)
  | reset

/-- A store and the world it is used in. -/
abbrev State (σ τ : Type) := ToolkitStore σ τ × σ

def after (state : State σ τ) : Call σ τ → State σ τ
  | .register f => (state.1.register f, state.2)
  | .get name => (state.1.request name state.2).2
  | .reset => (state.1.reset, state.2)

/-- A new store after calls. -/
def afterAll (standard : Factory σ τ) (world : σ) (calls : List (Call σ τ)) : State σ τ :=
  calls.foldl after ({ standard := standard }, world)

/-- The factory that a call puts in use. -/
def Call.swap? (standard : Factory σ τ) : Call σ τ → Option (Factory σ τ)
  | register f => some f
  | get _ => none
  | reset => some standard

/-- The factory that was put in use last, or else the standard one. -/
def backend (standard : Factory σ τ) (calls : List (Call σ τ)) : Factory σ τ :=
  (calls.filterMap (Call.swap? standard)).getLast?.getD standard

/-- A call where factories note what they make. With another backend the notes begin anew. -/
def afterNoting (state : State (σ × List (Making σ τ)) τ) :
    Call σ τ → State (σ × List (Making σ τ)) τ
  | .register f => (state.1.register f.noting, state.2.1, [])
  | .get name => (state.1.request name state.2).2
  | .reset => (state.1.reset, state.2.1, [])

def afterAllNoting (standard : Factory σ τ) (world : σ) (calls : List (Call σ τ)) :
    State (σ × List (Making σ τ)) τ :=
  calls.foldl afterNoting ({ standard := standard.noting }, world, [])

/-- What was made since the backend last changed, in order. -/
def madeSince (standard : Factory σ τ) (world : σ) (calls : List (Call σ τ)) : List (Making σ τ) :=
  (afterAllNoting standard world calls).2.2

/-! ## One request -/

/-- All that a request can do: it is refused, served from what is kept, or passed on to the factory,
and only what the factory makes is kept. -/
theorem request_cases (s : ToolkitStore σ τ) (name : String) (world : σ) :
    (Dialect.ofName? name = none ∧
      s.request name world = (.error (.unknownDialect name), s, world)) ∨
    ∃ d, Dialect.ofName? name = some d ∧
      ((∃ t, s.kept.lookup d = some t ∧ s.request name world = (.ok t, s, world)) ∨
        s.kept.lookup d = none ∧
          ((∃ t after, s.factory d world = (.ok t, after) ∧
              s.request name world = (.ok t, { s with kept := (d, t) :: s.kept }, after)) ∨
            ∃ fault after, s.factory d world = (.error fault, after) ∧
              s.request name world = (.error (.failed fault), s, after))) := by
  unfold request get
  cases hname : Dialect.ofName? name with
  | none => exact .inl ⟨rfl, rfl⟩
  | some d =>
    refine .inr ⟨d, rfl, ?_⟩
    cases hkept : s.kept.lookup d with
    | some t => exact .inl ⟨t, rfl, by simp only [hkept]; rfl⟩
    | none =>
      refine .inr ⟨rfl, ?_⟩
      match hmade : s.factory d world with
      | (.ok t, after) => exact .inl ⟨t, after, rfl, by simp only [hkept, hmade]; rfl⟩
      | (.error fault, after) => exact .inr ⟨fault, after, rfl, by simp only [hkept, hmade]; rfl⟩

/-- A request leaves the factories as they are. -/
theorem request_factory (s : ToolkitStore σ τ) (name : String) (world : σ) :
    (s.request name world).2.1.standard = s.standard ∧
        (s.request name world).2.1.factory = s.factory := by
  obtain ⟨-, h⟩ | ⟨d, -, ⟨t, -, h⟩ | ⟨-, ⟨t, after, -, h⟩ | ⟨fault, after, -, h⟩⟩⟩ :=
    request_cases s name world
  all_goals rw [h]; exact ⟨rfl, rfl⟩

theorem request_of_lookup_eq_some {s : ToolkitStore σ τ} {name : String} {d : Dialect} {t : τ}
    (hname : Dialect.ofName? name = some d) (h : s.kept.lookup d = some t) (world : σ) :
    s.request name world = (.ok t, s, world) := by
  obtain ⟨hno, -⟩ | ⟨d', hd', ⟨t', ht', hr⟩ | ⟨hnone, -⟩⟩ := request_cases s name world
  · rw [hname] at hno
    cases hno
  · cases hd'.symm.trans hname
    cases ht'.symm.trans h
    exact hr
  · cases hd'.symm.trans hname
    rw [h] at hnone
    cases hnone

/-- A request that does not name a dialect leaves what is kept for it as it is. -/
theorem request_lookup_of_ne (s : ToolkitStore σ τ) {name : String} (world : σ) {d : Dialect}
    (h : Dialect.ofName? name ≠ some d) :
    (s.request name world).2.1.kept.lookup d = s.kept.lookup d := by
  obtain ⟨-, hr⟩ | ⟨d', hd', ⟨t, -, hr⟩ | ⟨-, ⟨t, after, -, hr⟩ | ⟨fault, after, -, hr⟩⟩⟩ :=
    request_cases s name world
  · rw [hr]
  · rw [hr]
  · have hne : d ≠ d' := fun heq => h (heq ▸ hd')
    rw [hr, List.lookup_cons, beq_false_of_ne hne]
  · rw [hr]

/-- What is kept for a dialect stays, whatever is asked for. -/
theorem request_lookup_of_some (s : ToolkitStore σ τ) (name : String) (world : σ)
    {d : Dialect} {t : τ} (h : s.kept.lookup d = some t) :
    (s.request name world).2.1.kept.lookup d = some t := by
  by_cases hname : Dialect.ofName? name = some d
  · rw [request_of_lookup_eq_some hname h, h]
  · rw [request_lookup_of_ne s world hname, h]

/-! ## Runs -/

theorem afterAll_concat (standard : Factory σ τ) (world : σ) (calls : List (Call σ τ))
    (call : Call σ τ) :
    afterAll standard world (calls ++ [call]) = after (afterAll standard world calls) call := by
  rw [afterAll, List.foldl_append]
  rfl

theorem afterAllNoting_concat (standard : Factory σ τ) (world : σ) (calls : List (Call σ τ))
    (call : Call σ τ) :
    afterAllNoting standard world (calls ++ [call]) =
        afterNoting (afterAllNoting standard world calls) call := by
  rw [afterAllNoting, List.foldl_append]
  rfl

theorem backend_concat (standard : Factory σ τ) (calls : List (Call σ τ)) (call : Call σ τ) :
    backend standard (calls ++ [call]) = (call.swap? standard).getD (backend standard calls) := by
  unfold backend
  rw [List.filterMap_append]
  cases call with
  | register f => simp [Call.swap?]
  | get name => simp [Call.swap?]
  | reset => simp [Call.swap?]

/-- The factory in use is told by the calls. -/
theorem afterAll_factory (standard : Factory σ τ) (world : σ) (calls : List (Call σ τ)) :
    (afterAll standard world calls).1.standard = standard ∧
      (afterAll standard world calls).1.factory = backend standard calls := by
  induction calls using List.reverseRecOn with
  | nil => exact ⟨rfl, rfl⟩
  | append_singleton calls call ih =>
    rw [afterAll_concat, backend_concat]
    cases call with
    | register f => exact ⟨ih.1, rfl⟩
    | get name =>
      obtain ⟨hstandard, hfactory⟩ :=
        request_factory (afterAll standard world calls).1 name (afterAll standard world calls).2
      exact ⟨hstandard.trans ih.1, hfactory.trans ih.2⟩
    | reset => exact ⟨ih.1, ih.1⟩

/-! ## The account of what was made -/

/-- The store whose factories note what they make. -/
def noting (s : ToolkitStore σ τ) : ToolkitStore (σ × List (Making σ τ)) τ where
  standard := s.standard.noting
  registered := s.registered.map Factory.noting
  kept := s.kept

theorem noting_factory (s : ToolkitStore σ τ) : s.noting.factory = s.factory.noting := by
  unfold factory noting
  cases s.registered <;> rfl

/-- The store keeps what was made, each dialect once, and its factory made it. -/
structure Accounts (s : ToolkitStore σ τ) (made : List (Making σ τ)) : Prop where
  kept : s.kept = (made.map Making.entry).reverse
  once : (made.map Making.dialect).Nodup
  makes : ∀ m ∈ made, s.factory.Makes m

theorem accounts_nil {s : ToolkitStore σ τ} (h : s.kept = []) : s.Accounts [] :=
  ⟨h, List.nodup_nil, fun _ hm => absurd hm List.not_mem_nil⟩

theorem Accounts.lookup_eq_some {s : ToolkitStore σ τ} {made : List (Making σ τ)}
    (h : s.Accounts made) {d : Dialect} {t : τ} (hkept : s.kept.lookup d = some t) :
    ∃ m ∈ made, m.dialect = d ∧ m.toolkit = t := by
  obtain ⟨left, right, heq, -⟩ := List.lookup_eq_some_iff.mp hkept
  have hentry : (d, t) ∈ (made.map Making.entry).reverse := by
    rw [← h.kept, heq]
    exact List.mem_append_right left List.mem_cons_self
  obtain ⟨m, hm, hentry⟩ := List.mem_map.mp (List.mem_reverse.mp hentry)
  exact ⟨m, hm, congrArg Prod.fst hentry, congrArg Prod.snd hentry⟩

theorem Accounts.lookup_eq_none {s : ToolkitStore σ τ} {made : List (Making σ τ)}
    (h : s.Accounts made) {d : Dialect} (hkept : s.kept.lookup d = none) :
    d ∉ made.map Making.dialect := by
  intro hd
  obtain ⟨m, hm, rfl⟩ := List.mem_map.mp hd
  have hentry : m.entry ∈ s.kept := by
    rw [h.kept]
    exact List.mem_reverse.mpr (List.mem_map_of_mem hm)
  exact absurd rfl (bne_iff_ne.mp (List.lookup_eq_none_iff.mp hkept _ hentry))

/-- A request is answered as where factories note nothing, and the account stays true. -/
theorem Accounts.request {s : ToolkitStore σ τ} {made : List (Making σ τ)} (h : s.Accounts made)
    (name : String) (world : σ) : ∃ made', s.noting.request name (world, made) =
        ((s.request name world).1, (s.request name world).2.1.noting,
          (s.request name world).2.2, made') ∧
      (s.request name world).2.1.Accounts made' := by
  have hfactory : ∀ d, s.noting.factory d (world, made) = s.factory.noting d (world, made) :=
      fun d => by
    rw [noting_factory]
  obtain ⟨hname, hr⟩ | ⟨d, hname,
      ⟨t, hkept, hr⟩ | ⟨hkept, ⟨t, after, hmade, hr⟩ | ⟨fault, after, hmade, hr⟩⟩⟩ :=
    request_cases s name world
  · refine ⟨made, ?_, by rwa [hr]⟩
    rw [hr, ToolkitStore.request, hname]
  · refine ⟨made, ?_, by rwa [hr]⟩
    rw [hr, ToolkitStore.request, hname]
    simp only [get, show s.noting.kept.lookup d = some t from hkept]
    rfl
  · refine ⟨made ++ [⟨d, world, t, after⟩], ?_, ?_⟩
    · rw [hr, ToolkitStore.request, hname]
      simp only [get, show s.noting.kept.lookup d = none from hkept, hfactory,
        Factory.noting, hmade]
      rfl
    · rw [hr]
      refine ⟨?_, ?_, ?_⟩
      · rw [List.map_append, List.reverse_append, ← h.kept]
        rfl
      · rw [List.map_append]
        exact h.once.append (List.nodup_singleton _) (by simpa using h.lookup_eq_none hkept)
      · intro m hm
        rcases List.mem_append.mp hm with hm | hm
        · exact h.makes m hm
        · obtain rfl := List.mem_singleton.mp hm
          exact hmade
  · refine ⟨made, ?_, by rwa [hr]⟩
    rw [hr, ToolkitStore.request, hname]
    simp only [get, show s.noting.kept.lookup d = none from hkept, hfactory, Factory.noting, hmade]
    rfl

/-- A call does the same where factories note what they make, and the account stays true. -/
theorem Accounts.after {s : ToolkitStore σ τ} {made : List (Making σ τ)}
    (h : s.Accounts made) (world : σ) (call : Call σ τ) :
    ∃ made', afterNoting (s.noting, world, made) call =
        ((after (s, world) call).1.noting, (after (s, world) call).2, made') ∧
      (after (s, world) call).1.Accounts made' := by
  cases call with
  | register f => exact ⟨[], rfl, accounts_nil rfl⟩
  | get name =>
    obtain ⟨made', hr, haccounts⟩ := h.request name world
    exact ⟨made', congrArg Prod.snd hr, haccounts⟩
  | reset => exact ⟨[], rfl, accounts_nil rfl⟩

theorem afterAll_accounts (standard : Factory σ τ) (world : σ) (calls : List (Call σ τ)) :
    afterAllNoting standard world calls = ((afterAll standard world calls).1.noting,
        (afterAll standard world calls).2, madeSince standard world calls) ∧
      (afterAll standard world calls).1.Accounts (madeSince standard world calls) := by
  induction calls using List.reverseRecOn with
  | nil => exact ⟨rfl, accounts_nil rfl⟩
  | append_singleton calls call ih =>
    obtain ⟨hrun, haccounts⟩ := ih
    obtain ⟨made', hstep, haccounts⟩ := haccounts.after (afterAll standard world calls).2 call
    rw [← hrun, ← afterAllNoting_concat, ← afterAll_concat] at hstep
    have hmade : madeSince standard world (calls ++ [call]) = made' := by rw [madeSince, hstep]
    rw [hmade]
    rw [← afterAll_concat] at haccounts
    exact ⟨hstep, haccounts⟩

/-! ## Gets in a row -/

theorem backend_gets (standard : Factory σ τ) (calls : List (Call σ τ)) (names : List String) :
    backend standard (calls ++ names.map .get) = backend standard calls := by
  induction names using List.reverseRecOn with
  | nil => rw [List.map_nil, List.append_nil]
  | append_singleton names name ih =>
    rw [List.map_append, ← List.append_assoc, List.map_singleton, backend_concat, ih]
    rfl

/-- A toolkit that is kept is kept over gets. -/
theorem lookup_gets_of_some {standard : Factory σ τ} {world : σ} {calls : List (Call σ τ)}
    {d : Dialect} {t : τ} (h : (afterAll standard world calls).1.kept.lookup d = some t)
    (names : List String) :
    (afterAll standard world (calls ++ names.map .get)).1.kept.lookup d = some t := by
  induction names using List.reverseRecOn with
  | nil => rwa [List.map_nil, List.append_nil]
  | append_singleton names name ih =>
    rw [List.map_append, ← List.append_assoc, List.map_singleton, afterAll_concat]
    exact request_lookup_of_some _ name _ ih

theorem lookup_gets_of_ne (standard : Factory σ τ) (world : σ)
    (calls : List (Call σ τ)) {d : Dialect} {names : List String}
    (hnames : ∀ name ∈ names, Dialect.ofName? name ≠ some d) :
    (afterAll standard world (calls ++ names.map .get)).1.kept.lookup d =
      (afterAll standard world calls).1.kept.lookup d := by
  induction names using List.reverseRecOn with
  | nil => rw [List.map_nil, List.append_nil]
  | append_singleton names name ih =>
    rw [List.map_append, ← List.append_assoc, List.map_singleton, afterAll_concat]
    have hlast := hnames name (List.mem_append_right names List.mem_cons_self)
    exact (request_lookup_of_ne _ _ hlast).trans (ih fun other hm =>
      hnames other (List.mem_append_left _ hm))

/-- A request asks the factory, answers what it answers and leaves the world as it does. -/
def Asks (f : Factory σ τ) (state : State σ τ) (name : String) (d : Dialect) : Prop :=
  (state.1.request name state.2).1 = (f d state.2).1.mapError .failed ∧
    (state.1.request name state.2).2.2 = (f d state.2).2

theorem asks_of_lookup_eq_none {s : ToolkitStore σ τ} {name : String} {d : Dialect}
    (hname : Dialect.ofName? name = some d) (h : s.kept.lookup d = none) (world : σ) :
    Asks s.factory (s, world) name d := by
  obtain ⟨hno, -⟩ | ⟨d', hd', hcases⟩ := request_cases s name world
  · rw [hname] at hno
    cases hno
  · cases hd'.symm.trans hname
    obtain ⟨t, hsome, -⟩ | ⟨-, ⟨t, after, hmade, hr⟩ | ⟨fault, after, hmade, hr⟩⟩ := hcases
    · rw [h] at hsome
      cases hsome
    · unfold Asks
      rw [hr, hmade]
      exact ⟨rfl, rfl⟩
    · unfold Asks
      rw [hr, hmade]
      exact ⟨rfl, rfl⟩

/-! ## Any calls -/

/-- What follows a get that is given a toolkit. -/
structure Served (standard : Factory σ τ) (world : σ) (calls : List (Call σ τ)) (name : String)
    (t : τ) : Prop where
  /-- The backend in use made it for the dialect asked for, since it was put in use. -/
  made : ∃ m ∈ madeSince standard world (calls ++ [.get name]),
    Dialect.ofName? name = some m.dialect ∧ m.toolkit = t ∧ (backend standard calls).Makes m
  /-- Until the backend changes, the same is given again, and nothing is made for it. -/
  again : ∀ more : List String,
    let later := afterAll standard world (calls ++ .get name :: more.map .get)
    later.1.request name later.2 = (.ok t, later)

/-- What follows a get that fails. -/
structure Failed (standard : Factory σ τ) (world : σ) (calls : List (Call σ τ)) (name : String)
    (e : ToolkitError) : Prop where
  unchanged : (afterAll standard world (calls ++ [.get name])).1 = (afterAll standard world calls).1
  /-- The name is unknown, or the backend in use failed; then it is asked again, unless it changes
  before. -/
  cause : (e = .unknownDialect name ∧ Dialect.ofName? name = none ∧
      (afterAll standard world (calls ++ [.get name])).2 = (afterAll standard world calls).2) ∨
    ∃ d fault, e = .failed fault ∧ Dialect.ofName? name = some d ∧
      backend standard calls d (afterAll standard world calls).2 =
        (.error fault, (afterAll standard world (calls ++ [.get name])).2) ∧
      ∀ more : List String, (∀ other ∈ more, Dialect.ofName? other ≠ some d) →
        Asks (backend standard calls)
          (afterAll standard world (calls ++ .get name :: more.map .get)) name d

section

variable {standard : Factory σ τ} {world : σ} {calls : List (Call σ τ)} {name : String}

/-- A toolkit that is given is kept for the dialect asked for. -/
theorem lookup_of_request_eq_ok {t : τ}
    (h : ((afterAll standard world calls).1.request name (afterAll standard world calls).2).1 =
      .ok t) :
    ∃ d, Dialect.ofName? name = some d ∧
      (afterAll standard world (calls ++ [.get name])).1.kept.lookup d = some t := by
  rw [afterAll_concat, after]
  obtain ⟨-, hr⟩ | ⟨d, hname, ⟨t', hkept, hr⟩ | ⟨-, ⟨t', after, -, hr⟩ | ⟨fault, after, -, hr⟩⟩⟩ :=
    request_cases (afterAll standard world calls).1 name (afterAll standard world calls).2
  · rw [hr] at h
    cases h
  · rw [hr] at h ⊢
    cases h
    exact ⟨d, hname, hkept⟩
  · rw [hr] at h ⊢
    cases h
    exact ⟨d, hname, List.lookup_cons_self⟩
  · rw [hr] at h
    cases h

theorem served_of_request {t : τ}
    (h : ((afterAll standard world calls).1.request name (afterAll standard world calls).2).1 =
      .ok t) :
    Served standard world calls name t := by
  obtain ⟨d, hname, hkept⟩ := lookup_of_request_eq_ok h
  constructor
  · obtain ⟨-, haccounts⟩ := afterAll_accounts standard world (calls ++ [.get name])
    obtain ⟨m, hm, rfl, ht⟩ := haccounts.lookup_eq_some hkept
    have hmakes := haccounts.makes m hm
    rw [(afterAll_factory standard world _).2, backend_concat] at hmakes
    exact ⟨m, hm, hname, ht, hmakes⟩
  · intro more later
    have hlater := lookup_gets_of_some hkept more
    rw [List.append_assoc] at hlater
    exact request_of_lookup_eq_some hname hlater later.2

theorem failed_of_request {e : ToolkitError}
    (h : ((afterAll standard world calls).1.request name (afterAll standard world calls).2).1 =
      .error e) :
    Failed standard world calls name e := by
  have hnext : afterAll standard world (calls ++ [.get name]) =
      ((afterAll standard world calls).1.request name (afterAll standard world calls).2).2 :=
    afterAll_concat standard world calls (.get name)
  obtain ⟨hname, hr⟩ | ⟨d, hname,
      ⟨t, -, hr⟩ | ⟨hkept, ⟨t, after, -, hr⟩ | ⟨fault, after, hmade, hr⟩⟩⟩ :=
    request_cases (afterAll standard world calls).1 name (afterAll standard world calls).2
  · rw [hr] at h hnext
    cases h
    exact ⟨by rw [hnext], .inl ⟨rfl, hname, by rw [hnext]⟩⟩
  · rw [hr] at h
    cases h
  · rw [hr] at h
    cases h
  · rw [hr] at h hnext
    cases h
    rw [(afterAll_factory standard world calls).2] at hmade
    refine ⟨by rw [hnext], .inr ⟨d, fault, rfl, hname, by rw [hmade, hnext], ?_⟩⟩
    intro more hmore
    -- neither the failed get nor the others touch what is kept for the dialect
    have hlater := lookup_gets_of_ne standard world (calls ++ [.get name]) hmore
    rw [hnext, hkept] at hlater
    have hasks := asks_of_lookup_eq_none hname hlater
      (afterAll standard world (calls ++ [.get name] ++ more.map .get)).2
    rw [(afterAll_factory standard world _).2, backend_gets, backend_concat, List.append_assoc]
      at hasks
    exact hasks

end

/-- **Toolkits follow the backend.** After any calls the factory in use is the one that was
registered last, or the standard one after a reset and at the start. Factories that note what they
make change nothing else, and the store keeps what they noted since the backend last changed: for
each dialect at most one toolkit. A get that is given a toolkit gets the one that the backend in use
made for its dialect, and until the backend changes so does every later one, with nothing made for
it. A get leaves what is kept for other dialects as it is, and one that fails changes nothing in the
store, so that the next get for the dialect asks the backend again. -/
theorem toolkits_follow_backend (standard : Factory σ τ) (world : σ) (calls : List (Call σ τ)) :
    let state := afterAll standard world calls
    let made := madeSince standard world calls
    state.1.factory = backend standard calls ∧
    afterAllNoting standard world calls = (state.1.noting, state.2, made) ∧
    state.1.kept = (made.map Making.entry).reverse ∧ (made.map Making.dialect).Nodup ∧
    (∀ m ∈ made, (backend standard calls).Makes m) ∧
    ∀ name,
      (∀ t, (state.1.request name state.2).1 = .ok t → Served standard world calls name t) ∧
      (∀ d, Dialect.ofName? name ≠ some d →
        (afterAll standard world (calls ++ [.get name])).1.kept.lookup d = state.1.kept.lookup d) ∧
      ∀ e, (state.1.request name state.2).1 = .error e → Failed standard world calls name e := by
  intro state made
  obtain ⟨hnoting, haccounts⟩ := afterAll_accounts standard world calls
  have hfactory := (afterAll_factory standard world calls).2
  refine ⟨hfactory, hnoting, haccounts.kept, haccounts.once, ?_, ?_⟩
  · intro m hm
    rw [← hfactory]
    exact haccounts.makes m hm
  · intro name
    refine ⟨fun _ => served_of_request, ?_, fun _ => failed_of_request⟩
    intro d hne
    rw [afterAll_concat]
    exact request_lookup_of_ne state.1 state.2 hne

/-- A factory that fails, then one that numbers what it makes: the failed get leaves nothing behind,
the two dialects have a toolkit each, and the first one keeps its number. -/
theorem toolkits_follow_backend_numbered :
    let broken : Factory Nat (Nat × Dialect) := fun _ made =>
      (.error (.raised "factory failed"), made)
    let numbered : Factory Nat (Nat × Dialect) := fun d made => (.ok (made, d), made + 1)
    let begun : List (Call Nat (Nat × Dialect)) := [.register broken]
    let calls : List (Call Nat (Nat × Dialect)) :=
      [.register broken, .get "duckdb", .register numbered, .get "duckdb", .get "postgres"]
    Failed numbered 0 begun "duckdb" (.failed (.raised "factory failed")) ∧
      Served numbered 0 calls "duckdb" (0, .duckdb) ∧
        Served numbered 0 calls "postgres" (1, .postgres) ∧
      Failed numbered 0 calls "oracle" (.unknownDialect "oracle") := by
  intro broken numbered begun calls
  obtain ⟨-, -, -, -, -, hbegun⟩ := toolkits_follow_backend numbered 0 begun
  obtain ⟨-, -, -, -, -, hcalls⟩ := toolkits_follow_backend numbered 0 calls
  exact ⟨(hbegun "duckdb").2.2 _ rfl, (hcalls "duckdb").1 _ rfl, (hcalls "postgres").1 _ rfl,
    (hcalls "oracle").2.2 _ rfl⟩

end ToolkitStore

end SqlStyle
