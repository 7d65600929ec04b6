import SqlStyle.Proofs.Exactness
import SqlStyle.Proofs.Offsets.Tree

/-! # Node rules on two documents

A node rule that meets no fault reports what it finds, node after node, wherever it is active
(`ofNodes_run`). So the same rule over the same tree comes to the same in two documents if it finds
the same at every node. If it finds at least as much at each node of the first document as of the
second, this is the only way (`ofNodes_unchanged_iff`). -/

namespace SqlStyle

/-! ## Nodes -/

theorem Node.mem_visitsFrom {pending : List Node.Visit} {v : Node.Visit} (h : v ∈ pending) :
    v ∈ Node.visitsFrom pending := by
  fun_induction Node.visitsFrom pending with
  | case1 => exact h
  | case2 first rest ih =>
    rcases List.mem_cons.mp h with rfl | h
    · exact List.mem_cons_self
    · exact List.mem_cons_of_mem _ (ih (List.mem_append_right _ h))

/-- The children of a visited node are visited. -/
theorem exists_visit_child {statements : List Statement} {v : Node.Visit}
    (hv : v ∈ visitsOf statements) {child : Node} (hchild : child ∈ v.node.children) :
    ∃ w ∈ visitsOf statements, w.node = child := by
  have hfrom : ∀ pending, v ∈ Node.visitsFrom pending →
      ∃ w ∈ Node.visitsFrom pending, w.node = child := by
    intro pending
    fun_induction Node.visitsFrom pending with
    | case1 => intro hv; cases hv
    | case2 first rest ih =>
      intro hv
      rcases List.mem_cons.mp hv with rfl | hv
      · have hbelow : ⟨v.depth + 1, some v.node, child⟩ ∈ v.below ++ rest :=
          List.mem_append_left _ (List.mem_map_of_mem hchild)
        exact ⟨_, List.mem_cons_of_mem _ (Node.mem_visitsFrom hbelow), rfl⟩
      · obtain ⟨w, hw, hnode⟩ := ih hv
        exact ⟨w, List.mem_cons_of_mem _ hw, hnode⟩
  obtain ⟨statement, hm, hv⟩ := List.mem_flatMap.mp hv
  obtain ⟨w, hw, hnode⟩ := hfrom _ hv
  exact ⟨w, List.mem_flatMap.mpr ⟨statement, hm, hw⟩, hnode⟩

theorem Node.Placed.of_size {t u : Text} (h : u.size = t.size) {n : Node} (hn : n.Placed t) :
    n.Placed u := by
  induction hn with
  | mk hstart _ ih => exact .mk (fun h0 => h ▸ hstart h0) ih

namespace Check

/-! ## Reports -/

/-- What is reported of the findings at visited nodes: all at which the rule is active, unless trees
are not looked at. -/
def reported (l : Ledger) (rule : Rule) (findings : Node.Visit → List Finding)
    (visits : List Node.Visit) :
    List Finding :=
  if l.isLocked .parserFailed then [] else (visits.flatMap findings).filter fun f =>
    l.isActive rule f.offset

theorem reported_start (rule : Rule) (findings : Node.Visit → List Finding)
    (visits : List Node.Visit) :
    reported (Ledger.start []) rule findings visits = visits.flatMap findings :=
  Ledger.filter_active (fun _ => rfl) _

theorem ofFindings_reported {s : Source} (hs : s.Valid) (rule : Rule)
    {findings : Node.Visit → List Finding} {visits : List Node.Visit}
    (h : ∀ v ∈ visits, ∀ f ∈ findings v, f.Inside s) (l : Ledger) :
    (Report.ofFindings rule s (reported l rule findings visits)).failures = [] ∧
      (Report.ofFindings rule s (reported l rule findings visits)).findings =
          reported l rule findings visits := by
  refine Report.ofFindings_of_inside hs rule fun f hf => ?_
  unfold reported at hf
  split at hf
  · cases hf
  · obtain ⟨v, hv, hfv⟩ := List.mem_flatMap.mp (List.mem_filter.mp hf).1
    exact h v hv f hfv

/-- A node rule that meets no fault comes to the report on what it finds, node after node. -/
theorem ofNodes_run (rule : Rule) {detect : Source → Node.Visit → Except Fault (List Finding)}
    (settings : Settings) {toolkit : Toolkit} {s : Source} (hs : s.Valid) {session : Session}
    {statements : List Statement} (hseen : (session.statements toolkit s.text).1 = .ok statements)
    {findings : Node.Visit → List Finding}
    (hdetect : ∀ v ∈ visitsOf statements, detect s v = .ok (findings v)) (l : Ledger) :
    ((ofNodes rule detect).run ⟨settings, l, toolkit⟩ s session).1 =
      .ok (Report.ofFindings rule s (reported l rule findings (visitsOf statements))) := by
  have hvisits : Detection.ofVisits (detect s) (visitsOf statements) =
      ⟨(visitsOf statements).flatMap findings, none⟩ := Detection.ofVisits_of_ok hdetect
  by_cases hlocked : l.isLocked .parserFailed = true
  · have henabled : (⟨settings, l, toolkit⟩ : Context).parserEnabled = false := by
      rw [Context.parserEnabled, hlocked, Bool.not_true]
    simp only [ofNodes, henabled, Bool.false_eq_true, if_false, reported, if_pos hlocked]
    rfl
  · have henabled : (⟨settings, l, toolkit⟩ : Context).parserEnabled = true := by
      rw [Context.parserEnabled, Bool.eq_false_iff.mpr hlocked, Bool.not_false]
    simp only [ofNodes, henabled, if_true, applyRule_eq, hseen, Except.map,
      Detection.applyToVisits_eq hs l rule (detect s) _ (Report.forSource s) rfl,
        Detection.forSource_merge, hvisits,
      reported, if_neg hlocked]
    rfl

/-- Where nothing is suppressed, a node rule that meets no fault reports what it finds. -/
theorem ofNodes_findings (rule : Rule) {detect : Source → Node.Visit → Except Fault (List Finding)}
    (settings : Settings) {toolkit : Toolkit} {s : Source} (hs : s.Valid) {session : Session}
    {statements : List Statement} (hseen : (session.statements toolkit s.text).1 = .ok statements)
    {findings : Node.Visit → List Finding}
    (hdetect : ∀ v ∈ visitsOf statements, detect s v = .ok (findings v) ∧
      ∀ f ∈ findings v, f.Inside s) :
    ∃ r, ((ofNodes rule detect).run ⟨settings, Ledger.start [], toolkit⟩ s session).1 = .ok r ∧
      r.findings = (visitsOf statements).flatMap findings := by
  refine ⟨_, ofNodes_run rule settings hs hseen (fun v hv => (hdetect v hv).1) _, ?_⟩
  rw [(ofFindings_reported hs rule (fun v hv => (hdetect v hv).2) _).2, reported_start]

/-- Whatever is suppressed, a check comes to the same findings in two documents, and fails in
neither. The reports are equal as wholes where each offset has the same line and column in both. -/
def Unchanged (check : Check) (settings : Settings) (toolkit : Toolkit) (s s' : Source)
    (session session' : Session) : Prop :=
  ∀ l : Ledger, ∃ r r', (check.run ⟨settings, l, toolkit⟩ s session).1 = .ok r ∧
    (check.run ⟨settings, l, toolkit⟩ s' session').1 = .ok r' ∧ r.failures = [] ∧ r'.failures = [] ∧
    r.findings = r'.findings ∧ ((∀ p, s'.translate p = s.translate p) → r = r')

/-- The reports on one list of findings in two documents. -/
theorem ofFindings_eq {s s' : Source} (hname : s'.filename = s.filename)
    (htranslate : ∀ p, s'.translate p = s.translate p) (rule : Rule) (findings : List Finding) :
    Report.ofFindings rule s findings = Report.ofFindings rule s' findings := by
  have hplaced : Report.placed? rule s = Report.placed? rule s' :=
    funext fun f => by rw [Report.placed?, Report.placed?, htranslate, hname]
  have hstray : Report.stray? rule s = Report.stray? rule s' :=
    funext fun f => by rw [Report.stray?, Report.stray?, htranslate, hname]
  rw [Report.ofFindings, Report.ofFindings, hname, hplaced, hstray]

theorem length_flatMap_le {α β : Type} {f g : α → List β} {l : List α}
    (h : ∀ x ∈ l, (g x).length ≤ (f x).length) : (l.flatMap g).length ≤ (l.flatMap f).length := by
  induction l with
  | nil => exact Nat.le_refl 0
  | cons x l ih =>
    obtain ⟨hx, hl⟩ := List.forall_mem_cons.mp h
    rw [List.flatMap_cons, List.flatMap_cons, List.length_append, List.length_append]
    exact Nat.add_le_add hx (ih hl)

/-- Two rows of lists, of which the one has no shorter entries, come to one list only if they agree
everywhere. -/
theorem flatMap_eq_flatMap_iff {α β : Type} {f g : α → List β} {l : List α}
    (h : ∀ x ∈ l, (g x).length ≤ (f x).length) :
    l.flatMap f = l.flatMap g ↔ ∀ x ∈ l, f x = g x := by
  refine ⟨fun heq => ?_, fun heq => List.flatMap_congr heq⟩
  induction l with
  | nil => simp
  | cons x l ih =>
    obtain ⟨hx, hl⟩ := List.forall_mem_cons.mp h
    have hlength := length_flatMap_le hl
    rw [List.flatMap_cons, List.flatMap_cons] at heq
    have htotal := congrArg List.length heq
    rw [List.length_append, List.length_append] at htotal
    obtain ⟨hhead, htail⟩ := List.append_inj heq (by omega)
    exact List.forall_mem_cons.mpr ⟨hhead, ih hl htail⟩

/-- A node rule that finds no more in the second document comes to the same in both just if it finds
the same at each node. -/
theorem ofNodes_unchanged_iff (rule : Rule)
    {detect : Source → Node.Visit → Except Fault (List Finding)} (settings : Settings)
    {toolkit : Toolkit} {s s' : Source} (hs : s.Valid) (hs' : s'.Valid)
    (hname : s'.filename = s.filename) {session session' : Session} {statements : List Statement}
    (hseen : (session.statements toolkit s.text).1 = .ok statements)
    (hseen' : (session'.statements toolkit s'.text).1 = .ok statements)
    {findings findings' : Node.Visit → List Finding}
    (hdetect : ∀ v ∈ visitsOf statements, detect s v = .ok (findings v) ∧
      ∀ f ∈ findings v, f.Inside s)
    (hdetect' : ∀ v ∈ visitsOf statements, detect s' v = .ok (findings' v) ∧
      ∀ f ∈ findings' v, f.Inside s')
    (hle : ∀ v ∈ visitsOf statements, (findings' v).length ≤ (findings v).length) :
    Unchanged (ofNodes rule detect) settings toolkit s s' session session' ↔
      ∀ v ∈ visitsOf statements, findings v = findings' v := by
  have hrun := fun l => ofNodes_run rule settings hs hseen (fun v hv => (hdetect v hv).1) l
  have hrun' := fun l => ofNodes_run rule settings hs' hseen' (fun v hv => (hdetect' v hv).1) l
  have htells := fun l => ofFindings_reported hs rule (fun v hv => (hdetect v hv).2) l
  have htells' := fun l => ofFindings_reported hs' rule (fun v hv => (hdetect' v hv).2) l
  rw [← flatMap_eq_flatMap_iff hle]
  constructor
  · intro h
    obtain ⟨r, r', hr, hr', -, -, hsame, -⟩ := h (Ledger.start [])
    obtain ⟨found, hfound, hfindings⟩ := ofNodes_findings rule settings hs hseen hdetect
    obtain ⟨found', hfound', hfindings'⟩ := ofNodes_findings rule settings hs' hseen' hdetect'
    rw [hr, Except.ok.injEq] at hfound
    rw [hr', Except.ok.injEq] at hfound'
    rw [← hfindings, ← hfindings', ← hfound, ← hfound', hsame]
  · intro heq l
    refine ⟨_, _, hrun l, hrun' l, (htells l).1, (htells' l).1, ?_, fun htranslate => ?_⟩
    · rw [(htells l).2, (htells' l).2, reported, reported, heq]
    · rw [reported, reported, heq]
      exact ofFindings_eq hname htranslate rule _

end Check

end SqlStyle
