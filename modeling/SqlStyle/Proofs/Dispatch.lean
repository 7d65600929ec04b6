import SqlStyle.Check.Dispatch

/-! # A rule is shown a prefix of the document

`dispatch` calls a node rule on the nodes of all statements, in pre-order within each, until a call
faults. A rule may keep any state, so the calls themselves can be recorded (`recorded`): the record
is the nodes in front of the first fault, with the node that it happened on. What a row of calls
without a fault does to the state and to the report is said by `Answered`; such a row is as long as
it can be (`exists_answered`), and showing its nodes amounts to going on behind it
(`Answered.showVisits_append`). -/

namespace SqlStyle

/-- The statements that are shown: those kept for the run, else those parsed now if the whole
document parses. -/
def Session.shown (session : Session) (toolkit : Toolkit) (t : Text) : List Statement :=
  match session.cached? with
  | some kept => kept
  | none => if (toolkit.parse t).stop.isNone then (toolkit.parse t).statements else []

theorem Session.statements_eq_shown (session : Session) {toolkit : Toolkit} {t : Text}
    (h : ∀ fault, (toolkit.parse t).stop ≠ some (.gaveUp fault)) :
    (session.statements toolkit t).1 = .ok (session.shown toolkit t) := by
  unfold Session.statements Session.shown
  cases session.cached? with
  | some kept => rfl
  | none =>
    simp only [Session.parse]
    cases hstop : (toolkit.parse t).stop with
    | none => rfl
    | some stop =>
      cases stop with
      | failed e => rfl
      | gaveUp fault => exact absurd hstop (h fault)

/-- Statements are shown one after the other, each in pre-order. -/
theorem visitsOf_map_node (statements : List Statement) :
    (visitsOf statements).map Node.Visit.node = statements.flatMap (·.root.preorder) := by
  rw [visitsOf, List.map_flatMap]
  exact congrArg (List.flatMap · statements)
    (funext fun statement => statement.root.walk_eq_preorder)

section

variable {σ : Type} {rule : Node.Visit → σ → Except Fault Report × σ}

/-- The rule with a record of the nodes that it was called on, the latest last. -/
def recorded (rule : Node.Visit → σ → Except Fault Report × σ) (v : Node.Visit)
    (state : List Node.Visit × σ) :
    Except Fault Report × (List Node.Visit × σ) :=
  ((rule v state.2).1, state.1 ++ [v], (rule v state.2).2)

/-- Called on nodes one after the other, the rule answers each call with a report, and the last
state is what these calls make of the first. -/
inductive Answered (rule : Node.Visit → σ → Except Fault Report × σ) :
    σ → List (Node.Visit × Report) → σ → Prop
  | nil (state : σ) : Answered rule state [] state
  | cons {state next last : σ} {v : Node.Visit} {found : Report}
    {rest : List (Node.Visit × Report)} :
      rule v state = (.ok found, next) → Answered rule next rest last →
      Answered rule state ((v, found) :: rest) last

/-- Nodes are answered up to the end, or up to one that the rule faults on. -/
theorem exists_answered (rule : Node.Visit → σ → Except Fault Report × σ)
    (visits : List Node.Visit) :
    ∀ state, ∃ answers mid rest, Answered rule state answers mid ∧
      visits = answers.map Prod.fst ++ rest ∧
      (rest = [] ∨ ∃ v later fault last, rest = v :: later ∧
          rule v mid = (.error fault, last)) := by
  induction visits with
  | nil => exact fun state => ⟨[], state, [], .nil state, rfl, .inl rfl⟩
  | cons v visits ih =>
    intro state
    rcases hv : rule v state with ⟨answer, next⟩
    cases answer with
    | error fault => exact ⟨[], state, v :: visits, .nil state, rfl,
      .inr ⟨v, visits, fault, next, rfl, hv⟩⟩
    | ok found =>
      obtain ⟨answers, mid, rest, hanswered, rfl, hend⟩ := ih next
      exact ⟨(v, found) :: answers, mid, rest, .cons hv hanswered, rfl, hend⟩

/-- Recording the calls of a row changes nothing but the record. -/
theorem Answered.recorded {state last : σ} {answers : List (Node.Visit × Report)}
    (h : Answered rule state answers last) :
    ∀ seen, Answered (recorded rule) (seen, state) answers (seen ++
        answers.map Prod.fst, last) := by
  induction h with
  | nil state =>
    intro seen
    rw [List.map_nil, List.append_nil]
    exact .nil _
  | @cons state next last v found rest hv _ ih =>
    intro seen
    have hcall : SqlStyle.recorded rule v (seen, state) = (.ok found, (seen ++ [v], next)) := by
      simp only [SqlStyle.recorded, hv]
    have hrest := ih (seen ++ [v])
    rw [List.append_assoc, List.singleton_append] at hrest
    exact .cons hcall hrest

/-- Showing a row of nodes that are answered adds the answers to the report and goes on with the
others. -/
theorem Answered.showVisits_append {state mid : σ} {answers : List (Node.Visit × Report)}
    (h : Answered rule state answers mid) (name : String) (kind : Option Rule)
    (rest : List Node.Visit) :
    ∀ report, showVisits rule name kind (answers.map Prod.fst ++ rest) report state =
      showVisits rule name kind rest
        { report with
          diagnostics := report.diagnostics ++ answers.flatMap (·.2.diagnostics)
          failures := report.failures ++ answers.flatMap (·.2.failures) } mid := by
  induction h with
  | nil state => intro report; simp only [List.map_nil, List.nil_append, List.flatMap_nil,
    List.append_nil]
  | @cons state next mid v found answers hv _ ih =>
    intro report
    rw [List.map_cons, List.cons_append, showVisits, hv]
    simp only [ih, Report.merge, List.flatMap_cons, List.append_assoc]

/-- What showing nodes to a rule comes to: the nodes it was called on, the report and the last
state. Either every node was answered, or the calls end with the first fault, and that is the last
failure. -/
inductive Dispatched (rule : Node.Visit → σ → Except Fault Report × σ) (name : String)
    (kind : Option Rule) (s : Source) (state : σ) (nodes : List Node) :
    List Node.Visit → Report → σ → Prop
  | completed {answers : List (Node.Visit × Report)} {last : σ} : Answered rule state answers last →
      answers.map (·.1.node) = nodes →
      Dispatched rule name kind s state nodes (answers.map Prod.fst)
        ⟨s.filename, answers.flatMap (·.2.diagnostics), answers.flatMap (·.2.failures)⟩ last
  | stopped {answers : List (Node.Visit × Report)} {mid last : σ} {v : Node.Visit} {fault : Fault}
      {later : List Node} : Answered rule state answers mid → rule v mid = (.error fault, last) →
      answers.map (·.1.node) ++ v.node :: later = nodes →
      Dispatched rule name kind s state nodes (answers.map Prod.fst ++ [v])
        ⟨s.filename, answers.flatMap (·.2.diagnostics), answers.flatMap (·.2.failures) ++
          [⟨unhandledMessage (blamed name kind) fault, kind, s.filename⟩]⟩ last

/-- Showing visits calls the rule on a part of them from the front, and a record of the calls says
so. -/
theorem showVisits_dispatched (rule : Node.Visit → σ → Except Fault Report × σ) (name : String)
    (kind : Option Rule) (s : Source) (visits : List Node.Visit) (state : σ) :
    ∃ called report last,
      showVisits rule name kind visits (Report.forSource s) state = (report, last) ∧
      showVisits (recorded rule) name kind visits (Report.forSource s) ([], state) =
        (report, called, last) ∧
      Dispatched rule name kind s state (visits.map Node.Visit.node) called report last := by
  obtain ⟨answers, mid, rest, hanswered, rfl, hend⟩ := exists_answered rule visits state
  rw [hanswered.showVisits_append, (hanswered.recorded []).showVisits_append]
  rcases hend with rfl | ⟨v, later, fault, last, rfl, hfault⟩
  · refine ⟨_, _, mid, rfl, rfl, ?_⟩
    rw [List.append_nil, List.map_map]
    exact .completed hanswered rfl
  · have hcall : recorded rule v (answers.map Prod.fst, mid) =
        (.error fault, (answers.map Prod.fst ++ [v], last)) := by
      simp only [recorded, hfault]
    rw [showVisits, hfault, showVisits, List.nil_append, hcall]
    refine ⟨_, _, last, rfl, rfl, ?_⟩
    rw [List.map_append, List.map_map, List.map_cons]
    exact .stopped hanswered hfault rfl

end

/-- **A rule is shown a prefix of the document.** Whatever state a node rule keeps and on whatever
nodes it faults, if the parser does not give up then the rule is called, in the pre-order of one
statement after the other, on the nodes up to and including the first that it faults on, and on all
of them if there is none; a record of the calls is this and nothing else. The report holds what it
returned for the nodes in front of that one, in this order, and then one failure of the given rule
if a call did fault. -/
theorem dispatch_calls_prefix {σ : Type} (rule : Node.Visit → σ → Except Fault Report × σ)
    (name : String) (kind : Option Rule) (c : Context) (s : Source) (session : Session) (state : σ)
    (hparser : ∀ fault, (c.toolkit.parse s.text).stop ≠ some (.gaveUp fault)) :
    ∃ called report next last,
      dispatch rule name kind c s session state = ((.ok report, next), last) ∧
      dispatch (recorded rule) name kind c s session ([], state) =
        ((.ok report, next), called, last) ∧
      Dispatched rule name kind s state ((session.shown c.toolkit s.text).flatMap (·.root.preorder))
        called report last := by
  have hstatements := session.statements_eq_shown hparser
  rcases hst : session.statements c.toolkit s.text with ⟨found, next⟩
  rw [hst] at hstatements
  obtain rfl : found = .ok (session.shown c.toolkit s.text) := hstatements
  obtain ⟨called, report, last, hrun, hrecorded, hdispatched⟩ :=
    showVisits_dispatched rule name kind s (visitsOf (session.shown c.toolkit s.text)) state
  refine ⟨called, report, next, last, ?_, ?_, visitsOf_map_node _ ▸ hdispatched⟩
  · simp only [dispatch, hst, hrun]
  · simp only [dispatch, hst, hrecorded]

/-- A rule that counts its calls and faults on the third, over two statements of two nodes each: it
is called on the first statement and on the root of the second, and the node below that root is
never shown to it. -/
theorem dispatch_calls_prefix_counted :
    let leaf (name : String) : Node := .mk .identifier name "" 0 1 []
    let tree (name : String) : Node := .mk .select name "" 0 1 [leaf name]
    let statements : List Statement := [⟨tree "a", 0, 1⟩, ⟨tree "b", 0, 1⟩]
    let c : Context := ⟨{}, Ledger.start [], { Toolkit.empty with parse := fun _ =>
      { statements } }⟩
    let s : Source := { text := #['x'] }
    let rule (_ : Node.Visit) (calls : Nat) : Except Fault Report × Nat :=
      (if calls = 2 then .error (.raised "third") else .ok {}, calls + 1)
    let called : List Node.Visit :=
      [⟨0, none, tree "a"⟩, ⟨1, some (tree "a"), leaf "a"⟩, ⟨0, none, tree "b"⟩]
    (∀ fault, (c.toolkit.parse s.text).stop ≠ some (.gaveUp fault)) ∧
    ∃ report, (dispatch (recorded rule) "counted" (some .join) c s {} ([], 0)).2 = (called, 3) ∧
      Dispatched rule "counted" (some .join) s 0 [tree "a", leaf "a", tree "b", leaf "b"]
        called report 3 ∧
      report.failures.map Failure.rule = [some .join] := by
  intro leaf tree statements c s rule called
  have hparser : ∀ fault, (c.toolkit.parse s.text).stop ≠ some (.gaveUp fault) := fun _ h => by
    cases h
  have hvisits : visitsOf statements = called ++ [⟨1, some (tree "b"), leaf "b"⟩] := by
    simp [visitsOf, Statement.visits, Node.visits, Node.visitsFrom, Node.Visit.below,
      Node.children, statements, called, tree, leaf]
  have hrun : dispatch (recorded rule) "counted" (some .join) c s {} ([], 0) =
      ((.ok (Report.fail {} (unhandledMessage "join" (.raised "third")) (some .join)),
          { parses := 1 }), called, 3) := by
    have hst : ({} : Session).statements c.toolkit s.text = (.ok statements, { parses := 1 }) := rfl
    simp only [dispatch, hst, hvisits]
    rfl
  obtain ⟨called', report, next, last, -, hrecorded, hdispatched⟩ :=
    dispatch_calls_prefix rule "counted" (some .join) c s {} 0 hparser
  rw [hrun] at hrecorded
  cases hrecorded
  exact ⟨hparser, _, by rw [hrun], hdispatched, rfl⟩

end SqlStyle
