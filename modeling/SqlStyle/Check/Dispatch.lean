import SqlStyle.Check.Basic

/-! # Looking at every node

A node rule looks at one node at a time, and `dispatch` shows it the nodes of a document in order. A
fault of the rule ends that: it becomes a failure, and what was reported before it stays. A rule may
keep a state of its own, such as a record of the nodes it was shown; those of the checks keep none
(`applyRule`). -/

namespace SqlStyle

/-- How a fault inside a check is reported. -/
def unhandledMessage (name : String) (fault : Fault) : String :=
  s!"Unhandled error in {name}: {fault.message}"

/-- The nodes of several statements in document order. -/
def visitsOf (statements : List Statement) : List Node.Visit := statements.flatMap Statement.visits

/-- What a fault of a node rule is blamed on: the rule it looks after, or else its own name. -/
def blamed (name : String) (kind : Option Rule) : String := (kind.map Rule.name).getD name

/-- Shows visits to a node rule in order, adding what it reports to a report. The rule may keep a
state of its own from one node to the next. -/
def showVisits {σ : Type} (rule : Node.Visit → σ → Except Fault Report × σ) (name : String)
    (kind : Option Rule) : List Node.Visit → Report → σ → Report × σ
  | [], report, state => (report, state)
  | v :: rest, report, state =>
    match rule v state with
    | (.ok found, state) => showVisits rule name kind rest (report.merge found) state
    | (.error fault, state) => (report.fail (unhandledMessage (blamed name kind) fault) kind, state)

/-- Shows every node of the document to a node rule with a state of its own. -/
def dispatch {σ : Type} (rule : Node.Visit → σ → Except Fault Report × σ) (name : String)
    (kind : Option Rule) (c : Context) (s : Source) (session : Session) (state : σ) :
    (Except Fault Report × Session) × σ :=
  match session.statements c.toolkit s.text with
  | (.ok statements, session) =>
    let (report, state) := showVisits rule name kind (visitsOf statements)
      (Report.forSource s) state
    ((.ok report, session), state)
  | (.error fault, session) => ((.error fault, session), state)

/-- Applies a node rule without a state to visits in order, adding to a report. -/
def applyToVisits (rule : Node.Visit → Except Fault Report) (name : String) (kind : Option Rule)
    (visits : List Node.Visit) (report : Report) : Report :=
  (showVisits (fun v state => (rule v, state)) name kind visits report ()).1

/-- Applies a node rule without a state to the whole document. -/
def applyRule (rule : Node.Visit → Except Fault Report) (name : String) (kind : Option Rule)
    (c : Context) (s : Source) (session : Session) : Except Fault Report × Session :=
  (dispatch (fun v state => (rule v, state)) name kind c s session ()).1

theorem applyToVisits_cons (rule : Node.Visit → Except Fault Report) (name : String)
    (kind : Option Rule) (v : Node.Visit) (rest : List Node.Visit) (report : Report) :
    applyToVisits rule name kind (v :: rest) report =
      match rule v with
      | .ok found => applyToVisits rule name kind rest (report.merge found)
      | .error fault => report.fail (unhandledMessage (blamed name kind) fault) kind := by
  rw [applyToVisits, showVisits]
  cases rule v with
  | ok found => rfl
  | error fault => rfl

/-- What a rule makes of the statements of a document, however the session came by them. -/
theorem applyRule_eq (rule : Node.Visit → Except Fault Report) (name : String) (kind : Option Rule)
    (c : Context) (s : Source) (session : Session) :
    applyRule rule name kind c s session =
      ((session.statements c.toolkit s.text).1.map fun statements =>
        applyToVisits rule name kind (visitsOf statements) (Report.forSource s),
        (session.statements c.toolkit s.text).2) := by
  unfold applyRule dispatch
  split
  · rename_i h
    rw [h]
    rfl
  · rename_i h
    rw [h]
    rfl

/-- The starts of the identifiers with a place in the text. -/
def identifierStarts (statements : List Statement) : List Int :=
  ((visitsOf statements).filter fun v => v.node.kind == .identifier && v.node.isPositioned).map
    fun v => v.node.start

/-- A check that looks at one node at a time. It finds nothing while trees are not looked at. -/
def Check.ofNodes (rule : Rule) (detect : Source → Node.Visit → Except Fault (List Finding)) :
    Check where
  rule := rule
  requiresTree := true
  run c s session :=
    if c.parserEnabled then
      applyRule (fun v => (detect s v).bind (c.ledger.report rule s)) rule.name
        (some rule) c s session
    else (.ok (Report.forSource s), session)

end SqlStyle
