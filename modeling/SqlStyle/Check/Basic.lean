import SqlStyle.Ledger.Basic
import SqlStyle.Report
import SqlStyle.Settings.Basic

/-! # Checks

A check looks at one document under one rule. It finds issues first, without regard to which rules
are active where; only then are the findings at offsets where its rule is inactive left out, so that
suppressing a finding cannot change another one.

Checks of one run share a session: the statements of the document are parsed once and kept. The
context (settings, ledger, toolkit) is the same for all of them. -/

namespace SqlStyle

/-- An issue at an offset. -/
structure Finding where
  offset : Int
  message : String
deriving Repr, DecidableEq

/-- What stays the same while a document is checked. -/
structure Context where
  settings : Settings
  ledger : Ledger
  toolkit : Toolkit

/-- Syntax trees are looked at unless the rule on parsing is locked. -/
def Context.parserEnabled (c : Context) : Bool := !c.ledger.isLocked .parserFailed

/-- Statements kept for later checks; they count only once the cache is populated. -/
structure ParseCache where
  statements : List Statement := []
  populated : Bool := false

/-- What changes while a document is checked. -/
structure Session where
  cache : Option ParseCache := none
  /-- How often the document was parsed. -/
  parses : Nat := 0

namespace Session

/-- The statements kept, if the cache is populated. -/
def cached? (s : Session) : Option (List Statement) :=
  (s.cache.filter ParseCache.populated).map ParseCache.statements

/-- Parses a document. -/
def parse (s : Session) (toolkit : Toolkit) (t : Text) : Parse × Session :=
  (toolkit.parse t, { s with parses := s.parses + 1 })

/-- The statements of a document, kept or parsed now. A document in which some statement does not
parse has none, and a parser that gives up is a fault. -/
def statements (s : Session) (toolkit : Toolkit) (t : Text) :
    Except Fault (List Statement) × Session :=
  match s.cached? with
  | some statements => (.ok statements, s)
  | none =>
    let (parse, s) := s.parse toolkit t
    match parse.stop with
    | none => (.ok parse.statements, s)
    | some (.failed _) => (.ok [], s)
    | some (.gaveUp fault) => (.error fault, s)

end Session

/-- A check of a document under one rule. -/
structure Check where
  rule : Rule
  /-- It looks at syntax trees. -/
  requiresTree : Bool := false
  /-- It parses the document and keeps the statements for later checks. -/
  fillsCache : Bool := false
  run : Context → Source → Session → Except Fault Report × Session

/-- The report on findings of a rule: those at offsets where the rule is active. -/
def Ledger.report (l : Ledger) (rule : Rule) (s : Source) (findings : List Finding) :
    Except Fault Report :=
  (findings.filter fun f => l.isActive rule f.offset).foldlM
    (fun report f => report.add rule s f.offset f.message) (Report.forSource s)

namespace Check

/-- A check of the text alone. -/
def ofText (rule : Rule) (detect : Settings → Source → List Finding) : Check where
  rule := rule
  run c s session := (c.ledger.report rule s (detect c.settings s), session)

/-- A check that finds the same issues in every document, or gives up on every document. -/
def fixed (rule : Rule) (requiresTree fillsCache : Bool) (outcome : Except Fault (List Finding)) :
    Check where
  rule := rule
  requiresTree := requiresTree
  fillsCache := fillsCache
  run c s session := (outcome.bind (c.ledger.report rule s), session)

end Check

end SqlStyle
