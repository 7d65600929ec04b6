import SqlStyle.Ledger.Timeline
import SqlStyle.Rule

/-! # The activation ledger

The ledger keeps one timeline per rule that has been mentioned. Rules switched off by the settings
are locked: they start inactive and ignore every request. A rule without a timeline is active
everywhere. `ofEvents` builds a ledger from switching events in any order: it sorts them by position
first, and events at one position apply in the order in which they were found. -/

namespace SqlStyle

/-- A request to switch a rule from a position on. -/
structure Event where
  position : Int
  rule : Rule
  direction : Direction
deriving Repr, DecidableEq

structure Ledger where
  /-- The rules that no request can switch. -/
  locked : List Rule
  /-- The timelines kept so far. -/
  timeline? : Rule → Option Timeline

namespace Ledger

/-- No request has been recorded yet, and the rules in `locked` are inactive for good. -/
def start (locked : List Rule) : Ledger where
  locked := locked
  timeline? r := if r ∈ locked then some { initial := false } else none

/-- The timeline of a rule, a fresh one if none is kept. -/
def timeline (l : Ledger) (r : Rule) : Timeline := (l.timeline? r).getD {}

/-- Keeps a timeline for a rule in place of the one before. -/
def set (l : Ledger) (r : Rule) (t : Timeline) : Ledger :=
  { l with timeline? := fun r' => if r' = r then some t else l.timeline? r' }

/-- Keeps a timeline for a rule from now on, as it is. -/
def touch (l : Ledger) (r : Rule) : Ledger := l.set r (l.timeline r)

def isLocked (l : Ledger) (r : Rule) : Bool := decide (r ∈ l.locked)

/-- Whether a rule is active at an offset. -/
def isActive (l : Ledger) (r : Rule) (position : Int) : Bool :=
  match l.timeline? r with
  | none => true
  | some t => t.isActive position

/-- Records a request. Locked rules ignore it. -/
def record (l : Ledger) (e : Event) : Except OutOfOrder Ledger :=
  if l.isLocked e.rule then .ok l
  else ((l.timeline e.rule).record e.direction e.position).map (l.set e.rule)

/-- Records requests one after the other. -/
def recordAll (l : Ledger) (events : List Event) : Except OutOfOrder Ledger :=
  events.foldlM record l

/-- The ledger of requests found in any order. -/
def ofEvents (events : List Event) (locked : List Rule) : Except OutOfOrder Ledger :=
  (start locked).recordAll (events.mergeSort fun a b => decide (a.position ≤ b.position))

end Ledger

end SqlStyle
