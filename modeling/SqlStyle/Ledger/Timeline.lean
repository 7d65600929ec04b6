/-! # The timeline of one rule

A rule is switched on and off along a document. Its timeline holds whether it starts active and the
offsets at which it flips, in order; a request that changes nothing leaves no trace. Requests come
in document order, and one that would flip the rule before its last flip is refused. -/

namespace SqlStyle

/-- Which way a rule is switched. -/
inductive Direction where
  | disable
  | enable
deriving Repr, DecidableEq

namespace Direction

def name : Direction → String
  | disable => "disable"
  | enable => "enable"

def ofName? (s : String) : Option Direction := [disable, enable].find? (·.name == s)

/-- Whether the rule is active after being switched this way. -/
def active : Direction → Bool
  | disable => false
  | enable => true

end Direction

/-- A flip was asked for at `position`, before the last recorded one at `last`. -/
structure OutOfOrder where
  position : Int
  last : Int
deriving Repr, DecidableEq

def OutOfOrder.message (e : OutOfOrder) : String :=
  s!"Transition at byte {e.position} precedes the last recorded transition at byte {e.last}"

structure Timeline where
  /-- Whether the rule is active before every flip. -/
  initial : Bool := true
  /-- The offsets at which the rule flips, in order. -/
  flips : List Int := []
deriving Repr, DecidableEq

namespace Timeline

/-- Whether a rule that starts as `initial` is active after `n` flips. -/
def after (initial : Bool) (n : Nat) : Bool := initial != (n % 2 == 1)

/-- Whether the rule is active after every flip recorded so far. -/
def current (t : Timeline) : Bool := after t.initial t.flips.length

/-- Whether the rule is active at an offset: only flips strictly before it count. The flips are in
order, so those are the leading ones. -/
def isActive (t : Timeline) (position : Int) : Bool :=
  after t.initial (t.flips.takeWhile (· < position)).length

/-- Records a flip, which must not precede the last one. -/
def flip (t : Timeline) (position : Int) : Except OutOfOrder Timeline :=
  match t.flips.getLast? with
  | some last =>
    if position < last then .error ⟨position, last⟩
    else .ok { t with flips := t.flips ++ [position] }
  | none => .ok { t with flips := t.flips ++ [position] }

/-- Switches the rule at an offset; nothing happens if it is already that way. -/
def record (t : Timeline) (direction : Direction) (position : Int) : Except OutOfOrder Timeline :=
  if t.current = direction.active then .ok t else t.flip position

end Timeline

end SqlStyle
