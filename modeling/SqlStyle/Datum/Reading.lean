import SqlStyle.Datum.Binary
import SqlStyle.Datum.IntegerText
import SqlStyle.Text.Case

/-! # Reading data as what it should be

A reader takes a datum as a value of some type or says what is wrong with it. Reading is lenient: a
number may be written as a text, a truth value as a number or a word. Several readings are put
together so that every mistake is found, not only the first. -/

namespace SqlStyle

/-- What can be wrong with a value. -/
inductive Complaint where
  /-- It is not there. -/
  | missing
  /-- It is none of the values allowed. -/
  | notAMember
  /-- It is not above its bound. -/
  | notGreater
  /-- It is below its bound. -/
  | tooSmall
  | notAnInteger
  /-- A text that spells no integer. -/
  | unreadableInteger
  /-- A number with a fraction. -/
  | fractionalInteger
  /-- A decimal too large for an integer, or a text that starts with too many digits. -/
  | oversizedInteger
  /-- An infinity, or no number. -/
  | notFinite
  | notABoolean
  /-- A number or text that spells no truth value. -/
  | unreadableBoolean
  | notAText
  | notAList
  /-- It breaks a rule of its field. -/
  | refused
deriving Repr, DecidableEq

/-- A complaint about a field, or about an item of one. -/
structure FieldError where
  location : String
  complaint : Complaint
deriving Repr, DecidableEq

/-- A value, or all that is wrong. -/
abbrev Checked (α : Type) := Except (List FieldError) α

namespace Checked

variable {α β : Type}

/-- What is wrong, in order of location. -/
def errors (c : Checked α) : List FieldError :=
  match c with
  | .ok _ => []
  | .error es => es

/-- Both values, or all that is wrong with either. -/
def both (a : Checked α) (b : Checked β) : Checked (α × β) :=
  match a, b with
  | .ok x, .ok y => .ok (x, y)
  | .ok _, .error es => .error es
  | .error es, .ok _ => .error es
  | .error es, .error es' => .error (es ++ es')

/-- All values, or all that is wrong with any. -/
def all : List (Checked α) → Checked (List α)
  | [] => .ok []
  | c :: cs => (both c (all cs)).map fun p => p.1 :: p.2

/-- A reading of the field at a location. -/
def ofField (location : String) (r : Except Complaint α) : Checked α :=
  r.mapError fun complaint => [⟨location, complaint⟩]

/-- The complaints sorted by location. -/
def sorted (c : Checked α) : Checked α :=
  c.mapError fun es => es.mergeSort fun a b => decide (a.location ≤ b.location)

end Checked

/-- A number above zero. -/
structure Positive where
  val : Nat
  pos : 0 < val
deriving Repr, DecidableEq

namespace Datum

/-- The integer a text spells. Too many digits are told as such only at the front of the text; those
that come out after white space, zeros or underscores are dropped make it unreadable. -/
def integerOfText (s : String) : Except Complaint Int :=
  if digitLimit < (IntegerText.plainDigits s.toList).length then .error .oversizedInteger
  else
    match IntegerText.read? s with
    | none => .error .unreadableInteger
    | some n => if n.digits.length ≤ digitLimit then .ok n.value else .error .unreadableInteger

/-- The integer that a decimal equals once it is rounded to a binary number. -/
def integerOfDecimal (mantissa : Int) (scale : Nat) : Except Complaint Int :=
  let units := Binary.nearest mantissa.natAbs (powerOfTen scale)
  let whole := units / Binary.oneUnits
  if Binary.limitUnits ≤ units then .error .notFinite
  else if units % Binary.oneUnits ≠ 0 then .error .fractionalInteger
  else if whole < 0x8000000000000000 then .ok (if mantissa < 0 then -(whole : Int) else whole)
  else .error .oversizedInteger

def readInteger : Datum → Except Complaint Int
  | int n => .ok n
  | bool b => .ok (if b then 1 else 0)
  | decimal mantissa scale => integerOfDecimal mantissa scale
  | notFinite => .error .notFinite
  | text s => integerOfText s
  | _ => .error .notAnInteger

/-- An integer not below a bound. -/
def readAtLeast (least : Nat) (d : Datum) : Except Complaint Nat := do
  let n ← d.readInteger
  if (least : Int) ≤ n then .ok n.toNat else .error .tooSmall

/-- The truth value a word stands for. -/
def booleanOfWord? (s : String) : Option Bool :=
  let word := Text.lowerAscii s
  if ["1", "on", "t", "true", "y", "yes"].contains word then some true
  else if ["0", "off", "f", "false", "n", "no"].contains word then some false
  else none

/-- The truth value a number stands for. One of more than 63 bits is not even tried. -/
def booleanOfInteger (n : Int) : Except Complaint Bool :=
  if n = 1 then .ok true
  else if n = 0 then .ok false
  else if -0x8000000000000000 ≤ n ∧ n < 0x8000000000000000 then .error .unreadableBoolean
  else .error .notABoolean

def readBoolean : Datum → Except Complaint Bool
  | bool b => .ok b
  | int n => booleanOfInteger n
  | decimal mantissa scale =>
    match integerOfDecimal mantissa scale with
    | .ok n => booleanOfInteger n
    | .error _ => .error .notABoolean
  | text s => (booleanOfWord? s).elim (.error .unreadableBoolean) .ok
  | _ => .error .notABoolean

def readText : Datum → Except Complaint String
  | text s => .ok s
  | _ => .error .notAText

/-- A value that may be null. -/
def readOptional {α : Type} (read : Datum → Except Complaint α) :
    Datum → Except Complaint (Option α)
  | null => .ok none
  | d => (read d).map some

/-- One of the values that a text names. -/
def readMember {α : Type} (ofName? : String → Option α) : Datum → Except Complaint α
  | text s => (ofName? s).elim (.error .notAMember) .ok
  | _ => .error .notAMember

/-- One of some texts. -/
def readChoice (choices : List String) : Datum → Except Complaint String
  | text s => if choices.contains s then .ok s else .error .notAMember
  | _ => .error .notAMember

/-- A list of texts. A complaint about an item names its place in the list. -/
def readTexts (location : String) : Datum → Checked (List String)
  | list items =>
    Checked.all (items.zipIdx.map fun p => Checked.ofField s!"{location}.{p.2}" p.1.readText)
  | _ => .error [⟨location, .notAList⟩]

end Datum

end SqlStyle
