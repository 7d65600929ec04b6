import SqlStyle.Fault
import SqlStyle.Text.Basic

/-! # Documents and positions

A document knows its text, the name it is reported under, what ends its lines and how wide its tabs
are. `translate` turns an offset into a line and a column, both counted from one; the end of the
text is an offset like any other, and anything outside is an error. -/

namespace SqlStyle

structure Source where
  text : Text
  /-- The name the document is reported under. -/
  filename : Option String := none
  /-- What ends a line. -/
  delimiter : List Char := ['\n']
  /-- Columns per tab stop; without it a tab counts as one column. A negative width leads back. -/
  tabSize : Option Int := none

/-- A line and a column, counted from one. -/
structure Position where
  line : Nat
  column : Int
deriving Repr, DecidableEq

/-- Why an offset has no position. -/
inductive PositionError where
  /-- The offset lies outside a text of this length. -/
  | outside (offset : Int) (length : Nat)
  /-- A tab before the offset meets a tab width of zero. -/
  | zeroTabWidth
deriving Repr, DecidableEq

def PositionError.message : PositionError → String
  | outside offset length => s!"Byte offset {offset} is outside the document (length {length})"
  | zeroTabWidth => Fault.zeroTabWidth.message

namespace Source

/-- The offsets at which a line begins: the start, and one past each delimiter. -/
def lineStarts (s : Source) : List Nat :=
  0 :: ((List.range (s.text.size + 1)).filter (s.text.occursAt s.delimiter)).map (· + 1)

/-- The column reached from column `column`, counted from zero, after one more character. A tab
moves on to the next tab stop, in the direction of the width. -/
def advance (width column : Int) (c : Char) : Except PositionError Int :=
  if c == '\t' then
    if width = 0 then .error .zeroTabWidth else .ok (column + (width - Int.fmod column width))
  else .ok (column + 1)

/-- The column, counted from zero, after the characters of a line. -/
def column (tabSize : Option Int) (chars : List Char) : Except PositionError Int :=
  match tabSize with
  | none => .ok chars.length
  | some width => chars.foldlM (advance width) 0

/-- The position of an index of the text. The lines that begin at or before it are the leading
ones. -/
def positionAt (s : Source) (index : Nat) : Except PositionError Position :=
  let starts := s.lineStarts.takeWhile (· ≤ index)
  (column s.tabSize (s.text.extract (starts.getLastD 0) index).toList).map fun col =>
    ⟨starts.length, col + 1⟩

/-- The position of an offset. -/
def translate (s : Source) (offset : Int) : Except PositionError Position :=
  if 0 ≤ offset ∧ offset ≤ s.text.size then s.positionAt offset.toNat
  else .error (.outside offset s.text.size)

end Source

end SqlStyle
