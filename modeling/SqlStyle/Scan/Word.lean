import SqlStyle.Fault
import SqlStyle.Text.Basic
import SqlStyle.Text.Class

/-! # Words around an index

`nextWord` reads forward on the same line up to a separator; `previousWord` reads backward over
blanks and then over the letters, numerals and underscores of one word. Looking back from an index
past the end of the text is a fault, because the first character asked for does not exist. -/

namespace SqlStyle.Scan

/-- A character that ends a word read forward. -/
def isWordStop (c : Char) : Bool := Text.isBlank c || c == ';' || c == '(' || c == ','

/-- The word that starts at or after `p` on the same line, and the index just past it. -/
def nextWord (t : Text) (p : Nat) : String × Nat :=
  let start := t.runEnd (fun c => c == ' ' || c == '\t') p
  let stop := t.runEnd (fun c => !isWordStop c) start
  (t.slice start stop, stop)

/-- The number of indices that a text can have. -/
def indexLimit : Nat := 0x8000000000000000

/-- Why no character is at an index. -/
def indexFault (i : Int) : Fault :=
  if -(indexLimit : Int) ≤ i ∧ i < indexLimit then .indexOutOfRange else .indexTooLarge

/-- The last index before `n` whose character is not to be skipped. -/
def lastBefore (skip : Char → Bool) (t : Text) : Nat → Except Fault (Option Nat)
  | 0 => .ok none
  | n + 1 =>
    match t[n]? with
    | none => .error (indexFault n)
    | some c => if skip c then lastBefore skip t n else .ok (some n)

/-- The last index before `n` that holds no blank. -/
def solidBefore (t : Text) (n : Nat) : Except Fault (Option Nat) := lastBefore Text.isBlank t n

/-- The word that ends before `p`, blanks apart, and the index at which it starts. -/
def previousWord (t : Text) (p : Nat) : Except Fault (Option (String × Nat)) :=
  (solidBefore t p).map fun last? =>
    match last? with
    | none => none
    | some last =>
      match t.runBefore Text.isWordChar (last + 1) with
      | 0 => none
      | length + 1 => some (t.slice (last - length) (last + 1), last - length)

/-- No word character stands right before index `p`. -/
def startsWord (t : Text) (p : Nat) : Bool :=
  p == 0 || !t[p - 1]?.any Text.isWordChar

end SqlStyle.Scan
