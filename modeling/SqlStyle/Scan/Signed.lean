import SqlStyle.Scan.Probe
import SqlStyle.Scan.Word

/-! # Probes at signed indices

An index below zero counts from the end of the text. Reading on from it goes past the end and starts
again at the front, up to the end once more; patterns are looked for from the place it stands for.
From zero on signed indices are plain ones. -/

namespace SqlStyle.Scan.Signed

/-- The plain index that a signed one stands for; one before the text stands for its start. -/
def place (t : Text) (p : Int) : Nat := if p < 0 then (p + t.size).toNat else p.toNat

/-- The character at an index. -/
def charAt? (t : Text) (p : Int) : Option Char :=
  if p < -(t.size : Int) then none else t[place t p]?

/-- The indices from `p` on to the end of the text. -/
def indicesFrom (t : Text) (p : Int) : List Int :=
  (List.range ((t.size : Int) - p).toNat).map fun (k : Nat) => p + (k : Int)

/-- Just past the run of characters passing a test that starts at `p`. -/
def runEnd (t : Text) (test : Char → Bool) (p : Int) : Int :=
  ((indicesFrom t p).find? fun i => !(charAt? t i).any test).getD t.size

/-- Where the string that opens at `p` is closed. -/
def stringEnd? (t : Text) (p : Int) : Except Fault (Option Int) :=
  if 0 ≤ p then .ok ((Scan.stringEnd? t p.toNat).map fun (e : Nat) => (e : Int))
  else
    match charAt? t p with
    | none => .error (indexFault p)
    | some quote =>
      if isQuote quote then
        let closes (i : Int) : Bool := charAt? t i == some quote && !isEscaped t i.toNat
        .ok (some (((indicesFrom t (p + 1)).find? closes).getD (t.size - 1)))
      else .ok none

/-- The line comment marker that starts at `p`. -/
def marker? (t : Text) (p : Int) : Option Marker := Scan.marker? t (place t p)

/-- Where the block comment open at `p` is closed. -/
def blockEnd? (t : Text) (p : Int) : Option Nat :=
  if 0 ≤ p then Scan.blockEnd? t p.toNat
  else if t.occursAt ['/', '*'] (place t p) then
    match t.find? ['*', '/'] (place t (p + 2)) with
    | some close => some (close + 1)
    | none => some (t.size - 1)
  else none

/-- Where the comment open at `p` ends, line comments included. -/
def commentEnd? (t : Text) (delimiter : List Char) (p : Int) : Option Nat :=
  if 0 ≤ p then Scan.commentEnd? t delimiter p.toNat
  else
    match blockEnd? t p with
    | some e => some e
    | none => if (marker? t p).isSome then some (lineEnd t delimiter (place t p)) else none

/-- The word that starts at or after `p` on the same line, and the index just past it. -/
def nextWord (t : Text) (p : Int) : Except Fault (String × Int) :=
  if 0 ≤ p then
    let (word, stop) := Scan.nextWord t p.toNat
    .ok (word, stop)
  else if (charAt? t p).isNone then .error (indexFault p)
  else
    let start := runEnd t (fun c => c == ' ' || c == '\t') p
    let stop := runEnd t (fun c => !isWordStop c) start
    .ok (t.sliceInt start stop, stop)

/-- The last index up to `p` that holds no blank. One before the text stands for itself. -/
def solidUpTo (t : Text) (p : Int) : Except Fault Int :=
  if p < 0 then .ok p
  else (solidBefore t (p.toNat + 1)).map fun found => found.elim (-1) fun (i : Nat) => (i : Int)

end SqlStyle.Scan.Signed
