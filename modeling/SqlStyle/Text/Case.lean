import SqlStyle.Text.Class
import SqlStyle.Text.LowerTable

/-! # Letter case

Upper and lower case are the full mappings, under which one letter may become several (`ß` is `SS`),
and a capital sigma at the end of a word becomes `ς`, elsewhere `σ`. Matching without regard to case
is coarser: it compares letter by letter, and the long `ſ` counts as an `s`, the dotless `ı` and the
dotted `İ` as an `i`. -/

namespace SqlStyle.Text

/-- The other form of the letter with code point `n` in a run, if the run holds it. -/
def CaseRun.image? (r : CaseRun) (n : Nat) : Option Nat :=
  if r.first ≤ n ∧ n ≤ r.last ∧ (n - r.first) % r.step = 0 then
    some (r.image + (n - r.first)) else none

/-- The upper-case form of one character. -/
def upperChar (c : Char) : List Char :=
  if isLowerAscii c then [Char.ofNat (c.toNat - 32)]
  else if c.toNat < 128 then [c]
  else match caseExpansions.lookup c.toNat with
    | some ns => ns.map Char.ofNat
    | none => [(caseRuns.findSome? (·.image? c.toNat)).elim c Char.ofNat]

/-- A text in upper case. -/
def upper (s : String) : String := String.ofList (s.toList.flatMap upperChar)

/-- The lower-case form of one character, whatever stands around it. -/
def lowerChar (c : Char) : List Char :=
  if isUpperAscii c then [Char.ofNat (c.toNat + 32)]
  else if c.toNat < 128 then [c]
  else if c == 'İ' then ['i', '\u0307']
  else [(smallRuns.findSome? (·.image? c.toNat)).elim c Char.ofNat]

def isCaseIgnorable (c : Char) : Bool := inRanges caseIgnorableRanges c.toNat

def isCased (c : Char) : Bool := inRanges casedRanges c.toNat

/-- A sigma ends a word: a letter stands before it and none after it. -/
def endsWord (before after : List Char) : Bool :=
  (before.dropWhile isCaseIgnorable).head?.any isCased &&
    !(after.dropWhile isCaseIgnorable).head?.any isCased

/-- Characters in lower case; `before` holds those in front of them, the nearest first. -/
def lowerAfter (before : List Char) : List Char → List Char
  | [] => []
  | c :: rest =>
    (if c == 'Σ' then [if endsWord before rest then 'ς' else 'σ'] else lowerChar c) ++
      lowerAfter (c :: before) rest

/-- A text in lower case. -/
def lower (s : String) : String := String.ofList (lowerAfter [] s.toList)

/-- The small letter of a character that has an ASCII one: the ASCII capitals and the Kelvin
sign. -/
def lowerAsciiChar (c : Char) : Char :=
  if isUpperAscii c then Char.ofNat (c.toNat + 32) else if c == '\u212A' then 'k' else c

/-- A text with every letter made small that has an ASCII small letter. -/
def lowerAscii (s : String) : String := s.map lowerAsciiChar

/-- `c` is the ASCII capital `letter` up to case. -/
def isLetterIgnoringCase (letter c : Char) : Bool :=
  c == letter || c == Char.ofNat (letter.toNat + 32) ||
    (letter == 'S' && c == 'ſ') || (letter == 'I' && (c == 'ı' || c == 'İ')) ||
    (letter == 'K' && c == '\u212A')

end SqlStyle.Text
