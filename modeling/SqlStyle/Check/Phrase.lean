import SqlStyle.Check.Basic
import SqlStyle.Name
import SqlStyle.Scan.Code
import SqlStyle.Scan.Word
import SqlStyle.Text.Case

/-! # Checks of phrases in the text

Imports, `COUNT(1)` and the names of created constants are recognised in the text itself, at code
positions where a word starts. Words match in any letter case. Where a phrase has optional parts,
the longer reading is tried first and the shorter one only if the rest does not fit. -/

namespace SqlStyle.Check

/-! ## Matching -/

/-- Just past `word`, written in capitals, if the text holds it at `i` in any letter case. -/
def afterLetters? (t : Text) : List Char → Nat → Option Nat
  | [], i => some i
  | letter :: word, i =>
    if t[i]?.any (Text.isLetterIgnoringCase letter) then afterLetters? t word (i + 1) else none

/-- Just past a character. -/
def afterChar? (t : Text) (c : Char) (i : Nat) : Option Nat :=
  if t[i]? == some c then some (i + 1) else none

/-- Just past the spaces at `i`, if any. -/
def afterSpaces (t : Text) (i : Nat) : Nat := t.runEnd Text.isSpace i

/-- Just past words, each followed by at least one space. Nothing that can follow starts with a
space, so all spaces belong to the phrase. -/
def afterPhrase? (t : Text) : List String → Nat → Option Nat
  | [], i => some i
  | word :: words, i =>
    match afterLetters? t word.toList i with
    | none => none
    | some j => if j < afterSpaces t j then afterPhrase? t words (afterSpaces t j) else none

/-- The indices at which reading may go on after an optional phrase, the preferred one first. -/
def afterOptional (t : Text) (phrases : List (List String)) (i : Nat) : List Nat :=
  (phrases.filterMap fun words => afterPhrase? t words i) ++ [i]

/-! ## COUNT(1) -/

/-- `COUNT(1)` stands at `i`, spaces around its parentheses apart. -/
def isCountOne (t : Text) (i : Nat) : Bool :=
  ((afterLetters? t ['C', 'O', 'U', 'N', 'T'] i).bind fun j =>
    (afterChar? t '(' (afterSpaces t j)).bind fun j =>
      (afterChar? t '1' (afterSpaces t j)).bind fun j => afterChar? t ')' (afterSpaces t j)).isSome

/-- A word that begins with the letter C starts at the index. -/
def startsWithC (t : Text) (i : Nat) : Bool :=
  t[i]?.any (fun c => c == 'c' || c == 'C') && Scan.startsWord t i

def countStar : Check := ofText .countStar fun _ s =>
  ((Scan.code s.text s.delimiter).filter fun i => startsWithC s.text i && isCountOne s.text i).map
    fun (i : Nat) => ⟨i, "Use COUNT(*) instead of COUNT(1)"⟩

/-! ## CREATE CONSTANT -/

/-- The range of the possibly qualified name in a `CREATE CONSTANT` that starts at `i`. -/
def createdConstant? (t : Text) (i : Nat) : Option (Nat × Nat) :=
  let starts := (afterPhrase? t ["CREATE"] i).toList
    |>.flatMap (afterOptional t [["OR", "REPLACE"]])
    |>.flatMap (afterOptional t [["TEMP"], ["TEMPORARY"], ["PUBLIC"], ["PRIVATE"]])
    |>.filterMap (afterPhrase? t ["CONSTANT"])
    |>.flatMap (afterOptional t [["IF", "NOT", "EXISTS"]])
  let ranges := starts.map fun j => (j, t.runEnd (fun c => Text.isWordChar c || c == '.') j)
  ranges.find? fun r => decide (r.1 < r.2)

/-- The last part of a dotted name. -/
def lastPart (name : List Char) : List Char := (name.reverse.takeWhile (· != '.')).reverse

def constantName : Check := ofText .constantName fun _ s =>
  (Scan.code s.text s.delimiter).filterMap fun i =>
    if startsWithC s.text i then
      match createdConstant? s.text i with
      | none => none
      | some (start, stop) =>
        let name := lastPart (s.text.extract start stop).toList
        if name.isEmpty || Name.isAllCaps (String.ofList name) then none
        else some ⟨stop - name.length, "Constant names should be CAPS_SNAKE_CASE."⟩
    else none

/-! ## IMPORT -/

/-- What is imported. -/
inductive ImportKind where
  | protos
  | modules
deriving Repr, DecidableEq

namespace ImportKind

def name : ImportKind → String
  | protos => "PROTO"
  | modules => "MODULE"

def ofWord? (word : String) : Option ImportKind :=
  [protos, modules].find? (·.name == Text.upper word)

end ImportKind

/-- The word `IMPORT` stands at `i`. -/
def isImport (t : Text) (i : Nat) : Bool :=
  Scan.startsWord t i &&
    (afterLetters? t ['I', 'M', 'P', 'O', 'R', 'T'] i).any fun j => !t[j]?.any Text.isWordChar

/-- An import statement: its kind and name and the indices just past them. -/
structure Import where
  kind : ImportKind
  kindStop : Nat
  name : String
  nameStop : Nat
deriving Repr, DecidableEq

/-- The import whose `IMPORT` stands at `i`, if it says what it imports. -/
def importAt? (t : Text) (i : Nat) : Option Import :=
  let (word, kindStop) := Scan.nextWord t (i + 6)
  (ImportKind.ofWord? word).map fun kind =>
    let (name, nameStop) := Scan.nextWord t kindStop
    ⟨kind, kindStop, name, nameStop⟩

/-- The kinds and names of the imports so far, the latest first. -/
structure Imported where
  kinds : List ImportKind := []
  names : List String := []

/-- What is wrong with an import after others: its kind was left for another one before, or its name
was imported already. -/
def Imported.findings (seen : Imported) (m : Import) : List Finding :=
  let regrouped := seen.kinds.contains m.kind && seen.kinds.head? != some m.kind
  let repeated := seen.names.contains m.name
  (if regrouped then
      [⟨m.kindStop - m.kind.name.length, "PROTO and MODULE inputs should be in separate groups."⟩]
    else []) ++
  (if repeated then [⟨m.nameStop - m.name.length, s!"\"{m.name}\" is already defined."⟩] else [])

/-- The findings at the given `IMPORT` words, after the imports seen before. -/
def importFindings (t : Text) : Imported → List Nat → List Finding
  | _, [] => []
  | seen, i :: rest =>
    match importAt? t i with
    | none => ⟨i, "Imports should specify the type 'MODULE' or 'PROTO'."⟩ ::
      importFindings t seen rest
    | some m =>
      seen.findings m ++ importFindings t ⟨m.kind :: seen.kinds, m.name :: seen.names⟩ rest

def imports : Check := ofText .imports fun _ s =>
  importFindings s.text {} ((Scan.code s.text s.delimiter).filter (isImport s.text))

end SqlStyle.Check
