import SqlStyle.Datum.Json
import SqlStyle.Datum.Moment

/-! # TOML

`parse` reads a TOML document into a table. Keys are bare, quoted or dotted; values are strings of
all four forms, booleans, integers in four bases, floats, dates and times, arrays and inline tables.
A key is set once, a table is opened once, and what an inline value holds cannot be added to later.
A document that breaks a rule is refused as a whole, and so is one with a decimal integer of too
many digits; of two flaws the one met first is told. -/

namespace SqlStyle.Toml

/-- Why a document is refused. -/
inductive Flaw where
  /-- It breaks a rule of the format. -/
  | malformed
  /-- A decimal integer has more digits than are read. -/
  | oversized (digits : Nat)
deriving Repr, DecidableEq

/-- Something read from a document, or its first flaw. -/
abbrev Reading := Except Flaw

/-- What has to be there. -/
def required {α : Type} (found : Option α) : Reading α := found.elim (.error .malformed) .ok

/-! ## Characters -/

def isBlank (c : Char) : Bool := c == ' ' || c == '\t'

/-- Controls other than the tab appear in no comment and no string on one line. -/
def isIllegal (c : Char) : Bool := (c < ' ' && c != '\t') || c == '\x7f'

def isBareKeyChar (c : Char) : Bool := c.isAlphanum || c == '-' || c == '_'

/-- Line breaks of two characters become single ones. -/
def joinLineBreaks : List Char → List Char
  | [] => []
  | '\r' :: '\n' :: rest => '\n' :: joinLineBreaks rest
  | c :: rest => c :: joinLineBreaks rest

/-- The rest of the line after a comment, or what is there if none starts. -/
def skipComment? (cs : List Char) : Option (List Char) :=
  match cs with
  | '#' :: rest =>
    if (rest.takeWhile (· != '\n')).any isIllegal then none else some (rest.dropWhile (· != '\n'))
  | _ => some cs

/-- Skips blanks, line breaks and comments, as between the items of an array. -/
def skipArrayBlanks? : Nat → List Char → Option (List Char)
  | 0, _ => none
  | fuel + 1, cs =>
    match cs.dropWhile (fun c => isBlank c || c == '\n') with
    | '#' :: rest => do skipArrayBlanks? fuel (← skipComment? ('#' :: rest))
    | cs => some cs

/-! ## Strings -/

/-- What a backslash and one more character stand for. -/
def escape? : Char → Option Char
  | 'b' => some '\x08'
  | 't' => some '\t'
  | 'n' => some '\n'
  | 'f' => some '\x0c'
  | 'r' => some '\r'
  | '"' => some '"'
  | '\\' => some '\\'
  | _ => none

/-- The character that hexadecimal digits name. -/
def hexChar? (ds : List Char) : Option Char :=
  if ds.all fun d => (digit? 16 d).isSome then charOfCode? (digitsValue 16 ds) else none

/-- The rest of a basic string on one line. -/
def basicRest? : List Char → Option (List Char × List Char)
  | [] => none
  | '"' :: rest => some ([], rest)
  | '\\' :: 'u' :: a :: b :: c :: d :: rest => do
    let x ← hexChar? [a, b, c, d]
    let (s, rest) ← basicRest? rest
    some (x :: s, rest)
  | '\\' :: 'U' :: a :: b :: c :: d :: e :: f :: g :: h :: rest => do
    let x ← hexChar? [a, b, c, d, e, f, g, h]
    let (s, rest) ← basicRest? rest
    some (x :: s, rest)
  | '\\' :: e :: rest => do
    let x ← escape? e
    let (s, rest) ← basicRest? rest
    some (x :: s, rest)
  | c :: rest =>
    if isIllegal c || c == '\\' then none else (basicRest? rest).map fun r => (c :: r.1, r.2)

/-- The rest of a literal string on one line. -/
def literalRest? (cs : List Char) : Option (List Char × List Char) :=
  let s := cs.takeWhile fun c => c != '\'' && !isIllegal c
  match cs.drop s.length with
  | '\'' :: rest => some (s, rest)
  | _ => none

/-- What follows a backslash at the end of a line: the blanks and line breaks up to the next
character. -/
def afterLineEndingBackslash? (cs : List Char) : Option (List Char) :=
  match cs.dropWhile isBlank with
  | '\n' :: rest => some (rest.dropWhile fun c => isBlank c || c == '\n')
  | _ => none

/-- The rest of a basic string over several lines, up to two quotes before the closing three
included. -/
def basicLinesRest? : Nat → List Char → Option (List Char × List Char)
  | 0, _ => none
  | fuel + 1, cs =>
    match cs with
    | '"' :: '"' :: '"' :: '"' :: '"' :: rest => some (['"', '"'], rest)
    | '"' :: '"' :: '"' :: '"' :: rest => some (['"'], rest)
    | '"' :: '"' :: '"' :: rest => some ([], rest)
    | '\\' :: 'u' :: a :: b :: c :: d :: rest => do
      let x ← hexChar? [a, b, c, d]
      let (s, rest) ← basicLinesRest? fuel rest
      some (x :: s, rest)
    | '\\' :: 'U' :: a :: b :: c :: d :: e :: f :: g :: h :: rest => do
      let x ← hexChar? [a, b, c, d, e, f, g, h]
      let (s, rest) ← basicLinesRest? fuel rest
      some (x :: s, rest)
    | '\\' :: rest =>
      match afterLineEndingBackslash? rest with
      | some rest => basicLinesRest? fuel rest
      | none =>
        match rest with
        | e :: rest => do
          let x ← escape? e
          let (s, rest) ← basicLinesRest? fuel rest
          some (x :: s, rest)
        | [] => none
    | c :: rest =>
      if isIllegal c && c != '\n' then none
      else (basicLinesRest? fuel rest).map fun r => (c :: r.1, r.2)
    | [] => none

/-- The rest of a literal string over several lines, up to two quotes before the closing three
included. -/
def literalLinesRest? : List Char → Option (List Char × List Char)
  | '\'' :: '\'' :: '\'' :: '\'' :: '\'' :: rest => some (['\'', '\''], rest)
  | '\'' :: '\'' :: '\'' :: '\'' :: rest => some (['\''], rest)
  | '\'' :: '\'' :: '\'' :: rest => some ([], rest)
  | c :: rest =>
    if isIllegal c && c != '\n' then none
    else (literalLinesRest? rest).map fun r => (c :: r.1, r.2)
  | [] => none

/-- A string over several lines does not hold the line break right after its opening quotes. -/
def dropFirstLineBreak : List Char → List Char
  | '\n' :: rest => rest
  | cs => cs

/-- A string of any form. -/
def string? (cs : List Char) : Option (String × List Char) :=
  let found := match cs with
    | '"' :: '"' :: '"' :: rest => basicLinesRest? (rest.length + 1) (dropFirstLineBreak rest)
    | '"' :: rest => basicRest? rest
    | '\'' :: '\'' :: '\'' :: rest => literalLinesRest? (dropFirstLineBreak rest)
    | '\'' :: rest => literalRest? rest
    | _ => none
  found.map fun r => (String.ofList r.1, r.2)

/-! ## Keys -/

/-- One part of a key. -/
def keyPart? (cs : List Char) : Option (String × List Char) :=
  match cs with
  | '"' :: rest => (basicRest? rest).map fun r => (String.ofList r.1, r.2)
  | '\'' :: rest => (literalRest? rest).map fun r => (String.ofList r.1, r.2)
  | _ =>
    let part := cs.takeWhile isBareKeyChar
    if part.isEmpty then none else some (String.ofList part, cs.dropWhile isBareKeyChar)

/-- A key, its parts joined by dots, and what follows it and the blanks after it. -/
def key? : Nat → List Char → Option (List String × List Char)
  | 0, _ => none
  | fuel + 1, cs => do
    let (part, rest) ← keyPart? cs
    match rest.dropWhile isBlank with
    | '.' :: rest =>
      let (parts, rest) ← key? fuel (rest.dropWhile isBlank)
      some (part :: parts, rest)
    | rest => some ([part], rest)

/-! ## Numbers -/

/-- The digits after a first one, an underscore before each allowed, and what follows. -/
def moreDigits (base : Nat) : List Char → List Char × List Char
  | [] => ([], [])
  | '_' :: d :: rest =>
    if (digit? base d).isSome then
      let (ds, rest) := moreDigits base rest
      (d :: ds, rest)
    else ([], '_' :: d :: rest)
  | d :: rest =>
    if (digit? base d).isSome then
      let (ds, rest) := moreDigits base rest
      (d :: ds, rest)
    else ([], d :: rest)

/-- Digits of a base with single underscores between them, and what follows. -/
def digitGroup? (base : Nat) (cs : List Char) : Option (List Char × List Char) :=
  match cs with
  | [] => none
  | d :: rest =>
    if (digit? base d).isSome then
      let (ds, rest) := moreDigits base rest
      some (d :: ds, rest)
    else none

/-- An integer in base two, eight or sixteen. -/
def radix? (cs : List Char) : Option (Datum × List Char) :=
  let base : Option (Nat × List Char) := match cs with
    | '0' :: 'x' :: rest => some (16, rest)
    | '0' :: 'o' :: rest => some (8, rest)
    | '0' :: 'b' :: rest => some (2, rest)
    | _ => none
  base.bind fun b => (digitGroup? b.1 b.2).map fun r => (.int (digitsValue b.1 r.1), r.2)

/-- The sign at the front, and what follows. -/
def sign (cs : List Char) : Int × List Char :=
  match cs with
  | '+' :: rest => (1, rest)
  | '-' :: rest => (-1, rest)
  | _ => (1, cs)

/-- The fraction at the front, empty if there is none. -/
def fraction (cs : List Char) : List Char × List Char :=
  match cs with
  | '.' :: rest => (digitGroup? 10 rest).getD ([], cs)
  | _ => ([], cs)

/-- The exponent at the front, if there is one. -/
def exponent (cs : List Char) : Option Int × List Char :=
  match cs with
  | e :: rest =>
    if e == 'e' || e == 'E' then
      let (s, rest) := sign rest
      match digitGroup? 10 rest with
      | some (ds, more) => (some (s * digitsValue 10 ds), more)
      | none => (none, cs)
    else (none, cs)
  | [] => (none, cs)

/-- The whole part of a decimal number: a zero alone, or digits that start with another. -/
def wholePart? (cs : List Char) : Option (List Char × List Char) :=
  match cs with
  | '0' :: rest => some (['0'], rest)
  | _ => digitGroup? 10 cs

/-- A decimal integer or a float. Only the digits of an integer are limited. -/
def decimal (cs : List Char) : Reading (Datum × List Char) := do
  let (s, unsigned) := sign cs
  let (whole, rest) ← required (wholePart? unsigned)
  let (part, rest) := fraction rest
  let (power, rest) := exponent rest
  let mantissa := s * digitsValue 10 (whole ++ part)
  if !part.isEmpty || power.isSome then .ok (.scaled mantissa (power.getD 0 - part.length), rest)
  else if digitLimit < whole.length then .error (.oversized whole.length)
  else .ok (.int mantissa, rest)

/-- The words that stand for a value. -/
def words : List (String × Datum) :=
  [("true", .bool true), ("false", .bool false), ("inf", .notFinite), ("nan", .notFinite),
    ("+inf", .notFinite), ("+nan", .notFinite), ("-inf", .notFinite), ("-nan", .notFinite)]

/-- The word at the front that stands for a value. -/
def word? (cs : List Char) : Option (Datum × List Char) :=
  words.findSome? fun w => (Text.after? w.1.toList cs).map (w.2, ·)

/-- The date or time at the front. -/
def moment? (cs : List Char) : Option (Datum × List Char) :=
  (Moment.read? cs).map fun r => (.moment r.1, r.2)

/-- A value that holds no other value. -/
def atom (cs : List Char) : Reading (Datum × List Char) :=
  if cs.head?.any fun c => c == '"' || c == '\'' then
    required ((string? cs).map fun r => (.text r.1, r.2))
  else
    match ((word? cs).or (moment? cs)).or (radix? cs) with
    | some found => .ok found
    | none => decimal cs

/-! ## Tables -/

/-- Changes the table found by following keys from a table on, making the tables that are not there.
In an array of tables the last one is followed. -/
def changeAt (change : Entries → Option Entries) : List String → Entries → Option Entries
  | [], entries => change entries
  | key :: keys, entries =>
    match entries.lookup key with
    | none => (changeAt change keys []).map fun t => entries.set key (.table t)
    | some (.table t) => (changeAt change keys t).map fun t => entries.set key (.table t)
    | some (.list items) =>
      match items.getLast? with
      | some (.table t) =>
        (changeAt change keys t).map fun t => entries.set key (.list (items.dropLast ++ [.table t]))
      | _ => none
    | some _ => none

/-- Adds a key that is not there yet. -/
def addNew (key : String) (value : Datum) (entries : Entries) : Option Entries :=
  if (entries.lookup key).isSome then none else some (entries ++ [(key, value)])

/-- Adds an empty table to an array of tables. -/
def addToArray (key : String) (entries : Entries) : Option Entries :=
  match entries.lookup key with
  | none => some (entries ++ [(key, .list [.table []])])
  | some (.list items) => some (entries.set key (.list (items ++ [.table []])))
  | some _ => none

/-- A value that nothing can be added to after it is written. -/
def isClosed : Datum → Bool
  | .list _ => true
  | .table _ => true
  | _ => false

mutual

/-- A value. `fuel` bounds the nesting. -/
def value : Nat → List Char → Reading (Datum × List Char)
  | 0, _ => .error .malformed
  | fuel + 1, cs =>
    match cs with
    | '[' :: rest => do
      match ← required (skipArrayBlanks? (rest.length + 1) rest) with
      | ']' :: rest => .ok (.list [], rest)
      | rest => (items fuel rest).map fun r => (.list r.1, r.2)
    | '\x7b' :: rest =>
      match rest.dropWhile isBlank with
      | '\x7d' :: rest => .ok (.table [], rest)
      | rest => (inlineEntries fuel [] [] rest).map fun r => (.table r.1, r.2)
    | _ => atom cs

/-- The items of an array up to its closing bracket; a comma may follow the last. -/
def items : Nat → List Char → Reading (List Datum × List Char)
  | 0, _ => .error .malformed
  | fuel + 1, cs => do
    let (item, rest) ← value fuel cs
    match ← required (skipArrayBlanks? (rest.length + 1) rest) with
    | ']' :: rest => .ok ([item], rest)
    | ',' :: rest =>
      match ← required (skipArrayBlanks? (rest.length + 1) rest) with
      | ']' :: rest => .ok ([item], rest)
      | rest => (items fuel rest).map fun r => (item :: r.1, r.2)
    | _ => .error .malformed

/-- The entries of an inline table up to its closing brace, added to those before. -/
def inlineEntries : Nat → Entries → List (List String) → List Char → Reading (Entries × List Char)
  | 0, _, _, _ => .error .malformed
  | fuel + 1, entries, closed, cs => do
    let (key, value, rest) ← pair fuel cs
    if closed.any (·.isPrefixOf key) then .error .malformed
    else
      let entries ← required (changeAt (addNew (key.getLastD "") value) key.dropLast entries)
      match rest.dropWhile isBlank with
      | '\x7d' :: rest => .ok (entries, rest)
      | ',' :: rest =>
        inlineEntries fuel entries (if isClosed value then key :: closed else closed)
          (rest.dropWhile isBlank)
      | _ => .error .malformed

/-- A key, an equals sign and a value. -/
def pair : Nat → List Char → Reading (List String × Datum × List Char)
  | 0, _ => .error .malformed
  | fuel + 1, cs => do
    let (key, rest) ← required (key? (cs.length + 1) cs)
    match rest with
    | '=' :: rest =>
      let (value, rest) ← value fuel (rest.dropWhile isBlank)
      .ok (key, value, rest)
    | _ => .error .malformed

end

/-! ## Documents -/

/-- A document read so far. -/
structure Document where
  entries : Entries := []
  /-- The table that pairs are added to. -/
  header : List String := []
  /-- The tables that cannot be opened again. -/
  opened : List (List String) := []
  /-- The tables that dotted keys made in the current section. -/
  pending : List (List String) := []
  /-- The values that nothing can be added to. -/
  closed : List (List String) := []

namespace Document

def isClosedAt (d : Document) (key : List String) : Bool := d.closed.any (·.isPrefixOf key)

/-- Starts a new section: tables made by dotted keys cannot be opened from now on. -/
def endSection (d : Document) : Document :=
  { d with opened := d.pending ++ d.opened, pending := [] }

/-- Opens a table. -/
def openTable (d : Document) (key : List String) : Option Document :=
  let d := d.endSection
  if d.opened.contains key || d.isClosedAt key then none
  else (changeAt some key d.entries).map fun entries =>
    { d with entries, header := key, opened := key :: d.opened }

/-- Adds a table to an array of tables and opens it. -/
def openItem (d : Document) (key : List String) : Option Document :=
  let d := d.endSection
  if d.isClosedAt key then none
  else (changeAt (addToArray (key.getLastD "")) key.dropLast d.entries).map fun entries =>
    { d with
      entries
      header := key
      opened := key :: d.opened.filter (!key.isPrefixOf ·)
      closed := d.closed.filter (!key.isPrefixOf ·) }

/-- Adds a pair to the table that is open. -/
def addPair (d : Document) (key : List String) (value : Datum) : Option Document :=
  let containers := (List.range key.length).tail.map fun n => d.header ++ key.take n
  let parent := d.header ++ key.dropLast
  if containers.any d.opened.contains || d.isClosedAt parent then none
  else (changeAt (addNew (key.getLastD "") value) parent d.entries).map fun entries =>
    { d with
      entries
      pending := containers ++ d.pending
      closed := if isClosed value then (d.header ++ key) :: d.closed else d.closed }

end Document

/-- The header of a table or of an item of an array of tables. -/
def header? (d : Document) (cs : List Char) : Option (Document × List Char) :=
  match cs with
  | '[' :: '[' :: rest => do
    let (key, rest) ← key? (rest.length + 1) (rest.dropWhile isBlank)
    let d ← d.openItem key
    some (d, ← Text.after? [']', ']'] rest)
  | '[' :: rest => do
    let (key, rest) ← key? (rest.length + 1) (rest.dropWhile isBlank)
    let d ← d.openTable key
    some (d, ← Text.after? [']'] rest)
  | _ => none

/-- One statement: a header or a pair. -/
def statement (d : Document) (cs : List Char) : Reading (Document × List Char) :=
  if cs.head? == some '[' then required (header? d cs)
  else do
    let (key, value, rest) ← pair (cs.length + 2) cs
    let d ← required (d.addPair key value)
    .ok (d, rest)

/-- Reads the lines of a document, at most `fuel` of them. -/
def lines : Nat → Document → List Char → Reading Document
  | 0, _, _ => .error .malformed
  | fuel + 1, d, cs => do
    let cs := cs.dropWhile isBlank
    match cs with
    | [] => .ok d
    | '\n' :: rest => lines fuel d rest
    | _ =>
      let (d, rest) ← if cs.head? == some '#' then .ok (d, cs) else statement d cs
      match ← required (skipComment? (rest.dropWhile isBlank)) with
      | [] => .ok d
      | '\n' :: rest => lines fuel d rest
      | _ => .error .malformed

/-- Reads a TOML document as a table. -/
def parse (s : String) : Reading Entries :=
  let cs := joinLineBreaks s.toList
  (lines (cs.length + 1) {} cs).map Document.entries

end SqlStyle.Toml
