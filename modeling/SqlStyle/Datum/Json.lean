import SqlStyle.Datum.Basic
import SqlStyle.Text.Quoted

/-! # JSON

`parse?` reads a JSON text; besides the standard it knows `NaN` and the infinities as numbers that
are not finite. `render` writes data over several lines, two spaces per level, with everything
outside ASCII escaped. -/

namespace SqlStyle.Json

def isBlank (c : Char) : Bool := c == ' ' || c == '\t' || c == '\n' || c == '\r'

/-- The number that four hexadecimal digits spell. -/
def hexFour? (a b c d : Char) : Option Nat :=
  if [a, b, c, d].all fun x => (digit? 16 x).isSome then
    some (digitsValue 16 [a, b, c, d]) else none

/-- What a backslash and one more character stand for. -/
def escape? : Char → Option Char
  | '"' => some '"'
  | '\\' => some '\\'
  | '/' => some '/'
  | 'b' => some '\x08'
  | 'f' => some '\x0c'
  | 'n' => some '\n'
  | 'r' => some '\r'
  | 't' => some '\t'
  | _ => none

/-- Characters from code points, two halves of a surrogate pair making one. A half on its own stands
for no character and is replaced. -/
def joinPairs : List Nat → List Char
  | [] => []
  | [n] => [(charOfCode? n).getD '\uFFFD']
  | high :: low :: rest =>
    if 0xD800 ≤ high ∧ high < 0xDC00 ∧ 0xDC00 ≤ low ∧ low < 0xE000 then
      Char.ofNat (0x10000 + (high - 0xD800) * 0x400 + (low - 0xDC00)) :: joinPairs rest
    else (charOfCode? high).getD '\uFFFD' :: joinPairs (low :: rest)

/-- The rest of a string after its opening quote: the code points it spells, and what follows the
closing quote. -/
def codes? : List Char → Option (List Nat × List Char)
  | [] => none
  | '"' :: rest => some ([], rest)
  | '\\' :: 'u' :: a :: b :: c :: d :: rest => do
    let n ← hexFour? a b c d
    let (ns, rest) ← codes? rest
    some (n :: ns, rest)
  | '\\' :: e :: rest => do
    let c ← escape? e
    let (ns, rest) ← codes? rest
    some (c.toNat :: ns, rest)
  | c :: rest =>
    if c < ' ' || c == '\\' then none
    else (codes? rest).map fun r => (c.toNat :: r.1, r.2)

/-- The rest of a string after its opening quote, and what follows the closing quote. -/
def stringRest? (cs : List Char) : Option (String × List Char) :=
  (codes? cs).map fun r => (String.ofList (joinPairs r.1), r.2)

def isDigit (c : Char) : Bool := (digit? 10 c).isSome

/-- The digits at the front, at least one, and the rest. -/
def digits? (cs : List Char) : Option (List Char × List Char) :=
  let ds := cs.takeWhile isDigit
  if ds.isEmpty then none else some (ds, cs.dropWhile isDigit)

/-- The fraction at the front, empty if there is none. -/
def fraction (cs : List Char) : List Char × List Char :=
  match cs with
  | '.' :: rest => (digits? rest).getD ([], cs)
  | _ => ([], cs)

/-- The exponent at the front, if there is one. -/
def exponent (cs : List Char) : Option Int × List Char :=
  match cs with
  | e :: rest =>
    if e == 'e' || e == 'E' then
      let (sign, ds) : Int × List Char := match rest with
        | '-' :: more => (-1, more)
        | '+' :: more => (1, more)
        | _ => (1, rest)
      match digits? ds with
      | some (ds, more) => (some (sign * digitsValue 10 ds), more)
      | none => (none, cs)
    else (none, cs)
  | [] => (none, cs)

/-- A number without its sign. -/
def unsigned? (sign : Int) (cs : List Char) : Option (Datum × List Char) :=
  match cs with
  | '0' :: _ | '1' :: _ | '2' :: _ | '3' :: _ | '4' :: _ | '5' :: _ | '6' :: _ | '7' :: _ | '8' :: _
  | '9' :: _ =>
    let whole := if cs.head? == some '0' then ['0'] else cs.takeWhile isDigit
    let (part, rest) := fraction (cs.drop whole.length)
    let (power, rest) := exponent rest
    let mantissa := sign * digitsValue 10 (whole ++ part)
    if part.isEmpty && power.isNone then
      if whole.length ≤ digitLimit then some (.int mantissa, rest) else none
    else some (.scaled mantissa (power.getD 0 - part.length), rest)
  | _ => none

/-- The words that stand for a value. -/
def literals : List (String × Datum) :=
  [("null", .null), ("true", .bool true), ("false", .bool false), ("NaN", .notFinite),
    ("Infinity", .notFinite), ("-Infinity", .notFinite)]

/-- A value that holds no other value, and what follows it. -/
def atom? (cs : List Char) : Option (Datum × List Char) :=
  match cs with
  | '"' :: rest => (stringRest? rest).map fun r => (.text r.1, r.2)
  | _ =>
    match literals.findSome? fun l => (Text.after? l.1.toList cs).map (l.2, ·) with
    | some found => some found
    | none =>
      match cs with
      | '-' :: rest => unsigned? (-1) rest
      | _ => unsigned? 1 cs

mutual

/-- A value at the front, blanks before it apart. `fuel` bounds the nesting. -/
def value? : Nat → List Char → Option (Datum × List Char)
  | 0, _ => none
  | fuel + 1, cs =>
    match cs.dropWhile isBlank with
    | '[' :: rest =>
      match rest.dropWhile isBlank with
      | ']' :: rest => some (.list [], rest)
      | rest => (items? fuel rest).map fun r => (.list r.1, r.2)
    | '\x7b' :: rest =>
      match rest.dropWhile isBlank with
      | '\x7d' :: rest => some (.table [], rest)
      | rest => (members? fuel rest).map fun r => (.table r.1, r.2)
    | cs => atom? cs

/-- Values up to a closing bracket. -/
def items? : Nat → List Char → Option (List Datum × List Char)
  | 0, _ => none
  | fuel + 1, cs => do
    let (item, rest) ← value? fuel cs
    match rest.dropWhile isBlank with
    | ']' :: rest => some ([item], rest)
    | ',' :: rest => (items? fuel rest).map fun r => (item :: r.1, r.2)
    | _ => none

/-- Entries up to a closing brace. Of two with one key the later counts. -/
def members? : Nat → List Char → Option (Entries × List Char)
  | 0, _ => none
  | fuel + 1, cs => do
    let rest ← Text.after? ['"'] (cs.dropWhile isBlank)
    let (key, rest) ← stringRest? rest
    let rest ← Text.after? [':'] (rest.dropWhile isBlank)
    let (value, rest) ← value? fuel rest
    let entry := (key, value)
    match rest.dropWhile isBlank with
    | '\x7d' :: rest => some ([entry], rest)
    | ',' :: rest => do
      let (others, rest) ← members? fuel rest
      some (if (others.lookup entry.1).isSome then others else entry :: others, rest)
    | _ => none

end

/-- Reads a JSON text. -/
def parse? (s : String) : Option Datum := do
  let cs := s.toList
  let (value, rest) ← value? (cs.length + 1) cs
  if (rest.dropWhile isBlank).isEmpty then some value else none

/-! ## Writing -/

/-- One character of a string. -/
def renderChar (c : Char) : List Char :=
  if c == '"' || c == '\\' then ['\\', c]
  else if c == '\n' then ['\\', 'n']
  else if c == '\r' then ['\\', 'r']
  else if c == '\t' then ['\\', 't']
  else if c == '\x08' then ['\\', 'b']
  else if c == '\x0c' then ['\\', 'f']
  else if 32 ≤ c.toNat ∧ c.toNat < 127 then [c]
  else if c.toNat < 0x10000 then '\\' :: 'u' :: Text.hexDigits 4 c.toNat
  else
    let n := c.toNat - 0x10000
    '\\' :: 'u' :: Text.hexDigits 4 (0xD800 + n / 0x400) ++
      '\\' :: 'u' :: Text.hexDigits 4 (0xDC00 + n % 0x400)

def renderString (s : String) : String :=
  String.ofList ('"' :: s.toList.flatMap renderChar ++ ['"'])

/-- A line break and the indentation of a level. -/
def newline (level : Nat) : String := String.ofList ('\n' :: List.replicate (2 * level) ' ')

/-- A decimal with its point. -/
def renderDecimal (mantissa : Int) (scale : Nat) : String :=
  let sign := if mantissa < 0 then "-" else ""
  let whole := mantissa.natAbs / powerOfTen scale
  let part := (List.range scale).reverse.map fun k =>
    Nat.digitChar (mantissa.natAbs / powerOfTen k % 10)
  sign ++ Nat.repr whole ++ "." ++ (if part.isEmpty then "0" else String.ofList part)

mutual

/-- Data as JSON at a level of indentation. -/
def renderAt (level : Nat) : Datum → String
  | .null => "null"
  | .bool b => if b then "true" else "false"
  | .int n => s!"{n}"
  | .decimal mantissa scale => renderDecimal mantissa scale
  | .notFinite => "NaN"
  | .moment written => renderString written
  | .text s => renderString s
  | .list [] => "[]"
  | .list (item :: items) =>
    "[" ++ newline (level + 1) ++ renderAt (level + 1) item ++ renderItems (level + 1) items ++
      newline level ++ "]"
  | .table [] => "\x7b\x7d"
  | .table (entry :: entries) =>
    "\x7b" ++ newline (level + 1) ++ renderEntry (level + 1) entry ++
      renderEntries (level + 1) entries ++
      newline level ++ "\x7d"

/-- The items after the first. -/
def renderItems (level : Nat) : List Datum → String
  | [] => ""
  | item :: items => "," ++ newline level ++ renderAt level item ++ renderItems level items

/-- One entry of a table. -/
def renderEntry (level : Nat) : String × Datum → String
  | (key, value) => renderString key ++ ": " ++ renderAt level value

/-- The entries after the first. -/
def renderEntries (level : Nat) : List (String × Datum) → String
  | [] => ""
  | entry :: entries => "," ++ newline level ++ renderEntry level entry ++
    renderEntries level entries

end

/-- Data as JSON over several lines. -/
def render (d : Datum) : String := renderAt 0 d

end SqlStyle.Json
