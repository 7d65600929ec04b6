import SqlStyle.Datum.Basic
import SqlStyle.Text.Class

/-! # Integers written as text

What a person may write where an integer is asked for: white space around it, a sign, leading zeros,
single underscores between digits, and a fraction of zeros. Leading zeros are dropped together with
the underscores among them; what is left has to be an integer as it is usually written. -/

namespace SqlStyle.IntegerText

/-- A decimal digit. -/
def isDigit (c : Char) : Bool := (digit? 10 c).isSome

/-- Drops a fraction, which has to be made of zeros. -/
def withoutFraction? (cs : List Char) : Option (List Char) :=
  match cs.dropWhile (· != '.') with
  | [] => some cs
  | _ :: zeros =>
    if !zeros.isEmpty && zeros.all (· == '0') then some (cs.takeWhile (· != '.')) else none

/-- Drops leading zeros and the underscores among them, up to a digit or a sign. Of nothing but
zeros the last character stays. -/
def withoutLeadingZeros? (cs : List Char) : Option (List Char) :=
  let isPadding (c : Char) := c == '0' || c == '_'
  let isStart (c : Char) := c == '-' || isDigit c
  match cs with
  | '0' :: rest =>
    match rest.dropWhile isPadding with
    | [] => cs.getLast?.map ([·])
    | c :: more => if isStart c then some (c :: more) else none
  | c :: _ => if isStart c then some cs else none
  | [] => none

/-- Drops the underscores, each of which has to stand between two characters that are none. -/
def withoutUnderscores? (cs : List Char) : Option (List Char) :=
  let groups := Text.splitAll (· == '_') cs
  if groups.any List.isEmpty then none else some groups.flatten

/-- The digits without sign, fraction, leading zeros and underscores. A sign may still stand in
front if zeros stood before it. -/
def bare? (cs : List Char) : Option (List Char) := do
  withoutUnderscores? (← withoutLeadingZeros? (← withoutFraction? cs))

/-- A sign and the digits after it, none of them a leading zero. -/
structure Numeral where
  negative : Bool
  digits : List Char

/-- Digits are a numeral if there are any, and a zero leads only on its own. -/
def Numeral.ofDigits? (negative : Bool) (digits : List Char) : Option Numeral :=
  if digits.isEmpty || !digits.all isDigit || (digits.length != 1 && digits.head? == some '0') then
    none
  else some ⟨negative, digits⟩

/-- The integer a numeral writes. -/
def Numeral.value (n : Numeral) : Int :=
  if n.negative then -(digitsValue 10 n.digits : Int) else digitsValue 10 n.digits

/-- Reads characters after a sign that is no minus. -/
def unsigned? (cs : List Char) : Option Numeral := do
  match ← bare? cs with
  | '-' :: digits => Numeral.ofDigits? true digits
  | digits => Numeral.ofDigits? false digits

/-- The digits at the front after a minus or none, if the first of them is no zero: an integer as it
is usually written, whatever follows. -/
def plainDigits (cs : List Char) : List Char :=
  let unsigned := match cs with
    | '-' :: rest => rest
    | _ => cs
  let digits := unsigned.takeWhile isDigit
  if digits.head? == some '0' then [] else digits

/-- The numeral in a text. -/
def read? (s : String) : Option Numeral :=
  match Text.trim Text.isWhite s.toList with
  | '-' :: cs => (bare? cs).bind (Numeral.ofDigits? true)
  | '+' :: cs => if cs.head? == some '-' then none else unsigned? cs
  | cs => unsigned? cs

end SqlStyle.IntegerText
