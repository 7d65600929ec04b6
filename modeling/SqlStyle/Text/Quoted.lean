import SqlStyle.Text.UnprintableTable
import SqlStyle.Text.Class

/-! # Quoted text

A text between quotes on one line: single quotes unless it holds a single quote and no double one.
The backslash and the quote in use are escaped, tab, line feed and carriage return have a letter
each, and every other character without a glyph is written by its code point. -/

namespace SqlStyle.Text

/-- The lower-case hexadecimal digits of `n`, `width` of them, the most significant first. -/
def hexDigits (width n : Nat) : List Char :=
  (List.range width).reverse.map fun k => Nat.digitChar (n / Nat.pow 16 k % 16)

/-- A character that is written as it is. -/
def isPrintable (c : Char) : Bool :=
  if c.toNat < 127 then decide (32 ≤ c.toNat)
  else decide (c.toNat ≠ 127) && !inRanges unprintableRanges c.toNat

/-- One character inside `quote`s. -/
def quoteChar (quote c : Char) : List Char :=
  if c == quote || c == '\\' then ['\\', c]
  else if c == '\t' then ['\\', 't']
  else if c == '\n' then ['\\', 'n']
  else if c == '\r' then ['\\', 'r']
  else if isPrintable c then [c]
  else if c.toNat < 0x100 then '\\' :: 'x' :: hexDigits 2 c.toNat
  else if c.toNat < 0x10000 then '\\' :: 'u' :: hexDigits 4 c.toNat
  else '\\' :: 'U' :: hexDigits 8 c.toNat

/-- A text in quotes. -/
def quoted (s : String) : String :=
  let quote := if s.contains '\'' && !s.contains '"' then '"' else '\''
  String.ofList (quote :: s.toList.flatMap (quoteChar quote) ++ [quote])

end SqlStyle.Text
