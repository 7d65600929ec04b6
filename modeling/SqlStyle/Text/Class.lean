import SqlStyle.Text.LetterTable

/-! # Character classes

Three notions of "space" are kept apart: a *space* is any white space of Unicode, a *blank* one of
the four ASCII characters that separate words in look-behind, and a *white space* what surrounds a
number in a setting. Words are made of letters, numerals and the underscore; naming conventions look
at ASCII letters only. -/

namespace SqlStyle

/-- The code point lies in one of the inclusive ranges. -/
def inRanges (ranges : List (Nat × Nat)) (n : Nat) : Bool :=
  ranges.any fun r => decide (r.1 ≤ n) && decide (n ≤ r.2)

namespace Text

/-- White space, the information separators `U+001C` to `U+001F` included. -/
def isSpace (c : Char) : Bool :=
  inRanges [(0x09, 0x0D), (0x1C, 0x20), (0x85, 0x85), (0xA0, 0xA0), (0x1680, 0x1680),
    (0x2000, 0x200A), (0x2028, 0x2029), (0x202F, 0x202F), (0x205F, 0x205F),
    (0x3000, 0x3000)] c.toNat

/-- White space without the information separators. -/
def isWhite (c : Char) : Bool :=
  isSpace c && !inRanges [(0x1C, 0x1F)] c.toNat

/-- Space, tab, line feed or carriage return. -/
def isBlank (c : Char) : Bool :=
  c == ' ' || c == '\t' || c == '\n' || c == '\r'

/-- An ASCII capital. -/
def isUpperAscii (c : Char) : Bool := decide ('A' ≤ c) && decide (c ≤ 'Z')

/-- An ASCII small letter. -/
def isLowerAscii (c : Char) : Bool := decide ('a' ≤ c) && decide (c ≤ 'z')

/-- A letter of any script. -/
def isLetter (c : Char) : Bool :=
  isUpperAscii c || isLowerAscii c || (decide (127 < c.toNat) && inRanges letterRanges c.toNat)

/-- A digit or other numeral of any script. -/
def isNumeral (c : Char) : Bool :=
  (decide ('0' ≤ c) && decide (c ≤ '9')) ||
    (decide (127 < c.toNat) && inRanges numeralRanges c.toNat)

/-- A character of a word: a letter, a numeral or the underscore. -/
def isWordChar (c : Char) : Bool := isLetter c || isNumeral c || c == '_'

/-- The characters without the spaces at either end. -/
def trim (p : Char → Bool) (cs : List Char) : List Char :=
  ((cs.dropWhile p).reverse.dropWhile p).reverse

/-- What follows a word at the front. -/
def after? (word cs : List Char) : Option (List Char) :=
  if word.isPrefixOf cs then some (cs.drop word.length) else none

/-- The pieces between the characters that pass `p`, empty ones included. -/
def splitAll (p : Char → Bool) : List Char → List (List Char)
  | [] => [[]]
  | c :: cs =>
    match splitAll p cs with
    | [] => [[c]]
    | piece :: pieces => if p c then [] :: piece :: pieces else (c :: piece) :: pieces

theorem splitAll_ne_nil (p : Char → Bool) (cs : List Char) : splitAll p cs ≠ [] := by
  cases cs with
  | nil => simp [splitAll]
  | cons c cs =>
    rw [splitAll]
    cases splitAll p cs with
    | nil => simp
    | cons piece pieces => cases p c <;> simp

/-- The pieces around the occurrences of a delimiter, empty ones included. The first `skip`
characters still belong to an occurrence. A delimiter without characters occurs nowhere. -/
def splitFrom (delimiter : List Char) : Nat → List Char → List (List Char)
  | _, [] => [[]]
  | skip + 1, _ :: cs => splitFrom delimiter skip cs
  | 0, c :: cs =>
    if !delimiter.isEmpty && delimiter.isPrefixOf (c :: cs) then
      [] :: splitFrom delimiter (delimiter.length - 1) cs
    else
      match splitFrom delimiter 0 cs with
      | [] => [[c]]
      | piece :: pieces => (c :: piece) :: pieces

/-- A delimiter of one character is looked for character by character. -/
theorem splitFrom_singleton (d : Char) (cs : List Char) :
    splitFrom [d] 0 cs = splitAll (· == d) cs := by
  induction cs with
  | nil => rfl
  | cons c cs ih =>
    rw [splitFrom, splitAll, List.length_singleton, ih]
    by_cases hc : c = d
    · subst hc
      obtain ⟨piece, pieces, hsplit⟩ := List.exists_cons_of_ne_nil (splitAll_ne_nil (· == c) cs)
      simp [hsplit]
    · have hne : (c == d) = false := by simpa using hc
      cases splitAll (· == d) cs <;> simp [hne, Ne.symm hc]

/-- Line ends of any system as line feeds. -/
def unifyNewlines : List Char → List Char
  | [] => []
  | '\r' :: '\n' :: rest => '\n' :: unifyNewlines rest
  | '\r' :: rest => '\n' :: unifyNewlines rest
  | c :: rest => c :: unifyNewlines rest

/-- The non-empty pieces between the characters that pass `p`. -/
def words (p : Char → Bool) (cs : List Char) : List (List Char) :=
  (splitAll p cs).filter (!·.isEmpty)

end Text

end SqlStyle
