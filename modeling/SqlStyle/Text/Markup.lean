import SqlStyle.Text.Class

/-! # Console markup

Console output is written with tags in square brackets. `escape` makes a text come out literally: a
bracket that would open a tag gets a backslash in front, the backslashes before it are doubled, and
a single backslash at the very end is doubled so that it cannot swallow what follows. -/

namespace SqlStyle.Text

/-- What follows an opening bracket reads as a tag: a tag character, then a closing bracket before
any other opening one. -/
def opensTag : List Char → Bool
  | [] => false
  | c :: rest =>
    (isLowerAscii c || c == '#' || c == '/' || c == '@') &&
      rest.find? (fun d => d == '[' || d == ']') == some ']'

/-- Escapes the characters after a run of `pending` backslashes that are not written yet. -/
def escapeFrom : Nat → List Char → List Char
  | pending, [] => List.replicate (if pending == 1 then 2 else pending) '\\'
  | pending, c :: rest =>
    if c == '\\' then escapeFrom (pending + 1) rest
    else if c == '[' && opensTag rest then
      List.replicate (2 * pending + 1) '\\' ++ c :: escapeFrom 0 rest
    else List.replicate pending '\\' ++ c :: escapeFrom 0 rest

/-- A text with its tags made literal. -/
def escapeMarkup (s : String) : String := String.ofList (escapeFrom 0 s.toList)

end SqlStyle.Text
