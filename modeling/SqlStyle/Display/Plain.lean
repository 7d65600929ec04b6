import SqlStyle.Display

/-! # The console without styles

What a display looks like where there are no colours and frames: the tags of its markup are left out
and escaped brackets stand for themselves. -/

namespace SqlStyle

/-- The text of markup after a run of `pending` backslashes; inside a tag nothing is kept. -/
def plainFrom (pending : Nat) (inTag : Bool) : List Char → List Char
  | [] => List.replicate pending '\\'
  | c :: rest =>
    if inTag then plainFrom 0 (c != ']') rest
    else if c == '\\' then plainFrom (pending + 1) false rest
    else if c == '[' && Text.opensTag rest then
      List.replicate (pending / 2) '\\' ++
        (if pending % 2 == 1 then c :: plainFrom 0 false rest else plainFrom 0 true rest)
    else List.replicate pending '\\' ++ c :: plainFrom 0 false rest

/-- The text of markup. -/
def plain (markup : String) : String := String.ofList (plainFrom 0 false markup.toList)

namespace Display

/-- A display as lines of text. -/
def lines : Display → List String
  | line markup => [plain markup]
  | tree title labels =>
    title :: labels.map fun l => String.ofList (List.replicate (2 * (l.1 + 1)) ' ') ++ plain l.2
  | table title columns rows =>
    title :: (columns :: rows).map fun cells => "  " ++ "  ".intercalate (cells.map plain)

end Display

end SqlStyle
