import SqlStyle.Check.Basic
import SqlStyle.Name
import SqlStyle.Scan.Code

/-! # Checks of layout and lexical style

Line length, the closing semicolon, comment markers, indentation, tabs and quotes. They look at the
text alone and so report on documents that do not parse, too. -/

namespace SqlStyle.Check

/-- A character that ends a line of the document. -/
def endsLine (s : Source) (c : Char) : Bool := [c] == s.delimiter

theorem endsLine_eq {s : Source} {d : Char} (hd : s.delimiter = [d]) : endsLine s = (· == d) := by
  funext c
  simp [endsLine, hd]

/-! ## Line length -/

/-- The lines of a document without their delimiters. -/
def linesOf (s : Source) : List (List Char) := Text.splitFrom s.delimiter 0 s.text.toList

theorem linesOf_eq {s : Source} {d : Char} (hd : s.delimiter = [d]) :
    linesOf s = Text.splitAll (· == d) s.text.toList := by
  rw [linesOf, hd, Text.splitFrom_singleton]

/-- The lines over the limit among those from offset `start` on. Headers that cannot be wrapped are
left alone; the issue is at the end of the line. -/
def overlongLines (limit : Nat) : Nat → List (List Char) → List Finding
  | _, [] => []
  | start, line :: rest =>
    let stop := start + line.length
    let found := if limit < line.length && !Name.isHeaderLine (String.ofList line) then
        [⟨stop, s!"Lines should be <= {limit} characters long."⟩]
      else []
    found ++ overlongLines limit (stop + 1) rest

def lineLimit : Check := ofText .lineLimit fun settings s =>
  overlongLines settings.lineLimit.val 0 (linesOf s)

/-! ## Closing semicolon -/

/-- The last index of a piece that is no comment and no space, and whether a semicolon of code is
there. -/
def significant? (t : Text) : Scan.Piece → Option (Nat × Bool)
  | .comment _ _ => none
  | .string _ stop => some (stop, false)
  | .code i => if t[i]?.any Text.isSpace then none else some (i, t[i]? == some ';')

def statementSemicolon : Check := ofText .statementSemicolon fun _ s =>
  match ((Scan.pieces s.text s.delimiter).filterMap (significant? s.text)).getLast? with
  | some (last, false) => [⟨last + 1, "Each statement should end with a semicolon ';'."⟩]
  | _ => []

/-! ## Comment markers -/

def commentStyle : Check := ofText .commentStyle fun _ s =>
  match Scan.lineComments s.text s.delimiter with
  | [] => []
  | first :: rest => (rest.filter (·.marker != first.marker)).map fun comment =>
      let expected := first.marker.text
      let found := comment.marker.text
      ⟨comment.start,
        s!"One line comments should be consistent, expected: {expected}, found: {found}"⟩

/-! ## Indentation -/

/-- The indices from `i` on that hold the wrong indentation character; at most one per line. -/
def wrongIndents (s : Source) (allowed : Indent) : Nat → Bool → List Char → List Nat
  | _, _, [] => []
  | i, inIndent, c :: rest =>
    if endsLine s c then wrongIndents s allowed (i + 1) true rest
    else if !inIndent || c == allowed.char then wrongIndents s allowed (i + 1) inIndent rest
    else if c == allowed.other.char then i :: wrongIndents s allowed (i + 1) false rest
    else wrongIndents s allowed (i + 1) false rest

def uniformIndent : Check := ofText .uniformIndent fun settings s =>
  (wrongIndents s settings.allowedIndent 0 true s.text.toList).map fun (i : Nat) =>
    let expected := settings.allowedIndent.name
    ⟨i, s!"Inconsistent use of indentation symbols, expected: {expected}"⟩

/-- The indices from `i` on that hold a tab after something other than spaces and tabs on its
line. -/
def strayTabs (s : Source) : Nat → Bool → List Char → List Nat
  | _, _, [] => []
  | i, inIndent, c :: rest =>
    if endsLine s c then strayTabs s (i + 1) true rest
    else if c == '\t' then
      if inIndent then strayTabs s (i + 1) inIndent rest else i :: strayTabs s (i + 1) inIndent rest
    else strayTabs s (i + 1) (inIndent && c == ' ') rest

def tabOutsideIndent : Check := ofText .tabOutsideIndent fun _ s =>
  (strayTabs s 0 true s.text.toList).map fun (i : Nat) => ⟨i, "Tab is not in the indentation"⟩

/-! ## Quotes -/

/-- What messages call a quote. -/
def quoteName (single : Bool) : String :=
  if single then "single quotes(')" else "double quotes(\")"

def quoteStyle : Check := ofText .quoteStyle fun settings s =>
  let other := if settings.singleQuote then '"' else '\''
  let preferredName := quoteName settings.singleQuote
  let otherName := quoteName !settings.singleQuote
  (Scan.pieces s.text s.delimiter).filterMap fun
    | .string start _ =>
      if s.text[start]? == some other then
        some ⟨start, s!"Use {preferredName} instead of {otherName}"⟩
      else none
    | _ => none

end SqlStyle.Check
