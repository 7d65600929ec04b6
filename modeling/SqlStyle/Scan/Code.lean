import SqlStyle.Scan.Probe

/-! # Reading a document from left to right

`pieces` cuts a document at its strings and comments, `code` keeps the indices that lie in neither,
and `lineComments` lists the line comments with their marker and end. Every reading skips a whole
string or comment at a time, so it ends: the probes never answer an index behind the one asked
about. -/

namespace SqlStyle.Scan

/-- What a reading of the document meets at an index. -/
inductive Piece where
  /-- A comment from `start` through index `stop`. -/
  | comment (start stop : Nat)
  /-- A string from its quote at `start` through index `stop`. -/
  | string (start stop : Nat)
  /-- One character of code. -/
  | code (index : Nat)
deriving Repr, DecidableEq

/-- The index at which reading goes on after a piece. -/
def Piece.next : Piece → Nat
  | comment _ stop => stop + 1
  | string _ stop => stop + 1
  | code index => index + 1

/-- The piece read at index `i`. -/
def pieceAt (t : Text) (delimiter : List Char) (i : Nat) : Piece :=
  match commentEnd? t delimiter i with
  | some e => .comment i e
  | none =>
    match stringEnd? t i with
    | some e => .string i e
    | none => .code i

/-- Reading makes progress. -/
theorem lt_next_pieceAt (t : Text) (delimiter : List Char) (i : Nat) :
    i < (pieceAt t delimiter i).next := by
  unfold pieceAt
  split
  · rename_i e he
    have := le_of_commentEnd? he
    simp only [Piece.next]; omega
  · split
    · rename_i e he
      have := le_of_stringEnd? he
      simp only [Piece.next]; omega
    · simp only [Piece.next]; omega

/-- The pieces read from index `i` on. -/
def piecesFrom (t : Text) (delimiter : List Char) (i : Nat) : List Piece :=
  if i < t.size then
    let piece := pieceAt t delimiter i
    have := lt_next_pieceAt t delimiter i
    piece :: piecesFrom t delimiter piece.next
  else []
termination_by t.size - i
decreasing_by omega

/-- The document as strings, comments and characters of code. -/
def pieces (t : Text) (delimiter : List Char) : List Piece := piecesFrom t delimiter 0

/-- The indices outside strings and comments, in increasing order. -/
def code (t : Text) (delimiter : List Char) : List Nat :=
  (pieces t delimiter).filterMap fun
    | .code i => some i
    | _ => none

/-- A line comment: its marker stands at `start`, and `stop` is the index of the delimiter that ends
it, or the length of the text on the last line. -/
structure LineComment where
  start : Nat
  marker : Marker
  stop : Nat
deriving Repr, DecidableEq

/-- The text of a line comment, without its marker and its delimiter. -/
def LineComment.body (c : LineComment) (t : Text) : String :=
  t.slice (c.start + c.marker.length) c.stop

/-- What a reading that looks for line comments meets at index `i`, with the index to go on at. -/
def lineCommentStep (t : Text) (delimiter : List Char) (i : Nat) : Option LineComment × Nat :=
  match blockEnd? t i with
  | some e => (none, e + 1)
  | none =>
    match stringEnd? t i with
    | some e => (none, e + 1)
    | none =>
      match marker? t i with
      | some m => (some ⟨i, m, lineEnd t delimiter i⟩, lineEnd t delimiter i + 1)
      | none => (none, i + 1)

theorem lt_lineCommentStep (t : Text) (delimiter : List Char) {i : Nat} (h : i < t.size) :
    i < (lineCommentStep t delimiter i).2 := by
  unfold lineCommentStep
  split
  · rename_i e he
    have := le_of_blockEnd? he
    simp only; omega
  · split
    · rename_i e he
      have := le_of_stringEnd? he
      simp only; omega
    · split
      · have := le_lineEnd t delimiter (Nat.le_of_lt h)
        simp only; omega
      · simp only; omega

/-- The line comments from index `i` on. -/
def lineCommentsFrom (t : Text) (delimiter : List Char) (i : Nat) : List LineComment :=
  if h : i < t.size then
    let step := lineCommentStep t delimiter i
    have := lt_lineCommentStep t delimiter h
    step.1.toList ++ lineCommentsFrom t delimiter step.2
  else []
termination_by t.size - i
decreasing_by omega

/-- The line comments of a document in order. Markers inside strings and block comments open
none. -/
def lineComments (t : Text) (delimiter : List Char) : List LineComment :=
  lineCommentsFrom t delimiter 0

end SqlStyle.Scan
