import SqlStyle.Text.Basic

/-! # Probing for strings and comments

A probe asks whether a string or a comment is open at an index and, if so, at which index it ends:
at the closing quote, at the `/` of `*/`, or at the delimiter that ends a line comment, so that
reading goes on one index further. Strings and block comments that are never closed end at the last
character, line comments on the last line just past it.

A two-character opener is recognised from either of its characters, unless the first one belongs to
the `*/` that closes an earlier block comment. Main facts: a probe never answers an index before the
one it was asked about (`le_of_stringEnd?`, `le_of_commentEnd?`). -/

namespace SqlStyle.Scan

/-- A character that opens and closes a string. -/
def isQuote (c : Char) : Bool := c == '\'' || c == '"'

/-- The character at `i` follows an odd run of backslashes. -/
def isEscaped (t : Text) (i : Nat) : Bool := t.runBefore (· == '\\') i % 2 == 1

/-- Where the string that opens at `p` is closed: at the next unescaped quote of the same kind. -/
def stringEnd? (t : Text) (p : Nat) : Option Nat :=
  match t[p]? with
  | none => none
  | some quote =>
    if isQuote quote then
      some ((firstBetween (fun i => t[i]? == some quote && !isEscaped t i) (p + 1) t.size).getD
        (t.size - 1))
    else none

/-- Where the body of the block comment open at `p` begins. -/
def blockBody? (t : Text) (p : Nat) : Option Nat :=
  if t.occursAt ['/', '*'] p then some (p + 2)
  else if decide (1 ≤ p) && t.occursAt ['/', '*'] (p - 1) &&
      (decide (p < 2) || t[p - 2]? != some '*') then some (p + 1)
  else none

/-- The ways to open a line comment. -/
inductive Marker where
  | dashes
  | slashes
  | hash
deriving Repr, DecidableEq

namespace Marker

def chars : Marker → List Char
  | dashes => ['-', '-']
  | slashes => ['/', '/']
  | hash => ['#']

def text (m : Marker) : String := String.ofList m.chars

def length (m : Marker) : Nat := m.chars.length

end Marker

/-- The line comment marker that starts at `p`. -/
def marker? (t : Text) (p : Nat) : Option Marker :=
  [Marker.dashes, Marker.slashes, Marker.hash].find? fun m => t.occursAt m.chars p

/-- `p` is on a line comment marker: on its start, or on the second character of one whose first
character does not close a block comment. -/
def onMarker (t : Text) (p : Nat) : Bool :=
  (marker? t p).isSome ||
    (decide (1 ≤ p) && (t.occursAt ['-', '-'] (p - 1) || t.occursAt ['/', '/'] (p - 1)) &&
      (decide (p < 2) || !t.occursAt ['*', '/'] (p - 2)))

/-- Where the line that holds `p` ends: at the next delimiter, or past the text. -/
def lineEnd (t : Text) (delimiter : List Char) (p : Nat) : Nat :=
  (t.find? delimiter p).getD t.size

/-- Where the block comment open at `p` is closed. -/
def blockEnd? (t : Text) (p : Nat) : Option Nat :=
  (blockBody? t p).map fun body =>
    match t.find? ['*', '/'] body with
    | some close => close + 1
    | none => t.size - 1

/-- Where the comment open at `p` ends, line comments included. -/
def commentEnd? (t : Text) (delimiter : List Char) (p : Nat) : Option Nat :=
  match blockEnd? t p with
  | some e => some e
  | none => if onMarker t p then some (lineEnd t delimiter p) else none

/-! ## Bounds -/

theorem lt_size_of_occursAt {t : Text} {c : Char} {cs : List Char} {p : Nat}
    (h : t.occursAt (c :: cs) p = true) : p < t.size := by
  simp only [Text.occursAt, Text.holds, Bool.and_eq_true, beq_iff_eq] at h
  exact (Array.getElem?_eq_some_iff.1 h.2.1).1

/-- A string ends at or after its opening quote. -/
theorem le_of_stringEnd? {t : Text} {p e : Nat} (h : stringEnd? t p = some e) : p ≤ e := by
  unfold stringEnd? at h
  split at h
  · cases h
  · rename_i quote hq
    have hp : p < t.size := (Array.getElem?_eq_some_iff.1 hq).1
    split at h
    · cases hf : firstBetween (fun i => t[i]? == some quote && !isEscaped t i) (p + 1) t.size with
      | none =>
        rw [hf] at h
        simp only [Option.getD_none, Option.some.injEq] at h
        omega
      | some i =>
        have := le_of_firstBetween hf
        rw [hf] at h
        simp only [Option.getD_some, Option.some.injEq] at h
        omega
    · cases h

/-- The body of a block comment begins after the index probed, and the index is in the text. -/
theorem lt_of_blockBody? {t : Text} {p b : Nat} (h : blockBody? t p = some b) :
    p < b ∧ p < t.size := by
  unfold blockBody? at h
  split at h
  · rename_i ho
    cases h
    exact ⟨by omega, lt_size_of_occursAt ho⟩
  · split at h
    · rename_i ho
      cases h
      simp only [Bool.and_eq_true, decide_eq_true_eq] at ho
      have h2 : t.occursAt ['/', '*'] (p - 1) = true := ho.1.2
      simp only [Text.occursAt, Text.holds, Bool.and_eq_true, beq_iff_eq] at h2
      have := (Array.getElem?_eq_some_iff.1 h2.2.2.1).1
      exact ⟨by omega, by omega⟩
    · cases h

/-- A block comment ends at or after the index probed. -/
theorem le_of_blockEnd? {t : Text} {p e : Nat} (h : blockEnd? t p = some e) : p ≤ e := by
  unfold blockEnd? at h
  obtain ⟨b, hb, he⟩ := Option.map_eq_some_iff.1 h
  have := lt_of_blockBody? hb
  cases hf : t.find? ['*', '/'] b with
  | none => rw [hf] at he; simp only at he; omega
  | some c =>
    have := le_of_firstBetween hf
    rw [hf] at he
    simp only at he
    omega

/-- A line ends at or after each of its indices. -/
theorem le_lineEnd (t : Text) (delimiter : List Char) {p : Nat} (h : p ≤ t.size) :
    p ≤ lineEnd t delimiter p := by
  unfold lineEnd
  cases hf : t.find? delimiter p with
  | none => simpa using h
  | some i => simpa using le_of_firstBetween hf

/-- Only indices in the text are on a marker. -/
theorem lt_size_of_onMarker {t : Text} {p : Nat} (h : onMarker t p = true) : p < t.size := by
  simp only [onMarker, Bool.or_eq_true, Bool.and_eq_true, decide_eq_true_eq] at h
  rcases h with h | ⟨⟨h1, h | h⟩, _⟩
  · obtain ⟨m, hm⟩ := Option.isSome_iff_exists.1 h
    have := List.find?_some hm
    cases m <;> exact lt_size_of_occursAt this
  · simp only [Text.occursAt, Text.holds, Bool.and_eq_true, beq_iff_eq] at h
    have := (Array.getElem?_eq_some_iff.1 h.2.2.1).1
    omega
  · simp only [Text.occursAt, Text.holds, Bool.and_eq_true, beq_iff_eq] at h
    have := (Array.getElem?_eq_some_iff.1 h.2.2.1).1
    omega

/-- A comment ends at or after the index probed. -/
theorem le_of_commentEnd? {t : Text} {delimiter : List Char} {p e : Nat}
    (h : commentEnd? t delimiter p = some e) : p ≤ e := by
  unfold commentEnd? at h
  split at h
  · rename_i e' he
    cases h
    exact le_of_blockEnd? he
  · split at h
    · rename_i hm
      cases h
      exact le_lineEnd t delimiter (Nat.le_of_lt (lt_size_of_onMarker hm))
    · cases h

end SqlStyle.Scan
