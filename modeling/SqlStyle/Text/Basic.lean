/-! # Text by code point index

A document is the array of its code points, and every offset in this library is an index into it.
`firstBetween` is the one search: the least index of an interval that passes a test. Patterns are
found, runs of characters are measured and slices are cut with it. -/

namespace SqlStyle

/-- The least index among the `n` indices from `lo` on that passes `p`. -/
def firstFrom (p : Nat → Bool) : Nat → Nat → Option Nat
  | 0, _ => none
  | n + 1, lo => if p lo then some lo else firstFrom p n (lo + 1)

/-- The least index in `[lo, hi)` that passes `p`. -/
def firstBetween (p : Nat → Bool) (lo hi : Nat) : Option Nat :=
  firstFrom p (hi - lo) lo

/-- A found index lies in the interval searched, passes the test, and no earlier one does. -/
theorem firstFrom_eq_some {p : Nat → Bool} {n lo i : Nat} (h : firstFrom p n lo = some i) :
    lo ≤ i ∧ i < lo + n ∧ p i = true ∧ ∀ j, lo ≤ j → j < i → p j = false := by
  induction n generalizing lo with
  | zero => simp [firstFrom] at h
  | succ n ih =>
    simp only [firstFrom] at h
    split at h
    · rename_i hp
      cases h
      exact ⟨Nat.le_refl _, by omega, hp, fun j _ _ => by omega⟩
    · rename_i hp
      obtain ⟨h1, h2, h3, h4⟩ := ih h
      refine ⟨by omega, by omega, h3, fun j hj hji => ?_⟩
      by_cases hlo : j = lo
      · subst hlo; simpa using hp
      · exact h4 j (by omega) hji

/-- A found index is at or after the start of the interval. -/
theorem le_of_firstBetween {p : Nat → Bool} {lo hi i : Nat} (h : firstBetween p lo hi = some i) :
    lo ≤ i := (firstFrom_eq_some h).1

/-- A found index is before the end of the interval. -/
theorem lt_of_firstBetween {p : Nat → Bool} {lo hi i : Nat} (h : firstBetween p lo hi = some i) :
    i < hi := by
  have := firstFrom_eq_some h
  omega

/-- A document as its code points, addressed by index. -/
abbrev Text := Array Char

namespace Text

def ofString (s : String) : Text := s.toList.toArray

def toString (t : Text) : String := String.ofList t.toList

/-- The characters of `word` stand one after another from index `i` on. -/
def holds (t : Text) : List Char → Nat → Bool
  | [], _ => true
  | c :: word, i => t[i]? == some c && holds t word (i + 1)

/-- `pattern` occurs at index `i`. The empty pattern occurs at every index up to the end. -/
def occursAt (t : Text) (pattern : List Char) (i : Nat) : Bool :=
  decide (i ≤ t.size) && t.holds pattern i

/-- The first index from `i` on at which `pattern` occurs. -/
def find? (t : Text) (pattern : List Char) (i : Nat) : Option Nat :=
  firstBetween (t.occursAt pattern) i (t.size + 1)

/-- Just past the run of characters passing `p` that starts at `i`; `i` itself if it is outside. -/
def runEnd (t : Text) (p : Char → Bool) (i : Nat) : Nat :=
  (firstBetween (fun j => !t[j]?.any p) i t.size).getD (max i t.size)

/-- How many characters passing `p` stand directly before index `i`. -/
def runBefore (t : Text) (p : Char → Bool) : Nat → Nat
  | 0 => 0
  | i + 1 => if t[i]?.any p then runBefore t p i + 1 else 0

/-- The characters from `start` up to, not including, `stop`. -/
def slice (t : Text) (start stop : Nat) : String :=
  String.ofList (t.extract start stop).toList

/-- An index counted from the end when negative, brought into the text. -/
def clampIndex (t : Text) (i : Int) : Nat :=
  min (if i < 0 then (i + t.size).toNat else i.toNat) t.size

/-- The characters between two indices, a negative one counted from the end. -/
def sliceInt (t : Text) (start stop : Int) : String :=
  t.slice (t.clampIndex start) (t.clampIndex stop)

end Text

end SqlStyle
