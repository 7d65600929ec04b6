/-! # Plain data

The values that configuration files and the environment hold, and that reports are written as. A
number with a fraction or an exponent is a decimal, `mantissa / 10 ^ scale`. Tables keep their keys
in order. -/

namespace SqlStyle

inductive Datum where
  | null
  | bool (b : Bool)
  | int (n : Int)
  | decimal (mantissa : Int) (scale : Nat)
  /-- An infinity, or no number. -/
  | notFinite
  /-- A date, a time of day or both, as it is written. -/
  | moment (written : String)
  | text (s : String)
  | list (items : List Datum)
  | table (entries : List (String × Datum))

/-- The power of ten with an exponent. -/
def powerOfTen (n : Nat) : Nat := Nat.pow 10 n

namespace Datum

/-- The decimal `mantissa * 10 ^ exponent`. One out of the range of numbers counts as infinite, one
too close to zero as zero. -/
def scaled (mantissa exponent : Int) : Datum :=
  if mantissa = 0 ∨ exponent + (Nat.repr mantissa.natAbs).length < -324 then decimal 0 0
  else if 308 < exponent then notFinite
  else if exponent < 0 then decimal mantissa (-exponent).toNat
  else decimal (mantissa * powerOfTen exponent.toNat) 0

/-- What messages call the type of a date or time that is written in some way: a time has colons
only, a date hyphens only. -/
def momentTypeName (written : String) : String :=
  if !written.contains '-' then "datetime.time"
  else if !written.contains ':' then "datetime.date"
  else "datetime.datetime"

/-- What messages call the type of a value. -/
def typeName : Datum → String
  | null => "NoneType"
  | bool _ => "bool"
  | int _ => "int"
  | decimal _ _ => "float"
  | notFinite => "float"
  | moment written => momentTypeName written
  | text _ => "str"
  | list _ => "list"
  | table _ => "dict"

/-- Whether a value counts as true: zero and what is empty do not. -/
def isTruthy : Datum → Bool
  | null => false
  | bool b => b
  | int n => n != 0
  | decimal mantissa _ => mantissa != 0
  | notFinite => true
  | moment _ => true
  | text s => !s.isEmpty
  | list items => !items.isEmpty
  | table entries => !entries.isEmpty

/-! ## Equality -/

mutual

/-- Two data are the same. -/
def same : Datum → Datum → Bool
  | null, null => true
  | bool a, bool b => a == b
  | int a, int b => a == b
  | decimal m a, decimal n b => m == n && a == b
  | notFinite, notFinite => true
  | moment a, moment b => a == b
  | text a, text b => a == b
  | list a, list b => sameItems a b
  | table a, table b => sameEntries a b
  | _, _ => false

def sameItems : List Datum → List Datum → Bool
  | [], [] => true
  | a :: as, b :: bs => same a b && sameItems as bs
  | _, _ => false

def sameEntry : String × Datum → String × Datum → Bool
  | (key, a), (other, b) => key == other && same a b

def sameEntries : List (String × Datum) → List (String × Datum) → Bool
  | [], [] => true
  | a :: as, b :: bs => sameEntry a b && sameEntries as bs
  | _, _ => false

end

mutual

theorem same_iff : ∀ a b : Datum, same a b = true ↔ a = b
  | list a, b => by cases b <;> simp [same, sameItems_iff a]
  | table a, b => by cases b <;> simp [same, sameEntries_iff a]
  | null, b => by cases b <;> simp [same]
  | bool _, b => by cases b <;> simp [same]
  | int _, b => by cases b <;> simp [same]
  | decimal _ _, b => by cases b <;> simp [same]
  | notFinite, b => by cases b <;> simp [same]
  | moment _, b => by cases b <;> simp [same]
  | text _, b => by cases b <;> simp [same]

theorem sameItems_iff : ∀ as bs : List Datum, sameItems as bs = true ↔ as = bs
  | [], bs => by cases bs <;> simp [sameItems]
  | a :: as, bs => by cases bs <;> simp [sameItems, same_iff a, sameItems_iff as]

theorem sameEntry_iff : ∀ a b : String × Datum, sameEntry a b = true ↔ a = b
  | (key, a), (other, b) => by simp [sameEntry, same_iff a]

theorem sameEntries_iff : ∀ as bs : List (String × Datum), sameEntries as bs = true ↔ as = bs
  | [], bs => by cases bs <;> simp [sameEntries]
  | a :: as, bs => by cases bs <;> simp [sameEntries, sameEntry_iff a, sameEntries_iff as]

end

instance : DecidableEq Datum := fun a b => decidable_of_iff _ (same_iff a b)

end Datum

/-- The entries of a table. -/
abbrev Entries := List (String × Datum)

/-- The list of entries with one set, in its old place if the key was there. -/
def setEntry {α : Type} (key : String) (value : α) : List (String × α) → List (String × α)
  | [] => [(key, value)]
  | e :: rest => if e.1 == key then (key, value) :: rest else e :: setEntry key value rest

/-- The table with one entry set, in its old place if the key was there. -/
def Entries.set (entries : Entries) (key : String) (value : Datum) : Entries :=
  setEntry key value entries

/-- The table with the entries of another set one after the other. -/
def Entries.update (entries other : Entries) : Entries :=
  other.foldl (fun table e => table.set e.1 e.2) entries

/-! ## Digits -/

/-- The most decimal digits of an integer that is read from a text. -/
def digitLimit : Nat := 4300

/-- The value of a digit in a base of at most sixteen. -/
def digit? (base : Nat) (c : Char) : Option Nat :=
  let value := if '0' ≤ c ∧ c ≤ '9' then some (c.toNat - 48)
    else if 'a' ≤ c ∧ c ≤ 'f' then some (c.toNat - 87)
    else if 'A' ≤ c ∧ c ≤ 'F' then some (c.toNat - 55)
    else none
  value.filter (· < base)

/-- The number that digits spell; anything else is passed over. -/
def digitsValue (base : Nat) (cs : List Char) : Nat :=
  cs.foldl (fun n c => (digit? base c).elim n (n * base + ·)) 0

/-- The character with a code point, if there is one. -/
def charOfCode? (n : Nat) : Option Char := if n.isValidChar then some (Char.ofNat n) else none

end SqlStyle
