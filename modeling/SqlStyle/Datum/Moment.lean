import SqlStyle.Datum.Basic
import SqlStyle.Text.Class

/-! # Dates and times

A date is written `2024-02-29`, a time of day `07:32:00` with a fraction of a second if need be. A
date may be followed by a time, and that by an offset from universal time. The date has to be one of
the calendar. -/

namespace SqlStyle.Moment

/-- A number of exactly `width` digits between two bounds, and what follows. -/
def number? (width least most : Nat) (cs : List Char) : Option (Nat × List Char) :=
  let ds := cs.take width
  let n := digitsValue 10 ds
  if ds.length = width ∧ ds.all (fun c => (digit? 10 c).isSome) ∧ least ≤ n ∧ n ≤ most then
    some (n, cs.drop width)
  else none

def isLeapYear (year : Nat) : Bool := year % 4 == 0 && (year % 100 != 0 || year % 400 == 0)

/-- How many days a month has. -/
def daysIn (year month : Nat) : Nat :=
  if month = 2 then if isLeapYear year then 29 else 28
  else if [4, 6, 9, 11].contains month then 30
  else 31

/-- What follows a date. -/
def afterDate? (cs : List Char) : Option (List Char) := do
  let (year, cs) ← number? 4 1 9999 cs
  let (month, cs) ← number? 2 1 12 (← Text.after? ['-'] cs)
  let (_, cs) ← number? 2 1 (daysIn year month) (← Text.after? ['-'] cs)
  some cs

/-- What follows a fraction of a second, or what is there if none starts. -/
def afterFraction (cs : List Char) : List Char :=
  match cs with
  | '.' :: rest =>
    let digits := rest.takeWhile fun c => (digit? 10 c).isSome
    if digits.isEmpty then cs else rest.drop digits.length
  | _ => cs

/-- What follows hours and minutes. -/
def afterMinutes? (cs : List Char) : Option (List Char) := do
  let (_, cs) ← number? 2 0 23 cs
  let (_, cs) ← number? 2 0 59 (← Text.after? [':'] cs)
  some cs

/-- What follows a time of day. -/
def afterTime? (cs : List Char) : Option (List Char) := do
  let (_, cs) ← number? 2 0 59 (← Text.after? [':'] (← afterMinutes? cs))
  some (afterFraction cs)

/-- What follows an offset from universal time, or what is there if none starts. -/
def afterOffset (cs : List Char) : List Char :=
  match cs with
  | c :: rest =>
    if c == 'Z' || c == 'z' then rest
    else if c == '+' || c == '-' then (afterMinutes? rest).getD cs
    else cs
  | [] => cs

/-- What follows the time after a date, or what is there if none starts. -/
def afterTimeOfDate (cs : List Char) : List Char :=
  match cs with
  | c :: rest =>
    if c == 'T' || c == 't' || c == ' ' then ((afterTime? rest).map afterOffset).getD cs else cs
  | [] => cs

/-- A date, a time or both at the front, and what follows. -/
def read? (cs : List Char) : Option (String × List Char) :=
  (((afterDate? cs).map afterTimeOfDate).or (afterTime? cs)).map fun rest =>
    (String.ofList (cs.take (cs.length - rest.length)), rest)

end SqlStyle.Moment
