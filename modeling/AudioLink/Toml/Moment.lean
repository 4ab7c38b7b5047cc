import AudioLink.Toml.Lexical

/-!
# TOML dates and times

A date is year, month and day, each of which must exist. A time of day has hours, minutes and
seconds, and can have a fraction of a second. A date can be followed by a time, and both together
by the distance from universal time. Only the place where such a value ends is of interest.
-/

namespace AudioLink.Toml

private def twoDigits? : List Char → Option (Nat × List Char)
  | a :: b :: rest =>
    if isDigit a && isDigit b then
      some (10 * (a.toNat - 48) + (b.toNat - 48), rest)
    else none
  | _ => none

private def between? (low high : Nat) (cs : List Char) : Option (Nat × List Char) :=
  match twoDigits? cs with
  | some (n, rest) => if low ≤ n ∧ n ≤ high then some (n, rest) else none
  | none => none

private def mark? (mark : Char) : List Char → Option (List Char)
  | c :: rest => if c = mark then some rest else none
  | [] => none

def isLeapYear (year : Nat) : Bool := year % 4 = 0 && (year % 100 ≠ 0 || year % 400 = 0)

def daysIn (year month : Nat) : Nat :=
  if month = 2 then (if isLeapYear year then 29 else 28)
  else if month = 4 ∨ month = 6 ∨ month = 9 ∨ month = 11 then 30
  else 31

def date? (cs : List Char) : Option (List Char) := do
  let (century, cs) ← twoDigits? cs
  let (inCentury, cs) ← twoDigits? cs
  let (month, cs) ← between? 1 12 (← mark? '-' cs)
  let (_, cs) ← between? 1 (daysIn (100 * century + inCentury) month) (← mark? '-' cs)
  return cs

private def skipFraction : List Char → List Char
  | '.' :: c :: rest => if isDigit c then rest.dropWhile isDigit else '.' :: c :: rest
  | cs => cs

/-- What follows a time of day. -/
def timeOfDay? (cs : List Char) : Option (List Char) := do
  let (_, cs) ← between? 0 23 cs
  let (_, cs) ← between? 0 59 (← mark? ':' cs)
  let (_, cs) ← between? 0 60 (← mark? ':' cs)
  return skipFraction cs

private def hoursAndMinutes? (cs : List Char) : Option (List Char) := do
  let (_, cs) ← between? 0 23 cs
  let (_, cs) ← between? 0 59 (← mark? ':' cs)
  return cs

private def skipOffset (cs : List Char) : List Char :=
  match cs with
  | c :: rest =>
    if c = 'Z' ∨ c = 'z' then rest
    else if c = '+' ∨ c = '-' then (hoursAndMinutes? rest).getD cs
    else cs
  | [] => []

/-- What follows a date, a time of day, or both. -/
def moment? (cs : List Char) : Option (List Char) :=
  match date? cs with
  | none => timeOfDay? cs
  | some rest =>
    match rest with
    | c :: afterMark =>
      if c = 'T' ∨ c = 't' ∨ c = ' ' then
        match timeOfDay? afterMark with
        | some rest => some (skipOffset rest)
        | none => some rest
      else some rest
    | [] => some []

end AudioLink.Toml
