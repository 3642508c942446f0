import SqlCompose.Text.Blank
import SqlCompose.Text.Digits

/-!
# Calendar dates

Days of the proleptic Gregorian calendar. A date is written as year, month and day with hyphens; a
year outside 0 to 9999 has a sign and at least four digits. Reading allows blanks around the parts,
one-digit months and days, and short years; a year of more than four digits needs its sign.
-/
namespace SqlCompose

def isLeapYear (year : Int) : Bool := (year % 4 == 0 && year % 100 != 0) || year % 400 == 0

def daysInMonth (year : Int) (month : Nat) : Nat :=
  if month = 2 then (if isLeapYear year then 29 else 28)
  else if month = 4 ∨ month = 6 ∨ month = 9 ∨ month = 11 then 30
  else 31

/-- The years that dates are kept for. -/
def firstYear : Int := -262143

def lastYear : Int := 262142

/-- The day exists. -/
def IsDay (year : Int) (month day : Nat) : Prop :=
  firstYear ≤ year ∧ year ≤ lastYear ∧ 1 ≤ month ∧ month ≤ 12 ∧
    1 ≤ day ∧ day ≤ daysInMonth year month

instance (year : Int) (month day : Nat) : Decidable (IsDay year month day) := by
  unfold IsDay; infer_instance

structure Date where
  year : Int
  month : Nat
  day : Nat
  exists_day : IsDay year month day
  deriving DecidableEq, Repr

namespace Date

def of? (year : Int) (month day : Nat) : Option Date :=
  if h : IsDay year month day then some ⟨year, month, day, h⟩ else none

def next? (d : Date) : Option Date :=
  if d.day < daysInMonth d.year d.month then of? d.year d.month (d.day + 1)
  else if d.month < 12 then of? d.year (d.month + 1) 1
  else of? (d.year + 1) 1 1

def previous? (d : Date) : Option Date :=
  if 1 < d.day then of? d.year d.month (d.day - 1)
  else if 1 < d.month then of? d.year (d.month - 1) (daysInMonth d.year (d.month - 1))
  else of? (d.year - 1) 12 31

def yearChars (year : Int) : List Char :=
  if 0 ≤ year ∧ year ≤ 9999 then Text.padded 4 year.toNat
  else (if year < 0 then '-' else '+') :: Text.padded 4 year.natAbs

def toChars (d : Date) : List Char :=
  yearChars d.year ++ '-' :: (Text.padded 2 d.month ++ '-' :: Text.padded 2 d.day)

def toText (d : Date) : String := String.ofList d.toChars

/-- A year: signed of any length, or up to four digits. -/
def readYear? (cs : List Char) : Option (Int × List Char) :=
  match Text.dropBlank cs with
  | '-' :: cs => do
    let (n, cs) ← Text.readNat? cs.length cs
    return (-(n : Int), cs)
  | '+' :: cs => do
    let (n, cs) ← Text.readNat? cs.length cs
    return ((n : Int), cs)
  | cs => do
    let (n, cs) ← Text.readNat? 4 cs
    return ((n : Int), cs)

/-- A separator after blanks, and then blanks and up to two digits. -/
def readPart? (separator : Char) (cs : List Char) : Option (Nat × List Char) :=
  match Text.dropBlank cs with
  | c :: cs => if c = separator then Text.readNat? 2 (Text.dropBlank cs) else none
  | [] => none

/-- A date at the front of a text. -/
def read? (cs : List Char) : Option (Date × List Char) := do
  let (year, cs) ← readYear? cs
  let (month, cs) ← readPart? '-' cs
  let (day, cs) ← readPart? '-' cs
  return (← of? year month day, cs)

def ofText? (s : String) : Option Date := do
  let (date, rest) ← read? s.toList
  if (Text.dropBlank rest).isEmpty then some date else none

end Date
end SqlCompose
