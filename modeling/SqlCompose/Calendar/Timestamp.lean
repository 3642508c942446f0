import SqlCompose.Calendar.Date

/-!
# Timestamps

Instants of universal time with nanoseconds. A leap second is kept as a second 59 whose
nanoseconds run past one billion, and is written as second 60. Reading takes a date, a time of day
and an offset; the offset is taken off, which moves the date by at most a day.
-/
namespace SqlCompose

structure Timestamp where
  date : Date
  /-- The second of the day. -/
  second : Fin 86400
  /-- One billion and more within a leap second. -/
  nanosecond : Fin 2000000000
  leap_at_59 : 1000000000 ≤ nanosecond.val → second.val % 60 = 59
  deriving DecidableEq, Repr

namespace Timestamp

/-- A time of day as read. -/
structure Clock where
  hour : Nat
  minute : Nat
  second : Nat
  nanosecond : Nat

/-- The instant at which a clock with the given offset in seconds shows a date and a time. -/
def of? (date : Date) (clock : Clock) (offset : Int) : Option Timestamp :=
  if clock.hour ≤ 23 ∧ clock.minute ≤ 59 ∧ clock.second ≤ 60 ∧ offset.natAbs < 86400 then do
    let leap := clock.second = 60
    let second := if leap then 59 else clock.second
    let nanosecond := if leap then clock.nanosecond + 1000000000 else clock.nanosecond
    let total := ((clock.hour * 3600 + clock.minute * 60 + second : Nat) : Int) - offset
    let (date, total) ←
      if total < 0 then do pure (← date.previous?, total + 86400)
      else if 86400 ≤ total then do pure (← date.next?, total - 86400)
      else pure (date, total)
    if h : total.toNat < 86400 ∧ nanosecond < 2000000000
        ∧ (1000000000 ≤ nanosecond → total.toNat % 60 = 59) then
      some ⟨date, ⟨total.toNat, h.1⟩, ⟨nanosecond, h.2.1⟩, h.2.2⟩
    else none
  else none

/-- The fraction in the fewest of 0, 3, 6 and 9 digits that are exact. -/
def fractionChars (nanosecond : Nat) : List Char :=
  if nanosecond = 0 then []
  else if nanosecond % 1000000 = 0 then '.' :: Text.padded 3 (nanosecond / 1000000)
  else if nanosecond % 1000 = 0 then '.' :: Text.padded 6 (nanosecond / 1000)
  else '.' :: Text.padded 9 nanosecond

/-- The text with a mark for the offset zero. -/
def toTextWith (zone : String) (t : Timestamp) : String :=
  let leap := decide (1000000000 ≤ t.nanosecond.val)
  let second := t.second.val % 60 + (if leap then 1 else 0)
  let nanosecond := t.nanosecond.val % 1000000000
  String.ofList (t.date.toChars ++ 'T' :: (Text.padded 2 (t.second.val / 3600)
    ++ ':' :: (Text.padded 2 (t.second.val / 60 % 60)
    ++ ':' :: (Text.padded 2 second ++ fractionChars nanosecond)))) ++ zone

/-- The form used as a value. -/
def toText (t : Timestamp) : String := t.toTextWith "+00:00"

/-- The form used in documents. -/
def toZulu (t : Timestamp) : String := t.toTextWith "Z"

/-- A fraction of a second: nine digits count, further ones are skipped. -/
def readFraction? : List Char → Option (Nat × List Char)
  | '.' :: cs => do
    let (n, rest) ← Text.readNat? 9 cs
    let scale := Nat.pow 10 (9 - (cs.length - rest.length))
    return (n * scale, rest.dropWhile Char.isDigit)
  | cs => some (0, cs)

def readClock? (cs : List Char) : Option (Clock × List Char) := do
  let (hour, cs) ← Text.readNat? 2 (Text.dropBlank cs)
  let (minute, cs) ← Date.readPart? ':' cs
  let (second, cs) ← Date.readPart? ':' cs
  let (nanosecond, cs) ← readFraction? cs
  return (⟨hour, minute, second, nanosecond⟩, cs)

/-- Hours and minutes of an offset, with any colons and blanks between them. -/
def readHourMinute? : List Char → Option (Nat × List Char)
  | a :: b :: cs => do
    let hours := 10 * (← Text.digit? a) + (← Text.digit? b)
    match cs.dropWhile fun c => c == ':' || Text.isBlank c with
    | a :: b :: cs =>
      let tens ← Text.digit? a
      let units ← Text.digit? b
      if tens ≤ 5 then return (hours * 3600 + (10 * tens + units) * 60, cs) else none
    | _ => none
  | _ => none

/-- The name of universal time in any mix of ASCII cases. -/
def afterUtc? : List Char → Option (List Char)
  | u :: t :: c :: cs =>
    if u.toLower = 'u' ∧ t.toLower = 't' ∧ c.toLower = 'c' then some cs else none
  | _ => none

/-- An offset in seconds: a name of universal time, or a sign with hours and minutes. -/
def readOffset? (cs : List Char) : Option (Int × List Char) :=
  match afterUtc? cs with
  | some rest => some (0, rest)
  | none =>
    match cs with
    | [] => none
    | sign :: rest =>
      if sign = 'Z' ∨ sign = 'z' then some (0, rest)
      else if sign = '+' then do
        let (n, rest) ← readHourMinute? rest
        return ((n : Int), rest)
      else if sign = '-' ∨ sign.toNat = 0x2212 then do
        let (n, rest) ← readHourMinute? rest
        return (-(n : Int), rest)
      else none

def ofText? (s : String) : Option Timestamp := do
  let (date, cs) ← Date.read? s.toList
  match cs with
  | [] => none
  | mark :: cs =>
    if mark = 'T' ∨ mark = 't' ∨ mark = ' ' then do
      let (clock, cs) ← readClock? cs
      let (offset, rest) ← readOffset? (Text.dropBlank cs)
      if (Text.dropBlank rest).isEmpty then of? date clock offset else none
    else none

end Timestamp
end SqlCompose
