import SqlCompose.Binary64.Basic
import SqlCompose.Text.Digits

/-!
# JSON numbers

A number is a whole one if it is written without point and exponent and fits: up to `2 ^ 64 - 1`,
or down to `-2 ^ 63`. Minus zero and all other numbers are floats. A float keeps the leading
digits that fit 64 bits, drops the others, and takes its value from those and the power of ten.
-/
namespace SqlCompose.Json

inductive Number where
  | int (value : Int)
  | float (value : Binary64)

/-- The parts of a number as written. -/
structure Numeral where
  negative : Bool
  whole : List Nat
  /-- The digits after the point. -/
  fraction : Option (List Nat)
  exponent : Option Int

/-- The digits at the front of a text, at least one. -/
def readDigits? (cs : List Char) : Option (List Nat × List Char) :=
  match (cs.takeWhile Char.isDigit).filterMap Text.digit? with
  | [] => none
  | digits => some (digits, cs.dropWhile Char.isDigit)

/-- A run of digits without a leading zero. -/
def readWhole? (cs : List Char) : Option (List Nat × List Char) := do
  let (digits, rest) ← readDigits? cs
  match digits with
  | 0 :: _ :: _ => none
  | _ => some (digits, rest)

def readFraction? : List Char → Option (Option (List Nat) × List Char)
  | '.' :: cs => do
    let (digits, rest) ← readDigits? cs
    return (some digits, rest)
  | cs => some (none, cs)

def ofDigits (digits : List Nat) : Nat := digits.foldl (10 * · + ·) 0

def readExponent? : List Char → Option (Option Int × List Char)
  | [] => some (none, [])
  | e :: cs =>
    if e = 'e' ∨ e = 'E' then
      match cs with
      | '-' :: cs => do
        let (digits, rest) ← readDigits? cs
        return (some (-(ofDigits digits : Int)), rest)
      | '+' :: cs => do
        let (digits, rest) ← readDigits? cs
        return (some (ofDigits digits : Int), rest)
      | cs => do
        let (digits, rest) ← readDigits? cs
        return (some (ofDigits digits : Int), rest)
    else some (none, e :: cs)

/-- The whole text as a numeral. -/
def Numeral.ofChars? (cs : List Char) : Option Numeral := do
  let (negative, cs) := match cs with
    | '-' :: cs => (true, cs)
    | cs => (false, cs)
  let (whole, cs) ← readWhole? cs
  let (fraction, cs) ← readFraction? cs
  let (exponent, cs) ← readExponent? cs
  if cs.isEmpty then some ⟨negative, whole, fraction, exponent⟩ else none

/-- The largest significand that is kept. -/
def maxSignificand : Nat := 0xFFFFFFFFFFFFFFFF

/-- The significand with the whole digits that fit appended, and how many do not. -/
def appendWhole (significand : Nat) : List Nat → Nat × Nat
  | [] => (significand, 0)
  | d :: ds =>
    if 10 * significand + d ≤ maxSignificand then appendWhole (10 * significand + d) ds
    else (significand, ds.length + 1)

/-- The significand with the fraction digits that fit appended, and how many do. -/
def appendFraction (significand : Nat) : List Nat → Nat × Nat
  | [] => (significand, 0)
  | d :: ds =>
    if 10 * significand + d ≤ maxSignificand then
      let (total, kept) := appendFraction (10 * significand + d) ds
      (total, kept + 1)
    else (significand, 0)

/-- The number that a numeral stands for; none if it is beyond the floats. -/
def Numeral.number? (n : Numeral) : Option Number :=
  let (whole, dropped) := appendWhole 0 n.whole
  let isWhole := n.fraction.isNone && n.exponent.isNone && dropped == 0
  if isWhole && !n.negative then some (.int whole)
  else if isWhole && 0 < whole && whole ≤ 0x8000000000000000 then some (.int (-(whole : Int)))
  else
    let (significand, kept) := appendFraction whole (n.fraction.getD [])
    let exponent := (dropped : Int) - kept + n.exponent.getD 0
    (Binary64.ofDecimal? n.negative significand exponent).map .float

end SqlCompose.Json
