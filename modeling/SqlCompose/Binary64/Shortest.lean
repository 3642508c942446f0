import SqlCompose.Binary64.Basic

/-!
# The fewest digits that read back

The reals that round to a number form an interval, whose ends belong to it iff the mantissa is
even. Of the decimal grids of 1, 2, … 17 digits the first one with a point in the interval is
taken, and on it the point nearest to the number. The interval's lower half is narrower at a power
of two.
-/
namespace SqlCompose.Binary64

/-- Where a number halfway between two points of the grid goes. -/
inductive Tie
  | up
  | even
  deriving DecidableEq, Repr

/-- `digits * 10 ^ exponent`. -/
structure Decimal where
  digits : Nat
  exponent : Int
  deriving DecidableEq, Repr

/-- A number and the interval that rounds to it, all over one denominator. -/
structure Interval where
  low : Nat
  value : Nat
  high : Nat
  den : Nat
  closed : Bool

/-- The interval in quarters of the last binary place, so that every bound is whole. -/
def interval (s : Scaled) : Interval :=
  let narrow := s.mantissa == leadingOne && s.exponent != -1074
  let low := 4 * s.mantissa - (if narrow then 1 else 2)
  let value := 4 * s.mantissa
  let high := 4 * s.mantissa + 2
  match s.exponent with
  | .ofNat e =>
    let p := Nat.pow 2 e
    ⟨low * p, value * p, high * p, 4, s.mantissa % 2 == 0⟩
  | .negSucc e => ⟨low, value, high, 4 * Nat.pow 2 (e + 1), s.mantissa % 2 == 0⟩

/-- The interval over a denominator in which `10 ^ exponent` is the unit. -/
def Interval.over (i : Interval) : Int → Interval
  | .ofNat e => { i with den := i.den * Nat.pow 10 e }
  | .negSucc e =>
    let p := Nat.pow 10 (e + 1)
    { i with low := i.low * p, value := i.value * p, high := i.high * p }

/-- Whether the grid point `n` lies in the interval. -/
def Interval.holds (i : Interval) (n : Nat) : Bool :=
  if i.closed then i.low ≤ n * i.den && n * i.den ≤ i.high
  else i.low < n * i.den && n * i.den < i.high

/-- The nearest grid point in the interval, if the grid has one there. -/
def Interval.point? (tie : Tie) (i : Interval) : Option Nat :=
  let below := i.value / i.den
  let rest := i.value % i.den
  let above := below + 1
  match i.holds below, i.holds above with
  | false, false => none
  | true, false => some below
  | false, true => some above
  | true, true =>
    if 2 * rest < i.den then some below
    else if i.den < 2 * rest then some above
    else match tie with
      | .up => some above
      | .even => some (if below % 2 = 0 then below else above)

/-- The number of decimal digits before the point of a value `≥ 1`. -/
def digitCount (n : Nat) : Nat := (Nat.toDigits 10 n).length

/-- The exponent `e` with `10 ^ e ≤ value < 10 ^ (e + 1)`. -/
def Interval.leading (i : Interval) : Int :=
  if i.den ≤ i.value then (digitCount (i.value / i.den) : Int) - 1
  else
    -- the least power of ten that lifts the value to one
    let k := digitCount (i.den / i.value)
    if i.den ≤ i.value * Nat.pow 10 (k - 1) then 1 - (k : Int) else -(k : Int)

/-- The first grid with a point, trying `count` further digits from the given unit down. -/
def Interval.search (tie : Tie) (i : Interval) (unit : Int) : Nat → Decimal
  | 0 => ⟨(i.over unit).value / (i.over unit).den, unit⟩
  | count + 1 =>
    match (i.over unit).point? tie with
    | some n => ⟨n, unit⟩
    | none => i.search tie (unit - 1) count

/-- Without trailing zeros. `fuel` bounds the zeros that are dropped. -/
def Decimal.strip (d : Decimal) : Nat → Decimal
  | 0 => d
  | fuel + 1 =>
    if d.digits ≠ 0 ∧ d.digits % 10 = 0 then
      (⟨d.digits / 10, d.exponent + 1⟩ : Decimal).strip fuel
    else d

/-- The shortest decimal that reads back as the magnitude of `x`; zero has the digit 0. -/
def shortest (tie : Tie) (x : Binary64) : Decimal :=
  if x.isZero then ⟨0, 0⟩
  else
    let i := interval x.scaled
    let d := i.search tie i.leading 17
    d.strip 20

end SqlCompose.Binary64
