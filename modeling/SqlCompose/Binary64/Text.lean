import SqlCompose.Binary64.Shortest

/-!
# Decimal text of a number

The shortest digits laid out by a record of decisions: which decimal exponents are written with a
positional point, and whether a whole number keeps a fraction.
-/
namespace SqlCompose.Binary64

/-- How digits are laid out. -/
structure Layout where
  /-- Where a tie between two shortest decimals goes. -/
  tie : Tie
  /-- Whether a whole number is written with `.0`. -/
  keepFraction : Bool
  /-- The exponents of the leading digit that are written positionally; none means all. -/
  positional : Option (Int × Int)

def zeros (n : Nat) : String := String.ofList (List.replicate n '0')

/-- Digits with the point after the first `point` of them. -/
def positionalText (keepFraction : Bool) (digits : List Char) (point : Int) : String :=
  if point ≤ 0 then "0." ++ zeros (-point).toNat ++ String.ofList digits
  else
    let whole := point.toNat
    if digits.length ≤ whole then
      String.ofList digits ++ zeros (whole - digits.length) ++ (if keepFraction then ".0" else "")
    else
      String.ofList (digits.take whole) ++ "." ++ String.ofList (digits.drop whole)

/-- One digit, the others after a point, and the exponent with its sign. -/
def exponentText (digits : List Char) (exponent : Int) : String :=
  let mantissa :=
    if digits.length ≤ 1 then String.ofList digits
    else String.ofList (digits.take 1) ++ "." ++ String.ofList (digits.drop 1)
  mantissa ++ (if exponent < 0 then "e-" else "e+") ++ toString exponent.natAbs

/-- The magnitude in a layout. -/
def magnitudeText (layout : Layout) (x : Binary64) : String :=
  if x.isZero then (if layout.keepFraction then "0.0" else "0")
  else
    let d := x.shortest layout.tie
    let digits := Nat.toDigits 10 d.digits
    let point := d.exponent + digits.length
    let leading := point - 1
    match layout.positional with
    | some (first, last) =>
      if first ≤ leading ∧ leading ≤ last then positionalText layout.keepFraction digits point
      else exponentText digits leading
    | none => positionalText layout.keepFraction digits point

/-- The number in a layout; zero keeps its sign. -/
def text (layout : Layout) (x : Binary64) : String :=
  (if x.negative then "-" else "") ++ x.magnitudeText layout

end SqlCompose.Binary64
