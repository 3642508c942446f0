/-!
# Finite binary64 numbers

A sign and a magnitude code: the 11 exponent bits and 52 fraction bits read as one number, below the
code of infinity. Codes are ordered as the magnitudes are, so rounding is a search for a code and a
carry out of the fraction moves to the next exponent by itself.
-/
namespace SqlCompose

/-- The 53rd bit, `2 ^ 52`: the leading one of a normal mantissa, and the step between exponents. -/
def Binary64.leadingOne : Nat := 0x10000000000000

/-- The first code that stands for no finite magnitude. -/
def Binary64.codeLimit : Nat := 2047 * leadingOne

/-- A finite binary64 number. Both zeros are kept apart. -/
structure Binary64 where
  negative : Bool
  code : Fin Binary64.codeLimit
  deriving DecidableEq, Repr

namespace Binary64

/-- The magnitude as `mantissa * 2 ^ exponent`. -/
structure Scaled where
  mantissa : Nat
  exponent : Int

/-- Codes below the leading one are subnormal and lack it. -/
def scaled (x : Binary64) : Scaled :=
  let e : Nat := x.code.val / leadingOne
  let f : Nat := x.code.val % leadingOne
  if e = 0 then ⟨f, -1074⟩ else ⟨f + leadingOne, (e : Int) - 1075⟩

def isZero (x : Binary64) : Bool := x.code.val == 0

/-- Equality of the numbers: the two zeros are equal. -/
def numEq (x y : Binary64) : Bool := x == y || (x.isZero && y.isZero)

/-- A quotient rounded to the nearest whole number, a half to the even one. -/
def roundEven (num den : Nat) : Nat :=
  let q := num / den
  let r := num % den
  if 2 * r < den ∨ (2 * r = den ∧ q % 2 = 0) then q else q + 1

/-- `num / den` as a quotient of `2 ^ exponent`. -/
def quotientOver (num den : Nat) : Int → Nat × Nat
  | .ofNat e => (num, den * Nat.pow 2 e)
  | .negSucc e => (num * Nat.pow 2 (e + 1), den)

/-- The code of the magnitude nearest to `num / den`, of two nearest the even one; none if it is out
of range. The mantissa has 53 bits unless the exponent is the least. -/
def nearest? (num den : Nat) : Option (Fin codeLimit) :=
  if num = 0 then some ⟨0, by decide⟩ else
  let guess : Int := (num.log2 : Int) - den.log2 - 53
  let (n, d) := quotientOver num den guess
  let exponent := max (if 2 * leadingOne * d ≤ n then guess + 1 else guess) (-1074)
  let (n, d) := quotientOver num den exponent
  let code := (exponent + 1074).toNat * leadingOne + roundEven n d
  if h : code < codeLimit then some ⟨code, h⟩ else none

/-- The magnitude of a code as a fraction. -/
def fraction (code : Fin codeLimit) : Nat × Nat :=
  let s := scaled ⟨false, code⟩
  match s.exponent with
  | .ofNat e => (s.mantissa * Nat.pow 2 e, 1)
  | .negSucc e => (s.mantissa, Nat.pow 2 (e + 1))

/-- The rounded product. -/
def mul? (a b : Fin codeLimit) : Option (Fin codeLimit) :=
  let (an, ad) := fraction a
  let (bn, bd) := fraction b
  nearest? (an * bn) (ad * bd)

/-- The rounded quotient; none for a zero divisor. -/
def div? (a b : Fin codeLimit) : Option (Fin codeLimit) :=
  let (an, ad) := fraction a
  let (bn, bd) := fraction b
  if bn = 0 then none else nearest? (an * bd) (ad * bn)

/-- A whole number rounded to a magnitude. -/
def ofNat? (n : Nat) : Option (Fin codeLimit) := nearest? n 1

/-- The largest power of ten that the scaling steps use. -/
def maxPower : Nat := 308

/-- Divides by `10 ^ k`, in steps of at most `maxPower`, each rounded; zero ends the steps. -/
def divPower? (a : Fin codeLimit) (k : Nat) : Option (Fin codeLimit) :=
  if k ≤ maxPower then do div? a (← ofNat? (Nat.pow 10 k))
  else if a.val = 0 then some a
  else do
    let a ← div? a (← ofNat? (Nat.pow 10 maxPower))
    divPower? a (k - maxPower)
termination_by k
decreasing_by simp only [maxPower] at *; omega

/-- Multiplies by `10 ^ k`, rounded once; beyond `maxPower` only zero stays in range. -/
def mulPower? (a : Fin codeLimit) (k : Nat) : Option (Fin codeLimit) :=
  if k ≤ maxPower then do mul? a (← ofNat? (Nat.pow 10 k))
  else if a.val = 0 then some a
  else none

/-- The number written as `significand * 10 ^ exponent`: the significand is rounded, and then its
product or quotient with the rounded power of ten. None if it is out of range. -/
def ofDecimal? (negative : Bool) (significand : Nat) : Int → Option Binary64
  | .ofNat k => do return ⟨negative, ← mulPower? (← ofNat? significand) k⟩
  | .negSucc k => do return ⟨negative, ← divPower? (← ofNat? significand) (k + 1)⟩

/-- A whole number rounded to the nearest number. -/
def ofInt? (n : Int) : Option Binary64 := do return ⟨decide (n < 0), ← ofNat? n.natAbs⟩

end Binary64
end SqlCompose
