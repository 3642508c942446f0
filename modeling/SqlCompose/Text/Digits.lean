/-!
# Digits

Decimal and hexadecimal digits: reading a run of them, and writing a number in a fixed width.
-/
namespace SqlCompose.Text

/-- The value of a decimal digit. -/
def digit? (c : Char) : Option Nat := if c.isDigit then some (c.toNat - 48) else none

/-- The value of a hexadecimal digit in either case. -/
def hexDigit? (c : Char) : Option Nat :=
  if c.isDigit then some (c.toNat - 48)
  else if 'a' ≤ c ∧ c ≤ 'f' then some (c.toNat - 87)
  else if 'A' ≤ c ∧ c ≤ 'F' then some (c.toNat - 55)
  else none

/-- The digit characters below 16, in lower case. -/
def hexChar (n : Nat) : Char :=
  if n < 10 then Char.ofNat (48 + n) else Char.ofNat (87 + n)

/-- The last `width` digits of a number in a base up to 16. -/
def fixedDigits (base : Nat) (n : Nat) : Nat → List Char
  | 0 => []
  | width + 1 => fixedDigits base (n / base) width ++ [hexChar (n % base)]

/-- The number with zeros in front up to `width` digits. -/
def padded (width n : Nat) : List Char :=
  let digits := Nat.toDigits 10 n
  List.replicate (width - digits.length) '0' ++ digits

/-- Reads up to `limit` decimal digits onto `n`. -/
def readDigits (n : Nat) : Nat → List Char → Nat × List Char
  | 0, cs => (n, cs)
  | _, [] => (n, [])
  | limit + 1, c :: cs =>
    match digit? c with
    | some d => readDigits (10 * n + d) limit cs
    | none => (n, c :: cs)

/-- Reads at least one and at most `limit` decimal digits. -/
def readNat? (limit : Nat) : List Char → Option (Nat × List Char)
  | [] => none
  | c :: cs => do return readDigits (← digit? c) (limit - 1) cs

/-- The number that a list of hexadecimal digits stands for, read onto `n`. -/
def ofHex? (n : Nat) : List Char → Option Nat
  | [] => some n
  | c :: cs => do ofHex? (16 * n + (← hexDigit? c)) cs

theorem isDigit_of_mem_toString {n : Nat} {c : Char} (h : c ∈ (toString n).toList) :
    c.isDigit = true := by
  rw [Nat.toString_eq_repr, Nat.toList_repr] at h
  exact Nat.isDigit_of_mem_toDigits (by decide) (by decide) h

theorem length_fixedDigits (base n width : Nat) : (fixedDigits base n width).length = width := by
  induction width generalizing n with
  | zero => rfl
  | succ width ih => simp [fixedDigits, ih]

theorem hexDigit?_hexChar {n : Nat} (h : n < 16) : hexDigit? (hexChar n) = some n := by
  have cases : ∀ k : Fin 16, hexDigit? (hexChar k.val) = some k.val := by decide
  exact cases ⟨n, h⟩

/-- Reading back the last hexadecimal digits gives the number modulo their range. -/
theorem ofHex?_fixedDigits (m n width : Nat) :
    ofHex? m (fixedDigits 16 n width) = some (m * Nat.pow 16 width + n % Nat.pow 16 width) := by
  have append (m : Nat) (a : List Char) (c : Char) :
      ofHex? m (a ++ [c]) = (ofHex? m a).bind fun k => (hexDigit? c).map (16 * k + ·) := by
    induction a generalizing m with
    | nil => cases h : hexDigit? c <;> simp [ofHex?, h]
    | cons d a ih => cases h : hexDigit? d <;> simp [ofHex?, h, ih]
  induction width generalizing n with
  | zero => simp [fixedDigits, ofHex?, Nat.mod_one]
  | succ width ih =>
    rw [fixedDigits, append, ih, Option.bind_some, hexDigit?_hexChar (Nat.mod_lt _ (by decide))]
    have step : Nat.pow 16 (width + 1) = Nat.pow 16 width * 16 := rfl
    have split : n % Nat.pow 16 (width + 1) = n % 16 + 16 * (n / 16 % Nat.pow 16 width) := by
      rw [step, Nat.mul_comm (Nat.pow 16 width), Nat.mod_mul]
    rw [split, step]
    simp only [Option.map_some, Option.some.injEq]
    rw [Nat.mul_add, Nat.mul_left_comm, Nat.mul_comm 16 (Nat.pow 16 width), Nat.add_assoc,
      Nat.add_comm (16 * _)]

end SqlCompose.Text
