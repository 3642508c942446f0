import SqlCompose.Text.Blank
import SqlCompose.Text.Digits

/-!
# Reading digits back

A number written with zeros in front is read back, if the reader stops behind its last digit: because it
reads no more digits, or because no digit follows.
-/
namespace SqlCompose.Text

/-- A reader of at most `limit` digits stops behind these. -/
def StopsBehind (limit : Nat) (digits rest : List Char) : Prop :=
  digits.length = limit ∨ digits.length < limit ∧ ∀ c ∈ rest.head?, c.isDigit = false

theorem StopsBehind.tail {limit : Nat} {c : Char} {digits rest : List Char}
    (stops : StopsBehind limit (c :: digits) rest) : StopsBehind (limit - 1) digits rest := by
  rcases stops with all | ⟨fewer, next⟩
  · exact .inl (by rw [← all]; rfl)
  · rw [List.length_cons] at fewer
    exact .inr ⟨by omega, next⟩

theorem not_blank_of_isDigit {c : Char} (digit : c.isDigit = true) : isBlank c = false := by
  have range : 48 ≤ c.toNat ∧ c.toNat ≤ 57 := by
    simpa [Char.isDigit, UInt32.le_iff_toNat_le] using digit
  simp [isBlank]
  omega

theorem dropBlank_digits {digits : List Char} (all : ∀ c ∈ digits, c.isDigit = true)
    (some_digit : digits ≠ []) (rest : List Char) :
    dropBlank (digits ++ rest) = digits ++ rest := by
  cases digits with
  | nil => exact absurd rfl some_digit
  | cons c digits => simp [dropBlank, not_blank_of_isDigit (all c (by simp))]

theorem readDigits_append {digits : List Char} (all : ∀ c ∈ digits, c.isDigit = true) (n : Nat)
    {limit : Nat} {rest : List Char} (stops : StopsBehind limit digits rest) :
    readDigits n limit (digits ++ rest) = (Nat.ofDigitChars 10 digits n, rest) := by
  induction digits generalizing n limit with
  | nil =>
    cases limit with
    | zero => cases rest <;> rfl
    | succ limit =>
      cases rest with
      | nil => rfl
      | cons c rest =>
        have other : c.isDigit = false := by simpa [StopsBehind] using stops
        simp [readDigits, digit?, other]
  | cons c digits ih =>
    have digit := all c (by simp)
    cases limit with
    | zero => simp [StopsBehind] at stops
    | succ limit =>
      have later : StopsBehind limit digits rest := stops.tail
      have step : readDigits n (limit + 1) (c :: digits ++ rest) =
          readDigits (10 * n + (c.toNat - 48)) limit (digits ++ rest) := by
        simp [readDigits, digit?, digit]
      rw [step, ih (fun o member => all o (by simp [member])) _ later, Nat.ofDigitChars_cons]
      rfl

theorem readNat?_append {digits : List Char} (all : ∀ c ∈ digits, c.isDigit = true)
    (some_digit : digits ≠ []) {limit : Nat} {rest : List Char}
    (stops : StopsBehind limit digits rest) :
    readNat? limit (digits ++ rest) = some (Nat.ofDigitChars 10 digits 0, rest) := by
  cases digits with
  | nil => exact absurd rfl some_digit
  | cons c digits =>
    have digit := all c (by simp)
    have tail := readDigits_append (fun o member => all o (by simp [member])) (c.toNat - 48)
      stops.tail
    simp [readNat?, digit?, digit, tail, Nat.ofDigitChars_cons]

/-! ## Numbers with zeros in front -/

theorem isDigit_of_mem_padded {width n : Nat} {c : Char} (member : c ∈ padded width n) :
    c.isDigit = true := by
  rcases List.mem_append.mp member with zero | digit
  · rw [List.eq_of_mem_replicate zero]
    rfl
  · exact Nat.isDigit_of_mem_toDigits (by decide) (by decide) digit

theorem padded_ne_nil (width n : Nat) : padded width n ≠ [] := by
  simp [padded]

theorem ofDigitChars_padded (width n : Nat) : Nat.ofDigitChars 10 (padded width n) 0 = n := by
  have zeros (k : Nat) : Nat.ofDigitChars 10 (List.replicate k '0') 0 = 0 := by
    induction k with
    | zero => rfl
    | succ k ih => rw [List.replicate_succ, Nat.ofDigitChars_cons]; exact ih
  rw [padded, Nat.ofDigitChars_append, zeros]
  exact Nat.ofDigitChars_toDigits (by decide) (by decide)

theorem length_padded {width n : Nat} (wide : 0 < width) (fits : n < Nat.pow 10 width) :
    (padded width n).length = width := by
  have digits : (Nat.toDigits 10 n).length ≤ width :=
    (Nat.length_toDigits_le_iff (by decide) wide).mpr fits
  simp [padded]
  omega

theorem readNat?_padded {limit width : Nat} (n : Nat) {rest : List Char}
    (stops : StopsBehind limit (padded width n) rest) :
    readNat? limit (padded width n ++ rest) = some (n, rest) := by
  rw [readNat?_append (fun _ => isDigit_of_mem_padded) (padded_ne_nil width n) stops,
    ofDigitChars_padded]

/-- A number of the width that is read. -/
theorem readNat?_fitting {width n : Nat} (wide : 0 < width) (fits : n < Nat.pow 10 width)
    (rest : List Char) : readNat? width (padded width n ++ rest) = some (n, rest) :=
  readNat?_padded n (.inl (length_padded wide fits))

theorem dropBlank_padded (width n : Nat) (rest : List Char) :
    dropBlank (padded width n ++ rest) = padded width n ++ rest :=
  dropBlank_digits (fun _ => isDigit_of_mem_padded) (padded_ne_nil width n) rest

end SqlCompose.Text
