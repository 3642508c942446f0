import SqlCompose.Calendar.Timestamp
import SqlCompose.Proofs.ReadBack.Digits
import SqlCompose.Uuid

/-!
# Reading identifiers, dates and instants back

The text of an identifier, of a date and of an instant is read as what it was written for. A date may
stand in front of anything: its day is written with the two digits that are read at most.
-/
namespace SqlCompose

namespace Uuid

/-- The digits that are written are no hyphens, and neither open a brace nor begin the scheme. -/
theorem of_mem_fixedDigits {n width : Nat} {c : Char} (member : c ∈ Text.fixedDigits 16 n width) :
    c ≠ '-' ∧ c ≠ '\x7b' ∧ c.toLower ≠ 'u' := by
  have digit : ∀ d : Fin 16, Text.hexChar d.val ≠ '-' ∧ Text.hexChar d.val ≠ '\x7b' ∧
      (Text.hexChar d.val).toLower ≠ 'u' := by decide
  induction width generalizing n with
  | zero => simp [Text.fixedDigits] at member
  | succ width ih =>
    rcases List.mem_append.mp member with front | last
    · exact ih front
    · rw [List.mem_singleton.mp last]
      exact digit ⟨n % 16, Nat.mod_lt _ (by decide)⟩

theorem filter_hyphenAfter {n : Nat} {rest : List Char → List Char} {cs : List Char}
    (plain : ∀ c ∈ cs, c ≠ '-') (later : (rest (cs.drop n)).filter (· != '-') = cs.drop n) :
    (hyphenAfter n rest cs).filter (· != '-') = cs := by
  have front : (cs.take n).filter (· != '-') = cs.take n := by
    rw [List.filter_eq_self]
    intro c member
    simpa using plain c (List.mem_of_mem_take member)
  simp [hyphenAfter, front, later]

theorem filter_group {cs : List Char} (plain : ∀ c ∈ cs, c ≠ '-') :
    (group cs).filter (· != '-') = cs := by
  have dropped {ds : List Char} (n : Nat) (h : ∀ c ∈ ds, c ≠ '-') : ∀ c ∈ ds.drop n, c ≠ '-' :=
    fun c member => h c (List.mem_of_mem_drop member)
  have p₁ := dropped 8 plain
  have p₂ := dropped 4 p₁
  have p₃ := dropped 4 p₂
  have p₄ := dropped 4 p₃
  refine filter_hyphenAfter plain (filter_hyphenAfter p₁ (filter_hyphenAfter p₂
    (filter_hyphenAfter p₃ ?_)))
  rw [id, List.filter_eq_self]
  simpa using p₄

theorem length_group {cs : List Char} (long : 20 ≤ cs.length) :
    (group cs).length = cs.length + 4 := by
  simp [group, hyphenAfter]
  omega

theorem body_eq_self {cs : List Char} (head : ∀ c ∈ cs.head?, c ≠ '\x7b' ∧ c.toLower ≠ 'u') :
    body cs = cs := by
  cases cs with
  | nil => rfl
  | cons c cs =>
    obtain ⟨brace, scheme_start⟩ := head c rfl
    have other : ((c :: cs).take scheme.length).map Char.toLower ≠ scheme := by
      intro same
      exact scheme_start (List.cons.inj same).1
    unfold body
    split
    · rename_i opened
      exact absurd (List.cons.inj opened).1 brace
    · rw [if_neg other]

theorem ofText?_group {digits : List Char} (length : digits.length = 32)
    (plain : ∀ c ∈ digits, c ≠ '-' ∧ c ≠ '\x7b' ∧ c.toLower ≠ 'u') :
    ofText? (String.ofList (group digits)) = ofDigits? digits := by
  have grouped : (group digits).length = 36 := by rw [length_group (by omega), length]
  have no_prefix : body (group digits) = group digits := by
    apply body_eq_self
    intro c head
    have first : c ∈ digits := by
      cases digits with
      | nil => simp at length
      | cons d digits =>
        cases head
        exact List.mem_cons_self
    exact (plain c first).2
  have ungrouped : ungroup? (group digits) = some digits := by
    simp [ungroup?, filter_group fun c member => (plain c member).1, length]
  simp [ofText?, String.toList_ofList, grouped, no_prefix, ungrouped]

theorem ofText?_toText (u : Uuid) : ofText? u.toText = some u := by
  have range : Nat.pow 16 32 = 2 ^ 128 := by decide
  rw [toText, ofText?_group (Text.length_fixedDigits ..) fun _ => of_mem_fixedDigits, ofDigits?,
    Text.ofHex?_fixedDigits, range, Nat.mod_eq_of_lt u.bits.isLt]
  simp

end Uuid

namespace Date

theorem readPart?_padded {separator : Char} (plain : Text.isBlank separator = false) {n : Nat}
    (fits : n < 100) (rest : List Char) :
    readPart? separator (separator :: (Text.padded 2 n ++ rest)) = some (n, rest) := by
  have open_front : Text.dropBlank (separator :: (Text.padded 2 n ++ rest)) =
      separator :: (Text.padded 2 n ++ rest) := by
    simp [Text.dropBlank, plain]
  rw [readPart?, open_front]
  simp only [↓reduceIte]
  rw [Text.dropBlank_padded, Text.readNat?_fitting (by decide) fits]

/-- A year that begins with a digit has no sign. -/
theorem readYear?_digit {c : Char} (digit : c.isDigit = true) (cs : List Char) :
    readYear? (c :: cs) = do
      let (n, rest) ← Text.readNat? 4 (c :: cs)
      return ((n : Int), rest) := by
  have open_front : Text.dropBlank (c :: cs) = c :: cs := by
    simp [Text.dropBlank, Text.not_blank_of_isDigit digit]
  rw [readYear?, open_front]
  split
  · rename_i minus
    rw [(List.cons.inj minus).1] at digit
    exact absurd digit (by decide)
  · rename_i plus
    rw [(List.cons.inj plus).1] at digit
    exact absurd digit (by decide)
  · rfl

theorem readYear?_yearChars (year : Int) (rest : List Char) :
    readYear? (yearChars year ++ '-' :: rest) = some (year, '-' :: rest) := by
  have signed : Text.readNat? (Text.padded 4 year.natAbs ++ '-' :: rest).length
      (Text.padded 4 year.natAbs ++ '-' :: rest) = some (year.natAbs, '-' :: rest) :=
    Text.readNat?_padded _ (.inr ⟨by simp, by simp⟩)
  by_cases plain : 0 ≤ year ∧ year ≤ 9999
  · have fits : year.toNat < Nat.pow 10 4 := by
      show year.toNat < 10000
      omega
    rw [yearChars, if_pos plain]
    obtain ⟨c, digits, front⟩ := List.exists_cons_of_ne_nil (Text.padded_ne_nil 4 year.toNat)
    have digit : c.isDigit = true := Text.isDigit_of_mem_padded (front ▸ List.mem_cons_self)
    have read := Text.readNat?_fitting (by decide) fits ('-' :: rest)
    rw [front] at read ⊢
    have value : (year.toNat : Int) = year := Int.toNat_of_nonneg plain.1
    rw [List.cons_append, readYear?_digit digit, ← List.cons_append, read]
    simp only [Option.bind_eq_bind, Option.bind_some, value]
    rfl
  · rw [yearChars, if_neg plain, List.cons_append]
    by_cases negative : year < 0
    · have value : -(year.natAbs : Int) = year := by omega
      rw [if_pos negative]
      have minus : Text.dropBlank ('-' :: (Text.padded 4 year.natAbs ++ '-' :: rest)) =
          '-' :: (Text.padded 4 year.natAbs ++ '-' :: rest) := rfl
      simp only [readYear?, minus, signed, Option.bind_eq_bind, Option.bind_some, value]
      rfl
    · have value : (year.natAbs : Int) = year := by omega
      rw [if_neg negative]
      have plus : Text.dropBlank ('+' :: (Text.padded 4 year.natAbs ++ '-' :: rest)) =
          '+' :: (Text.padded 4 year.natAbs ++ '-' :: rest) := rfl
      simp only [readYear?, plus, signed, Option.bind_eq_bind, Option.bind_some, value]
      rfl

theorem daysInMonth_le (year : Int) (month : Nat) : daysInMonth year month ≤ 31 := by
  unfold daysInMonth
  grind

theorem read?_toChars (d : Date) (rest : List Char) :
    read? (d.toChars ++ rest) = some (d, rest) := by
  obtain ⟨-, -, -, months, -, days⟩ := d.exists_day
  have longest := daysInMonth_le d.year d.month
  have text : d.toChars ++ rest = yearChars d.year ++
      '-' :: (Text.padded 2 d.month ++ ('-' :: (Text.padded 2 d.day ++ rest))) := by
    simp [toChars]
  have valid : of? d.year d.month d.day = some d := dif_pos d.exists_day
  rw [text, read?, readYear?_yearChars]
  simp only [Option.bind_eq_bind, Option.bind_some]
  rw [readPart?_padded (by decide) (by omega)]
  simp only [Option.bind_some]
  rw [readPart?_padded (by decide) (by omega)]
  simp [valid]

theorem ofText?_toText (d : Date) : ofText? d.toText = some d := by
  have text : d.toText.toList = d.toChars ++ [] := by simp [toText]
  rw [ofText?, text, read?_toChars]
  rfl

end Date

namespace Timestamp

theorem readFraction?_padded {width n : Nat} (wide : 0 < width) (short : width ≤ 9)
    (fits : n < Nat.pow 10 width) :
    readFraction? ('.' :: (Text.padded width n ++ ['Z'])) =
      some (n * Nat.pow 10 (9 - width), ['Z']) := by
  have length := Text.length_padded wide fits
  have stops : Text.StopsBehind 9 (Text.padded width n) ['Z'] := by
    rcases Nat.eq_or_lt_of_le short with all | fewer
    · exact .inl (length.trans all)
    · exact .inr ⟨by omega, by simp⟩
  simp [readFraction?, Text.readNat?_padded n stops, length]

theorem readFraction?_fractionChars {nanosecond : Nat} (fits : nanosecond < 1000000000) :
    readFraction? (fractionChars nanosecond ++ ['Z']) = some (nanosecond, ['Z']) := by
  unfold fractionChars
  split
  · subst_vars
    rfl
  · split
    · rw [List.cons_append, readFraction?_padded (by decide) (by decide) (by
        show nanosecond / 1000000 < 1000
        omega)]
      show some (nanosecond / 1000000 * 1000000, _) = _
      rw [Nat.div_mul_cancel (Nat.dvd_of_mod_eq_zero ‹_›)]
    · split
      · rw [List.cons_append, readFraction?_padded (by decide) (by decide) (by
          show nanosecond / 1000 < 1000000
          omega)]
        show some (nanosecond / 1000 * 1000, _) = _
        rw [Nat.div_mul_cancel (Nat.dvd_of_mod_eq_zero ‹_›)]
      · rw [List.cons_append, readFraction?_padded (by decide) (by decide) fits]
        show some (nanosecond * 1, _) = _
        rw [Nat.mul_one]

/-- The time of day that is written. -/
def clock (t : Timestamp) : Clock where
  hour := t.second.val / 3600
  minute := t.second.val / 60 % 60
  second := t.second.val % 60 + (if decide (1000000000 ≤ t.nanosecond.val) then 1 else 0)
  nanosecond := t.nanosecond.val % 1000000000

theorem readClock?_clock (t : Timestamp) :
    readClock? (Text.padded 2 t.clock.hour ++ ':' :: (Text.padded 2 t.clock.minute ++
      ':' :: (Text.padded 2 t.clock.second ++ (fractionChars t.clock.nanosecond ++ ['Z'])))) =
      some (t.clock, ['Z']) := by
  have day := t.second.isLt
  have hour : t.clock.hour < 100 := by simp only [clock]; omega
  have minute : t.clock.minute < 100 := by simp only [clock]; omega
  have second : t.clock.second < 100 := by simp only [clock]; split <;> omega
  have nanosecond : t.clock.nanosecond < 1000000000 := Nat.mod_lt _ (by decide)
  rw [readClock?, Text.dropBlank_padded, Text.readNat?_fitting (by decide) hour]
  simp only [Option.bind_eq_bind, Option.bind_some]
  rw [Date.readPart?_padded (by decide) minute]
  simp only [Option.bind_some]
  rw [Date.readPart?_padded (by decide) second]
  simp only [Option.bind_some]
  rw [readFraction?_fractionChars nanosecond]
  rfl

/-- A clock without an offset shows the instant whose second and nanosecond it counts. -/
theorem of?_zero (t : Timestamp) {c : Clock}
    (valid : c.hour ≤ 23 ∧ c.minute ≤ 59 ∧ c.second ≤ 60)
    (second : c.hour * 3600 + c.minute * 60 + (if c.second = 60 then 59 else c.second) =
      t.second.val)
    (nanosecond : (if c.second = 60 then c.nanosecond + 1000000000 else c.nanosecond) =
      t.nanosecond.val) : of? t.date c 0 = some t := by
  have day := t.second.isLt
  have at_zero : ((t.second.val : Int) - 0).toNat = t.second.val := by omega
  rw [of?, if_pos ⟨valid.1, valid.2.1, valid.2.2, by decide⟩]
  simp only [second, nanosecond]
  rw [if_neg (by omega), if_neg (by omega)]
  simp only [Option.pure_def, Option.bind_eq_bind, Option.bind_some, at_zero]
  exact dif_pos ⟨day, t.nanosecond.isLt, t.leap_at_59⟩

theorem of?_clock (t : Timestamp) : of? t.date t.clock 0 = some t := by
  have day := t.second.isLt
  have fits := t.nanosecond.isLt
  by_cases leap : 1000000000 ≤ t.nanosecond.val
  · have last := t.leap_at_59 leap
    apply of?_zero <;> simp [clock, leap, last] <;> omega
  · have plain : t.second.val % 60 ≠ 60 := by omega
    apply of?_zero <;> simp [clock, leap, plain] <;> omega

theorem ofText?_toZulu (t : Timestamp) : ofText? t.toZulu = some t := by
  have text : t.toZulu.toList = t.date.toChars ++ 'T' :: (Text.padded 2 t.clock.hour ++
      ':' :: (Text.padded 2 t.clock.minute ++ ':' :: (Text.padded 2 t.clock.second ++
        (fractionChars t.clock.nanosecond ++ ['Z'])))) := by
    simp [toZulu, toTextWith, clock]
  rw [ofText?, text, Date.read?_toChars]
  simp only [Option.bind_eq_bind, Option.bind_some]
  rw [if_pos (by decide), readClock?_clock]
  exact of?_clock t

end Timestamp
end SqlCompose
