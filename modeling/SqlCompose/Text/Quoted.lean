import SqlCompose.Text.Split

/-!
# Quoted text

A text between two quote characters, in which each inner quote is written twice. Names use the
dialect's quote character; string literals use the single quote, and one dialect escapes the
backslash in them as well.
-/
namespace SqlCompose.Text

/-- Each quote character written twice. -/
def doubled (quote : Char) (cs : List Char) : List Char := replaceChar quote [quote, quote] cs

/-- The quoted form of a text. -/
def quoted (quote : Char) (s : String) : String :=
  String.ofList (quote :: (doubled quote s.toList ++ [quote]))

/-- A string literal in which a backslash stands for itself. -/
def literal (s : String) : String := quoted '\'' s

/-- A string literal in which a backslash escapes the next character. -/
def backslashLiteral (s : String) : String :=
  literal (String.ofList (doubled '\\' s.toList))

theorem doubled_quote (quote : Char) (cs : List Char) :
    doubled quote (quote :: cs) = quote :: quote :: doubled quote cs := by
  simp [doubled, replaceChar]

theorem doubled_other {quote c : Char} (other : c ≠ quote) (cs : List Char) :
    doubled quote (c :: cs) = c :: doubled quote cs := by
  simp [doubled, replaceChar, other]

/-- A text with its quotes doubled ends where a single one stands. -/
theorem doubled_append_inj {quote : Char} {cs cs' rest rest' : List Char} (apart : rest.head? ≠ some quote)
    (apart' : rest'.head? ≠ some quote)
    (same : doubled quote cs ++ quote :: rest = doubled quote cs' ++ quote :: rest') : cs = cs' := by
  -- A quote that goes on is followed by another one, and neither rest starts with one.
  have ended {c : Char} {cs rest rest' : List Char} (apart : rest'.head? ≠ some quote) :
      doubled quote (c :: cs) ++ quote :: rest ≠ quote :: rest' := by
    intro same
    by_cases inner : c = quote
    · rw [inner, doubled_quote, List.cons_append] at same
      exact apart (by simp [← (List.cons.inj same).2])
    · rw [doubled_other inner] at same
      exact inner (List.cons.inj same).1
  induction cs generalizing cs' with
  | nil =>
    cases cs' with
    | nil => rfl
    | cons c' cs' => exact absurd same.symm (ended apart)
  | cons c cs ih =>
    cases cs' with
    | nil => exact absurd same (ended apart')
    | cons c' cs' =>
      by_cases inner : c = quote <;> by_cases inner' : c' = quote
      · rw [inner, inner', doubled_quote, doubled_quote] at same
        rw [inner, inner', ih (by simpa using same)]
      · rw [inner, doubled_quote, doubled_other inner'] at same
        exact absurd (List.cons.inj same).1.symm inner'
      · rw [inner', doubled_quote, doubled_other inner] at same
        exact absurd (List.cons.inj same).1 inner
      · rw [doubled_other inner, doubled_other inner'] at same
        obtain ⟨first, others⟩ := List.cons.inj same
        rw [first, ih others]

/-- A quoted text ends in front of anything but a quote. -/
theorem quoted_append_inj {quote : Char} {s t r r' : String} (apart : r.toList.head? ≠ some quote)
    (apart' : r'.toList.head? ≠ some quote) (same : quoted quote s ++ r = quoted quote t ++ r') :
    s = t := by
  rw [← String.toList_inj] at same ⊢
  simp only [quoted, String.toList_append, String.toList_ofList, List.cons_append, List.append_assoc,
    List.cons.injEq, true_and, List.nil_append] at same
  exact doubled_append_inj apart apart' same

end SqlCompose.Text
