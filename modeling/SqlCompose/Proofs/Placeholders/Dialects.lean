import SqlCompose.Proofs.Bounds
import SqlCompose.Proofs.Placeholders.Sharing
import SqlCompose.Text.Digits

/-!
# Dialects that write plainly

The dialects at hand write plainly, and sharing a template is a congruence between a dialect that
does and the same dialect with its values written in place.
-/
namespace SqlCompose

open Template

namespace Text

variable {s t : String}

theorem Plain.append {quote : Char} (left : Plain quote s) (right : Plain quote t) : Plain quote (s ++ t) := by
  have quotes := not_or_intro left.1 right.1
  have marks := not_or_intro left.2 right.2
  exact ⟨by rwa [String.toList_append, List.mem_append],
    by rwa [String.toList_append, List.mem_append]⟩

theorem plain_toString (quote : Char) (letter : quote.isAlphanum = false) (n : Nat) :
    Plain quote (toString n) := by
  constructor
  · intro member
    have digit := isDigit_of_mem_toString member
    simp [Char.isAlphanum, digit] at letter
  · intro member
    exact absurd (isDigit_of_mem_toString member) (by decide)

theorem Plain.ordinary {quote : Char} (plain : Plain quote s) : ∀ c ∈ s.toList, Ordinary quote c := by
  intro c member
  constructor
  · rintro rfl
    exact plain.1 member
  · rintro rfl
    exact plain.2 member

end Text

namespace QueryDialect

theorem Numbered.plain {words : List String} {s : String} (numbered : Numbered words s) (quote : Char)
    (letter : quote.isAlphanum = false) (each : ∀ word ∈ words, Text.Plain quote word) :
    Text.Plain quote s :=
  numbered.holds ⟨by simp, by simp⟩ each (Text.plain_toString quote letter) .append

theorem mySql_writesPlainly (tablePrefix : String) : (mySql tablePrefix).WritesPlainly where
  positional := rfl
  quote := (by decide : Text.isBlank '\x60' = false ∧ '\x60'.isAlphanum = false ∧
    '\x60' ∉ ['?', '*', '=', ',', '.', '(', ')'])
  operators := (by decide : ∀ operator ∈ MySql.operators, '\x60' ∉ operator.toList)
  sharedLock := (by decide : Text.Plain '\x60' "lock in share mode")
  limit b := (MySql.bounds_numbered b).1.plain '\x60' (by decide) (by decide)
  offset b := (MySql.bounds_numbered b).2.plain '\x60' (by decide) (by decide)
  datePart part := by
    have front : Text.Plain '\x60' (part.keyword ++ "(") := by cases part <;> decide
    exact ⟨part.keyword ++ "(", ")", front, (by decide : Text.Plain '\x60' ")"), fun _ => rfl⟩
  jsonContains negated := by
    have front : Text.Plain '\x60' ((if negated then "not " else "") ++ "json_contains(") := by
      cases negated <;> decide
    exact ⟨_, ", ", ")", front, (by decide : Text.Plain '\x60' ", "),
      (by decide : Text.Plain '\x60' ")"), fun _ => rfl⟩
  jsonLength := ⟨"json_length(", ")", (by decide : Text.Plain '\x60' "json_length("),
    (by decide : Text.Plain '\x60' ")"), fun _ => rfl⟩

theorem postgres_writesPlainly (tablePrefix : String) : (postgres tablePrefix).WritesPlainly where
  positional := rfl
  quote := (by decide : Text.isBlank '"' = false ∧ '"'.isAlphanum = false ∧
    '"' ∉ ['?', '*', '=', ',', '.', '(', ')'])
  operators := (by decide : ∀ operator ∈ Postgres.operators, '"' ∉ operator.toList)
  sharedLock := (by decide : Text.Plain '"' "for share")
  limit b := (Postgres.bounds_numbered b).1.plain '"' (by decide) (by decide)
  offset b := (Postgres.bounds_numbered b).2.plain '"' (by decide) (by decide)
  datePart part := by
    have casts (word : String) (plain : Text.Plain '"' ("::" ++ word)) : ∃ front back,
        Text.Plain '"' front ∧ Text.Plain '"' back ∧
          ∀ column, column ++ "::" ++ word = front ++ column ++ back :=
      ⟨"", "::" ++ word, by decide, plain, fun _ => by simp [String.append_assoc]⟩
    have extracted (word : String) (plain : Text.Plain '"' ("extract(" ++ word ++ " from ")) :
        ∃ front back, Text.Plain '"' front ∧ Text.Plain '"' back ∧
          ∀ column, "extract(" ++ word ++ " from " ++ column ++ ")" = front ++ column ++ back :=
      ⟨"extract(" ++ word ++ " from ", ")", plain, by decide, fun _ => rfl⟩
    cases part with
    | date => exact casts "date" (by decide)
    | time => exact casts "time" (by decide)
    | day => exact extracted "day" (by decide)
    | month => exact extracted "month" (by decide)
    | year => exact extracted "year" (by decide)
  jsonContains negated := by
    have front : Text.Plain '"' ((if negated then "not " else "") ++ "(") := by
      cases negated <;> decide
    exact ⟨_, ")::jsonb @> ", "", front, (by decide : Text.Plain '"' ")::jsonb @> "),
      (by decide : Text.Plain '"' ""), fun _ => rfl⟩
  jsonLength := ⟨"jsonb_array_length((", ")::jsonb)", (by decide : Text.Plain '"' "jsonb_array_length(("),
    (by decide : Text.Plain '"' ")::jsonb)"), fun _ => rfl⟩

theorem generic_writesPlainly (tablePrefix : String) : (generic tablePrefix).WritesPlainly where
  positional := rfl
  quote := (by decide : Text.isBlank '|' = false ∧ '|'.isAlphanum = false ∧
    '|' ∉ ['?', '*', '=', ',', '.', '(', ')'])
  operators := (by decide : ∀ operator ∈ ["=", "<", ">", "like", "a?b?"], '|' ∉ operator.toList)
  sharedLock := (by decide : Text.Plain '|' "shared")
  limit b := (Generic.bounds_numbered b).1.plain '|' (by decide) (by decide)
  offset b := (Generic.bounds_numbered b).2.plain '|' (by decide) (by decide)
  datePart part := by
    have front : Text.Plain '|' ("part(" ++ part.keyword ++ ", ") := by cases part <;> decide
    exact ⟨_, ")", front, (by decide : Text.Plain '|' ")"), fun _ => rfl⟩
  jsonContains negated := by
    have back : Text.Plain '|' (", " ++ (if negated then "true" else "false") ++ ")") := by
      cases negated <;> decide
    exact ⟨"contains(", ", ", _, (by decide : Text.Plain '|' "contains("),
      (by decide : Text.Plain '|' ", "), back, fun _ => rfl⟩
  jsonLength := ⟨"length(", ")", (by decide : Text.Plain '|' "length("),
    (by decide : Text.Plain '|' ")"), fun _ => rfl⟩

theorem Supported.writesPlainly {d : QueryDialect} (supported : Supported d) : d.WritesPlainly := by
  cases supported with
  | mySql tablePrefix => exact mySql_writesPlainly tablePrefix
  | postgres tablePrefix => exact postgres_writesPlainly tablePrefix
  | other plainly => exact plainly

namespace WritesPlainly

variable {d : QueryDialect} (h : d.WritesPlainly)

include h

theorem quote_ne_mark : d.quoter.quote ≠ '?' := List.ne_of_not_mem_cons h.quote.2.2

theorem alphanum {c : Char} (known : c.isAlphanum = true) : Ordinary d.quoter.quote c := by
  constructor
  · rintro rfl
    exact absurd h.quote.2.1 (by simp [known])
  · rintro rfl
    exact absurd known (by decide)

theorem sign {c : Char} (known : c ∈ ['*', '=', ',', '.', '(', ')']) :
    Ordinary d.quoter.quote c := by
  constructor
  · rintro rfl
    exact h.quote.2.2 (List.mem_cons_of_mem _ known)
  · rintro rfl
    exact absurd known (by decide)

theorem blanks : BlanksOrdinary d.quoter.quote := by
  intro c blank
  constructor
  · rintro rfl
    exact absurd h.quote.1 (by simp [blank])
  · rintro rfl
    exact absurd blank (by decide)

theorem fixedText {s : String} (known : s ∈ fixedTexts ++ boundaryTexts) :
    ∀ c ∈ s.toList, Ordinary d.quoter.quote c := by
  have chars : ((fixedTexts ++ boundaryTexts).all fun s => s.toList.all fun c =>
      c.isAlphanum || c == ' ' || ['*', '=', ',', '.', '(', ')'].contains c) = true := by
    decide
  intro c member
  have each := List.all_eq_true.mp (List.all_eq_true.mp chars s known) c member
  simp only [Bool.or_eq_true, beq_iff_eq, List.contains_iff_mem] at each
  rcases each with (letter | rfl) | sign
  · exact h.alphanum letter
  · exact h.blanks ' ' (by decide)
  · exact h.sign sign

end WritesPlainly

end QueryDialect
end SqlCompose
