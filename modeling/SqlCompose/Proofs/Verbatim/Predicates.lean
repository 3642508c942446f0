import SqlCompose.Proofs.Placeholders.Dialects
import SqlCompose.Proofs.Verbatim.Emitted

/-!
# The expressions of a predicate

Each predicate holds its expressions in their places: the column has an operator or a word behind it, the
right side stands at the end, and what is in parentheses is closed.
-/
namespace SqlCompose.QueryDialect

variable {d : QueryDialect}

theorem parenthesized_holds {inside : List Emitted} {s : String} (stand : ∀ e ∈ inside, e.Stands s) :
    (⟨inside, none⟩ : Passage).Holds (s ++ ")") :=
  .ofInside fun e member => (stand e member).before parenthesis_parts

/-- The words in front of a list or an inner query. -/
theorem in_parts (negated : Bool) : Text.Parts (" " ++ (notText negated ++ "in (")) := by
  apply Text.Opens.spaced
  cases negated <;> decide

theorem shown_oneOf (negated : Bool) (column : Ident) (operands : List Operand) :
    Shown (some (column.passage.before (.row (operands.map Operand.passage))).closed)
      (d.quoter.column column ++ " " ++ notText negated ++ "in (" ++ d.operands operands ++ ")").sql := by
  have both := (d.column_holds column).before (d.operands_hold operands) (in_parts negated)
  have closed := both.closed parenthesis_parts
  refine ⟨by simp, ?_⟩
  simpa [String.append_assoc] using closed

theorem shown_oneOfQuery (negated : Bool) (column : Ident) {inside : List Emitted} {inner : Fragment}
    (stand : ∀ e ∈ inside, e.Stands inner.sql) : Shown (some (column.passage.before ⟨inside, none⟩))
      (d.quoter.column column ++ " " ++ notText negated ++ "in (" ++ inner ++ ")").sql := by
  have both := (d.column_holds column).before (parenthesized_holds stand) (in_parts negated)
  refine ⟨by simp, ?_⟩
  simpa [String.append_assoc] using both

theorem shown_null (negated : Bool) (column : Ident) : Shown (some column.passage.closed)
    (d.quoter.column column ++ " is " ++ notText negated ++ "null") := by
  have parts : Text.Parts " is " := Text.Opens.spaced (by decide : Text.Opens "is ")
  have closed := (d.column_holds column).closed (parts.append (notText negated ++ "null"))
  refine ⟨by simp, ?_⟩
  simpa [String.append_assoc] using closed

theorem shown_between (negated : Bool) (column : Ident) (low high : Operand) :
    Shown (some (column.passage.before (low.passage.before high.passage)))
      (d.quoter.column column ++ " " ++ notText negated ++ "between " ++ d.operand low ++ " and " ++
        d.operand high).sql := by
  have parts : Text.Parts (" " ++ (notText negated ++ "between ")) := by
    apply Text.Opens.spaced
    cases negated <;> decide
  have and_parts : Text.Parts " and " := Text.Opens.spaced (by decide : Text.Opens "and ")
  have bounds := (d.operand_holds low).before (d.operand_holds high) and_parts
  have all := (d.column_holds column).before bounds parts
  refine ⟨by simp, ?_⟩
  simpa [String.append_assoc] using all

theorem shown_existsQuery (negated : Bool) {inside : List Emitted} {inner : Fragment}
    (stand : ∀ e ∈ inside, e.Stands inner.sql) :
    Shown (some ⟨inside, none⟩) (notText negated ++ "exists (" ++ inner ++ ")").sql := by
  have behind := (parenthesized_holds stand).behind (notText negated ++ "exists (")
  refine ⟨by simp, ?_⟩
  simpa [String.append_assoc] using behind

theorem shown_nested {x : Option Passage} {inner : Fragment} (shown : Shown x inner.sql) :
    Shown (x.map Passage.closed) (if inner.sql = "" then inner else "(" ++ inner ++ ")").sql := by
  cases x with
  | none =>
    have nothing : inner.sql = "" := shown
    rw [if_pos nothing]
    exact nothing
  | some p =>
    have closed := shown.2.closed parenthesis_parts
    rw [if_neg shown.1]
    refine ⟨by simp, ?_⟩
    simpa [String.append_assoc] using closed.behind "("

theorem shown_raw (positional : d.slots = .positional) (sql : Expression) (bindings : List Value) :
    Shown (if sql.text = "" then none else some (.expression sql.text)) (d.raw sql bindings).sql := by
  rw [raw_text positional]
  split
  · next empty => exact empty
  · next shown => exact ⟨shown, .expression sql.text⟩

/-! ## Columns in the words of a dialect -/

/-- A column within other text is followed if the whole is. -/
theorem within_followed (column : Ident) (front back : String) {t : String} (shows : Text.Shows t) :
    ∀ e ∈ column.passage.followed, e.Stands (front ++ d.quoter.column column ++ back ++ t) := by
  intro e member
  have stands := d.column_followed column (shows.behind back) e member
  simpa only [String.append_assoc] using stands.behind front

theorem shown_datePart (supported : Supported d) (operators : ∀ o ∈ d.operators, Text.Solid o)
    {part : DatePart} {column : Ident} {operator : String} {operand : Operand} {f : Fragment}
    (written : d.comparison (d.datePart part (d.quoter.column column)) operator operand = .ok f) :
    Shown (some (column.passage.before operand.passage)) f.sql := by
  obtain ⟨front, back, -, -, around⟩ := supported.writesPlainly.datePart part
  rw [around] at written
  exact d.shown_comparison operators (within_followed column front back) written

theorem shown_jsonLength (supported : Supported d) (operators : ∀ o ∈ d.operators, Text.Solid o)
    {column : Ident} {operator : String} {operand : Operand} {f : Fragment}
    (written : d.comparison (d.jsonLength (d.quoter.column column)) operator operand = .ok f) :
    Shown (some (column.passage.before operand.passage)) f.sql := by
  obtain ⟨front, back, -, -, around⟩ := supported.writesPlainly.jsonLength
  rw [around] at written
  exact d.shown_comparison operators (within_followed column front back) written

theorem shown_jsonContains (supported : Supported d) (negated : Bool) (column : Ident) (document : Json) :
    Shown (some column.passage.closed) ((d.jsonContains negated (d.quoter.column column)).1 ++
      d.value (.json document) ++ (d.jsonContains negated (d.quoter.column column)).2).sql := by
  obtain ⟨front, middle, back, -, -, -, around⟩ := supported.writesPlainly.jsonContains negated
  have mark : (d.value (.json document)).sql = "?" := by
    rw [QueryDialect.value, supported.writesPlainly.positional]
    rfl
  have shows : Text.Shows ("?" ++ back) := (by decide : Text.Opens "?").shows.before back
  rw [around]
  refine ⟨by simp [mark], .ofInside fun e member => ?_⟩
  have stands := within_followed (d := d) column front middle shows e member
  simpa [mark, String.append_assoc] using stands

end SqlCompose.QueryDialect
