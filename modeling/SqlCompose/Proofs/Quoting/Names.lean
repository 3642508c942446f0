import SqlCompose.Proofs.Placeholders.Dialects
import SqlCompose.Proofs.Quoting.SameOutline
import SqlCompose.Proofs.Simulation.Requests

/-!
# Names stay in their quotes

What a name adds to a statement outside quotes is its shape alone: how many dotted parts it has, which
of them are a bare star, and whether it has an alias. So requests of one shape without trusted SQL
have the same text outside quotes, whatever stands in their names; every quoted name is ended where it
should be, and the parentheses outside names match.
-/
namespace SqlCompose

open Quotation

/-- Names are quoted, with each quote in them doubled. -/
def Quotation.names (quote : Char) : Quotation := ⟨(· == quote), fun _ => false⟩

/-! ## Shapes of names -/

namespace Quoter

variable (w : Quoter)

/-- The texts between the dots of a column's name, as they are quoted. -/
def columnTexts (name : String) : List String :=
  match dottedParts name with
  | qualifier :: rest@(_ :: _) => (w.tablePrefix ++ qualifier) :: rest
  | parts => parts

theorem columnParts_eq (name : String) :
    w.columnParts name = Text.joinWith "." ((w.columnTexts name).map w.part) := by
  unfold columnParts columnTexts
  cases dottedParts name with
  | nil => rfl
  | cons qualifier rest => cases rest <;> rfl

/-- Which parts of a column are written as a bare star, and whether the alias is, if there is one. -/
def columnShape (name : String) : List Bool × Option Bool :=
  match splitAlias? name with
  | some (base, knownAs) => ((w.columnTexts base).map (· == "*"), some (knownAs == "*"))
  | none => ((w.columnTexts name).map (· == "*"), none)

/-- Which parts of a table are written as a bare star, and whether the alias is, if there is one. -/
def tableShape (name : String) : List Bool × Option Bool :=
  match splitAlias? name with
  | some (base, knownAs) =>
    ((dottedParts (w.tablePrefix ++ base)).map (· == "*"), some (w.tablePrefix ++ knownAs == "*"))
  | none => ((dottedParts (w.tablePrefix ++ name)).map (· == "*"), none)

end Quoter

/-- Names of one shape, and no trusted SQL. Values may be any. -/
def Correspondence.shapes (w : Quoter) : Correspondence where
  column s s' := w.columnShape s' = w.columnShape s
  table s s' := w.tableShape s' = w.tableShape s
  value _ _ := True
  expression _ _ := False
  clause _ _ _ _ := False

section

variable {w : Quoter} {q : Quotation} (h : Compatible fun f f' => SameOutline q f.sql f'.sql)
  (opens : q.opens w.quote = true) (bare : q.escapes w.quote = false)

include h opens bare

theorem Quoter.part_outline {s s' : String} (same : (s' == "*") = (s == "*")) :
    SameOutline q (w.part s) (w.part s') := by
  unfold Quoter.part
  by_cases star : s = "*"
  · have star' : s' = "*" := by simpa [star] using same
    rw [if_pos star, if_pos star', star, star']
    exact h.text "*" (by decide)
  · have star' : s' ≠ "*" := by simpa [star] using same
    rw [if_neg star, if_neg star']
    exact .quoted opens bare s s'

theorem Quoter.dotted_outline {parts parts' : List String}
    (same : parts'.map (· == "*") = parts.map (· == "*")) :
    SameOutline q (Text.joinWith "." (parts.map w.part)) (Text.joinWith "." (parts'.map w.part)) := by
  apply h.mappedTexts h.dot
  have each : List.Forall₂ (fun s s' => (s == "*") = (s' == "*")) parts parts' := by
    rw [← List.forall₂_eq_eq_eq, List.forall₂_map_left_iff, List.forall₂_map_right_iff] at same
    exact same.flip.imp fun _ _ one => one.symm
  exact each.imp fun _ _ one => Quoter.part_outline h opens bare one.symm

theorem Quoter.columnName_outline {s s' : String} (same : w.columnShape s' = w.columnShape s) :
    SameOutline q (w.columnName s) (w.columnName s') := by
  unfold Quoter.columnShape at same
  unfold Quoter.columnName
  cases found : splitAlias? s <;> cases found' : splitAlias? s' <;>
    simp only [found, found', Prod.mk.injEq, Option.some.injEq, reduceCtorEq, and_false, and_true]
      at same ⊢
  · rw [w.columnParts_eq, w.columnParts_eq]
    exact Quoter.dotted_outline h opens bare same
  · rw [w.columnParts_eq, w.columnParts_eq]
    exact h.named (Quoter.dotted_outline h opens bare same.1)
      (Quoter.part_outline h opens bare same.2)

theorem Quoter.tableName_outline {s s' : String} (same : w.tableShape s' = w.tableShape s) :
    SameOutline q (w.tableName s) (w.tableName s') := by
  unfold Quoter.tableShape at same
  unfold Quoter.tableName
  cases found : splitAlias? s <;> cases found' : splitAlias? s' <;>
    simp only [found, found', Prod.mk.injEq, Option.some.injEq, reduceCtorEq, and_false, and_true]
      at same ⊢
  · exact Quoter.dotted_outline h opens bare same
  · exact h.named (Quoter.dotted_outline h opens bare same.1)
      (Quoter.part_outline h opens bare same.2)

theorem Quoter.tableAlias_outline {s s' : String} (same : w.tableShape s' = w.tableShape s) :
    SameOutline q (w.tableAlias (.name s)) (w.tableAlias (.name s')) := by
  have whole := Quoter.tableName_outline h opens bare same
  unfold Quoter.tableShape at same
  unfold Quoter.tableAlias
  cases found : splitAlias? s <;> cases found' : splitAlias? s' <;>
    simp only [found, found', Prod.mk.injEq, Option.some.injEq, reduceCtorEq, and_false, and_true]
      at same ⊢
  · exact whole
  · exact Quoter.part_outline h opens bare same.2

end

end SqlCompose
