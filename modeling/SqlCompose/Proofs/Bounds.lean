import SqlCompose.Dialect.Generic
import SqlCompose.Dialect.MySql
import SqlCompose.Dialect.Postgres

/-!
# Bounds are numbers behind words

A limit or an offset is nothing, or a number behind one of a few words of the dialect. So what holds of
the words and of numbers, and of two texts in a row if it holds of both, holds of every bound.
-/
namespace SqlCompose.QueryDialect

/-- Nothing, or a number behind one of the words. -/
inductive Numbered (words : List String) : String → Prop
  | nothing : Numbered words ""
  | number {word : String} (known : word ∈ words) (n : Nat) : Numbered words (word ++ toString n)

namespace Numbered

variable {words : List String}

theorem holds {s : String} {P : String → Prop} (numbered : Numbered words s) (nothing : P "")
    (each : ∀ word ∈ words, P word) (digits : ∀ n : Nat, P (toString n))
    (append : ∀ {s t : String}, P s → P t → P (s ++ t)) : P s := by
  cases numbered with
  | nothing => exact nothing
  | number known n => exact append (each _ known) (digits n)

/-- A bound that is written only if the query has it. -/
theorem optional {word : String} (known : word ∈ words) (bound : Option UInt64) :
    Numbered words (match bound with
      | some n => word ++ toString n.toNat
      | none => "") := by
  cases bound with
  | none => exact .nothing
  | some n => exact .number known n.toNat

end Numbered

def MySql.boundWords : List String := ["limit ", "offset ", "limit 18446744073709551615 offset "]

theorem MySql.bounds_numbered (b : Bounds) :
    Numbered MySql.boundWords (MySql.limit b) ∧ Numbered MySql.boundWords (MySql.offset b) := by
  refine ⟨.optional (by simp [MySql.boundWords]) b.limit, ?_⟩
  unfold MySql.offset
  split
  · exact .nothing
  · exact .number (by simp [MySql.boundWords]) _
  · exact .number (by simp [MySql.boundWords]) _

def Postgres.boundWords : List String := ["limit ", "offset "]

theorem Postgres.bounds_numbered (b : Bounds) :
    Numbered Postgres.boundWords (Postgres.limit b) ∧
      Numbered Postgres.boundWords (Postgres.offset b) :=
  ⟨.optional (by simp [Postgres.boundWords]) b.limit,
    .optional (by simp [Postgres.boundWords]) b.offset⟩

def Generic.boundWords : List String := ["top ", "skip "]

theorem Generic.bounds_numbered (b : Bounds) :
    Numbered Generic.boundWords (Generic.limit b) ∧
      Numbered Generic.boundWords (Generic.offset b) :=
  ⟨.optional (by simp [Generic.boundWords]) b.limit,
    .optional (by simp [Generic.boundWords]) b.offset⟩

end SqlCompose.QueryDialect
