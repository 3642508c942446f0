import SqlCompose.Dialect.MySql
import SqlCompose.Proofs.Listing.Checked

/-!
# Refused operators

A select fails for nothing but its operators: it fails just when one of them, anywhere in the query, is
not let through, and the error names the first of these in written order (`select_refuses_first`).
-/
namespace SqlCompose.QueryDialect

theorem selectExists_error_iff (d : QueryDialect) (q : Query) (e : CompileError) :
    d.selectExists q = .error e ↔ d.select q = .error e := by
  unfold selectExists
  cases d.select q with
  | error cause =>
    show Except.error cause = Except.error e ↔ _
    exact Iff.rfl
  | ok f =>
    constructor
    · intro failed
      cases failed
    · intro failed
      cases failed

/-- A select, and one that tells whether there are rows, fails just when an operator of the query is
refused, with the error for the first refused one as it was given. -/
theorem select_refuses_first (d : QueryDialect) (q : Query) :
    ((∃ e, d.select q = .error e) ↔ ∃ given ∈ q.operators, ¬ d.Allows given) ∧
    (∀ e, d.select q = .error e ↔
      ∃ given, d.FirstRefused q.operators given ∧ e = .invalidOperator d.name given) ∧
    ∀ e, d.selectExists q = .error e ↔ d.select q = .error e := by
  have checked := select_checked (d := d) q
  exact ⟨checked.fails_iff, checked.error_iff, d.selectExists_error_iff q⟩

/-- The operator in the join comes before the one in the conditions; `LIKE` in upper case is let
through, and so is what has blanks around it. -/
example : (mySql "").select
    { table := some (.name "a")
      conditions := [⟨.and, .jsonLength (.name "a.k") "~" (.value (.int 1))⟩]
      joins := [⟨.inner, .name "b", [⟨.and, .compare (.name "b.n") " LIKE" (.value .null)⟩,
        ⟨.or, .nested [⟨.and, .compareColumns (.name "a.n") " ILike " (.name "b.n")⟩]⟩]⟩] } =
    .error (.invalidOperator "MySQL" " ILike ") := by
  rfl

end SqlCompose.QueryDialect
