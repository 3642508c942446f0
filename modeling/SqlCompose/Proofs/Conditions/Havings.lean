import SqlCompose.Proofs.Conditions.Phrases
import SqlCompose.Proofs.Listing.Checked
import SqlCompose.Proofs.Occurrence

/-!
# The clauses after `having`

The clauses after `having` are written like conditions after `where`, but one without text is kept there with
its keyword or connective. So the two texts agree just when no clause is trusted SQL without text; and where a
clause is nothing but blanks, both have a keyword or a connective without a condition behind it
(`havings_agree_iff`).
-/
namespace SqlCompose

/-- The condition that tests what a clause after `having` tests. -/
def HavingTest.predicate : HavingTest → Predicate
  | .compare column operator operand => .compare column operator operand
  | .raw sql bindings => .raw sql bindings

/-- The trusted SQL that a clause consists of. -/
def HavingTest.trusted? : HavingTest → Option String
  | .compare _ _ _ => none
  | .raw sql _ => some sql.text

def HavingClause.clause (c : HavingClause) : Clause := ⟨c.connective, c.test.predicate⟩

/-! ## A row and its conditions that have text -/

/-- Each condition without text that is left out takes a connective with it. -/
theorem length_followingConditions_filter (row : List (Connective × String)) :
    (followingConditions (row.filter (·.2 ≠ ""))).length + row.countP (·.2 = "") ≤
      (followingConditions row).length := by
  induction row with
  | nil => simp [followingConditions]
  | cons part row ih =>
    obtain ⟨connective, sql⟩ := part
    by_cases empty : sql = ""
    · rw [List.filter_cons_of_neg (by simpa using empty), List.countP_cons_of_pos (by simpa using empty)]
      simp only [followingConditions, String.length_append]
      have gap : " ".length = 1 := by decide
      omega
    · rw [List.filter_cons_of_pos (by simpa using empty), List.countP_cons_of_neg (by simpa using empty)]
      simp only [followingConditions, String.length_append]
      omega

/-- A row with a condition without text is not written as the row without it, unless nothing is left. -/
theorem joinConditions_filter_ne {row : List (Connective × String)} (empty : ∃ part ∈ row, part.2 = "")
    (some : row.filter (·.2 ≠ "") ≠ []) :
    joinConditions (row.filter (·.2 ≠ "")) ≠ joinConditions row := by
  intro same
  cases row with
  | nil => exact some rfl
  | cons first row =>
    obtain ⟨connective, sql⟩ := first
    have shorter := length_followingConditions_filter row
    have lengths := congrArg String.length same
    by_cases nothing : sql = ""
    · rw [List.filter_cons_of_neg (by simpa using nothing)] at some lengths
      cases rest : row.filter (·.2 ≠ "") with
      | nil => exact some rest
      | cons next others =>
        rw [rest] at shorter lengths
        simp only [joinConditions, followingConditions, String.length_append] at shorter lengths
        have gap : " ".length = 1 := by decide
        omega
    · rw [List.filter_cons_of_pos (by simpa using nothing)] at lengths
      have later : 0 < row.countP (·.2 = "") := by
        obtain ⟨part, member, without⟩ := empty
        rcases List.mem_cons.mp member with rfl | later
        · exact absurd without nothing
        · exact List.countP_pos_iff.mpr ⟨part, later, by simpa using without⟩
      simp only [joinConditions, String.length_append] at lengths
      omega

namespace QueryDialect

variable {d : QueryDialect} {clauses : List HavingClause} {conditions : List Condition}

/-! ## The same clauses as conditions -/

theorem predicateText_predicate (d : QueryDialect) (t : HavingTest) :
    d.predicateText t.predicate = d.havingTest t := by
  cases t <;> rfl

theorem conditionList_clauses (d : QueryDialect) (clauses : List HavingClause) :
    d.conditionList (clauses.map HavingClause.clause) = d.havingConditions clauses := by
  induction clauses with
  | nil => rfl
  | cons clause clauses ih =>
    rw [List.map_cons, HavingClause.clause, conditionList, havingConditions, predicateText_predicate, ih]

/-- Each clause is written by itself. -/
theorem havingConditions_each (written : d.havingConditions clauses = .ok conditions) :
    List.Forall₂ (fun clause c => d.havingTest clause.test = .ok c.fragment) clauses conditions := by
  induction clauses generalizing conditions with
  | nil =>
    cases written
    exact .nil
  | cons clause clauses ih =>
    unfold havingConditions at written
    obtain ⟨f, wrote, written⟩ := bind_success written
    obtain ⟨others, wrote_others, written⟩ := bind_success written
    cases written
    exact .cons wrote (ih wrote_others)

/-- A comparison is never blank, as its operator is not. -/
theorem comparison_shown (operators : ∀ o ∈ d.operators, Text.Solid o) {left given : String} {o : Operand}
    {f : Fragment} (written : d.comparison left given o = .ok f) : Text.trim f.sql ≠ "" := by
  unfold comparison at written
  obtain ⟨word, known, written⟩ := bind_success written
  cases written
  obtain ⟨c, cs, chars, shown⟩ := operator_first operators known
  intro blank
  have all := (Text.trim_eq_empty_iff _).mp blank c (by simp [chars])
  rw [shown] at all
  cases all

/-- Trusted SQL brings its own placeholders. -/
theorem raw_text (positional : d.slots = .positional) (sql : Expression) (bindings : List Value) :
    (d.raw sql bindings).sql = sql.text := by
  rw [QueryDialect.raw, positional]
  rfl

variable (positional : d.slots = .positional) (operators : ∀ o ∈ d.operators, Text.Solid o)

include positional operators

/-- Only a clause of trusted SQL can be blank, and it is written as it stands. -/
theorem havingTest_text {t : HavingTest} {f : Fragment} (written : d.havingTest t = .ok f) :
    t.trusted? = some f.sql ∨ t.trusted? = none ∧ Text.trim f.sql ≠ "" := by
  cases t with
  | compare column operator operand => exact .inr ⟨rfl, comparison_shown operators written⟩
  | raw sql bindings =>
    cases written
    exact .inl (by rw [raw_text positional, HavingTest.trusted?])

/-- What holds of blank texts alone holds of some condition just when it holds of some trusted SQL. -/
theorem exists_text_iff {P : String → Prop} (blank : ∀ s, P s → Text.trim s = "")
    (written : d.havingConditions clauses = .ok conditions) : (∃ c ∈ conditions, P c.fragment.sql) ↔
      ∃ clause ∈ clauses, ∃ s, clause.test.trusted? = some s ∧ P s := by
  have each := havingConditions_each written
  clear written
  induction each with
  | nil => simp
  | @cons clause c clauses conditions first _ ih =>
    have one : P c.fragment.sql ↔ ∃ s, clause.test.trusted? = some s ∧ P s := by
      rcases havingTest_text positional operators first with trusted | ⟨compared, shown⟩
      · simp [trusted]
      · have never : ¬ P c.fragment.sql := fun holds => shown (blank _ holds)
        simp [compared, never]
    simp only [List.exists_mem_cons_iff, ih, one]

omit positional operators

/-- A keyword or a connective of the row has nothing but blanks behind it. -/
def Gap (conditions : List Condition) : Prop := ∃ c ∈ conditions, Text.trim c.fragment.sql = ""

/-- Both texts are empty, or there is the same behind the two keywords. -/
def AgreeBehind (keyword keyword' s t : String) : Prop :=
  s = "" ∧ t = "" ∨ ∃ behind, s = keyword ++ behind ∧ t = keyword' ++ behind

/-- What clauses come to after `having`, and as conditions after `where`. -/
structure HavingsCompared (clauses : List HavingClause) (conditions : List Condition)
    (havings wheres : Fragment) : Prop where
  values : wheres.bindings = havings.bindings
  after_having : havings.sql =
    if conditions = [] then "" else "having " ++ (Condition.joinAll conditions).sql
  after_where : wheres.sql = if Condition.visible conditions = [] then ""
    else "where " ++ (Condition.joinAll (Condition.visible conditions)).sql
  agree_iff : AgreeBehind "having " "where " havings.sql wheres.sql ↔
    ∀ clause ∈ clauses, clause.test.trusted? ≠ some ""
  gap_having : Gap conditions ↔ ∃ clause ∈ clauses, ∃ s, clause.test.trusted? = some s ∧ Text.trim s = ""
  gap_where : Gap (Condition.visible conditions) ↔
    ∃ clause ∈ clauses, ∃ s, clause.test.trusted? = some s ∧ s ≠ "" ∧ Text.trim s = ""

/-- Conditions under a keyword are those that have text. -/
theorem under_visible (keyword : String) (conditions : List Condition) :
    (Condition.under keyword conditions).sql = if Condition.visible conditions = [] then ""
      else keyword ++ " " ++ (Condition.joinAll (Condition.visible conditions)).sql := by
  have empty := Condition.join_eq_empty_iff conditions
  unfold Condition.under
  dsimp only
  by_cases nothing : (Condition.join conditions).sql = ""
  · rw [if_pos nothing, if_pos (empty.mp nothing), nothing]
  · rw [if_neg nothing, if_neg (mt empty.mpr nothing), Fragment.sql_text_append, Condition.join_sql]

/-- A row in which a condition has no text is not written as its conditions that have text. -/
theorem joinAll_visible_ne (empty : ∃ c ∈ conditions, c.fragment.sql = "")
    (some : Condition.visible conditions ≠ []) :
    (Condition.joinAll (Condition.visible conditions)).sql ≠ (Condition.joinAll conditions).sql := by
  have row : (Condition.visible conditions).map (fun c => (c.connective, c.fragment.sql)) =
      (conditions.map fun c => (c.connective, c.fragment.sql)).filter (·.2 ≠ "") := by
    rw [List.filter_map]
    rfl
  have parts : ∃ part ∈ conditions.map fun c => (c.connective, c.fragment.sql), part.2 = "" := by
    simpa using empty
  unfold Condition.joinAll
  rw [row]
  apply joinConditions_filter_ne parts
  rw [← row]
  simpa using some

/-- Two rows agree behind their keywords if neither leaves out a condition. -/
theorem agreeBehind_iff {s t : String}
    (having : s = if conditions = [] then "" else "having " ++ (Condition.joinAll conditions).sql)
    (wheres : t = if Condition.visible conditions = [] then ""
      else "where " ++ (Condition.joinAll (Condition.visible conditions)).sql) :
    AgreeBehind "having " "where " s t ↔ ¬ ∃ c ∈ conditions, c.fragment.sql = "" := by
  constructor
  · intro agree empty
    obtain ⟨c, member, nothing⟩ := empty
    rw [if_neg (List.ne_nil_of_mem member)] at having
    rcases agree with ⟨none, -⟩ | ⟨behind, same, same'⟩
    · simp [having] at none
    · obtain rfl := (String.append_right_inj _).mp (having.symm.trans same)
      by_cases hidden : Condition.visible conditions = []
      · rw [if_pos hidden, same'] at wheres
        simp at wheres
      · rw [if_neg hidden, same'] at wheres
        exact joinAll_visible_ne ⟨c, member, nothing⟩ hidden ((String.append_right_inj _).mp wheres).symm
  · intro full
    have kept : Condition.visible conditions = conditions := by
      refine List.filter_eq_self.mpr fun c member => ?_
      have text : c.fragment.sql ≠ "" := fun nothing => full ⟨c, member, nothing⟩
      simpa using text
    rw [kept] at wheres
    by_cases none : conditions = []
    · rw [if_pos none] at having wheres
      exact .inl ⟨having, wheres⟩
    · rw [if_neg none] at having wheres
      exact .inr ⟨_, having, wheres⟩

/-- Conditions after `having`, also those without text; nothing stands there if there are none. -/
def behindHaving (conditions : List Condition) : Fragment :=
  if conditions = [] then .empty else "having " ++ Condition.joinAll conditions

theorem havings_eq (d : QueryDialect) (clauses : List HavingClause) :
    d.havings clauses = do return behindHaving (← d.havingConditions clauses) := by
  cases clauses with
  | nil => rfl
  | cons clause clauses =>
    rw [havings]
    · cases written : d.havingConditions (clause :: clauses) with
      | error e => rfl
      | ok conditions =>
        have each := havingConditions_each written
        cases each
        rfl
    · simp

theorem conditions_eq (d : QueryDialect) (clauses : List HavingClause) :
    d.conditions (clauses.map HavingClause.clause) =
      do return Condition.under "where" (← d.havingConditions clauses) := by
  rw [QueryDialect.conditions, conditionList_clauses]

include positional operators

theorem havings_compared (written : d.havingConditions clauses = .ok conditions) :
    HavingsCompared clauses conditions (behindHaving conditions) (Condition.under "where" conditions) := by
  have shown := under_visible "where" conditions
  have text : (behindHaving conditions).sql =
      if conditions = [] then "" else "having " ++ (Condition.joinAll conditions).sql := by
    unfold behindHaving
    split <;> rfl
  have values : (behindHaving conditions).bindings = Condition.allBindings conditions := by
    unfold behindHaving
    split
    · next none => rw [none]; rfl
    · rfl
  constructor
  case values => rw [values, bindings_under]
  case after_having => exact text
  case after_where => exact shown
  case agree_iff =>
    have empty := exists_text_iff (P := (· = "")) positional operators
      (fun s nothing => by rw [nothing, Text.trim_empty]) written
    rw [agreeBehind_iff text shown, empty]
    simp
  case gap_having =>
    exact exists_text_iff (P := (Text.trim · = "")) positional operators (fun _ blank => blank) written
  case gap_where =>
    have left := exists_text_iff (P := fun s => s ≠ "" ∧ Text.trim s = "") positional operators
      (fun _ blank => blank.2) written
    rw [← left]
    simp [Gap, Condition.visible, and_assoc]

/-- The clauses after `having` fail as they do as conditions. If they are written, the values are the same,
and the texts agree behind their keywords just when no clause is trusted SQL without text. A keyword or a
connective is left without a condition after `having` just when a clause is blank, and after `where` just when
a clause is blank and not empty. -/
theorem havings_agree_iff (clauses : List HavingClause) :
    (∀ e, d.havings clauses = .error e ↔ d.conditions (clauses.map HavingClause.clause) = .error e) ∧
    ∀ conditions, d.havingConditions clauses = .ok conditions →
      ∃ f g, d.havings clauses = .ok f ∧ d.conditions (clauses.map HavingClause.clause) = .ok g ∧
        HavingsCompared clauses conditions f g := by
  rw [havings_eq, conditions_eq]
  constructor
  · intro e
    rw [map_error_iff, map_error_iff]
  · intro conditions written
    rw [written]
    exact ⟨_, _, rfl, rfl, havings_compared positional operators written⟩

omit positional operators

/-- A count behind a clause without text. -/
def countedGroups : List HavingClause :=
  [⟨.and, .raw ⟨""⟩ []⟩, ⟨.or, .compare (.raw ⟨"count(*)"⟩) ">" (.value (.int 5))⟩]

/-- The connective is kept after `having` and left out after `where`. -/
theorem havings_agree_iff_countedGroups : ∃ f g,
    (mySql "").havings countedGroups = .ok f ∧
    (mySql "").conditions (countedGroups.map HavingClause.clause) = .ok g ∧
    f.sql = "having  or count(*) > ?" ∧ g.sql = "where count(*) > ?" ∧
    ¬ AgreeBehind "having " "where " f.sql g.sql := by
  have positional : (mySql "").slots = .positional := rfl
  have operators : ∀ o ∈ (mySql "").operators, Text.Solid o := by decide
  have succeeds : ((mySql "").havingConditions countedGroups).toOption.map (fun _ => ()) = some () := by
    decide
  obtain ⟨conditions, written, _⟩ := success_of_toOption succeeds
  obtain ⟨f, g, wrote, wrote', compared⟩ :=
    (havings_agree_iff positional operators countedGroups).2 conditions written
  have texts : ((mySql "").havings countedGroups).toOption.map (·.sql) = some "having  or count(*) > ?" ∧
      ((mySql "").conditions (countedGroups.map HavingClause.clause)).toOption.map (·.sql) =
        some "where count(*) > ?" := by decide
  rw [wrote, wrote'] at texts
  refine ⟨f, g, wrote, wrote', Option.some.inj texts.1, Option.some.inj texts.2, ?_⟩
  rw [compared.agree_iff]
  simp [countedGroups, HavingTest.trusted?]

end QueryDialect
end SqlCompose
