import Mathlib.Data.List.Basic
import SqlCompose.Condition

/-!
# Reading lists of conditions

What a list of conditions means in SQL, where `and` binds tighter than `or`: the first connective is
dropped, and a list without conditions holds. Several lists written as one without parentheses mean
that each of them holds only if at most one list has conditions or no `or` is among the connectives
(`readsApart_iff`).
-/
namespace SqlCompose.Condition

variable {α : Type}

/-- The rest of a list behind conditions joined by `and`, which hold or do not. -/
def readingFrom (truth : α → Bool) : Bool → List (Connective × α) → Bool
  | held, [] => held
  | held, (.and, a) :: rest => readingFrom truth (held && truth a) rest
  | held, (.or, a) :: rest => held || readingFrom truth (truth a) rest

def reading (truth : α → Bool) : List (Connective × α) → Bool
  | [] => true
  | (_, a) :: rest => readingFrom truth (truth a) rest

variable {truth : α → Bool} {held : Bool} {list rest pre post : List (Connective × α)} {a : α}

theorem readingFrom_all (all : ∀ x ∈ rest, truth x.2 = true) :
    readingFrom truth true rest = true := by
  induction rest with
  | nil => rfl
  | cons x rest ih =>
    have first := all x (by simp)
    have others := ih fun y member => all y (by simp [member])
    obtain ⟨connective, a⟩ := x
    cases connective <;> simp_all [readingFrom]

theorem readingFrom_none (none : ∀ x ∈ rest, truth x.2 = false) :
    readingFrom truth false rest = false := by
  induction rest with
  | nil => rfl
  | cons x rest ih =>
    have first := none x (by simp)
    have others := ih fun y member => none y (by simp [member])
    obtain ⟨connective, a⟩ := x
    cases connective <;> simp_all [readingFrom]

theorem readingFrom_and (joined : ∀ x ∈ rest, x.1 = .and) :
    readingFrom truth held rest = (held && rest.all fun x => truth x.2) := by
  induction rest generalizing held with
  | nil => simp [readingFrom]
  | cons x rest ih =>
    have first := joined x (by simp)
    have others (held : Bool) : readingFrom truth held rest = (held && _) :=
      ih fun y member => joined y (by simp [member])
    obtain ⟨connective, a⟩ := x
    cases first
    simp [readingFrom, others, Bool.and_assoc]

theorem readingFrom_append_or : readingFrom truth held (pre ++ (.or, a) :: post) =
    (readingFrom truth held pre || readingFrom truth (truth a) post) := by
  induction pre generalizing held with
  | nil => rfl
  | cons x pre ih =>
    obtain ⟨connective, b⟩ := x
    cases connective with
    | and => simp [readingFrom, ih]
    | or => simp [readingFrom, ih, Bool.or_assoc]

theorem reading_all (all : ∀ x ∈ list, truth x.2 = true) : reading truth list = true := by
  cases list with
  | nil => rfl
  | cons x rest =>
    have first := all x (by simp)
    have others := readingFrom_all fun y member => all y (List.mem_cons_of_mem _ member)
    simpa [reading, first] using others

theorem reading_none (some : list ≠ []) (none : ∀ x ∈ list, truth x.2 = false) :
    reading truth list = false := by
  cases list with
  | nil => exact absurd rfl some
  | cons x rest =>
    have first := none x (by simp)
    have others := readingFrom_none fun y member => none y (List.mem_cons_of_mem _ member)
    simpa [reading, first] using others

/-- Conditions joined by `and` hold when each of them does. -/
theorem reading_and (joined : ∀ x ∈ list.tail, x.1 = .and) :
    reading truth list = list.all fun x => truth x.2 := by
  cases list with
  | nil => rfl
  | cons x rest => exact readingFrom_and joined

/-- An `or` parts a list. -/
theorem reading_append_or (some : pre ≠ []) : reading truth (pre ++ (.or, a) :: post) =
    (reading truth pre || reading truth ((.or, a) :: post)) := by
  cases pre with
  | nil => exact absurd rfl some
  | cons x pre => exact readingFrom_append_or

/-! ## Several lists written as one -/

/-- The lists written as one mean that each of them holds. -/
def ReadsApart (lists : List (List (Connective × α))) : Prop :=
  ∀ truth : α → Bool, reading truth lists.flatten = lists.all (reading truth)

/-- At most one list has conditions, or every connective that is left is `and`. -/
def Separable (lists : List (List (Connective × α))) : Prop :=
  lists.Pairwise (fun first second => first = [] ∨ second = []) ∨
    ∀ x ∈ lists.flatten.tail, x.1 = .and

theorem mem_tail_flatten {lists : List (List (Connective × α))} {x : Connective × α}
    (member : list ∈ lists) (inside : x ∈ list.tail) : x ∈ lists.flatten.tail := by
  induction lists with
  | nil => cases member
  | cons first lists ih =>
    rw [List.flatten_cons]
    rcases List.mem_cons.mp member with rfl | later_member
    · cases list with
      | nil => cases inside
      | cons y rest => exact List.mem_append_left _ inside
    · cases first with
      | nil => exact ih later_member
      | cons y rest =>
        have later : x ∈ lists.flatten :=
          List.mem_flatten_of_mem later_member (List.mem_of_mem_tail inside)
        exact List.mem_append_right _ later

theorem readsApart_of_single {lists : List (List (Connective × α))}
    (single : lists.Pairwise fun first second => first = [] ∨ second = []) : ReadsApart lists := by
  intro truth
  induction single with
  | nil => rfl
  | @cons first lists others _ ih =>
    by_cases empty : first = []
    · simpa [empty, reading] using ih
    · have rest_empty : ∀ second ∈ lists, second = [] := fun second member =>
        (others second member).resolve_left empty
      have nothing : lists.flatten = [] := List.flatten_eq_nil_iff.mpr rest_empty
      have rest_holds : lists.all (reading truth) = true := by
        rw [List.all_eq_true]
        intro second member
        rw [rest_empty second member]
        rfl
      simp [nothing, rest_holds]

theorem readsApart_of_and {lists : List (List (Connective × α))}
    (joined : ∀ x ∈ lists.flatten.tail, x.1 = .and) : ReadsApart lists := by
  intro truth
  have each : ∀ list ∈ lists, reading truth list = list.all fun x => truth x.2 := fun list member =>
    reading_and fun x inside => joined x (mem_tail_flatten member inside)
  rw [reading_and joined, List.all_flatten, Bool.eq_iff_iff, List.all_eq_true, List.all_eq_true]
  constructor
  · intro holds list member
    rw [each list member]
    exact holds list member
  · intro holds list member
    rw [← each list member]
    exact holds list member

/-- The conditions before an `or` and those from it on can each make the whole hold on their own, so
every list with conditions has some before the `or` and some behind it; but only one list can. -/
theorem single_of_or [DecidableEq α] {before : α → α → Prop}
    (asymmetric : ∀ a b, before a b → ¬ before b a) {lists : List (List (Connective × α))}
    (ordered : lists.flatten.Pairwise fun x y => before x.2 y.2) (apart : ReadsApart lists)
    (parted : lists.flatten = pre ++ (.or, a) :: post) (some : pre ≠ []) :
    lists.Pairwise fun first second => first = [] ∨ second = [] := by
  have across : ∀ x ∈ pre, ∀ y ∈ (Connective.or, a) :: post, before x.2 y.2 := by
    rw [parted, List.pairwise_append] at ordered
    exact ordered.2.2
  -- a list none of whose conditions are in the part that holds does not hold
  have meets (part : List (Connective × α))
      (whole : reading (fun b => decide (b ∈ part.map Prod.snd)) lists.flatten = true) :
      ∀ list ∈ lists, list ≠ [] → ∃ x ∈ list, ∃ y ∈ part, y.2 = x.2 := by
    intro list member filled
    by_contra misses
    have none : ∀ x ∈ list, decide (x.2 ∈ part.map Prod.snd) = false := by
      intro x inside
      simp only [decide_eq_false_iff_not, List.mem_map, not_exists, not_and]
      exact fun y held same => misses ⟨x, inside, y, held, same⟩
    have fails : reading (fun b => decide (b ∈ part.map Prod.snd)) list = false :=
      reading_none filled none
    rw [apart, List.all_eq_true] at whole
    rw [whole list member] at fails
    cases fails
  have first_meets := meets pre (by
    rw [parted, reading_append_or some, reading_all, Bool.true_or]
    exact fun x inside => decide_eq_true (List.mem_map_of_mem inside))
  have second_meets := meets ((.or, a) :: post) (by
    rw [parted, reading_append_or some, Bool.or_eq_true]
    right
    exact reading_all fun x inside => decide_eq_true (List.mem_map_of_mem inside))
  have follows := (List.pairwise_flatten.mp ordered).2
  refine follows.imp_of_mem ?_
  intro first second member member' orders
  by_contra both
  obtain ⟨filled, filled'⟩ := not_or.mp both
  obtain ⟨x, inside, y, late, same⟩ := second_meets first member filled
  obtain ⟨x', inside', y', early, same'⟩ := first_meets second member' filled'
  have forward := orders x inside x' inside'
  have backward := across y' early y late
  rw [same, same'] at backward
  exact asymmetric _ _ forward backward

/-- Lists of conditions at places in some order can be written as one just when they are
separable. -/
theorem readsApart_iff [DecidableEq α] {before : α → α → Prop}
    (asymmetric : ∀ a b, before a b → ¬ before b a) {lists : List (List (Connective × α))}
    (ordered : lists.flatten.Pairwise fun x y => before x.2 y.2) :
    ReadsApart lists ↔ Separable lists := by
  constructor
  · intro apart
    by_cases joined : ∀ x ∈ lists.flatten.tail, x.1 = .and
    · exact .inr joined
    · left
      push Not at joined
      obtain ⟨⟨connective, a⟩, member, other⟩ := joined
      have or : connective = .or := by cases connective <;> simp_all
      subst or
      obtain ⟨pre, post, parted⟩ := List.append_of_mem member
      cases whole : lists.flatten with
      | nil => rw [whole] at member; cases member
      | cons x rest =>
        have behind : rest = pre ++ (.or, a) :: post := by rw [← parted, whole, List.tail_cons]
        have split : lists.flatten = (x :: pre) ++ (.or, a) :: post := by
          rw [whole, behind, List.cons_append]
        exact single_of_or asymmetric ordered apart split (by simp)
  · rintro (single | joined)
    · exact readsApart_of_single single
    · exact readsApart_of_and joined

end SqlCompose.Condition
