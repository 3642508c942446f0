import Mathlib.Data.List.Forall2
import SqlCompose.Proofs.Fragments

/-!
# Relations that go through putting fragments together

Statements are put together from fragments with spaces, commas, dots and brackets, by trimming, and
by leaving out what has no text. A relation between fragments that goes through each of these goes
through lists of fragments, clauses and conditions.
-/
namespace SqlCompose

/-- The texts that clauses are made of whatever the query. -/
def fixedTexts : List String :=
  ["", "*", "as", "exists", "select", "select distinct", "select exists", "distinct", "count",
    "sum", "avg", "min", "max", "from", "inner join", "left join", "right join", "cross join",
    "on", "where", "and", "or", "in", "not in", "between", "not between", "is null",
    "is not null", "not exists", "0 = 1", "1 = 1", "group by", "having", "asc", "desc",
    "aggregate", "insert into", "update", "set", "=", "delete", "delete from", "using"]

/-- The texts that bound a select or part it from the next. -/
def boundaryTexts : List String := ["order by", "for update", "union", "union all"]

/-- The relation goes through every way in which fragments are put together. -/
structure Compatible (R : Fragment → Fragment → Prop) : Prop where
  fixed {s : String} : s ∈ fixedTexts → R (.ofText s) (.ofText s)
  space {f f' g g' : Fragment} : R f f' → R g g' → R (f ++ " " ++ g) (f' ++ " " ++ g')
  comma {f f' g g' : Fragment} : R f f' → R g g' → R (f ++ ", " ++ g) (f' ++ ", " ++ g')
  dot {f f' g g' : Fragment} : R f f' → R g g' → R (f ++ "." ++ g) (f' ++ "." ++ g')
  bracket {f f' : Fragment} : R f f' → R ("(" ++ f ++ ")") ("(" ++ f' ++ ")")
  /-- A word with something in parentheses right behind it. -/
  call {f f' g g' : Fragment} :
    R f f' → R g g' → R (f ++ ("(" ++ g ++ ")")) (f' ++ ("(" ++ g' ++ ")"))
  trimmed {f f' : Fragment} : R f f' → R f.trimmed f'.trimmed
  trimmedEnd {f f' : Fragment} :
    R f f' → R { f with sql := Text.trimEnd f.sql } { f' with sql := Text.trimEnd f'.sql }
  empty_iff {f f' : Fragment} : R f f' → (f.sql = "" ↔ f'.sql = "")
  blank_iff {f f' : Fragment} : R f f' → (Text.trim f.sql = "" ↔ Text.trim f'.sql = "")
  star_iff {s s' : String} : R (.ofText s) (.ofText s') → (s = "*" ↔ s' = "*")
  /-- The values of a blank text may stay behind alone, on either side of another text. -/
  after {f f' g g' : Fragment} : R f f' → Text.trim f.sql = "" → R g g' →
    R (.after f.bindings g) (.after f'.bindings g')
  before {f f' g g' : Fragment} : R f f' → Text.trim f.sql = "" → R g g' →
    R (.before g f.bindings) (.before g' f'.bindings)

namespace Fragment

theorem ofText_joinWith (sep : String) (texts : List String) :
    ofText (Text.joinWith sep texts) = joinWith sep (texts.map ofText) := by
  apply ext
  · simp [joinWith, ofText, Function.comp_def]
  · simp [joinWith, allBindings, ofText]

/-- A text behind a fragment, as a fragment of its own. -/
theorem append_ofText (f : Fragment) (s : String) : f ++ ofText s = f ++ s := by
  apply ext
  · rfl
  · simp [ofText]

end Fragment

namespace Compatible

variable {R : Fragment → Fragment → Prop} (h : Compatible R)

include h

theorem text (s : String) (known : s ∈ fixedTexts) : R (.ofText s) (.ofText s) :=
  h.fixed known

theorem empty : R .empty .empty := h.text "" (by decide)

/-- A fixed word in front of a fragment. -/
theorem keyword (s : String) (known : s ∈ fixedTexts) {f f' : Fragment} (related : R f f') :
    R (s ++ " " ++ f) (s ++ " " ++ f') :=
  h.space (h.fixed known) related

/-- A fixed word behind a fragment. -/
theorem word {f f' : Fragment} (related : R f f') (s : String) (known : s ∈ fixedTexts) :
    R (f ++ " " ++ s) (f' ++ " " ++ s) := by
  have both := h.space related (h.fixed known)
  rwa [Fragment.append_ofText, Fragment.append_ofText] at both

theorem joinWith {sep : String} {fs fs' : List Fragment}
    (step : ∀ {f f' g g' : Fragment}, R f f' → R g g' → R (f ++ sep ++ g) (f' ++ sep ++ g'))
    (each : List.Forall₂ R fs fs') : R (.joinWith sep fs) (.joinWith sep fs') := by
  induction each with
  | nil => exact h.empty
  | @cons f f' rest rest' first others ih =>
    cases others with
    | nil => simpa only [Fragment.joinWith_singleton] using first
    | cons => exact step first ih

theorem texts {sep : String} {texts texts' : List String}
    (step : ∀ {f f' g g' : Fragment}, R f f' → R g g' → R (f ++ sep ++ g) (f' ++ sep ++ g'))
    (each : List.Forall₂ (fun s s' => R (.ofText s) (.ofText s')) texts texts') :
    R (.ofText (Text.joinWith sep texts)) (.ofText (Text.joinWith sep texts')) := by
  rw [Fragment.ofText_joinWith, Fragment.ofText_joinWith]
  apply h.joinWith step
  rwa [List.forall₂_map_left_iff, List.forall₂_map_right_iff]

theorem concat {fs fs' : List Fragment} (each : List.Forall₂ R fs fs') :
    R (.concat fs) (.concat fs') := by
  induction each with
  | nil => exact h.empty
  | @cons f f' rest rest' first _ ih =>
    rw [Fragment.concat_cons, Fragment.concat_cons]
    have same_blank := h.blank_iff first
    have same_end := h.empty_iff ih
    by_cases blank : Text.trim f.sql = ""
    · rw [if_pos blank, if_pos (same_blank.mp blank)]
      exact h.after first blank ih
    · rw [if_neg blank, if_neg (mt same_blank.mpr blank)]
      by_cases done : (Fragment.concat rest).sql = ""
      · rw [if_pos done, if_pos (same_end.mp done)]
        exact h.before ih (by rw [done]; exact Text.trim_empty) (h.trimmed first)
      · rw [if_neg done, if_neg (mt same_end.mpr done)]
        exact h.space (h.trimmed first) ih

/-- Conditions with one connective and related fragments. -/
def Alike (R : Fragment → Fragment → Prop) (c c' : Condition) : Prop :=
  c'.connective = c.connective ∧ R c.fragment c'.fragment

omit h in
theorem connective_fixed (c : Connective) : c.keyword ∈ fixedTexts := by
  cases c <;> decide

theorem joinAll {cs cs' : List Condition} (each : List.Forall₂ (Alike R) cs cs') :
    R (Condition.joinAll cs) (Condition.joinAll cs') := by
  induction each with
  | nil => exact h.empty
  | @cons c c' rest rest' first others ih =>
    cases others with
    | nil => simpa only [Condition.joinAll_singleton] using first.2
    | @cons e e' _ _ second _ =>
      rw [Condition.joinAll_cons_cons, Condition.joinAll_cons_cons, second.1]
      exact h.space (h.word first.2 _ (connective_fixed _)) ih

theorem visible {cs cs' : List Condition} (each : List.Forall₂ (Alike R) cs cs') :
    List.Forall₂ (Alike R) (Condition.visible cs) (Condition.visible cs') := by
  induction each with
  | nil => exact .nil
  | @cons c c' rest rest' first _ ih =>
    have same_empty := h.empty_iff first.2
    unfold Condition.visible
    by_cases shown : c.fragment.sql = ""
    · rw [List.filter_cons_of_neg (by simpa using shown),
        List.filter_cons_of_neg (by simpa using same_empty.mp shown)]
      exact ih
    · rw [List.filter_cons_of_pos (by simpa using shown),
        List.filter_cons_of_pos (by simpa using mt same_empty.mpr shown)]
      exact .cons first ih

theorem join {cs cs' : List Condition} (each : List.Forall₂ (Alike R) cs cs') :
    R (Condition.join cs) (Condition.join cs') := by
  induction each with
  | nil => exact h.empty
  | @cons c c' rest rest' first others ih =>
    rw [Condition.join_cons, Condition.join_cons]
    have same_empty := h.empty_iff first.2
    by_cases shown : c.fragment.sql = ""
    · rw [if_pos shown, if_pos (same_empty.mp shown)]
      exact h.after first.2 (by rw [shown]; exact Text.trim_empty) ih
    · rw [if_neg shown, if_neg (mt same_empty.mpr shown)]
      have left := h.visible others
      generalize hv : Condition.visible rest = shown_rest at left
      generalize hv' : Condition.visible rest' = shown_rest' at left
      cases left with
      | nil =>
        have nothing : (Condition.join rest).sql = "" := by rw [Condition.join_sql, hv]; rfl
        exact h.before ih (by rw [nothing]; exact Text.trim_empty) first.2
      | @cons e e' _ _ second _ =>
        show R (_ ++ _ ++ e.connective.keyword ++ _ ++ _) (_ ++ _ ++ e'.connective.keyword ++ _ ++ _)
        rw [second.1]
        exact h.space (h.word first.2 _ (connective_fixed _)) ih

theorem under (keyword : String) (known : keyword ∈ fixedTexts) {cs cs' : List Condition}
    (each : List.Forall₂ (Alike R) cs cs') :
    R (Condition.under keyword cs) (Condition.under keyword cs') := by
  have joined := h.join each
  have same_empty := h.empty_iff joined
  unfold Condition.under
  by_cases shown : (Condition.join cs).sql = ""
  · rw [if_pos shown, if_pos (same_empty.mp shown)]
    exact joined
  · rw [if_neg shown, if_neg (mt same_empty.mpr shown)]
    exact h.space (h.fixed known) joined

end Compatible

end SqlCompose
