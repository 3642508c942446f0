import SqlCompose.Condition

/-!
# Putting fragments together, one at a time

Lists of fragments, clauses and conditions are joined by functions on whole lists that leave out
what has no text. Here each is given as a step from a list to the list with one item more, so that
an induction on the list can follow the text.
-/
namespace SqlCompose

theorem Text.joinWith_eq_empty_iff (sep : String) (texts : List String)
    (nonempty : ∀ s ∈ texts, s ≠ "") : Text.joinWith sep texts = "" ↔ texts = [] := by
  match texts with
  | [] => simp
  | [s] => simpa using nonempty s (by simp)
  | s :: t :: rest => simp [nonempty s (by simp)]

theorem Text.joinWith_cons (sep s : String) {texts : List String} (h : texts ≠ []) :
    Text.joinWith sep (s :: texts) = s ++ sep ++ Text.joinWith sep texts := by
  cases texts with
  | nil => exact absurd rfl h
  | cons t rest => rfl

theorem Text.joinWith_append (sep : String) {a b : List String} (ha : a ≠ []) (hb : b ≠ []) :
    joinWith sep (a ++ b) = joinWith sep a ++ sep ++ joinWith sep b := by
  induction a with
  | nil => exact absurd rfl ha
  | cons s a ih =>
    cases a with
    | nil => exact joinWith_cons sep s hb
    | cons t a =>
      have rest := ih (by simp)
      rw [List.cons_append, joinWith_cons sep s (by simp), rest, joinWith_cons_cons]
      simp [String.append_assoc]

/-- A text that is blank is passed over, the others are trimmed and parted by a space. -/
theorem concatenate_cons (s : String) (texts : List String) :
    concatenate (s :: texts) =
      if Text.trim s = "" then concatenate texts
      else if concatenate texts = "" then Text.trim s
      else Text.trim s ++ " " ++ concatenate texts := by
  have kept : ∀ t ∈ (texts.map Text.trim).filter (· ≠ ""), t ≠ "" := by simp
  have none_left := Text.joinWith_eq_empty_iff " " _ kept
  unfold concatenate
  by_cases blank : Text.trim s = ""
  · simp [blank]
  · rw [List.map_cons, List.filter_cons_of_pos (by simpa using blank), if_neg blank]
    split
    · next h => rw [none_left.mp h, Text.joinWith_singleton]
    · next h => exact Text.joinWith_cons _ _ (mt none_left.mpr h)

namespace Fragment

theorem ext {f g : Fragment} (sql : f.sql = g.sql) (bindings : f.bindings = g.bindings) :
    f = g := by
  cases f
  cases g
  simp_all

@[simp] theorem sql_ofText (s : String) : (ofText s).sql = s := rfl

@[simp] theorem bindings_ofText (s : String) : (ofText s).bindings = [] := rfl

/-- The fragment without blanks around its text. -/
def trimmed (f : Fragment) : Fragment := { f with sql := Text.trim f.sql }

/-- Values that stand before those of a fragment whose text is all there is. -/
def after (values : List Value) (f : Fragment) : Fragment := ⟨f.sql, values ++ f.bindings⟩

/-- Values that follow those of a fragment whose text is all there is. -/
def before (f : Fragment) (values : List Value) : Fragment := ⟨f.sql, f.bindings ++ values⟩

@[simp] theorem joinWith_nil (sep : String) : joinWith sep [] = empty := rfl

theorem joinWith_singleton (sep : String) (f : Fragment) : joinWith sep [f] = f := by
  apply ext <;> simp [joinWith, allBindings]

@[simp] theorem concat_nil : concat [] = empty := rfl

/-- A fragment with a blank text leaves only its values behind. -/
theorem concat_cons (f : Fragment) (fs : List Fragment) :
    concat (f :: fs) =
      if Text.trim f.sql = "" then after f.bindings (concat fs)
      else if (concat fs).sql = "" then before f.trimmed (concat fs).bindings
      else f.trimmed ++ " " ++ concat fs := by
  have text : (concat (f :: fs)).sql = _ := concatenate_cons f.sql (fs.map sql)
  apply ext
  · rw [text]
    show _ = Fragment.sql (if _ then _ else if concatenate (fs.map sql) = "" then _ else _)
    split
    · rfl
    · split <;> rfl
  · split
    · rfl
    · split <;> rfl

end Fragment

theorem joinConditions_cons_cons (first second : Connective × String)
    (rest : List (Connective × String)) :
    joinConditions (first :: second :: rest) =
      first.2 ++ " " ++ second.1.keyword ++ " " ++ joinConditions (second :: rest) := by
  simp [joinConditions, followingConditions, String.append_assoc]

theorem joinConditions_append {front : List (Connective × String)} (some : front ≠ [])
    (next : Connective × String) (rest : List (Connective × String)) :
    joinConditions (front ++ next :: rest) =
      joinConditions front ++ " " ++ next.1.keyword ++ " " ++ joinConditions (next :: rest) := by
  induction front with
  | nil => exact absurd rfl some
  | cons first front ih =>
    cases front with
    | nil =>
      rw [List.singleton_append, joinConditions_cons_cons]
      simp [joinConditions, followingConditions]
    | cons second front =>
      have later := ih (by simp)
      rw [List.cons_append] at later
      rw [List.cons_append, List.cons_append, joinConditions_cons_cons, joinConditions_cons_cons,
        later]
      simp [String.append_assoc]

namespace Condition

/-- The conditions that have text. -/
def visible (conditions : List Condition) : List Condition :=
  conditions.filter fun c => c.fragment.sql ≠ ""

@[simp] theorem visible_nil : visible [] = [] := rfl

theorem visible_append (a b : List Condition) : visible (a ++ b) = visible a ++ visible b :=
  List.filter_append ..

@[simp] theorem joinAll_nil : joinAll [] = .empty := rfl

theorem joinAll_singleton (c : Condition) : joinAll [c] = c.fragment := by
  apply Fragment.ext <;> simp [joinAll, joinConditions, followingConditions, allBindings]

theorem joinAll_cons_cons (c e : Condition) (rest : List Condition) :
    joinAll (c :: e :: rest) =
      c.fragment ++ " " ++ e.connective.keyword ++ " " ++ joinAll (e :: rest) := by
  apply Fragment.ext
  · simp only [joinAll, List.map_cons, joinConditions_cons_cons, Fragment.sql_append,
      Fragment.sql_append_text]
  · rfl

theorem join_sql (conditions : List Condition) :
    (join conditions).sql = (joinAll (visible conditions)).sql := rfl

@[simp] theorem join_nil : join [] = .empty := rfl

theorem join_eq_empty_iff (conditions : List Condition) :
    (join conditions).sql = "" ↔ visible conditions = [] := by
  rw [join_sql]
  cases kept : visible conditions with
  | nil => simp [Fragment.empty]
  | cons c rest =>
    have member : c ∈ visible conditions := by simp [kept]
    have text : c.fragment.sql ≠ "" := by simpa using (List.mem_filter.mp member).2
    simp [joinAll, joinConditions, text]

/-- A condition without text leaves only its values behind; one with text is followed by the
connective of the next that has text. -/
theorem join_cons (c : Condition) (conditions : List Condition) :
    join (c :: conditions) =
      if c.fragment.sql = "" then .after c.fragment.bindings (join conditions)
      else match visible conditions with
        | [] => .before c.fragment (join conditions).bindings
        | e :: _ => c.fragment ++ " " ++ e.connective.keyword ++ " " ++ join conditions := by
  have values : (join (c :: conditions)).bindings =
      c.fragment.bindings ++ (join conditions).bindings := rfl
  by_cases h : c.fragment.sql = ""
  · rw [if_pos h]
    apply Fragment.ext
    · simp [join_sql, visible, h, Fragment.after]
    · exact values
  · have kept : visible (c :: conditions) = c :: visible conditions :=
      List.filter_cons_of_pos (by simpa using h)
    rw [if_neg h]
    cases rest : visible conditions with
    | nil =>
      apply Fragment.ext
      · simp [join_sql, kept, rest, joinAll_singleton, Fragment.before]
      · exact values
    | cons e es =>
      apply Fragment.ext
      · simp [join_sql, kept, rest, joinAll_cons_cons]
      · exact values

end Condition
end SqlCompose
