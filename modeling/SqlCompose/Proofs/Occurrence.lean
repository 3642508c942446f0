import Mathlib.Data.List.Infix
import SqlCompose.Proofs.Fragments
import SqlCompose.Proofs.Placeholders.Trimming

/-!
# Texts within texts

What is written in a part of a statement stands in the whole: parts are joined with separators and
trimmed, which takes nothing from a text that has no blanks at its ends.
-/
namespace SqlCompose.Text

/-- The one text stands somewhere in the other. -/
def Occurs (s t : String) : Prop := s.toList <:+: t.toList

instance (s t : String) : Decidable (Occurs s t) := inferInstanceAs (Decidable (_ <:+: _))

theorem infix_dropWhile {p : Char → Bool} {part whole : List Char} (inside : part <:+: whole)
    (first : ∀ c ∈ part.head?, p c = false) : part <:+: whole.dropWhile p := by
  obtain ⟨front, back, rfl⟩ := inside
  cases part with
  | nil => exact List.nil_infix
  | cons c cs =>
    have shown : p c = false := first c rfl
    have kept : (c :: cs ++ back).dropWhile p = c :: cs ++ back :=
      List.dropWhile_cons_of_neg (by simp [shown])
    rw [List.append_assoc, List.dropWhile_append]
    split
    · rw [kept]
      exact ⟨[], back, rfl⟩
    · exact ⟨front.dropWhile p, back, by simp⟩

theorem infix_rdropWhile {p : Char → Bool} {part whole : List Char} (inside : part <:+: whole)
    (last : ∀ c ∈ part.getLast?, p c = false) : part <:+: whole.rdropWhile p := by
  have reversed : part.reverse <:+: whole.reverse := List.reverse_infix.mpr inside
  have kept := infix_dropWhile reversed (by simpa using last)
  rw [List.rdropWhile, ← List.reverse_reverse part]
  exact List.reverse_infix.mpr kept

/-- A text without blanks at its ends. -/
def Bare (s : String) : Prop := trim s = s

/-- A text has no blanks at its ends when its first and its last character are none. -/
theorem bare_iff (s : String) : Bare s ↔ (∀ c ∈ s.toList.head?, isBlank c = false) ∧
    ∀ c ∈ s.toList.getLast?, isBlank c = false := by
  constructor
  · intro bare
    by_cases empty : s = ""
    · simp [empty]
    · have solid : Solid s := ⟨empty, bare⟩
      obtain ⟨c, cs, chars, shown⟩ := solid.first
      obtain ⟨ds, e, chars', shown'⟩ := solid.last
      constructor
      · simp [chars, shown]
      · simp [chars', shown']
  · rintro ⟨first, last⟩
    have front : dropBlank s.toList = s.toList := by
      refine List.dropWhile_eq_self_iff.mpr fun some => ?_
      have shown := first s.toList[0] (by simp [List.head?_eq_getElem?])
      simp [shown]
    have back : dropBlankEnd s.toList = s.toList := by
      refine List.rdropWhile_eq_self_iff.mpr fun some => ?_
      have shown := last (s.toList.getLast some) (by simp [List.getLast?_eq_some_getLast some])
      simp [shown]
    rw [Bare, trim, trimBlank, front, back, String.ofList_toList]

/-- Nothing is left of a text when it is trimmed just when all of it is blank. -/
theorem trim_eq_empty_iff (s : String) : trim s = "" ↔ ∀ c ∈ s.toList, isBlank c = true := by
  have spelled : (trim s).toList = (dropBlank s.toList).rdropWhile isBlank := String.toList_ofList
  rw [← String.toList_eq_nil_iff, spelled, List.rdropWhile_eq_nil_iff]
  constructor
  · intro blank c member
    by_contra shown
    have kept : dropBlank s.toList ≠ [] := by
      intro nothing
      exact shown (List.dropWhile_eq_nil_iff.mp nothing c member)
    have first : isBlank ((dropBlank s.toList).head kept) = false := List.head_dropWhile_not isBlank kept
    rw [blank _ (List.head_mem kept)] at first
    cases first
  · intro blank c member
    exact blank c ((List.dropWhile_sublist isBlank).subset member)

theorem bare_trim (s : String) : Bare (trim s) := by
  have spelled : (trim s).toList = (dropBlank s.toList).rdropWhile isBlank := String.toList_ofList
  have start := List.rdropWhile_prefix isBlank (dropBlank s.toList)
  rw [bare_iff, spelled]
  constructor
  · intro c first
    obtain ⟨rest, whole⟩ := start
    have head : (dropBlank s.toList).head? = some c := by
      rw [← whole, List.head?_append, first, Option.some_or]
    have shown := List.head?_dropWhile_not isBlank s.toList
    rw [show s.toList.dropWhile isBlank = dropBlank s.toList from rfl, head] at shown
    simpa using shown
  · intro c last
    have some : (dropBlank s.toList).rdropWhile isBlank ≠ [] := by
      intro nothing
      simp [nothing] at last
    have shown := List.rdropWhile_last_not isBlank (dropBlank s.toList) some
    rw [List.getLast?_eq_some_getLast some] at last
    cases last
    simpa using shown

namespace Occurs

variable {s t u sep : String} {texts : List String}

theorem refl (s : String) : Occurs s s := List.infix_refl _

theorem trans (first : Occurs s t) (second : Occurs t u) : Occurs s u := List.IsInfix.trans first second

theorem empty (t : String) : Occurs "" t := List.nil_infix

theorem within (front back : String) : Occurs s (front ++ s ++ back) :=
  ⟨front.toList, back.toList, by simp⟩

theorem behind (front : String) : Occurs s (front ++ s) := by
  have inside := within (s := s) front ""
  rwa [String.append_empty] at inside

theorem before (back : String) : Occurs s (s ++ back) := by
  have inside := within (s := s) "" back
  rwa [String.empty_append] at inside

theorem trimmed (s : String) : Occurs (Text.trim s) s := by
  unfold Occurs Text.trim
  rw [String.toList_ofList]
  have back := (List.rdropWhile_prefix isBlank (dropBlank s.toList)).isInfix
  exact back.trans (List.dropWhile_suffix isBlank).isInfix

theorem trim (bare : Bare s) (inside : Occurs s t) : Occurs s (Text.trim t) := by
  unfold Occurs Text.trim
  rw [String.toList_ofList]
  exact infix_rdropWhile (infix_dropWhile inside ((bare_iff s).mp bare).1) ((bare_iff s).mp bare).2

theorem trimEnd (bare : Bare s) (inside : Occurs s t) : Occurs s (Text.trimEnd t) := by
  unfold Occurs Text.trimEnd
  rw [String.toList_ofList]
  exact infix_rdropWhile inside ((bare_iff s).mp bare).2

theorem joinWith (member : s ∈ texts) : Occurs s (Text.joinWith sep texts) := by
  induction texts with
  | nil => cases member
  | cons first texts ih =>
    by_cases alone : texts = []
    · subst alone
      obtain rfl := List.mem_singleton.mp member
      exact refl _
    · rw [joinWith_cons _ _ alone]
      rcases List.mem_cons.mp member with rfl | later
      · rw [String.append_assoc]
        exact before _
      · exact (ih later).trans (behind _)

/-- What has no blanks at its ends and stands in a clause stands in the statement. -/
theorem concatenate (bare : Bare s) (inside : Occurs s t) (member : t ∈ texts) :
    Occurs s (SqlCompose.concatenate texts) := by
  have trimmed := inside.trim bare
  by_cases blank : Text.trim t = ""
  · rw [blank] at trimmed
    have nothing : s = "" := String.toList_eq_nil_iff.mp (List.infix_nil.mp trimmed)
    rw [nothing]
    exact empty _
  · have kept : Text.trim t ∈ (texts.map Text.trim).filter (· ≠ "") :=
      List.mem_filter.mpr ⟨List.mem_map_of_mem member, by simpa using blank⟩
    exact trimmed.trans (joinWith kept)

end Occurs
end SqlCompose.Text
