import Mathlib.Data.List.DropRight
import SqlCompose.Proofs.Fragments
import SqlCompose.Proofs.Placeholders.Trimming

/-!
# How a statement starts

Clauses are trimmed and stand one behind the other, with a space between those that have text. So a
statement starts as the first of them does (`Starts.concatenate`), and a clause that starts with
a keyword and a name keeps both (`concatenate_behind`).
-/
namespace SqlCompose

open Text (isBlank)

namespace Text

/-- A text with a space before it, if there is any. -/
def spaced (s : String) : String := if s = "" then "" else " " ++ s

theorem spaced_inj {s t : String} : spaced s = spaced t ↔ s = t := by
  constructor
  · intro same
    unfold spaced at same
    split at same <;> split at same
    · simp_all
    · next full => simp [← String.toList_inj] at same
    · next full empty => simp [← String.toList_inj] at same
    · simpa using same
  · rintro rfl
    rfl

theorem spaced_cons {c : Char} {cs : List Char} {s : String} (chars : (spaced s).toList = c :: cs) :
    c = ' ' ∧ s.toList = cs := by
  unfold spaced at chars
  split at chars
  · cases chars
  · rw [String.toList_append] at chars
    cases chars
    exact ⟨rfl, rfl⟩

theorem rdropWhile_append (p : Char → Bool) (front back : List Char) :
    (front ++ back).rdropWhile p =
      if back.rdropWhile p = [] then front.rdropWhile p else front ++ back.rdropWhile p := by
  simp only [List.rdropWhile, List.reverse_append, List.dropWhile_append, List.isEmpty_iff,
    List.reverse_eq_nil_iff]
  split <;> simp

/-- A text that starts with a character other than a blank keeps it when it is trimmed. -/
theorem head_trim {s : String} {c : Char} {cs : List Char} (chars : s.toList = c :: cs)
    (shown : isBlank c = false) : ∃ ds, (trim s).toList = c :: ds := by
  have front : dropBlank s.toList = [] ++ [c] ++ cs := by
    rw [chars]
    exact List.dropWhile_cons_of_neg (by simp [shown])
  have alone : ([] ++ [c]).rdropWhile isBlank = [c] :=
    List.rdropWhile_concat_neg _ _ _ (by simp [shown])
  have spelled : (trim s).toList = ([] ++ [c] ++ cs).rdropWhile isBlank := by
    rw [trim, String.toList_ofList, trimBlank, front]
    rfl
  rw [spelled, rdropWhile_append, alone]
  split
  · exact ⟨[], rfl⟩
  · exact ⟨_, rfl⟩

/-- Trimming what starts with a text without blanks at its ends leaves that text as it is. -/
theorem trim_behind {front : String} (solid : Solid front) (s : String) :
    trim (front ++ " " ++ s) = front ++ spaced (trimEnd s) := by
  obtain ⟨c, cs, chars, shown⟩ := solid.first
  obtain ⟨ds, e, chars', shown'⟩ := solid.last
  have whole : (front ++ " " ++ s).toList = front.toList ++ [' '] ++ s.toList := by simp
  have kept : dropBlank (front ++ " " ++ s).toList = front.toList ++ [' '] ++ s.toList := by
    rw [whole, chars]
    exact List.dropWhile_cons_of_neg (by simp [shown])
  have alone : (front.toList ++ [' ']).rdropWhile isBlank = front.toList := by
    rw [List.rdropWhile_concat_pos _ _ _ (by decide), chars']
    exact List.rdropWhile_concat_neg _ _ _ (by simp [shown'])
  have spelled : (trimEnd s).toList = s.toList.rdropWhile isBlank := String.toList_ofList
  rw [← String.toList_inj, trim, String.toList_ofList, trimBlank, kept]
  show (front.toList ++ [' '] ++ s.toList).rdropWhile isBlank = _
  rw [rdropWhile_append, alone, spaced]
  by_cases blank : trimEnd s = ""
  · rw [if_pos (by simp [← spelled, blank]), if_pos blank, String.append_empty]
  · rw [if_neg (by simpa [← spelled] using blank), if_neg blank]
    simp [spelled]

end Text

/-- A clause in front of others. -/
theorem concatenate_front {s : String} (shown : Text.trim s ≠ "") (texts : List String) :
    concatenate (s :: texts) = Text.trim s ++ Text.spaced (concatenate texts) := by
  rw [concatenate_cons, if_neg shown, Text.spaced]
  split
  · rw [String.append_empty]
  · rw [String.append_assoc]

/-- A statement that starts with a keyword and a name. -/
theorem concatenate_behind {front : String} (solid : Text.Solid front) (s : String)
    (texts : List String) : concatenate ((front ++ " " ++ s) :: texts) =
      front ++ Text.spaced (Text.trimEnd s) ++ Text.spaced (concatenate texts) := by
  have trimmed := Text.trim_behind solid s
  rw [concatenate_front _ texts, trimmed]
  intro empty
  rw [trimmed, String.append_eq_empty_iff] at empty
  exact solid.1 empty.1

/-- A statement starts as its first clause does. -/
theorem concatenate_first {s : String} {c : Char} {cs : List Char} (chars : s.toList = c :: cs)
    (shown : isBlank c = false) (texts : List String) :
    ∃ ds, (concatenate (s :: texts)).toList = c :: ds := by
  obtain ⟨ds, kept⟩ := Text.head_trim chars shown
  have some : Text.trim s ≠ "" := by
    intro empty
    rw [empty] at kept
    cases kept
  rw [concatenate_front some, String.toList_append, kept]
  exact ⟨_, rfl⟩

/-- The first character of a text, if it has one, is not blank and has a property. -/
def Starts (P : Char → Prop) (s : String) : Prop := ∀ c ∈ s.toList.head?, isBlank c = false ∧ P c

namespace Starts

variable {P Q : Char → Prop} {s : String}

theorem empty : Starts P "" := by simp [Starts]

theorem mono (starts : Starts P s) (only : ∀ c, P c → Q c) : Starts Q s :=
  fun c first => (starts c first).imp_right (only c)

theorem append (starts : Starts P s) (some : s ≠ "") (t : String) : Starts P (s ++ t) := by
  intro c first
  refine starts c ?_
  cases chars : s.toList with
  | nil => exact absurd (String.toList_eq_nil_iff.mp chars) some
  | cons e es => simpa [chars] using first

/-- A statement starts as the first of its clauses that has text. -/
theorem concatenate {texts : List String} (each : ∀ s ∈ texts, Starts P s) :
    Starts P (concatenate texts) := by
  induction texts with
  | nil => exact .empty
  | cons s texts ih =>
    have rest := ih fun t member => each t (by simp [member])
    cases chars : s.toList with
    | nil =>
      rw [String.toList_eq_nil_iff.mp chars, concatenate_cons, if_pos Text.trim_empty]
      exact rest
    | cons c cs =>
      have holds := each s (by simp) c (by simp [chars])
      obtain ⟨ds, kept⟩ := concatenate_first chars holds.1 texts
      intro e first
      rw [kept] at first
      cases first
      exact holds

theorem under {keyword : String} (starts : Starts P keyword) (some : keyword ≠ "")
    (conditions : List Condition) : Starts P (Condition.under keyword conditions).sql := by
  unfold Condition.under
  dsimp only
  split
  · next nothing => exact nothing ▸ .empty
  · rw [Fragment.sql_text_append]
    exact (starts.append some " ").append (by simp) _

end Starts

end SqlCompose
