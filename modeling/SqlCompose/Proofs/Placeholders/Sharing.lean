import SqlCompose.Proofs.Congruence.Parts
import SqlCompose.Proofs.Placeholders.Trimming

/-!
# Fragments that share a template

Two fragments share a template when one is the template with placeholders, the other the template
with literals, and both bind its values. The relation is a congruence between a dialect that writes
plainly and the same dialect with its values written in place.
-/
namespace SqlCompose

open Template

structure Sharing (quote : Char) (literals : Literals) (f g : Fragment) (t : List Piece) :
    Prop where
  closed : Closed quote t
  placeholders : f.sql.toList = write (fun _ => "?") t
  inPlace : g.sql.toList = write literals.text t
  values : f.bindings = values t
  sameValues : g.bindings = f.bindings

/-- Two fragments with one closed template. -/
def Shares (quote : Char) (literals : Literals) (f g : Fragment) : Prop :=
  ∃ t, Sharing quote literals f g t

theorem Text.solid_mark : Solid "?" := by decide

namespace Shares

variable {quote : Char} {literals : Literals} {f f' g g' : Fragment}

theorem text {s : String} (closed : Closed quote (ofChars s.toList)) :
    Shares quote literals (.ofText s) (.ofText s) :=
  ⟨ofChars s.toList, closed, by simp, by simp, by simp, rfl⟩

theorem spaced {sep : String} {c : Char} {cs : List Char} (spelled : sep.toList = c :: cs)
    (ordinary : ∀ e ∈ c :: cs, Ordinary quote e) (left : Shares quote literals f f')
    (right : Shares quote literals g g') :
    Shares quote literals (f ++ sep ++ g) (f' ++ sep ++ g') := by
  obtain ⟨t, left⟩ := left
  obtain ⟨u, right⟩ := right
  have neutral : Neutral quote (String.ofList cs) :=
    neutral_of_ordinary fun e member => ordinary e (by simp_all)
  have behind : Closed quote (ofChars cs ++ u) := by simpa using right.closed.behind neutral
  have ordinary_first : Ordinary quote c := ordinary c (by simp)
  refine ⟨t ++ .char c :: (ofChars cs ++ u), left.closed.spaced ordinary_first behind, ?_, ?_, ?_, ?_⟩
  · simp [spelled, write_append, write, left.placeholders, right.placeholders]
  · simp [spelled, write_append, write, left.inPlace, right.inPlace]
  · simp [values_append, Template.values, left.values, right.values]
  · simp [left.sameValues, right.sameValues]

theorem call (opening : Ordinary quote '(') (closing : Ordinary quote ')')
    (left : Shares quote literals f f') (right : Shares quote literals g g') :
    Shares quote literals (f ++ ("(" ++ g ++ ")")) (f' ++ ("(" ++ g' ++ ")")) := by
  obtain ⟨t, left⟩ := left
  obtain ⟨u, right⟩ := right
  have inner : Closed quote (u ++ [.char ')']) := right.closed.spaced closing closed_nil
  refine ⟨t ++ .char '(' :: (u ++ [.char ')']), left.closed.spaced opening inner, ?_, ?_, ?_, ?_⟩
  · simp [write_append, write, left.placeholders, right.placeholders]
  · simp [write_append, write, left.inPlace, right.inPlace]
  · simp [values_append, Template.values, left.values, right.values]
  · simp [left.sameValues, right.sameValues]

theorem bracket (opening : Ordinary quote '(') (closing : Ordinary quote ')')
    (inner : Shares quote literals f f') :
    Shares quote literals ("(" ++ f ++ ")") ("(" ++ f' ++ ")") := by
  have nothing : Shares quote literals (.ofText "") (.ofText "") := text closed_nil
  have called := nothing.call opening closing inner
  have front (e : Fragment) : .ofText "" ++ ("(" ++ e ++ ")") = "(" ++ e ++ ")" := by
    apply Fragment.ext <;> simp
  rwa [front, front] at called

/-- The template of a text without values is the text. -/
theorem text_eq {s s' : String} (shares : Shares quote literals (.ofText s) (.ofText s')) :
    s' = s ∧ Closed quote (ofChars s.toList) := by
  obtain ⟨t, sharing⟩ := shares
  have chars : ∀ u : List Piece, Template.values u = [] → u = ofChars (write (fun _ => "?") u) := by
    intro u
    induction u with
    | nil => exact fun _ => rfl
    | cons p u ih =>
      intro none
      cases p with
      | char c => exact congrArg (.char c :: ·) (ih none)
      | value v => cases none
  have same := chars t sharing.values.symm
  rw [← sharing.placeholders] at same
  refine ⟨?_, same ▸ sharing.closed⟩
  have inPlace := sharing.inPlace
  rw [same, write_ofChars] at inPlace
  exact String.toList_inj.mp inPlace

theorem trimmed (blanks : BlanksOrdinary quote) (shares : Shares quote literals f f') :
    Shares quote literals f.trimmed f'.trimmed := by
  obtain ⟨t, sharing⟩ := shares
  refine ⟨trim t, sharing.closed.trim blanks, ?_, ?_, ?_, sharing.sameValues⟩
  · simp [Fragment.trimmed, Text.trim, sharing.placeholders,
      trimBlank_write fun _ => Text.solid_mark]
  · simp [Fragment.trimmed, Text.trim, sharing.inPlace, trimBlank_write literals.solid]
  · rw [values_trim]
    exact sharing.values

theorem trimmedEnd (blanks : BlanksOrdinary quote) (shares : Shares quote literals f f') :
    Shares quote literals { f with sql := Text.trimEnd f.sql }
      { f' with sql := Text.trimEnd f'.sql } := by
  obtain ⟨t, sharing⟩ := shares
  refine ⟨t.rdropWhile Piece.isBlank, sharing.closed.rdropWhile blanks, ?_, ?_, ?_,
    sharing.sameValues⟩
  · simp [Text.trimEnd, sharing.placeholders, dropBlankEnd_write fun _ => Text.solid_mark]
  · simp [Text.trimEnd, sharing.inPlace, dropBlankEnd_write literals.solid]
  · rw [values_rdropWhile]
    exact sharing.values

theorem empty_iff (shares : Shares quote literals f f') : f.sql = "" ↔ f'.sql = "" := by
  obtain ⟨t, sharing⟩ := shares
  rw [← String.toList_eq_nil_iff, ← String.toList_eq_nil_iff, sharing.placeholders,
    sharing.inPlace, write_eq_nil_iff fun _ => Text.solid_mark, write_eq_nil_iff literals.solid]

/-- A blank text has no values. -/
theorem bindings_of_blank (blanks : BlanksOrdinary quote) (shares : Shares quote literals f f')
    (blank : Text.trim f.sql = "") : f.bindings = [] ∧ f'.bindings = [] := by
  obtain ⟨t, sharing⟩ := shares.trimmed blanks
  have nothing : write (fun _ => "?") t = [] := by
    rw [← sharing.placeholders]
    exact String.toList_eq_nil_iff.mpr blank
  rw [write_eq_nil_iff fun _ => Text.solid_mark] at nothing
  have none : f.bindings = [] := by
    rw [show f.bindings = Template.values t from sharing.values, nothing]
    rfl
  exact ⟨none, by rw [show f'.bindings = f.bindings from sharing.sameValues, none]⟩

end Shares
end SqlCompose
