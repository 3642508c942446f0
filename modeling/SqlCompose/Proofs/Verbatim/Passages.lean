import Mathlib.Data.List.Forall2
import SqlCompose.Proofs.Verbatim.Places

/-!
# Expressions of a part

A part of a clause is not trimmed before something is put behind it, so the expression that it ends in
waits for its place: it is followed when a part comes behind it, and the last of the clause if none does
(`Passage.Holds`). Parts without text are left out of a list of conditions, and with them what they end in.
-/
namespace SqlCompose

/-- The expressions of a part: those whose place is known, and the one that the part ends in. -/
structure Passage where
  inside : List Emitted
  last : Option String
  deriving DecidableEq, Repr

namespace Passage

/-- No expression. -/
def empty : Passage := ⟨[], none⟩

/-- An expression by itself. -/
def expression (s : String) : Passage := ⟨[], some s⟩

/-- The expressions once something is behind the part. -/
def followed (p : Passage) : List Emitted := p.inside ++ p.last.toList.map (⟨·, .followed⟩)

/-- The expressions of a part that ends its clause. -/
def ended (p : Passage) : List Emitted := p.inside ++ p.last.toList.map (⟨·, .last⟩)

/-- The part with fixed text behind it. -/
def closed (p : Passage) : Passage := ⟨p.followed, none⟩

/-- Two parts with something between them. -/
def before (p q : Passage) : Passage := ⟨p.followed ++ q.inside, q.last⟩

/-- Parts in a row. -/
def row : List Passage → Passage
  | [] => empty
  | [p] => p
  | p :: q :: rest => p.before (row (q :: rest))

/-- Two conditions of a list; one that has no text is left out. -/
def join : Option Passage → Option Passage → Option Passage
  | none, q => q
  | some p, none => some p
  | some p, some q => some (p.before q)

/-- The expressions of a clause that ends with the part, if there is one. -/
def clause (p : Option Passage) : List Emitted := p.elim [] ended

/-- The expressions stand in a text, one of them at its end. -/
structure Holds (p : Passage) (s : String) : Prop where
  inside : ∀ e ∈ p.inside, e.Stands s
  last : ∀ t ∈ p.last, ∃ front, s = front ++ t

namespace Holds

variable {p q : Passage} {s t sep : String}

theorem empty (s : String) : Passage.empty.Holds s := ⟨nofun, nofun⟩

theorem expression (s : String) : (Passage.expression s).Holds s where
  inside := nofun
  last t ends := ⟨"", by simpa [Passage.expression] using ends⟩

/-- A part that ends in no expression. -/
theorem ofInside {inside : List Emitted} (stand : ∀ e ∈ inside, e.Stands s) :
    (⟨inside, none⟩ : Passage).Holds s := ⟨stand, nofun⟩

theorem behind (holds : p.Holds s) (front : String) : p.Holds (front ++ s) where
  inside e member := (holds.inside e member).behind front
  last t ends := by
    obtain ⟨inner, rfl⟩ := holds.last t ends
    exact ⟨front ++ inner, by rw [String.append_assoc]⟩

/-- What a part ends in only needs something behind it. -/
theorem last_followed (holds : p.Holds s) (shows : Text.Shows t) :
    ∀ text ∈ p.last, Emitted.Stands ⟨text, .followed⟩ (s ++ t) := by
  intro text ends
  obtain ⟨front, rfl⟩ := holds.last text ends
  exact ⟨front, t, rfl, shows⟩

theorem followed (holds : p.Holds s) (parts : Text.Parts t) : ∀ e ∈ p.followed, e.Stands (s ++ t) := by
  intro e member
  cases List.mem_append.mp member with
  | inl inner => exact (holds.inside e inner).before parts
  | inr ending =>
    obtain ⟨text, ends, rfl⟩ := List.mem_map.mp ending
    exact holds.last_followed parts.shows text (by simpa using ends)

theorem closed (holds : p.Holds s) (parts : Text.Parts t) : p.closed.Holds (s ++ t) :=
  ofInside (holds.followed parts)

theorem before (left : p.Holds s) (right : q.Holds t) (parts : Text.Parts sep) :
    (p.before q).Holds (s ++ sep ++ t) where
  inside e member := by
    rw [String.append_assoc]
    cases List.mem_append.mp member with
    | inl first => exact left.followed (parts.append t) e first
    | inr second => exact ((right.inside e second).behind sep).behind s
  last := (right.behind (s ++ sep)).last

/-- At the end of a clause the end of the text is trimmed. -/
theorem trimEnd (holds : p.Holds s) : ∀ e ∈ p.ended, e.Stands (Text.trimEnd s) := by
  intro e member
  cases List.mem_append.mp member with
  | inl inner => exact (holds.inside e inner).trimEnd
  | inr ending =>
    obtain ⟨text, ends, rfl⟩ := List.mem_map.mp ending
    obtain ⟨front, rfl⟩ := holds.last text (by simpa using ends)
    obtain ⟨front', whole⟩ := Text.trimEnd_ends front text
    exact ⟨front', "", by rw [whole, String.append_empty]; rfl, .inl rfl⟩

/-- A clause starts with a keyword, so nothing is trimmed in front of the expressions. -/
theorem behindKeyword (holds : p.Holds s) {keyword : String} (opens : Text.Opens keyword) :
    ∀ e ∈ p.ended, e.Stands (Text.trim (keyword ++ s)) := by
  rw [(opens.append s).trim]
  exact (holds.behind keyword).trimEnd

theorem row {ps : List Passage} {texts : List String} (parts : Text.Parts sep)
    (each : List.Forall₂ Holds ps texts) : (Passage.row ps).Holds (Text.joinWith sep texts) := by
  induction each with
  | nil => exact empty ""
  | cons first others ih =>
    cases others with
    | nil => exact first
    | cons second rest => exact first.before ih parts

theorem rowMap {α : Type} {passage : α → Passage} {text : α → String} (parts : Text.Parts sep)
    (each : ∀ a, (passage a).Holds (text a)) (items : List α) :
    (Passage.row (items.map passage)).Holds (Text.joinWith sep (items.map text)) :=
  row parts <| List.forall₂_map_left_iff.mpr <| List.forall₂_map_right_iff.mpr <|
    List.forall₂_same.mpr fun a _ => each a

end Holds
end Passage

/-- The expressions of a condition, or none for a condition without text. -/
def Shown : Option Passage → String → Prop
  | none, s => s = ""
  | some p, s => s ≠ "" ∧ p.Holds s

theorem Shown.join {x y : Option Passage} {c : Condition} {conditions : List Condition}
    (first : Shown x c.fragment.sql) (rest : Shown y (Condition.join conditions).sql) :
    Shown (Passage.join x y) (Condition.join (c :: conditions)).sql := by
  have empty := Condition.join_eq_empty_iff conditions
  rw [Condition.join_cons]
  cases x with
  | none =>
    have nothing : c.fragment.sql = "" := first
    rw [if_pos nothing]
    exact rest
  | some p =>
    rw [if_neg first.1]
    cases y with
    | none =>
      rw [empty.mp rest]
      exact first
    | some q =>
      cases kept : Condition.visible conditions with
      | nil => exact absurd (empty.mpr kept) rest.1
      | cons e _ =>
        have parts : Text.Parts (" " ++ (e.connective.keyword ++ " ")) := by
          apply Text.Opens.spaced
          cases e.connective <;> decide
        have both := first.2.before rest.2 parts
        refine ⟨by simp [first.1], ?_⟩
        simpa only [Fragment.sql_append, Fragment.sql_append_text, String.append_assoc] using both

/-- Conditions behind their keyword are trimmed as a clause. -/
theorem Shown.under {x : Option Passage} {conditions : List Condition} {keyword : String}
    (opens : Text.Opens keyword) (shown : Shown x (Condition.join conditions).sql) :
    ∀ e ∈ Passage.clause x, e.Stands (Text.trim (Condition.under keyword conditions).sql) := by
  unfold Condition.under
  cases x with
  | none => exact nofun
  | some p =>
    dsimp only
    rw [if_neg shown.1]
    exact shown.2.behindKeyword (opens.append " ")

end SqlCompose
