import Mathlib.Data.List.DropRight
import SqlCompose.Proofs.Fragments
import SqlCompose.Proofs.Placeholders.Reading

/-!
# Templates

A text with values in it, before it is decided how values are written. A template is closed when its
characters are read as they stand and each value is read as one placeholder, whatever closed template
follows behind a space: quoted names are closed again, question marks outside them come in pairs, and
nothing that could be taken for a part of a placeholder stands right behind one.
-/
namespace SqlCompose

inductive Piece where
  | char (c : Char)
  | value (v : Value)

namespace Piece

/-- The piece as it is read in a text with placeholders. -/
def mark : Piece → Option Char
  | char c => some c
  | value _ => none

def isBlank : Piece → Bool
  | char c => Text.isBlank c
  | value _ => false

end Piece

namespace Template

/-- The text of a template with its values written in some way. -/
def write (spell : Value → String) : List Piece → List Char
  | [] => []
  | .char c :: t => c :: write spell t
  | .value v :: t => (spell v).toList ++ write spell t

def values : List Piece → List Value
  | [] => []
  | .char _ :: t => values t
  | .value v :: t => v :: values t

/-- A template without values. -/
def ofChars (cs : List Char) : List Piece := cs.map .char

theorem write_append (spell : Value → String) (t u : List Piece) :
    write spell (t ++ u) = write spell t ++ write spell u := by
  induction t with
  | nil => rfl
  | cons p t ih => cases p <;> simp [write, ih]

theorem values_append (t u : List Piece) : values (t ++ u) = values t ++ values u := by
  induction t with
  | nil => rfl
  | cons p t ih => cases p <;> simp [values, ih]

@[simp] theorem write_ofChars (spell : Value → String) (cs : List Char) :
    write spell (ofChars cs) = cs := by
  induction cs with
  | nil => rfl
  | cons c cs ih => simpa [ofChars, write] using ih

@[simp] theorem values_ofChars (cs : List Char) : values (ofChars cs) = [] := by
  induction cs with
  | nil => rfl
  | cons c cs ih => simpa [ofChars, values] using ih

/-- Texts put in the places of the values are the template with its values so spelled. -/
theorem fill_marks (spell : Value → String) (t : List Piece) :
    Text.fill (t.map Piece.mark) ((values t).map spell) = write spell t := by
  induction t with
  | nil => rfl
  | cons p t ih => cases p <;> simp [Piece.mark, Text.fill, values, write, ih]

theorem count_marks (t : List Piece) : (t.map Piece.mark).count none = (values t).length := by
  induction t with
  | nil => rfl
  | cons p t ih => cases p <;> simp [Piece.mark, values, ih]

/-! ## Where a reader stands -/

/-- Outside names, right behind a value, behind the first of two question marks, in a name. -/
inductive Spot where
  | plain
  | slot
  | escape
  | inside

/-- One piece further; nothing if the piece would be read as something else there. -/
def Spot.next (quote : Char) : Spot → Piece → Option Spot
  | .plain, .char c =>
    some (if c = quote then .inside else if c = '?' then .escape else .plain)
  | .slot, .char c => if c = '?' then none else some (if c = quote then .inside else .plain)
  | .escape, .char c => if c = '?' then some .plain else none
  | .inside, .char c => some (if c = quote then .plain else .inside)
  | .plain, .value _ => some .slot
  | .slot, .value _ | .escape, .value _ | .inside, .value _ => none

def walk (quote : Char) (s : Spot) (t : List Piece) : Option Spot := t.foldlM (Spot.next quote) s

@[simp] theorem walk_nil (quote : Char) (s : Spot) : walk quote s [] = some s := rfl

theorem walk_cons (quote : Char) (s : Spot) (p : Piece) (t : List Piece) :
    walk quote s (p :: t) = (s.next quote p).bind fun e => walk quote e t := rfl

theorem walk_append (quote : Char) (s : Spot) (t u : List Piece) :
    walk quote s (t ++ u) = (walk quote s t).bind fun e => walk quote e u :=
  List.foldlM_append ..

/-- The spots in which a template may end. -/
def Spot.Open : Spot → Prop
  | .plain | .slot => True
  | .escape | .inside => False

/-- A template that is read as it is meant. -/
def Closed (quote : Char) (t : List Piece) : Prop := ∃ e, walk quote .plain t = some e ∧ e.Open

/-- What is read of a template with placeholders from a spot. -/
def Spot.Reads (quote : Char) : Spot → List Piece → Prop
  | .plain, t => Text.pieces quote false (write (fun _ => "?") t) = t.map Piece.mark
  | .slot, t => Text.pieces quote false (write (fun _ => "?") t) = t.map Piece.mark ∧
      ∀ rest, write (fun _ => "?") t ≠ '?' :: rest
  | .escape, t => ∃ rest, t = .char '?' :: rest ∧
      Text.pieces quote false (write (fun _ => "?") rest) = rest.map Piece.mark
  | .inside, t => Text.pieces quote true (write (fun _ => "?") t) = t.map Piece.mark

/-- A character outside names that is no question mark. -/
theorem pieces_char {quote c : Char} {t : List Piece} (ordinary : c ≠ '?')
    (rest : (if c = quote then Spot.inside else Spot.plain).Reads quote t) :
    Text.pieces quote false (c :: write (fun _ => "?") t) = some c :: t.map Piece.mark := by
  rw [Text.pieces_plain quote _ ordinary]
  by_cases opens : c = quote
  · rw [if_pos opens] at rest
    rw [decide_eq_true opens]
    exact congrArg (some c :: ·) rest
  · rw [if_neg opens] at rest
    rw [decide_eq_false opens]
    exact congrArg (some c :: ·) rest

/-- One piece further the rest is read from the next spot. -/
theorem reads_of_next {quote : Char} (ordinary : quote ≠ '?') {s next : Spot} {p : Piece}
    {t : List Piece} (step : s.next quote p = some next) (rest : next.Reads quote t) :
    s.Reads quote (p :: t) := by
  cases p with
  | char c =>
    cases s with
    | plain =>
      cases Option.some.inj step
      by_cases mark : c = '?'
      · subst mark
        rw [if_neg ordinary.symm, if_pos rfl] at rest
        obtain ⟨u, rfl, read⟩ := rest
        exact congrArg (some '?' :: some '?' :: ·) read
      · rw [if_neg mark] at rest
        exact pieces_char mark rest
    | slot =>
      by_cases mark : c = '?'
      · simp [Spot.next, mark] at step
      · simp only [Spot.next, if_neg mark] at step
        cases Option.some.inj step
        exact ⟨pieces_char mark rest, by simp [write, mark]⟩
    | escape =>
      by_cases mark : c = '?'
      · simp only [Spot.next, if_pos mark] at step
        cases Option.some.inj step
        exact ⟨t, by rw [mark], rest⟩
      · simp [Spot.next, mark] at step
    | inside =>
      cases Option.some.inj step
      show Text.pieces quote true (c :: _) = _
      rw [Text.pieces_inside]
      by_cases closes : c = quote
      · rw [if_pos closes] at rest
        rw [decide_eq_false (not_not_intro closes)]
        exact congrArg (some c :: ·) rest
      · rw [if_neg closes] at rest
        rw [decide_eq_true closes]
        exact congrArg (some c :: ·) rest
  | value v =>
    cases s with
    | plain =>
      cases Option.some.inj step
      obtain ⟨read, apart⟩ := rest
      have placeholder := Text.pieces_placeholder quote apart
      rw [read] at placeholder
      simpa [Spot.Reads, write, Piece.mark] using placeholder
    | slot => cases step
    | escape => cases step
    | inside => cases step

/-- A template that can be walked is read as it is meant. -/
theorem reads_of_walk {quote : Char} (ordinary : quote ≠ '?') {s e : Spot} {t : List Piece}
    (walked : walk quote s t = some e) (ends : e.Open) : s.Reads quote t := by
  induction t generalizing s with
  | nil =>
    have here : s = e := Option.some.inj walked
    subst here
    cases s with
    | plain => rfl
    | slot => exact ⟨rfl, by simp [write]⟩
    | escape => exact ends.elim
    | inside => exact ends.elim
  | cons p t ih =>
    rw [walk_cons] at walked
    obtain ⟨next, step, walked⟩ := Option.bind_eq_some_iff.mp walked
    exact reads_of_next ordinary step (ih walked)

theorem Closed.reads {quote : Char} (ordinary : quote ≠ '?') {t : List Piece}
    (closed : Closed quote t) :
    Text.pieces quote false (write (fun _ => "?") t) = t.map Piece.mark := by
  obtain ⟨e, walked, ends⟩ := closed
  exact reads_of_walk ordinary walked ends

end Template
end SqlCompose
