import SqlCompose.Proofs.Placeholders.Closed

/-!
# Trimming templates

Blanks at the ends of a text are dropped in the same way from a template, as a spelled value never
starts or ends with one. So a template can be trimmed before it is decided how values are written,
and it stays closed and keeps its values.
-/
namespace SqlCompose

theorem Text.dropBlank_eq_of_solid {s : String} (solid : Solid s) : dropBlank s.toList = s.toList := by
  have whole : trimBlank s.toList = s.toList := by
    rw [← String.ofList_inj, String.ofList_toList]
    exact solid.2
  have front := List.dropWhile_sublist Text.isBlank (l := s.toList)
  have back := (List.rdropWhile_prefix Text.isBlank (dropBlank s.toList)).length_le
  have lengths : (trimBlank s.toList).length ≤ (dropBlank s.toList).length := back
  rw [whole] at lengths
  exact front.eq_of_length_le lengths

/-- A solid text starts with a character that is not blank. -/
theorem Text.Solid.first {s : String} (solid : Solid s) :
    ∃ c cs, s.toList = c :: cs ∧ isBlank c = false := by
  have front := Text.dropBlank_eq_of_solid solid
  cases chars : s.toList with
  | nil => exact absurd (String.toList_eq_nil_iff.mp chars) solid.1
  | cons c cs =>
    rw [chars] at front
    have shown := List.dropWhile_eq_self_iff.mp front (by simp)
    exact ⟨c, cs, rfl, by simpa using shown⟩

theorem Text.Solid.last {s : String} (solid : Solid s) :
    ∃ cs c, s.toList = cs ++ [c] ∧ isBlank c = false := by
  have front := Text.dropBlank_eq_of_solid solid
  have whole : (s.toList).rdropWhile isBlank = s.toList := by
    have trimmed : trimBlank s.toList = s.toList := by
      rw [← String.ofList_inj, String.ofList_toList]
      exact solid.2
    unfold trimBlank at trimmed
    rwa [front] at trimmed
  have some_char : s.toList ≠ [] := mt String.toList_eq_nil_iff.mp solid.1
  refine ⟨s.toList.dropLast, s.toList.getLast some_char, (List.dropLast_append_getLast _).symm, ?_⟩
  have last := List.rdropWhile_eq_self_iff.mp whole some_char
  simpa using last

namespace Template

variable {quote : Char} {spell : Value → String}

theorem dropBlank_write (solid : ∀ v, Text.Solid (spell v)) (t : List Piece) :
    Text.dropBlank (write spell t) = write spell (t.dropWhile Piece.isBlank) := by
  induction t with
  | nil => rfl
  | cons p t ih =>
    cases p with
    | char c =>
      by_cases blank : Text.isBlank c = true
      · simpa [write, Text.dropBlank, Piece.isBlank, blank] using ih
      · simp [write, Text.dropBlank, Piece.isBlank, blank]
    | value v =>
      obtain ⟨c, cs, chars, shown⟩ := (solid v).first
      simp [write, Text.dropBlank, Piece.isBlank, chars, shown]

theorem dropBlankEnd_write (solid : ∀ v, Text.Solid (spell v)) (t : List Piece) :
    Text.dropBlankEnd (write spell t) = write spell (t.rdropWhile Piece.isBlank) := by
  show (write spell t).rdropWhile Text.isBlank = _
  induction t using List.reverseRecOn with
  | nil => rfl
  | append_singleton t p ih =>
    rw [write_append]
    cases p with
    | char c =>
      by_cases blank : Text.isBlank c = true
      · rw [List.rdropWhile_concat_pos _ _ _ (by simpa [Piece.isBlank] using blank)]
        exact (List.rdropWhile_concat_pos _ _ _ blank).trans ih
      · rw [List.rdropWhile_concat_neg _ _ _ (by simpa [Piece.isBlank] using blank), write_append]
        exact List.rdropWhile_concat_neg _ _ _ blank
    | value v =>
      obtain ⟨cs, c, chars, shown⟩ := (solid v).last
      rw [List.rdropWhile_concat_neg _ _ _ (by simp [Piece.isBlank]), write_append]
      simp only [write, chars, List.append_nil]
      rw [← List.append_assoc]
      exact List.rdropWhile_concat_neg _ _ _ (by simp [shown])

/-- The template without blanks at its ends. -/
def trim (t : List Piece) : List Piece := (t.dropWhile Piece.isBlank).rdropWhile Piece.isBlank

theorem trimBlank_write (solid : ∀ v, Text.Solid (spell v)) (t : List Piece) :
    Text.trimBlank (write spell t) = write spell (trim t) := by
  unfold Text.trimBlank
  rw [dropBlank_write solid, dropBlankEnd_write solid]
  rfl

theorem write_eq_nil_iff (solid : ∀ v, Text.Solid (spell v)) (t : List Piece) :
    write spell t = [] ↔ t = [] := by
  cases t with
  | nil => simp [write]
  | cons p t =>
    cases p with
    | char c => simp [write]
    | value v => simp [write, (solid v).1]

theorem values_dropWhile (t : List Piece) : values (t.dropWhile Piece.isBlank) = values t := by
  induction t with
  | nil => rfl
  | cons p t ih =>
    cases p with
    | char c =>
      by_cases blank : Text.isBlank c = true
      · simpa [Piece.isBlank, blank, values] using ih
      · simp [Piece.isBlank, blank]
    | value v => simp [Piece.isBlank]

theorem values_rdropWhile (t : List Piece) : values (t.rdropWhile Piece.isBlank) = values t := by
  induction t using List.reverseRecOn with
  | nil => rfl
  | append_singleton t p ih =>
    by_cases blank : p.isBlank = true
    · rw [List.rdropWhile_concat_pos _ _ _ blank, ih, values_append]
      cases p with
      | char c => simp [values]
      | value v => cases blank
    · rw [List.rdropWhile_concat_neg _ _ _ blank]

theorem values_trim (t : List Piece) : values (trim t) = values t := by
  rw [trim, values_rdropWhile, values_dropWhile]

/-- Blanks neither quote nor mark a placeholder. -/
def BlanksOrdinary (quote : Char) : Prop := ∀ c, Text.isBlank c = true → Ordinary quote c

theorem Closed.dropWhile {t : List Piece} (blanks : BlanksOrdinary quote) (closed : Closed quote t) :
    Closed quote (t.dropWhile Piece.isBlank) := by
  induction t with
  | nil => exact closed
  | cons p t ih =>
    by_cases blank : p.isBlank = true
    · rw [List.dropWhile_cons_of_pos blank]
      cases p with
      | char c =>
        obtain ⟨e, walked, ends⟩ := closed
        rw [walk_ordinary (s := .plain) t (blanks c blank) trivial] at walked
        exact ih ⟨e, walked, ends⟩
      | value v => cases blank
    · rwa [List.dropWhile_cons_of_neg blank]

theorem Closed.rdropWhile {t : List Piece} (blanks : BlanksOrdinary quote)
    (closed : Closed quote t) : Closed quote (t.rdropWhile Piece.isBlank) := by
  induction t using List.reverseRecOn with
  | nil => exact closed
  | append_singleton t p ih =>
    by_cases blank : p.isBlank = true
    · rw [List.rdropWhile_concat_pos _ _ _ blank]
      cases p with
      | char c =>
        obtain ⟨e, walked, ends⟩ := closed
        rw [walk_append] at walked
        obtain ⟨e', walked', step⟩ := Option.bind_eq_some_iff.mp walked
        have ordinary := blanks c blank
        refine ih ⟨e', walked', ?_⟩
        -- a blank inside a name or behind a single question mark would not end in the open
        cases e' with
        | plain => trivial
        | slot => trivial
        | escape => simp [walk_cons, Spot.next, ordinary.2] at step
        | inside =>
          simp only [walk_cons, Spot.next, if_neg ordinary.1, Option.bind_some, walk_nil] at step
          cases step
          exact ends
      | value v => cases blank
    · rwa [List.rdropWhile_concat_neg _ _ _ blank]

theorem Closed.trim {t : List Piece} (blanks : BlanksOrdinary quote) (closed : Closed quote t) :
    Closed quote (trim t) :=
  (closed.dropWhile blanks).rdropWhile blanks

end Template
end SqlCompose
