import SqlCompose.Proofs.Congruence.Compatible
import SqlCompose.Proofs.Quoting.Reader

/-!
# Outlines

Trimming a text trims its outline, and the parentheses in the outline are those outside quotes. Two
fragments have the same outline when they differ at most inside quotes that both end; this goes through
putting fragments together as long as nothing but quotes of names opens a quoted text.
-/
namespace SqlCompose

namespace Quotation

variable {w : Quotation}

/-! ## Trimming -/

def blankItem : Option Char → Bool
  | some c => Text.isBlank c
  | none => false

theorem next_outside {p : Place} {c : Char} (out : (w.next p c).1 = .outside) :
    (w.next p c).2 = [some c] := by
  cases p with
  | outside =>
    simp only [next] at out ⊢
    split at out <;> simp_all
  | inside quote =>
    simp only [next] at out
    split at out
    · cases out
    · split at out <;> cases out
  | escaped quote => cases out
  | behind quote =>
    simp only [next] at out ⊢
    split at out
    · cases out
    · next apart =>
      rw [if_neg apart]
      split at out <;> simp_all

/-- What leads into quotes leaves a mark, unless the reader was in quotes already. -/
theorem next_quoted {p : Place} {c : Char} (quoted : (w.next p c).1 ≠ .outside) :
    (w.next p c).2 = [none] ∨ (w.next p c).2 = [] ∧ p ≠ .outside := by
  cases p with
  | outside =>
    simp only [next] at quoted ⊢
    split at quoted <;> simp_all
  | inside quote =>
    right
    simp only [next]
    split
    · simp
    · split <;> simp
  | escaped quote => simp [next]
  | behind quote =>
    simp only [next] at quoted ⊢
    split at quoted
    · next same => simp [same]
    · next apart =>
      rw [if_neg apart]
      split at quoted <;> simp_all

/-- In quotes and right behind them, the last thing in the outline is a mark. -/
theorem outlineFrom_quoted {cs : List Char} (quoted : w.walk .outside cs ≠ .outside) :
    ∃ items, w.outlineFrom .outside cs = items ++ [none] := by
  induction cs using List.reverseRecOn with
  | nil => exact absurd rfl quoted
  | append_singleton cs c ih =>
    rw [walk_append] at quoted
    rw [outlineFrom_append]
    rcases next_quoted quoted with mark | ⟨nothing, inner⟩
    · exact ⟨w.outlineFrom .outside cs, by simp [outlineFrom, mark]⟩
    · obtain ⟨items, ends⟩ := ih inner
      exact ⟨items, by simp [outlineFrom, nothing, ends]⟩

/-- The quote that the reader stands in or right behind. -/
def quote? : Place → Option Char
  | .outside => none
  | .inside quote | .escaped quote | .behind quote => some quote

theorem opens_of_next {p : Place} {c : Char} (opens : ∀ q, quote? p = some q → w.opens q = true) :
    ∀ q, quote? (w.next p c).1 = some q → w.opens q = true := by
  cases p with
  | outside =>
    simp only [next]
    split <;> simp_all [quote?]
  | inside quote =>
    simp only [next]
    split
    · simp_all [quote?]
    · split <;> simp_all [quote?]
  | escaped quote => simpa [next, quote?] using opens
  | behind quote =>
    simp only [next]
    split
    · simp_all [quote?]
    · split <;> simp_all [quote?]

theorem opens_of_walk (cs : List Char) :
    ∀ q, quote? (w.walk .outside cs) = some q → w.opens q = true := by
  induction cs using List.reverseRecOn with
  | nil => simp [quote?]
  | append_singleton cs c ih =>
    rw [walk_append]
    exact opens_of_next ih

/-- No quoted text ends at a character that does not quote. -/
theorem Closed.of_concat {cs : List Char} {c : Char} (plain : w.opens c = false)
    (closed : w.Closed (cs ++ [c])) : w.Closed cs := by
  have opens := opens_of_walk (w := w) cs
  unfold Closed at closed ⊢
  rw [walk_append, walk_cons, walk_nil] at closed
  generalize w.walk .outside cs = p at opens closed ⊢
  cases p with
  | outside => exact .outside
  | inside quote =>
    have apart : c ≠ quote := by
      rintro rfl
      simp [opens c rfl] at plain
    simp only [next, if_neg apart] at closed
    split at closed <;> cases closed
  | escaped quote => cases closed
  | behind quote => exact .behind (opens quote rfl)

section

variable (blanks : ∀ c, Text.isBlank c = true → w.opens c = false)

include blanks

theorem outlineFrom_dropBlank (cs : List Char) :
    w.outlineFrom .outside (Text.dropBlank cs) = (w.outlineFrom .outside cs).dropWhile blankItem := by
  unfold Text.dropBlank
  induction cs with
  | nil => rfl
  | cons c cs ih =>
    by_cases blank : Text.isBlank c = true
    · rw [List.dropWhile_cons_of_pos blank, ih, outlineFrom,
        next_clear .outside (blanks c blank)]
      exact (List.dropWhile_cons_of_pos (by simpa [blankItem] using blank)).symm
    · rw [List.dropWhile_cons_of_neg blank, outlineFrom]
      cases opens : w.opens c <;> simp [next, opens, blankItem, blank]

theorem Closed.dropBlank {cs : List Char} (closed : w.Closed cs) : w.Closed (Text.dropBlank cs) := by
  unfold Text.dropBlank
  induction cs with
  | nil => exact closed
  | cons c cs ih =>
    by_cases blank : Text.isBlank c = true
    · rw [List.dropWhile_cons_of_pos blank]
      unfold Closed at closed
      rw [walk_cons, next_clear .outside (blanks c blank)] at closed
      exact ih closed
    · rwa [List.dropWhile_cons_of_neg blank]

theorem Closed.dropBlankEnd {cs : List Char} (closed : w.Closed cs) :
    w.Closed (Text.dropBlankEnd cs) := by
  show w.Closed (cs.rdropWhile Text.isBlank)
  induction cs using List.reverseRecOn with
  | nil => exact closed
  | append_singleton cs c ih =>
    by_cases blank : Text.isBlank c = true
    · rw [List.rdropWhile_concat_pos _ _ _ blank]
      exact ih (closed.of_concat (blanks c blank))
    · rwa [List.rdropWhile_concat_neg _ _ _ blank]

theorem outlineFrom_dropBlankEnd {cs : List Char} (closed : w.Closed cs) :
    w.outlineFrom .outside (Text.dropBlankEnd cs) =
      (w.outlineFrom .outside cs).rdropWhile blankItem := by
  show w.outlineFrom .outside (cs.rdropWhile Text.isBlank) = _
  induction cs using List.reverseRecOn with
  | nil => rfl
  | append_singleton cs c ih =>
    by_cases blank : Text.isBlank c = true
    · have inner := closed.of_concat (blanks c blank)
      rw [List.rdropWhile_concat_pos _ _ _ blank, ih inner, outlineFrom_append, outlineFrom,
        next_clear inner (blanks c blank)]
      exact (List.rdropWhile_concat_pos _ _ _ (by simpa [blankItem] using blank)).symm
    · rw [List.rdropWhile_concat_neg _ _ _ blank]
      by_cases out : w.walk .outside (cs ++ [c]) = .outside
      · rw [walk_append, walk_cons, walk_nil] at out
        rw [outlineFrom_append, outlineFrom, next_outside out]
        exact (List.rdropWhile_concat_neg _ _ _ (by simpa [blankItem] using blank)).symm
      · obtain ⟨items, ends⟩ := outlineFrom_quoted out
        rw [ends]
        exact (List.rdropWhile_concat_neg _ _ _ (by simp [blankItem])).symm

end

/-! ## Parentheses -/

/-- The number of open parentheses behind one more item; only an open one can be closed. -/
def deepen (n : Nat) (item : Option Char) : Option Nat :=
  if item = some '(' then some (n + 1)
  else if item = some ')' then if n = 0 then none else some (n - 1)
  else some n

def depth (n : Nat) (items : List (Option Char)) : Option Nat := items.foldlM deepen n

/-- Every parenthesis that is opened is closed, and no other one. -/
def Matched (items : List (Option Char)) : Prop := depth 0 items = some 0

instance (items : List (Option Char)) : Decidable (Matched items) :=
  inferInstanceAs (Decidable (depth 0 items = some 0))

@[simp] theorem depth_nil (n : Nat) : depth n [] = some n := rfl

theorem depth_cons (n : Nat) (item : Option Char) (items : List (Option Char)) :
    depth n (item :: items) = (deepen n item).bind fun m => depth m items := rfl

theorem depth_append (n : Nat) (xs ys : List (Option Char)) :
    depth n (xs ++ ys) = (depth n xs).bind fun m => depth m ys := List.foldlM_append ..

theorem deepen_add {n m : Nat} {item : Option Char} (step : deepen n item = some m) (k : Nat) :
    deepen (n + k) item = some (m + k) := by
  unfold deepen at step ⊢
  grind

theorem depth_add {n m : Nat} {items : List (Option Char)} (walked : depth n items = some m)
    (k : Nat) : depth (n + k) items = some (m + k) := by
  induction items generalizing n with
  | nil =>
    cases walked
    rfl
  | cons item items ih =>
    rw [depth_cons] at walked
    obtain ⟨e, step, walked⟩ := Option.bind_eq_some_iff.mp walked
    rw [depth_cons, deepen_add step, Option.bind_some]
    exact ih walked

theorem Matched.depth {items : List (Option Char)} (matched : Matched items) (n : Nat) :
    depth n items = some n := by
  simpa using depth_add matched n

theorem Matched.append {xs ys : List (Option Char)} (left : Matched xs) (right : Matched ys) :
    Matched (xs ++ ys) := by
  unfold Matched
  rw [depth_append, left, Option.bind_some]
  exact right

/-- What matches without a part in the middle matches with it. -/
theorem Matched.around {front back xs : List (Option Char)} (outer : Matched (front ++ back))
    (inner : Matched xs) : Matched (front ++ xs ++ back) := by
  unfold Matched at outer ⊢
  rw [depth_append] at outer
  obtain ⟨n, before, after⟩ := Option.bind_eq_some_iff.mp outer
  rw [depth_append, depth_append, before, Option.bind_some, inner.depth, Option.bind_some]
  exact after

/-- An item that is no parenthesis can be left out. -/
theorem deepen_level {item : Option Char} (opening : item ≠ some '(') (closing : item ≠ some ')')
    (n : Nat) : deepen n item = some n := by
  unfold deepen
  rw [if_neg opening, if_neg closing]

theorem deepen_blank {item : Option Char} (blank : blankItem item = true) (n : Nat) :
    deepen n item = some n := by
  apply deepen_level <;>
  · rintro rfl
    exact absurd blank (by decide)

theorem Matched.dropWhile {items : List (Option Char)} (matched : Matched items) :
    Matched (items.dropWhile blankItem) := by
  induction items with
  | nil => exact matched
  | cons item items ih =>
    by_cases blank : blankItem item = true
    · rw [List.dropWhile_cons_of_pos blank]
      unfold Matched at matched
      rw [depth_cons, deepen_blank blank, Option.bind_some] at matched
      exact ih matched
    · rwa [List.dropWhile_cons_of_neg blank]

theorem Matched.rdropWhile {items : List (Option Char)} (matched : Matched items) :
    Matched (items.rdropWhile blankItem) := by
  induction items using List.reverseRecOn with
  | nil => exact matched
  | append_singleton items item ih =>
    by_cases blank : blankItem item = true
    · rw [List.rdropWhile_concat_pos _ _ _ blank]
      unfold Matched at matched
      rw [depth_append] at matched
      obtain ⟨n, walked, last⟩ := Option.bind_eq_some_iff.mp matched
      rw [depth_cons, deepen_blank blank, Option.bind_some, depth_nil] at last
      exact ih (walked.trans last)
    · rwa [List.rdropWhile_concat_neg _ _ _ blank]

end Quotation
end SqlCompose
