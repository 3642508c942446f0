import SqlCompose.Error

/-!
# How computations end

Two computations fail with one error or succeed with related results. The relation goes through
sequencing, so a function written step by step is related to another one step by step. The same holds
of a property of the result of one computation, and of the condition under which it fails.
-/
namespace SqlCompose

theorem bind_success {α β : Type} {x : Except CompileError α} {f : α → Except CompileError β} {b : β}
    (h : (x >>= f) = .ok b) : ∃ a, x = .ok a ∧ f a = .ok b := by
  cases x with
  | error e => cases h
  | ok a => exact ⟨a, rfl, h⟩

theorem bind_error_iff {α β : Type} {x : Except CompileError α} {f : α → Except CompileError β}
    {e : CompileError} :
    (x >>= f) = .error e ↔ x = .error e ∨ ∃ a, x = .ok a ∧ f a = .error e := by
  cases x with
  | error cause =>
    show Except.error cause = _ ↔ _
    simp
  | ok a =>
    show f a = _ ↔ _
    simp

theorem map_error_iff {α β : Type} {x : Except CompileError α} {f : α → β} {e : CompileError} :
    (do return f (← x)) = .error e ↔ x = .error e := by
  cases x with
  | error cause =>
    show Except.error cause = Except.error e ↔ _
    simp
  | ok a =>
    show Except.ok (f a) = .error e ↔ _
    simp

theorem success_of_toOption {α β : Type} {x : Except CompileError α} {g : α → β} {b : β}
    (h : x.toOption.map g = some b) : ∃ a, x = .ok a ∧ g a = b := by
  cases x with
  | error e => cases h
  | ok a => exact ⟨a, rfl, Option.some.inj h⟩

theorem ok_of_toOption {α : Type} {x : Except CompileError α} {a : α} (h : x.toOption = some a) :
    x = .ok a := by
  cases x with
  | error e => cases h
  | ok b => exact congrArg Except.ok (Option.some.inj h)

inductive Outcome {α β : Type} (R : α → β → Prop) :
    Except CompileError α → Except CompileError β → Prop
  | ok {a : α} {b : β} (related : R a b) : Outcome R (.ok a) (.ok b)
  | error (e : CompileError) : Outcome R (.error e) (.error e)

namespace Outcome

variable {α β γ δ : Type} {R : α → β → Prop} {S : γ → δ → Prop}

theorem pure {a : α} {b : β} (related : R a b) :
    Outcome R (Pure.pure a) (Pure.pure b) := .ok related

theorem bind {x : Except CompileError α} {y : Except CompileError β}
    {f : α → Except CompileError γ} {g : β → Except CompileError δ} (first : Outcome R x y)
    (next : ∀ a b, R a b → Outcome S (f a) (g b)) : Outcome S (x >>= f) (y >>= g) := by
  cases first with
  | ok related => exact next _ _ related
  | error e => exact .error e

theorem map {x : Except CompileError α} {y : Except CompileError β} {f : α → γ} {g : β → δ}
    (first : Outcome R x y) (next : ∀ a b, R a b → S (f a) (g b)) :
    Outcome S (x.map f) (y.map g) := by
  cases first with
  | ok related => exact .ok (next _ _ related)
  | error e => exact .error e

/-- A success on the left side is one on the right side. -/
theorem of_ok {a : α} {y : Except CompileError β} (h : Outcome R (.ok a) y) :
    ∃ b, y = .ok b ∧ R a b := by
  cases h with
  | ok related => exact ⟨_, rfl, related⟩

end Outcome

/-- The result has the property, if there is one. -/
inductive Yields {α : Type} (P : α → Prop) : Except CompileError α → Prop
  | ok {a : α} (holds : P a) : Yields P (.ok a)
  | error (e : CompileError) : Yields P (.error e)

namespace Yields

variable {α β : Type} {P : α → Prop} {Q : β → Prop}

theorem of_success {x : Except CompileError α} (h : ∀ a, x = .ok a → P a) : Yields P x := by
  cases x with
  | error e => exact .error e
  | ok a => exact .ok (h a rfl)

theorem bind {x : Except CompileError α} {f : α → Except CompileError β} (first : Yields P x)
    (next : ∀ a, P a → Yields Q (f a)) : Yields Q (x >>= f) := by
  cases first with
  | ok holds => exact next _ holds
  | error e => exact .error e

theorem mono {x : Except CompileError α} {R : α → Prop} (h : Yields P x) (only : ∀ a, P a → R a) :
    Yields R x := by
  cases h with
  | ok holds => exact .ok (only _ holds)
  | error e => exact .error e

theorem of_ok {a : α} (h : Yields P (.ok a)) : P a := by
  cases h with
  | ok holds => exact holds

end Yields

/-- The computation fails just when the condition holds, and then with an error of the kind. -/
inductive FailsWhen {α : Type} (condition : Prop) (kind : CompileError → Prop) :
    Except CompileError α → Prop
  | ok {a : α} (clear : ¬ condition) : FailsWhen condition kind (.ok a)
  | error {e : CompileError} (met : condition) (cause : kind e) : FailsWhen condition kind (.error e)

namespace FailsWhen

variable {α β : Type} {P Q : Prop} {kind : CompileError → Prop}

theorem never (a : α) : FailsWhen False kind (.ok a) := .ok not_false

theorem congr {x : Except CompileError α} (fails : FailsWhen P kind x) (same : P ↔ Q) :
    FailsWhen Q kind x := propext same ▸ fails

/-- The kind of the error left open. -/
theorem anyhow {x : Except CompileError α} (fails : FailsWhen P kind x) :
    FailsWhen P (fun _ => True) x := by
  cases fails with
  | ok clear => exact .ok clear
  | error met _ => exact .error met trivial

/-- Two steps fail when either does. -/
theorem bind {x : Except CompileError α} {f : α → Except CompileError β}
    (first : FailsWhen P kind x) (next : ∀ a, FailsWhen Q kind (f a)) :
    FailsWhen (P ∨ Q) kind (x >>= f) := by
  cases first with
  | error met cause => exact .error (.inl met) cause
  | @ok a clear =>
    have rest := next a
    show FailsWhen (P ∨ Q) kind (f a)
    exact rest.congr ⟨.inr, fun met => met.resolve_left clear⟩

theorem map {x : Except CompileError α} {f : α → β} (first : FailsWhen P kind x) :
    FailsWhen P kind (do return f (← x)) :=
  (first.bind fun a => .never (f a)).congr (by simp)

theorem fails_iff {x : Except CompileError α} (fails : FailsWhen P kind x) :
    (∃ e, x = .error e) ↔ P := by
  cases fails with
  | ok clear =>
    constructor
    · rintro ⟨e, failed⟩
      cases failed
    · intro met
      exact absurd met clear
  | error met _ => exact ⟨fun _ => met, fun _ => ⟨_, rfl⟩⟩

theorem cause {e : CompileError} (fails : FailsWhen P kind (.error e : Except CompileError α)) :
    kind e := by
  cases fails with
  | error _ cause => exact cause

end FailsWhen
end SqlCompose
