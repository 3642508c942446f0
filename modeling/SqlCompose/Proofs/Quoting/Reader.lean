import Mathlib.Data.List.DropRight
import SqlCompose.Proofs.Fragments
import SqlCompose.Text.Quoted

/-!
# Reading quoted texts

A reader goes through a statement character by character and tells what stands in quotes from what
does not. Where a quoted text has ended, another quote of the same kind takes it up again, so that a
doubled quote stands for itself. The outline of a text is what stands outside quotes, with one mark in
the place of each quoted text.
-/
namespace SqlCompose

/-- The characters that quote, and those in whose quotes a backslash escapes the next character. -/
structure Quotation where
  opens : Char → Bool
  escapes : Char → Bool

/-- Where a reader stands. -/
inductive Place where
  | outside
  | inside (quote : Char)
  /-- Behind a backslash that escapes. -/
  | escaped (quote : Char)
  /-- Behind a quote that may have ended the quoted text. -/
  | behind (quote : Char)

namespace Quotation

variable (w : Quotation)

/-- The place behind one more character, and what the character adds to the outline. -/
def next : Place → Char → Place × List (Option Char)
  | .outside, c => if w.opens c then (.inside c, [none]) else (.outside, [some c])
  | .inside quote, c =>
    if c = quote then (.behind quote, [])
    else if c = '\\' ∧ w.escapes quote then (.escaped quote, [])
    else (.inside quote, [])
  | .escaped quote, _ => (.inside quote, [])
  | .behind quote, c =>
    if c = quote then (.inside quote, [])
    else if w.opens c then (.inside c, [none])
    else (.outside, [some c])

def walk (p : Place) (cs : List Char) : Place := cs.foldl (fun p c => (w.next p c).1) p

/-- The characters outside quotes, with a mark for each quoted text that begins. -/
def outlineFrom : Place → List Char → List (Option Char)
  | _, [] => []
  | p, c :: cs => (w.next p c).2 ++ outlineFrom (w.next p c).1 cs

def outline (s : String) : List (Option Char) := w.outlineFrom .outside s.toList

/-- A place where no quoted text is open. -/
inductive Clear : Place → Prop
  | outside : Clear .outside
  | behind {quote : Char} (opens : w.opens quote = true) : Clear (.behind quote)

/-- Every quoted text of the text is ended in it. -/
def Closed (cs : List Char) : Prop := w.Clear (w.walk .outside cs)

variable {w}

@[simp] theorem walk_nil (p : Place) : w.walk p [] = p := rfl

@[simp] theorem walk_cons (p : Place) (c : Char) (cs : List Char) :
    w.walk p (c :: cs) = w.walk (w.next p c).1 cs := rfl

theorem walk_append (p : Place) (a b : List Char) :
    w.walk p (a ++ b) = w.walk (w.walk p a) b := List.foldl_append ..

@[simp] theorem outlineFrom_nil (p : Place) : w.outlineFrom p [] = [] := rfl

theorem outlineFrom_append (p : Place) (a b : List Char) :
    w.outlineFrom p (a ++ b) = w.outlineFrom p a ++ w.outlineFrom (w.walk p a) b := by
  induction a generalizing p with
  | nil => rfl
  | cons c a ih => simp [outlineFrom, ih]

/-! ## Texts without quotes -/

/-- From a clear place, a character that does not quote is read as it stands. -/
theorem next_clear {p : Place} (clear : w.Clear p) {c : Char} (plain : w.opens c = false) :
    w.next p c = (.outside, [some c]) := by
  cases clear with
  | outside => simp [next, plain]
  | @behind quote opens =>
    have apart : c ≠ quote := by
      rintro rfl
      simp [opens] at plain
    simp [next, plain, apart]

theorem outlineFrom_plain {p : Place} (clear : w.Clear p) {cs : List Char}
    (plain : ∀ c ∈ cs, w.opens c = false) : w.outlineFrom p cs = cs.map some := by
  induction cs generalizing p with
  | nil => rfl
  | cons c cs ih =>
    have rest := ih .outside fun e member => plain e (by simp [member])
    simp [outlineFrom, next_clear clear (plain c (by simp)), rest]

theorem walk_plain {p : Place} (clear : w.Clear p) {cs : List Char}
    (plain : ∀ c ∈ cs, w.opens c = false) : w.Clear (w.walk p cs) := by
  induction cs generalizing p with
  | nil => exact clear
  | cons c cs ih =>
    rw [walk_cons, next_clear clear (plain c (by simp))]
    exact ih .outside fun e member => plain e (by simp [member])

/-- Behind a text without quotes, if there is any, the reader stands outside. -/
theorem walk_plain_cons {p : Place} (clear : w.Clear p) {c : Char} {cs : List Char}
    (plain : ∀ e ∈ c :: cs, w.opens e = false) : w.walk p (c :: cs) = .outside := by
  induction cs generalizing p c with
  | nil => rw [walk_cons, next_clear clear (plain c (by simp)), walk_nil]
  | cons e cs ih =>
    rw [walk_cons, next_clear clear (plain c (by simp))]
    exact ih .outside fun d member => plain d (by simp [member])

theorem walk_outside {cs : List Char} (plain : ∀ c ∈ cs, w.opens c = false) :
    w.walk .outside cs = .outside := by
  cases cs with
  | nil => rfl
  | cons c cs => exact walk_plain_cons .outside plain

theorem closed_plain {cs : List Char} (plain : ∀ c ∈ cs, w.opens c = false) : w.Closed cs :=
  walk_plain .outside plain

theorem outline_plain {s : String} (plain : ∀ c ∈ s.toList, w.opens c = false) :
    w.outline s = s.toList.map some := outlineFrom_plain .outside plain

/-! ## Texts put together -/

/-- A separator that does not quote keeps two texts apart. -/
theorem outlineFrom_parted {a b : List Char} {c : Char} {cs : List Char} (closed : w.Closed a)
    (plain : ∀ e ∈ c :: cs, w.opens e = false) :
    w.outlineFrom .outside (a ++ (c :: cs) ++ b) =
      w.outlineFrom .outside a ++ (c :: cs).map some ++ w.outlineFrom .outside b := by
  rw [outlineFrom_append, outlineFrom_append, walk_append, walk_plain_cons closed plain,
    outlineFrom_plain closed plain]

theorem Closed.parted {a b : List Char} {c : Char} {cs : List Char} (left : w.Closed a)
    (plain : ∀ e ∈ c :: cs, w.opens e = false) (right : w.Closed b) :
    w.Closed (a ++ (c :: cs) ++ b) := by
  unfold Closed
  rw [walk_append, walk_append, walk_plain_cons left plain]
  exact right

/-- A text with texts around it that do not quote. -/
theorem outlineFrom_around {front s back : List Char} (before : ∀ c ∈ front, w.opens c = false)
    (closed : w.Closed s) (after : ∀ c ∈ back, w.opens c = false) :
    w.outlineFrom .outside (front ++ s ++ back) =
      front.map some ++ w.outlineFrom .outside s ++ back.map some := by
  rw [outlineFrom_append, outlineFrom_append, walk_append, walk_outside before, outlineFrom_plain .outside before,
    outlineFrom_plain closed after]

theorem Closed.around {front s back : List Char} (before : ∀ c ∈ front, w.opens c = false)
    (closed : w.Closed s) (after : ∀ c ∈ back, w.opens c = false) :
    w.Closed (front ++ s ++ back) := by
  unfold Closed
  rw [walk_append, walk_append, walk_outside before]
  exact walk_plain closed after

/-! ## Quoted texts -/

/-- In its quotes, a text with each quote doubled is read to the end. -/
theorem walk_doubled {quote : Char} (bare : w.escapes quote = false) (cs : List Char) :
    w.walk (.inside quote) (Text.doubled quote cs) = .inside quote ∧
      w.outlineFrom (.inside quote) (Text.doubled quote cs) = [] := by
  induction cs with
  | nil => exact ⟨rfl, rfl⟩
  | cons c cs ih =>
    by_cases same : c = quote
    · simpa [Text.doubled, Text.replaceChar, same, outlineFrom, next] using ih
    · simpa [Text.doubled, Text.replaceChar, same, outlineFrom, next, bare] using ih

theorem walk_quoted {quote : Char} (opens : w.opens quote = true) (bare : w.escapes quote = false)
    (s : String) : w.walk .outside (Text.quoted quote s).toList = .behind quote := by
  unfold Text.quoted
  rw [String.toList_ofList, walk_cons, walk_append,
    show (w.next .outside quote).1 = .inside quote by simp [next, opens], (walk_doubled bare _).1]
  simp [next]

theorem closed_quoted {quote : Char} (opens : w.opens quote = true) (bare : w.escapes quote = false)
    (s : String) : w.Closed (Text.quoted quote s).toList := by
  unfold Closed
  rw [walk_quoted opens bare]
  exact .behind opens

/-- A quoted text is one mark, whatever its characters. -/
theorem outline_quoted {quote : Char} (opens : w.opens quote = true)
    (bare : w.escapes quote = false) (s : String) : w.outline (Text.quoted quote s) = [none] := by
  have step : w.next .outside quote = (.inside quote, [none]) := by simp [next, opens]
  unfold outline Text.quoted
  rw [String.toList_ofList, outlineFrom, step, outlineFrom_append, (walk_doubled bare _).1,
    (walk_doubled bare _).2]
  simp [outlineFrom, next]

end Quotation
end SqlCompose
