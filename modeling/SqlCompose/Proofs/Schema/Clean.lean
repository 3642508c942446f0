import SqlCompose.Proofs.Outcome
import SqlCompose.Proofs.Quoting.Reader
import SqlCompose.Schema.Column

/-!
# Clean texts

Statements on tables bind no values: every name, comment and default is spelled into the text. A text is
clean when each quoted name and each string literal in it is ended, and nothing but letters, digits and a
few signs stands outside them. Clean texts can be put together in any way, also where a literal follows
another quote.
-/
namespace SqlCompose

open Quotation

/-- The characters that may stand outside of names and literals. -/
def harmless (c : Char) : Bool :=
  c.isAlphanum || ['_', ' ', '(', ')', ',', '.', '=', '*'].contains c

namespace Quotation

variable {w : Quotation}

/-- In its quotes, a text is read to the end if its quotes and its backslashes are doubled. -/
theorem walk_escaped {quote : Char} (apart : quote ≠ '\\') (escapes : w.escapes quote = true)
    (cs : List Char) :
    w.walk (.inside quote) (Text.doubled quote (Text.doubled '\\' cs)) = .inside quote ∧
      w.outlineFrom (.inside quote) (Text.doubled quote (Text.doubled '\\' cs)) = [] := by
  induction cs with
  | nil => exact ⟨rfl, rfl⟩
  | cons c cs ih =>
    by_cases slash : c = '\\'
    · simpa [Text.doubled, Text.replaceChar, slash, apart.symm, outlineFrom, next, escapes] using ih
    · by_cases same : c = quote
      · simpa [Text.doubled, Text.replaceChar, slash, same, apart, outlineFrom, next] using ih
      · simpa [Text.doubled, Text.replaceChar, slash, same, outlineFrom, next] using ih

/-- From a clear place a text is read as from the start, but a quote there may take up a quoted text again,
which leaves out its mark. -/
theorem outlineFrom_clear {p : Place} (clear : w.Clear p) {cs : List Char} (closed : w.Closed cs) :
    w.Clear (w.walk p cs) ∧ (w.outlineFrom p cs = w.outlineFrom .outside cs ∨
      none :: w.outlineFrom p cs = w.outlineFrom .outside cs) := by
  cases clear with
  | outside => exact ⟨closed, .inl rfl⟩
  | @behind quote opens =>
    cases cs with
    | nil => exact ⟨.behind opens, .inl rfl⟩
    | cons c cs =>
      unfold Closed at closed
      by_cases same : c = quote
      · subst same
        simp only [walk_cons, outlineFrom, next, opens, if_true] at closed ⊢
        exact ⟨closed, .inr rfl⟩
      · have alike : w.next (.behind quote) c = w.next .outside c := by simp only [next, if_neg same]
        rw [walk_cons, outlineFrom, outlineFrom, alike]
        exact ⟨closed, .inl rfl⟩

end Quotation

namespace SchemaDialect

variable (d : SchemaDialect)

/-- Names in the quotes of the database, and string literals, in which MySQL escapes by a backslash. -/
def quotation : Quotation where
  opens c := c == d.quoter.quote || c == '\''
  escapes c := d.database == .mySql && c == '\''

/-- Every name and literal is ended, and what stands outside them is harmless. -/
def Clean (s : String) : Prop :=
  d.quotation.Closed s.toList ∧ ∀ c, some c ∈ d.quotation.outline s → harmless c = true

variable {d}

theorem Clean.append {s t : String} (left : d.Clean s) (right : d.Clean t) : d.Clean (s ++ t) := by
  obtain ⟨closed, marks⟩ := outlineFrom_clear left.1 right.1
  unfold Clean Closed outline
  rw [String.toList_append, walk_append, outlineFrom_append]
  refine ⟨closed, fun c member => ?_⟩
  rcases List.mem_append.mp member with front | back
  · exact left.2 c front
  · apply right.2 c
    unfold outline
    rcases marks with same | less
    · exact same ▸ back
    · exact less ▸ List.mem_cons_of_mem none back

/-- A harmless character quotes nothing. -/
theorem opens_harmless {c : Char} (known : harmless c = true) : d.quotation.opens c = false := by
  have apart (e : Char) (quote : harmless e = false) : c ≠ e := by
    rintro rfl
    rw [known] at quote
    cases quote
  have literal := apart '\'' (by decide)
  have name : c ≠ d.quoter.quote := by
    unfold quoter
    cases d.database with
    | mySql => exact apart '\x60' (by decide)
    | postgres => exact apart '"' (by decide)
  simp [quotation, literal, name]

/-- A text of harmless characters is its own outline. -/
theorem outline_chars {s : String} (known : ∀ c ∈ s.toList, harmless c = true) :
    d.quotation.Closed s.toList ∧ d.quotation.outline s = s.toList.map some := by
  have plain : ∀ c ∈ s.toList, d.quotation.opens c = false := fun c member =>
    opens_harmless (known c member)
  exact ⟨closed_plain plain, outline_plain plain⟩

theorem clean_chars {s : String} (known : ∀ c ∈ s.toList, harmless c = true) : d.Clean s := by
  obtain ⟨closed, shown⟩ := outline_chars (d := d) known
  refine ⟨closed, fun c member => ?_⟩
  rw [shown] at member
  exact known c (by simpa using member)

/-- A fixed text; its characters are looked through. -/
theorem clean_fixed {cs : List Char} (known : cs.all harmless = true) : d.Clean (String.ofList cs) :=
  clean_chars (by simpa using known)

theorem Clean.fixed {s : String} {cs : List Char} (clean : d.Clean s)
    (known : cs.all harmless = true) : d.Clean (s ++ String.ofList cs) :=
  clean.append (clean_fixed known)

theorem Clean.lead {s : String} {cs : List Char} (clean : d.Clean s)
    (known : cs.all harmless = true) : d.Clean (String.ofList cs ++ s) :=
  (clean_fixed known).append clean

theorem Clean.between {s : String} {cs cs' : List Char} (clean : d.Clean s)
    (front : cs.all harmless = true) (back : cs'.all harmless = true) :
    d.Clean (String.ofList cs ++ s ++ String.ofList cs') :=
  (clean.lead front).fixed back

theorem clean_empty : d.Clean "" := clean_fixed rfl

theorem harmless_number (n : Nat) : ∀ c ∈ (toString n).toList, harmless c = true := by
  intro c member
  have digit := Text.isDigit_of_mem_toString member
  simp [harmless, Char.isAlphanum, digit]

theorem clean_number (n : Nat) : d.Clean (toString n) := clean_chars (harmless_number n)

theorem harmless_bareWord (setting : Setting) (s : String) :
    Yields (fun s => ∀ c ∈ s.toList, harmless c = true ∧ c ≠ ' ') (bareWord setting s) := by
  unfold bareWord
  split
  · next word =>
    refine .ok fun c member => ?_
    have letter := List.all_eq_true.mp word.2 c member
    simp only [Bool.or_eq_true, beq_iff_eq] at letter
    rcases letter with letter | rfl
    · refine ⟨by simp [harmless, letter], ?_⟩
      rintro rfl
      cases letter
    · decide
  · exact .error _

theorem clean_bareWord (setting : Setting) (s : String) : Yields d.Clean (bareWord setting s) :=
  (harmless_bareWord setting s).mono fun _ known => clean_chars fun c member => (known c member).1

/-! ## Names and literals -/

theorem opens_quote : d.quotation.opens d.quoter.quote = true := by simp [quotation]

theorem escapes_quote : d.quotation.escapes d.quoter.quote = false := by
  cases database : d.database <;> simp [quotation, quoter, database]

/-- A part of a name is one quoted text, or the star. -/
theorem outline_part (s : String) :
    d.quotation.outline (d.quoter.part s) = [if s = "*" then some '*' else none] := by
  unfold Quoter.part
  split
  · next star =>
    have known : ∀ c ∈ s.toList, harmless c = true := by
      intro c member
      obtain rfl : c = '*' := by simpa [star] using member
      rfl
    rw [(outline_chars known).2, star]
    rfl
  · exact outline_quoted opens_quote escapes_quote s

theorem closed_part (s : String) : d.quotation.Closed (d.quoter.part s).toList := by
  unfold Quoter.part
  split
  · next star =>
    have clean : d.Clean "*" := clean_fixed rfl
    rw [star]
    exact clean.1
  · exact closed_quoted opens_quote escapes_quote s

theorem clean_part (s : String) : d.Clean (d.quoter.part s) := by
  refine ⟨closed_part s, fun c member => ?_⟩
  rw [outline_part, List.mem_singleton] at member
  split at member <;> cases member
  rfl

/-- A literal is one quoted text. -/
theorem literal_read (s : String) : d.quotation.Closed (d.literal s).toList ∧
    d.quotation.outline (d.literal s) = [none] := by
  have opens : d.quotation.opens '\'' = true := by simp [quotation]
  cases database : d.database with
  | postgres =>
    have bare : d.quotation.escapes '\'' = false := by simp [quotation, database]
    simp only [literal, database]
    exact ⟨closed_quoted opens bare s, outline_quoted opens bare s⟩
  | mySql =>
    have escapes : d.quotation.escapes '\'' = true := by simp [quotation, database]
    have step : d.quotation.next .outside '\'' = (.inside '\'', [none]) := by simp [next, opens]
    obtain ⟨walked, shown⟩ := walk_escaped (by decide : '\'' ≠ '\\') escapes s.toList
    simp only [literal, database, Text.backslashLiteral, Text.literal, Text.quoted]
    unfold Closed outline
    rw [String.toList_ofList, String.toList_ofList, walk_cons, walk_append, outlineFrom,
      outlineFrom_append, step, walked, shown]
    constructor
    · simpa [next] using .behind opens
    · simp [outlineFrom, next]

theorem clean_literal (s : String) : d.Clean (d.literal s) := by
  obtain ⟨closed, shown⟩ := literal_read (d := d) s
  refine ⟨closed, fun c member => ?_⟩
  rw [shown] at member
  simp at member

end SchemaDialect
end SqlCompose
