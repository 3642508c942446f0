import SqlCompose.Proofs.Placeholders.Template

/-!
# Closed templates

Which templates are closed: texts that leave placeholders alone, a single value, trusted SQL with its
values, and what is put together from closed templates with an ordinary character between them, or
trimmed.
-/
namespace SqlCompose.Template

variable {quote : Char}

/-- A character that neither quotes nor marks a placeholder. -/
def Ordinary (quote c : Char) : Prop := c ≠ quote ∧ c ≠ '?'

/-- A text after which a reader is where it was before. -/
def Neutral (quote : Char) (s : String) : Prop :=
  walk quote .plain (ofChars s.toList) = some .plain

theorem walk_ordinary {s : Spot} {c : Char} (t : List Piece) (ordinary : Ordinary quote c)
    (start : s.Open) : walk quote s (.char c :: t) = walk quote .plain t := by
  rw [walk_cons]
  cases s with
  | plain => simp [Spot.next, ordinary.1, ordinary.2]
  | slot => simp [Spot.next, ordinary.1, ordinary.2]
  | escape => exact start.elim
  | inside => exact start.elim

theorem closed_nil : Closed quote [] := ⟨.plain, rfl, trivial⟩

theorem closed_value (v : Value) : Closed quote [.value v] := ⟨.slot, rfl, trivial⟩

theorem Neutral.closed {s : String} (neutral : Neutral quote s) :
    Closed quote (ofChars s.toList) := ⟨.plain, neutral, trivial⟩

/-- An ordinary character keeps two templates apart. -/
theorem Closed.spaced {t u : List Piece} {c : Char} (left : Closed quote t)
    (ordinary : Ordinary quote c) (right : Closed quote u) : Closed quote (t ++ .char c :: u) := by
  obtain ⟨e, walked, ends⟩ := left
  obtain ⟨e', walked', ends'⟩ := right
  refine ⟨e', ?_, ends'⟩
  rw [walk_append, walked, Option.bind_some, walk_ordinary u ordinary ends, walked']

/-- A neutral text in front changes nothing. -/
theorem Closed.behind {s : String} {t : List Piece} (front : Neutral quote s)
    (closed : Closed quote t) : Closed quote (ofChars s.toList ++ t) := by
  obtain ⟨e, walked, ends⟩ := closed
  refine ⟨e, ?_, ends⟩
  rw [walk_append, front, Option.bind_some, walked]

/-- Only a value leaves the reader behind a value. -/
theorem walk_chars_ne_slot {s e : Spot} {cs : List Char} (start : s ≠ .slot)
    (walked : walk quote s (ofChars cs) = some e) : e ≠ .slot := by
  induction cs generalizing s with
  | nil => exact Option.some.inj walked ▸ start
  | cons c cs ih =>
    obtain ⟨next, step, walked⟩ := Option.bind_eq_some_iff.mp walked
    refine ih ?_ walked
    rintro rfl
    cases s <;> grind [Spot.next]

theorem Closed.neutral {s : String} (closed : Closed quote (ofChars s.toList)) :
    Neutral quote s := by
  obtain ⟨e, walked, ends⟩ := closed
  have apart := walk_chars_ne_slot (by simp) walked
  cases e with
  | plain => exact walked
  | slot => exact absurd rfl apart
  | escape => exact ends.elim
  | inside => exact ends.elim

/-- Text without quotes and question marks. -/
theorem neutral_of_ordinary {s : String} (ordinary : ∀ c ∈ s.toList, Ordinary quote c) :
    Neutral quote s := by
  have each : ∀ cs : List Char, (∀ c ∈ cs, Ordinary quote c) →
      walk quote .plain (ofChars cs) = some .plain := by
    intro cs
    induction cs with
    | nil => exact fun _ => rfl
    | cons c cs ih =>
      intro all
      have first := walk_ordinary (s := .plain) (ofChars cs) (all c (by simp)) trivial
      exact first.trans (ih fun e member => all e (by simp [member]))
  exact each _ ordinary

/-- A text in quotes, each quote in it written twice. -/
theorem neutral_quoted (s : String) : Neutral quote (Text.quoted quote s) := by
  have inner : ∀ cs : List Char,
      walk quote .inside (ofChars (Text.doubled quote cs ++ [quote])) = some .plain := by
    intro cs
    induction cs with
    | nil => simp [Text.doubled, ofChars, walk_cons, Spot.next]
    | cons c cs ih =>
      by_cases same : c = quote
      · simpa [Text.doubled, Text.replaceChar, same, ofChars, walk_cons, Spot.next] using ih
      · simpa [Text.doubled, Text.replaceChar, same, ofChars, walk_cons, Spot.next] using ih
  simpa [Neutral, Text.quoted, ofChars, walk_cons, Spot.next] using inner s.toList

/-- A text in which every question mark is written twice. -/
theorem neutral_escaped {cs : List Char} (unquoted : quote ∉ cs) (ordinary : quote ≠ '?') :
    Neutral quote (String.ofList (Text.replaceChar '?' ['?', '?'] cs)) := by
  unfold Neutral
  rw [String.toList_ofList]
  induction cs with
  | nil => rfl
  | cons c cs ih =>
    rw [List.mem_cons, not_or] at unquoted
    have rest := ih unquoted.2
    by_cases mark : c = '?'
    · simpa [Text.replaceChar, mark, ofChars, walk_cons, Spot.next, ordinary.symm] using rest
    · simpa [Text.replaceChar, mark, ofChars, walk_cons, Spot.next, Ne.symm unquoted.1] using rest

/-- A text without quotes and question marks behind a closed template. -/
theorem Closed.followed {s : String} {t : List Piece} (closed : Closed quote t)
    (ordinary : ∀ c ∈ s.toList, Ordinary quote c) : Closed quote (t ++ ofChars s.toList) := by
  generalize s.toList = cs at ordinary
  induction cs generalizing t with
  | nil => simpa [ofChars] using closed
  | cons c cs ih =>
    have first : Closed quote (t ++ [.char c]) := closed.spaced (ordinary c (by simp)) closed_nil
    have rest := ih first fun e member => ordinary e (by simp [member])
    simpa [ofChars] using rest

/-! ## Trusted SQL with its values -/

/-- The values stand at the question marks. -/
def ofClause : List Char → List Value → List Piece
  | [], _ => []
  | c :: cs, values =>
    if c = '?' then
      match values with
      | [] => .char c :: ofClause cs []
      | v :: rest => .value v :: ofClause cs rest
    else .char c :: ofClause cs values

theorem write_ofClause (cs : List Char) (vs : List Value) :
    write (fun _ => "?") (ofClause cs vs) = cs := by
  induction cs generalizing vs with
  | nil => rfl
  | cons c cs ih =>
    by_cases mark : c = '?'
    · cases vs <;> simp [ofClause, mark, write, ih]
    · simp [ofClause, mark, write, ih]

theorem write_ofClause_fill (spell : Value → String) (cs : List Char) (vs : List Value) :
    write spell (ofClause cs vs) =
      Text.fill (cs.map fun c => if c = '?' then none else some c) (vs.map spell) := by
  induction cs generalizing vs with
  | nil => rfl
  | cons c cs ih =>
    by_cases mark : c = '?'
    · cases vs <;> simp [ofClause, mark, write, Text.fill, ih]
    · simp [ofClause, mark, write, Text.fill, ih]

theorem values_ofClause {cs : List Char} {vs : List Value} (each : cs.count '?' = vs.length) :
    values (ofClause cs vs) = vs := by
  induction cs generalizing vs with
  | nil => simpa [ofClause, values, eq_comm] using each
  | cons c cs ih =>
    by_cases mark : c = '?'
    · cases vs with
      | nil => simp [mark] at each
      | cons v vs => simpa [ofClause, mark, values] using ih (by simpa [mark] using each)
    · simpa [ofClause, mark, values] using ih (by simpa [mark] using each)

theorem closed_ofClause {cs : List Char} {vs : List Value} (unquoted : quote ∉ cs)
    (single : ¬ ['?', '?'] <:+: cs) (each : cs.count '?' = vs.length) :
    Closed quote (ofClause cs vs) := by
  -- behind a value no question mark follows, so the walk goes on from there as from anywhere
  have walked : ∀ s : Spot, s.Open → (s = .slot → ∀ rest, cs ≠ '?' :: rest) →
      ∃ e, walk quote s (ofClause cs vs) = some e ∧ e.Open := by
    induction cs generalizing vs with
    | nil => exact fun s start _ => ⟨s, rfl, start⟩
    | cons c cs ih =>
      intro s start apart
      rw [List.mem_cons, not_or] at unquoted
      have single_rest : ¬ ['?', '?'] <:+: cs := fun found =>
        single (found.trans (List.suffix_cons c cs).isInfix)
      by_cases mark : c = '?'
      · subst mark
        cases vs with
        | nil => simp at each
        | cons v vs =>
          have plain : s = .plain := by
            cases s with
            | plain => rfl
            | slot => exact absurd rfl (apart rfl cs)
            | escape => exact start.elim
            | inside => exact start.elim
          have next_apart : ∀ rest, cs ≠ '?' :: rest := by
            rintro rest rfl
            exact single ⟨[], rest, rfl⟩
          have each_rest : cs.count '?' = vs.length := by simpa using each
          obtain ⟨e, walked, ends⟩ :=
            ih unquoted.2 single_rest each_rest .slot trivial fun _ => next_apart
          exact ⟨e, by simpa [ofClause, plain, walk_cons, Spot.next] using walked, ends⟩
      · have each_rest : cs.count '?' = vs.length := by simpa [mark] using each
        obtain ⟨e, walked, ends⟩ :=
          ih unquoted.2 single_rest each_rest .plain trivial (by simp)
        refine ⟨e, ?_, ends⟩
        simp only [ofClause, if_neg mark]
        rw [walk_ordinary _ ⟨Ne.symm unquoted.1, mark⟩ start]
        exact walked
  exact walked .plain trivial (by simp)

end SqlCompose.Template
