import SqlCompose.Schema.Column

/-!
# Literals read back

A string literal is read character by character: two single quotes stand for one, and a single one ends the
literal. Where a backslash escapes, it stands for the backslash or quote behind it and for nothing else. Every
literal that is written, also as a default or in the list of an enumeration, is read to its end and gives the
text it was written for (`literals_read_back`).
-/
namespace SqlCompose

namespace Text

/-- The character in front of what is read. -/
def kept (c : Char) : Option (List Char × List Char) → Option (List Char × List Char) :=
  Option.map fun (text, rest) => (c :: text, rest)

/-- The text of a literal from behind its opening quote, and what follows its closing quote. -/
def readInside (escapes : Bool) : List Char → Option (List Char × List Char)
  | [] => none
  | [c] => if c = '\'' then some ([], []) else none
  | c :: e :: cs =>
    if c = '\'' then
      if e = '\'' then kept '\'' (readInside escapes cs) else some ([], e :: cs)
    else if escapes = true ∧ c = '\\' then
      if e = '\\' ∨ e = '\'' then kept e (readInside escapes cs) else none
    else kept c (readInside escapes (e :: cs))

/-- The text of a literal at the start, and what follows it. -/
def readLiteral? (escapes : Bool) : List Char → Option (List Char × List Char)
  | '\'' :: cs => readInside escapes cs
  | _ => none

/-- Literals with commas between them up to a closing parenthesis: their texts, and what follows it. -/
inductive ReadsList (escapes : Bool) : List Char → List String → List Char → Prop
  | closed {rest : List Char} : ReadsList escapes (')' :: rest) [] rest
  | last {cs text rest : List Char} (one : readLiteral? escapes cs = some (text, ')' :: rest)) :
    ReadsList escapes cs [String.ofList text] rest
  | more {cs text cs' rest : List Char} {next : String} {texts : List String}
    (one : readLiteral? escapes cs = some (text, ',' :: ' ' :: cs'))
    (others : ReadsList escapes cs' (next :: texts) rest) :
    ReadsList escapes cs (String.ofList text :: next :: texts) rest

/-! ## What is read inside a literal -/

variable {escapes : Bool} {cs rest : List Char}

theorem readInside_doubled (cs : List Char) :
    readInside escapes ('\'' :: '\'' :: cs) = kept '\'' (readInside escapes cs) := by
  simp [readInside]

theorem readInside_end (apart : rest.head? ≠ some '\'') :
    readInside escapes ('\'' :: rest) = some ([], rest) := by
  cases rest with
  | nil => simp [readInside]
  | cons c rest =>
    have other : c ≠ '\'' := by simpa using apart
    simp [readInside, other]

theorem readInside_escaped {e : Char} (known : e = '\\' ∨ e = '\'') (cs : List Char) :
    readInside true ('\\' :: e :: cs) = kept e (readInside true cs) := by
  simp [readInside, known]

theorem readInside_other {c : Char} (apart : c ≠ '\'') (plain : ¬ (escapes = true ∧ c = '\\'))
    (cs : List Char) : readInside escapes (c :: cs) = kept c (readInside escapes cs) := by
  cases cs with
  | nil => simp [readInside, apart, kept]
  | cons e cs => simp only [readInside, if_neg apart, if_neg plain]

/-- Where a backslash stands for itself, doubled quotes are read as the text. -/
theorem readInside_quotes (apart : rest.head? ≠ some '\'') (cs : List Char) :
    readInside false (doubled '\'' cs ++ '\'' :: rest) = some (cs, rest) := by
  induction cs with
  | nil => exact readInside_end apart
  | cons c cs ih =>
    by_cases quote : c = '\''
    · rw [quote, doubled_quote, List.cons_append, List.cons_append, readInside_doubled, ih]
      simp [kept]
    · rw [doubled_other quote, List.cons_append, readInside_other quote (by simp), ih]
      simp [kept]

/-- Where a backslash escapes, doubled backslashes and quotes are read as the text. -/
theorem readInside_backslashes (apart : rest.head? ≠ some '\'') (cs : List Char) :
    readInside true (doubled '\'' (doubled '\\' cs) ++ '\'' :: rest) = some (cs, rest) := by
  have slash : '\\' ≠ '\'' := by decide
  induction cs with
  | nil => exact readInside_end apart
  | cons c cs ih =>
    by_cases backslash : c = '\\'
    · rw [backslash, doubled_quote, doubled_other slash, doubled_other slash, List.cons_append,
        List.cons_append, readInside_escaped (.inl rfl), ih]
      simp [kept]
    · rw [doubled_other backslash]
      by_cases quote : c = '\''
      · rw [quote, doubled_quote, List.cons_append, List.cons_append, readInside_doubled, ih]
        simp [kept]
      · rw [doubled_other quote, List.cons_append, readInside_other quote (by simp [backslash]), ih]
        simp [kept]

/-- A list is read in one way only. -/
theorem ReadsList.unique {cs rest rest' : List Char} {texts texts' : List String}
    (read : ReadsList escapes cs texts rest) (read' : ReadsList escapes cs texts' rest') :
    texts = texts' ∧ rest = rest' := by
  have unquoted {rest : List Char} : readLiteral? escapes (')' :: rest) = none := by
    simp [readLiteral?]
  induction read generalizing texts' with
  | closed =>
    cases read' with
    | closed => exact ⟨rfl, rfl⟩
    | last one' => simp [unquoted] at one'
    | more one' _ => simp [unquoted] at one'
  | last one =>
    cases read' with
    | closed => simp [unquoted] at one
    | last one' =>
      rw [one] at one'
      simp_all
    | more one' _ =>
      rw [one] at one'
      simp at one'
  | more one _ ih =>
    cases read' with
    | closed => simp [unquoted] at one
    | last one' =>
      rw [one] at one'
      simp at one'
    | more one' others' =>
      rw [one] at one'
      simp only [Option.some.injEq, Prod.mk.injEq, List.cons.injEq, true_and] at one'
      obtain ⟨same, behind⟩ := one'
      obtain ⟨texts_eq, rest_eq⟩ := ih (behind ▸ others')
      exact ⟨by rw [same, texts_eq], rest_eq⟩

end Text

namespace SchemaDialect

variable (d : SchemaDialect)

/-- Only MySQL escapes by a backslash. -/
def backslashEscapes : Bool :=
  match d.database with
  | .mySql => true
  | .postgres => false

/-- What stands before the allowed values of an enumeration. -/
def listOpening (column : Column) : String :=
  match d.database with
  | .mySql => "enum("
  | .postgres => "varchar(255) check (" ++ d.quoter.part column.name ++ " in ("

/-- What stands behind the parenthesis that closes the allowed values. -/
def listClosing : List Char :=
  match d.database with
  | .mySql => []
  | .postgres => [')']

/-- A literal in front of anything but a quote is read as its text. -/
theorem readLiteral?_literal (s : String) (rest : List Char) (apart : rest.head? ≠ some '\'') :
    Text.readLiteral? d.backslashEscapes ((d.literal s).toList ++ rest) = some (s.toList, rest) := by
  unfold backslashEscapes literal
  cases d.database with
  | mySql =>
    have read := Text.readInside_backslashes apart s.toList
    simpa [Text.backslashLiteral, Text.literal, Text.quoted, Text.readLiteral?] using read
  | postgres =>
    have read := Text.readInside_quotes apart s.toList
    simpa [Text.literal, Text.quoted, Text.readLiteral?] using read

/-- The literals of the allowed values are read as the values. -/
theorem readsList_allowedTexts (allowed : List String) (rest : List Char) :
    Text.ReadsList d.backslashEscapes ((d.allowedTexts allowed).toList ++ ')' :: rest) allowed rest := by
  unfold allowedTexts
  induction allowed with
  | nil => exact .closed
  | cons s allowed ih =>
    cases allowed with
    | nil =>
      have one := d.readLiteral?_literal s (')' :: rest) (by simp)
      have read := Text.ReadsList.last one
      simpa using read
    | cons t allowed =>
      have one := d.readLiteral?_literal s (',' :: ' ' ::
        ((Text.joinWith ", " ((t :: allowed).map d.literal)).toList ++ ')' :: rest)) (by simp)
      have read := Text.ReadsList.more one ih
      simpa using read

/-- The allowed values stand between the opening and the closing of the type. -/
theorem typeText_enumeration {column : Column} {allowed : List String}
    (listed : column.type = .enumeration allowed) : d.typeText column =
      d.listOpening column ++ String.ofList ((d.allowedTexts allowed).toList ++ ')' :: d.listClosing) := by
  unfold typeText listOpening listClosing
  cases d.database <;>
    simp [mySqlType, postgresType, listed, ← String.toList_inj]

/-- A default that is neither null, nor a truth value, nor bytes is a literal of its text. -/
theorem defaultText_literal {v : Value} (given : v.isNull = false) (untrue : ∀ b, v ≠ .bool b)
    (spelled : ∀ content, v ≠ .bytes content) :
    ∃ s, v.text? = some s ∧ d.defaultText (.value v) = .ok (d.literal s) := by
  cases v with
  | null => simp [Value.isNull] at given
  | bool b => exact absurd rfl (untrue b)
  | bytes content => exact absurd rfl (spelled content)
  | _ => exact ⟨_, rfl, rfl⟩

/-- Literals are read to their end as the texts they were written for: by themselves, as the default of any
value but null, a truth value and bytes, and one after the other in the list of an enumeration. -/
theorem literals_read_back (d : SchemaDialect) :
    (∀ s, Text.readLiteral? d.backslashEscapes (d.literal s).toList = some (s.toList, [])) ∧
    (∀ v : Value, v.isNull = false → (∀ b, v ≠ .bool b) → (∀ content, v ≠ .bytes content) →
      ∃ s written, v.text? = some s ∧ d.defaultText (.value v) = .ok written ∧
        Text.readLiteral? d.backslashEscapes written.toList = some (s.toList, [])) ∧
    ∀ column allowed, column.type = .enumeration allowed → ∃ inner,
      d.typeText column = d.listOpening column ++ String.ofList inner ∧
      ∀ texts rest, Text.ReadsList d.backslashEscapes inner texts rest ↔
        texts = allowed ∧ rest = d.listClosing := by
  have alone (s : String) :
      Text.readLiteral? d.backslashEscapes (d.literal s).toList = some (s.toList, []) := by
    simpa using d.readLiteral?_literal s [] (by simp)
  refine ⟨alone, ?_, ?_⟩
  · intro v given untrue spelled
    obtain ⟨s, text, written⟩ := d.defaultText_literal given untrue spelled
    exact ⟨s, d.literal s, text, written, alone s⟩
  · intro column allowed listed
    have read := d.readsList_allowedTexts allowed d.listClosing
    refine ⟨_, d.typeText_enumeration listed, fun texts rest => ?_⟩
    constructor
    · intro read'
      exact read'.unique read
    · intro same
      rw [same.1, same.2]
      exact read

/-- A column whose allowed texts hold a quote, and a backslash at the end. -/
def quotedSizes : Column where
  name := "size"
  type := .enumeration ["5'", "a\\"]

/-- Each backslash is written twice, so none of them escapes the closing quote. -/
theorem literals_read_back_quotedSizes :
    let d : SchemaDialect := ⟨.mySql, "", {}⟩
    (∃ s written, (Value.string "a\\").text? = some s ∧
      d.defaultText (.value (.string "a\\")) = .ok written ∧
      Text.readLiteral? d.backslashEscapes written.toList = some (s.toList, [])) ∧
    d.typeText quotedSizes = "enum('5''', 'a\\\\')" ∧
    ∃ inner, d.typeText quotedSizes = d.listOpening quotedSizes ++ String.ofList inner ∧
      Text.ReadsList d.backslashEscapes inner ["5'", "a\\"] [] := by
  intro d
  obtain ⟨-, defaults, lists⟩ := d.literals_read_back
  have text : d.typeText quotedSizes = "enum('5''', 'a\\\\')" := by decide
  obtain ⟨inner, written, read⟩ := lists quotedSizes ["5'", "a\\"] rfl
  refine ⟨defaults (.string "a\\") rfl ?_ ?_, text, inner, written, (read _ _).mpr ⟨rfl, rfl⟩⟩
  · simp
  · simp

end SchemaDialect
end SqlCompose
