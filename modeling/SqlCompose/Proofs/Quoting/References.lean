import SqlCompose.Proofs.Quoting.Aliases
import SqlCompose.Proofs.Quoting.Names

/-!
# References read back

A reference to a table or a column is one identifier or several with dots between them, and one more behind
` as ` if it has an alias. An identifier is a bare star or a text in quotes, in which each quote is written
twice. A name is written as a reference that is read in one way only, and its identifiers are the parts of
the name and its alias (`names_read_back`).
-/
namespace SqlCompose

inductive Identifier where
  | star
  | quoted (text : String)

/-- A text as it stands between quotes: each of its own quotes twice. -/
inductive Doubles (quote : Char) : List Char → List Char → Prop
  | nil : Doubles quote [] []
  | quote {body text : List Char} (rest : Doubles quote body text) :
    Doubles quote (quote :: quote :: body) (quote :: text)
  | other {c : Char} {body text : List Char} (apart : c ≠ quote) (rest : Doubles quote body text) :
    Doubles quote (c :: body) (c :: text)

/-- The characters are one identifier. -/
inductive ReadsIdentifier (quote : Char) : List Char → Identifier → Prop
  | star : ReadsIdentifier quote ['*'] .star
  | quoted {body text : List Char} (inner : Doubles quote body text) :
    ReadsIdentifier quote (quote :: (body ++ [quote])) (.quoted (String.ofList text))

/-- The characters are identifiers with dots between them. -/
inductive ReadsDotted (quote : Char) : List Char → List Identifier → Prop
  | single {cs : List Char} {i : Identifier} (one : ReadsIdentifier quote cs i) :
    ReadsDotted quote cs [i]
  | dot {cs ds : List Char} {i : Identifier} {others : List Identifier}
    (one : ReadsIdentifier quote cs i) (rest : ReadsDotted quote ds others) :
    ReadsDotted quote (cs ++ '.' :: ds) (i :: others)

/-- The characters are a reference: dotted identifiers, and an alias if there is one. -/
inductive ReadsReference (quote : Char) : List Char → List Identifier → Option Identifier → Prop
  | unnamed {cs : List Char} {parts : List Identifier} (dotted : ReadsDotted quote cs parts) :
    ReadsReference quote cs parts none
  | named {cs ds : List Char} {parts : List Identifier} {i : Identifier}
    (dotted : ReadsDotted quote cs parts) (one : ReadsIdentifier quote ds i) :
    ReadsReference quote (cs ++ " as ".toList ++ ds) parts (some i)

/-- A part of a name is written in quotes, unless it is a star. -/
def Identifier.of (s : String) : Identifier := if s = "*" then .star else .quoted s

/-- The text is read as these parts and this alias, and in no other way. -/
def ReadsOnlyAs (quote : Char) (s : String) (parts : List String) (knownAs : Option String) : Prop :=
  ∀ identifiers i, ReadsReference quote s.toList identifiers i ↔
    identifiers = parts.map Identifier.of ∧ i = knownAs.map Identifier.of

/-- The texts between the dots. -/
def betweenDots (s : String) : List String := (s.toList.splitOn '.').map String.ofList

/-- The first of several parts is a table, which takes the prefix. -/
def qualified (tablePrefix : String) : List String → List String
  | qualifier :: part :: parts => (tablePrefix ++ qualifier) :: part :: parts
  | parts => parts

/-! ## Reading in one way only -/

theorem Doubles.eq_doubled {quote : Char} {body text : List Char} (h : Doubles quote body text) :
    body = Text.doubled quote text := by
  induction h with
  | nil => rfl
  | quote rest ih => rw [Text.doubled_quote, ih]
  | other apart rest ih => rw [Text.doubled_other apart, ih]

theorem doubles_doubled (quote : Char) (text : List Char) :
    Doubles quote (Text.doubled quote text) text := by
  induction text with
  | nil => exact .nil
  | cons c text ih =>
    by_cases same : c = quote
    · rw [same, Text.doubled_quote]
      exact .quote ih
    · rw [Text.doubled_other same]
      exact .other same ih

section

variable {quote : Char}

/-- An identifier ends in front of anything but a quote. -/
theorem ReadsIdentifier.append_inj (star : quote ≠ '*') {cs cs' rest rest' : List Char}
    {i i' : Identifier} (one : ReadsIdentifier quote cs i) (one' : ReadsIdentifier quote cs' i')
    (ends : rest.head? ≠ some quote) (ends' : rest'.head? ≠ some quote)
    (same : cs ++ rest = cs' ++ rest') : i = i' ∧ rest = rest' := by
  cases one with
  | star =>
    cases one' with
    | star => exact ⟨rfl, (List.cons.inj same).2⟩
    | quoted inner' => exact absurd (List.cons.inj same).1.symm star
  | quoted inner =>
    cases one' with
    | star => exact absurd (List.cons.inj same).1 star
    | quoted inner' =>
      rw [inner.eq_doubled, inner'.eq_doubled] at same
      rw [List.cons_append, List.cons_append, List.append_assoc, List.append_assoc] at same
      have bodies := (List.cons.inj same).2
      obtain rfl := Text.doubled_append_inj ends ends' bodies
      exact ⟨rfl, by simpa using bodies⟩

/-- Dotted identifiers end in front of anything but a quote and a dot. -/
theorem ReadsDotted.append_inj (star : quote ≠ '*') (dot : quote ≠ '.') {cs cs' rest rest' : List Char}
    {parts parts' : List Identifier} (dotted : ReadsDotted quote cs parts)
    (dotted' : ReadsDotted quote cs' parts') (ends : rest.head? ≠ some quote)
    (ends' : rest'.head? ≠ some quote) (last : rest.head? ≠ some '.') (last' : rest'.head? ≠ some '.')
    (same : cs ++ rest = cs' ++ rest') : parts = parts' ∧ rest = rest' := by
  have goes_on {tail : List Char} : ('.' :: tail).head? ≠ some quote := by simpa using dot.symm
  induction dotted generalizing cs' parts' with
  | single one =>
    cases dotted' with
    | single one' =>
      obtain ⟨rfl, rest_eq⟩ := one.append_inj star one' ends ends' same
      exact ⟨rfl, rest_eq⟩
    | dot one' others' =>
      rw [List.append_assoc, List.cons_append] at same
      obtain ⟨-, rest_eq⟩ := one.append_inj star one' ends goes_on same
      exact absurd (by rw [rest_eq]; rfl) last
  | dot one others ih =>
    rw [List.append_assoc, List.cons_append] at same
    cases dotted' with
    | single one' =>
      obtain ⟨-, rest_eq⟩ := one.append_inj star one' goes_on ends' same
      exact absurd (by rw [← rest_eq]; rfl) last'
    | dot one' others' =>
      rw [List.append_assoc, List.cons_append] at same
      obtain ⟨rfl, behind⟩ := one.append_inj star one' goes_on goes_on same
      obtain ⟨rfl, rest_eq⟩ := ih others' (List.cons.inj behind).2
      exact ⟨rfl, rest_eq⟩

theorem ReadsReference.unique (star : quote ≠ '*') (dot : quote ≠ '.') (space : quote ≠ ' ') {cs : List Char}
    {parts parts' : List Identifier} {knownAs knownAs' : Option Identifier}
    (read : ReadsReference quote cs parts knownAs) (read' : ReadsReference quote cs parts' knownAs') :
    parts = parts' ∧ knownAs = knownAs' := by
  have ends {tail : List Char} : (" as ".toList ++ tail).head? ≠ some quote := by
    simpa using space.symm
  have last {tail : List Char} : (" as ".toList ++ tail).head? ≠ some '.' := by simp
  have nothing : ([] : List Char).head? ≠ some quote ∧ ([] : List Char).head? ≠ some '.' := by simp
  cases read with
  | unnamed dotted =>
    generalize whole : cs = cs' at read'
    cases read' with
    | unnamed dotted' =>
      have same : cs ++ [] = cs' ++ [] := by rw [whole]
      exact ⟨(dotted.append_inj star dot dotted' nothing.1 nothing.1 nothing.2 nothing.2 same).1, rfl⟩
    | named dotted' one' =>
      rw [List.append_assoc, ← List.append_nil cs] at whole
      have rest := (dotted.append_inj star dot dotted' nothing.1 ends nothing.2 last whole).2
      exact absurd rest (by simp)
  | @named cs ds parts i dotted one =>
    generalize whole : cs ++ " as ".toList ++ ds = cs' at read'
    rw [List.append_assoc] at whole
    cases read' with
    | unnamed dotted' =>
      rw [← List.append_nil cs'] at whole
      have rest := (dotted.append_inj star dot dotted' ends nothing.1 last nothing.2 whole).2
      exact absurd rest (by simp)
    | named dotted' one' =>
      rw [List.append_assoc] at whole
      obtain ⟨rfl, rest⟩ := dotted.append_inj star dot dotted' ends ends last last whole
      have known := List.append_cancel_left rest
      obtain ⟨rfl, -⟩ := one.append_inj star one' nothing.1 nothing.1 (congrArg (· ++ []) known)
      exact ⟨rfl, rfl⟩

end

/-! ## Names as references -/

namespace Quoter

variable (w : Quoter)

theorem part_read (s : String) : ReadsIdentifier w.quote (w.part s).toList (.of s) := by
  unfold part Identifier.of
  split
  · next star =>
    rw [star]
    exact .star
  · have quoted := ReadsIdentifier.quoted (doubles_doubled w.quote s.toList)
    rw [String.ofList_toList] at quoted
    rwa [Text.quoted, String.toList_ofList]

theorem dotted_read {parts : List String} (some : parts ≠ []) :
    ReadsDotted w.quote (Text.joinWith "." (parts.map w.part)).toList (parts.map .of) := by
  induction parts with
  | nil => exact absurd rfl some
  | cons s parts ih =>
    cases parts with
    | nil => exact .single (w.part_read s)
    | cons t parts =>
      have rest := ih (by simp)
      rw [List.map_cons, List.map_cons, Text.joinWith_cons_cons]
      have whole := ReadsDotted.dot (w.part_read s) rest
      simpa using whole

theorem reference_read {parts : List String} (some : parts ≠ []) (knownAs : String) :
    ReadsReference w.quote (Text.joinWith "." (parts.map w.part) ++ " as " ++ w.part knownAs).toList
      (parts.map .of) (.some (.of knownAs)) := by
  rw [String.toList_append, String.toList_append]
  exact .named (w.dotted_read some) (w.part_read knownAs)

end Quoter

theorem dottedParts_eq (s : String) : dottedParts s = betweenDots s := by
  rw [dottedParts, betweenDots, Text.splitAt_eq_splitOn]

theorem betweenDots_ne_nil (s : String) : betweenDots s ≠ [] := by
  rw [← dottedParts_eq, dottedParts, ne_eq, List.map_eq_nil_iff]
  exact Text.splitAt_ne_nil '.' s.toList

theorem qualified_ne_nil (tablePrefix : String) {parts : List String} (some : parts ≠ []) :
    qualified tablePrefix parts ≠ [] := by
  unfold qualified
  split
  · simp
  · exact some

theorem ReadsOnlyAs.of_reads {quote : Char} (apart : quote ∉ ['*', '.', ' ']) {s : String}
    {parts : List String} {knownAs : Option String}
    (read : ReadsReference quote s.toList (parts.map .of) (knownAs.map .of)) :
    ReadsOnlyAs quote s parts knownAs := by
  simp only [List.mem_cons, List.not_mem_nil, or_false, not_or] at apart
  intro identifiers i
  constructor
  · exact fun read' => read'.unique apart.1 apart.2.1 apart.2.2 read
  · rintro ⟨rfl, rfl⟩
    exact read

namespace Quoter

variable {w : Quoter} (apart : w.quote ∉ ['*', '.', ' ']) {name base : String} {knownAs : Option String}
  (spelled : Spelled name base knownAs)

theorem columnTexts_eq (w : Quoter) (name : String) :
    w.columnTexts name = qualified w.tablePrefix (betweenDots name) := by
  unfold columnTexts qualified
  rw [dottedParts_eq]
  cases betweenDots name with
  | nil => rfl
  | cons s parts => cases parts <;> rfl

include apart spelled

/-- A column is its dotted parts and its alias, with the prefix before the first of several parts. -/
theorem columnName_reads : ReadsOnlyAs w.quote (w.columnName name)
    (qualified w.tablePrefix (betweenDots base)) knownAs := by
  have some := qualified_ne_nil w.tablePrefix (betweenDots_ne_nil base)
  apply ReadsOnlyAs.of_reads apart
  cases knownAs with
  | none =>
    obtain ⟨split, rfl⟩ := spelled_none_iff.mp spelled
    simp only [columnName, split]
    rw [columnParts_eq, columnTexts_eq]
    exact .unnamed (w.dotted_read some)
  | some knownAs =>
    simp only [columnName, spelled_some_iff.mp spelled]
    rw [columnParts_eq, columnTexts_eq]
    exact w.reference_read some knownAs

/-- A table is the dotted parts of its prefixed name and its prefixed alias. -/
theorem tableName_reads : ReadsOnlyAs w.quote (w.tableName name)
    (betweenDots (w.tablePrefix ++ base)) (knownAs.map (w.tablePrefix ++ ·)) := by
  have some := betweenDots_ne_nil (w.tablePrefix ++ base)
  apply ReadsOnlyAs.of_reads apart
  cases knownAs with
  | none =>
    obtain ⟨split, rfl⟩ := spelled_none_iff.mp spelled
    simp only [tableName, split]
    rw [tableParts, dottedParts_eq]
    exact .unnamed (w.dotted_read some)
  | some knownAs =>
    simp only [tableName, spelled_some_iff.mp spelled]
    rw [tableParts, dottedParts_eq]
    exact w.reference_read some (w.tablePrefix ++ knownAs)

omit apart spelled

/-- A name is written as a reference that is read in one way only: with an alias, as the parts of the
trimmed text before it and the trimmed alias, and without one, as the parts of the name. A column takes the
prefix if it is qualified, and a table and its alias always do. -/
theorem names_read_back (w : Quoter) (known : w.quote ∈ ['\x60', '"', '|']) (name : String) :
    ∃ base knownAs, (∀ base' knownAs', Spelled name base' knownAs' ↔ base' = base ∧ knownAs' = knownAs) ∧
      ReadsOnlyAs w.quote (w.columnName name) (qualified w.tablePrefix (betweenDots base)) knownAs ∧
      ReadsOnlyAs w.quote (w.tableName name) (betweenDots (w.tablePrefix ++ base))
        (knownAs.map (w.tablePrefix ++ ·)) := by
  have apart : w.quote ∉ ['*', '.', ' '] := by
    simp only [List.mem_cons, List.not_mem_nil, or_false] at known
    rcases known with same | same | same <;> simp [same]
  obtain ⟨base, knownAs, spelled, only⟩ := name_spelled name
  exact ⟨base, knownAs, only, columnName_reads apart spelled, tableName_reads apart spelled⟩

/-- A qualified name with a quote in it and with two aliases, of which the second belongs to the first. -/
theorem names_read_back_agedUsers :
    let w : Quoter := ⟨'|', "a."⟩
    let name := " old|users.* As U as v"
    w.quote ∈ ['\x60', '"', '|'] ∧
    w.columnName name = "|a.old||users|.* as |U as v|" ∧
    ReadsOnlyAs '|' "|a.old||users|.* as |U as v|" ["a.old|users", "*"] (some "U as v") ∧
    w.tableName name = "|a|.|old||users|.* as |a.U as v|" ∧
    ReadsOnlyAs '|' "|a|.|old||users|.* as |a.U as v|" ["a", "old|users", "*"] (some "a.U as v") := by
  intro w name
  have known : w.quote ∈ ['\x60', '"', '|'] := by decide
  have spelled : Spelled name "old|users.*" (some "U as v") := spelled_some_iff.mpr (by decide)
  have column : w.columnName name = "|a.old||users|.* as |U as v|" := by decide
  have table : w.tableName name = "|a|.|old||users|.* as |a.U as v|" := by decide
  obtain ⟨base, knownAs, only, columns, tables⟩ := names_read_back w known name
  obtain ⟨rfl, rfl⟩ := (only _ _).mp spelled
  have columnParts : qualified w.tablePrefix (betweenDots "old|users.*") = ["a.old|users", "*"] := by decide
  have tableParts : betweenDots (w.tablePrefix ++ "old|users.*") = ["a", "old|users", "*"] := by decide
  have tableKnownAs : (some "U as v").map (w.tablePrefix ++ ·) = some "a.U as v" := by decide
  rw [column, columnParts] at columns
  rw [table, tableParts, tableKnownAs] at tables
  exact ⟨known, column, columns, table, tables⟩

end Quoter
end SqlCompose
