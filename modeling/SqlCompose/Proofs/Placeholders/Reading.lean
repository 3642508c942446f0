import SqlCompose.Dialect.Generic
import SqlCompose.Dialect.MySql
import SqlCompose.Dialect.Postgres
import SqlCompose.Proofs.Expressions

/-!
# Reading placeholders

How a statement with its values is read by the driver that runs it: a question mark outside quoted
names is a placeholder, two in a row are an escaped one. Values are written in the places of the
placeholders, left to right. Quoting needs no case for a quote character written twice, as the text
between the two is empty.
-/
namespace SqlCompose.Text

/-- The characters of a text, with nothing for each placeholder. The flag tells whether the text
starts inside a quoted name. -/
def pieces (quote : Char) : Bool → List Char → List (Option Char)
  | _, [] => []
  | true, c :: cs => some c :: pieces quote (c ≠ quote) cs
  | false, '?' :: '?' :: cs => some '?' :: some '?' :: pieces quote false cs
  | false, '?' :: cs => none :: pieces quote false cs
  | false, c :: cs => some c :: pieces quote (c = quote) cs

theorem pieces_inside (quote c : Char) (cs : List Char) :
    pieces quote true (c :: cs) = some c :: pieces quote (c ≠ quote) cs := rfl

theorem pieces_plain (quote : Char) {c : Char} (cs : List Char) (h : c ≠ '?') :
    pieces quote false (c :: cs) = some c :: pieces quote (c = quote) cs := by
  simp [pieces, h]

theorem pieces_placeholder (quote : Char) {cs : List Char} (h : ∀ rest, cs ≠ '?' :: rest) :
    pieces quote false ('?' :: cs) = none :: pieces quote false cs := by
  cases cs with
  | nil => rfl
  | cons c rest =>
    have different : c ≠ '?' := fun same => h rest (by rw [same])
    simp [pieces, different]

/-- The pieces with texts in the places of the placeholders, as long as there are texts. -/
def fill : List (Option Char) → List String → List Char
  | [], _ => []
  | some c :: rest, texts => c :: fill rest texts
  | none :: rest, [] => '?' :: fill rest []
  | none :: rest, s :: texts => s.toList ++ fill rest texts

/-- The number of placeholders of a text. -/
def placeholders (quote : Char) (sql : String) : Nat :=
  (pieces quote false sql.toList).count none

/-- The text with other texts in the places of its placeholders. -/
def substitute (quote : Char) (sql : String) (texts : List String) : String :=
  String.ofList (fill (pieces quote false sql.toList) texts)

/-- The text neither quotes nor marks a placeholder. -/
def Plain (quote : Char) (s : String) : Prop := quote ∉ s.toList ∧ '?' ∉ s.toList

instance (quote : Char) (s : String) : Decidable (Plain quote s) :=
  inferInstanceAs (Decidable (_ ∧ _))

/-- The text has question marks for so many values, none of them in a quoted name or doubled. -/
def Fillable (quote : Char) (s : String) (values : Nat) : Prop :=
  quote ∉ s.toList ∧ ¬ ['?', '?'] <:+: s.toList ∧ s.toList.count '?' = values

instance (quote : Char) (s : String) (values : Nat) : Decidable (Fillable quote s values) :=
  inferInstanceAs (Decidable (_ ∧ _ ∧ _))

/-- The text is not empty and has no blanks at its ends. -/
def Solid (s : String) : Prop := s ≠ "" ∧ trim s = s

instance (s : String) : Decidable (Solid s) := inferInstanceAs (Decidable (_ ∧ _))

theorem solid_quoted {quote : Char} (shown : isBlank quote = false) (s : String) :
    Solid (quoted quote s) := by
  constructor
  · simp [quoted, ← String.toList_inj]
  · simp [quoted, trim, trimBlank, dropBlankEnd, dropBlank, shown]

end SqlCompose.Text

namespace SqlCompose

/-- Values spelled as SQL: never empty, and without blanks around them. -/
structure Literals where
  text : Value → String
  solid : ∀ v, Text.Solid (text v)

/-- The texts of values as string literals; a value without a text is null. -/
def Literals.quoted : Literals where
  text v := (v.text?.map Text.literal).getD "null"
  solid v := by
    cases v.text? with
    | none => decide
    | some s => exact Text.solid_quoted (by decide) s

/-- Each value is written where it stands. In a clause of trusted SQL the values stand at its
question marks, in order. -/
def Slots.inPlace (literals : Literals) : Slots where
  mark := literals.text
  fill sql values := String.ofList
    (Text.fill (sql.toList.map fun c => if c = '?' then none else some c) (values.map literals.text))

namespace QueryDialect

/-- The dialect with values written in place. -/
def inPlace (d : QueryDialect) (literals : Literals) : QueryDialect :=
  { d with slots := .inPlace literals }

/-- Whenever a statement is written, its placeholders are as many as its values, and values put in
their places one by one give the statement with its values written in place. -/
def Aligned (d : QueryDialect) (literals : Literals)
    (write : QueryDialect → Except CompileError Fragment) : Prop :=
  ∀ f, write d = .ok f →
    Text.placeholders d.quoter.quote f.sql = f.bindings.length ∧
    write (d.inPlace literals) =
      .ok ⟨Text.substitute d.quoter.quote f.sql (f.bindings.map literals.text), f.bindings⟩

/-- The statement is aligned, and the values it binds are these, in this order. -/
def AlignedTo (d : QueryDialect) (literals : Literals) (values : List Value)
    (write : QueryDialect → Except CompileError Fragment) : Prop :=
  d.Aligned literals write ∧ ∀ f, write d = .ok f → f.bindings = values

/-- Text that neither quotes nor marks a placeholder. -/
def Plain (d : QueryDialect) (s : String) : Prop := Text.Plain d.quoter.quote s

/-- Trusted SQL that leaves placeholders alone: plain text, and clauses with a value for each of their
question marks. -/
def plainExpressions (d : QueryDialect) : ExpressionRule where
  text := d.Plain
  clause sql values := Text.Fillable d.quoter.quote sql values.length

/-- What a dialect writes of its own is plain, and it quotes with a character that stands for nothing
else. -/
structure WritesPlainly (d : QueryDialect) : Prop where
  positional : d.slots = .positional
  quote : Text.isBlank d.quoter.quote = false ∧ d.quoter.quote.isAlphanum = false ∧
    d.quoter.quote ∉ ['?', '*', '=', ',', '.', '(', ')']
  operators : ∀ operator ∈ d.operators, d.quoter.quote ∉ operator.toList
  sharedLock : d.Plain d.sharedLock
  limit (b : Bounds) : d.Plain (d.limit b)
  offset (b : Bounds) : d.Plain (d.offset b)
  datePart (part : DatePart) : ∃ front back, d.Plain front ∧ d.Plain back ∧
    ∀ column, d.datePart part column = front ++ column ++ back
  jsonContains (negated : Bool) : ∃ front middle back, d.Plain front ∧ d.Plain middle ∧
    d.Plain back ∧ ∀ column, d.jsonContains negated column = (front ++ column ++ middle, back)
  jsonLength : ∃ front back, d.Plain front ∧ d.Plain back ∧
    ∀ column, d.jsonLength column = front ++ column ++ back

/-- MySQL, PostgreSQL, and every other dialect that writes plainly, whichever layouts it has. -/
inductive Supported : QueryDialect → Prop
  | mySql (tablePrefix : String) : Supported (mySql tablePrefix)
  | postgres (tablePrefix : String) : Supported (postgres tablePrefix)
  | other {d : QueryDialect} (plainly : d.WritesPlainly) : Supported d

end QueryDialect
end SqlCompose
