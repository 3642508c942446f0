import SqlCompose.Proofs.Congruence.Select
import SqlCompose.Proofs.Listing.Bindings
import SqlCompose.Proofs.Placeholders.Dialects

/-!
# Placeholders and values stand in one order

Sharing a template is a congruence between a dialect that writes plainly and the same dialect with
its values written in place. So in every statement whose trusted SQL leaves placeholders alone, each
placeholder is the one of the value at its position in the list, and that list has all values of the
request (`selects_aligned`, `changes_aligned`).
-/
namespace SqlCompose

open Template

namespace Shares

variable {quote : Char} {literals : Literals}

/-- Fixed text around a text that has no values. -/
theorem wrapped {s s' front back : String} (shares : Shares quote literals (.ofText s) (.ofText s'))
    (before : Text.Plain quote front) (after : Text.Plain quote back) :
    Shares quote literals (.ofText (front ++ s ++ back)) (.ofText (front ++ s' ++ back)) := by
  obtain ⟨rfl, closed⟩ := shares.text_eq
  have inner := (closed.behind (neutral_of_ordinary before.ordinary)).followed after.ordinary
  exact text (by simpa [ofChars] using inner)

/-- A text without values in front of a fragment, which ends where it began. -/
theorem behind {s : String} {f f' : Fragment} (front : Neutral quote s)
    (shares : Shares quote literals f f') : Shares quote literals (s ++ f) (s ++ f') := by
  obtain ⟨t, sharing⟩ := shares
  refine ⟨ofChars s.toList ++ t, sharing.closed.behind front, ?_, ?_, ?_, sharing.sameValues⟩
  · simp [write_append, sharing.placeholders]
  · simp [write_append, sharing.inPlace]
  · simp [values_append, sharing.values]

theorem followed {s : String} {f f' : Fragment} (shares : Shares quote literals f f')
    (back : Text.Plain quote s) : Shares quote literals (f ++ s) (f' ++ s) := by
  obtain ⟨t, sharing⟩ := shares
  refine ⟨t ++ ofChars s.toList, sharing.closed.followed back.ordinary, ?_, ?_, ?_,
    sharing.sameValues⟩
  · simp [write_append, sharing.placeholders]
  · simp [write_append, sharing.inPlace]
  · simp [values_append, sharing.values]

end Shares

namespace QueryDialect.WritesPlainly

variable {d : QueryDialect} (h : d.WritesPlainly) (literals : Literals)

theorem text {s : String} (plain : d.Plain s) :
    Shares d.quoter.quote literals (.ofText s) (.ofText s) :=
  .text (neutral_of_ordinary (Text.Plain.ordinary plain)).closed

include h

/-- Separators are ordinary, and trimming and leaving out take no value along. -/
theorem compatible : Compatible (Shares d.quoter.quote literals) where
  fixed known :=
    .text (neutral_of_ordinary (h.fixedText (List.mem_append_left _ known))).closed
  space left right := by
    have ordinary := h.blanks ' ' (by decide)
    have spelled : " ".toList = [' '] := rfl
    exact .spaced spelled (by simpa using ordinary) left right
  comma left right := by
    have comma := h.sign (c := ',') (by decide)
    have space := h.blanks ' ' (by decide)
    have spelled : ", ".toList = [',', ' '] := rfl
    exact .spaced spelled (by simpa using ⟨comma, space⟩) left right
  dot left right := by
    have ordinary := h.sign (c := '.') (by decide)
    have spelled : ".".toList = ['.'] := rfl
    exact .spaced spelled (by simpa using ordinary) left right
  bracket inner := inner.bracket (h.sign (by decide)) (h.sign (by decide))
  call left right := left.call (h.sign (by decide)) (h.sign (by decide)) right
  trimmed := .trimmed h.blanks
  trimmedEnd := .trimmedEnd h.blanks
  empty_iff shares := shares.empty_iff
  blank_iff shares := (shares.trimmed h.blanks).empty_iff
  star_iff shares := by rw [shares.text_eq.1]
  after left blank right := by
    obtain ⟨none, none'⟩ := left.bindings_of_blank h.blanks blank
    rw [none, none']
    exact right
  before left blank right := by
    obtain ⟨none, none'⟩ := left.bindings_of_blank h.blanks blank
    have alone (f : Fragment) : Fragment.before f [] = f := Fragment.ext rfl (List.append_nil _)
    rw [none, none', alone, alone]
    exact right

theorem operator (given : String) :
    Outcome (fun s s' => Shares d.quoter.quote literals (.ofText s) (.ofText s'))
      (d.operator given) ((d.inPlace literals).operator given) := by
  have same : (d.inPlace literals).operator given = d.operator given := rfl
  rw [same]
  unfold QueryDialect.operator
  dsimp only
  split
  · next known =>
    exact .ok (.text (neutral_escaped (h.operators _ known) h.quote_ne_mark).closed)
  · exact .error _

theorem value (v : Value) :
    Shares d.quoter.quote literals (d.value v) ((d.inPlace literals).value v) := by
  have mark : d.value v = ⟨"?", [v]⟩ := by
    unfold QueryDialect.value
    rw [h.positional]
    rfl
  rw [mark]
  refine ⟨[.value v], closed_value v, ?_, ?_, rfl, rfl⟩
  · simp [write]
  · simp [write, QueryDialect.value, inPlace, Slots.inPlace]

/-- A clause of trusted SQL with as many values as question marks. -/
theorem clause {sql : Expression} {values : List Value}
    (allowed : d.plainExpressions.clause sql.text values) :
    Shares d.quoter.quote literals (d.raw sql values) ((d.inPlace literals).raw sql values) := by
  obtain ⟨unquoted, single, each⟩ := allowed
  have mark : d.raw sql values = ⟨sql.text, values⟩ := by
    unfold QueryDialect.raw
    rw [h.positional]
    rfl
  rw [mark]
  refine ⟨ofClause sql.text.toList values, closed_ofClause unquoted single each, ?_, ?_, ?_, rfl⟩
  · exact (write_ofClause _ _).symm
  · rw [write_ofClause_fill]
    exact String.toList_ofList
  · exact (values_ofClause each).symm

/-- Sharing a template goes through every statement of a dialect that writes plainly. -/
theorem congruence :
    Congruence d (d.inPlace literals) d.plainExpressions (Shares d.quoter.quote literals) where
  toCompatible := h.compatible literals
  tablePrefix := rfl
  bracketsUnions := rfl
  joinedWrites := rfl
  part s := by
    show Shares _ _ (.ofText (if s = "*" then s else _)) (.ofText (if s = "*" then s else _))
    split
    · next star =>
      rw [star]
      exact (h.compatible literals).fixed (by decide)
    · exact .text (neutral_quoted s).closed
  operator := h.operator literals
  value := h.value literals
  expression := text literals
  clause := h.clause literals
  boundary known :=
    .text (neutral_of_ordinary (h.fixedText (List.mem_append_right _ known))).closed
  sharedLock := text literals h.sharedLock
  limit b := text literals (h.limit b)
  offset b := text literals (h.offset b)
  datePart part shares := by
    obtain ⟨front, back, before, after, spelled⟩ := h.datePart part
    have both (s : String) : (d.inPlace literals).datePart part s = front ++ s ++ back := spelled s
    rw [spelled, both]
    exact shares.wrapped before after
  jsonContains negated v shares := by
    obtain ⟨front, middle, back, before, between, after, spelled⟩ := h.jsonContains negated
    have both (s : String) : (d.inPlace literals).jsonContains negated s =
      (front ++ s ++ middle, back) := spelled s
    rw [spelled, both]
    obtain ⟨same, closed⟩ := (shares.wrapped before between).text_eq
    rw [same]
    exact ((h.value literals v).behind closed.neutral).followed after
  jsonLength shares := by
    obtain ⟨front, back, before, after, spelled⟩ := h.jsonLength
    have both (s : String) : (d.inPlace literals).jsonLength s = front ++ s ++ back := spelled s
    rw [spelled, both]
    exact shares.wrapped before after

/-- A statement that shares its template with itself written in place is aligned. -/
theorem aligned {write : QueryDialect → Except CompileError Fragment}
    (related : Outcome (Shares d.quoter.quote literals) (write d) (write (d.inPlace literals))) :
    d.Aligned literals write := by
  intro f written
  rw [written] at related
  obtain ⟨g, inPlace, t, sharing⟩ := related.of_ok
  have read := sharing.closed.reads h.quote_ne_mark
  constructor
  · rw [Text.placeholders, sharing.placeholders, read, count_marks, sharing.values]
  · rw [inPlace]
    congr 1
    apply Fragment.ext
    · rw [← String.toList_inj, sharing.inPlace, Text.substitute, sharing.placeholders, read,
        sharing.values, fill_marks, String.toList_ofList]
    · exact sharing.sameValues

theorem alignedTo {write : QueryDialect → Except CompileError Fragment} {values : List Value}
    (related : Outcome (Shares d.quoter.quote literals) (write d) (write (d.inPlace literals)))
    (bound : Yields (fun f => f.bindings = values) (write d)) :
    d.AlignedTo literals values write := by
  refine ⟨h.aligned literals related, fun f written => ?_⟩
  rw [written] at bound
  exact bound.of_ok

end QueryDialect.WritesPlainly

namespace QueryDialect

/-- Selects, tests for rows and inserts from a select have one placeholder for each value of the query,
in the order of the values, however deep queries stand inside queries. -/
theorem selects_aligned {d : QueryDialect} (supported : Supported d) (literals : Literals)
    {q : Query} (allowed : q.Obeys d.plainExpressions) :
    d.AlignedTo literals q.values (·.select q) ∧
      d.AlignedTo literals q.values (·.selectExists q) ∧
      ∀ (into : Query) (columns : List Ident),
        (∀ i, into.table = some i → i.Obeys d.plainExpressions) →
        (∀ i ∈ columns, i.Obeys d.plainExpressions) →
        d.AlignedTo literals q.values (·.insertUsing into columns q) := by
  have plainly := supported.writesPlainly
  have related := plainly.congruence literals
  refine ⟨plainly.alignedTo literals (related.select allowed) (select_checked q).yields,
    plainly.alignedTo literals (related.selectExists allowed) (selectExists_values q), ?_⟩
  intro into columns target listed
  exact plainly.alignedTo literals (related.insertUsing target listed allowed)
    (insertUsing_values into columns q)

/-- Question marks in a name, in an operator and in trusted SQL; queries in a condition and in a
union. -/
def markedQuery : Query where
  table := some (.name "a?b")
  conditions := [
    ⟨.and, .compare (.name "tags") "?|" (.value (.string "x"))⟩,
    ⟨.or, .raw ⟨"low > ? or high < ?"⟩ [.int 1, .int 2]⟩,
    ⟨.and, .oneOfQuery true (.name "id") {
      table := some (.name "old")
      conditions := [⟨.and, .nested [⟨.and, .jsonContains false (.name "doc") .null⟩]⟩] }⟩]
  members := [⟨{
    table := some (.name "more")
    havings := [⟨.and, .compare (.name "n") "=" (.value (.bool true))⟩] }, true⟩]
  unionLimit := some 5

theorem markedQuery_obeys : markedQuery.Obeys (postgres "").plainExpressions := by
  have clause : (postgres "").plainExpressions.clause "low > ? or high < ?" [.int 1, .int 2] :=
    (by decide +kernel : Text.Fillable '"' "low > ? or high < ?" 2)
  simpa [markedQuery, Query.Obeys, Query.partsObey_iff, JoinsObey, ClausesObey, MembersObey,
    Predicate.Obeys, Ident.Obeys, Operand.Obeys, HavingTest.Obeys] using clause

def markedValues : List Value := [.string "x", .int 1, .int 2, .json .null, .bool true]

def markedTarget : Query where
  table := some (.name "t")

/-- The text of the query around what stands at its values. -/
def markedText (tags low high doc n : String) : String :=
  "select * from \"a?b\" where \"tags\" ??| " ++ tags ++ " or low > " ++ low ++ " or high < " ++ high ++
  " and \"id\" not in (select * from \"old\" where ((\"doc\")::jsonb @> " ++ doc ++ ")) " ++
  "union all select * from \"more\" having \"n\" = " ++ n ++ " limit 5"

theorem selects_aligned_markedQuery :
    ((postgres "").select markedQuery).toOption.map (·.sql) = some (markedText "?" "?" "?" "?" "?") ∧
    ((postgres "").selectExists markedQuery).toOption.map (·.sql) =
      some ("select exists(" ++ markedText "?" "?" "?" "?" "?" ++ ") as \"exists\"") ∧
    ((postgres "").insertUsing markedTarget [.name "c?"] markedQuery).toOption.map (·.sql) =
      some ("insert into \"t\" (\"c?\") " ++ markedText "?" "?" "?" "?" "?") ∧
    (((postgres "").inPlace .quoted).insertUsing markedTarget [.name "c?"] markedQuery).toOption.map
      (·.sql) =
      some ("insert into \"t\" (\"c?\") " ++ markedText "'x'" "'1'" "'2'" "'null'" "'true'") ∧
    (postgres "").AlignedTo .quoted markedValues (·.select markedQuery) ∧
    (postgres "").AlignedTo .quoted markedValues (·.selectExists markedQuery) ∧
    (postgres "").AlignedTo .quoted markedValues
      (·.insertUsing markedTarget [.name "c?"] markedQuery) := by
  obtain ⟨select, asked, insert⟩ := selects_aligned (.postgres "") .quoted markedQuery_obeys
  refine ⟨by decide +kernel, by decide +kernel, by decide +kernel, by decide +kernel, select, asked,
    insert _ _ ?_ ?_⟩
  · simp [markedTarget, Ident.Obeys]
  · simp [Ident.Obeys]

/-- Updates and deletes put the values of joins, conditions and assignments in the order in which
their text has them. -/
theorem changes_aligned {d : QueryDialect} (supported : Supported d) (literals : Literals)
    {q : Query} (allowed : q.Obeys d.plainExpressions) :
    (∀ values : Row, values.Obeys d.plainExpressions →
      d.AlignedTo literals (d.updateValues q values) (·.update q values)) ∧
      d.AlignedTo literals (d.deleteValues q) (·.delete q) := by
  have plainly := supported.writesPlainly
  have related := plainly.congruence literals
  constructor
  · intro values given
    exact plainly.alignedTo literals (related.update allowed given) (update_values q values)
  · exact plainly.alignedTo literals (related.delete allowed) (delete_values q)

/-- Values in the conditions of a join, in those of the statement and, for an update, in its
assignments. -/
def joinedQuery : Query where
  table := some (.name "a")
  joins := [⟨.inner, .name "b", [
    ⟨.and, .compareColumns (.name "a.id") "=" (.name "b.id")⟩,
    ⟨.and, .compare (.name "b.n") ">" (.value (.int 1))⟩]⟩]
  conditions := [⟨.and, .between false (.name "a.k") (.value (.int 2)) (.raw ⟨"b.m"⟩)⟩]

theorem joinedQuery_obeys : joinedQuery.Obeys (postgres "").plainExpressions := by
  have plain : (postgres "").plainExpressions.text "b.m" := (by decide : Text.Plain '"' "b.m")
  simpa [joinedQuery, Query.Obeys, Query.partsObey_iff, JoinsObey, ClausesObey, MembersObey,
    Predicate.Obeys, Ident.Obeys, Operand.Obeys] using plain

def joinedRow : Row := .ofList [("c?", .value (.int 3))]

theorem changes_aligned_joinedQuery :
    ((postgres "").update joinedQuery joinedRow).toOption.map (·.sql) = some (
      "update \"a\" set \"c?\" = ? from \"b\" where \"a\".\"k\" between ? and b.m " ++
      "and \"a\".\"id\" = \"b\".\"id\" and \"b\".\"n\" > ?") ∧
    ((postgres "").delete joinedQuery).toOption.map (·.sql) = some (
      "delete from \"a\" using \"b\" where \"a\".\"k\" between ? and b.m " ++
      "and \"a\".\"id\" = \"b\".\"id\" and \"b\".\"n\" > ?") ∧
    (postgres "").AlignedTo .quoted [.int 3, .int 2, .int 1] (·.update joinedQuery joinedRow) ∧
    (postgres "").AlignedTo .quoted [.int 2, .int 1] (·.delete joinedQuery) := by
  obtain ⟨update, delete⟩ := changes_aligned (.postgres "") .quoted joinedQuery_obeys
  refine ⟨by decide +kernel, by decide +kernel, update joinedRow ?_, delete⟩
  simp [joinedRow, Row.Obeys, Row.operands, Row.ofList, Keyed.ofList, Keyed.insert, Operand.Obeys]

end QueryDialect
end SqlCompose
