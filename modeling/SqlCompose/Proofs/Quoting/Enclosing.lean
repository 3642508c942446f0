import SqlCompose.Proofs.Quoting.Names

/-!
# Statements keep names in their quotes

What a dialect brings to a statement neither quotes nor leaves a parenthesis unmatched. Its statements
then have, outside quoted names, a text that does not depend on what stands in the names.
-/
namespace SqlCompose

open Quotation

theorem Quotation.MatchedText.append {s t : String} (left : MatchedText s) (right : MatchedText t) :
    MatchedText (s ++ t) := by
  unfold MatchedText
  rw [String.toList_append, List.map_append]
  exact Matched.append left right

theorem Quotation.matched_of_level {items : List (Option Char)}
    (level : ∀ item ∈ items, item ≠ some '(' ∧ item ≠ some ')') : Matched items := by
  induction items with
  | nil => rfl
  | cons item items ih =>
    obtain ⟨opening, closing⟩ := level item (by simp)
    unfold Matched
    rw [depth_cons, deepen_level opening closing, Option.bind_some]
    exact ih fun other member => level other (by simp [member])

/-- A text without parentheses. -/
theorem Quotation.matchedText_of_level {s : String} (level : ∀ c ∈ s.toList, c ≠ '(' ∧ c ≠ ')') :
    MatchedText s := by
  apply matched_of_level
  intro item member
  obtain ⟨c, inside, rfl⟩ := List.mem_map.mp member
  simpa using level c inside

theorem Quotation.matchedText_toString (n : Nat) : MatchedText (toString n) := by
  apply matchedText_of_level
  intro c member
  have digit := Text.isDigit_of_mem_toString member
  constructor <;>
  · rintro rfl
    exact absurd digit (by decide)

theorem Text.mem_replaceChar {old c : Char} {new cs : List Char} (member : c ∈ replaceChar old new cs) :
    c ∈ cs ∨ c ∈ new := by
  induction cs with
  | nil => exact .inl member
  | cons e cs ih =>
    unfold replaceChar at member
    split at member <;> grind

/-- Operators without parentheses; their characters are looked through. -/
theorem level_of_all {operators : List String}
    (known : operators.all (·.toList.all fun c => c != '(' && c != ')') = true) :
    ∀ o ∈ operators, ∀ c ∈ o.toList, c ≠ '(' ∧ c ≠ ')' := by
  simpa using known

namespace QueryDialect

variable {d : QueryDialect}

/-- What the dialect brings to statements is plain and has matched parentheses. -/
structure EnclosesNames (d : QueryDialect) : Prop extends WritesPlainly d where
  operators_level : ∀ o ∈ d.operators, ∀ c ∈ o.toList, c ≠ '(' ∧ c ≠ ')'
  sharedLock_matched : MatchedText d.sharedLock
  limit_matched (b : Bounds) : MatchedText (d.limit b)
  offset_matched (b : Bounds) : MatchedText (d.offset b)
  /-- The text around a column does not depend on it, so it can be read off the empty one. -/
  datePart_matched (part : DatePart) : MatchedText (d.datePart part "")
  jsonContains_matched (negated : Bool) :
    MatchedText ((d.jsonContains negated "").1 ++ (d.jsonContains negated "").2)
  jsonLength_matched : MatchedText (d.jsonLength "")
  truncate : ∃ front back, d.Plain front ∧ d.Plain back ∧ MatchedText (front ++ back) ∧
    ∀ table, d.truncate table = front ++ table ++ back

theorem Numbered.matched {words : List String} {s : String} (numbered : Numbered words s)
    (each : ∀ word ∈ words, MatchedText word) : MatchedText s :=
  numbered.holds (by decide) each matchedText_toString .append

theorem mySql_enclosesNames (tablePrefix : String) : (mySql tablePrefix).EnclosesNames where
  toWritesPlainly := mySql_writesPlainly tablePrefix
  operators_level := level_of_all rfl
  sharedLock_matched := (by decide : MatchedText "lock in share mode")
  limit_matched b := (MySql.bounds_numbered b).1.matched (by decide)
  offset_matched b := (MySql.bounds_numbered b).2.matched (by decide)
  datePart_matched part := by
    show MatchedText (part.keyword ++ "(" ++ "" ++ ")")
    cases part <;> decide
  jsonContains_matched negated := by
    show MatchedText ((if negated then "not " else "") ++ "json_contains(" ++ "" ++ ", " ++ ")")
    cases negated <;> decide
  jsonLength_matched := (by decide : MatchedText ("json_length(" ++ "" ++ ")"))
  truncate := ⟨"truncate table ", "", (by decide : Text.Plain '\x60' "truncate table "),
    (by decide : Text.Plain '\x60' ""), by decide, fun _ => by simp [mySql]⟩

theorem postgres_enclosesNames (tablePrefix : String) : (postgres tablePrefix).EnclosesNames where
  toWritesPlainly := postgres_writesPlainly tablePrefix
  operators_level := level_of_all rfl
  sharedLock_matched := (by decide : MatchedText "for share")
  limit_matched b := (Postgres.bounds_numbered b).1.matched (by decide)
  offset_matched b := (Postgres.bounds_numbered b).2.matched (by decide)
  datePart_matched part := by
    show MatchedText (Postgres.datePart part "")
    cases part <;> decide
  jsonContains_matched negated := by
    show MatchedText ((if negated then "not " else "") ++ "(" ++ "" ++ ")::jsonb @> " ++ "")
    cases negated <;> decide
  jsonLength_matched := (by decide : MatchedText ("jsonb_array_length((" ++ "" ++ ")::jsonb)"))
  truncate := ⟨"truncate ", " restart identity", (by decide : Text.Plain '"' "truncate "),
    (by decide : Text.Plain '"' " restart identity"), by decide, fun _ => rfl⟩

theorem generic_enclosesNames (tablePrefix : String) : (generic tablePrefix).EnclosesNames where
  toWritesPlainly := generic_writesPlainly tablePrefix
  operators_level := level_of_all rfl
  sharedLock_matched := (by decide : MatchedText "shared")
  limit_matched b := (Generic.bounds_numbered b).1.matched (by decide)
  offset_matched b := (Generic.bounds_numbered b).2.matched (by decide)
  datePart_matched part := by
    show MatchedText ("part(" ++ part.keyword ++ ", " ++ "" ++ ")")
    cases part <;> decide
  jsonContains_matched negated := by
    show MatchedText ("contains(" ++ "" ++ ", " ++ (", " ++ (if negated then "true" else "false") ++ ")"))
    cases negated <;> decide
  jsonLength_matched := (by decide : MatchedText ("length(" ++ "" ++ ")"))
  truncate := ⟨"empty ", "", (by decide : Text.Plain '|' "empty "), (by decide : Text.Plain '|' ""),
    by decide, fun _ => by simp [generic]⟩

namespace EnclosesNames

variable (h : d.EnclosesNames)

include h

theorem ordinary (c : Char) (known : Quotation.ordinary c = true) :
    (Quotation.names d.quoter.quote).opens c = false := by
  have apart : c ≠ d.quoter.quote := by
    rintro rfl
    obtain ⟨blank, letter, sign⟩ := h.quote
    simp only [Quotation.ordinary, blank, letter, Bool.or_self, Bool.false_or,
      List.contains_iff_mem] at known
    exact sign (List.mem_cons_of_mem _ known)
  simpa [Quotation.names] using apart

omit h in
theorem plain {s : String} (plain : d.Plain s) : (Quotation.names d.quoter.quote).Plain s := by
  intro c member
  have apart : c ≠ d.quoter.quote := by
    rintro rfl
    exact plain.1 member
  simpa [Quotation.names] using apart

theorem operator (given : String) :
    Outcome (SameOutline (.names d.quoter.quote)) (d.operator given) (d.operator given) := by
  unfold QueryDialect.operator
  dsimp only
  split
  · next known =>
    have doubled {c : Char} (member : c ∈ (String.ofList (Text.replaceChar '?' ['?', '?']
        (Text.lowercase (Text.trim given)).toList)).toList) :
        c ∈ (Text.lowercase (Text.trim given)).toList ∨ c = '?' := by
      rw [String.toList_ofList] at member
      simpa using Text.mem_replaceChar member
    refine .ok (.plain ?_ (matchedText_of_level ?_))
    · intro c member
      have apart : c ≠ d.quoter.quote := by
        rintro rfl
        rcases doubled member with inside | mark
        · exact h.operators _ known inside
        · exact h.quote_ne_mark mark
      simpa [Quotation.names] using apart
    · intro c member
      rcases doubled member with inside | rfl
      · exact h.operators_level _ known c inside
      · decide
  · exact .error _

omit h in
theorem around {front back s s' : String} (before : d.Plain front) (after : d.Plain back)
    (matched : MatchedText (front ++ back)) (inner : SameOutline (.names d.quoter.quote) s s') :
    SameOutline (.names d.quoter.quote) (front ++ s ++ back) (front ++ s' ++ back) := by
  unfold MatchedText at matched
  rw [String.toList_append, List.map_append] at matched
  exact inner.around (plain before) (plain after) matched

theorem value (v : Value) : (d.value v).sql = "?" := by
  rw [QueryDialect.value, h.positional]
  rfl

theorem mark : Quotation.Plain (.names d.quoter.quote) "?" := by
  intro c member
  have mark : c = '?' := by simpa using member
  simpa [Quotation.names, mark] using h.quote_ne_mark.symm

/-- A document stands in a text that encloses a column. -/
theorem containment (negated : Bool) {s s' : String}
    (inner : SameOutline (.names d.quoter.quote) s s') : SameOutline (.names d.quoter.quote)
      ((d.jsonContains negated s).1 ++ "?" ++ (d.jsonContains negated s).2)
      ((d.jsonContains negated s').1 ++ "?" ++ (d.jsonContains negated s').2) := by
  obtain ⟨front, middle, back, before, between, after, spelled⟩ := h.jsonContains negated
  have whole (t : String) :
      front ++ t ++ middle ++ "?" ++ back = front ++ t ++ (middle ++ "?" ++ back) := by
    simp [← String.toList_inj]
  have behind : Quotation.Plain (.names d.quoter.quote) (middle ++ "?" ++ back) := by
    intro c member
    rw [String.toList_append, String.toList_append, List.mem_append, List.mem_append] at member
    rcases member with (member | member) | member
    · exact plain between c member
    · exact h.mark c member
    · exact plain after c member
  have matched := h.jsonContains_matched negated
  have around_mark : Matched [some '?'] := by decide
  have level : Matched (front.toList.map some ++ (middle ++ "?" ++ back).toList.map some) := by
    simp only [spelled, MatchedText, String.toList_append, List.map_append] at matched
    simpa using Matched.around matched around_mark
  rw [spelled, spelled, whole, whole]
  exact inner.around (plain before) behind level

/-- Having one outline goes through every statement. -/
theorem simulation : WriteSimulation d d (.shapes d.quoter)
    fun f f' => SameOutline (.names d.quoter.quote) f.sql f'.sql := by
  have compatible := SameOutline.compatible h.ordinary
  have opens : (names d.quoter.quote).opens d.quoter.quote = true := by simp [names]
  have bare : (names d.quoter.quote).escapes d.quoter.quote = false := rfl
  have fixed {s : String} (known : s ∈ fixedTexts ++ boundaryTexts ++ insertTexts) :=
    SameOutline.fixed h.ordinary known
  have hook {f : String → String} (spelled : ∃ front back, d.Plain front ∧ d.Plain back ∧
      ∀ s, f s = front ++ s ++ back) (matched : MatchedText (f "")) {s s' : String}
      (inner : SameOutline (.names d.quoter.quote) s s') :
      SameOutline (.names d.quoter.quote) (f s) (f s') := by
    obtain ⟨front, back, before, after, spelled⟩ := spelled
    rw [spelled, String.append_empty] at matched
    rw [spelled, spelled]
    exact around before after matched inner
  constructor
  case toSimulation =>
    constructor
    case toClauseSimulation =>
      constructor
      case toCompatible => exact compatible
      case column => exact Quoter.columnName_outline compatible opens bare
      case table => exact Quoter.tableName_outline compatible opens bare
      case operator => exact h.operator
      case value =>
        intro v v' _
        show SameOutline _ (d.value v).sql (d.value v').sql
        rw [h.value, h.value]
        exact .plain h.mark (by decide)
      case expression => exact False.elim
      case clause => exact False.elim
      case datePart => exact fun part => hook (h.datePart part) (h.datePart_matched part)
      case jsonContains =>
        intro s s' v v' negated _ inner
        rw [Fragment.sql_ofText, Fragment.sql_ofText] at inner
        simpa only [Fragment.sql_append_text, Fragment.sql_text_append, h.value] using
          h.containment negated inner
      case jsonLength => exact hook h.jsonLength h.jsonLength_matched
    case bracketsUnions => rfl
    case joinedWrites => rfl
    case boundary => exact fun known => fixed (by simp [known])
    case sharedLock => exact .plain (plain h.sharedLock) h.sharedLock_matched
    case limit => exact fun b => .plain (plain (h.limit b)) (h.limit_matched b)
    case offset => exact fun b => .plain (plain (h.offset b)) (h.offset_matched b)
    case tableAlias => exact Quoter.tableAlias_outline compatible opens bare
    case unionName =>
      have same : d.quoter.tableShape "temp_table" = d.quoter.tableShape "temp_table" := rfl
      exact Quoter.tableName_outline compatible opens bare same
    case existsName =>
      have same : ("exists" == "*") = ("exists" == "*") := rfl
      exact Quoter.part_outline compatible opens bare same
  case name => rfl
  case insertIgnore => rfl
  case returnsKey => rfl
  case upserts => rfl
  case inserting => exact fun known => fixed (by simp [known])
  case idName =>
    have same : d.quoter.columnShape "id" = d.quoter.columnShape "id" := rfl
    exact Quoter.columnName_outline compatible opens bare same
  case truncate =>
    obtain ⟨front, back, before, after, matched, spelled⟩ := h.truncate
    intro s s' inner
    show SameOutline _ (d.truncate s) (d.truncate s')
    rw [spelled, spelled]
    exact around before after matched inner

end EnclosesNames

/-- MySQL, PostgreSQL, and every other dialect whose own texts are plain and have matched
parentheses. -/
inductive KeepsNames : QueryDialect → Prop
  | mySql (tablePrefix : String) : KeepsNames (mySql tablePrefix)
  | postgres (tablePrefix : String) : KeepsNames (postgres tablePrefix)
  | other {d : QueryDialect} (encloses : d.EnclosesNames) : KeepsNames d

theorem KeepsNames.enclosesNames {d : QueryDialect} (keeps : d.KeepsNames) : d.EnclosesNames := by
  cases keeps with
  | mySql tablePrefix => exact mySql_enclosesNames tablePrefix
  | postgres tablePrefix => exact postgres_enclosesNames tablePrefix
  | other encloses => exact encloses

/-- Names cannot leave their quotes: in every statement of a request without trusted SQL, quoted names
are ended and the parentheses outside them match, and a request of the same shape has the same text
outside quoted names. -/
theorem names_enclosed {d : QueryDialect} (keeps : d.KeepsNames) {r : Request}
    (plain : r.Obeys .none) {fs : List Fragment} (written : d.write r = .ok fs) :
    (∀ f ∈ fs, (names d.quoter.quote).Closed f.sql.toList ∧
      Matched ((names d.quoter.quote).outline f.sql)) ∧
    ∀ r', (Correspondence.shapes d.quoter).Requests r r' → ∃ fs', d.write r' = .ok fs' ∧
      List.Forall₂ (fun f f' => (names d.quoter.quote).outline f'.sql =
        (names d.quoter.quote).outline f.sql) fs fs' := by
  have within : ExpressionRule.none.Within (.shapes d.quoter) :=
    ⟨fun _ => rfl, fun _ => rfl, fun _ => trivial, False.elim, False.elim⟩
  have simulates := keeps.enclosesNames.simulation
  constructor
  · intro f member
    have itself := simulates.write (plain.requests within)
    rw [written] at itself
    obtain ⟨fs', same, related⟩ := itself.of_ok
    cases same
    have one := List.forall₂_same.mp related f member
    exact ⟨one.closed, one.matched⟩
  · intro r' shape
    have both := simulates.write shape
    rw [written] at both
    obtain ⟨fs', written', related⟩ := both.of_ok
    exact ⟨fs', written', related.imp fun _ _ one => one.same⟩

/-- A delete of the rows that have nothing in a column. -/
def emptiedRows (table column : String) : Request :=
  .delete {
    table := some (.name table)
    conditions := [⟨.and, .nested [⟨.or, .null false (.name column)⟩]⟩] }

theorem emptiedRows_obeys (table column : String) : (emptiedRows table column).Obeys .none := by
  simp [emptiedRows, Request.Obeys, Query.Obeys, Query.partsObey_iff, JoinsObey, ClausesObey,
    MembersObey, Predicate.Obeys, Ident.Obeys]

theorem emptiedRows_shape {w : Quoter} {table table' column column' : String}
    (named : w.tableShape table' = w.tableShape table)
    (tested : w.columnShape column' = w.columnShape column) :
    (Correspondence.shapes w).Requests (emptiedRows table column) (emptiedRows table' column') := by
  refine .delete (.mk ?_ .nil ?_ .nil)
  · constructor
    case table => exact .some (.name named)
    all_goals constructor
  · exact .cons (.nested (.cons (.null (.name tested)) .nil)) .nil

/-- Quotes, parentheses and keywords in names. -/
theorem names_enclosed_emptiedRows :
    ((mySql "").write (emptiedRows "t` where (" "u.x`) or (`y")).toOption.map (·.map Fragment.sql) =
      some ["delete from `t`` where (` where (`u`.`x``) or (``y` is null)"] ∧
    ∃ fs fs', (mySql "").write (emptiedRows "t` where (" "u.x`) or (`y") = .ok fs ∧
      (mySql "").write (emptiedRows "t" "a.b") = .ok fs' ∧
      (∀ f ∈ fs, (names '\x60').Closed f.sql.toList ∧ Matched ((names '\x60').outline f.sql)) ∧
      List.Forall₂ (fun f f' => (names '\x60').outline f'.sql = (names '\x60').outline f.sql)
        fs fs' := by
  have text : ((mySql "").write (emptiedRows "t` where (" "u.x`) or (`y")).toOption.map
      (·.map Fragment.sql) =
      some ["delete from `t`` where (` where (`u`.`x``) or (``y` is null)"] := by
    decide
  obtain ⟨fs, written, _⟩ := success_of_toOption text
  obtain ⟨enclosed, unchanged⟩ :=
    names_enclosed (.mySql "") (emptiedRows_obeys _ _) written
  obtain ⟨fs', written', same⟩ := unchanged (emptiedRows "t" "a.b")
    (emptiedRows_shape (by decide) (by decide))
  exact ⟨text, fs, fs', written, written', enclosed, same⟩

end QueryDialect
end SqlCompose
