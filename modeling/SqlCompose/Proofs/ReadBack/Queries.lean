import SqlCompose.Proofs.ReadBack.Values
import SqlCompose.Query.Json

/-!
# Reading queries back

What is written for a query is read as that query, in the open and beneath a tag. The induction goes
through the conditions, joins and united queries, whose own queries are read beneath a tag.
-/
namespace SqlCompose

open Json Json.Members

/-! ## Words -/

section Words

variable (place : Json.Place)

theorem Connective.ofJsonAt?_keyword :
    ReadsBack (fun c => .string c.keyword) (Connective.ofJsonAt? place) := by
  intro c
  cases c <;> rfl

theorem DatePart.ofJson?_keyword : ReadsBack (fun p => .string p.keyword) DatePart.ofJson? := by
  intro p
  cases p <;> rfl

theorem AggregateFunction.ofJsonAt?_keyword :
    ReadsBack (fun f => .string f.keyword) (AggregateFunction.ofJsonAt? place) := by
  intro f
  cases f <;> rfl

theorem JoinKind.ofJsonAt?_keyword :
    ReadsBack (fun k => .string k.keyword) (JoinKind.ofJsonAt? place) := by
  intro k
  cases k <;> rfl

theorem Direction.ofJsonAt?_keyword :
    ReadsBack (fun d => .string d.keyword) (Direction.ofJsonAt? place) := by
  intro d
  cases d <;> rfl

end Words

/-! ## Parts without queries -/

theorem Aggregate.ofJsonAt?_toJson (place : Json.Place) : ReadsBack toJson (ofJsonAt? place) := by
  intro a
  refine bind_read rfl ?_
  refine bind_read (required?_of_lookup (AggregateFunction.ofJsonAt?_keyword place) rfl) ?_
  exact bind_read (required?_of_lookup Ident.ofJson?_toJson.list rfl) rfl

theorem SortKey.ofJsonAt?_toJson (place : Json.Place) : ReadsBack toJson (ofJsonAt? place) := by
  intro k
  refine bind_read rfl ?_
  refine bind_read (required?_of_lookup Ident.ofJson?_toJson rfl) ?_
  exact bind_read (defaulted?_of_lookup (Direction.ofJsonAt?_keyword place) rfl _) rfl

/-- The three fields of a comparison. -/
theorem comparison_read {α : Type} {fields : Json.Members} {column : Ident} {operator : String}
    {operand : Operand} {test : Ident → String → Operand → α}
    (c : List.lookup "column" fields = some column.toJson)
    (o : List.lookup "operator" fields = some (.string operator))
    (v : List.lookup "value" fields = some operand.toJson) :
    (do
      return test (← required? fields "column" Ident.ofJson?)
        (← required? fields "operator" string?) (← required? fields "value" Operand.ofJson?)) =
      some (test column operator operand) := by
  refine bind_read (required?_of_lookup Ident.ofJson?_toJson c) ?_
  refine bind_read (required?_of_lookup string_readsBack o) ?_
  exact bind_read (required?_of_lookup Operand.ofJson?_toJson v) rfl

theorem HavingTest.ofMembers?_members (connective : Json) (test : HavingTest) :
    ofMembers? (("boolean", connective) :: test.members) = some test := by
  cases test with
  | compare column operator operand =>
    refine bind_read (b := "basic") rfl ?_
    exact comparison_read rfl rfl rfl
  | raw sql bindings =>
    refine bind_read (b := "raw") rfl ?_
    refine bind_read (required?_of_lookup Expression.ofJson?_toJson rfl) ?_
    exact bind_read (defaulted?_of_lookup (Value.ofJsonAt?_toJson .tagged).list rfl _) rfl

theorem HavingClause.ofJsonAt?_toJson (place : Json.Place) : ReadsBack toJson (ofJsonAt? place) := by
  intro c
  refine bind_read rfl ?_
  refine bind_read (defaulted?_of_lookup (Connective.ofJsonAt?_keyword place) rfl _) ?_
  exact bind_read (HavingTest.ofMembers?_members _ c.test) rfl

theorem Lock.ofJsonAt?_toJson (place : Json.Place) : ReadsBack toJson (ofJsonAt? place) := by
  intro lock
  cases lock <;> rfl

theorem Aggregate.toJson_ne_null : NeverNull toJson := fun _ => nofun

theorem Lock.toJson_ne_null : NeverNull toJson := by
  intro lock
  cases lock <;> exact nofun

theorem bounds?_readsBack :
    ReadsBack (fun bounds => .array [bounds.1.toJson, bounds.2.toJson]) bounds? := by
  intro bounds
  refine bind_read (Operand.ofJson?_toJson bounds.1) ?_
  exact bind_read (Operand.ofJson?_toJson bounds.2) rfl

/-- The parts of a query that hold no other query, in an object that holds the others as well. -/
theorem Query.ofFlatMembers?_toJson (place : Json.Place) (q : Query) {fields : Json.Members}
    (written : q.toJson = .object fields) :
    ofFlatMembers? place fields =
      some { q with joins := [], conditions := [], members := [] } := by
  cases q
  cases written
  -- One step for each field, in the order in which they are read.
  refine bind_read (optional?_of_lookup Ident.ofJson?_toJson.list list_ne_null rfl) ?_
  refine bind_read (defaulted?_of_lookup bool_readsBack rfl _) ?_
  refine bind_read (optional?_of_lookup (Aggregate.ofJsonAt?_toJson place)
    Aggregate.toJson_ne_null rfl) ?_
  refine bind_read (optional?_of_lookup Ident.ofJson?_toJson Ident.toJson_ne_null rfl) ?_
  refine bind_read (defaulted?_of_lookup Ident.ofJson?_toJson.list rfl _) ?_
  refine bind_read (defaulted?_of_lookup (HavingClause.ofJsonAt?_toJson place).list rfl _) ?_
  refine bind_read (defaulted?_of_lookup (SortKey.ofJsonAt?_toJson place).list rfl _) ?_
  refine bind_read (optional?_of_lookup uint64_readsBack uint64_ne_null rfl) ?_
  refine bind_read (optional?_of_lookup uint64_readsBack uint64_ne_null rfl) ?_
  refine bind_read (optional?_of_lookup (Lock.ofJsonAt?_toJson place) Lock.toJson_ne_null rfl) ?_
  refine bind_read (defaulted?_of_lookup (SortKey.ofJsonAt?_toJson place).list rfl _) ?_
  refine bind_read (optional?_of_lookup uint64_readsBack uint64_ne_null rfl) ?_
  exact bind_read (optional?_of_lookup uint64_readsBack uint64_ne_null rfl) rfl

/-- A query is read back if its parts that hold queries are. -/
theorem Query.ofJsonAt?_of_parts (place : Json.Place) (q : Query)
    (joined : joinsOf? place (joinsToJson q.joins) = some q.joins)
    (met : clausesOf? place (clausesToJson q.conditions) = some q.conditions)
    (united : unitedOf? place (membersToJson q.members) = some q.members) :
    ofJsonAt? place q.toJson = some q := by
  obtain ⟨fields, written⟩ : ∃ fields, q.toJson = .object fields := by
    cases q
    exact ⟨_, rfl⟩
  have flat := ofFlatMembers?_toJson place q written
  -- With its parts known the query is an object whose keys can be looked up.
  cases q
  cases written
  refine bind_read flat ?_
  refine bind_read joined ?_
  refine bind_read met ?_
  exact bind_read united rfl

/-! ## Conditions, joins, unions and queries

The place of a query changes on the way down, so the induction is for all places.
-/

mutual
theorem Query.ofJsonAt?_toJson : ∀ (place : Json.Place) (q : Query),
    Query.ofJsonAt? place q.toJson = some q
  | place, { joins, conditions, members, .. } =>
    Query.ofJsonAt?_of_parts place _ (joinsOf?_joinsToJson place joins)
      (clausesOf?_clausesToJson place conditions) (unitedOf?_membersToJson place members)

theorem joinsOf?_joinsToJson : ∀ (place : Json.Place) (joins : List Join),
    joinsOf? place (joinsToJson joins) = some joins
  | _, [] => rfl
  | place, join :: joins => by
    refine bind_read (Join.ofJsonAt?_toJson place join) ?_
    exact bind_read (joinsOf?_joinsToJson place joins) rfl

theorem Join.ofJsonAt?_toJson : ∀ (place : Json.Place) (join : Join),
    Join.ofJsonAt? place join.toJson = some join
  | place, { kind, table, conditions } => by
    refine bind_read (defaulted?_of_lookup (JoinKind.ofJsonAt?_keyword place) rfl _) ?_
    refine bind_read (required?_of_lookup Ident.ofJson?_toJson rfl) ?_
    exact bind_read (clausesOf?_clausesToJson place conditions) rfl

theorem clausesOf?_clausesToJson : ∀ (place : Json.Place) (clauses : List Clause),
    clausesOf? place (clausesToJson clauses) = some clauses
  | _, [] => rfl
  | place, clause :: clauses => by
    refine bind_read (Clause.ofJsonAt?_toJson place clause) ?_
    exact bind_read (clausesOf?_clausesToJson place clauses) rfl

theorem Clause.ofJsonAt?_toJson : ∀ (place : Json.Place) (clause : Clause),
    Clause.ofJsonAt? place clause.toJson = some clause
  | place, { connective, predicate } => by
    refine bind_read (defaulted?_of_lookup (Connective.ofJsonAt?_keyword place) rfl _) ?_
    exact bind_read (Predicate.ofMembers?_members (.string connective.keyword) predicate) rfl

/-- A predicate is read from its fields, also behind the connective. -/
theorem Predicate.ofMembers?_members : ∀ (connective : Json) (p : Predicate),
    Predicate.ofMembers? (("boolean", connective) :: p.members)
      (queryUnder? .tagged (("boolean", connective) :: p.members))
      ((clausesUnder? .tagged (("boolean", connective) :: p.members)).getD none) = some p
  | _, .compare column operator operand => by
    refine bind_read (b := "basic") rfl ?_
    exact comparison_read rfl rfl rfl
  | _, .compareColumns first operator second => by
    refine bind_read (b := "column") rfl ?_
    refine bind_read (required?_of_lookup Ident.ofJson?_toJson rfl) ?_
    refine bind_read (required?_of_lookup string_readsBack rfl) ?_
    exact bind_read (required?_of_lookup Ident.ofJson?_toJson rfl) rfl
  | _, .oneOf negated column operands => by
    cases negated <;>
    · refine bind_read rfl ?_
      refine bind_read (required?_of_lookup Ident.ofJson?_toJson rfl) ?_
      exact bind_read (required?_of_lookup Operand.ofJson?_toJson.list rfl) rfl
  | _, .oneOfQuery negated column query => by
    cases negated <;>
    · refine bind_read rfl ?_
      refine bind_read (required?_of_lookup Ident.ofJson?_toJson rfl) ?_
      exact bind_read (Query.ofJsonAt?_toJson .tagged query) rfl
  | _, .null negated column => by
    cases negated <;>
    · refine bind_read rfl ?_
      exact bind_read (required?_of_lookup Ident.ofJson?_toJson rfl) rfl
  | _, .between negated column low high => by
    refine bind_read (b := "between") rfl ?_
    refine bind_read (required?_of_lookup bounds?_readsBack (a := (low, high)) rfl) ?_
    refine bind_read (defaulted?_of_lookup bool_readsBack rfl _) ?_
    exact bind_read (required?_of_lookup Ident.ofJson?_toJson rfl) rfl
  | _, .existsQuery negated query => by
    cases negated <;>
    · refine bind_read rfl ?_
      exact bind_read (Query.ofJsonAt?_toJson .tagged query) rfl
  | _, .nested clauses => by
    refine bind_read (b := "nested") rfl ?_
    exact bind_read (clausesOf?_clausesToJson .tagged clauses) rfl
  | _, .raw sql bindings => by
    refine bind_read (b := "raw") rfl ?_
    refine bind_read (required?_of_lookup Expression.ofJson?_toJson rfl) ?_
    exact bind_read (defaulted?_of_lookup (Value.ofJsonAt?_toJson .tagged).list rfl _) rfl
  | _, .datePart part column operator operand => by
    refine bind_read (b := "date_part") rfl ?_
    refine bind_read (required?_of_lookup DatePart.ofJson?_keyword rfl) ?_
    exact comparison_read rfl rfl rfl
  | _, .jsonContains negated column document => by
    refine bind_read (b := "json_contains") rfl ?_
    refine bind_read (defaulted?_of_lookup bool_readsBack rfl _) ?_
    exact bind_read (required?_of_lookup Ident.ofJson?_toJson rfl) rfl
  | _, .jsonLength column operator operand => by
    refine bind_read (b := "json_length") rfl ?_
    exact comparison_read rfl rfl rfl

theorem unitedOf?_membersToJson : ∀ (place : Json.Place) (members : List Member),
    unitedOf? place (membersToJson members) = some members
  | _, [] => rfl
  | place, member :: members => by
    refine bind_read (Member.ofJsonAt?_toJson place member) ?_
    exact bind_read (unitedOf?_membersToJson place members) rfl

theorem Member.ofJsonAt?_toJson : ∀ (place : Json.Place) (member : Member),
    Member.ofJsonAt? place member.toJson = some member
  | place, { query, all } => by
    refine bind_read (Query.ofJsonAt?_toJson place query) ?_
    exact bind_read (defaulted?_of_lookup bool_readsBack rfl _) rfl
end

/-! ## Keys

The fields of a predicate stand beside the connective, and share no key with it.
-/

theorem Clause.keys_nodup (c : Clause) : c.toJson.keys.Nodup := by
  obtain ⟨connective, predicate⟩ := c
  cases predicate <;> simp [toJson, Predicate.members, keys]

theorem HavingClause.keys_nodup (c : HavingClause) : c.toJson.keys.Nodup := by
  obtain ⟨connective, test⟩ := c
  cases test <;> simp [toJson, HavingTest.members, keys]

end SqlCompose
