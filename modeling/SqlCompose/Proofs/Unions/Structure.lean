import SqlCompose.Proofs.Unions.Reading

/-!
# The structure of unions is preserved

The text of a select is one of its union tree. In MySQL, where united queries stand in parentheses, the
text determines the tree. In PostgreSQL they stand bare, so the text determines the marks of the tree,
and of a flat union also the tree, unless texts behind its last query could belong to that query or to
the union.
-/
namespace SqlCompose

mutual
/-- Neither the query nor its united queries have an aggregate. -/
def Query.Unaggregated : Query → Prop
  | { aggregate, members, .. } => aggregate = none ∧ MembersUnaggregated members

def MembersUnaggregated : List Member → Prop
  | [] => True
  | { query, .. } :: members => query.Unaggregated ∧ MembersUnaggregated members
end

namespace QueryDialect

section Trees

variable (d : QueryDialect) (normal : Bounds → Bounds)

mutual
/-- The union tree of a query, with its bounds as `normal` reads them. -/
def unionTree : Query → UnionTree
  | q@{ members, .. } =>
    match memberTrees members with
    | [] => .select (d.closing normal q)
    | trees => .union (d.closing normal q) trees (d.unionClosing normal q)

def memberTrees : List Member → List UnitedTree
  | [] => []
  | { query, all } :: members => ⟨all, unionTree query⟩ :: memberTrees members
end

end Trees

namespace Closes

variable {d : QueryDialect} {normal : Bounds → Bounds} (h : d.Closes normal)

include h

theorem bracket_words {f : Fragment} (balanced : Text.Balanced d.quoter.quote f.sql.toList) :
    Text.Balanced d.quoter.quote (d.bracket f).sql.toList ∧
      Text.words d.quoter.quote (d.bracket f).sql =
        queryWords d.quoter.quote d.bracketsUnions f.sql := by
  unfold bracket queryWords
  split
  · have one := Text.solitary_parentheses h.quotes.brackets balanced
    have text : ("(" ++ f ++ ")").sql = "(" ++ f.sql ++ ")" := by simp
    rw [text]
    exact ⟨one.1, Text.words_of_solitary one (by simp)⟩
  · exact ⟨balanced, rfl⟩

theorem united_words (all : Bool) {f : Fragment}
    (balanced : Text.Balanced d.quoter.quote f.sql.toList) :
    Text.Balanced d.quoter.quote ((if all then "union all " else "union ") ++ f).sql.toList ∧
      Text.words d.quoter.quote ((if all then "union all " else "union ") ++ f).sql =
        unionWords all ++ Text.words d.quoter.quote f.sql := by
  have union_word : Tight d.quoter.quote "union" ["union"] :=
    .letters h.quotes (by decide) (by decide)
  have all_word : Tight d.quoter.quote "all" ["all"] := .letters h.quotes (by decide) (by decide)
  cases all with
  | false =>
    have spelled : ((if false then "union all " else "union ") ++ f).sql = "union" ++ " " ++ f.sql := by
      simp
    rw [spelled, Text.words_space h.quotes.shown union_word.balanced, union_word.words]
    exact ⟨Text.balanced_space h.quotes.shown union_word.balanced balanced, rfl⟩
  | true =>
    have both := union_word.space h.quotes.shown all_word
    have spelled : ((if true then "union all " else "union ") ++ f).sql =
        "union" ++ " " ++ "all" ++ " " ++ f.sql := by
      simp
    rw [spelled, Text.words_space h.quotes.shown both.balanced, both.words]
    exact ⟨Text.balanced_space h.quotes.shown both.balanced balanced, rfl⟩

/-- The words behind the first query of a union. -/
theorem assembleUnion_words {q : Query} (parts : q.PartsObey .none) {united : List Fragment}
    (balanced : ∀ g ∈ united, Text.Balanced d.quoter.quote g.sql.toList) :
    Text.words d.quoter.quote (d.assembleUnion q united).sql =
      united.flatMap (fun g => Text.words d.quoter.quote g.sql) ++
        (d.unionClosing normal q).texts.flatMap (Text.words d.quoter.quote) := by
  have order := (h.queries.ordersText parts.unionOrders).2.1
  have each : ∀ s ∈ united.map (·.sql) ++ [d.ordersText q.unionOrders,
      d.limit ⟨q.unionLimit, q.unionOffset⟩, d.offset ⟨q.unionLimit, q.unionOffset⟩],
      Text.Balanced d.quoter.quote s.toList := by
    intro s member
    rcases List.mem_append.mp member with member | member
    · obtain ⟨g, inside, rfl⟩ := List.mem_map.mp member
      exact balanced g inside
    · rcases List.mem_cons.mp member with rfl | member
      · exact order
      · rcases List.mem_pair.mp member with rfl | rfl
        · exact h.limit _
        · exact h.offset _
  have text : (d.assembleUnion q united).sql = concatenate (united.map (·.sql) ++
      [d.ordersText q.unionOrders, d.limit ⟨q.unionLimit, q.unionOffset⟩,
        d.offset ⟨q.unionLimit, q.unionOffset⟩]) := by
    show concatenate (List.map Fragment.sql (united ++ _)) = _
    rw [List.map_append]
    rfl
  have closing := h.words_closing (d.ordersText q.unionOrders) "" ⟨q.unionLimit, q.unionOffset⟩
  rw [Text.words_empty, List.append_nil] at closing
  rw [text, Text.words_concatenate h.quotes.shown each, List.flatMap_append, List.flatMap_map,
    unionClosing, ← closing]
  simp only [List.flatMap_cons, List.flatMap_nil, List.append_nil]

/-- The words of a union are those of its queries, and then its own order and bounds. -/
theorem union_words {q : Query} (parts : q.PartsObey .none) {first : Fragment}
    {united : List Fragment} (closed : Text.Balanced d.quoter.quote first.sql.toList)
    (balanced : ∀ g ∈ united, Text.Balanced d.quoter.quote g.sql.toList) :
    Text.words d.quoter.quote (d.bracket first ++ " " ++ d.assembleUnion q united).sql =
      queryWords d.quoter.quote d.bracketsUnions first.sql ++
        (united.flatMap (fun g => Text.words d.quoter.quote g.sql) ++
          (d.unionClosing normal q).texts.flatMap (Text.words d.quoter.quote)) := by
  obtain ⟨bracketed, words⟩ := h.bracket_words closed
  have text : (d.bracket first ++ " " ++ d.assembleUnion q united).sql =
      (d.bracket first).sql ++ " " ++ (d.assembleUnion q united).sql := by simp
  rw [text, Text.words_space h.quotes.shown bracketed, words, h.assembleUnion_words parts balanced]

mutual
/-- The text of a select is one of its union tree. -/
theorem select_written : ∀ {q : Query} {f : Fragment}, q.Obeys .none → q.Unaggregated →
    d.select q = .ok f → Written d.quoter.quote d.bracketsUnions (d.unionTree normal q) f.sql
  | { members, .. }, f, ⟨parts, inJoins, inConditions, inMembers⟩, ⟨alone, unaggregated⟩, written => by
    unfold QueryDialect.select at written
    obtain ⟨js, joined, written⟩ := bind_success written
    obtain ⟨cs, met, written⟩ := bind_success written
    obtain ⟨hs, had, written⟩ := bind_success written
    obtain ⟨gs, wrote, written⟩ := bind_success written
    have united := memberList_written inMembers unaggregated wrote
    have c := h.clauses (List.Subset.refl closingWords)
    have joins := (c.joinWith c.space (h.joinFragments_avoids inJoins joined)).2
    have conditions := (c.under "where" (by decide) (h.conditionList_avoids inConditions met)).2
    have havings := Legible.throughout_of (c.havings parts.havings) had
    have first := h.assemble_reads parts joins conditions havings
    have text := Except.ok.inj written
    rw [← text]
    cases alone
    cases members with
    | nil =>
      cases wrote
      exact .select first
    | cons m ms =>
      obtain ⟨query, all⟩ := m
      unfold QueryDialect.memberList at wrote
      obtain ⟨inner, _, wrote⟩ := bind_success wrote
      obtain ⟨others, _, wrote⟩ := bind_success wrote
      cases wrote
      exact .union first united.2 (List.cons_ne_nil _ _) (h.unionClosing_proper parts)
        (h.union_words parts first.balanced united.1)

theorem memberList_written : ∀ {ms : List Member} {united : List Fragment},
    MembersObey .none ms → MembersUnaggregated ms → d.memberList ms = .ok united →
      (∀ g ∈ united, Text.Balanced d.quoter.quote g.sql.toList) ∧
      MembersWritten d.quoter.quote d.bracketsUnions (d.memberTrees normal ms)
        (united.flatMap fun g => Text.words d.quoter.quote g.sql)
  | [], united, _, _, written => by
    cases written
    exact ⟨by simp, .nil⟩
  | { query, all } :: ms, united, ⟨inQuery, others⟩, ⟨unaggregated, rest⟩, written => by
    unfold QueryDialect.memberList at written
    obtain ⟨f, wrote, written⟩ := bind_success written
    obtain ⟨gs, wrote_rest, written⟩ := bind_success written
    cases written
    have balanced := h.balanced_select inQuery wrote
    obtain ⟨bracketed, words⟩ := h.bracket_words balanced
    obtain ⟨first, spelled⟩ := h.united_words all bracketed
    obtain ⟨each, read⟩ := memberList_written others rest wrote_rest
    refine ⟨List.forall_mem_cons.mpr ⟨first, each⟩, ?_⟩
    · rw [List.flatMap_cons, spelled, words, List.append_assoc]
      exact .cons (select_written inQuery unaggregated wrote) read
end

end Closes

/-- Queries with one text have one union structure: in MySQL the whole tree, in PostgreSQL its marks. In
PostgreSQL they have the whole tree too if no united query is a union and the texts at the end can only
be those of the last query, or only those of the union. -/
theorem select_unions_inj (tablePrefix : String) {q q' : Query} (plain : q.Obeys .none)
    (plain' : q'.Obeys .none) (unaggregated : q.Unaggregated) (unaggregated' : q'.Unaggregated) :
    (∀ f f', (mySql tablePrefix).select q = .ok f → (mySql tablePrefix).select q' = .ok f' →
      f.sql = f'.sql →
      (mySql tablePrefix).unionTree MySql.normal q = (mySql tablePrefix).unionTree MySql.normal q') ∧
    (∀ f f', (postgres tablePrefix).select q = .ok f → (postgres tablePrefix).select q' = .ok f' →
      f.sql = f'.sql →
      let tree := (postgres tablePrefix).unionTree id q
      let tree' := (postgres tablePrefix).unionTree id q'
      tree.marks = tree'.marks ∧
      (tree.Flat → tree'.Flat →
        tree.LastOpen ∧ tree'.LastOpen ∨ tree.WholeOpen ∧ tree'.WholeOpen → tree = tree')) := by
  constructor
  · intro f f' written written' same
    have text := (mySql_closes tablePrefix).select_written plain unaggregated written
    have text' := (mySql_closes tablePrefix).select_written plain' unaggregated' written'
    rw [← same] at text'
    exact text.tree_inj mySql_quotes text'
  · intro f f' written written' same
    have text := (postgres_closes tablePrefix).select_written plain unaggregated written
    have text' := (postgres_closes tablePrefix).select_written plain' unaggregated' written'
    rw [← same] at text'
    have marks := text.marks_inj postgres_quotes text'
    exact ⟨marks, fun flat flat' opened => text.flat_inj postgres_quotes text' flat flat' opened marks⟩

/-- A union of two tables, selecting every column of the first as `columns` says. -/
def tablesUnion (columns : Option (List Ident)) : Query where
  columns := columns
  table := some (.name "users")
  limit := some 3
  members := [⟨{ table := some (.name "posts") }, true⟩]
  unionOffset := some 5

theorem tablesUnion_obeys (columns : Option (List Ident)) (none : columns.getD [] = []) :
    (tablesUnion columns).Obeys .none := by
  simp [tablesUnion, Query.Obeys, Query.partsObey_iff, JoinsObey, ClausesObey, MembersObey,
    Ident.Obeys, none]

/-- No list of columns and the empty one are one text. -/
theorem select_unions_inj_tablesUnion :
    ((mySql "").select (tablesUnion none)).toOption.map (·.sql) = some (
      "(select * from \x60users\x60 limit 3) union all (select * from \x60posts\x60) " ++
      "limit 18446744073709551615 offset 5") ∧
    (mySql "").unionTree MySql.normal (tablesUnion none) =
      (mySql "").unionTree MySql.normal (tablesUnion (some [])) ∧
    (postgres "").unionTree id (tablesUnion none) =
      (postgres "").unionTree id (tablesUnion (some [])) := by
  have mySql_texts : ∀ columns ∈ [none, some []],
      ((mySql "").select (tablesUnion columns)).toOption.map (·.sql) = some (
        "(select * from \x60users\x60 limit 3) union all (select * from \x60posts\x60) " ++
        "limit 18446744073709551615 offset 5") := by decide +kernel
  have postgres_texts : ∀ columns ∈ [none, some []],
      ((postgres "").select (tablesUnion columns)).toOption.map (·.sql) =
        some "select * from \"users\" limit 3 union all select * from \"posts\" offset 5" := by
    decide +kernel
  have unaggregated (columns : Option (List Ident)) : (tablesUnion columns).Unaggregated := by
    simp [tablesUnion, Query.Unaggregated, MembersUnaggregated]
  obtain ⟨mySql_same, postgres_same⟩ := select_unions_inj "" (tablesUnion_obeys none rfl)
    (tablesUnion_obeys (some []) rfl) (unaggregated none) (unaggregated (some []))
  obtain ⟨f, written, text⟩ := success_of_toOption (mySql_texts none (by simp))
  obtain ⟨f', written', text'⟩ := success_of_toOption (mySql_texts (some []) (by simp))
  obtain ⟨g, wrote, spelled⟩ := success_of_toOption (postgres_texts none (by simp))
  obtain ⟨g', wrote', spelled'⟩ := success_of_toOption (postgres_texts (some []) (by simp))
  refine ⟨mySql_texts none (by simp), mySql_same f f' written written' (text.trans text'.symm), ?_⟩
  obtain ⟨_, flat_same⟩ := postgres_same g g' wrote wrote' (spelled.trans spelled'.symm)
  have last (columns : Option (List Ident)) :
      ((postgres "").unionTree id (tablesUnion columns)).LastOpen := by
    intro m member
    cases Option.mem_some.mp member
    rfl
  have flat (columns : Option (List Ident)) :
      ((postgres "").unionTree id (tablesUnion columns)).Flat := by
    intro m member
    cases List.mem_singleton.mp member
    exact ⟨_, rfl⟩
  exact flat_same (flat _) (flat _) (.inl ⟨last _, last _⟩)

/-- A union whose last query has a limit. -/
def limitedMember : Query where
  table := some (.name "users")
  members := [⟨{ table := some (.name "posts"), limit := some 1 }, false⟩]

/-- A union with a limit. -/
def limitedUnion : Query where
  table := some (.name "users")
  members := [⟨{ table := some (.name "posts") }, false⟩]
  unionLimit := some 1

/-- A union of a table and a union. -/
def nestedUnion : Query where
  table := some (.name "users")
  members := [⟨{ table := some (.name "posts"), members := [⟨{ table := some (.name "tags") }, true⟩] },
    false⟩]

/-- A union of three tables. -/
def chainedUnion : Query where
  table := some (.name "users")
  members := [⟨{ table := some (.name "posts") }, false⟩, ⟨{ table := some (.name "tags") }, true⟩]

/-- In PostgreSQL the limit of the last query reads as that of the union, and a nested union as one
chain. -/
theorem postgres_unions_bare :
    (∀ q ∈ [limitedMember, limitedUnion, nestedUnion, chainedUnion],
      q.Obeys .none ∧ q.Unaggregated ∧ q.members ≠ []) ∧
    ((postgres "").select limitedMember).toOption.map (·.sql) =
      some "select * from \"users\" union select * from \"posts\" limit 1" ∧
    ((postgres "").select limitedUnion).toOption.map (·.sql) =
      some "select * from \"users\" union select * from \"posts\" limit 1" ∧
    (postgres "").unionTree id limitedMember ≠ (postgres "").unionTree id limitedUnion ∧
    ((postgres "").select nestedUnion).toOption.map (·.sql) =
      some "select * from \"users\" union select * from \"posts\" union all select * from \"tags\"" ∧
    ((postgres "").select chainedUnion).toOption.map (·.sql) =
      some "select * from \"users\" union select * from \"posts\" union all select * from \"tags\"" ∧
    (postgres "").unionTree id nestedUnion ≠ (postgres "").unionTree id chainedUnion := by
  refine ⟨?_, by decide +kernel, by decide +kernel, ?_, by decide +kernel, by decide +kernel, ?_⟩
  · simp [limitedMember, limitedUnion, nestedUnion, chainedUnion, Query.Obeys, Query.partsObey_iff,
      JoinsObey, ClausesObey, MembersObey, Ident.Obeys, Query.Unaggregated, MembersUnaggregated]
  · intro same
    obtain ⟨_, _, whole⟩ := UnionTree.union.inj same
    exact absurd (congrArg (·.bounds.limit) whole) (by decide)
  · intro same
    obtain ⟨_, members, _⟩ := UnionTree.union.inj same
    cases congrArg List.length members

end QueryDialect
end SqlCompose
