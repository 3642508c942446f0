import SqlCompose.Dialect.Generic
import SqlCompose.Dialect.MySql
import SqlCompose.Proofs.Conditions.Folded
import SqlCompose.Proofs.Heads
import SqlCompose.Proofs.Listing.Checked
import SqlCompose.Proofs.Occurrence

/-!
# Joins of a delete

MySQL and PostgreSQL write every joined table and its conditions into a delete, with their values, and
the delete differs from the one without the joins. A dialect that keeps the default layout writes the
delete without them (`deletes_and_joins`).
-/
namespace SqlCompose

open Text (Occurs Bare bare_trim isBlank spaced spaced_cons trimEnd)

theorem joinConditions_occurs (front part back : List (Connective × String)) :
    Occurs (joinConditions part) (joinConditions (front ++ (part ++ back))) := by
  cases part with
  | nil => exact .empty _
  | cons first part =>
    have start : Occurs (joinConditions (first :: part)) (joinConditions (first :: part ++ back)) := by
      cases back with
      | nil => rw [List.append_nil]; exact .refl _
      | cons next back =>
        rw [joinConditions_append (by simp)]
        simp only [String.append_assoc]
        exact .before _
    by_cases alone : front = []
    · rw [alone]
      exact start
    · rw [List.cons_append, joinConditions_append alone]
      exact start.trans (.behind _)

namespace Condition

/-- A row of conditions stands as a whole in a row of which it is a part. -/
theorem join_occurs (front part back : List Condition) :
    Occurs (join part).sql (join (front ++ (part ++ back))).sql := by
  have whole (conditions : List Condition) : (join conditions).sql =
      joinConditions ((visible conditions).map fun c => (c.connective, c.fragment.sql)) := rfl
  rw [whole, whole, visible_append, visible_append, List.map_append, List.map_append]
  exact joinConditions_occurs _ _ _

theorem under_occurs (keyword : String) (conditions : List Condition) :
    Occurs (join conditions).sql (under keyword conditions).sql := by
  unfold under
  dsimp only
  split
  · exact .refl _
  · exact .behind _

end Condition

/-! ## Names before and behind a keyword -/

/-- No blanks stand between a name and the `from` behind it if the whole is the name with `from`
before it: the characters before and behind the name are as many, and only one of them is blank. -/
theorem Text.no_blanks_before_from {name blank rest tail : List Char}
    (blanks : ∀ c ∈ blank, isBlank c = true)
    (same : name ++ (blank ++ (" from".toList ++ rest)) = "from ".toList ++ name ++ tail) :
    blank = [] := by
  have counted : ((blank ++ (" from".toList ++ rest)).take 5).countP isBlank = 1 := by
    have taken := congrArg (fun cs => (cs.take (name.length + 5)).countP isBlank) same
    have front : ("from ".toList ++ name ++ tail).take (name.length + 5) = "from ".toList ++ name :=
      List.take_left' (by simp)
    have five : "from ".toList.countP isBlank = 1 := by decide
    simp only [List.take_length_add_append, front, List.countP_append, five] at taken
    omega
  have space : isBlank ' ' = true := by decide
  cases blank with
  | nil => rfl
  | cons b bs =>
    have shown := blanks b (by simp)
    cases bs with
    | nil => simp [shown, space] at counted
    | cons b' bs =>
      have shown' := blanks b' (by simp)
      simp [shown, shown'] at counted

/-- A name that stands before `from` and again behind it is not read as one name behind `from`. -/
theorem Text.doubled_name (name r : String) {s : String} (other : ∀ c ∈ s.toList.head?, c ≠ 'f') :
    name ++ " from" ++ spaced (trimEnd name) ++ r ≠
      "from" ++ spaced (trimEnd name) ++ spaced s := by
  intro same
  have spelled : (trimEnd name).toList = name.toList.rdropWhile isBlank := String.toList_ofList
  have split : name.toList.rdropWhile isBlank ++ name.toList.rtakeWhile isBlank = name.toList :=
    List.rdropWhile_append_rtakeWhile
  have blanks : ∀ c ∈ name.toList.rtakeWhile isBlank, isBlank c = true :=
    fun c => List.mem_rtakeWhile_imp
  generalize name.toList.rtakeWhile isBlank = blank at split blanks
  cases kept : name.toList.rdropWhile isBlank with
  | nil =>
    have chars := congrArg String.toList same
    rw [kept, List.nil_append] at split
    simp only [String.toList_append, ← split] at chars
    cases blank with
    | nil => cases chars
    | cons c cs =>
      have first : c = 'f' := by simpa using congrArg List.head? chars
      have shown := blanks c (by simp)
      rw [first] at shown
      revert shown
      decide
  | cons k ks =>
    have some : trimEnd name ≠ "" := by
      intro empty
      rw [empty, kept] at spelled
      cases spelled
    have gap : (spaced (trimEnd name)).toList = ' ' :: k :: ks := by
      rw [spaced, if_neg some]
      simp [spelled, kept]
    have chars : k :: ks ++ (blank ++ (" from".toList ++ (' ' :: k :: ks ++ r.toList))) =
        "from ".toList ++ (k :: ks) ++ (spaced s).toList := by
      have chars := congrArg String.toList same
      rw [← kept, ← List.append_assoc, split]
      simpa [gap, kept] using chars
    obtain rfl := no_blanks_before_from blanks chars
    have first : k = 'f' := by simpa using congrArg List.head? chars
    rw [List.nil_append, ← List.append_assoc] at chars
    have rest := (List.append_inj chars (by simp)).2
    have behind := (spaced_cons rest.symm).2
    exact other k (by simp [behind]) first

namespace Quoter

variable (w : Quoter)

/-- The name of a table starts with a quote or is a star. -/
theorem tableAlias_head (name : String) :
    ∃ c ∈ [w.quote, '*'], ∃ cs, (w.tableAlias (.name name)).toList = c :: cs := by
  have parts (text : String) : ∃ c ∈ [w.quote, '*'], ∃ cs, (w.tableParts text).toList = c :: cs := by
    unfold tableParts
    cases listed : dottedParts text with
    | nil => exact absurd listed (by simp [dottedParts, Text.splitAt_ne_nil])
    | cons s rest =>
      obtain ⟨c, kind, cs, chars⟩ := w.part_head s
      by_cases alone : rest.map w.part = []
      · exact ⟨c, kind, cs, by simpa [alone] using chars⟩
      · rw [List.map_cons, Text.joinWith_cons _ _ alone, String.append_assoc, String.toList_append,
          chars]
        exact ⟨c, kind, _, rfl⟩
  unfold tableAlias
  dsimp only
  cases split : splitAlias? name with
  | none =>
    simp only [tableName, split]
    exact parts _
  | some pair => exact w.part_head _

end Quoter

namespace QueryDialect

/-- The statement holds the joined table and its conditions, with their values. -/
structure KeepsJoin (d : QueryDialect) (join : Join) (f : Fragment) : Prop where
  table : Occurs (Text.trim (d.quoter.table join.table)) f.sql
  conditions : ∃ conditions, d.conditionList join.conditions = .ok conditions ∧
    Occurs (Text.trim (Condition.join conditions).sql) f.sql ∧
    Condition.allBindings conditions <:+: f.bindings

/-- Whenever the delete of a query is written, it holds the joins, and it is not the delete of the query
without them. -/
def KeepsJoins (d : QueryDialect) (q : Query) : Prop :=
  ∀ f, d.delete q = .ok f → (∀ join ∈ q.joins, d.KeepsJoin join f) ∧
    ∀ g, d.delete { q with joins := [] } = .ok g → f.sql ≠ g.sql

variable {d : QueryDialect} {q : Query} {f g : Fragment}

/-! ## Joins as clauses -/

theorem joinFragments_mem {joins : List Join} {fragments : List Fragment}
    (written : d.joinFragments joins = .ok fragments) {join : Join} (member : join ∈ joins) :
    ∃ conditions, d.conditionList join.conditions = .ok conditions ∧
      d.assembleJoin join.kind join.table conditions ∈ fragments := by
  induction joins generalizing fragments with
  | nil => cases member
  | cons first joins ih =>
    obtain ⟨kind, table, clauses⟩ := first
    unfold joinFragments at written
    obtain ⟨conditions, wrote, written⟩ := bind_success written
    obtain ⟨rest, wrote_rest, written⟩ := bind_success written
    cases written
    rcases List.mem_cons.mp member with rfl | later
    · exact ⟨conditions, wrote, by simp⟩
    · obtain ⟨others, wrote_others, inside⟩ := ih wrote_rest later
      exact ⟨others, wrote_others, List.mem_cons_of_mem _ inside⟩

theorem assembleJoin_occurs (kind : JoinKind) (table : Ident) (conditions : List Condition) :
    Occurs (Text.trim (d.quoter.table table)) (d.assembleJoin kind table conditions).sql ∧
    Occurs (Text.trim (Condition.join conditions).sql)
      (d.assembleJoin kind table conditions).sql := by
  have spelled : (d.assembleJoin kind table conditions).sql = Text.trimEnd
      (kind.keyword ++ " join " ++ d.quoter.table table ++ (" " ++
        (Condition.under "on" conditions).sql)) := by
    simp [assembleJoin, String.append_assoc]
  rw [spelled]
  have named := (Occurs.trimmed (d.quoter.table table)).trans (.within (kind.keyword ++ " join ")
    (" " ++ (Condition.under "on" conditions).sql))
  have met := ((Occurs.trimmed _).trans (Condition.under_occurs "on" conditions)).trans
    ((Occurs.behind " ").trans (.behind (kind.keyword ++ " join " ++ d.quoter.table table)))
  exact ⟨named.trimEnd (bare_trim _), met.trimEnd (bare_trim _)⟩

/-- A delete with its joins behind the table. -/
theorem delete_multiTable (layout : d.joinedWrites = .multiTable) (joined : q.joins ≠ [])
    (written : d.delete q = .ok f) : ∃ table joins conditions,
      q.table = some table ∧ d.joinFragments q.joins = .ok joins ∧
      d.conditions q.conditions = .ok conditions ∧
      f.sql = concatenate ["delete " ++ d.quoter.tableAlias table ++ " from " ++ d.quoter.table table,
          (Fragment.joinWith " " joins).sql, conditions.sql] ∧
      f.bindings = Fragment.allBindings joins ++ conditions.bindings := by
  have some_join : q.joins.isEmpty = false := by simpa using joined
  unfold delete at written
  obtain ⟨head, target, written⟩ := bind_success written
  simp only [layout, some_join, Bool.false_eq_true, if_false] at written
  obtain ⟨joins, wrote, written⟩ := bind_success written
  obtain ⟨conditions, wrote', written⟩ := bind_success written
  obtain ⟨fragments, wrote_fragments, same⟩ := bind_success wrote
  cases same
  cases named : q.table with
  | none => simp [QueryDialect.target, named] at target
  | some table =>
    simp only [QueryDialect.target, named, Except.ok.injEq] at target
    subst target
    have whole := Except.ok.inj written
    refine ⟨table, fragments, conditions, rfl, wrote_fragments, wrote', ?_, ?_⟩
    · simp [← whole, named]
    · simp [← whole, Fragment.joinWith]

theorem KeepsJoin.of_multiTable (layout : d.joinedWrites = .multiTable) (joined : q.joins ≠ [])
    (written : d.delete q = .ok f) {join : Join} (member : join ∈ q.joins) :
    d.KeepsJoin join f := by
  obtain ⟨table, joins, conditions, -, wrote, -, text, bindings⟩ :=
    delete_multiTable layout joined written
  obtain ⟨own, wrote_own, inside⟩ := joinFragments_mem wrote member
  obtain ⟨named, met⟩ := d.assembleJoin_occurs join.kind join.table own
  have clause : Occurs (d.assembleJoin join.kind join.table own).sql
      (Fragment.joinWith " " joins).sql := .joinWith (List.mem_map_of_mem inside)
  have whole {s : String} (bare : Bare s)
      (held : Occurs s (d.assembleJoin join.kind join.table own).sql) : Occurs s f.sql := by
    rw [text]
    exact (held.trans clause).concatenate bare (List.mem_cons_of_mem _ List.mem_cons_self)
  refine ⟨whole (bare_trim _) named, own, wrote_own, whole (bare_trim _) met, ?_⟩
  obtain ⟨front, back, rfl⟩ := List.append_of_mem inside
  rw [bindings]
  refine ⟨Fragment.allBindings front, Fragment.allBindings back ++ conditions.bindings, ?_⟩
  simp [Fragment.allBindings, bindings_assembleJoin]

/-! ## Joins as a list of tables -/

theorem allJoinConditions_mem {joins : List Join} {conditions : List Condition}
    (written : d.allJoinConditions joins = .ok conditions) {join : Join} (member : join ∈ joins) :
    ∃ front own back, d.conditionList join.conditions = .ok own ∧
      conditions = front ++ (own ++ back) := by
  induction joins generalizing conditions with
  | nil => cases member
  | cons first joins ih =>
    unfold allJoinConditions at written
    obtain ⟨own, wrote, written⟩ := bind_success written
    obtain ⟨rest, wrote_rest, written⟩ := bind_success written
    cases written
    rcases List.mem_cons.mp member with rfl | later
    · exact ⟨[], own, rest, wrote, rfl⟩
    · obtain ⟨front, others, back, wrote_others, rfl⟩ := ih wrote_rest later
      exact ⟨own ++ front, others, back, wrote_others, by simp⟩

/-- A delete with the joined tables in a list and their conditions behind its own. -/
theorem delete_listed_conditions (layout : d.joinedWrites = .listed) (joined : q.joins ≠ [])
    (written : d.delete q = .ok f) : ∃ table own others,
      d.target .delete q = .ok table ∧ d.allJoinConditions q.joins = .ok others ∧
      f.sql = concatenate ["delete from " ++ table, "using " ++ d.joinedTables q,
          (Condition.under "where" (own ++ others)).sql] ∧
      f.bindings = Condition.allBindings own ++ Condition.allBindings others := by
  obtain ⟨table, folded, target, wrote, text, bindings⟩ := delete_folded layout joined written
  obtain ⟨own, others, -, wrote_others, conditions, own_bindings, other_bindings⟩ :=
    foldedConditions_parts wrote
  refine ⟨table, own, others, target, wrote_others, ?_, ?_⟩
  · rw [text, conditions]
  · rw [bindings, own_bindings, other_bindings]

theorem KeepsJoin.of_listed (layout : d.joinedWrites = .listed) (joined : q.joins ≠ [])
    (written : d.delete q = .ok f) {join : Join} (member : join ∈ q.joins) :
    d.KeepsJoin join f := by
  obtain ⟨table, own, others, -, wrote, text, bindings⟩ :=
    delete_listed_conditions layout joined written
  obtain ⟨front, part, back, wrote_part, rfl⟩ := allJoinConditions_mem wrote member
  have listed : Occurs (d.quoter.table join.table) (d.joinedTables q) := by
    unfold joinedTables
    exact .joinWith (List.mem_map.mpr ⟨join, member, rfl⟩)
  have named : Occurs (d.quoter.table join.table) ("using " ++ d.joinedTables q) :=
    listed.trans (.behind _)
  have met : Occurs (Condition.join part).sql
      (Condition.under "where" (own ++ (front ++ (part ++ back)))).sql := by
    rw [← List.append_assoc]
    exact (Condition.join_occurs _ _ _).trans (Condition.under_occurs _ _)
  refine ⟨?_, part, wrote_part, ?_, ?_⟩
  · rw [text]
    exact ((Occurs.trimmed _).trans named).concatenate (bare_trim _)
      (List.mem_cons_of_mem _ List.mem_cons_self)
  · rw [text]
    exact ((Occurs.trimmed _).trans met).concatenate (bare_trim _)
      (List.mem_cons_of_mem _ (List.mem_cons_of_mem _ List.mem_cons_self))
  · rw [bindings]
    refine ⟨Condition.allBindings (own ++ front), Condition.allBindings back, ?_⟩
    simp [Condition.allBindings]

/-! ## A delete and the one without its joins -/

/-- The conditions of a statement stand behind `where`. -/
theorem conditions_starts {clauses : List Clause} (written : d.conditions clauses = .ok f) :
    Starts (· = 'w') f.sql := by
  unfold QueryDialect.conditions at written
  obtain ⟨conditions, -, written⟩ := bind_success written
  cases written
  exact .under (by simp [Starts]; decide) (by decide) conditions

theorem ordersText_starts (keys : List SortKey) : Starts (· = 'o') (d.ordersText keys) := by
  cases keys with
  | nil => exact .empty
  | cons key keys => exact .append (by simp [Starts]; decide) (by decide) _

theorem mySql_limit_starts (b : Bounds) : Starts (· = 'l') (MySql.limit b) := by
  unfold MySql.limit
  split
  · exact .append (by simp [Starts]; decide) (by decide) _
  · exact .empty

/-- A delete of a query without joins. -/
theorem delete_alone {q : Query} (layout : d.joinedWrites ≠ .plain) (alone : q.joins = [])
    (written : d.delete q = .ok f) : ∃ table conditions tail,
      d.target .delete q = .ok table ∧ d.conditions q.conditions = .ok conditions ∧
      (tail = [] ∨ d.joinedWrites = .multiTable ∧ tail = d.tail q) ∧
      f.sql = concatenate (("delete from " ++ table) :: conditions.sql :: tail) := by
  have none_joined : q.joins.isEmpty = true := by simp [alone]
  unfold delete at written
  obtain ⟨table, target, written⟩ := bind_success written
  cases kind : d.joinedWrites with
  | plain => exact absurd kind layout
  | multiTable =>
    simp only [kind, none_joined, if_true, List.cons_append, List.nil_append] at written
    obtain ⟨conditions, wrote, written⟩ := bind_success written
    refine ⟨table, conditions, d.tail q, target, wrote, .inr ⟨rfl, rfl⟩, ?_⟩
    rw [← Except.ok.inj written]
  | listed =>
    simp only [kind, none_joined, if_true] at written
    obtain ⟨conditions, wrote, written⟩ := bind_success written
    refine ⟨table, conditions, [], target, wrote, .inl rfl, ?_⟩
    rw [← Except.ok.inj written]

theorem delete_from (table : String) (texts : List String) :
    concatenate (("delete from " ++ table) :: texts) = "delete from" ++
      Text.spaced (Text.trimEnd table) ++ Text.spaced (concatenate texts) := by
  have spelled : "delete from " ++ table = "delete from" ++ " " ++ table := by
    simp
  rw [spelled]
  exact concatenate_behind (by decide) table texts

/-- A delete that names what it deletes from the joined tables. -/
theorem delete_name_from (name table : String) (texts : List String) :
    concatenate (("delete " ++ name ++ " from " ++ table) :: texts) = "delete " ++ name ++ " from" ++
      Text.spaced (Text.trimEnd table) ++ Text.spaced (concatenate texts) := by
  have solid : Text.Solid ("delete " ++ name ++ " from") := by
    have last : ("delete " ++ name ++ " from").toList = ("delete " ++ name ++ " fro").toList ++ ['m'] := by
      simp
    refine ⟨by simp, (Text.bare_iff _).mpr ⟨?_, ?_⟩⟩
    · simp
      decide
    · rw [last, List.getLast?_concat]
      simp
      decide
  have spelled : "delete " ++ name ++ " from " ++ table = "delete " ++ name ++ " from" ++ " " ++ table := by
    simp [← String.toList_inj]
  rw [spelled]
  exact concatenate_behind solid table texts

theorem listed_differs (layout : d.joinedWrites = .listed) (joined : q.joins ≠ [])
    (written : d.delete q = .ok f) (without : d.delete { q with joins := [] } = .ok g) :
    f.sql ≠ g.sql := by
  obtain ⟨table, own, others, target, -, text, -⟩ :=
    delete_listed_conditions layout joined written
  obtain ⟨table', conditions, tail, target', wrote, rest, text'⟩ :=
    delete_alone (by simp [layout]) rfl without
  obtain rfl : table = table' := Except.ok.inj (target.symm.trans target')
  obtain rfl : tail = [] := by simpa [layout] using rest
  intro same
  rw [text, text', delete_from, delete_from] at same
  have clauses := Text.spaced_inj.mp ((String.append_right_inj _).mp same)
  have head : ("using " ++ d.joinedTables q).toList = 'u' :: ("sing " ++ d.joinedTables q).toList := by
    simp
  obtain ⟨cs, first⟩ := concatenate_first head (by decide)
    [(Condition.under "where" (own ++ others)).sql]
  have starts : Starts (· = 'w') (concatenate [conditions.sql]) :=
    .concatenate (by simpa using conditions_starts wrote)
  rw [← clauses, Starts, first] at starts
  have wrong := (starts 'u' rfl).2
  revert wrong
  decide

theorem multiTable_differs {tablePrefix : String} (joined : q.joins ≠ [])
    (written : (mySql tablePrefix).delete q = .ok f)
    (without : (mySql tablePrefix).delete { q with joins := [] } = .ok g) : f.sql ≠ g.sql := by
  obtain ⟨table, joins, conditions, named, -, -, text, -⟩ := delete_multiTable rfl joined written
  obtain ⟨name, own, tail, target, wrote, rest, text'⟩ :=
    delete_alone (by simp [mySql]) rfl without
  obtain rfl : name = (mySql tablePrefix).quoter.table table := by
    simpa [QueryDialect.target, named, eq_comm] using target
  have starts : Starts (· ≠ 'f') (concatenate (own.sql :: tail)) := by
    have conditions_start : Starts (· ≠ 'f') own.sql :=
      (conditions_starts wrote).mono (by rintro c rfl; decide)
    refine .concatenate fun s member => ?_
    rcases List.mem_cons.mp member with rfl | later
    · exact conditions_start
    · rcases rest with rfl | ⟨-, rfl⟩
      · cases later
      · rcases List.mem_pair.mp later with rfl | rfl
        · exact (ordersText_starts _).mono (by rintro c rfl; decide)
        · exact (mySql_limit_starts _).mono (by rintro c rfl; decide)
  intro same
  rw [text, text', delete_from, delete_name_from] at same
  simp only [String.append_assoc] at same
  have parted : "delete from" = "delete " ++ "from" := by decide
  rw [parted, String.append_assoc] at same
  have behind := (String.append_right_inj _).mp same
  cases table with
  | raw sql =>
    have other : ∀ c ∈ (concatenate (own.sql :: tail)).toList.head?, c ≠ 'f' :=
      fun c first => (starts c first).2
    refine Text.doubled_name sql.text
      (Text.spaced (concatenate [(Fragment.joinWith " " joins).sql, conditions.sql])) other ?_
    simpa only [Quoter.table, Quoter.tableAlias, String.append_assoc] using behind
  | name name =>
    obtain ⟨c, kind, cs, chars⟩ := (mySql tablePrefix).quoter.tableAlias_head name
    have first : c = 'f' := by
      have heads := congrArg (List.head? ∘ String.toList) behind
      simpa [chars] using heads
    rw [first] at kind
    revert kind
    simp [mySql]

/-! ## Dialects -/

theorem mySql_keepsJoins (tablePrefix : String) (joined : q.joins ≠ []) :
    (mySql tablePrefix).KeepsJoins q := fun _ written =>
  ⟨fun _ member => .of_multiTable rfl joined written member,
    fun _ without => multiTable_differs joined written without⟩

theorem postgres_keepsJoins (tablePrefix : String) (joined : q.joins ≠ []) :
    (postgres tablePrefix).KeepsJoins q := fun _ written =>
  ⟨fun _ member => .of_listed rfl joined written member,
    fun _ without => listed_differs rfl joined written without⟩

/-- The default layout has no place for joins. -/
theorem delete_plain (layout : d.joinedWrites = .plain) (q : Query) :
    d.delete q = d.delete { q with joins := [] } := by
  unfold delete
  simp only [layout]
  rfl

/-- MySQL and PostgreSQL keep the joins of a delete; with the default layout the delete is the one of
the query without them, whatever they are. -/
theorem deletes_and_joins {q : Query} (joined : q.joins ≠ []) :
    (∀ tablePrefix, (mySql tablePrefix).KeepsJoins q ∧ (postgres tablePrefix).KeepsJoins q) ∧
    ∀ d : QueryDialect, d.joinedWrites = .plain → d.delete q = d.delete { q with joins := [] } :=
  ⟨fun tablePrefix => ⟨mySql_keepsJoins tablePrefix joined, postgres_keepsJoins tablePrefix joined⟩,
    fun _ layout => delete_plain layout q⟩

/-- Users that have an order. -/
def usersWithOrders : Query where
  table := some (.name "users")
  joins := [⟨.inner, .name "orders",
    [⟨.and, .compareColumns (.name "users.id") "=" (.name "orders.user_id")⟩]⟩]

/-- The default layout deletes every user, the others those that have an order. -/
theorem deletes_and_joins_usersWithOrders :
    ((generic "").delete usersWithOrders).toOption.map (·.sql) = some "delete from |users|" ∧
    ((generic "").delete { usersWithOrders with joins := [] }).toOption.map (·.sql) =
      some "delete from |users|" ∧
    ∃ f g, (mySql "").delete usersWithOrders = .ok f ∧ (postgres "").delete usersWithOrders = .ok g ∧
      f.sql = "delete `users` from `users` inner join `orders` on `users`.`id` = `orders`.`user_id`" ∧
      g.sql = "delete from \"users\" using \"orders\" where \"users\".\"id\" = " ++
        "\"orders\".\"user_id\"" ∧
      ∀ join ∈ usersWithOrders.joins, (mySql "").KeepsJoin join f ∧ (postgres "").KeepsJoin join g := by
  have joined : usersWithOrders.joins ≠ [] := by simp [usersWithOrders]
  obtain ⟨kept, dropped⟩ := deletes_and_joins joined
  have alone : ((generic "").delete usersWithOrders).toOption.map (·.sql) =
      some "delete from |users|" := by decide
  have mySql_writes : ((mySql "").delete usersWithOrders).toOption.map (·.sql) = some
      "delete `users` from `users` inner join `orders` on `users`.`id` = `orders`.`user_id`" := by
    decide
  have postgres_writes : ((postgres "").delete usersWithOrders).toOption.map (·.sql) = some
      ("delete from \"users\" using \"orders\" where \"users\".\"id\" = " ++
        "\"orders\".\"user_id\"") := by decide
  obtain ⟨f, written, text⟩ := success_of_toOption mySql_writes
  obtain ⟨g, written', text'⟩ := success_of_toOption postgres_writes
  refine ⟨alone, dropped (generic "") rfl ▸ alone, f, g, written, written', text, text', ?_⟩
  exact fun join member =>
    ⟨((kept "").1 f written).1 join member, ((kept "").2 g written').1 join member⟩

end QueryDialect
end SqlCompose
