import SqlCompose.Proofs.Inserts.Insertion
import SqlCompose.Proofs.Simulation.Write

/-!
# Simulation of inserts and truncations

Inserts bring texts of their own, and two hooks of the dialect: how an insert passes over rows that
are there already, and whether it asks for the key it made. Corresponding rows have corresponding
columns in one order.
-/
namespace SqlCompose

/-- The texts of inserts that stand in no other statement. -/
def insertTexts : List String :=
  ["insert ignore into", "default values", "values", "on conflict do nothing", "returning",
    "on duplicate key update"]

/-- The relation holds of the least parts of every statement. -/
structure WriteSimulation (d d' : QueryDialect) (c : Correspondence)
    (R : Fragment → Fragment → Prop) : Prop extends Simulation d d' c R where
  name : d'.name = d.name
  insertIgnore : d'.insertIgnore = d.insertIgnore
  returnsKey : d'.returnsKey = d.returnsKey
  upserts : d'.upserts = d.upserts
  inserting {s : String} : s ∈ insertTexts → R (.ofText s) (.ofText s)
  /-- The column of the key where none is given. -/
  idName : R (.ofText (d.quoter.columnName "id")) (.ofText (d'.quoter.columnName "id"))
  truncate {s s' : String} : R (.ofText s) (.ofText s') →
    R (.ofText (d.truncate s)) (.ofText (d'.truncate s'))

namespace WriteSimulation

variable {d d' : QueryDialect} {c : Correspondence} {R : Fragment → Fragment → Prop}
  (h : WriteSimulation d d' c R)

include h

theorem insertText (s : String) (known : s ∈ insertTexts) : R (.ofText s) (.ofText s) :=
  h.inserting known

theorem columnNames {names names' : List String} (related : List.Forall₂ c.column names names') :
    R (.ofText (d.quoter.columnNames names)) (.ofText (d'.quoter.columnNames names')) :=
  h.mappedTexts h.comma (related.imp fun _ _ one => h.column one)

theorem rowColumns {row row' : Row} (related : c.Rows row row') :
    R (.ofText (d.quoter.columnNames row.columns)) (.ofText (d'.quoter.columnNames row'.columns)) := by
  apply h.columnNames
  unfold Row.columns
  rw [List.forall₂_map_left_iff, List.forall₂_map_right_iff]
  exact related.imp fun _ _ one => one.1

theorem tuple {row row' : Row} (related : c.Rows row row') : R (d.tuple row) (d'.tuple row') := by
  apply h.bracket
  apply h.operands
  unfold Row.operands
  rw [List.forall₂_map_left_iff, List.forall₂_map_right_iff]
  exact related.imp fun _ _ one => one.2

omit h in
theorem isEmpty_eq {row row' : Row} (related : c.Rows row row') : row'.isEmpty = row.isEmpty := by
  unfold Row.isEmpty
  unfold Correspondence.Rows at related
  generalize row.entries = entries at related ⊢
  generalize row'.entries = entries' at related ⊢
  cases related <;> rfl

theorem insertion {table table' : String} {rows rows' : List Row}
    (named : R (.ofText table) (.ofText table')) (related : List.Forall₂ c.Rows rows rows') :
    R (d.insertion table rows) (d'.insertion table' rows') := by
  have defaults (t : String) : Fragment.ofText (t ++ " default values") =
      Fragment.ofText t ++ " " ++ Fragment.ofText "default values" := by
    apply Fragment.ext <;> simp [← String.toList_inj]
  have listed (t names : String) (f : Fragment) : t ++ " (" ++ names ++ ") values " ++ f =
      Fragment.ofText t ++ " " ++ ("(" ++ Fragment.ofText names ++ ")") ++ " " ++
        Fragment.ofText "values" ++ " " ++ f := by
    apply Fragment.ext <;> simp [← String.toList_inj]
  have without := h.space named (h.insertText "default values" (by decide))
  cases related with
  | nil =>
    simp only [QueryDialect.insertion, defaults]
    exact without
  | @cons first first' rest rest' one others =>
    simp only [QueryDialect.insertion, isEmpty_eq one, defaults, listed]
    split
    · exact without
    · have columns := h.space named (h.bracket (h.rowColumns one))
      have tuples := h.mappedFragments h.comma
        ((List.Forall₂.cons one others).imp fun _ _ row => h.tuple row)
      exact h.space (h.space columns (h.insertText "values" (by decide))) tuples

/-- An insert that starts with the words. -/
theorem inserting_with {words front : String} {q q' : Query} {rows rows' : List Row}
    (spelled : front = words ++ " ") (known : R (.ofText words) (.ofText words))
    (into : Option.Rel c.Tables q.table q'.table) (related : List.Forall₂ c.Rows rows rows') :
    Outcome R ((d.target .insert q).map fun table => front ++ d.insertion table rows)
      ((d'.target .insert q').map fun table => front ++ d'.insertion table rows') := by
  have parted (f : Fragment) : front ++ f = Fragment.ofText words ++ " " ++ f := by
    rw [spelled]
    rfl
  simp only [parted]
  exact (h.target into).map fun table table' named => h.space known (h.insertion named related)

theorem insert {q q' : Query} {rows rows' : List Row}
    (into : Option.Rel c.Tables q.table q'.table) (related : List.Forall₂ c.Rows rows rows') :
    Outcome R (d.insert q rows) (d'.insert q' rows') := by
  rw [QueryDialect.insert_eq, QueryDialect.insert_eq]
  exact h.inserting_with (by decide) (h.text "insert into" (by decide)) into related

theorem insertOrIgnore {q q' : Query} {rows rows' : List Row}
    (into : Option.Rel c.Tables q.table q'.table) (related : List.Forall₂ c.Rows rows rows') :
    Outcome R (d.insertOrIgnore q rows) (d'.insertOrIgnore q' rows') := by
  cases way : d.insertIgnore with
  | none =>
    unfold QueryDialect.insertOrIgnore
    rw [h.insertIgnore, h.name, way]
    exact .error _
  | some way' =>
    cases way' with
    | keyword =>
      rw [QueryDialect.insertOrIgnore_keyword way,
        QueryDialect.insertOrIgnore_keyword (h.insertIgnore.trans way)]
      exact h.inserting_with (by decide) (h.insertText "insert ignore into" (by decide)) into related
    | conflictClause =>
      have spelled (f : Fragment) : f ++ " on conflict do nothing" =
          f ++ " " ++ Fragment.ofText "on conflict do nothing" := by
        apply Fragment.ext <;> simp [← String.toList_inj]
      unfold QueryDialect.insertOrIgnore
      rw [h.insertIgnore, h.name, way]
      apply (h.insert into related).bind
      intro f f' inserted
      rw [spelled, spelled]
      exact .pure (h.space inserted (h.insertText "on conflict do nothing" (by decide)))

theorem insertGetId {q q' : Query} {row row' : Row} {key key' : Option String}
    (into : Option.Rel c.Tables q.table q'.table) (related : c.Rows row row')
    (asked : Option.Rel c.column key key') :
    Outcome R (d.insertGetId q row key) (d'.insertGetId q' row' key') := by
  have spelled (f : Fragment) (t : String) : f ++ (" returning " ++ t) =
      f ++ " " ++ Fragment.ofText "returning" ++ " " ++ Fragment.ofText t := by
    apply Fragment.ext <;> simp [← String.toList_inj]
  have column : R (.ofText (d.quoter.columnName (key.getD "id")))
      (.ofText (d'.quoter.columnName (key'.getD "id"))) := by
    cases asked with
    | none => exact h.idName
    | some related => exact h.column related
  unfold QueryDialect.insertGetId
  rw [h.returnsKey]
  apply (h.insert into (.cons related .nil)).bind
  intro f f' inserted
  split
  · rw [spelled, spelled]
    exact .pure (h.space (h.space inserted (h.insertText "returning" (by decide))) column)
  · exact .pure inserted

theorem assignment {a a' : Assignment} (related : c.Assignments a a') :
    R (d.assignment a) (d'.assignment a') := by
  cases related with
  | inserted related =>
    have spelled (t : String) : Fragment.ofText (t ++ " = values(" ++ t ++ ")") =
        Fragment.ofText t ++ " " ++ "=" ++ " " ++
          (Fragment.ofText "values" ++ ("(" ++ Fragment.ofText t ++ ")")) := by
      apply Fragment.ext <;> simp [← String.toList_inj]
    have name := h.column related
    simp only [QueryDialect.assignment, spelled]
    exact h.space (h.word name "=" (by decide)) (h.call (h.insertText "values" (by decide)) name)
  | set left right => exact h.assigned (h.column left) (h.operand right)

theorem upsert {q q' : Query} {rows rows' : List Row} {update update' : List Assignment}
    (into : Option.Rel c.Tables q.table q'.table) (related : List.Forall₂ c.Rows rows rows')
    (changed : List.Forall₂ c.Assignments update update') :
    Outcome R (d.upsert q rows update) (d'.upsert q' rows' update') := by
  have spelled (f g : Fragment) : f ++ " on duplicate key update " ++ g =
      f ++ " " ++ Fragment.ofText "on duplicate key update" ++ " " ++ g := by
    apply Fragment.ext <;> simp [← String.toList_inj]
  unfold QueryDialect.upsert
  rw [h.upserts, h.name]
  split
  · cases related with
    | nil => exact .error _
    | cons one others =>
      have inserted := h.insert into (.cons one others)
      simp only [isEmpty_eq one]
      split
      · exact .error _
      · apply inserted.bind
        intro f f' inserted
        cases changed with
        | nil => exact .pure inserted
        | cons first rest =>
          have list := h.mappedFragments h.comma
            ((List.Forall₂.cons first rest).imp fun _ _ one => h.assignment one)
          rw [spelled, spelled]
          have updating := h.space inserted (h.insertText "on duplicate key update" (by decide))
          exact .pure (h.space updating list)
  · exact .error _

theorem truncateTable {q q' : Query} (changed : Option.Rel c.Tables q.table q'.table) :
    Outcome (List.Forall₂ R) (d.truncateTable q) (d'.truncateTable q') := by
  apply (h.target changed).bind
  intro table table' named
  exact .pure (.cons (h.truncate named) .nil)

end WriteSimulation
end SqlCompose
