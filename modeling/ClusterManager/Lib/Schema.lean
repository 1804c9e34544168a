import Mathlib.Data.Int.Notation
import Mathlib.Data.List.Nodup
import Mathlib.Logic.Function.Basic
import ClusterManager.Lib.Table

/-!
# Tables with a schema

A table has named columns, and each of its rows a value under each of them. The statements are
those that a migration is written in: a new column takes its default in every row, a column gets
another name, a row goes in unless its key is taken, and the nulls of a column are filled. `none`
is a statement that the engine refuses.
-/

namespace Schema

/-- A stored value; a real number is its bit pattern. -/
inductive Value
  | null
  | integer (n : ℤ)
  | real (bits : UInt64)
  | text (s : String)
  | blob (bytes : List UInt8)
  deriving DecidableEq

/-- A column. -/
structure Column where
  name : String
  type : String
  notNull : Bool := false
  default : Value := .null
  deriving DecidableEq

/-- A name, with one of them replaced. -/
def renamed (old new name : String) : String := if name = old then new else name

/-- A column under another name. -/
def Column.rename (old new : String) (c : Column) : Column :=
  { c with name := renamed old new c.name }

/-- A row, by the names of its columns. -/
abbrev Row : Type := Dict String Value

/-- A table. -/
@[ext] structure Table where
  columns : List Column
  primaryKey : List String
  rows : List Row
  nodup : (columns.map Column.name).Nodup
  keys_eq : ∀ row ∈ rows, row.map Prod.fst = columns.map Column.name

namespace Table

variable {t t' : Table} {c : Column} {name other : String} {row : Row} {v : Value}

/-- The names of the columns. -/
def names (t : Table) : List String := t.columns.map Column.name

/-- A column of a row has a value. -/
theorem get?_isSome (hrow : row ∈ t.rows) : (row.get? name).isSome ↔ name ∈ t.names := by
  rw [names, ← t.keys_eq row hrow, Dict.mem_keys_iff, Option.isSome_iff_exists]

/-! ### `ADD COLUMN` -/

theorem nodup_add (h : c.name ∉ t.names) : ((t.columns ++ [c]).map Column.name).Nodup := by
  rw [List.map_append]
  exact List.Nodup.append t.nodup (List.nodup_singleton _) (by simpa [names] using h)

theorem keys_add (h : c.name ∉ t.names) :
    ∀ row ∈ t.rows.map fun row => row.set c.name c.default,
      row.map Prod.fst = (t.columns ++ [c]).map Column.name := by
  intro row' hrow'
  obtain ⟨row, hrow, rfl⟩ := List.mem_map.1 hrow'
  have hfresh : c.name ∉ row.map Prod.fst := by
    rw [t.keys_eq row hrow]
    exact h
  rw [Dict.keys_set, if_neg hfresh, t.keys_eq row hrow, List.map_append]
  rfl

/-- `ALTER TABLE … ADD COLUMN`. -/
def addColumn (t : Table) (c : Column) : Option Table :=
  if h : c.name ∈ t.names then none
  else if c.notNull ∧ c.default = .null then none
  else some { t with
    columns := t.columns ++ [c]
    rows := t.rows.map fun row => row.set c.name c.default
    nodup := nodup_add h
    keys_eq := keys_add h }

/-- What a table is with one more column. -/
theorem exists_addColumn (h : c.name ∉ t.names) (hdefault : ¬ (c.notNull ∧ c.default = .null)) :
    ∃ t', t.addColumn c = some t' ∧ t'.columns = t.columns ++ [c] ∧
      t'.primaryKey = t.primaryKey ∧
      t'.rows = t.rows.map fun row => row.set c.name c.default := by
  rw [addColumn, dif_neg h, if_neg hdefault]
  exact ⟨_, rfl, rfl, rfl, rfl⟩

/-! ### `RENAME COLUMN` -/

theorem map_renamed (old new : String) (columns : List Column) :
    (columns.map (Column.rename old new)).map Column.name =
      (columns.map Column.name).map (renamed old new) := by
  simp [Column.rename]

theorem renamed_injOn {old new : String} {names : List String} (h : new ∉ names) :
    ∀ a ∈ names, ∀ b ∈ names, renamed old new a = renamed old new b → a = b := by
  intro a ha b hb heq
  unfold renamed at heq
  split_ifs at heq with h₁ h₂ h₂
  · rw [h₁, h₂]
  · exact absurd (heq ▸ hb) h
  · exact absurd (heq ▸ ha) h
  · exact heq

theorem nodup_rename {old new : String} (h : new ∉ t.names) :
    ((t.columns.map (Column.rename old new)).map Column.name).Nodup := by
  rw [map_renamed]
  exact t.nodup.map_on (renamed_injOn h)

theorem keys_rename {old new : String} :
    ∀ row ∈ t.rows.map fun row => row.map fun p => (renamed old new p.1, p.2),
      row.map Prod.fst = (t.columns.map (Column.rename old new)).map Column.name := by
  intro row' hrow'
  obtain ⟨row, hrow, rfl⟩ := List.mem_map.1 hrow'
  rw [map_renamed, ← t.keys_eq row hrow, List.map_map, List.map_map]
  rfl

/-- `ALTER TABLE … RENAME COLUMN … TO …`. -/
def renameColumn (t : Table) (old new : String) : Option Table :=
  if old ∉ t.names then none
  else if h : new ∈ t.names then none
  else some { t with
    columns := t.columns.map (Column.rename old new)
    rows := t.rows.map fun row => row.map fun p => (renamed old new p.1, p.2)
    nodup := nodup_rename h
    keys_eq := keys_rename }

/-- What a table is with a column renamed. -/
theorem exists_renameColumn {old new : String} (hold : old ∈ t.names) (hnew : new ∉ t.names) :
    ∃ t', t.renameColumn old new = some t' ∧ t'.columns = t.columns.map (Column.rename old new) ∧
      t'.primaryKey = t.primaryKey ∧
      t'.rows = t.rows.map fun row => row.map fun p => (renamed old new p.1, p.2) := by
  rw [renameColumn, if_neg (not_not.2 hold), dif_neg hnew]
  exact ⟨_, rfl, rfl, rfl, rfl⟩

/-- The value under the new name. -/
theorem get?_renamed_new {old new : String} (h : new ∉ row.map Prod.fst) :
    Dict.get? (row.map fun p => (renamed old new p.1, p.2)) new = row.get? old := by
  induction row with
  | nil => rfl
  | cons p row ih =>
    obtain ⟨k, v⟩ := p
    rw [List.map_cons, List.mem_cons, not_or] at h
    by_cases hk : k = old
    · simp [Dict.get?, renamed, hk]
    · simp [Dict.get?, renamed, hk, Ne.symm h.1, ← ih h.2]

/-- The values under the other names. -/
theorem get?_renamed_of_ne {old new : String} (hold : name ≠ old) (hnew : name ≠ new) :
    Dict.get? (row.map fun p => (renamed old new p.1, p.2)) name = row.get? name := by
  induction row with
  | nil => rfl
  | cons p row ih =>
    obtain ⟨k, v⟩ := p
    by_cases hk : k = old
    · subst hk
      simp [Dict.get?, renamed, Ne.symm hnew, Ne.symm hold, ← ih]
    · simp [Dict.get?, renamed, hk, ← ih]

/-! ### `INSERT OR IGNORE` -/

/-- The row of an `INSERT`: the columns that it does not name take their defaults. -/
def newRow (t : Table) (values : Row) : Row :=
  t.columns.map fun c => (c.name, (values.get? c.name).getD c.default)

/-- A row that is ignored: its key is taken, or a column that must not be null is. -/
def ignores (t : Table) (row : Row) : Bool :=
  (t.rows.any fun r => t.primaryKey.all fun k => r.get? k = row.get? k) ||
    t.columns.any fun c => c.notNull && decide (row.get? c.name = some .null)

theorem keys_newRow (t : Table) (values : Row) :
    (t.newRow values).map Prod.fst = t.columns.map Column.name := by
  rw [newRow, List.map_map]
  rfl

theorem keys_insert (t : Table) (values : Row) : ∀ row ∈ t.rows ++ [t.newRow values],
    row.map Prod.fst = t.columns.map Column.name := by
  intro row hrow
  rcases List.mem_append.1 hrow with hrow | hrow
  · exact t.keys_eq row hrow
  · rw [List.mem_singleton.1 hrow, keys_newRow]

/-- `INSERT OR IGNORE INTO … (…) VALUES (…)`. -/
def insertOrIgnore (t : Table) (values : Row) : Option Table :=
  if ∀ k ∈ values.map Prod.fst, k ∈ t.names then
    some (if t.ignores (t.newRow values) then t
      else { t with rows := t.rows ++ [t.newRow values], keys_eq := keys_insert t values })
  else none

/-- A value of the new row. -/
theorem get?_newRow {values : Row} (hc : c ∈ t.columns) :
    (t.newRow values).get? c.name = some ((values.get? c.name).getD c.default) := by
  refine Dict.get?_of_mem ?_ (List.mem_map.2 ⟨c, hc, rfl⟩)
  rw [keys_newRow]
  exact t.nodup

/-- What a table is after an insert. -/
theorem insertOrIgnore_eq_some {values : Row} (h : ∀ k ∈ values.map Prod.fst, k ∈ t.names) :
    ∃ t', t.insertOrIgnore values = some t' ∧ t'.columns = t.columns ∧
      t'.primaryKey = t.primaryKey ∧
      (t.ignores (t.newRow values) = true ∧ t' = t ∨
        t.ignores (t.newRow values) = false ∧ t'.rows = t.rows ++ [t.newRow values]) := by
  rw [insertOrIgnore, if_pos h]
  cases hi : t.ignores (t.newRow values) with
  | true => exact ⟨t, rfl, rfl, rfl, Or.inl ⟨rfl, rfl⟩⟩
  | false => exact ⟨_, rfl, rfl, rfl, Or.inr ⟨rfl, rfl⟩⟩

/-! ### `UPDATE … WHERE … IS NULL` -/

/-- A row with a null filled. -/
def fill (name : String) (v : Value) (row : Row) : Row :=
  row.map fun p => (p.1, if p.1 = name ∧ p.2 = .null then v else p.2)

theorem keys_fill : (fill name v row).map Prod.fst = row.map Prod.fst := by
  rw [fill, List.map_map]
  rfl

theorem keys_update (t : Table) (name : String) (v : Value) : ∀ row ∈ t.rows.map (fill name v),
    row.map Prod.fst = t.columns.map Column.name := by
  intro row' hrow'
  obtain ⟨row, hrow, rfl⟩ := List.mem_map.1 hrow'
  rw [keys_fill, t.keys_eq row hrow]

/-- `UPDATE … SET name = v WHERE name IS NULL`. -/
def updateNull (t : Table) (name : String) (v : Value) : Option Table :=
  if name ∈ t.names then
    some { t with rows := t.rows.map (fill name v), keys_eq := keys_update t name v }
  else none

theorem get?_fill_self :
    (fill name v row).get? name = (row.get? name).map fun w => if w = .null then v else w := by
  induction row with
  | nil => rfl
  | cons p row ih =>
    obtain ⟨k, w⟩ := p
    by_cases hk : k = name
    · simp [fill, Dict.get?, hk]
    · simpa [fill, Dict.get?, hk] using ih

theorem get?_fill_of_ne (h : other ≠ name) : (fill name v row).get? other = row.get? other := by
  induction row with
  | nil => rfl
  | cons p row ih =>
    obtain ⟨k, w⟩ := p
    by_cases hk : k = other
    · subst hk
      simp [fill, Dict.get?, h]
    · simpa [fill, Dict.get?, hk] using ih

/-- A row without the null stays as it is. -/
theorem fill_of_get?_ne (hnodup : (row.map Prod.fst).Nodup) (h : row.get? name ≠ some .null) :
    fill name v row = row := by
  refine (List.map_congr_left fun p hp => ?_).trans (List.map_id row)
  have hne : ¬ (p.1 = name ∧ p.2 = .null) := by
    rintro ⟨rfl, hnull⟩
    exact h (hnull ▸ Dict.get?_of_mem hnodup hp)
  rw [if_neg hne]
  rfl

/-- What a table is with the nulls of a column filled. -/
theorem updateNull_eq_some (h : name ∈ t.names) :
    ∃ t', t.updateNull name v = some t' ∧ t'.columns = t.columns ∧
      t'.primaryKey = t.primaryKey ∧ t'.rows = t.rows.map (fill name v) := by
  rw [updateNull, if_pos h]
  exact ⟨_, rfl, rfl, rfl, rfl⟩

/-- A table without nulls in the column stays as it is. -/
theorem map_fill (h : ∀ row ∈ t.rows, row.get? name ≠ some .null) :
    t.rows.map (fill name v) = t.rows := by
  refine (List.map_congr_left fun row hrow => ?_).trans (List.map_id t.rows)
  refine fill_of_get?_ne ?_ (h row hrow)
  rw [t.keys_eq row hrow]
  exact t.nodup

end Table

/-! ### Databases -/

/-- The tables of a database, and the names of its indexes. -/
structure Database where
  tables : String → Option Table
  indexes : List String

namespace Database

/-- `CREATE TABLE IF NOT EXISTS`. -/
def createTable (d : Database) (name : String) (t : Table) : Database :=
  match d.tables name with
  | some _ => d
  | none => { d with tables := Function.update d.tables name (some t) }

/-- `CREATE INDEX IF NOT EXISTS`. -/
def createIndex (d : Database) (index table : String) (columns : List String) : Option Database :=
  if index ∈ d.indexes then some d
  else
    (d.tables table).bind fun t =>
      if ∀ c ∈ columns, c ∈ t.names then some { d with indexes := d.indexes ++ [index] } else none

section Create

variable {d : Database} {name other : String} {t t' : Table}

theorem createTable_of_some (h : d.tables name = some t') : d.createTable name t = d := by
  rw [createTable, h]

theorem tables_createTable_of_ne (h : other ≠ name) :
    (d.createTable name t).tables other = d.tables other := by
  unfold createTable
  split
  next => rfl
  next => exact Function.update_of_ne h _ _

theorem tables_createTable_self :
    (d.createTable name t).tables name = some ((d.tables name).getD t) := by
  unfold createTable
  split
  next t' ht' => rw [ht', Option.getD_some]
  next hnone =>
    rw [hnone, Option.getD_none]
    exact Function.update_self ..

theorem indexes_createTable : (d.createTable name t).indexes = d.indexes := by
  unfold createTable
  split <;> rfl

end Create

/-- A table is put in the place of another. -/
def put (d : Database) (name : String) (t : Table) : Database :=
  { d with tables := Function.update d.tables name (some t) }

@[simp] theorem tables_put_self {d : Database} {name : String} {t : Table} :
    (d.put name t).tables name = some t := Function.update_self ..

@[simp] theorem tables_put_of_ne {d : Database} {name other : String} {t : Table}
    (h : other ≠ name) : (d.put name t).tables other = d.tables other :=
  Function.update_of_ne h _ _

/-- A statement about one table. -/
def alter (d : Database) (name : String) (f : Table → Option Table) : Option Database :=
  (d.tables name).bind fun t => (f t).map (d.put name)

theorem alter_eq_some {d : Database} {name : String} {f : Table → Option Table} {t t' : Table}
    (ht : d.tables name = some t) (hf : f t = some t') :
    d.alter name f = some (d.put name t') := by
  rw [alter, ht, Option.bind_some, hf, Option.map_some]

theorem put_self {d : Database} {name : String} {t : Table} (ht : d.tables name = some t) :
    d.put name t = d := by
  rw [put, ← ht, Function.update_eq_self]

end Database

end Schema
