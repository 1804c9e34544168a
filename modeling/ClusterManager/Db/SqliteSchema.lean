import ClusterManager.Db.Base
import ClusterManager.Lib.Coroutine
import ClusterManager.Lib.Schema

/-!
# The schema of the SQLite database

`init_db` creates the tables that are missing, brings an old `connections` or `workspaces` table
to its current columns, and seeds the default workspace. It runs at every start and may be killed
at any of its statements. A change of the schema takes effect at once; a change of rows opens a
transaction that a commit ends.
-/

namespace ClusterManager.Db.SqliteSchema

open Schema

/-! ### Tables -/

/-- A column of type `TEXT`, and one that must not be null. -/
def textColumn (name : String) : Column := { name, type := "TEXT" }

def requiredColumn (name : String) : Column := { name, type := "TEXT", notNull := true }

def noteColumn : Column := textColumn "note"

def descriptionColumn : Column := textColumn "description"

def labelsColumn : Column := textColumn "labels"

def workspaceIdColumn : Column := textColumn "workspace_id"

def ownerIdColumn : Column :=
  { name := "owner_id", type := "TEXT", notNull := true, default := .text systemOwnerId }

/-- The columns of `CREATE_TABLE_SQL`. -/
def connectionsColumns : List Column :=
  [textColumn "id", requiredColumn "name", requiredColumn "hosts",
    { name := "port", type := "INTEGER", notNull := true, default := .integer 3000 },
    textColumn "cluster_name", textColumn "username", textColumn "password",
    { name := "color", type := "TEXT", notNull := true, default := .text "#0097D3" },
    noteColumn, labelsColumn, requiredColumn "created_at", requiredColumn "updated_at"]

/-- The columns of `CREATE_WORKSPACES_TABLE_SQL`. -/
def workspacesColumns : List Column :=
  [textColumn "id", requiredColumn "name",
    { name := "color", type := "TEXT", notNull := true, default := .text "#6366F1" },
    textColumn "description",
    { name := "is_default", type := "INTEGER", notNull := true, default := .integer 0 },
    ownerIdColumn, requiredColumn "created_at", requiredColumn "updated_at"]

/-- The columns of `CREATE_SET_NOTES_TABLE_SQL`. -/
def setNotesColumns : List Column :=
  [requiredColumn "connection_id", requiredColumn "namespace", requiredColumn "set_name",
    requiredColumn "note", requiredColumn "created_at", requiredColumn "updated_at",
    textColumn "updated_by"]

/-- The columns of `CREATE_RECORD_NOTES_TABLE_SQL`. -/
def recordNotesColumns : List Column :=
  [requiredColumn "connection_id", requiredColumn "namespace", requiredColumn "set_name",
    requiredColumn "pk_text",
    { name := "pk_type", type := "TEXT", notNull := true, default := .text "string" },
    textColumn "digest_hex", requiredColumn "note", requiredColumn "created_at",
    requiredColumn "updated_at", textColumn "updated_by"]

/-- The columns of `CREATE_GUIDES_TABLE_SQL`. -/
def guidesColumns : List Column :=
  [requiredColumn "workspace_id", requiredColumn "guide_type", requiredColumn "title",
    requiredColumn "content", requiredColumn "created_at", requiredColumn "updated_at",
    textColumn "updated_by"]

/-- A `CREATE TABLE` of `init_db`: the name, the columns and the key. -/
structure TableDefinition where
  name : String
  columns : List Column
  primaryKey : List String
  nodup : (columns.map Column.name).Nodup

/-- The table that is created. -/
def TableDefinition.empty (d : TableDefinition) : Schema.Table where
  columns := d.columns
  primaryKey := d.primaryKey
  rows := []
  nodup := d.nodup
  keys_eq := List.forall_mem_nil _

def connectionsTable : TableDefinition :=
  ⟨"connections", connectionsColumns, ["id"], by decide⟩

def workspacesTable : TableDefinition :=
  ⟨"workspaces", workspacesColumns, ["id"], by decide⟩

def setNotesTable : TableDefinition :=
  ⟨"set_notes", setNotesColumns, ["connection_id", "namespace", "set_name"], by decide⟩

def recordNotesTable : TableDefinition :=
  ⟨"record_notes", recordNotesColumns,
    ["connection_id", "namespace", "set_name", "pk_text", "pk_type"], by decide⟩

def guidesTable : TableDefinition :=
  ⟨"guides", guidesColumns, ["workspace_id", "guide_type"], by decide⟩

/-! ### Statements -/

/-- The statements of `init_db`. -/
inductive SchemaStatement
  | pragma (setting : String)
  | createTable (d : TableDefinition)
  | createIndex (index table : String) (columns : List String)
  /-- `PRAGMA table_info`. -/
  | tableInfo (table : String)
  | addColumn (table : String) (column : Column)
  | renameColumn (table old new : String)
  | insertOrIgnore (table : String) (values : Row)
  /-- `UPDATE … SET column = value WHERE column IS NULL`. -/
  | updateNull (table column : String) (value : Value)
  | commit

/-- What each statement gives. -/
abbrev SchemaStatement.Resp : SchemaStatement → Type
  | .tableInfo _ => List String
  | _ => Unit

/-- The programs over these statements. -/
abbrev SchemaProgram (α : Type) : Type := Coroutine SchemaStatement SchemaStatement.Resp Exc α

/-- One statement. -/
abbrev schema (r : SchemaStatement) : SchemaProgram r.Resp := Coroutine.call r

/-- A connection: what is committed, and what the open transaction would commit. -/
structure SchemaSession where
  committed : Database
  pending : Option Database := none

namespace SchemaSession

/-- What the connection sees. -/
def view (s : SchemaSession) : Database := s.pending.getD s.committed

/-- A change of the schema joins the open transaction; without one it takes effect at once. -/
def ddl (s : SchemaSession) : Option Database → Except Exc Unit × SchemaSession
  | none => (.error (.databaseError "OperationalError"), s)
  | some d =>
      (.ok (), if s.pending.isSome then { s with pending := some d } else { s with committed := d })

/-- A change of rows opens a transaction where none is open. -/
def dml (s : SchemaSession) : Option Database → Except Exc Unit × SchemaSession
  | none => (.error (.databaseError "OperationalError"), s)
  | some d => (.ok (), { s with pending := some d })

/-- The effect of a statement. -/
def exec : (r : SchemaStatement) → SchemaSession → Except Exc r.Resp × SchemaSession
  | .pragma _, s => (.ok (), s)
  | .createTable d, s => s.ddl (some (s.view.createTable d.name d.empty))
  | .createIndex index table columns, s => s.ddl (s.view.createIndex index table columns)
  | .tableInfo table, s => (.ok (((s.view.tables table).map Table.names).getD []), s)
  | .addColumn table column, s => s.ddl (s.view.alter table (Table.addColumn · column))
  | .renameColumn table old new, s => s.ddl (s.view.alter table (Table.renameColumn · old new))
  | .insertOrIgnore table values, s => s.dml (s.view.alter table (Table.insertOrIgnore · values))
  | .updateNull table column value, s =>
      s.dml (s.view.alter table (Table.updateNull · column value))
  | .commit, s => (.ok (), ⟨s.view, none⟩)

end SchemaSession

/-! ### `init_db` -/

/-- `note`: an old `description` is renamed, and added where there was neither. -/
def migrateNote : SchemaProgram Unit := do
  let columns ← schema (.tableInfo "connections")
  if "note" ∈ columns then return ()
  else do
    if "description" ∈ columns then
      schema (.renameColumn "connections" "description" "note")
    else schema (.addColumn "connections" noteColumn)
    schema .commit

/-- A column is added where it is missing. -/
def addMissingColumn (table : String) (column : Column) : SchemaProgram Unit := do
  let columns ← schema (.tableInfo table)
  if column.name ∈ columns then return ()
  else do
    schema (.addColumn table column)
    schema .commit

/-- The row of the default workspace. -/
def defaultWorkspaceRow (now : String) : Row :=
  [("id", .text defaultWorkspaceId), ("name", .text "Default"), ("color", .text "#6366F1"),
    ("description", .text "Default workspace"), ("is_default", .integer 1),
    ("owner_id", .text systemOwnerId), ("created_at", .text now), ("updated_at", .text now)]

/-- The default workspace is seeded, and the connections without a workspace go into it. -/
def seedDefaultWorkspace (now : String) : SchemaProgram Unit := do
  schema (.insertOrIgnore "workspaces" (defaultWorkspaceRow now))
  schema (.updateNull "connections" "workspace_id" (.text defaultWorkspaceId))
  schema .commit

/-- `_apply_migrations`. -/
def applyMigrations (now : String) : SchemaProgram Unit := do
  migrateNote
  addMissingColumn "connections" labelsColumn
  addMissingColumn "connections" workspaceIdColumn
  addMissingColumn "workspaces" ownerIdColumn
  seedDefaultWorkspace now

/-- The tables and indexes that `init_db` creates. -/
def createTables : SchemaProgram Unit := do
  schema (.createTable connectionsTable)
  schema (.createTable workspacesTable)
  schema (.createTable setNotesTable)
  schema (.createIndex "idx_set_notes_conn_ns" "set_notes" ["connection_id", "namespace"])
  schema (.createTable recordNotesTable)
  schema (.createIndex "idx_record_notes_conn_ns_set" "record_notes"
    ["connection_id", "namespace", "set_name"])
  schema (.createTable guidesTable)
  schema .commit

/-- `init_db` from the new connection on. -/
def initDb (now : String) : SchemaProgram Unit := do
  schema (.pragma "journal_mode=WAL")
  schema (.pragma "foreign_keys=ON")
  createTables
  applyMigrations now

/-! ### Starts -/

/-- A start that is not killed, and the database it leaves: what was not committed is lost when
the connection is closed. -/
def start (now : String) (d : Database) : Except Exc Unit × Database :=
  let (result, s) := (initDb now).run SchemaSession.exec { committed := d }
  (result, s.committed)

/-- The database after a start that was killed after `n` of its statements. -/
def killed (n : ℕ) (now : String) (d : Database) : Database :=
  ((initDb now).runFor SchemaSession.exec n { committed := d }).committed

/-- The database after starts that were all killed. -/
def afterKills (d : Database) (kills : List (ℕ × String)) : Database :=
  kills.foldl (fun d kill => killed kill.1 kill.2 d) d

end ClusterManager.Db.SqliteSchema
