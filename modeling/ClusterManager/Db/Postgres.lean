import Mathlib.Data.List.Perm.Basic
import Mathlib.Logic.Function.Basic
import ClusterManager.Db.Tables
import ClusterManager.Lib.Interleaving

/-!
# The PostgreSQL backend under READ COMMITTED

Replicas share one database. `Database` is what is committed, the row versions that open
transactions have written, and the row locks. A statement sees what is committed when it runs and
the versions of its own transaction; a statement that locks a row waits until no other transaction
holds it, and then acts on the newest committed version.
-/

namespace ClusterManager.Db.Postgres

open Interleaving

/-- The statements on `connections`. `INSERT` and `DELETE` run on the pool, each in a transaction
of its own. -/
inductive Stmt
  | begin
  | commit
  | rollback
  /-- `SELECT id, password FROM connections`. -/
  | selectPasswords
  /-- `SELECT * FROM connections WHERE id = $1 FOR UPDATE`. -/
  | selectForUpdate (connId : String)
  /-- `UPDATE connections SET name = $1, … WHERE id = $12`. -/
  | update (connId : String) (row : ConnectionRow)
  /-- `UPDATE connections SET password = $1 WHERE id = $2`. -/
  | updatePassword (connId password : String)
  | insert (row : ConnectionRow)
  | delete (connId : String)

/-- What each statement returns. -/
abbrev Stmt.Resp : Stmt → Type
  | .selectPasswords => List ConnectionRow
  | .selectForUpdate _ => Option ConnectionRow
  | .update _ _ => ℕ
  | .updatePassword _ _ => ℕ
  | .delete _ => ℕ
  | _ => Unit

/-- The committed rows of `connections`. -/
abbrev Connections : Type := Table ConnectionRow ConnectionRow.id

/-- One commit: who made it, which rows it wrote, and the rows committed before and after. -/
structure Commit where
  writer : ℕ
  wrote : List String
  before : Connections
  after : Connections

/-- The database: what is committed, the versions each open transaction has written, which
transaction holds the lock on a row, and, for the statements below, the commits so far. -/
structure Database where
  connections : Connections
  versions : ℕ → Dict String ConnectionRow := fun _ => []
  locks : String → Option ℕ := fun _ => none
  log : List Commit := []

/-- The database before the first transaction. -/
def Database.start (connections : Connections) : Database := { connections }

/-- The newest version of a row that a transaction sees. -/
def Database.newest (s : Database) (i : ℕ) (row : ConnectionRow) : ConnectionRow :=
  ((s.versions i).get? row.id).elim row fun version => { version with id := row.id }

theorem Database.newest_id (s : Database) (i : ℕ) (row : ConnectionRow) :
    (s.newest i row).id = row.id := by
  unfold Database.newest
  cases (s.versions i).get? row.id <;> rfl

theorem Database.newest_of_none {s : Database} {i : ℕ} {row : ConnectionRow}
    (h : (s.versions i).get? row.id = none) : s.newest i row = row := by
  simp [Database.newest, h]

theorem Database.newest_of_some {s : Database} {i : ℕ} {row version : ConnectionRow}
    (h : (s.versions i).get? row.id = some version) (hid : version.id = row.id) :
    s.newest i row = version := by
  rw [Database.newest, h, ← hid]
  rfl

/-- The row with an id that a transaction sees. -/
def Database.current (s : Database) (i : ℕ) (connId : String) : Option ConnectionRow :=
  (s.connections.find? connId).map (s.newest i)

/-- No other transaction holds the lock on a row. -/
def Database.free (s : Database) (i : ℕ) (connId : String) : Bool :=
  s.locks connId = none ∨ s.locks connId = some i

/-- What is committed once a transaction has committed. -/
def Database.installed (s : Database) (i : ℕ) : Connections :=
  s.connections.map (s.newest i) (s.newest_id i)

/-- End a transaction: its versions are gone and its locks released. -/
def Database.ended (s : Database) (i : ℕ) : Database :=
  { s with
    versions := Function.update s.versions i []
    locks := fun connId => if s.locks connId = some i then none else s.locks connId }

/-- Commit rows, in the name of a transaction. -/
def Database.committed (s : Database) (i : ℕ) (wrote : List String) (connections : Connections) :
    Database :=
  { s with connections, log := s.log ++ [⟨i, wrote, s.connections, connections⟩] }

/-- Write a new version of a row, if there is one, and lock it. -/
def Database.write (s : Database) (i : ℕ) (connId : String) (f : ConnectionRow → ConnectionRow) :
    Option (Except Exc ℕ × Database) :=
  if s.free i connId then
    match s.current i connId with
    | some row => some (.ok 1, { s with
        versions := Function.update s.versions i ((s.versions i).set connId (f row))
        locks := Function.update s.locks connId (some i) })
    | none => some (.ok 0, s)
  else none

/-- One statement of the `i`-th session. The choice is the order in which a `SELECT` returns the
rows. -/
def world : World Stmt Stmt.Resp Exc (List ConnectionRow) Empty Database where
  exec i r order s :=
    match r with
    | .begin => some (.ok (), s)
    | .commit =>
        some (.ok (), (s.committed i ((s.versions i).map Prod.fst) (s.installed i)).ended i)
    | .rollback => some (.ok (), s.ended i)
    | .selectPasswords =>
        if order.Perm (s.connections.rows.map (s.newest i)) then some (.ok order, s) else none
    | .selectForUpdate connId =>
        if s.free i connId then
          match s.current i connId with
          | some row =>
              some (.ok (some row), { s with locks := Function.update s.locks connId (some i) })
          | none => some (.ok none, s)
        else none
    | .update connId row => s.write i connId row.assign
    | .updatePassword connId password => s.write i connId ({ · with password := some password })
    | .insert row =>
        match s.connections.insert? row with
        | some connections => some (.ok (), s.committed i [row.id] connections)
        | none => some (.error .integrityError, s)
    | .delete connId =>
        if s.free i connId then
          some (.ok (s.connections.find? connId).toList.length,
            s.committed i [connId] (s.connections.delete (·.id = connId)))
        else none
  env e _ := nomatch e

/-! ### The calls -/

/-- The programs of a replica. -/
abbrev Program (α : Type) : Type := Coroutine Stmt Stmt.Resp Exc α

/-- Await one statement. -/
abbrev sql (r : Stmt) : Program r.Resp := Coroutine.call r

/-- `async with conn.transaction()`. -/
def transaction {α : Type} (body : Program α) : Program α := do
  sql .begin
  let a ← body.tryCatch fun e => do
    sql .rollback
    throw e
  sql .commit
  return a

variable (rt : Runtime)

/-- `create_connection`. -/
def createConnection (conn : ConnectionProfile) (nonce : ℕ) : Program Unit :=
  sql (.insert (profileToRow rt nonce conn))

/-- `update_connection`. -/
def updateConnection (connId : String) (data : UpdateData) (now : String) (nonce : ℕ) :
    Program (Option ConnectionProfile) :=
  transaction do
    match ← sql (.selectForUpdate connId) with
    | none => return none
    | some row => do
        let existing ← Coroutine.lift (decryptedProfile rt row)
        let updated ← Coroutine.lift (buildMergedProfile rt existing data connId now)
        let _ ← sql (.update connId (profileToRow rt nonce updated))
        return some updated

/-- `delete_connection`. -/
def deleteConnection (connId : String) : Program Bool := do
  let rowcount ← sql (.delete connId)
  return rowcount == 1

/-- The loop of `migrate_passwords_to_encrypted`. -/
def rewriteRows (nonces : String → ℕ) : List ConnectionRow → Program ℕ
  | [] => return 0
  | row :: rows =>
      match passwordRewrite rt nonces row with
      | none => rewriteRows nonces rows
      | some (connId, password) => do
          let _ ← sql (.updatePassword connId password)
          let rewritten ← rewriteRows nonces rows
          return rewritten + 1

/-- `migrate_passwords_to_encrypted`. -/
def migratePasswordsToEncrypted (nonces : String → ℕ) : Program ℕ :=
  transaction do
    let rows ← sql .selectPasswords
    rewriteRows rt nonces rows

/-- A call on one of the replicas. -/
inductive Call
  | createConnection (conn : ConnectionProfile) (nonce : ℕ)
  | updateConnection (connId : String) (data : UpdateData) (now : String) (nonce : ℕ)
  | deleteConnection (connId : String)
  | migratePasswordsToEncrypted (nonces : String → ℕ)

/-- The program of a call, its result dropped. -/
def Call.program : Call → Program Unit
  | .createConnection conn nonce => Postgres.createConnection rt conn nonce
  | .updateConnection connId data now nonce => do
      let _ ← Postgres.updateConnection rt connId data now nonce
  | .deleteConnection connId => do
      let _ ← Postgres.deleteConnection connId
  | .migratePasswordsToEncrypted nonces => do
      let _ ← Postgres.migratePasswordsToEncrypted rt nonces

end ClusterManager.Db.Postgres
