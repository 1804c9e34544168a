import ClusterManager.Db.Tables
import ClusterManager.Lib.Interleaving

/-!
# The SQLite backend, statement by statement

All writers share one connection. `Connection` is what they share: the committed tables, the
transaction that is open on the connection, if any, and the write lock. A writer is a program over
the awaits of the source; any of them may raise, at a statement that has run, that has only opened
its implicit transaction, or that has not run at all. A cancelled await is such a fault too: the
driver thread still runs a statement that was queued.
-/

namespace ClusterManager.Db.Sqlite

open Interleaving

/-- The rows the writers fetch: those of their `SELECT`s, and the row that a `RETURNING *` gives
back, which is the one under the key just written. -/
inductive Query
  | connectionById (connId : String)
  | workspaceById (workspaceId : String)
  | allConnections
  | returnedSetNote (key : String × String × String)
  | returnedRecordNote (key : String × String × String × String × String)
  | returnedGuide (key : String × String)

/-- The type of the rows. -/
abbrev Query.Row : Query → Type
  | .connectionById _ => ConnectionRow
  | .workspaceById _ => Workspace
  | .allConnections => ConnectionRow
  | .returnedSetNote _ => SetNote
  | .returnedRecordNote _ => RecordNote
  | .returnedGuide _ => Guide

/-- The rows that are fetched. -/
def Query.rows : (q : Query) → Tables → List q.Row
  | .connectionById connId, t => (t.connections.find? connId).toList
  | .workspaceById workspaceId, t => (t.workspaces.find? workspaceId).toList
  | .allConnections, t => t.connections.rows
  | .returnedSetNote key, t => (t.setNotes.find? key).toList
  | .returnedRecordNote key, t => (t.recordNotes.find? key).toList
  | .returnedGuide key, t => (t.guides.find? key).toList

/-- The awaits of a writer. `handler` marks the `ROLLBACK` in `except Exception`. -/
inductive Stmt
  | acquire
  | release
  | begin
  | select (q : Query)
  | fetch (q : Query)
  | closeCursor
  | execute (d : Dml)
  | commit
  | rollback (handler : Bool)

/-- What each await returns. -/
abbrev Stmt.Resp : Stmt → Type
  | .fetch q => List q.Row
  | .execute _ => ℕ
  | _ => Unit

/-- One pass through the write lock: who held it, and the tables committed before and after. -/
structure Tenure where
  writer : ℕ
  before : Tables
  after : Tables

/-- The shared connection. For the statements below the lock also remembers the tables that were
committed when it was taken, and `tenures` those of every holder that has released it. -/
structure Connection where
  committed : Tables
  tx : Option Tables := none
  lock : Option (ℕ × Tables) := none
  tenures : List Tenure := []

/-- What the connection reads: its own open transaction, else what is committed. -/
def Connection.view (s : Connection) : Tables := s.tx.getD s.committed

/-- How much of a statement was done when its await raised. -/
inductive Effect
  | nothing
  | begun
  | complete
  deriving DecidableEq

/-- An await that raises. -/
structure Fault where
  exc : Exc
  effect : Effect

/-- A statement that runs. A `BEGIN` inside a transaction is refused; a data-changing statement
opens a transaction when there is none, and leaves it open when it is refused. -/
def Stmt.run (i : ℕ) : (r : Stmt) → Connection → Except Exc r.Resp × Connection
  | .acquire, s => (.ok (), { s with lock := some (i, s.committed) })
  | .release, s =>
      (.ok (), { s with
        lock := none
        tenures := s.tenures ++ s.lock.toList.map fun (i, before) => ⟨i, before, s.committed⟩ })
  | .begin, s =>
      match s.tx with
      | none => (.ok (), { s with tx := some s.committed })
      | some _ =>
          (.error (.databaseError "cannot start a transaction within a transaction"), s)
  | .select _, s => (.ok (), s)
  | .fetch q, s => (.ok (q.rows s.view), s)
  | .closeCursor, s => (.ok (), s)
  | .execute d, s =>
      match d.apply s.view with
      | .ok (rowcount, t) => (.ok rowcount, { s with tx := some t })
      | .error e => (.error e, { s with tx := some s.view })
  | .commit, s => (.ok (), { s with committed := s.view, tx := none })
  | .rollback _, s => (.ok (), { s with tx := none })

/-- The connection after a statement whose await raised. -/
def Stmt.fail (i : ℕ) (r : Stmt) (effect : Effect) (s : Connection) : Connection :=
  match effect with
  | .nothing => s
  | .complete => (r.run i s).2
  | .begun =>
      match r with
      | .execute _ => { s with tx := some s.view }
      | _ => s

/-- One await on the shared connection. The lock is waited for, and not taken when the wait is
cut short; releasing it cannot fail. -/
def world : World Stmt Stmt.Resp Exc (Option Fault) Empty Connection where
  exec i r x s :=
    match r, x with
    | .acquire, none => if s.lock.isNone then some (Stmt.acquire.run i s) else none
    | .acquire, some f => some (.error f.exc, s)
    | .release, _ => some (Stmt.release.run i s)
    | r, none => some (r.run i s)
    | r, some f => some (.error f.exc, r.fail i f.effect s)
  env e _ := nomatch e

/-! ### The writers -/

/-- The programs of the writers. -/
abbrev Program (α : Type) : Type := Coroutine Stmt Stmt.Resp Exc α

/-- Await one statement. -/
abbrev sql (r : Stmt) : Program r.Resp := Coroutine.call r

/-- `async with _get_write_lock()`. -/
def withWriteLock {α : Type} (body : Program α) : Program α := do
  sql .acquire
  body.tryFinally (sql .release)

/-- `try: … except Exception: await rollback(); raise`. -/
def rollbackOnException {α : Type} (body : Program α) : Program α :=
  body.tryCatch fun e =>
    if e.isException then do
      sql (.rollback true)
      throw e
    else throw e

/-- `async with conn.execute(…) as cursor: await cursor.fetch…()`. -/
def cursor (q : Query) : Program (List q.Row) := do
  sql (.select q)
  (sql (.fetch q)).tryFinally (sql .closeCursor)

/-- One statement and its `COMMIT`: the shape of the inserts and the deletes. -/
def executeAndCommit (d : Dml) : Program ℕ :=
  withWriteLock (rollbackOnException do
    let rowcount ← sql (.execute d)
    sql .commit
    return rowcount)

variable (rt : Runtime)

/-- `create_connection`. -/
def createConnection (conn : ConnectionProfile) (nonce : ℕ) : Program Unit := do
  let _ ← executeAndCommit (.insertConnection (profileToRow rt nonce conn))

/-- The transaction of `update_connection`. -/
def updateConnectionBody (connId : String) (data : UpdateData) (now : String) (nonce : ℕ) :
    Program (Option ConnectionProfile) := do
  match (← cursor (.connectionById connId)).head? with
  | none => do
      sql (.rollback false)
      return none
  | some row => do
      let existing ← Coroutine.lift (decryptedProfile rt row)
      let updated ← Coroutine.lift (buildMergedProfile rt existing data connId now)
      let _ ← sql (.execute (.updateConnection connId (profileToRow rt nonce updated)))
      sql .commit
      return some updated

/-- `update_connection`. -/
def updateConnection (connId : String) (data : UpdateData) (now : String) (nonce : ℕ) :
    Program (Option ConnectionProfile) :=
  withWriteLock do
    sql .begin
    rollbackOnException (updateConnectionBody rt connId data now nonce)

/-- `delete_connection`. -/
def deleteConnection (connId : String) : Program Bool := do
  let rowcount ← executeAndCommit (.deleteConnection connId)
  return rowcount == 1

/-- `create_workspace`. -/
def createWorkspace (ws : Workspace) : Program Unit := do
  let _ ← executeAndCommit (.insertWorkspace ws)

/-- The transaction of `update_workspace`. -/
def updateWorkspaceBody (workspaceId : String) (data : WorkspaceUpdateData) (now : String) :
    Program (Option Workspace) := do
  match (← cursor (.workspaceById workspaceId)).head? with
  | none => do
      sql (.rollback false)
      return none
  | some row => do
      let existing ← Coroutine.lift (rowToWorkspace row)
      let updated ← Coroutine.lift (buildMergedWorkspace existing data now)
      let _ ← sql (.execute (.updateWorkspace workspaceId updated))
      sql .commit
      return some updated

/-- `update_workspace`. -/
def updateWorkspace (workspaceId : String) (data : WorkspaceUpdateData) (now : String) :
    Program (Option Workspace) :=
  withWriteLock do
    sql .begin
    rollbackOnException (updateWorkspaceBody workspaceId data now)

/-- `delete_workspace`. -/
def deleteWorkspace (workspaceId : String) : Program Bool := do
  let rowcount ← executeAndCommit (.deleteWorkspace workspaceId)
  return rowcount == 1

/-- How the calls of `encrypt_password` in one migration end: the nonce of each row's token, or the
exception it raises. -/
structure Draws where
  draw : String → Except Exc ℕ
  isException : ∀ connId e, draw connId = .error e → e.isException = true

/-- Every call of `encrypt_password` returns. -/
def Draws.succeeding (nonces : String → ℕ) : Draws := ⟨fun connId => .ok (nonces connId), by simp⟩

/-- The loop of `migrate_passwords_to_encrypted`. -/
def rewriteRows (draws : Draws) : List ConnectionRow → Program ℕ
  | [] => return 0
  | row :: rows =>
      match legacyPassword row with
      | none => rewriteRows draws rows
      | some password => do
          let nonce ← Coroutine.lift (draws.draw row.id)
          let encrypted := encryptPassword rt.fernet nonce password
          let _ ← sql (.execute (.updatePassword row.id (some encrypted)))
          let rewritten ← rewriteRows draws rows
          return rewritten + 1

/-- The transaction of `migrate_passwords_to_encrypted`. -/
def migrateBody (draws : Draws) : Program ℕ := do
  let rows ← cursor .allConnections
  let rewritten ← rewriteRows rt draws rows
  sql .commit
  return rewritten

/-- `migrate_passwords_to_encrypted`. -/
def migratePasswordsToEncrypted (draws : Draws) : Program ℕ :=
  withWriteLock do
    sql .begin
    rollbackOnException (migrateBody rt draws)

/-! ### Notes and guides -/

/-- One upsert, the fetch of the row it returns, and the `COMMIT`. -/
def upsertAndCommit (d : Dml) (q : Query) : Program (Option q.Row) :=
  withWriteLock (rollbackOnException do
    let _ ← sql (.execute d)
    let rows ← (sql (.fetch q)).tryFinally (sql .closeCursor)
    sql .commit
    return rows.head?)

/-- What the upserts make of the row they fetched: a missing one is a `RuntimeError`. -/
def returned {α : Type} (message : String) (convert : α → Except Exc α) : Option α → Except Exc α
  | none => .error (.other message)
  | some row => convert row

/-- `upsert_set_note`. -/
def upsertSetNote (note : SetNote) : Program SetNote := do
  let row ← upsertAndCommit (.upsertSetNote note) (.returnedSetNote note.key)
  Coroutine.lift (returned "set note vanished immediately after upsert" .ok row)

/-- `delete_set_note`. -/
def deleteSetNote (connectionId namespace_ setName : String) : Program Bool := do
  let rowcount ← executeAndCommit (.deleteSetNote (connectionId, namespace_, setName))
  return rowcount == 1

/-- `upsert_record_note`. -/
def upsertRecordNote (note : RecordNote) : Program RecordNote := do
  let row ← upsertAndCommit (.upsertRecordNote note) (.returnedRecordNote note.key)
  Coroutine.lift (returned "record note vanished immediately after upsert" rowToRecordNote row)

/-- `delete_record_note`. -/
def deleteRecordNote (connectionId namespace_ setName pkText pkType : String) : Program Bool := do
  let rowcount ← executeAndCommit
    (.deleteRecordNote (connectionId, namespace_, setName, pkText, pkType))
  return rowcount == 1

/-- `upsert_guide`. -/
def upsertGuide (guide : Guide) : Program Guide := do
  let row ← upsertAndCommit (.upsertGuide guide) (.returnedGuide guide.key)
  Coroutine.lift (returned "guide vanished immediately after upsert" rowToGuide row)

/-- `delete_guide`. -/
def deleteGuide (workspaceId guideType : String) : Program Bool := do
  let rowcount ← executeAndCommit (.deleteGuide (workspaceId, guideType))
  return rowcount == 1

/-! ### Calls -/

/-- A call of one of the writers. The arguments of an upsert are those of the row it inserts. -/
inductive Writer
  | createConnection (conn : ConnectionProfile) (nonce : ℕ)
  | updateConnection (connId : String) (data : UpdateData) (now : String) (nonce : ℕ)
  | deleteConnection (connId : String)
  | createWorkspace (ws : Workspace)
  | updateWorkspace (workspaceId : String) (data : WorkspaceUpdateData) (now : String)
  | deleteWorkspace (workspaceId : String)
  | migratePasswordsToEncrypted (nonces : String → ℕ)
  | upsertSetNote (note : SetNote)
  | deleteSetNote (connectionId namespace_ setName : String)
  | upsertRecordNote (note : RecordNote)
  | deleteRecordNote (connectionId namespace_ setName pkText pkType : String)
  | upsertGuide (guide : Guide)
  | deleteGuide (workspaceId guideType : String)

/-- The program of a writer, its result dropped. -/
def Writer.program : Writer → Program Unit
  | .createConnection conn nonce => Sqlite.createConnection rt conn nonce
  | .updateConnection connId data now nonce => do
      let _ ← Sqlite.updateConnection rt connId data now nonce
  | .deleteConnection connId => do
      let _ ← Sqlite.deleteConnection connId
  | .createWorkspace ws => Sqlite.createWorkspace ws
  | .updateWorkspace workspaceId data now => do
      let _ ← Sqlite.updateWorkspace workspaceId data now
  | .deleteWorkspace workspaceId => do
      let _ ← Sqlite.deleteWorkspace workspaceId
  | .migratePasswordsToEncrypted nonces => do
      let _ ← Sqlite.migratePasswordsToEncrypted rt (.succeeding nonces)
  | .upsertSetNote note => do
      let _ ← Sqlite.upsertSetNote note
  | .deleteSetNote connectionId namespace_ setName => do
      let _ ← Sqlite.deleteSetNote connectionId namespace_ setName
  | .upsertRecordNote note => do
      let _ ← Sqlite.upsertRecordNote note
  | .deleteRecordNote connectionId namespace_ setName pkText pkType => do
      let _ ← Sqlite.deleteRecordNote connectionId namespace_ setName pkText pkType
  | .upsertGuide guide => do
      let _ ← Sqlite.upsertGuide guide
  | .deleteGuide workspaceId guideType => do
      let _ ← Sqlite.deleteGuide workspaceId guideType

/-- The complete operation of a writer. -/
def Writer.complete : Writer → Tables → Except Exc Tables
  | .createConnection conn nonce, t => Db.createConnection rt conn nonce t
  | .updateConnection connId data now nonce, t =>
      (Db.updateConnection rt connId data now nonce t).map Prod.snd
  | .deleteConnection connId, t => (Db.deleteConnection connId t).map Prod.snd
  | .createWorkspace ws, t => Db.createWorkspace ws t
  | .updateWorkspace workspaceId data now, t =>
      (Db.updateWorkspace workspaceId data now t).map Prod.snd
  | .deleteWorkspace workspaceId, t => (Db.deleteWorkspace workspaceId t).map Prod.snd
  | .migratePasswordsToEncrypted nonces, t =>
      .ok (Db.migratePasswordsToEncrypted rt nonces t).2
  | .upsertSetNote note, t => ((Dml.upsertSetNote note).apply t).map Prod.snd
  | .deleteSetNote connectionId namespace_ setName, t =>
      ((Dml.deleteSetNote (connectionId, namespace_, setName)).apply t).map Prod.snd
  | .upsertRecordNote note, t => ((Dml.upsertRecordNote note).apply t).map Prod.snd
  | .deleteRecordNote connectionId namespace_ setName pkText pkType, t =>
      ((Dml.deleteRecordNote (connectionId, namespace_, setName, pkText, pkType)).apply t).map
        Prod.snd
  | .upsertGuide guide, t => ((Dml.upsertGuide guide).apply t).map Prod.snd
  | .deleteGuide workspaceId guideType, t =>
      ((Dml.deleteGuide (workspaceId, guideType)).apply t).map Prod.snd

end ClusterManager.Db.Sqlite
