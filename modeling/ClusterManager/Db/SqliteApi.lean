import ClusterManager.Db.Backend

/-!
# The SQLite backend down to its columns

JSON columns are text and the flag is an integer. All statements go through one connection: a
data-changing statement opens a transaction if there is none, and every writer commits or rolls
back. The calls run one after the other here, so the write lock is always free.
-/

namespace ClusterManager.Db.SqliteApi

open Backend
open JsonText (dumps ascii)

/-- The database. -/
abbrev Tables : Type := Store String ℕ

/-! ### Statements -/

/-- `sqlite3` binds any text, and integers of 64 bits. -/
def bindParam : Param → Except Exc Unit
  | .int n => if n < 9223372036854775808 then .ok () else .error (.other "OverflowError")
  | _ => .ok ()

/-- `await db_conn.execute(…)` of a statement that changes data. The transaction it opens is left
open when it fails. -/
def execute {α : Type} (params : List Param) (stmt : Statement String ℕ α) : Sql Tables α := fun l =>
  match (do params.forM bindParam; stmt l.view) with
  | .ok (a, s) => (.ok a, { l with tx := some s })
  | .error e => (.error e, { l with tx := some l.view })

/-- `async with conn.execute("SELECT …") as cursor: await cursor.fetch…()`. -/
def select {α : Type} (params : List Param) (query : Tables → α) : Sql Tables α := fun l =>
  ((params.forM bindParam).map fun _ => query l.view, l)

/-- `BEGIN IMMEDIATE`. -/
def begin : Sql Tables Unit := fun l =>
  match l.tx with
  | none => (.ok (), { l with tx := some l.committed })
  | some _ => (.error (.databaseError "cannot start a transaction within a transaction"), l)

/-- `await db_conn.commit()`. -/
def commit : Sql Tables Unit := fun l => (.ok (), { committed := l.view })

/-- `await db_conn.rollback()`. -/
def rollback : Sql Tables Unit := fun l => (.ok (), { committed := l.committed })

/-- `try: … except Exception: await db_conn.rollback(); raise`. -/
def rollbackOnException {α : Type} (body : Sql Tables α) : Sql Tables α :=
  body.tryCatch fun e => do
    rollback
    Sql.throw e

/-- One statement and its `COMMIT`. -/
def executeAndCommit {α : Type} (params : List Param) (stmt : Statement String ℕ α) :
    Sql Tables α :=
  rollbackOnException do
    let a ← execute params stmt
    commit
    return a

/-- A row is read, a new one made of it and written: the shape of the two updates. -/
def readModifyWrite {ρ β : Type} (params : List Param) (find : Tables → Option ρ)
    (merge : ρ → Except Exc β) (params' : β → List Param)
    (stmt : β → Statement String ℕ Unit) : Sql Tables (Option β) := do
  begin
  rollbackOnException do
    match ← select params find with
    | none => do
        rollback
        return none
    | some row => do
        let updated ← Sql.lift (merge row)
        execute (params' updated) (stmt updated)
        commit
        return some updated

section Runs

variable {α β ρ : Type} {params : List Param} {s : Tables} {l l' : Link Tables}

theorem execute_eq {stmt : Statement String ℕ α} (hbind : params.forM bindParam = .ok ()) :
    execute params stmt l = match stmt l.view with
      | .ok (a, s) => (.ok a, { l with tx := some s })
      | .error e => (.error e, { l with tx := some l.view }) := by
  rw [execute, hbind]
  rfl

theorem select_eq {query : Tables → α} (hbind : params.forM bindParam = .ok ()) :
    select params query l = (.ok (query l.view), l) := by
  rw [select, hbind]
  rfl

theorem rollbackOnException_ok {body : Sql Tables α} {a : α} (h : body l = (.ok a, l')) :
    rollbackOnException body l = (.ok a, l') :=
  Sql.tryCatch_ok h

theorem rollbackOnException_error {body : Sql Tables α} {e : Exc} (h : body l = (.error e, l')) :
    rollbackOnException body l = (.error e, { committed := l'.committed }) :=
  Sql.tryCatch_error h

/-- One statement and its `COMMIT` are a transaction. -/
theorem executeAndCommit_eq {stmt : Statement String ℕ α}
    (hbind : params.forM bindParam = .ok ()) :
    executeAndCommit params stmt ⟨s, none⟩ = settle s (stmt s) := by
  have hexecute : execute params stmt ⟨s, none⟩ = _ := execute_eq hbind
  rw [Link.view, Option.getD_none] at hexecute
  cases hstmt : stmt s with
  | ok x =>
    rw [hstmt] at hexecute
    exact rollbackOnException_ok (Sql.bind_ok hexecute)
  | error e =>
    rw [hstmt] at hexecute
    exact rollbackOnException_error (Sql.bind_error hexecute)

/-- A row that is read, merged and written is read and written in one transaction. -/
theorem readModifyWrite_eq {find : Tables → Option ρ} {merge : ρ → Except Exc β}
    {params' : β → List Param} {stmt : β → Statement String ℕ Unit}
    (hbind : params.forM bindParam = .ok ())
    (hbind' : ∀ row updated, find s = some row → merge row = .ok updated →
      (params' updated).forM bindParam = .ok ()) :
    readModifyWrite params find merge params' stmt ⟨s, none⟩ =
      settle s (findAndWrite find merge stmt s) := by
  have hbegin : begin ⟨s, none⟩ = (.ok (), ⟨s, some s⟩) := rfl
  have hselect : select params find ⟨s, some s⟩ = (.ok (find s), ⟨s, some s⟩) := select_eq hbind
  unfold readModifyWrite
  rw [Sql.bind_ok hbegin, findAndWrite]
  cases hfind : find s with
  | none =>
    rw [hfind] at hselect
    exact rollbackOnException_ok ((Sql.bind_ok hselect).trans rfl)
  | some row =>
    rw [hfind] at hselect
    cases hmerge : merge row with
    | error e =>
      have hlift : Sql.lift (merge row) ⟨s, some s⟩ = (.error e, ⟨s, some s⟩) := by
        rw [Sql.lift, hmerge]
      refine (rollbackOnException_error
        ((Sql.bind_ok hselect).trans (Sql.bind_error hlift))).trans ?_
      simp [settle, bind, Except.bind, hmerge]
    | ok updated =>
      have hlift : Sql.lift (merge row) ⟨s, some s⟩ = (.ok updated, ⟨s, some s⟩) := by
        rw [Sql.lift, hmerge]
      have hexecute : execute (params' updated) (stmt updated) ⟨s, some s⟩ = _ :=
        execute_eq (hbind' row updated hfind hmerge)
      rw [Link.view, Option.getD_some] at hexecute
      cases hstmt : stmt updated s with
      | error e =>
        rw [hstmt] at hexecute
        refine (rollbackOnException_error ((Sql.bind_ok hselect).trans
          ((Sql.bind_ok hlift).trans (Sql.bind_error hexecute)))).trans ?_
        simp [settle, bind, Except.bind, hmerge, hstmt]
      | ok x =>
        rw [hstmt] at hexecute
        refine (rollbackOnException_ok ((Sql.bind_ok hselect).trans
          ((Sql.bind_ok hlift).trans (Sql.bind_ok hexecute)))).trans ?_
        simp [settle, bind, Except.bind, pure, Except.pure, hmerge, hstmt, Link.view]

end Runs

variable (py : Python) (scan : Scan)

/-! ### Connections -/

/-- `_row_to_profile`. -/
def rowToProfile (row : ConnectionColumns String) : Except Exc ConnectionProfile := do
  let row ← readColumns py id row
  decryptedProfile py.toRuntime row

/-- `get_all_connections`. -/
def getAllConnections (workspaceId : Option String) : Sql Tables (List ConnectionProfile) := do
  let rows ← match workspaceId with
    | some workspaceId =>
        select [.text workspaceId] fun s =>
          (scan.found s.connections.rows (·.workspaceId = some workspaceId)).insertionSort
            fun a b => a.createdAt ≤ b.createdAt
    | none =>
        select [] fun s =>
          (scan.found s.connections.rows fun _ => true).insertionSort
            fun a b => a.createdAt ≤ b.createdAt
  Sql.lift (rows.mapM (rowToProfile py))

/-- `get_connection`. -/
def getConnection (connId : String) : Sql Tables (Option ConnectionProfile) := do
  let row ← select [.text connId] (·.connections.find? connId)
  Sql.lift (row.mapM (rowToProfile py))

/-- `create_connection`. -/
def createConnection (conn : ConnectionProfile) (nonce : ℕ) : Sql Tables Unit :=
  let storedPassword := storedPassword py.fernet nonce conn.password
  let hosts := dumps ascii (listJson conn.hosts)
  let labels := dumps ascii (dictJson conn.labels)
  executeAndCommit
    [.text conn.id, .text conn.name, .text hosts, .int conn.port, .text? conn.clusterName,
      .text? conn.username, .text? storedPassword, .text conn.color, .text? conn.note,
      .text labels, .text conn.workspaceId, .text conn.createdAt, .text conn.updatedAt]
    (insertConnection {
      id := conn.id
      name := conn.name
      hosts
      port := conn.port
      clusterName := conn.clusterName
      username := conn.username
      password := storedPassword
      color := conn.color
      note := conn.note
      labels := some labels
      workspaceId := some conn.workspaceId
      createdAt := conn.createdAt
      updatedAt := conn.updatedAt })

/-- What the `UPDATE` of `update_connection` binds. -/
def updateParams (connId : String) (updated : ConnectionProfile) (nonce : ℕ) : List Param :=
  [.text updated.name, .text (dumps ascii (listJson updated.hosts)), .int updated.port,
    .text? updated.clusterName, .text? updated.username,
    .text? (storedPassword py.fernet nonce updated.password), .text updated.color,
    .text? updated.note, .text (dumps ascii (dictJson updated.labels)), .text updated.workspaceId,
    .text updated.updatedAt, .text connId]

/-- The `UPDATE` of `update_connection`. -/
def updateStatement (connId : String) (updated : ConnectionProfile) (nonce : ℕ) :
    Statement String ℕ Unit :=
  Backend.updateConnection connId
    (fun row => { row with
      name := updated.name
      hosts := dumps ascii (listJson updated.hosts)
      port := updated.port
      clusterName := updated.clusterName
      username := updated.username
      password := storedPassword py.fernet nonce updated.password
      color := updated.color
      note := updated.note
      labels := some (dumps ascii (dictJson updated.labels))
      workspaceId := some updated.workspaceId
      updatedAt := updated.updatedAt })
    fun _ => rfl

/-- `update_connection`. -/
def updateConnection (connId : String) (data : UpdateData) (now : String) (nonce : ℕ) :
    Sql Tables (Option ConnectionProfile) :=
  readModifyWrite [.text connId] (·.connections.find? connId)
    (fun row => do
      let existing ← rowToProfile py row
      buildMergedProfile py.toRuntime existing data connId now)
    (fun updated => updateParams py connId updated nonce)
    fun updated => updateStatement py connId updated nonce

/-- `delete_connection`. -/
def deleteConnection (connId : String) : Sql Tables Bool := do
  let rowcount ← executeAndCommit [.text connId] (Backend.deleteConnection connId)
  return rowcount == 1

/-! ### Workspaces -/

/-- `row_to_workspace`, where `bool` of an integer is whether it is not zero. -/
def rowToWorkspace (row : WorkspaceColumns ℕ) : Except Exc Workspace :=
  Db.rowToWorkspace (row.decoded (· ≠ 0))

/-- `ORDER BY is_default DESC, created_at`. -/
def before (a b : WorkspaceColumns ℕ) : Bool :=
  b.isDefault < a.isDefault || (a.isDefault = b.isDefault && a.createdAt ≤ b.createdAt)

/-- `get_all_workspaces`. -/
def getAllWorkspaces : Sql Tables (List Workspace) := do
  let rows ← select [] fun s =>
    (scan.found s.workspaces.rows fun _ => true).insertionSort fun a b => before a b
  Sql.lift (rows.mapM rowToWorkspace)

/-- `get_workspace`. -/
def getWorkspace (workspaceId : String) : Sql Tables (Option Workspace) := do
  let row ← select [.text workspaceId] (·.workspaces.find? workspaceId)
  Sql.lift (row.mapM rowToWorkspace)

/-- `get_workspaces_owned_by`. -/
def getWorkspacesOwnedBy (ownerId : String) : Sql Tables (List Workspace) := do
  let rows ← select [.text ownerId, .text systemOwnerId] fun s =>
    (scan.found s.workspaces.rows fun row =>
      row.ownerId = ownerId || row.ownerId = systemOwnerId).insertionSort fun a b => before a b
  Sql.lift (rows.mapM rowToWorkspace)

/-- `create_workspace`. -/
def createWorkspace (ws : Workspace) : Sql Tables Unit :=
  let isDefault := if ws.isDefault then 1 else 0
  executeAndCommit
    [.text ws.id, .text ws.name, .text ws.color, .text? ws.description, .int isDefault,
      .text ws.ownerId, .text ws.createdAt, .text ws.updatedAt]
    (insertWorkspace {
      id := ws.id
      name := ws.name
      color := ws.color
      description := ws.description
      isDefault
      ownerId := ws.ownerId
      createdAt := ws.createdAt
      updatedAt := ws.updatedAt })

/-- What the `UPDATE` of `update_workspace` binds. -/
def updateWorkspaceParams (workspaceId : String) (updated : Workspace) : List Param :=
  [.text updated.name, .text updated.color, .text? updated.description, .text updated.updatedAt,
    .text workspaceId]

/-- The `UPDATE` of `update_workspace`. -/
def updateWorkspaceStatement (workspaceId : String) (updated : Workspace) :
    Statement String ℕ Unit :=
  Backend.updateWorkspace workspaceId
    (fun row => { row with
      name := updated.name
      color := updated.color
      description := updated.description
      updatedAt := updated.updatedAt })
    fun _ => rfl

/-- `update_workspace`. -/
def updateWorkspace (workspaceId : String) (data : WorkspaceUpdateData) (now : String) :
    Sql Tables (Option Workspace) :=
  readModifyWrite [.text workspaceId] (·.workspaces.find? workspaceId)
    (fun row => do
      let existing ← rowToWorkspace row
      buildMergedWorkspace existing data now)
    (updateWorkspaceParams workspaceId) (updateWorkspaceStatement workspaceId)

/-- `delete_workspace`. -/
def deleteWorkspace (workspaceId : String) : Sql Tables Bool := do
  let rowcount ← executeAndCommit [.text workspaceId] (Backend.deleteWorkspace workspaceId (· = 0))
  return rowcount == 1

/-- `count_connections_in_workspace`. -/
def countConnectionsInWorkspace (workspaceId : String) : Sql Tables ℕ :=
  select [.text workspaceId] (·.connections.rows.countP (·.workspaceId = some workspaceId))

/-! ### Set notes -/

/-- `upsert_set_note`. -/
def upsertSetNote (connectionId namespace_ setName note : String) (updatedBy : Option String)
    (now : String) : Sql Tables SetNote :=
  executeAndCommit
    [.text connectionId, .text namespace_, .text setName, .text note, .text now, .text now,
      .text? updatedBy]
    (Backend.upsertSetNote
      { connectionId, namespace_, setName, note, createdAt := now, updatedAt := now, updatedBy }
      (fun row => { row with note, updatedAt := now, updatedBy })
      (setNote_key note now updatedBy))

/-- `delete_set_note`. -/
def deleteSetNote (connectionId namespace_ setName : String) : Sql Tables Bool := do
  let rowcount ← executeAndCommit [.text connectionId, .text namespace_, .text setName]
    (deleteSetNotes fun row =>
      row.connectionId = connectionId && row.namespace_ = namespace_ && row.setName = setName)
  return rowcount == 1

/-- `get_set_note`. -/
def getSetNote (connectionId namespace_ setName : String) : Sql Tables (Option SetNote) :=
  select [.text connectionId, .text namespace_, .text setName] fun s =>
    (scan.found s.setNotes.rows fun row =>
      row.connectionId = connectionId && row.namespace_ = namespace_
        && row.setName = setName).head?

/-- `list_set_notes`. -/
def listSetNotes (connectionId : String) (namespace_ : Option String) :
    Sql Tables (List SetNote) :=
  match namespace_ with
  | none =>
      select [.text connectionId] fun s =>
        (scan.found s.setNotes.rows fun row => row.connectionId = connectionId).insertionSort
          fun a b => a.namespace_ < b.namespace_ ∨
            (a.namespace_ = b.namespace_ ∧ a.setName ≤ b.setName)
  | some namespace_ =>
      select [.text connectionId, .text namespace_] fun s =>
        (scan.found s.setNotes.rows fun row =>
          row.connectionId = connectionId && row.namespace_ = namespace_).insertionSort
            fun a b => a.setName ≤ b.setName

/-- `batch_get_set_notes`. -/
def batchGetSetNotes (connectionId namespace_ : String) (setNames : List String) :
    Sql Tables (Dict String String) :=
  if setNames = [] then return []
  else do
    let rows ← select (.text connectionId :: .text namespace_ :: setNames.map .text) fun s =>
      scan.found s.setNotes.rows fun row =>
        row.connectionId = connectionId && row.namespace_ = namespace_
          && setNames.contains row.setName
    return Dict.ofPairs (rows.map fun row => (row.setName, row.note))

/-! ### Record notes -/

/-- `upsert_record_note`. -/
def upsertRecordNote (connectionId namespace_ setName pkText pkType note : String)
    (digestHex updatedBy : Option String) (now : String) : Sql Tables RecordNote := do
  let row ← executeAndCommit
    [.text connectionId, .text namespace_, .text setName, .text pkText, .text pkType,
      .text? digestHex, .text note, .text now, .text now, .text? updatedBy]
    (Backend.upsertRecordNote
      { connectionId, namespace_, setName, pkText, pkType, digestHex, note, createdAt := now
        updatedAt := now, updatedBy }
      (fun row => { row with digestHex, note, updatedAt := now, updatedBy })
      (recordNote_key digestHex note now updatedBy))
  Sql.lift (rowToRecordNote row)

/-- `delete_record_note`. -/
def deleteRecordNote (connectionId namespace_ setName pkText pkType : String) :
    Sql Tables Bool := do
  let rowcount ← executeAndCommit
    [.text connectionId, .text namespace_, .text setName, .text pkText, .text pkType]
    (deleteRecordNotes fun row =>
      row.connectionId = connectionId && row.namespace_ = namespace_ && row.setName = setName
        && row.pkText = pkText && row.pkType = pkType)
  return rowcount == 1

/-- `get_record_note`. -/
def getRecordNote (connectionId namespace_ setName pkText pkType : String) :
    Sql Tables (Option RecordNote) := do
  let row ← select
    [.text connectionId, .text namespace_, .text setName, .text pkText, .text pkType] fun s =>
      (scan.found s.recordNotes.rows fun row =>
        row.connectionId = connectionId && row.namespace_ = namespace_ && row.setName = setName
          && row.pkText = pkText && row.pkType = pkType).head?
  Sql.lift (row.mapM rowToRecordNote)

/-- `list_record_notes`. -/
def listRecordNotes (connectionId namespace_ setName : String) :
    Sql Tables (List RecordNote) := do
  let rows ← select [.text connectionId, .text namespace_, .text setName] fun s =>
    (scan.found s.recordNotes.rows fun row =>
      row.connectionId = connectionId && row.namespace_ = namespace_
        && row.setName = setName).insertionSort fun a b => a.pkText ≤ b.pkText
  Sql.lift (rows.mapM rowToRecordNote)

/-- `batch_get_record_notes`: one `OR` clause for each key. -/
def batchGetRecordNotes (connectionId namespace_ setName : String) (pks : List (String × String)) :
    Sql Tables (Dict (String × String) String) :=
  if pks = [] then return []
  else do
    let rows ← select
      (.text connectionId :: .text namespace_ :: .text setName ::
        pks.flatMap fun pk => [.text pk.1, .text pk.2]) fun s =>
        scan.found s.recordNotes.rows fun row =>
          row.connectionId = connectionId && row.namespace_ = namespace_ && row.setName = setName
            && pks.any fun pk => row.pkText = pk.1 && row.pkType = pk.2
    return Dict.ofPairs (rows.map fun row => ((row.pkText, row.pkType), row.note))

/-! ### Guides -/

/-- `upsert_guide`. -/
def upsertGuide (workspaceId guideType title content : String) (updatedBy : Option String)
    (now : String) : Sql Tables Guide := do
  let row ← executeAndCommit
    [.text workspaceId, .text guideType, .text title, .text content, .text now, .text now,
      .text? updatedBy]
    (Backend.upsertGuide
      { workspaceId, guideType, title, content, createdAt := now, updatedAt := now, updatedBy }
      (fun row => { row with title, content, updatedAt := now, updatedBy })
      (guide_key title content now updatedBy))
  Sql.lift (rowToGuide row)

/-- `get_guide`. -/
def getGuide (workspaceId guideType : String) : Sql Tables (Option Guide) := do
  let row ← select [.text workspaceId, .text guideType] fun s =>
    (scan.found s.guides.rows fun row =>
      row.workspaceId = workspaceId && row.guideType = guideType).head?
  Sql.lift (row.mapM rowToGuide)

/-- `list_guides`. -/
def listGuides (workspaceId : String) : Sql Tables (List Guide) := do
  let rows ← select [.text workspaceId] fun s =>
    (scan.found s.guides.rows fun row => row.workspaceId = workspaceId).insertionSort
      fun a b => a.guideType ≤ b.guideType
  Sql.lift (rows.mapM rowToGuide)

/-- `delete_guide`. -/
def deleteGuide (workspaceId guideType : String) : Sql Tables Bool := do
  let rowcount ← executeAndCommit [.text workspaceId, .text guideType]
    (deleteGuides fun row => row.workspaceId = workspaceId && row.guideType = guideType)
  return rowcount == 1

/-! ### A run -/

/-- The seed of `init_db`, on a database whose tables it has just created. -/
def initDb (now : String) : Sql Tables Unit := do
  execute
    [.text defaultWorkspaceId, .text "Default", .text "#6366F1", .text "Default workspace",
      .text systemOwnerId, .text now, .text now]
    (insertWorkspaceOrIgnore {
      id := defaultWorkspaceId
      name := "Default"
      color := "#6366F1"
      description := some "Default workspace"
      isDefault := 1
      ownerId := systemOwnerId
      createdAt := now
      updatedAt := now })
  execute [.text defaultWorkspaceId] (backfillWorkspaceId defaultWorkspaceId)
  commit

/-- The program of a call. Fernet draws the nonce. -/
def program (nonce : ℕ) : (call : ApiCall py.toRuntime) → Sql Tables call.Resp
  | .getAllConnections workspaceId => getAllConnections py scan workspaceId
  | .getConnection connId => getConnection py connId
  | .createConnection conn => createConnection py conn.profile nonce
  | .updateConnection connId data now => updateConnection py connId data now nonce
  | .deleteConnection connId => deleteConnection connId
  | .getAllWorkspaces => getAllWorkspaces scan
  | .getWorkspace workspaceId => getWorkspace workspaceId
  | .getWorkspacesOwnedBy ownerId => getWorkspacesOwnedBy scan ownerId
  | .createWorkspace ws => createWorkspace ws
  | .updateWorkspace workspaceId data now => updateWorkspace workspaceId data now
  | .deleteWorkspace workspaceId => deleteWorkspace workspaceId
  | .countConnectionsInWorkspace workspaceId => countConnectionsInWorkspace workspaceId
  | .upsertSetNote connectionId namespace_ setName note updatedBy now =>
      upsertSetNote connectionId namespace_ setName note updatedBy now
  | .deleteSetNote connectionId namespace_ setName =>
      deleteSetNote connectionId namespace_ setName
  | .getSetNote connectionId namespace_ setName => getSetNote scan connectionId namespace_ setName
  | .listSetNotes connectionId namespace_ => listSetNotes scan connectionId namespace_
  | .batchGetSetNotes connectionId namespace_ setNames =>
      batchGetSetNotes scan connectionId namespace_ setNames
  | .upsertRecordNote connectionId namespace_ setName pkText pkType note digestHex updatedBy now =>
      upsertRecordNote connectionId namespace_ setName pkText pkType note digestHex updatedBy now
  | .deleteRecordNote connectionId namespace_ setName pkText pkType =>
      deleteRecordNote connectionId namespace_ setName pkText pkType
  | .getRecordNote connectionId namespace_ setName pkText pkType =>
      getRecordNote scan connectionId namespace_ setName pkText pkType
  | .listRecordNotes connectionId namespace_ setName =>
      listRecordNotes scan connectionId namespace_ setName
  | .batchGetRecordNotes connectionId namespace_ setName pks =>
      batchGetRecordNotes scan connectionId namespace_ setName pks
  | .upsertGuide workspaceId guideType title content updatedBy now =>
      upsertGuide workspaceId guideType title content updatedBy now
  | .getGuide workspaceId guideType => getGuide scan workspaceId guideType
  | .listGuides workspaceId => listGuides scan workspaceId
  | .deleteGuide workspaceId guideType => deleteGuide workspaceId guideType

end ClusterManager.Db.SqliteApi
