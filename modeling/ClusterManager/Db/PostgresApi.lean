import ClusterManager.Db.Backend

/-!
# The PostgreSQL backend down to its columns

JSON columns are of type `jsonb`, which the server reads from the text and writes as a text of its
own, and the flag is a boolean. A statement on the pool is a transaction of its own; the two updates
run in one on a connection that they acquire.
-/

namespace ClusterManager.Db.PostgresApi

open Backend
open JsonText (dumps ascii)

/-- What is taken from the server: the values of type `jsonb`, and the order of texts in the
collation of the database. -/
structure Server (J : Type) where
  jsonb : String → Except Exc J
  text : J → String
  le : String → String → Bool

variable {J : Type}

/-! ### Statements -/

/-- A text that the server takes has no NUL. -/
def bindText (s : String) : Except Exc Unit :=
  if s.toList.contains (Char.ofNat 0) then
    .error (.databaseError "invalid byte sequence for encoding \"UTF8\": 0x00")
  else .ok ()

/-- What the server takes as a parameter: texts without NUL, and integers of 32 bits. -/
def bindParam : Param → Except Exc Unit
  | .text s => bindText s
  | .text? s => s.toList.forM bindText
  | .int n => if n < 2147483648 then .ok () else .error (.databaseError "value out of int32 range")
  | .bool _ => .ok ()
  | .texts l => l.forM bindText

/-- `await pool.execute(…)`, a transaction of its own. -/
def poolExecute {α : Type} (params : List Param) (stmt : Statement J Bool α) :
    Sql (Store J Bool) α := fun l =>
  settle l.committed (do params.forM bindParam; stmt l.committed)

/-- `await pool.fetch(…)`. -/
def poolFetch {α : Type} (params : List Param) (query : Store J Bool → α) :
    Sql (Store J Bool) α := fun l =>
  ((params.forM bindParam).map fun _ => query l.committed, l)

/-- `await conn.execute(…)` inside a transaction. -/
def execute {α : Type} (params : List Param) (stmt : Statement J Bool α) :
    Sql (Store J Bool) α := fun l =>
  match (do params.forM bindParam; stmt l.view) with
  | .ok (a, s) => (.ok a, { l with tx := some s })
  | .error e => (.error e, l)

/-- `await conn.fetchrow(…)` inside a transaction. -/
def fetchrow {α : Type} (params : List Param) (query : Store J Bool → α) :
    Sql (Store J Bool) α := fun l =>
  ((params.forM bindParam).map fun _ => query l.view, l)

/-- `BEGIN`, `COMMIT` and `ROLLBACK` of `conn.transaction()`. -/
def begin : Sql (Store J Bool) Unit := fun l => (.ok (), { l with tx := some l.committed })

@[inherit_doc begin] def commit : Sql (Store J Bool) Unit := fun l =>
  (.ok (), { committed := l.view })

@[inherit_doc begin] def rollback : Sql (Store J Bool) Unit := fun l =>
  (.ok (), { committed := l.committed })

/-- `async with conn.transaction()`. -/
def transaction {α : Type} (body : Sql (Store J Bool) α) : Sql (Store J Bool) α := do
  begin
  let a ← body.tryCatch fun e => do
    rollback
    Sql.throw e
  commit
  return a

/-- A row is read and locked, a new one made of it and written: the shape of the two updates. -/
def readModifyWrite {ρ β : Type} (params : List Param) (find : Store J Bool → Option ρ)
    (merge : ρ → Except Exc β) (params' : β → List Param)
    (stmt : β → Statement J Bool Unit) : Sql (Store J Bool) (Option β) :=
  transaction do
    match ← fetchrow params find with
    | none => return none
    | some row => do
        let updated ← Sql.lift (merge row)
        execute (params' updated) (stmt updated)
        return some updated

section Runs

variable {α β ρ : Type} {params : List Param} {s : Store J Bool} {l l' : Link (Store J Bool)}

theorem execute_eq {stmt : Statement J Bool α} (hbind : params.forM bindParam = .ok ()) :
    execute params stmt l = match stmt l.view with
      | .ok (a, s) => (.ok a, { l with tx := some s })
      | .error e => (.error e, l) := by
  rw [execute, hbind]
  rfl

theorem fetchrow_eq {query : Store J Bool → α} (hbind : params.forM bindParam = .ok ()) :
    fetchrow params query l = (.ok (query l.view), l) := by
  rw [fetchrow, hbind]
  rfl

theorem poolExecute_eq {stmt : Statement J Bool α} (hbind : params.forM bindParam = .ok ()) :
    poolExecute params stmt l = settle l.committed (stmt l.committed) := by
  rw [poolExecute, hbind]
  rfl

theorem poolFetch_eq {query : Store J Bool → α} (hbind : params.forM bindParam = .ok ()) :
    poolFetch params query l = (.ok (query l.committed), l) := by
  rw [poolFetch, hbind]
  rfl

theorem transaction_ok {body : Sql (Store J Bool) α} {a : α}
    (h : body { l with tx := some l.committed } = (.ok a, l')) :
    transaction body l = (.ok a, { committed := l'.view }) := by
  have hbegin : begin l = (.ok (), { l with tx := some l.committed }) := rfl
  rw [transaction, Sql.bind_ok hbegin]
  exact Sql.bind_ok (Sql.tryCatch_ok h)

theorem transaction_error {body : Sql (Store J Bool) α} {e : Exc}
    (h : body { l with tx := some l.committed } = (.error e, l')) :
    transaction body l = (.error e, { committed := l'.committed }) := by
  have hbegin : begin l = (.ok (), { l with tx := some l.committed }) := rfl
  rw [transaction, Sql.bind_ok hbegin]
  exact Sql.bind_error (Sql.tryCatch_error h)

/-- A row that is read, merged and written is read and written in one transaction. -/
theorem readModifyWrite_eq {find : Store J Bool → Option ρ} {merge : ρ → Except Exc β}
    {params' : β → List Param} {stmt : β → Statement J Bool Unit}
    (hbind : params.forM bindParam = .ok ())
    (hbind' : ∀ row updated, find s = some row → merge row = .ok updated →
      (params' updated).forM bindParam = .ok ()) :
    readModifyWrite params find merge params' stmt ⟨s, none⟩ =
      settle s (findAndWrite find merge stmt s) := by
  have hfetch : fetchrow params find ⟨s, some s⟩ = (.ok (find s), ⟨s, some s⟩) := fetchrow_eq hbind
  rw [readModifyWrite, findAndWrite]
  cases hfind : find s with
  | none =>
    rw [hfind] at hfetch
    show transaction _ _ =
      (Except.ok none, { committed := (⟨s, some s⟩ : Link (Store J Bool)).view })
    exact transaction_ok ((Sql.bind_ok hfetch).trans rfl)
  | some row =>
    rw [hfind] at hfetch
    cases hmerge : merge row with
    | error e =>
      have hlift : Sql.lift (merge row) ⟨s, some s⟩ = (.error e, ⟨s, some s⟩) := by
        rw [Sql.lift, hmerge]
      refine (transaction_error (l := ⟨s, none⟩)
        ((Sql.bind_ok hfetch).trans (Sql.bind_error hlift))).trans ?_
      simp [settle, bind, Except.bind, hmerge]
    | ok updated =>
      have hlift : Sql.lift (merge row) ⟨s, some s⟩ = (.ok updated, ⟨s, some s⟩) := by
        rw [Sql.lift, hmerge]
      have hexecute : execute (params' updated) (stmt updated) ⟨s, some s⟩ = _ :=
        execute_eq (hbind' row updated hfind hmerge)
      rw [Link.view, Option.getD_some] at hexecute
      cases hstmt : stmt updated s with
      | error e =>
        rw [hstmt] at hexecute
        refine (transaction_error (l := ⟨s, none⟩) ((Sql.bind_ok hfetch).trans
          ((Sql.bind_ok hlift).trans (Sql.bind_error hexecute)))).trans ?_
        simp [settle, bind, Except.bind, hmerge, hstmt]
      | ok x =>
        rw [hstmt] at hexecute
        refine (transaction_ok (l := ⟨s, none⟩) ((Sql.bind_ok hfetch).trans
          ((Sql.bind_ok hlift).trans (Sql.bind_ok hexecute)))).trans ?_
        simp [settle, bind, Except.bind, pure, Except.pure, hmerge, hstmt, Link.view]

end Runs

/-- The command tag of a `DELETE`. -/
def deleteTag (rowcount : ℕ) : String := "DELETE " ++ toString rowcount

variable (pg : Server J) (py : Python) (scan : Scan)

/-! ### Connections -/

/-- `_row_to_profile`. -/
def rowToProfile (row : ConnectionColumns J) : Except Exc ConnectionProfile := do
  let row ← readColumns py pg.text row
  decryptedProfile py.toRuntime row

/-- `get_all_connections`. -/
def getAllConnections (workspaceId : Option String) :
    Sql (Store J Bool) (List ConnectionProfile) := do
  let rows ← match workspaceId with
    | some workspaceId =>
        poolFetch [.text workspaceId] fun s =>
          (scan.found s.connections.rows (·.workspaceId = some workspaceId)).insertionSort
            fun a b => pg.le a.createdAt b.createdAt
    | none =>
        poolFetch [] fun s =>
          (scan.found s.connections.rows fun _ => true).insertionSort
            fun a b => pg.le a.createdAt b.createdAt
  Sql.lift (rows.mapM (rowToProfile pg py))

/-- `get_connection`. -/
def getConnection (connId : String) : Sql (Store J Bool) (Option ConnectionProfile) := do
  let row ← poolFetch [.text connId] (·.connections.find? connId)
  Sql.lift (row.mapM (rowToProfile pg py))

/-- `create_connection`. The parameters that are cast to `jsonb` are bound by the cast. -/
def createConnection (conn : ConnectionProfile) (nonce : ℕ) : Sql (Store J Bool) Unit :=
  let storedPassword := storedPassword py.fernet nonce conn.password
  poolExecute
    [.text conn.id, .text conn.name, .int conn.port, .text? conn.clusterName,
      .text? conn.username, .text? storedPassword, .text conn.color, .text? conn.note,
      .text conn.workspaceId, .text conn.createdAt, .text conn.updatedAt]
    fun s => do
      let hosts ← pg.jsonb (dumps ascii (listJson conn.hosts))
      let labels ← pg.jsonb (dumps ascii (dictJson conn.labels))
      insertConnection {
        id := conn.id
        name := conn.name
        hosts
        port := conn.port
        clusterName := conn.clusterName
        username := conn.username
        password := storedPassword
        color := conn.color
        note := conn.note
        labels := some labels
        workspaceId := some conn.workspaceId
        createdAt := conn.createdAt
        updatedAt := conn.updatedAt } s

/-- What the `UPDATE` of `update_connection` binds. -/
def updateParams (connId : String) (updated : ConnectionProfile) (nonce : ℕ) : List Param :=
  [.text updated.name, .int updated.port, .text? updated.clusterName, .text? updated.username,
    .text? (storedPassword py.fernet nonce updated.password), .text updated.color,
    .text? updated.note, .text updated.workspaceId, .text updated.updatedAt, .text connId]

/-- The `UPDATE` of `update_connection`. -/
def updateStatement (connId : String) (updated : ConnectionProfile) (nonce : ℕ) :
    Statement J Bool Unit := fun s => do
  let hosts ← pg.jsonb (dumps ascii (listJson updated.hosts))
  let labels ← pg.jsonb (dumps ascii (dictJson updated.labels))
  Backend.updateConnection connId
    (fun row => { row with
      name := updated.name
      hosts
      port := updated.port
      clusterName := updated.clusterName
      username := updated.username
      password := storedPassword py.fernet nonce updated.password
      color := updated.color
      note := updated.note
      labels := some labels
      workspaceId := some updated.workspaceId
      updatedAt := updated.updatedAt })
    (fun _ => rfl) s

/-- `update_connection`. -/
def updateConnection (connId : String) (data : UpdateData) (now : String) (nonce : ℕ) :
    Sql (Store J Bool) (Option ConnectionProfile) :=
  readModifyWrite [.text connId] (·.connections.find? connId)
    (fun row => do
      let existing ← rowToProfile pg py row
      buildMergedProfile py.toRuntime existing data connId now)
    (fun updated => updateParams py connId updated nonce)
    fun updated => updateStatement pg py connId updated nonce

/-- `delete_connection`. -/
def deleteConnection (connId : String) : Sql (Store J Bool) Bool := do
  let rowcount ← poolExecute [.text connId] (Backend.deleteConnection connId)
  return deleteTag rowcount == "DELETE 1"

/-! ### Workspaces -/

/-- `row_to_workspace`, where `bool` of a boolean is the boolean. -/
def rowToWorkspace (row : WorkspaceColumns Bool) : Except Exc Workspace :=
  Db.rowToWorkspace (row.decoded id)

/-- `ORDER BY is_default DESC, created_at`. -/
def before (a b : WorkspaceColumns Bool) : Bool :=
  (a.isDefault && !b.isDefault) || (a.isDefault = b.isDefault && pg.le a.createdAt b.createdAt)

/-- `get_all_workspaces`. -/
def getAllWorkspaces : Sql (Store J Bool) (List Workspace) := do
  let rows ← poolFetch [] fun s =>
    (scan.found s.workspaces.rows fun _ => true).insertionSort fun a b => before pg a b
  Sql.lift (rows.mapM rowToWorkspace)

/-- `get_workspace`. -/
def getWorkspace (workspaceId : String) : Sql (Store J Bool) (Option Workspace) := do
  let row ← poolFetch [.text workspaceId] (·.workspaces.find? workspaceId)
  Sql.lift (row.mapM rowToWorkspace)

/-- `get_workspaces_owned_by`. -/
def getWorkspacesOwnedBy (ownerId : String) : Sql (Store J Bool) (List Workspace) := do
  let rows ← poolFetch [.text ownerId, .text systemOwnerId] fun s =>
    (scan.found s.workspaces.rows fun row =>
      row.ownerId = ownerId || row.ownerId = systemOwnerId).insertionSort fun a b => before pg a b
  Sql.lift (rows.mapM rowToWorkspace)

/-- `create_workspace`. -/
def createWorkspace (ws : Workspace) : Sql (Store J Bool) Unit :=
  poolExecute
    [.text ws.id, .text ws.name, .text ws.color, .text? ws.description, .bool ws.isDefault,
      .text ws.ownerId, .text ws.createdAt, .text ws.updatedAt]
    (insertWorkspace {
      id := ws.id
      name := ws.name
      color := ws.color
      description := ws.description
      isDefault := ws.isDefault
      ownerId := ws.ownerId
      createdAt := ws.createdAt
      updatedAt := ws.updatedAt })

/-- What the `UPDATE` of `update_workspace` binds. -/
def updateWorkspaceParams (workspaceId : String) (updated : Workspace) : List Param :=
  [.text updated.name, .text updated.color, .text? updated.description, .text updated.updatedAt,
    .text workspaceId]

/-- The `UPDATE` of `update_workspace`. -/
def updateWorkspaceStatement (workspaceId : String) (updated : Workspace) :
    Statement J Bool Unit :=
  Backend.updateWorkspace workspaceId
    (fun row => { row with
      name := updated.name
      color := updated.color
      description := updated.description
      updatedAt := updated.updatedAt })
    fun _ => rfl

/-- `update_workspace`. -/
def updateWorkspace (workspaceId : String) (data : WorkspaceUpdateData) (now : String) :
    Sql (Store J Bool) (Option Workspace) :=
  readModifyWrite [.text workspaceId] (·.workspaces.find? workspaceId)
    (fun row => do
      let existing ← rowToWorkspace row
      buildMergedWorkspace existing data now)
    (updateWorkspaceParams workspaceId) (updateWorkspaceStatement workspaceId)

/-- `delete_workspace`. -/
def deleteWorkspace (workspaceId : String) : Sql (Store J Bool) Bool := do
  let rowcount ← poolExecute [.text workspaceId] (Backend.deleteWorkspace workspaceId (· = false))
  return deleteTag rowcount == "DELETE 1"

/-- `count_connections_in_workspace`. -/
def countConnectionsInWorkspace (workspaceId : String) : Sql (Store J Bool) ℕ :=
  poolFetch [.text workspaceId] (·.connections.rows.countP (·.workspaceId = some workspaceId))

/-! ### Set notes -/

/-- `upsert_set_note`. -/
def upsertSetNote (connectionId namespace_ setName note : String) (updatedBy : Option String)
    (now : String) : Sql (Store J Bool) SetNote :=
  poolExecute
    [.text connectionId, .text namespace_, .text setName, .text note, .text now, .text now,
      .text? updatedBy]
    (Backend.upsertSetNote
      { connectionId, namespace_, setName, note, createdAt := now, updatedAt := now, updatedBy }
      (fun row => { row with note, updatedAt := now, updatedBy })
      (setNote_key note now updatedBy))

/-- `delete_set_note`. -/
def deleteSetNote (connectionId namespace_ setName : String) : Sql (Store J Bool) Bool := do
  let rowcount ← poolExecute [.text connectionId, .text namespace_, .text setName]
    (deleteSetNotes fun row =>
      row.connectionId = connectionId && row.namespace_ = namespace_ && row.setName = setName)
  return deleteTag rowcount == "DELETE 1"

/-- `get_set_note`. -/
def getSetNote (connectionId namespace_ setName : String) : Sql (Store J Bool) (Option SetNote) :=
  poolFetch [.text connectionId, .text namespace_, .text setName] fun s =>
    (scan.found s.setNotes.rows fun row =>
      row.connectionId = connectionId && row.namespace_ = namespace_
        && row.setName = setName).head?

/-- `list_set_notes`. -/
def listSetNotes (connectionId : String) (namespace_ : Option String) :
    Sql (Store J Bool) (List SetNote) :=
  match namespace_ with
  | none =>
      poolFetch [.text connectionId] fun s =>
        (scan.found s.setNotes.rows fun row => row.connectionId = connectionId).insertionSort
          fun a b => (pg.le a.namespace_ b.namespace_ && a.namespace_ ≠ b.namespace_)
            ∨ (a.namespace_ = b.namespace_ ∧ pg.le a.setName b.setName)
  | some namespace_ =>
      poolFetch [.text connectionId, .text namespace_] fun s =>
        (scan.found s.setNotes.rows fun row =>
          row.connectionId = connectionId && row.namespace_ = namespace_).insertionSort
            fun a b => pg.le a.setName b.setName

/-- `batch_get_set_notes`: the names are one array. -/
def batchGetSetNotes (connectionId namespace_ : String) (setNames : List String) :
    Sql (Store J Bool) (Dict String String) :=
  if setNames = [] then return []
  else do
    let rows ← poolFetch [.text connectionId, .text namespace_, .texts setNames] fun s =>
      scan.found s.setNotes.rows fun row =>
        row.connectionId = connectionId && row.namespace_ = namespace_
          && setNames.any fun setName => row.setName = setName
    return Dict.ofPairs (rows.map fun row => (row.setName, row.note))

/-! ### Record notes -/

/-- `upsert_record_note`. -/
def upsertRecordNote (connectionId namespace_ setName pkText pkType note : String)
    (digestHex updatedBy : Option String) (now : String) : Sql (Store J Bool) RecordNote := do
  let row ← poolExecute
    [.text connectionId, .text namespace_, .text setName, .text pkText, .text pkType,
      .text? digestHex, .text note, .text now, .text now, .text? updatedBy]
    (Backend.upsertRecordNote
      { connectionId, namespace_, setName, pkText, pkType, digestHex, note, createdAt := now
        updatedAt := now, updatedBy }
      (fun row => { row with digestHex, note, updatedAt := now, updatedBy })
      (recordNote_key digestHex note now updatedBy))
  Sql.lift (rowToRecordNote row)

/-- `delete_record_note`. -/
def deleteRecordNote (connectionId namespace_ setName pkText pkType : String) :
    Sql (Store J Bool) Bool := do
  let rowcount ← poolExecute
    [.text connectionId, .text namespace_, .text setName, .text pkText, .text pkType]
    (deleteRecordNotes fun row =>
      row.connectionId = connectionId && row.namespace_ = namespace_ && row.setName = setName
        && row.pkText = pkText && row.pkType = pkType)
  return deleteTag rowcount == "DELETE 1"

/-- `get_record_note`. -/
def getRecordNote (connectionId namespace_ setName pkText pkType : String) :
    Sql (Store J Bool) (Option RecordNote) := do
  let row ← poolFetch
    [.text connectionId, .text namespace_, .text setName, .text pkText, .text pkType] fun s =>
      (scan.found s.recordNotes.rows fun row =>
        row.connectionId = connectionId && row.namespace_ = namespace_ && row.setName = setName
          && row.pkText = pkText && row.pkType = pkType).head?
  Sql.lift (row.mapM rowToRecordNote)

/-- `list_record_notes`. -/
def listRecordNotes (connectionId namespace_ setName : String) :
    Sql (Store J Bool) (List RecordNote) := do
  let rows ← poolFetch [.text connectionId, .text namespace_, .text setName] fun s =>
    (scan.found s.recordNotes.rows fun row =>
      row.connectionId = connectionId && row.namespace_ = namespace_
        && row.setName = setName).insertionSort fun a b => pg.le a.pkText b.pkText
  Sql.lift (rows.mapM rowToRecordNote)

/-- `batch_get_record_notes`: the rows are joined with the keys, which are two arrays that `UNNEST`
zips. A row comes once for each request of its key. -/
def batchGetRecordNotes (connectionId namespace_ setName : String) (pks : List (String × String)) :
    Sql (Store J Bool) (Dict (String × String) String) :=
  if pks = [] then return []
  else do
    let pkTexts := pks.map Prod.fst
    let pkTypes := pks.map Prod.snd
    let rows ← poolFetch
      [.text connectionId, .text namespace_, .text setName, .texts pkTexts, .texts pkTypes] fun s =>
        let joined := s.recordNotes.rows.flatMap fun rn =>
          ((pkTexts.zip pkTypes).filter fun req => rn.pkText = req.1 && rn.pkType = req.2).map
            fun _ => rn
        scan.found joined fun rn =>
          rn.connectionId = connectionId && rn.namespace_ = namespace_ && rn.setName = setName
    return Dict.ofPairs (rows.map fun row => ((row.pkText, row.pkType), row.note))

/-! ### Guides -/

/-- `upsert_guide`. -/
def upsertGuide (workspaceId guideType title content : String) (updatedBy : Option String)
    (now : String) : Sql (Store J Bool) Guide := do
  let row ← poolExecute
    [.text workspaceId, .text guideType, .text title, .text content, .text now, .text now,
      .text? updatedBy]
    (Backend.upsertGuide
      { workspaceId, guideType, title, content, createdAt := now, updatedAt := now, updatedBy }
      (fun row => { row with title, content, updatedAt := now, updatedBy })
      (guide_key title content now updatedBy))
  Sql.lift (rowToGuide row)

/-- `get_guide`. -/
def getGuide (workspaceId guideType : String) : Sql (Store J Bool) (Option Guide) := do
  let row ← poolFetch [.text workspaceId, .text guideType] fun s =>
    (scan.found s.guides.rows fun row =>
      row.workspaceId = workspaceId && row.guideType = guideType).head?
  Sql.lift (row.mapM rowToGuide)

/-- `list_guides`. -/
def listGuides (workspaceId : String) : Sql (Store J Bool) (List Guide) := do
  let rows ← poolFetch [.text workspaceId] fun s =>
    (scan.found s.guides.rows fun row => row.workspaceId = workspaceId).insertionSort
      fun a b => pg.le a.guideType b.guideType
  Sql.lift (rows.mapM rowToGuide)

/-- `delete_guide`. -/
def deleteGuide (workspaceId guideType : String) : Sql (Store J Bool) Bool := do
  let rowcount ← poolExecute [.text workspaceId, .text guideType]
    (deleteGuides fun row => row.workspaceId = workspaceId && row.guideType = guideType)
  return deleteTag rowcount == "DELETE 1"

/-! ### A run -/

/-- The seed of `init_db`, on a database whose tables it has just created. -/
def initDb (now : String) : Sql (Store J Bool) Unit := do
  poolExecute
    [.text defaultWorkspaceId, .text "Default", .text "#6366F1", .text "Default workspace",
      .text systemOwnerId, .text now, .text now]
    (insertWorkspaceOrIgnore {
      id := defaultWorkspaceId
      name := "Default"
      color := "#6366F1"
      description := some "Default workspace"
      isDefault := true
      ownerId := systemOwnerId
      createdAt := now
      updatedAt := now })
  poolExecute [.text defaultWorkspaceId] (backfillWorkspaceId defaultWorkspaceId)

/-- The program of a call. Fernet draws the nonce. -/
def program (nonce : ℕ) : (call : ApiCall py.toRuntime) → Sql (Store J Bool) call.Resp
  | .getAllConnections workspaceId => getAllConnections pg py scan workspaceId
  | .getConnection connId => getConnection pg py connId
  | .createConnection conn => createConnection pg py conn.profile nonce
  | .updateConnection connId data now => updateConnection pg py connId data now nonce
  | .deleteConnection connId => deleteConnection connId
  | .getAllWorkspaces => getAllWorkspaces pg scan
  | .getWorkspace workspaceId => getWorkspace workspaceId
  | .getWorkspacesOwnedBy ownerId => getWorkspacesOwnedBy pg scan ownerId
  | .createWorkspace ws => createWorkspace ws
  | .updateWorkspace workspaceId data now => updateWorkspace workspaceId data now
  | .deleteWorkspace workspaceId => deleteWorkspace workspaceId
  | .countConnectionsInWorkspace workspaceId => countConnectionsInWorkspace workspaceId
  | .upsertSetNote connectionId namespace_ setName note updatedBy now =>
      upsertSetNote connectionId namespace_ setName note updatedBy now
  | .deleteSetNote connectionId namespace_ setName =>
      deleteSetNote connectionId namespace_ setName
  | .getSetNote connectionId namespace_ setName => getSetNote scan connectionId namespace_ setName
  | .listSetNotes connectionId namespace_ => listSetNotes pg scan connectionId namespace_
  | .batchGetSetNotes connectionId namespace_ setNames =>
      batchGetSetNotes scan connectionId namespace_ setNames
  | .upsertRecordNote connectionId namespace_ setName pkText pkType note digestHex updatedBy now =>
      upsertRecordNote connectionId namespace_ setName pkText pkType note digestHex updatedBy now
  | .deleteRecordNote connectionId namespace_ setName pkText pkType =>
      deleteRecordNote connectionId namespace_ setName pkText pkType
  | .getRecordNote connectionId namespace_ setName pkText pkType =>
      getRecordNote scan connectionId namespace_ setName pkText pkType
  | .listRecordNotes connectionId namespace_ setName =>
      listRecordNotes pg scan connectionId namespace_ setName
  | .batchGetRecordNotes connectionId namespace_ setName pks =>
      batchGetRecordNotes scan connectionId namespace_ setName pks
  | .upsertGuide workspaceId guideType title content updatedBy now =>
      upsertGuide workspaceId guideType title content updatedBy now
  | .getGuide workspaceId guideType => getGuide scan workspaceId guideType
  | .listGuides workspaceId => listGuides pg scan workspaceId
  | .deleteGuide workspaceId guideType => deleteGuide workspaceId guideType

end ClusterManager.Db.PostgresApi
