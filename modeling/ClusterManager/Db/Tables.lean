import Mathlib.Data.List.Sort
import ClusterManager.Db.Base

/-!
# The tables and the operations on them

`Tables` is one consistent state of the database and `Dml.apply` what one data-changing statement
does to it. The functions named after the `db` module are the complete operations both backends
implement: what the tables are after the call, and what it returns or raises. A failed operation
leaves the tables as they were, since it returns none.
-/

namespace ClusterManager.Db

/-- The tables of the database. -/
structure Tables where
  connections : Table ConnectionRow ConnectionRow.id
  workspaces : Table Workspace Workspace.id
  setNotes : Table SetNote SetNote.key
  recordNotes : Table RecordNote RecordNote.key
  guides : Table Guide Guide.key

/-- The statements that change a table. -/
inductive Dml
  | insertConnection (row : ConnectionRow)
  | updateConnection (connId : String) (row : ConnectionRow)
  | updatePassword (connId : String) (password : Option String)
  | deleteConnection (connId : String)
  | insertWorkspace (ws : Workspace)
  | updateWorkspace (workspaceId : String) (ws : Workspace)
  | deleteWorkspace (workspaceId : String)
  | upsertSetNote (note : SetNote)
  | deleteSetNote (key : String × String × String)
  | upsertRecordNote (note : RecordNote)
  | deleteRecordNote (key : String × String × String × String × String)
  | upsertGuide (guide : Guide)
  | deleteGuide (key : String × String)

/-- `UPDATE connections SET …`: every column but `id` and `created_at`. -/
def ConnectionRow.assign (row existing : ConnectionRow) : ConnectionRow :=
  { row with id := existing.id, createdAt := existing.createdAt }

theorem ConnectionRow.assign_id (row existing : ConnectionRow) :
    (row.assign existing).id = existing.id := rfl

/-- `UPDATE workspaces SET name, color, description, updated_at`. -/
def Workspace.assign (ws existing : Workspace) : Workspace :=
  { existing with
    name := ws.name, color := ws.color, description := ws.description, updatedAt := ws.updatedAt }

theorem Workspace.assign_id (ws existing : Workspace) : (ws.assign existing).id = existing.id := rfl

/-- `ON CONFLICT … DO UPDATE SET` of a set note. -/
def SetNote.assign (note existing : SetNote) : SetNote :=
  { existing with note := note.note, updatedAt := note.updatedAt, updatedBy := note.updatedBy }

theorem SetNote.assign_key (note existing : SetNote) : (note.assign existing).key = existing.key :=
  rfl

/-- `ON CONFLICT … DO UPDATE SET` of a record note. -/
def RecordNote.assign (note existing : RecordNote) : RecordNote :=
  { existing with
    digestHex := note.digestHex, note := note.note, updatedAt := note.updatedAt
    updatedBy := note.updatedBy }

theorem RecordNote.assign_key (note existing : RecordNote) :
    (note.assign existing).key = existing.key := rfl

/-- `ON CONFLICT … DO UPDATE SET` of a guide. -/
def Guide.assign (guide existing : Guide) : Guide :=
  { existing with
    title := guide.title, content := guide.content, updatedAt := guide.updatedAt
    updatedBy := guide.updatedBy }

theorem Guide.assign_key (guide existing : Guide) : (guide.assign existing).key = existing.key :=
  rfl

/-- The tables after `UPDATE connections SET … WHERE id = …`. -/
def Tables.assignConnection (t : Tables) (connId : String) (row : ConnectionRow) : Tables :=
  { t with connections := t.connections.update connId row.assign row.assign_id }

/-- The tables after `UPDATE connections SET password = … WHERE id = …`. -/
def Tables.assignPassword (t : Tables) (connId : String) (password : Option String) : Tables :=
  { t with connections := t.connections.update connId ({ · with password }) fun _ => rfl }

/-- The tables after `DELETE FROM connections WHERE id = …`, notes cascaded. -/
def Tables.removeConnection (t : Tables) (connId : String) : Tables :=
  { t with
    connections := t.connections.delete (·.id = connId)
    setNotes := t.setNotes.delete (·.connectionId = connId)
    recordNotes := t.recordNotes.delete (·.connectionId = connId) }

/-- The tables after `UPDATE workspaces SET … WHERE id = …`. -/
def Tables.assignWorkspace (t : Tables) (workspaceId : String) (ws : Workspace) : Tables :=
  { t with workspaces := t.workspaces.update workspaceId ws.assign ws.assign_id }

/-- The tables after `DELETE FROM workspaces WHERE id = … AND is_default = 0`, guides cascaded. -/
def Tables.removeWorkspace (t : Tables) (workspaceId : String) : Tables :=
  if (t.workspaces.find? workspaceId).any (!·.isDefault) then
    { t with
      workspaces := t.workspaces.delete (·.id = workspaceId)
      guides := t.guides.delete (·.workspaceId = workspaceId) }
  else t

/-- A refused row is an `IntegrityError`. -/
def unique {α : Type} : Option α → Except Exc α
  | some a => .ok a
  | none => .error .integrityError

/-- A foreign key that no row has is an `IntegrityError`. -/
def referenced {α : Type} : Option α → Except Exc Unit
  | some _ => .ok ()
  | none => .error .integrityError

/-- What one statement does: the number of rows it hit and the tables after it. -/
def Dml.apply : Dml → Tables → Except Exc (ℕ × Tables)
  | .insertConnection row, t =>
      (unique (t.connections.insert? row)).map fun connections => (1, { t with connections })
  | .updateConnection connId row, t =>
      .ok ((t.connections.find? connId).toList.length, t.assignConnection connId row)
  | .updatePassword connId password, t =>
      .ok ((t.connections.find? connId).toList.length, t.assignPassword connId password)
  | .deleteConnection connId, t =>
      .ok ((t.connections.find? connId).toList.length, t.removeConnection connId)
  | .insertWorkspace ws, t =>
      (unique (t.workspaces.insert? ws)).map fun workspaces => (1, { t with workspaces })
  | .updateWorkspace workspaceId ws, t =>
      .ok ((t.workspaces.find? workspaceId).toList.length, t.assignWorkspace workspaceId ws)
  | .deleteWorkspace workspaceId, t =>
      .ok (((t.workspaces.find? workspaceId).filter (!·.isDefault)).toList.length,
        t.removeWorkspace workspaceId)
  | .upsertSetNote note, t =>
      (referenced (t.connections.find? note.connectionId)).map fun _ =>
        (1, { t with setNotes := (t.setNotes.upsert note note.assign note.assign_key).2 })
  | .deleteSetNote key, t =>
      .ok ((t.setNotes.find? key).toList.length,
        { t with setNotes := t.setNotes.delete (·.key = key) })
  | .upsertRecordNote note, t =>
      (referenced (t.connections.find? note.connectionId)).map fun _ =>
        (1, { t with recordNotes := (t.recordNotes.upsert note note.assign note.assign_key).2 })
  | .deleteRecordNote key, t =>
      .ok ((t.recordNotes.find? key).toList.length,
        { t with recordNotes := t.recordNotes.delete (·.key = key) })
  | .upsertGuide guide, t =>
      (referenced (t.workspaces.find? guide.workspaceId)).map fun _ =>
        (1, { t with guides := (t.guides.upsert guide guide.assign guide.assign_key).2 })
  | .deleteGuide key, t =>
      .ok ((t.guides.find? key).toList.length,
        { t with guides := t.guides.delete (·.key = key) })

variable (rt : Runtime)

/-! ### Connections -/

/-- `get_all_connections`. -/
def getAllConnections (workspaceId : Option String) (t : Tables) :
    Except Exc (List ConnectionProfile) :=
  let rows : List ConnectionRow := match workspaceId with
    | some workspaceId => t.connections.rows.filter fun row => row.workspaceId = some workspaceId
    | none => t.connections.rows
  (rows.insertionSort fun a b => a.createdAt ≤ b.createdAt).mapM (decryptedProfile rt)

/-- `get_connection`. -/
def getConnection (connId : String) (t : Tables) : Except Exc (Option ConnectionProfile) :=
  match t.connections.find? connId with
  | some row => (decryptedProfile rt row).map some
  | none => .ok none

/-- `create_connection`. -/
def createConnection (conn : ConnectionProfile) (nonce : ℕ) (t : Tables) : Except Exc Tables :=
  ((Dml.insertConnection (profileToRow rt nonce conn)).apply t).map Prod.snd

/-- `update_connection`. -/
def updateConnection (connId : String) (data : UpdateData) (now : String) (nonce : ℕ)
    (t : Tables) : Except Exc (Option ConnectionProfile × Tables) :=
  match t.connections.find? connId with
  | none => .ok (none, t)
  | some row => do
      let existing ← decryptedProfile rt row
      let updated ← buildMergedProfile rt existing data connId now
      let (_, t) ← (Dml.updateConnection connId (profileToRow rt nonce updated)).apply t
      return (some updated, t)

/-- `delete_connection`. -/
def deleteConnection (connId : String) (t : Tables) : Except Exc (Bool × Tables) :=
  ((Dml.deleteConnection connId).apply t).map fun (rowcount, t) => (rowcount == 1, t)

/-! ### Workspaces -/

/-- `ORDER BY is_default DESC, created_at`. -/
def Workspace.before (a b : Workspace) : Prop :=
  (a.isDefault = true ∧ b.isDefault = false) ∨
    (a.isDefault = b.isDefault ∧ a.createdAt ≤ b.createdAt)

instance : DecidableRel Workspace.before := fun a b =>
  inferInstanceAs (Decidable ((a.isDefault = true ∧ b.isDefault = false) ∨
    (a.isDefault = b.isDefault ∧ a.createdAt ≤ b.createdAt)))

/-- `get_all_workspaces`. -/
def getAllWorkspaces (t : Tables) : Except Exc (List Workspace) :=
  (t.workspaces.rows.insertionSort Workspace.before).mapM rowToWorkspace

/-- `get_workspace`. -/
def getWorkspace (workspaceId : String) (t : Tables) : Except Exc (Option Workspace) :=
  match t.workspaces.find? workspaceId with
  | some row => (rowToWorkspace row).map some
  | none => .ok none

/-- `get_workspaces_owned_by`: the caller's own and the system's. -/
def getWorkspacesOwnedBy (ownerId : String) (t : Tables) : Except Exc (List Workspace) :=
  ((t.workspaces.rows.filter fun ws => ws.ownerId = ownerId ∨ ws.ownerId = systemOwnerId)
    |>.insertionSort Workspace.before).mapM rowToWorkspace

/-- `create_workspace`. -/
def createWorkspace (ws : Workspace) (t : Tables) : Except Exc Tables :=
  ((Dml.insertWorkspace ws).apply t).map Prod.snd

/-- `update_workspace`. -/
def updateWorkspace (workspaceId : String) (data : WorkspaceUpdateData) (now : String)
    (t : Tables) : Except Exc (Option Workspace × Tables) :=
  match t.workspaces.find? workspaceId with
  | none => .ok (none, t)
  | some row => do
      let existing ← rowToWorkspace row
      let updated ← buildMergedWorkspace existing data now
      let (_, t) ← (Dml.updateWorkspace workspaceId updated).apply t
      return (some updated, t)

/-- `delete_workspace`. -/
def deleteWorkspace (workspaceId : String) (t : Tables) : Except Exc (Bool × Tables) :=
  ((Dml.deleteWorkspace workspaceId).apply t).map fun (rowcount, t) => (rowcount == 1, t)

/-- `count_connections_in_workspace`. -/
def countConnectionsInWorkspace (workspaceId : String) (t : Tables) : ℕ :=
  t.connections.rows.countP (·.workspaceId = some workspaceId)

/-! ### The password migration -/

/-- The password the migration rewrites, if any: one that is there, not empty and not encrypted
yet. -/
def legacyPassword (row : ConnectionRow) : Option String :=
  row.password.filter fun password => password ≠ "" && !isEncrypted password

/-- What the migration writes for a row, if it rewrites it. Each row has its nonce. -/
def passwordRewrite (nonces : String → ℕ) (row : ConnectionRow) : Option (String × String) :=
  match row.password with
  | none => none
  | some password =>
      if password = "" then none
      else if isEncrypted password then none
      else some (row.id, encryptPassword rt.fernet (nonces row.id) password)

/-- The tables after the rewrites, one `UPDATE` after the other. -/
def rewritePasswords (t : Tables) (rewrites : List (String × String)) : Tables :=
  rewrites.foldl (fun t (connId, password) => t.assignPassword connId (some password)) t

/-- `migrate_passwords_to_encrypted`. -/
def migratePasswordsToEncrypted (nonces : String → ℕ) (t : Tables) : ℕ × Tables :=
  let rewrites := t.connections.rows.filterMap (passwordRewrite rt nonces)
  (rewrites.length, rewritePasswords t rewrites)

/-! ### Lookups -/

variable {rt}

theorem passwordRewrite_eq (nonces : String → ℕ) (row : ConnectionRow) :
    passwordRewrite rt nonces row = (legacyPassword row).map fun password =>
      (row.id, encryptPassword rt.fernet (nonces row.id) password) := by
  unfold passwordRewrite legacyPassword
  cases row.password with
  | none => rfl
  | some password =>
    by_cases hempty : password = ""
    · simp [hempty]
    · cases henc : isEncrypted password <;> simp [hempty, henc]

theorem mem_assignConnection {t : Tables} {connId : String} {row b : ConnectionRow} :
    b ∈ (t.assignConnection connId row).connections ↔
      ∃ a ∈ t.connections, b = if a.id = connId then row.assign a else a :=
  Table.mem_update row.assign_id

theorem mem_assignWorkspace {t : Tables} {workspaceId : String} {ws b : Workspace} :
    b ∈ (t.assignWorkspace workspaceId ws).workspaces ↔
      ∃ a ∈ t.workspaces, b = if a.id = workspaceId then ws.assign a else a :=
  Table.mem_update ws.assign_id

/-- A lookup that answered found the row of that id, or there is none. -/
theorem getWorkspace_ok {workspaceId : String} {t : Tables} {found : Option Workspace}
    (h : getWorkspace workspaceId t = .ok found) :
    found = (t.workspaces.find? workspaceId).map Workspace.withOwner := by
  unfold getWorkspace at h
  cases hfind : t.workspaces.find? workspaceId with
  | none =>
    rw [hfind] at h
    exact (Except.ok.inj h).symm
  | some row =>
    rw [hfind] at h
    cases hrow : rowToWorkspace row with
    | error e => simp [hrow, Except.map] at h
    | ok ws =>
      obtain ⟨-, rfl⟩ := rowToWorkspace_eq_ok.1 hrow
      simpa [hrow, Except.map, eq_comm] using h

/-- All that reading a workspace raises is a `ValidationError`. -/
theorem getWorkspace_error {workspaceId : String} {t : Tables} {e : Exc}
    (h : getWorkspace workspaceId t = .error e) : e = .validationError := by
  unfold getWorkspace at h
  split at h
  next row hfind =>
    cases hrow : rowToWorkspace row with
    | ok ws => simp [hrow, Except.map] at h
    | error e' =>
      rw [hrow] at h
      rw [← Except.error.inj h]
      exact Workspace.validated_error hrow
  next => cases h

/-! ### Rows that are read -/

/-- Every connection can be read: the model takes it, and its password decrypts under the current
key. -/
def ReadableConnections (rt : Runtime) (t : Tables) : Prop :=
  ∀ row ∈ t.connections, ∃ conn, decryptedProfile rt row = .ok conn

/-- Every workspace can be read: the model takes it. -/
def ReadableWorkspaces (t : Tables) : Prop :=
  ∀ row ∈ t.workspaces, ∃ ws, rowToWorkspace row = .ok ws

/-- Every row the gates look at can be read. -/
structure Readable (rt : Runtime) (t : Tables) : Prop where
  connections : ReadableConnections rt t
  workspaces : ReadableWorkspaces t

/-- A row that took over the columns of a valid workspace can be read. -/
theorem isValid_assign {ws : Workspace} (h : ws.isValid = true) (existing : Workspace) :
    (ws.assign existing).withOwner.isValid = true := by
  simp only [Workspace.isValid, Workspace.withOwner, Workspace.assign, Bool.and_eq_true] at h ⊢
  exact ⟨h.1, decide_eq_true (orDefault_ne (by decide))⟩

theorem exists_getAllConnections {t : Tables} (h : ReadableConnections rt t) :
    ∃ conns, getAllConnections rt none t = .ok conns :=
  exists_mapM fun row hrow => h row ((List.mem_insertionSort _).1 hrow)

theorem exists_getAllWorkspaces {t : Tables} (h : ReadableWorkspaces t) :
    ∃ workspaces, getAllWorkspaces t = .ok workspaces :=
  exists_mapM fun row hrow => h row ((List.mem_insertionSort _).1 hrow)

/-- If all workspaces were read, each of them can be. -/
theorem getAllWorkspaces_ok {t : Tables} {workspaces : List Workspace}
    (h : getAllWorkspaces t = .ok workspaces) :
    ReadableWorkspaces t ∧
      workspaces = (t.workspaces.rows.insertionSort Workspace.before).map Workspace.withOwner := by
  refine ⟨fun row hrow => ?_, ?_⟩
  · obtain ⟨ws, -, hws⟩ := (mem_mapM h).2 row ((List.mem_insertionSort _).2 hrow)
    exact ⟨ws, hws⟩
  · have hrows := map_of_mapM h (p := id) (q := Workspace.withOwner)
      fun row _ ws hws => (rowToWorkspace_eq_ok.1 hws).2
    rwa [List.map_id] at hrows

theorem getAllWorkspaces_error {t : Tables} {e : Exc} (h : getAllWorkspaces t = .error e) :
    e = .validationError := by
  obtain ⟨_, row, _, -, -, hrow⟩ := mapM_eq_error.1 h
  exact Workspace.validated_error hrow

theorem getWorkspace_of_readable {workspaceId : String} {t : Tables} (h : ReadableWorkspaces t) :
    getWorkspace workspaceId t =
      .ok ((t.workspaces.find? workspaceId).map Workspace.withOwner) := by
  have hfound : ∃ found, getWorkspace workspaceId t = .ok found := by
    unfold getWorkspace
    cases hfind : t.workspaces.find? workspaceId with
    | none => exact ⟨none, rfl⟩
    | some row =>
      obtain ⟨ws, hws⟩ := h row (Table.find?_eq_some.1 hfind).1
      exact ⟨some ws, by simp [hws, Except.map]⟩
  obtain ⟨found, hfound⟩ := hfound
  rw [hfound, getWorkspace_ok hfound]

end ClusterManager.Db
