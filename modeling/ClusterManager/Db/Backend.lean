import ClusterManager.Db.Validation
import ClusterManager.Lib.JsonText

/-!
# What the two backends share

Each backend keeps the five tables in columns of its own: the JSON columns and the flag have the
types of the engine. A program runs statements over one database connection, inside and outside
transactions; a statement maps a store to its result and the next store. Reading a row goes down to
the JSON text. The calls of the `db` API are data, so that a run is a list of them.
-/

namespace ClusterManager.Db.Backend

open JsonText (Value)

/-! ### Columns -/

/-- A row of `connections`, with JSON columns of type `J`. -/
structure ConnectionColumns (J : Type) where
  id : String
  name : String
  hosts : J
  port : ℕ
  clusterName : Option String
  username : Option String
  password : Option String
  color : String
  note : Option String
  labels : Option J
  workspaceId : Option String
  createdAt : String
  updatedAt : String

/-- A row of `workspaces`, with an `is_default` column of type `B`. -/
structure WorkspaceColumns (B : Type) where
  id : String
  name : String
  color : String
  description : Option String
  isDefault : B
  ownerId : String
  createdAt : String
  updatedAt : String

/-- The five tables. -/
structure Store (J B : Type) where
  connections : Table (ConnectionColumns J) ConnectionColumns.id
  workspaces : Table (WorkspaceColumns B) WorkspaceColumns.id
  setNotes : Table SetNote SetNote.key
  recordNotes : Table RecordNote RecordNote.key
  guides : Table Guide Guide.key

/-- The tables as they are created. -/
def Store.empty {J B : Type} : Store J B := ⟨.empty, .empty, .empty, .empty, .empty⟩

/-! ### Programs -/

/-- The database as a connection sees it: what is committed, and the transaction that is open. -/
structure Link (D : Type) where
  committed : D
  tx : Option D := none

/-- What a statement acts on. -/
def Link.view {D : Type} (l : Link D) : D := l.tx.getD l.committed

/-- A program over a connection: what it returns or raises, and the connection after it. -/
def Sql (D α : Type) : Type := Link D → Except Exc α × Link D

namespace Sql

variable {D α β : Type}

instance : Monad (Sql D) where
  pure a := fun l => (.ok a, l)
  bind p f := fun l =>
    match p l with
    | (.ok a, l) => f a l
    | (.error e, l) => (.error e, l)

/-- `raise`. -/
def throw (e : Exc) : Sql D α := fun l => (.error e, l)

/-- A computation that awaits nothing. -/
def lift (x : Except Exc α) : Sql D α := fun l => (x, l)

/-- `try: … except Exception as e: …`. No await is cancelled here, so every exception is one. -/
def tryCatch (p : Sql D α) (handler : Exc → Sql D α) : Sql D α := fun l =>
  match p l with
  | (.ok a, l) => (.ok a, l)
  | (.error e, l) => handler e l

variable {p : Sql D α} {f : α → Sql D β} {l l' : Link D} {a : α} {e : Exc}

theorem bind_ok (h : p l = (.ok a, l')) : (p >>= f) l = f a l' := by
  simp [bind, h]

theorem bind_error (h : p l = (.error e, l')) : (p >>= f) l = (.error e, l') := by
  simp [bind, h]

theorem tryCatch_ok {handler : Exc → Sql D α} (h : p l = (.ok a, l')) :
    tryCatch p handler l = (.ok a, l') := by
  simp [tryCatch, h]

theorem tryCatch_error {handler : Exc → Sql D α} (h : p l = (.error e, l')) :
    tryCatch p handler l = handler e l' := by
  simp [tryCatch, h]

end Sql

/-- The end of a transaction: its store is committed, or the old one stays. -/
def settle {D α : Type} (s : D) : Except Exc (α × D) → Except Exc α × Link D
  | .ok (a, s') => (.ok a, { committed := s' })
  | .error e => (.error e, { committed := s })

/-- What a statement binds. -/
inductive Param
  | text (s : String)
  | text? (s : Option String)
  | int (n : ℕ)
  | bool (b : Bool)
  | texts (l : List String)

/-- The order in which an engine happens to find the rows of a result. -/
structure Scan where
  order : {α : Type} → List α → List α
  perm : ∀ {α : Type} (l : List α), (order l).Perm l

/-- The rows that a `WHERE` clause leaves, in the order they are found. -/
def Scan.found {α : Type} (scan : Scan) (rows : List α) (where_ : α → Bool) : List α :=
  scan.order (rows.filter where_)

/-- What the upserts set leaves the primary key. -/
theorem setNote_key (note now : String) (updatedBy : Option String) (row : SetNote) :
    { row with note, updatedAt := now, updatedBy }.key = row.key := rfl

@[inherit_doc setNote_key]
theorem recordNote_key (digestHex : Option String) (note now : String) (updatedBy : Option String)
    (row : RecordNote) :
    { row with digestHex, note, updatedAt := now, updatedBy }.key = row.key := rfl

@[inherit_doc setNote_key]
theorem guide_key (title content now : String) (updatedBy : Option String) (row : Guide) :
    { row with title, content, updatedAt := now, updatedBy }.key = row.key := rfl

/-! ### Statements -/

/-- A statement: its result and the store after it, or its error. -/
abbrev Statement (J B α : Type) : Type := Store J B → Except Exc (α × Store J B)

section Statements

variable {J B : Type}

/-- `INSERT INTO connections`. -/
def insertConnection (row : ConnectionColumns J) : Statement J B Unit := fun s =>
  (unique (s.connections.insert? row)).map fun connections => ((), { s with connections })

/-- `UPDATE connections SET … WHERE id = …`. -/
def updateConnection (connId : String) (set : ConnectionColumns J → ConnectionColumns J)
    (hset : ∀ row, (set row).id = row.id) : Statement J B Unit := fun s =>
  .ok ((), { s with connections := s.connections.update connId set hset })

/-- `DELETE FROM connections WHERE id = …`: the number of rows. The foreign keys of both schemas
delete their notes with them. -/
def deleteConnection (connId : String) : Statement J B ℕ := fun s =>
  match s.connections.find? connId with
  | none => .ok (0, s)
  | some _ => .ok (1, { s with
      connections := s.connections.delete (·.id = connId)
      setNotes := s.setNotes.delete (·.connectionId = connId)
      recordNotes := s.recordNotes.delete (·.connectionId = connId) })

/-- `INSERT INTO workspaces`. -/
def insertWorkspace (row : WorkspaceColumns B) : Statement J B Unit := fun s =>
  (unique (s.workspaces.insert? row)).map fun workspaces => ((), { s with workspaces })

/-- The seed, `INSERT OR IGNORE` or `ON CONFLICT (id) DO NOTHING`. -/
def insertWorkspaceOrIgnore (row : WorkspaceColumns B) : Statement J B Unit := fun s =>
  .ok ((), { s with workspaces := (s.workspaces.insert? row).getD s.workspaces })

/-- `UPDATE connections SET workspace_id = … WHERE workspace_id IS NULL`. -/
def backfillWorkspaceId (workspaceId : String) : Statement J B Unit := fun s =>
  .ok ((), { s with
    connections := s.connections.map
      (fun row => { row with workspaceId := row.workspaceId.or (some workspaceId) }) fun _ => rfl })

/-- `UPDATE workspaces SET … WHERE id = …`. -/
def updateWorkspace (workspaceId : String) (set : WorkspaceColumns B → WorkspaceColumns B)
    (hset : ∀ row, (set row).id = row.id) : Statement J B Unit := fun s =>
  .ok ((), { s with workspaces := s.workspaces.update workspaceId set hset })

/-- `DELETE FROM workspaces WHERE id = … AND is_default = …`: the number of rows, their guides
with them. -/
def deleteWorkspace (workspaceId : String) (isDefaultMatches : B → Bool) : Statement J B ℕ :=
  fun s =>
    match (s.workspaces.find? workspaceId).filter fun row => isDefaultMatches row.isDefault with
    | none => .ok (0, s)
    | some _ => .ok (1, { s with
        workspaces := s.workspaces.delete (·.id = workspaceId)
        guides := s.guides.delete (·.workspaceId = workspaceId) })

/-- `INSERT INTO set_notes … ON CONFLICT … DO UPDATE SET … RETURNING *`. -/
def upsertSetNote (row : SetNote) (set : SetNote → SetNote) (hset : ∀ n, (set n).key = n.key) :
    Statement J B SetNote := fun s => do
  referenced (s.connections.find? row.connectionId)
  let (stored, setNotes) := s.setNotes.upsert row set hset
  return (stored, { s with setNotes })

/-- `DELETE FROM set_notes WHERE …`. -/
def deleteSetNotes (p : SetNote → Bool) : Statement J B ℕ := fun s =>
  .ok (s.setNotes.rows.countP p, { s with setNotes := s.setNotes.delete p })

/-- `INSERT INTO record_notes … ON CONFLICT … DO UPDATE SET … RETURNING *`. -/
def upsertRecordNote (row : RecordNote) (set : RecordNote → RecordNote)
    (hset : ∀ n, (set n).key = n.key) : Statement J B RecordNote := fun s => do
  referenced (s.connections.find? row.connectionId)
  let (stored, recordNotes) := s.recordNotes.upsert row set hset
  return (stored, { s with recordNotes })

/-- `DELETE FROM record_notes WHERE …`. -/
def deleteRecordNotes (p : RecordNote → Bool) : Statement J B ℕ := fun s =>
  .ok (s.recordNotes.rows.countP p, { s with recordNotes := s.recordNotes.delete p })

/-- `INSERT INTO guides … ON CONFLICT … DO UPDATE SET … RETURNING *`. -/
def upsertGuide (row : Guide) (set : Guide → Guide) (hset : ∀ g, (set g).key = g.key) :
    Statement J B Guide := fun s => do
  referenced (s.workspaces.find? row.workspaceId)
  let (stored, guides) := s.guides.upsert row set hset
  return (stored, { s with guides })

/-- `DELETE FROM guides WHERE …`. -/
def deleteGuides (p : Guide → Bool) : Statement J B ℕ := fun s =>
  .ok (s.guides.rows.countP p, { s with guides := s.guides.delete p })

end Statements

/-- A row is found, a new one is made of it, and this is written: the shape of the two updates. -/
def findAndWrite {D ρ β : Type} (find : D → Option ρ) (merge : ρ → Except Exc β)
    (write : β → D → Except Exc (Unit × D)) (s : D) : Except Exc (Option β × D) :=
  match find s with
  | none => .ok (none, s)
  | some row => do
      let updated ← merge row
      let (_, s) ← write updated s
      return (some updated, s)

/-! ### Reading rows -/

/-- A list of strings as `json.dumps` takes it. -/
def listJson (items : List String) : Value := .arr (items.map .str)

/-- A dictionary of strings. -/
def dictJson (d : Dict String String) : Value := .obj (d.map fun p => (p.1, .str p.2))

/-- `list[str]` of a JSON value. -/
def validateHosts : Value → Except Exc (List String)
  | .arr items => items.mapM fun item =>
      match item with
      | .str s => .ok s
      | _ => .error .validationError
  | _ => .error .validationError

/-- The hosts of a row. -/
def decodeHosts (raw : String) : Except Exc (List String) :=
  match JsonText.loads raw with
  | some hosts => validateHosts hosts
  | none => .ok [raw]

/-- `_decode_json_dict`. -/
def decodeJsonDict (value : Option String) : Dict String Value :=
  match value with
  | none => []
  | some value =>
      if value = "" then []
      else match JsonText.loads value with
        | some (.obj fields) => fields
        | _ => []

/-- The runtime, with what `str` makes of a list or a dictionary. -/
structure Python extends Runtime where
  str : Value → String

/-- `str(val)`. -/
def labelText (py : Python) : Value → String
  | .str s => s
  | val => py.str val

section Rows

variable {J B : Type} (py : Python)

/-- A row with its JSON columns decoded. -/
def ConnectionColumns.decoded (row : ConnectionColumns J) (hosts : List String)
    (labels : Dict String String) : ConnectionRow where
  id := row.id
  name := row.name
  hosts := hosts
  port := row.port
  clusterName := row.clusterName
  username := row.username
  password := row.password
  color := row.color
  note := row.note
  labels := some labels
  workspaceId := row.workspaceId
  createdAt := row.createdAt
  updatedAt := row.updatedAt

/-- The JSON columns of a row are read. -/
def readColumns (text : J → String) (row : ConnectionColumns J) : Except Exc ConnectionRow := do
  let hosts ← decodeHosts (text row.hosts)
  let labels := (decodeJsonDict (row.labels.map text)).map fun p => (p.1, labelText py p.2)
  return row.decoded hosts labels

/-- A row with its flag decoded, where `bool(is_default)` is `truth`. -/
def WorkspaceColumns.decoded (truth : B → Bool) (row : WorkspaceColumns B) : Workspace where
  id := row.id
  name := row.name
  color := row.color
  description := row.description
  isDefault := truth row.isDefault
  ownerId := row.ownerId
  createdAt := row.createdAt
  updatedAt := row.updatedAt

end Rows

/-! ### Calls -/

/-- A profile that `ConnectionProfile` has built. -/
structure BuiltProfile (rt : Runtime) where
  profile : ConnectionProfile
  checked : profile.validated = .ok profile
  labels : ∃ v, profile.labels = normalizeLabels rt v

/-- A call of the `db` API. What it takes from the clock is an argument. -/
inductive ApiCall (rt : Runtime)
  | getAllConnections (workspaceId : Option String)
  | getConnection (connId : String)
  | createConnection (conn : BuiltProfile rt)
  | updateConnection (connId : String) (data : UpdateData) (now : String)
  | deleteConnection (connId : String)
  | getAllWorkspaces
  | getWorkspace (workspaceId : String)
  | getWorkspacesOwnedBy (ownerId : String)
  | createWorkspace (ws : Workspace)
  | updateWorkspace (workspaceId : String) (data : WorkspaceUpdateData) (now : String)
  | deleteWorkspace (workspaceId : String)
  | countConnectionsInWorkspace (workspaceId : String)
  | upsertSetNote (connectionId namespace_ setName note : String) (updatedBy : Option String)
      (now : String)
  | deleteSetNote (connectionId namespace_ setName : String)
  | getSetNote (connectionId namespace_ setName : String)
  | listSetNotes (connectionId : String) (namespace_ : Option String)
  | batchGetSetNotes (connectionId namespace_ : String) (setNames : List String)
  | upsertRecordNote (connectionId namespace_ setName pkText pkType note : String)
      (digestHex updatedBy : Option String) (now : String)
  | deleteRecordNote (connectionId namespace_ setName pkText pkType : String)
  | getRecordNote (connectionId namespace_ setName pkText pkType : String)
  | listRecordNotes (connectionId namespace_ setName : String)
  | batchGetRecordNotes (connectionId namespace_ setName : String) (pks : List (String × String))
  | upsertGuide (workspaceId guideType title content : String) (updatedBy : Option String)
      (now : String)
  | getGuide (workspaceId guideType : String)
  | listGuides (workspaceId : String)
  | deleteGuide (workspaceId guideType : String)

/-- What each call returns. -/
abbrev ApiCall.Resp {rt : Runtime} : ApiCall rt → Type
  | .getAllConnections _ => List ConnectionProfile
  | .getConnection _ => Option ConnectionProfile
  | .createConnection _ => Unit
  | .updateConnection _ _ _ => Option ConnectionProfile
  | .deleteConnection _ => Bool
  | .getAllWorkspaces => List Workspace
  | .getWorkspace _ => Option Workspace
  | .getWorkspacesOwnedBy _ => List Workspace
  | .createWorkspace _ => Unit
  | .updateWorkspace _ _ _ => Option Workspace
  | .deleteWorkspace _ => Bool
  | .countConnectionsInWorkspace _ => ℕ
  | .upsertSetNote _ _ _ _ _ _ => SetNote
  | .deleteSetNote _ _ _ => Bool
  | .getSetNote _ _ _ => Option SetNote
  | .listSetNotes _ _ => List SetNote
  | .batchGetSetNotes _ _ _ => Dict String String
  | .upsertRecordNote _ _ _ _ _ _ _ _ _ => RecordNote
  | .deleteRecordNote _ _ _ _ _ => Bool
  | .getRecordNote _ _ _ _ _ => Option RecordNote
  | .listRecordNotes _ _ _ => List RecordNote
  | .batchGetRecordNotes _ _ _ _ => Dict (String × String) String
  | .upsertGuide _ _ _ _ _ _ => Guide
  | .getGuide _ _ => Option Guide
  | .listGuides _ => List Guide
  | .deleteGuide _ _ => Bool

end ClusterManager.Db.Backend
