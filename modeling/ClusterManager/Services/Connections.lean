import ClusterManager.Db.Requests

/-!
# The connection and workspace services

The service functions as programs over the `db` module. What they take from the clock and from
`uuid4` is an argument.
-/

namespace ClusterManager.Services

open Db

/-- `CreateConnectionRequest`. -/
structure CreateConnectionRequest where
  name : String := "New Connection"
  hosts : List String := ["localhost"]
  port : ℕ := 3000
  clusterName : Option String := none
  username : Option String := none
  password : Option String := none
  color : String := "#0097D3"
  note : Option String := none
  labels : Option (Dict String String) := none
  workspaceId : Option String := none

/-- `ConnectionProfileResponse.from_profile`: the profile without its password. -/
def fromProfile (conn : ConnectionProfile) : ConnectionProfile := { conn with password := none }

/-- The target gate: `assert_targets_allowed` of the hosts and the default port. -/
abbrev TargetGate : Type := List String → ℕ → Except Exc Unit

variable (rt : Runtime) (assertTargetsAllowed : TargetGate)

/-- `_assert_workspace_visible`. -/
def assertWorkspaceVisible (workspaceId : String) (callerOwnerId : Option String) :
    DbProgram Unit := do
  match ← db (.getWorkspace workspaceId) with
  | none => throw (.workspaceNotFound workspaceId)
  | some ws =>
      match callerOwnerId with
      | none => return ()
      | some caller =>
          if ws.ownerId ≠ caller ∧ ws.ownerId ≠ systemOwnerId then
            throw (.workspaceNotFound workspaceId)
          else return ()

/-- The profile `create_connection` stores, before the checks of the model. -/
def newProfile (payload : CreateConnectionRequest) (workspaceId uuid now : String) :
    ConnectionProfile where
  id := "conn-" ++ uuid
  name := payload.name
  hosts := payload.hosts
  port := payload.port
  clusterName := payload.clusterName
  username := payload.username
  password := payload.password
  color := payload.color
  note := payload.note
  labels := normalizeLabels rt (some (payload.labels.getD []))
  workspaceId := workspaceId
  createdAt := now
  updatedAt := now

/-- `create_connection`. -/
def createConnection (payload : CreateConnectionRequest) (callerOwnerId : Option String)
    (uuid now : String) (nonce : ℕ) : DbProgram ConnectionProfile := do
  Coroutine.lift (assertTargetsAllowed payload.hosts payload.port)
  let workspaceId := orDefault defaultWorkspaceId (payload.workspaceId.getD "")
  assertWorkspaceVisible workspaceId callerOwnerId
  let conn ← Coroutine.lift (newProfile rt payload workspaceId uuid now).validated
  db (.createConnection conn nonce)
  return fromProfile conn

/-- The target gate of `update_connection`: only a host rewrite is checked. -/
def assertUpdateTargets (data : UpdateData) : Except Exc Unit :=
  match data.hosts with
  | some (some (host :: hosts)) =>
      assertTargetsAllowed (host :: hosts) ((data.port.getD none).getD 3000)
  | _ => .ok ()

/-- The workspace check of `update_connection`: only a move to a named workspace is checked. -/
def assertUpdateWorkspace (data : UpdateData) (callerOwnerId : Option String) : DbProgram Unit :=
  match data.workspaceId with
  | some (some target) => assertWorkspaceVisible target callerOwnerId
  | _ => return ()

/-- `update_connection`. Evicting the cached client leaves the tables alone. -/
def updateConnection (connId : String) (data : UpdateData) (callerOwnerId : Option String)
    (now : String) (nonce : ℕ) : DbProgram ConnectionProfile := do
  Coroutine.lift (assertUpdateTargets assertTargetsAllowed data)
  assertUpdateWorkspace data callerOwnerId
  match ← db (.updateConnection connId data now nonce) with
  | none => throw (.connectionNotFound connId)
  | some conn => return fromProfile conn

/-- The workspace a connection's owner check looks at, `None` when the metadata is not there. -/
def workspaceOrNone (workspaceId : String) : DbProgram (Option Workspace) :=
  (db (.getWorkspace workspaceId)).tryCatch fun e =>
    if e = .dbNotInitialized then return none else throw e

/-- The owner check of `delete_connection`. -/
def assertDeletable (connId : String) : Option String → DbProgram Unit
  | none => return ()
  | some caller => do
      match ← db (.getConnection connId) with
      | none => return ()
      | some existing =>
          match ← workspaceOrNone existing.workspaceId with
          | none => return ()
          | some workspace =>
              if workspace.ownerId ≠ caller ∧ workspace.ownerId ≠ systemOwnerId then
                throw (.connectionNotFound connId)
              else return ()

/-- `delete_connection`. -/
def deleteConnection (connId : String) (callerOwnerId : Option String) : DbProgram Unit := do
  assertDeletable connId callerOwnerId
  let _ ← db (.deleteConnection connId)
  return ()

/-! ### Workspaces -/

/-- `_is_visible_to`. -/
def isVisibleTo (ws : Workspace) (callerOwnerId : String) : Bool :=
  ws.ownerId = callerOwnerId || ws.ownerId = systemOwnerId

/-- `_is_owned_by`. -/
def isOwnedBy (ws : Workspace) (callerOwnerId : String) : Bool := ws.ownerId = callerOwnerId

/-- `CreateWorkspaceRequest`. -/
structure CreateWorkspaceRequest where
  name : String
  color : String := "#6366F1"
  description : Option String := none

/-- `create_workspace`. -/
def createWorkspace (payload : CreateWorkspaceRequest) (ownerId uuid now : String) :
    DbProgram Workspace := do
  let ws ← Coroutine.lift <| Workspace.validated {
    id := "ws-" ++ uuid
    name := payload.name
    color := payload.color
    description := payload.description
    isDefault := false
    ownerId := ownerId
    createdAt := now
    updatedAt := now }
  db (.createWorkspace ws)
  return ws

/-- The ownership gate `update_workspace` and `delete_workspace` share. -/
def ownedWorkspace (workspaceId callerOwnerId : String) : DbProgram Workspace := do
  match ← db (.getWorkspace workspaceId) with
  | none => throw (.workspaceNotFound workspaceId)
  | some ws =>
      if isVisibleTo ws callerOwnerId = false then throw (.workspaceNotFound workspaceId)
      else if isOwnedBy ws callerOwnerId = false then throw (.workspaceNotFound workspaceId)
      else return ws

/-- `update_workspace`. -/
def updateWorkspace (workspaceId : String) (data : WorkspaceUpdateData)
    (callerOwnerId now : String) : DbProgram Workspace := do
  let _ ← ownedWorkspace workspaceId callerOwnerId
  match ← db (.updateWorkspace workspaceId data now) with
  | none => throw (.workspaceNotFound workspaceId)
  | some updated => return updated

/-- `delete_workspace`. -/
def deleteWorkspace (workspaceId callerOwnerId : String) : DbProgram Unit := do
  let ws ← ownedWorkspace workspaceId callerOwnerId
  if ws.isDefault = true ∨ ws.id = defaultWorkspaceId then
    throw (.workspaceIsDefault workspaceId)
  else
    let remaining ← db (.countConnectionsInWorkspace workspaceId)
    if remaining > 0 then throw (.workspaceHasConnections workspaceId remaining)
    else
      let _ ← db (.deleteWorkspace workspaceId)
      return ()

end ClusterManager.Services
