import ClusterManager.Db.Tables
import ClusterManager.Lib.Coroutine

/-!
# The `db` module as seen by its callers

A `DbOp` is one awaited call into the `db` module and `DbOp.exec` its complete, atomic effect.
-/

namespace ClusterManager.Db

/-- The calls into the `db` module. Clock and randomness are arguments. -/
inductive DbOp
  | getAllConnections (workspaceId : Option String)
  | getConnection (connId : String)
  | createConnection (conn : ConnectionProfile) (nonce : ℕ)
  | updateConnection (connId : String) (data : UpdateData) (now : String) (nonce : ℕ)
  | deleteConnection (connId : String)
  | getAllWorkspaces
  | getWorkspace (workspaceId : String)
  | getWorkspacesOwnedBy (ownerId : String)
  | createWorkspace (ws : Workspace)
  | updateWorkspace (workspaceId : String) (data : WorkspaceUpdateData) (now : String)
  | deleteWorkspace (workspaceId : String)
  | countConnectionsInWorkspace (workspaceId : String)

/-- What each call returns. -/
abbrev DbOp.Resp : DbOp → Type
  | .getAllConnections _ => List ConnectionProfile
  | .getConnection _ => Option ConnectionProfile
  | .createConnection _ _ => Unit
  | .updateConnection _ _ _ _ => Option ConnectionProfile
  | .deleteConnection _ => Bool
  | .getAllWorkspaces => List Workspace
  | .getWorkspace _ => Option Workspace
  | .getWorkspacesOwnedBy _ => List Workspace
  | .createWorkspace _ => Unit
  | .updateWorkspace _ _ _ => Option Workspace
  | .deleteWorkspace _ => Bool
  | .countConnectionsInWorkspace _ => ℕ

/-- A call that only reads. -/
def reading {α : Type} (t : Tables) (x : Except Exc α) : Except Exc α × Tables := (x, t)

/-- A call that writes: the tables stay as they were when it raises. -/
def writing {α : Type} (t : Tables) : Except Exc (α × Tables) → Except Exc α × Tables
  | .ok (a, t') => (.ok a, t')
  | .error e => (.error e, t)

/-- The atomic effect of a call. -/
def DbOp.exec (rt : Runtime) : (r : DbOp) → Tables → Except Exc r.Resp × Tables
  | .getAllConnections workspaceId, t => reading t (Db.getAllConnections rt workspaceId t)
  | .getConnection connId, t => reading t (Db.getConnection rt connId t)
  | .createConnection conn nonce, t =>
      writing t ((Db.createConnection rt conn nonce t).map ((), ·))
  | .updateConnection connId data now nonce, t =>
      writing t (Db.updateConnection rt connId data now nonce t)
  | .deleteConnection connId, t => writing t (Db.deleteConnection connId t)
  | .getAllWorkspaces, t => reading t (Db.getAllWorkspaces t)
  | .getWorkspace workspaceId, t => reading t (Db.getWorkspace workspaceId t)
  | .getWorkspacesOwnedBy ownerId, t => reading t (Db.getWorkspacesOwnedBy ownerId t)
  | .createWorkspace ws, t => writing t ((Db.createWorkspace ws t).map ((), ·))
  | .updateWorkspace workspaceId data now, t =>
      writing t (Db.updateWorkspace workspaceId data now t)
  | .deleteWorkspace workspaceId, t => writing t (Db.deleteWorkspace workspaceId t)
  | .countConnectionsInWorkspace workspaceId, t =>
      reading t (.ok (Db.countConnectionsInWorkspace workspaceId t))

/-- The programs that await calls into the `db` module. -/
abbrev DbProgram (α : Type) : Type := Coroutine DbOp DbOp.Resp Exc α

/-- Await one call into the `db` module. -/
abbrev db (r : DbOp) : DbProgram r.Resp := Coroutine.call r

end ClusterManager.Db
