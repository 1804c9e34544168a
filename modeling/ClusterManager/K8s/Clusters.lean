import Mathlib.Data.List.Dedup
import ClusterManager.K8s.Requests
import ClusterManager.K8s.Service
import ClusterManager.WorkspaceAcl

/-!
# The cluster endpoints

The access gate, the list, the deletion with the cleanup of connection profiles, and the secrets
of a namespace, as programs over the calls of the router.
-/

namespace ClusterManager.K8s

open Db

/-! ### Errors -/

/-- `_map_k8s_error`. -/
def mapK8sError (status : ℕ) (reason message : String) : Exc :=
  .http (if 400 ≤ status ∧ status ≤ 599 then status else 500) (orDefault reason message)

/-- `_k8s_endpoint`. -/
def k8sEndpoint {α : Type} (operation : String) (func : RouterProgram α) : RouterProgram α :=
  func.tryCatch fun
    | .http status detail => throw (.http status detail)
    | .k8sApi status reason message => throw (mapK8sError status reason message)
    | e => if e.isException then throw (.http 500 ("Failed to " ++ operation)) else throw e

/-! ### Access -/

/-- `is_workspace_visible` of the router. -/
def workspaceVisible (workspaceId callerOwnerId : String) : RouterProgram Bool :=
  isWorkspaceVisible (fun id => db (.getWorkspace id)) workspaceId callerOwnerId

/-- The 404 for a cluster that is missing or not the caller's. -/
def clusterNotFound (namespace_ name : String) : Exc :=
  .http 404 ("Cluster '" ++ namespace_ ++ "/" ++ name ++ "' not found")

/-- `_assert_caller_owns_k8s_cluster`. -/
def assertCallerOwnsK8sCluster (namespace_ name callerOwnerId : String) : RouterProgram Json := do
  let cr ← (kube (.getCluster namespace_ name)).tryCatch fun
    | .k8sApi status reason message =>
        if status = 404 then throw (clusterNotFound namespace_ name)
        else throw (mapK8sError status reason message)
    | e => throw e
  match ← Coroutine.lift (crWorkspaceId cr) with
  | none =>
      if callerOwnerId = systemOwnerId then return cr
      else throw (clusterNotFound namespace_ name)
  | some workspaceId =>
      if ← workspaceVisible workspaceId callerOwnerId then return cr
      else throw (clusterNotFound namespace_ name)

/-- `asyncio.gather` of the visibility of each workspace, zipped with their ids. -/
def gatherVisibility (callerOwnerId : String) : List String → RouterProgram (Dict String Bool)
  | [] => return []
  | workspaceId :: rest => do
      let visible ← workspaceVisible workspaceId callerOwnerId
      let visibility ← gatherVisibility callerOwnerId rest
      return (workspaceId, visible) :: visibility

/-- The visibility of each workspace that labels one of the items. -/
def visibleWorkspaces (callerOwnerId : String) (items : List Json) :
    RouterProgram (Dict String Bool) := do
  let workspaceIds ← Coroutine.lift (items.mapM crWorkspaceId)
  gatherVisibility callerOwnerId (workspaceIds.reduceOption).dedup

/-- The rule for one item: `unlabelled` is what holds of an item without a label. -/
def itemVisible (visibility : Dict String Bool) (unlabelled : Bool) (item : Json) :
    Except Exc Bool := do
  match ← crWorkspaceId item with
  | none => return unlabelled
  | some workspaceId => return (visibility.get? workspaceId).getD false

/-! ### The list -/

/-- The name the auto-connect profile of a cluster is displayed under. -/
def displayName (name : String) : String := "[K8s] " ++ name

/-- The in-cluster DNS name of a cluster's service. -/
def serviceHost (namespace_ name : String) : String :=
  name ++ "." ++ namespace_ ++ ".svc.cluster.local"

/-- The text of a value in an f-string. That of a number, a list or a dictionary is not kept: the
response model refuses a name that is no string. -/
def formatted : Json → String
  | .str s => s
  | .null => "None"
  | .bool b => if b then "True" else "False"
  | _ => ""

/-- The connections a caller sees: those of the caller's workspaces and the shared ones. -/
def visibleConnections (workspaces : List Workspace) (callerOwnerId : String)
    (connections : List ConnectionProfile) : List ConnectionProfile :=
  let visibleWsIds := (workspaces.filter fun ws =>
    ws.ownerId = callerOwnerId ∨ ws.ownerId = systemOwnerId).map Workspace.id
  connections.filter fun c => orDefault defaultWorkspaceId c.workspaceId ∈ visibleWsIds

variable (lower : String → String)

/-- `conn_by_host`. -/
def connByHost (connections : List ConnectionProfile) : Dict String String :=
  connections.foldl (fun d conn => conn.hosts.foldl (fun d host => d.set (lower host) conn.id) d) []

/-- `conn_by_name`. -/
def connByName (connections : List ConnectionProfile) : Dict String String :=
  connections.foldl (fun d conn => d.set conn.name conn.id) []

/-- The connection of a cluster: by its host, else by the display name. -/
def connectionOf (connections : List ConnectionProfile) (namespace_ name : String) :
    Option String :=
  match (connByHost lower connections).get? (lower (serviceHost namespace_ name)) with
  | some connId =>
      if connId ≠ "" then some connId else (connByName connections).get? (displayName name)
  | none => (connByName connections).get? (displayName name)

/-- `_find_connection_id`. -/
def findConnectionId (connections : List ConnectionProfile) (item : Json) :
    Except Exc (Option String) := do
  let metadata ← item.get "metadata" (.obj [])
  let name ← metadata.get "name" (.str "")
  let namespace_ ← metadata.get "namespace" (.str "")
  return connectionOf lower connections (formatted namespace_) (formatted name)

/-- `K8sClusterListResponse`. -/
structure K8sClusterListResponse where
  items : List K8sClusterSummary
  continueToken : Option String
  hasMore : Bool

/-- `list_k8s_clusters`. -/
def listK8sClusters (callerOwnerId : String) (namespace_ : Option String) (limit : ℕ)
    (continueToken labelSelector : Option String) : RouterProgram K8sClusterListResponse :=
  k8sEndpoint "list Kubernetes clusters" do
    let (items, nextToken) ←
      kube (.listClusters namespace_ (some limit) continueToken labelSelector)
    let visibility ← visibleWorkspaces callerOwnerId items
    let items ← Coroutine.lift
      (filterE (itemVisible visibility (callerOwnerId = systemOwnerId)) items)
    let connections ← db (.getAllConnections none)
    let workspaces ← (db .getAllWorkspaces).tryCatch fun
      | .dbNotInitialized => return []
      | e => throw e
    let connections := visibleConnections workspaces callerOwnerId connections
    let summaries ← Coroutine.lift (items.mapM fun item => do
      extractSummary item (← findConnectionId lower connections item))
    return { items := summaries, continueToken := nextToken, hasMore := nextToken.isSome }

/-! ### The deletion -/

/-- The cleanup loop of `delete_k8s_cluster`. -/
def cleanupConnections (callerOwnerId namespace_ name : String) :
    List ConnectionProfile → RouterProgram Unit
  | [] => return ()
  | conn :: rest => do
      if conn.name = displayName name ∨ serviceHost namespace_ name ∈ conn.hosts then
        if ← workspaceVisible (orDefault defaultWorkspaceId conn.workspaceId) callerOwnerId then
          let _ ← db (.deleteConnection conn.id)
          Coroutine.call (RouterCall.closeClient conn.id)
      cleanupConnections callerOwnerId namespace_ name rest

/-- `delete_k8s_cluster`: the message of its response. -/
def deleteK8sCluster (callerOwnerId namespace_ name : String) : RouterProgram String :=
  k8sEndpoint "delete Kubernetes cluster" do
    let _ ← assertCallerOwnsK8sCluster namespace_ name callerOwnerId
    let _ ← kube (.deleteCluster namespace_ name)
    Coroutine.tryCatch (do
        let allConns ← db (.getAllConnections none)
        cleanupConnections callerOwnerId namespace_ name allConns)
      fun e => if e.isException then return () else throw e
    return "Cluster " ++ namespace_ ++ "/" ++ name ++ " deletion initiated"

/-! ### The secrets of a namespace -/

/-- An element of the set of namespaces: a text, or a number, which no namespace equals. -/
def namespaceElement : Json → Except Exc (Option String)
  | .str s => .ok (some s)
  | .arr _ | .obj _ => .error .typeError
  | _ => .ok none

/-- The namespaces of the items that a caller sees or that carry no label. -/
def visibleNamespaces (visibility : Dict String Bool) (items : List Json) :
    Except Exc (List (Option String)) := do
  let items ← filterE (itemVisible visibility true) items
  let namespaces ← items.mapM fun item => do (← crMetadata item).get "namespace"
  (namespaces.filter Json.truthy).mapM namespaceElement

/-- `_visible_cluster_namespaces`. -/
def visibleClusterNamespaces (callerOwnerId : String) :
    RouterProgram (List (Option String)) := do
  let (items, _) ← kube (.listClusters none (some 200) none none)
  let visibility ← visibleWorkspaces callerOwnerId items
  Coroutine.lift (visibleNamespaces visibility items)

/-- `list_k8s_secrets`. -/
def listK8sSecrets (callerOwnerId namespace_ : String) : RouterProgram (List String) :=
  k8sEndpoint "list Kubernetes secrets" do
    let visible ← visibleClusterNamespaces callerOwnerId
    if visible ≠ [] ∧ some namespace_ ∉ visible then return []
    else kube (.listSecrets namespace_)

end ClusterManager.K8s
