import Mathlib.Data.List.Infix
import ClusterManager.K8s.Build
import ClusterManager.K8s.Clusters

/-!
# The endpoints that create clusters

`createK8sCluster` submits the CR that is built from a typed request, `importK8sCluster` takes a raw
manifest and `cloneK8sCluster` copies the spec of a cluster. Each stamps the workspace label in its
own way.
-/

namespace ClusterManager.K8s

open Db
open Build (CreateK8sClusterRequest buildCr)

/-- `value.setdefault(key, {})[field] = item`. -/
def setUnder (value : Json) (key field : String) (item : Json) : Except Exc Json := do
  let (value, inner) ← value.setDefault key (.obj [])
  value.setItem key (← inner.setItem field item)

/-- `cr.setdefault("metadata", {}).setdefault("labels", {})[WORKSPACE_LABEL] = workspace_id`. -/
def stampWorkspace (cr : Json) (workspaceId : String) : Except Exc Json := do
  let (cr, metadata) ← cr.setDefault "metadata" (.obj [])
  cr.setItem "metadata" (← setUnder metadata "labels" workspaceLabel (.str workspaceId))

/-- `', '.join(sorted(names))`. -/
def sortedNames (names : List String) : String :=
  ", ".intercalate (names.insertionSort fun a b => a ≤ b)

/-- The 404 for a workspace the caller cannot see. -/
def workspaceNotVisible (workspaceId : String) : Exc :=
  .http 404 ("Workspace '" ++ workspaceId ++ "' not found")

/-! ### Create -/

/-- The profile that connects a new cluster. -/
def autoConnectProfile (rt : Runtime) (body : CreateK8sClusterRequest)
    (workspaceId uuid now : String) : ConnectionProfile where
  id := "conn-" ++ uuid
  name := displayName body.name
  hosts := [serviceHost body.namespace_ body.name]
  port := 3000
  clusterName := some (body.namespace_ ++ "/" ++ body.name)
  color := "#10B981"
  labels := normalizeLabels rt (some [("env", "default")])
  workspaceId := orDefault defaultWorkspaceId workspaceId
  createdAt := now
  updatedAt := now

/-- The auto-connect of `create_k8s_cluster`: the id of the new connection, or a warning. -/
def autoConnect (rt : Runtime) (body : CreateK8sClusterRequest) (uuid now : String) (nonce : ℕ) :
    RouterProgram (Option String × Option String) :=
  if body.autoConnect then
    Coroutine.tryCatch (do
        let target := orDefault defaultWorkspaceId (body.workspaceId.getD "")
        let workspace ← db (.getWorkspace target)
        let target := if workspace.isSome then target else defaultWorkspaceId
        let conn := autoConnectProfile rt body target uuid now
        db (.createConnection conn nonce)
        return (some conn.id, none))
      fun e =>
        if e.isException then
          return (none, some ("Cluster created but auto-connect failed for "
            ++ body.namespace_ ++ "/" ++ body.name))
        else throw e
  else return (none, none)

/-- The workspace check of `create_k8s_cluster`: a request without a workspace passes. -/
def assertRequestedWorkspace (callerOwnerId : String) : Option String → RouterProgram Unit
  | none => return ()
  | some workspaceId => do
      if ← workspaceVisible workspaceId callerOwnerId then return ()
      else throw (workspaceNotVisible workspaceId)

/-- `create_k8s_cluster`. -/
def createK8sCluster (rt : Runtime) (callerOwnerId : String) (body : CreateK8sClusterRequest)
    (uuid now : String) (nonce : ℕ) : RouterProgram K8sClusterSummary :=
  k8sEndpoint "create Kubernetes cluster" do
    assertRequestedWorkspace callerOwnerId body.workspaceId
    let existingNamespaces ← kube .listNamespaces
    if body.namespace_ ∉ existingNamespaces then
      throw (.http 400 ("Namespace '" ++ body.namespace_
        ++ "' does not exist in the Kubernetes cluster. Available namespaces: "
        ++ sortedNames existingNamespaces))
    else
      -- the request goes on as `build_cr` leaves it
      let (cr, body) ← Coroutine.lift (buildCr body)
      let cr ← Coroutine.lift
        (stampWorkspace cr (orDefault defaultWorkspaceId (body.workspaceId.getD "")))
      let result ← kube (.createCluster body.namespace_ cr)
      let (connectionId, autoConnectWarning) ← autoConnect rt body uuid now nonce
      let summary ← Coroutine.lift (extractSummary result connectionId)
      return { summary with autoConnectWarning }

/-! ### Import -/

/-- `ImportClusterRequest`. -/
structure ImportClusterRequest where
  cr : Dict String Json
  namespace_ : Option String := none

/-- The namespace and the manifest of an import, cleaned of what the API server owns. -/
def cleanImport (body : ImportClusterRequest) : Except Exc (Json × Json) := do
  let cr := Json.obj body.cr
  let metadata ← cr.get "metadata" (.obj [])
  let crNamespace := (Json.str (body.namespace_.getD "")).or (← metadata.get "namespace")
  if crNamespace.truthy = false then
    throw (.http 400 "Namespace is required (set in CR metadata or request body)")
  else
    let crName ← metadata.get "name"
    if crName.truthy = false then throw (.http 400 "CR metadata.name is required")
    else
      let cr ← cr.setItem "apiVersion" (.str "acko.io/v1alpha1")
      let cr ← cr.setItem "kind" (.str "AerospikeCluster")
      let cr ← setUnder cr "metadata" "namespace" crNamespace
      let cr ← cr.pop "status"
      let metadata ← cr.get "metadata" (.obj [])
      let metadata ← ["resourceVersion", "uid", "creationTimestamp", "generation",
        "managedFields"].foldlM Json.pop metadata
      return (crNamespace, ← cr.setItem "metadata" metadata)

/-- The workspace check of `import_k8s_cluster`: a manifest without a label gets the default
one. -/
def checkOrStamp (callerOwnerId : String) (cr : Json) : RouterProgram Json := do
  match ← Coroutine.lift (crWorkspaceId cr) with
  | none => Coroutine.lift (stampWorkspace cr defaultWorkspaceId)
  | some workspaceId =>
      if ← workspaceVisible workspaceId callerOwnerId then return cr
      else throw (workspaceNotVisible workspaceId)

/-- `import_k8s_cluster`. -/
def importK8sCluster (callerOwnerId : String) (body : ImportClusterRequest) :
    RouterProgram K8sClusterSummary :=
  k8sEndpoint "import Kubernetes cluster" do
    let (crNamespace, cr) ← Coroutine.lift (cleanImport body)
    let cr ← checkOrStamp callerOwnerId cr
    let existingNamespaces ← kube .listNamespaces
    let missing := Exc.http 400 ("Namespace '" ++ formatted crNamespace
      ++ "' does not exist. Available: " ++ sortedNames existingNamespaces)
    match crNamespace with
    | .str namespace_ =>
        if namespace_ ∈ existingNamespaces then
          let result ← kube (.createCluster namespace_ cr)
          Coroutine.lift (extractSummary result none)
        else throw missing
    | _ => throw missing

/-! ### Clone -/

/-- `CloneClusterRequest`. -/
structure CloneClusterRequest where
  name : String
  namespace_ : Option String := none

/-- `"cluster-name" in section`. -/
def hasClusterName : Json → Except Exc Bool
  | .obj fields => .ok ((Dict.get? fields "cluster-name").isSome)
  | .arr items => .ok (items.any fun
      | .str s => s == "cluster-name"
      | _ => false)
  | .str s => .ok (decide ("cluster-name".toList <:+: s.toList))
  | _ => .error .typeError

/-- The spec of a clone: without operations, pause and template, and under the new name. -/
def cloneSpec (spec : Json) (name : String) : Except Exc Json := do
  let spec ← ["operations", "paused", "templateRef"].foldlM Json.pop spec
  let aerospikeConfig ← spec.get "aerospikeConfig" (.obj [])
  let service ← aerospikeConfig.get "service" (.obj [])
  if ← hasClusterName service then
    let service ← service.setItem "cluster-name" (.str name)
    let aerospikeConfig ← aerospikeConfig.setItem "service" service
    spec.setItem "aerospikeConfig" aerospikeConfig
  else return spec

/-- The metadata of a clone: the label of the source, if it has one. -/
def cloneMetadata (name namespace_ : String) (sourceWorkspaceId : Option String) : Json :=
  .obj ([("name", .str name), ("namespace", .str namespace_)] ++
    (sourceWorkspaceId.toList.map fun workspaceId =>
      ("labels", .obj [(workspaceLabel, .str workspaceId)])))

/-- The CR of a clone. -/
def cloneCr (source : Json) (name namespace_ : String) : Except Exc Json := do
  let spec ← source.get "spec" (.obj [])
  let sourceWorkspaceId ← crWorkspaceId source
  let spec ← cloneSpec spec name
  return .obj [("apiVersion", .str "acko.io/v1alpha1"), ("kind", .str "AerospikeCluster"),
    ("metadata", cloneMetadata name namespace_ sourceWorkspaceId), ("spec", spec)]

/-- What `clone_k8s_cluster` does with a source that passed the access gate. -/
def cloneFrom (source : Json) (body : CloneClusterRequest) (targetNs : String) :
    RouterProgram K8sClusterSummary := do
  let existingNamespaces ← kube .listNamespaces
  if targetNs ∉ existingNamespaces then
    throw (.http 400 ("Namespace '" ++ targetNs ++ "' does not exist. Available: "
      ++ sortedNames existingNamespaces))
  else
    let cr ← Coroutine.lift (cloneCr source body.name targetNs)
    let result ← (kube (.createCluster targetNs cr)).tryCatch fun
      | .k8sApi status reason message =>
          if status = 409 then
            throw (.http 409 ("Cluster with name '" ++ body.name
              ++ "' already exists in namespace '" ++ targetNs ++ "'"))
          else throw (.k8sApi status reason message)
      | e => throw e
    Coroutine.lift (extractSummary result none)

/-- `clone_k8s_cluster`. -/
def cloneK8sCluster (callerOwnerId namespace_ name : String) (body : CloneClusterRequest) :
    RouterProgram K8sClusterSummary :=
  k8sEndpoint "clone Kubernetes cluster" do
    let source ← assertCallerOwnsK8sCluster namespace_ name callerOwnerId
    cloneFrom source body (orDefault namespace_ (body.namespace_.getD ""))

end ClusterManager.K8s
