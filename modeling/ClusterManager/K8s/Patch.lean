import ClusterManager.K8s.CustomResource
import ClusterManager.Lib.Interleaving

/-!
# Patching a custom resource

`patchWithResourceVersion` fetches the object, verifies it, and applies a merge patch that carries
the fetched resource version, up to three times. `patchClusterStatus` fetches, verifies and
applies a status patch that carries none. Both talk to an API server that other clients write to
at any time; the caller's body and the payloads are dictionaries on the Python heap.
-/

namespace ClusterManager.K8s

open Interleaving

/-- `_PATCH_MAX_ATTEMPTS`. -/
def patchMaxAttempts : ℕ := 3

/-- The calls of a patch: to the API server, and on the dictionaries of the heap. -/
inductive ApiCall
  /-- `get_namespaced_custom_object`. -/
  | get
  /-- `patch_namespaced_custom_object` with the dictionary at an address. -/
  | patch (payload : ℕ)
  /-- `patch_namespaced_custom_object_status`. -/
  | patchStatus (body : Json)
  /-- `copy.deepcopy`: the address of the copy. -/
  | deepcopy (dict : ℕ)
  /-- `payload.setdefault("metadata", {})["resourceVersion"] = rv`. -/
  | setResourceVersion (payload : ℕ) (rv : Json)

/-- What each call returns. -/
abbrev ApiCall.Resp : ApiCall → Type
  | .get => Json
  | .patch _ => Json
  | .patchStatus _ => Json
  | .deepcopy _ => ℕ
  | .setResourceVersion _ _ => Unit

/-- A write the API server has applied: the version it was applied to, and the patch. -/
structure Applied where
  version : Versioned
  patch : Json

/-- The API server's copy of one object, the resource versions it has ever given out, the patches
of this client it has applied, and the client's heap. -/
structure Server where
  object : Option Versioned
  used : List String
  known : ∀ o, object = some o → o.rv ∈ used
  applied : List Applied := []
  heap : List Json

/-- How the API server answers a call: it does what it is asked, under a fresh resource version
if it writes, or it fails without an effect. -/
inductive Reply
  | answer (rv : String)
  | fail (status : ℕ) (reason message : String)

/-- A write by another client. -/
inductive EnvWrite
  | put (rv : String) (body : Json)
  | delete

/-- The API server refuses a patch that names a resource version other than the current one. -/
def conflicts (patch : Json) (o : Versioned) : Bool :=
  match (Dict.get? patch.fields "metadata").bind fun metadata =>
      Dict.get? metadata.fields "resourceVersion" with
  | some (.str rv) => rv ≠ "" ∧ rv ≠ o.rv
  | _ => false

/-- Store a new version of the object, if its resource version is fresh. -/
def Server.store (s : Server) (rv : String) (body : Json) : Option (Versioned × Server) :=
  if h : rv ≠ "" ∧ rv ∉ s.used then
    some (⟨rv, h.1, body⟩, { s with
      object := some ⟨rv, h.1, body⟩
      used := rv :: s.used
      known := by rintro o ⟨⟩; exact List.mem_cons_self })
  else none

/-- `K8sApiError` of the status codes the API server answers with. -/
def notFound : Exc := .k8sApi 404 "Not Found" ""

/-- The optimistic-concurrency conflict of the API server. -/
def conflict : Exc := .k8sApi 409 "Conflict" "the object has been modified"

/-- A merge patch of the object at the API server. -/
def Server.patch (s : Server) (patch : Json) (rv : String) :
    Option (Except Exc Json × Server) :=
  match s.object with
  | none => some (.error notFound, s)
  | some o =>
      if conflicts patch o then some (.error conflict, s)
      else (s.store rv (o.json.mergePatch patch)).map fun (o', s') =>
        (.ok o'.json, { s' with applied := s.applied ++ [⟨o, patch⟩] })

/-- `payload.setdefault("metadata", {})["resourceVersion"] = rv`. -/
def setResourceVersion (payload rv : Json) : Except Exc Json := do
  let (payload, metadata) ← payload.setDefault "metadata" (.obj [])
  let metadata ← metadata.setItem "resourceVersion" rv
  payload.setItem "metadata" metadata

/-- The API server, its other clients and the heap. -/
def world : World ApiCall ApiCall.Resp Exc Reply EnvWrite Server where
  exec _ r x s :=
    match r, x with
    | .deepcopy dict, _ =>
        some (.ok s.heap.length, { s with heap := s.heap ++ [(s.heap[dict]?).getD .null] })
    | .setResourceVersion payload rv, _ =>
        match K8s.setResourceVersion ((s.heap[payload]?).getD .null) rv with
        | .ok value => some (.ok (), { s with heap := s.heap.set payload value })
        | .error e => some (.error e, s)
    | .get, .answer _ =>
        match s.object with
        | some o => some (.ok o.json, s)
        | none => some (.error notFound, s)
    | .patch payload, .answer rv => s.patch ((s.heap[payload]?).getD .null) rv
    | .patchStatus body, .answer rv =>
        s.patch (.obj [("status", (Dict.get? body.fields "status").getD .null)]) rv
    | _, .fail status reason message => some (.error (.k8sApi status reason message), s)
  env e s :=
    match e with
    | .put rv body => (s.store rv body).map Prod.snd
    | .delete => some { s with object := none, known := nofun }

/-- The programs of the client. -/
abbrev ApiProgram (α : Type) : Type := Coroutine ApiCall ApiCall.Resp Exc α

/-- Make one call. -/
abbrev api (r : ApiCall) : ApiProgram r.Resp := Coroutine.call r

/-- The label check: the workspace label is still the one the caller was authorised for. -/
def assertLabelUnchanged (message expected : String) (current : Json) : Except Exc Unit := do
  match ← crLabel current with
  | .str actual =>
      if actual = expected then return () else throw (.k8sApi 409 "Conflict" message)
  | _ => throw (.k8sApi 409 "Conflict" message)

/-- The attempts of `_patch_with_resource_version`, by how many are left. -/
def patchAttempts (verify : Json → Except Exc Unit) (body : ℕ) : ℕ → Option Exc → ApiProgram Json
  | 0, lastErr => throw (lastErr.getD (.k8sApi 500 "InternalError" "patch retry exhausted"))
  | n + 1, _ => do
      let current ← api .get
      Coroutine.lift (verify current)
      let rv ← Coroutine.lift (crResourceVersion current)
      let payload ← api (.deepcopy body)
      if rv.truthy then api (.setResourceVersion payload rv)
      (api (.patch payload)).tryCatch fun
        | .k8sApi status reason message =>
            if status ≠ 409 ∨ n = 0 then throw (.k8sApi status reason message)
            else patchAttempts verify body n (some (.k8sApi status reason message))
        | e => throw e

/-- `_patch_with_resource_version`. -/
def patchWithResourceVersion (verify : Json → Except Exc Unit) (body : ℕ) : ApiProgram Json :=
  patchAttempts verify body patchMaxAttempts none

/-- The text of a failed label check. -/
def labelChangedMessage (object apply : String) : String :=
  "Workspace label on " ++ object ++ " changed between ACL check and " ++ apply
    ++ "; refusing to apply."

/-- The `verify` callback of `_patch_cluster_sync` and `_patch_template_sync`. -/
def verifyLabel (object : String) (expectedWorkspaceId : Option String) (current : Json) :
    Except Exc Unit :=
  match expectedWorkspaceId with
  | none => .ok ()
  | some expected => assertLabelUnchanged (labelChangedMessage object "patch") expected current

/-- `_patch_cluster_sync`. -/
def patchCluster (namespace_ name : String) (body : ℕ) (expectedWorkspaceId : Option String) :
    ApiProgram Json :=
  patchWithResourceVersion
    (verifyLabel ("cluster " ++ namespace_ ++ "/" ++ name) expectedWorkspaceId) body

/-- `_patch_template_sync`. -/
def patchTemplate (name : String) (body : ℕ) (expectedWorkspaceId : Option String) :
    ApiProgram Json :=
  patchWithResourceVersion (verifyLabel ("template " ++ name) expectedWorkspaceId) body

/-- `_wrap_api_exception` of an exception that is no `ApiException`. -/
def wrapApiException : Exc → Exc
  | .k8sApi status reason message => .k8sApi status reason message
  | e => if e.isException then .k8sApi 500 "InternalError" "Internal server error" else e

/-- `_patch_cluster_status_sync`. -/
def patchClusterStatus (namespace_ name : String) (statusPatch : Json)
    (expectedWorkspaceId : Option String) : ApiProgram Json :=
  Coroutine.tryCatch (do
    match expectedWorkspaceId with
    | none => api (.patchStatus (.obj [("status", statusPatch)]))
    | some expected => do
        let current ← api .get
        Coroutine.lift (assertLabelUnchanged
          (labelChangedMessage ("cluster " ++ namespace_ ++ "/" ++ name) "status patch")
          expected current)
        api (.patchStatus (.obj [("status", statusPatch)])))
    fun e => throw (wrapApiException e)

end ClusterManager.K8s
