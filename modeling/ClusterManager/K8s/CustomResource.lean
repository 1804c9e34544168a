import ClusterManager.Json

/-!
# Custom resources

The parts of an AerospikeCluster CR the access rules look at: the workspace label
(`crWorkspaceId`) and the resource version. A `CustomResource` is a CR the API server has
validated, and `json` what it sends for it; `Versioned` adds the resource version.
-/

namespace ClusterManager.K8s

/-- `WORKSPACE_LABEL`. -/
def workspaceLabel : String := "acm.aerospike.com/workspace"

/-- `item.get("metadata", {}) or {}`. -/
def crMetadata (item : Json) : Except Exc Json := do
  return (← item.get "metadata" (.obj [])).or (.obj [])

/-- `((item.get("metadata", {}) or {}).get("labels") or {}).get(WORKSPACE_LABEL)`. -/
def crLabel (item : Json) : Except Exc Json := do
  let labels := (← (← crMetadata item).get "labels").or (.obj [])
  labels.get workspaceLabel

/-- `cr_workspace_id`: the workspace a CR is labelled with, if any. -/
def crWorkspaceId (item : Json) : Except Exc (Option String) := do
  match ← crLabel item with
  | .str raw => return if raw = "" then none else some raw
  | _ => return none

/-- `(item.get("metadata", {}) or {}).get("resourceVersion")`. -/
def crResourceVersion (item : Json) : Except Exc Json := do
  (← crMetadata item).get "resourceVersion"

/-- An object as the API server stores it: its current resource version, never empty, and the
rest. -/
structure Versioned where
  rv : String
  rv_ne : rv ≠ ""
  body : Json

/-- The object as the API server sends it: the resource version stands in the metadata. -/
def Versioned.json (o : Versioned) : Json :=
  let metadata := ((Dict.get? o.body.fields "metadata").getD .null).fields
  .obj (Dict.set o.body.fields "metadata"
    (.obj (Dict.set metadata "resourceVersion" (.str o.rv))))

/-- A CR the API server has admitted: its metadata are what Kubernetes requires of them. -/
structure CustomResource where
  namespace_ : String
  name : String
  namespace_ne : namespace_ ≠ ""
  name_ne : name ≠ ""
  labels : Dict String String
  metadata : Dict String Json := []
  fields : Dict String Json := []

/-- A CR named `db` in a namespace `prod`. -/
def CustomResource.prodDb (labels : Dict String String) : CustomResource where
  namespace_ := "prod"
  name := "db"
  namespace_ne := by decide
  name_ne := by decide
  labels := labels

/-- A CR named `db` in a namespace `dev`. -/
def CustomResource.devDb (labels : Dict String String) : CustomResource where
  namespace_ := "dev"
  name := "db"
  namespace_ne := by decide
  name_ne := by decide
  labels := labels

/-- The CR as the API server sends it. -/
def CustomResource.json (cr : CustomResource) : Json :=
  .obj (("metadata", .obj (("name", .str cr.name) :: ("namespace", .str cr.namespace_) ::
    ("labels", .obj (cr.labels.map fun (key, value) => (key, .str value))) :: cr.metadata)) ::
      cr.fields)

/-- The workspace a CR is labelled with. -/
def CustomResource.workspaceId (cr : CustomResource) : Option String :=
  (cr.labels.get? workspaceLabel).filter (· ≠ "")

theorem truthy_set {d : Dict String Json} {key : String} {value : Json} :
    (Json.obj (Dict.set d key value)).truthy = true := by
  cases d with
  | nil => rfl
  | cons p d =>
    simp only [Json.truthy, Dict.set]
    split <;> rfl

theorem or_of_truthy {a b : Json} (h : a.truthy = true) : a.or b = a := if_pos h

/-- The metadata of an object that the API server sent. -/
theorem crMetadata_json (o : Versioned) :
    crMetadata o.json = .ok (.obj (Dict.set
      ((Dict.get? o.body.fields "metadata").getD .null).fields "resourceVersion" (.str o.rv))) := by
  simp only [crMetadata, Versioned.json, Json.get, Dict.get?_set_self, Option.getD_some, bind,
    Except.bind, pure, Except.pure]
  rw [or_of_truthy truthy_set]

/-- An object that the API server sent carries its resource version. -/
theorem crResourceVersion_json (o : Versioned) : crResourceVersion o.json = .ok (.str o.rv) := by
  simp [crResourceVersion, crMetadata_json, bind, Except.bind, Json.get]

/-- A workspace of a CR is its label, and not empty. -/
theorem crWorkspaceId_eq_some {item : Json} {workspaceId : String}
    (h : crWorkspaceId item = .ok (some workspaceId)) :
    crLabel item = .ok (.str workspaceId) ∧ workspaceId ≠ "" := by
  obtain ⟨label, hlabel, h⟩ := exists_of_bind_ok h
  cases label with
  | str raw =>
    by_cases hraw : raw = "" <;> simp [hraw, pure, Except.pure] at h
    subst h
    exact ⟨hlabel, hraw⟩
  | _ => cases h

namespace CustomResource

theorem get?_labels {labels : Dict String String} {key : String} :
    Dict.get? (labels.map fun (key, value) => (key, Json.str value)) key =
      (labels.get? key).map Json.str :=
  Dict.get?_map_value

theorem crMetadata_eq (cr : CustomResource) : crMetadata cr.json =
    .ok (.obj (("name", .str cr.name) :: ("namespace", .str cr.namespace_) ::
      ("labels", .obj (cr.labels.map fun (key, value) => (key, .str value))) :: cr.metadata)) := rfl

/-- The namespace of an admitted CR is where the code looks for it. -/
theorem namespace_eq (cr : CustomResource) :
    (do (← crMetadata cr.json).get "namespace") = Except.ok (Json.str cr.namespace_) := by
  rw [crMetadata_eq]
  rfl

/-- The workspace label of an admitted CR is where the code looks for it. -/
theorem crWorkspaceId_eq (cr : CustomResource) : crWorkspaceId cr.json = .ok cr.workspaceId := by
  have hlabel : crLabel cr.json =
      .ok (((cr.labels.get? workspaceLabel).map Json.str).getD .null) := by
    rw [← get?_labels, ← Json.get_obj, crLabel, crMetadata_eq]
    generalize cr.labels = labels
    cases labels <;> rfl
  rw [crWorkspaceId, hlabel, workspaceId]
  cases cr.labels.get? workspaceLabel with
  | none => rfl
  | some raw =>
    by_cases hraw : raw = "" <;>
      simp [bind, Except.bind, pure, Except.pure, hraw, Option.filter]

end CustomResource

end ClusterManager.K8s
