import Mathlib.Data.List.Sort
import Mathlib.Data.Int.Order.Basic
import ClusterManager.K8s.CustomResource

/-!
# What the API makes of a custom resource

`extractSummary` is a row of the cluster list and `extractHealth` the health of a cluster. A value
of the wrong type is refused by the response model. The age of a resource, which only the clock
decides, is left out; so is the reading of numbers from text, which the CRD's schema excludes.
-/

namespace ClusterManager.K8s

/-- A field declared `str`. -/
def asStr : Json → Except Exc String
  | .str s => .ok s
  | _ => .error .validationError

/-- A field declared `int`. -/
def asInt : Json → Except Exc ℤ
  | .num n => .ok n
  | .bool b => .ok (if b then 1 else 0)
  | _ => .error .validationError

/-- A field declared `bool`. -/
def asBool : Json → Except Exc Bool
  | .bool b => .ok b
  | .num 0 => .ok false
  | .num 1 => .ok true
  | _ => .error .validationError

/-- A field declared `str | None`. -/
def asOptionalStr : Json → Except Exc (Option String)
  | .null => .ok none
  | value => (asStr value).map some

/-- A field declared `Field(min_length=1)`. -/
def nonEmpty (s : String) : Except Exc String :=
  if s = "" then .error .validationError else .ok s

/-- `K8sClusterSummary`. -/
structure K8sClusterSummary where
  name : String
  namespace_ : String
  size : ℤ
  image : String
  phase : String
  connectionId : Option String
  autoConnectWarning : Option String := none
  templateDrifted : Option Bool
  failedReconcileCount : ℤ
  deriving DecidableEq

/-- `template_drifted` of a summary: unknown without a snapshot of the template. -/
def templateDrifted (templateSnapshot : Json) : Except Exc (Option Bool) :=
  if templateSnapshot.truthy then
    (templateSnapshot.get "synced" (.bool true)).map fun synced => some !synced.truthy
  else .ok none

/-- `extract_summary`. -/
def extractSummary (item : Json) (connectionId : Option String) : Except Exc K8sClusterSummary := do
  let metadata ← item.get "metadata" (.obj [])
  let spec ← item.get "spec" (.obj [])
  let status ← item.get "status" (.obj [])
  let templateDrifted ← templateDrifted (← status.get "templateSnapshot" (.obj []))
  return {
    name := ← nonEmpty (← asStr (← metadata.get "name" (.str "")))
    namespace_ := ← nonEmpty (← asStr (← metadata.get "namespace" (.str "")))
    size := ← asInt (← spec.get "size" (.num 0))
    image := ← asStr (← spec.get "image" (.str ""))
    phase := ← asStr (← status.get "phase" (.str "Unknown"))
    connectionId, templateDrifted
    failedReconcileCount := ← asInt (← status.get "failedReconcileCount" (.num 0)) }

theorem nonEmpty_ok {s s' : String} (h : nonEmpty s = .ok s') : s' = s := by
  unfold nonEmpty at h
  split at h
  · cases h
  · exact (Except.ok.inj h).symm

/-- A summary carries the name and the namespace of its object, and the connection it was given. -/
theorem extractSummary_json {item metadata : Json} {name namespace_ : String}
    {connectionId : Option String} {summary : K8sClusterSummary}
    (hmetadata : item.get "metadata" (.obj []) = .ok metadata)
    (hname : metadata.get "name" (.str "") = .ok (.str name))
    (hnamespace : metadata.get "namespace" (.str "") = .ok (.str namespace_))
    (h : extractSummary item connectionId = .ok summary) :
    summary.name = name ∧ summary.namespace_ = namespace_ ∧
      summary.connectionId = connectionId := by
  rw [extractSummary, hmetadata, ok_bind] at h
  obtain ⟨spec, -, h⟩ := exists_of_bind_ok h
  obtain ⟨status, -, h⟩ := exists_of_bind_ok h
  obtain ⟨snapshot, -, h⟩ := exists_of_bind_ok h
  obtain ⟨drifted, -, h⟩ := exists_of_bind_ok h
  rw [hname, ok_bind, asStr, ok_bind] at h
  obtain ⟨name', hname', h⟩ := exists_of_bind_ok h
  rw [hnamespace, ok_bind, asStr, ok_bind] at h
  obtain ⟨namespace', hnamespace', h⟩ := exists_of_bind_ok h
  obtain ⟨_, -, h⟩ := exists_of_bind_ok h
  obtain ⟨size, -, h⟩ := exists_of_bind_ok h
  obtain ⟨_, -, h⟩ := exists_of_bind_ok h
  obtain ⟨image, -, h⟩ := exists_of_bind_ok h
  obtain ⟨_, -, h⟩ := exists_of_bind_ok h
  obtain ⟨phase, -, h⟩ := exists_of_bind_ok h
  obtain ⟨_, -, h⟩ := exists_of_bind_ok h
  obtain ⟨failed, -, h⟩ := exists_of_bind_ok h
  obtain rfl := Except.ok.inj h
  exact ⟨nonEmpty_ok hname', nonEmpty_ok hnamespace', rfl⟩

/-- The summary of an admitted CR carries its name and the connection it was given. -/
theorem extractSummary_ok {cr : CustomResource} {connectionId : Option String}
    {summary : K8sClusterSummary} (h : extractSummary cr.json connectionId = .ok summary) :
    summary.name = cr.name ∧ summary.namespace_ = cr.namespace_ ∧
      summary.connectionId = connectionId :=
  extractSummary_json rfl rfl rfl h

/-! ### Health -/

/-- `value.values()`. -/
def values : Json → Except Exc (List Json)
  | .obj fields => .ok (fields.map Prod.snd)
  | _ => .error .typeError

/-- What iterating over a value gives, if each element is to have a `get`. -/
def elements : Json → Except Exc (List Json)
  | .arr items => .ok items
  | .obj [] => .ok []
  | .str s => if s = "" then .ok [] else .error .typeError
  | _ => .error .typeError

/-- `len(value)`. -/
def len : Json → Except Exc ℕ
  | .arr items => .ok items.length
  | .obj fields => .ok fields.length
  | .str s => .ok s.length
  | _ => .error .typeError

/-- `value == n`. -/
def eqInt (value : Json) (n : ℤ) : Bool :=
  match asInt value with
  | .ok k => k == n
  | .error _ => false

/-- `value == "text"`. -/
def eqText (value : Json) (text : String) : Bool :=
  match value with
  | .str s => s == text
  | _ => false

theorem eqText_iff {value : Json} {text : String} : eqText value text = true ↔ value = .str text := by
  cases value <;> simp [eqText]

/-- `RackDistribution`. -/
structure RackDistribution where
  id : ℤ
  total : ℕ
  ready : ℕ
  deriving DecidableEq

/-- `compute_rack_distribution`. -/
def computeRackDistribution (pods : List Json) : Except Exc (List RackDistribution) := do
  let racks ← pods.foldlM (fun (racks : Dict ℤ RackDistribution) podInfo => do
    let rackId ← asInt (← podInfo.get "rack" (.num 0))
    let rack := (racks.get? rackId).getD ⟨rackId, 0, 0⟩
    let ready := (← podInfo.get "isRunningAndReady").truthy
    return racks.set rackId
      { rack with total := rack.total + 1, ready := rack.ready + if ready then 1 else 0 }) []
  return (racks.map Prod.snd).insertionSort fun a b => a.id ≤ b.id

/-- `ClusterHealthResponse`. -/
structure ClusterHealth where
  phase : String
  totalPods : ℕ
  readyPods : ℕ
  desiredPods : ℤ
  migrating : Bool
  available : Bool
  configApplied : Bool
  aclSynced : Bool
  failedReconcileCount : ℤ
  pendingRestartCount : ℕ
  rackDistribution : List RackDistribution
  splitBrainDetected : Bool
  deriving DecidableEq

/-- `{c.get("type"): c.get("status") == "True" for c in conditions}`, for the types that are
strings. -/
def conditionMap (conditions : List Json) : Except Exc (Dict String Bool) :=
  conditions.foldlM (fun d c => do
    let met := match ← c.get "status" with
      | .str status => status == "True"
      | _ => false
    match ← c.get "type" with
    | .str type => return d.set type met
    | .arr _ | .obj _ => throw .typeError
    | _ => return d) []

/-- `extract_health`. -/
def extractHealth (item : Json) : Except Exc ClusterHealth := do
  let status ← item.get "status" (.obj [])
  let spec ← item.get "spec" (.obj [])
  let pods ← values (← status.get "pods" (.obj []))
  let ready ← filterE (fun p => return (← p.get "isRunningAndReady").truthy) pods
  let conditions ← conditionMap (← elements (← status.get "conditions" (.arr [])))
  let phase ← asStr (← status.get "phase" (.str "Unknown"))
  let specSize ← asInt (← spec.get "size" (.num 0))
  let statusSize ← status.get "size" (.num 0)
  let aerospikeClusterSize ← status.get "aerospikeClusterSize"
  let splitBrainDetected := match aerospikeClusterSize with
    | .null => false
    | size => phase = "Completed" ∧ 0 < specSize ∧ eqInt statusSize specSize ∧ !eqInt size specSize
  return {
    phase
    totalPods := pods.length
    readyPods := ready.length
    desiredPods := specSize
    migrating := !(conditions.get? "MigrationComplete").getD true
    available := (conditions.get? "Available").getD false
    configApplied := (conditions.get? "ConfigApplied").getD false
    aclSynced := (conditions.get? "ACLSynced").getD true
    failedReconcileCount := ← asInt (← status.get "failedReconcileCount" (.num 0))
    pendingRestartCount := ← len (← status.get "pendingRestartPods" (.arr []))
    rackDistribution := ← computeRackDistribution pods
    splitBrainDetected }

end ClusterManager.K8s
