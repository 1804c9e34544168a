import ClusterManager.K8s.TemplateSpec
import ClusterManager.Ui.Validations

/-!
# The form of a new cluster

What the steps of the wizard ask of the form of a new cluster, and what a template brings into it.

`accepted_iff` says what is still left for the API to refuse in a form that passed the steps, of what
it asks of the fields that the steps look at: the resources and the replication factors fit, but not
every namespace, image and name does.
-/

namespace ClusterManager.Ui

/-! ### The form -/

/-- `CreateK8sClusterRequest`, as the wizard fills it in. `advanced` is what only the step for
advanced settings writes. -/
structure CreateForm where
  name : String := ""
  namespace_ : String := ""
  size : ℤ := 1
  image : String := "aerospike:ce-8.1.1.1"
  autoConnect : Bool := true
  resources : Option Resources := some {
    requests := some { cpu := some "500m", memory := some "1Gi" }
    limits := some { cpu := some "2", memory := some "4Gi" } }
  namespaces : List (AerospikeNamespaceConfig Json) := [{
    name := "test"
    replicationFactor := some 1
    storageEngine := some (.obj [("type", .str "memory"), ("dataSize", .num 1073741824)]) }]
  storage : Option Json := some (.obj [
    ("storageClass", .str "standard"), ("size", .str "10Gi"),
    ("mountPath", .str "/opt/aerospike/data")])
  monitoring : Option Json := none
  templateRef : Option String := none
  templateOverrides : Option Json := none
  workspaceId : Option String := none
  advanced : Dict String Json := []

/-- A text under a key. -/
def text? (value : Json) (key : String) : Option String :=
  match value.under key with
  | .str s => some s
  | _ => none

/-- `value && typeof value === "object"`, of what stands under a key. -/
def object? (value : Json) (key : String) : Option Json :=
  match value.under key with
  | .obj fields => some (.obj fields)
  | .arr items => some (.arr items)
  | _ => none

/-- Requests or limits. -/
def Quantities.ofJson (value : Json) : Quantities where
  cpu := text? value "cpu"
  memory := text? value "memory"

/-- A template's `resources`, as the wizard reads them. -/
def Resources.ofJson (value : Json) : Resources where
  requests := (object? value "requests").map Quantities.ofJson
  limits := (object? value "limits").map Quantities.ofJson

/-- `buildFormUpdatesFromTemplate`, applied to the form. -/
def CreateForm.withTemplate (form : CreateForm) (spec : Json) (name : String) : CreateForm where
  __ := form
  templateRef := some name
  image := (text? spec "image").getD form.image
  size :=
    match spec.under "size" with
    | .num size => if 1 ≤ size ∧ size ≤ maxNodes then size else form.size
    | _ => form.size
  resources := ((object? spec "resources").map Resources.ofJson).or form.resources
  monitoring := (object? spec "monitoring").or form.monitoring
  storage := (object? spec "storage").or form.storage

/-! ### The steps -/

/-- `form.resources?.requests` and `form.resources?.limits`. -/
def CreateForm.requests (form : CreateForm) : Quantities :=
  (form.resources.bind (·.requests)).getD {}

def CreateForm.limits (form : CreateForm) : Quantities :=
  (form.resources.bind (·.limits)).getD {}

/-- An error of a check, after the label of its field. -/
def labelled (label : String) (error : Option String) : Option String :=
  error.map fun e => label ++ ": " ++ e

/-- The error, if the condition holds. -/
def errorIf (condition : Bool) (error : String) : Option String :=
  if condition then some error else none

/-- What both modes ask for: a name and a namespace. -/
def CreateForm.nameError (form : CreateForm) : Option String :=
  (labelled "Name" (validateK8sName form.name.toList)).or
    (errorIf (form.namespace_ = "") "Kubernetes namespace is required")

/-- The step "Basic & Resources". -/
def CreateForm.basicError (form : CreateForm) : Option String :=
  form.nameError
  |>.or (errorIf (form.size < 1 ∨ maxNodes < form.size)
      ("Size must be between 1 and " ++ toString maxNodes))
  |>.or (validateImageNotEnterprise form.image.toList)
  |>.or (labelled "CPU request" (validateK8sCpu (form.requests.cpu.getD "")))
  |>.or (labelled "CPU limit" (validateK8sCpu (form.limits.cpu.getD "")))
  |>.or (labelled "Memory request" (validateK8sMemory (form.requests.memory.getD "")))
  |>.or (labelled "Memory limit" (validateK8sMemory (form.limits.memory.getD "")))
  |>.or (errorIf
      (parseCpuMillis (form.limits.cpu.getD "0") < parseCpuMillis (form.requests.cpu.getD "0"))
      "CPU limit must be >= CPU request")
  |>.or (errorIf
      (parseMemoryBytes (form.limits.memory.getD "0") <
        parseMemoryBytes (form.requests.memory.getD "0"))
      "Memory limit must be >= Memory request")

/-- The step "Namespace & Storage". -/
def CreateForm.namespacesError (form : CreateForm) : Option String :=
  validateNamespaces form.namespaces form.size

/-! ### What the API accepts -/

/-- `ResourceSpec`, of what the form sends. -/
def Quantities.spec (quantities : Quantities) : K8s.ResourceSpec where
  cpu := quantities.cpu.getD "1"
  memory := quantities.memory.getD "2Gi"

/-- `ResourceConfig`, of what the form sends. -/
def Resources.config (resources : Resources) : K8s.ResourceConfig where
  requests := (resources.requests.map Quantities.spec).getD { cpu := "500m", memory := "1Gi" }
  limits := (resources.limits.map Quantities.spec).getD { cpu := "2", memory := "4Gi" }

/-- The constraints of `AerospikeNamespaceConfig`. -/
def NamespaceAccepted (ns : AerospikeNamespaceConfig Json) : Prop :=
  1 ≤ ns.name.toList.length ∧ ns.name.toList.length ≤ 63 ∧ 1 ≤ ns.rf ∧ ns.rf ≤ 8

/-- The constraints of `CreateK8sClusterRequest` on the fields the steps look at. -/
structure CreateForm.Accepted (form : CreateForm) : Prop where
  name : 1 ≤ form.name.toList.length ∧ form.name.toList.length ≤ 63 ∧ k8sNameRe form.name.toList
  namespace_ : 1 ≤ form.namespace_.toList.length ∧ form.namespace_.toList.length ≤ 253 ∧
    k8sNameRe form.namespace_.toList
  size : 1 ≤ form.size ∧ form.size ≤ 8
  image : K8s.isImage form.image
  namespaces : form.namespaces.length ≤ 2 ∧ ∀ ns ∈ form.namespaces, NamespaceAccepted ns
  resources : ∀ r ∈ form.resources, r.config.Valid
  /-- `replication_factor_lte_size`. -/
  replication : ∀ ns ∈ form.namespaces, ns.rf ≤ form.size

/-- What the steps leave to the API: the forms of the namespace and the image, the length of the
names, and the least replication factor. -/
structure CreateForm.LeftToApi (form : CreateForm) : Prop where
  namespace_ : form.namespace_.toList.length ≤ 253 ∧ k8sNameRe form.namespace_.toList
  image : K8s.isImage form.image
  namespaces : ∀ ns ∈ form.namespaces, ns.name.toList.length ≤ 63 ∧ 1 ≤ ns.rf

/-! ### What a step has checked -/

variable {form : CreateForm}

@[simp] theorem labelled_eq_none {label : String} {error : Option String} :
    labelled label error = none ↔ error = none := Option.map_eq_none_iff

@[simp] theorem errorIf_eq_none {condition : Bool} {error : String} :
    errorIf condition error = none ↔ condition = false := by
  cases condition <;> simp [errorIf]

theorem length_le_utf16Length (s : Str) : s.length ≤ utf16Length s := by
  induction s with
  | nil => exact Nat.le_refl 0
  | cons c s ih =>
    have hcons : utf16Length (c :: s) = (if c.toNat < 0x10000 then 1 else 2) + utf16Length s := by
      simp [utf16Length]
    rw [hcons, List.length_cons]
    split <;> omega

theorem validateK8sName_eq_none {value : Str} (h : validateK8sName value = none) :
    1 ≤ value.length ∧ value.length ≤ 63 ∧ k8sNameRe value := by
  unfold validateK8sName at h
  split at h
  · cases h
  next hne =>
    split at h
    · cases h
    next hlen =>
      split at h
      · cases h
      next hre =>
        have hle := length_le_utf16Length value
        refine ⟨List.length_pos_iff.2 hne, by omega, ?_⟩
        simpa using hre

theorem validateK8sCpu_eq_none {value : String} (h : validateK8sCpu value = none) :
    value ≠ "" ∧ (K8s.parseCpuMillis value).isSome := by
  unfold validateK8sCpu at h
  split at h
  · cases h
  next hne =>
    split at h
    · cases h
    next hsome => exact ⟨hne, by simpa [Option.isSome_iff_ne_none] using hsome⟩

theorem validateK8sMemory_eq_none {value : String} (h : validateK8sMemory value = none) :
    value ≠ "" ∧ (K8s.memoryValue value.toList).isSome := by
  unfold validateK8sMemory at h
  split at h
  · cases h
  next hne =>
    split at h
    · cases h
    next hsome => exact ⟨hne, by simpa [Option.isSome_iff_ne_none] using hsome⟩

/-- A quantity that passed is given. -/
theorem given_of_getD {quantity : Option String} (h : quantity.getD "" ≠ "") :
    ∃ value, quantity = some value := by
  cases quantity with
  | none => exact absurd rfl h
  | some value => exact ⟨value, rfl⟩

/-- Quantities that passed, and what the API reads in them. -/
theorem quantities_checked {quantities : Quantities}
    (hcpu : validateK8sCpu (quantities.cpu.getD "") = none)
    (hmemory : validateK8sMemory (quantities.memory.getD "") = none) :
    quantities.spec.Valid ∧ quantities.cpu = some quantities.spec.cpu ∧
      quantities.memory = some quantities.spec.memory := by
  obtain ⟨hcpu, hcpuForm⟩ := validateK8sCpu_eq_none hcpu
  obtain ⟨hmemory, hmemoryForm⟩ := validateK8sMemory_eq_none hmemory
  obtain ⟨cpu, hcpu⟩ := given_of_getD hcpu
  obtain ⟨memory, hmemory⟩ := given_of_getD hmemory
  rw [hcpu] at hcpuForm
  rw [hmemory] at hmemoryForm
  have hspec : quantities.spec = ⟨cpu, memory⟩ := by simp [Quantities.spec, hcpu, hmemory]
  rw [hspec]
  exact ⟨⟨hcpuForm, hmemoryForm⟩, hcpu, hmemory⟩

/-- The floors of two quantities are ordered as the quantities are. -/
theorem floor_memory_mono {a b : String} (h : ¬parseMemoryBytes b < parseMemoryBytes a) :
    K8s.parseMemoryBytes a ≤ K8s.parseMemoryBytes b := by
  have hfloor : ∀ mem : String, K8s.parseMemoryBytes mem = ⌊parseMemoryBytes mem⌋ := by
    intro mem
    unfold K8s.parseMemoryBytes parseMemoryBytes
    cases K8s.memoryValue mem.toList with
    | none => simp
    | some value => rfl
  rw [hfloor, hfloor]
  exact Int.floor_le_floor (not_lt.1 h)

/-- Where a step found a quantity, the form has the resources it stands in. -/
theorem requests_of_cpu {cpu : String} (h : form.requests.cpu = some cpu) {r : Resources}
    (hr : r ∈ form.resources) : r.requests = some form.requests := by
  rw [Option.mem_def] at hr
  cases hrequests : r.requests with
  | none => simp [CreateForm.requests, hr, hrequests] at h
  | some quantities => simp [CreateForm.requests, hr, hrequests]

theorem limits_of_cpu {cpu : String} (h : form.limits.cpu = some cpu) {r : Resources}
    (hr : r ∈ form.resources) : r.limits = some form.limits := by
  rw [Option.mem_def] at hr
  cases hlimits : r.limits with
  | none => simp [CreateForm.limits, hr, hlimits] at h
  | some quantities => simp [CreateForm.limits, hr, hlimits]

theorem basicError_eq_none (h : form.basicError = none) :
    (validateK8sName form.name.toList = none ∧ form.namespace_ ≠ "") ∧
      (1 ≤ form.size ∧ form.size ≤ 8) ∧ ∀ r ∈ form.resources, r.config.Valid := by
  simp only [CreateForm.basicError, CreateForm.nameError, Option.or_eq_none_iff, labelled_eq_none,
    errorIf_eq_none, decide_eq_false_iff_not] at h
  obtain ⟨⟨⟨⟨⟨⟨⟨⟨⟨hname, hnamespace⟩, hsize⟩, -⟩, hcpuRequest⟩, hcpuLimit⟩, hmemoryRequest⟩,
    hmemoryLimit⟩, hcpu⟩, hmemory⟩ := h
  refine ⟨⟨hname, hnamespace⟩, ?_, fun r hr => ?_⟩
  · unfold maxNodes at hsize
    omega
  · obtain ⟨hrequests, hcpuRequest, hmemoryRequest⟩ := quantities_checked hcpuRequest hmemoryRequest
    obtain ⟨hlimits, hcpuLimit, hmemoryLimit⟩ := quantities_checked hcpuLimit hmemoryLimit
    have hconfig : r.config = ⟨form.requests.spec, form.limits.spec⟩ := by
      simp [Resources.config, requests_of_cpu hcpuRequest hr, limits_of_cpu hcpuLimit hr]
    rw [hcpuRequest, hcpuLimit] at hcpu
    rw [hmemoryRequest, hmemoryLimit] at hmemory
    rw [hconfig]
    exact ⟨hrequests, hlimits, not_lt.1 hcpu, floor_memory_mono hmemory⟩

theorem ne_nil_of_trim {s : Str} (h : trim s ≠ []) : s ≠ [] := by
  rintro rfl
  exact h rfl

theorem namespacesError_eq_none (h : form.namespacesError = none) :
    form.namespaces.length ≤ 2 ∧
      ∀ ns ∈ form.namespaces, 1 ≤ ns.name.toList.length ∧ ns.rf ≤ form.size := by
  unfold CreateForm.namespacesError validateNamespaces at h
  dsimp only at h
  split at h
  · cases h
  · split at h
    · cases h
    next hlen =>
      split at h
      · cases h
      next hnames =>
        split at h
        · cases h
        · refine ⟨not_lt.1 hlen, fun ns hns => ⟨?_, ?_⟩⟩
          · refine List.length_pos_iff.2 (ne_nil_of_trim fun htrim => hnames ?_)
            refine List.any_eq_true.2 ⟨_, List.mem_map_of_mem hns, ?_⟩
            simp [htrim]
          · by_contra hrf
            have := List.findSome?_eq_none_iff.1 h ns hns
            rw [if_pos (not_le.1 hrf)] at this
            cases this

/-- Of a form that passed its steps, the API accepts exactly those in which it accepts what the
steps leave to it. -/
theorem accepted_iff (form : CreateForm) (hbasic : form.basicError = none)
    (hnamespaces : form.namespacesError = none) : form.Accepted ↔ form.LeftToApi := by
  obtain ⟨⟨hname, hnamespace⟩, hsize, hresources⟩ := basicError_eq_none hbasic
  obtain ⟨hcount, hchecked⟩ := namespacesError_eq_none hnamespaces
  constructor
  · intro h
    refine ⟨h.namespace_.2, h.image, fun ns hns => ?_⟩
    obtain ⟨-, hlen, hrf, -⟩ := h.namespaces.2 ns hns
    exact ⟨hlen, hrf⟩
  · intro h
    refine ⟨validateK8sName_eq_none hname, ⟨?_, h.namespace_⟩, hsize, h.image,
      ⟨hcount, fun ns hns => ?_⟩, hresources, fun ns hns => (hchecked ns hns).2⟩
    · refine List.length_pos_iff.2 fun hnil => hnamespace ?_
      rwa [String.toList_eq_nil_iff] at hnil
    · obtain ⟨hlen, hrf⟩ := h.namespaces ns hns
      obtain ⟨hpos, hle⟩ := hchecked ns hns
      exact ⟨hpos, hlen, hrf, hle.trans hsize.2⟩

end ClusterManager.Ui
