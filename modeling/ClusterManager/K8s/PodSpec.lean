import ClusterManager.K8s.Leaves
import ClusterManager.K8s.Sizing

/-!
# The pod of a cluster

The scheduling, the metadata, the sidecars and the init containers of a request all go into one pod
spec, and `build_cr` and `build_update_patch` put them there in the same steps. The CRD has a key
and a shape for each leaf of them; here is which of them arrive under it.
-/

namespace ClusterManager.K8s.Build

open Json

/-! ### What the CRD asks for -/

/-- The part of a request that describes the pod. -/
structure PodInputs where
  podScheduling : Option PodSchedulingConfig := none
  podMetadata : Option PodMetadataConfig := none
  sidecars : Option (List SidecarConfig) := none
  initContainers : Option (List SidecarConfig) := none

def requestInputs (req : CreateK8sClusterRequest) : PodInputs where
  podScheduling := req.podScheduling
  podMetadata := req.podMetadata
  sidecars := req.sidecars
  initContainers := req.initContainers

def bodyInputs (body : UpdateK8sClusterRequest) : PodInputs where
  podScheduling := body.podScheduling
  podMetadata := body.podMetadata
  sidecars := body.sidecars
  initContainers := body.initContainers

/-- The metadata of pods in the CRD. -/
def crdMetadata (metadata : PodMetadataConfig) : Json :=
  .obj (present [
    ("labels", metadata.labels.map stringDict),
    ("annotations", metadata.annotations.map stringDict)])

/-- A toleration of the CRD. -/
def crdToleration (t : TolerationConfig) : Json :=
  .obj (present [
    ("key", t.key.map .str),
    ("operator", some (.str t.operator.text)),
    ("value", t.value.map .str),
    ("effect", t.effect.map fun effect => .str effect.text),
    ("tolerationSeconds", t.tolerationSeconds.map .num)])

/-- What scheduling sets, under the keys of the CRD. -/
def crdScheduling (sched : PodSchedulingConfig) : Dict String Json :=
  present [
    ("nodeSelector", sched.nodeSelector.map stringDict),
    ("tolerations", sched.tolerations.map fun items => .arr (items.map crdToleration)),
    ("multiPodPerHost", sched.multiPodPerHost.map .bool),
    ("hostNetwork", sched.hostNetwork.map .bool),
    ("serviceAccountName", sched.serviceAccountName.map .str),
    ("terminationGracePeriodSeconds", numOf sched.terminationGracePeriod),
    ("readinessGateEnabled", sched.readinessGateEnabled.map .bool),
    ("podManagementPolicy", sched.podManagementPolicy.map fun policy => .str policy.text),
    ("dnsPolicy", sched.dnsPolicy.map .str),
    ("imagePullSecrets", sched.imagePullSecrets.map fun secrets => .arr (secrets.map stringDict)),
    ("securityContext", sched.securityContext.map JsonDict.json),
    ("topologySpreadConstraints", sched.topologySpreadConstraints.map fun items =>
      .arr (items.map JsonDict.json)),
    ("metadata", sched.metadata.map crdMetadata),
    ("affinity", sched.affinity.map JsonDict.json),
    ("priorityClassName", sched.priorityClassName.map .str)]

/-- A container of the CRD. -/
def crdContainer (s : SidecarConfig) : Json :=
  .obj (present [
    ("name", some (.str s.name)),
    ("image", some (.str s.image)),
    ("command", s.command.map strings),
    ("args", s.args.map strings),
    ("ports", s.ports.map fun items => .arr (items.map JsonDict.json)),
    ("env", s.env.map fun items => .arr (items.map JsonDict.json)),
    ("volumeMounts", s.volumeMounts.map fun items => .arr (items.map JsonDict.json)),
    ("resources", s.resources.map JsonDict.json),
    ("securityContext", s.securityContext.map JsonDict.json)])

/-- The keys of a container in the CRD. -/
def containerKeys : List String :=
  ["name", "image", "command", "args", "ports", "env", "volumeMounts", "resources",
    "securityContext"]

/-- What each input sets in a pod spec of the CRD. -/
def PodInputs.crd (inputs : PodInputs) : List (Dict String Json) := [
  (inputs.podScheduling.map crdScheduling).getD [],
  present [("metadata", inputs.podMetadata.map crdMetadata)],
  present [("sidecars", inputs.sidecars.map fun items => .arr (items.map crdContainer))],
  present [("initContainers", inputs.initContainers.map fun items =>
    .arr (items.map crdContainer))]]

/-- What a pod spec lists under a key. -/
def itemsAt (podSpec : Dict String Json) (key : String) : List Json :=
  ((Dict.get? podSpec key).getD .null).items

/-- The shape of the CRD: a pull secret is one name, and a container has the keys it knows. -/
structure CrdShaped (podSpec : Dict String Json) : Prop where
  pullSecrets : ∀ secret ∈ itemsAt podSpec "imagePullSecrets",
    ∃ name, secret = .obj [("name", .str name)]
  containers : ∀ key ∈ ["sidecars", "initContainers"], ∀ container ∈ itemsAt podSpec key,
    ∀ k ∈ container.fields.map Prod.fst, k ∈ containerKeys

/-- Every leaf that an input sets is in the pod spec, where the CRD has it and with its shape. -/
structure Faithful (inputs : PodInputs) (podSpec : Dict String Json) : Prop where
  kept : ∀ part ∈ inputs.crd, Kept (some (.obj part)) (some (.obj podSpec))
  shaped : CrdShaped podSpec

/-- The pod spec of a CR or of a patch. -/
def podSpecAt (cr : Json) : Dict String Json := ((cr.at? ["spec", "podSpec"]).getD .null).fields

/-! ### What arrives -/

/-- Scheduling that is kept: no text is empty, and there are no pull secrets. -/
structure SchedulingPlaced (sched : PodSchedulingConfig) : Prop where
  serviceAccountName : sched.serviceAccountName ≠ some ""
  dnsPolicy : sched.dnsPolicy ≠ some ""
  priorityClassName : sched.priorityClassName ≠ some ""
  imagePullSecrets : sched.imagePullSecrets.getD [] = []

/-- A container that is kept: it sets neither of the fields whose key in the CRD is not their
name. -/
def ContainerPlaced (s : SidecarConfig) : Prop := s.volumeMounts = none ∧ s.securityContext = none

/-- Metadata whose labels and annotations other metadata have too. -/
structure Within (inner outer : PodMetadataConfig) : Prop where
  labels : ∀ key value, Dict.get? (inner.labels.getD []) key = some value →
    Dict.get? (outer.labels.getD []) key = some value
  annotations : ∀ key value, Dict.get? (inner.annotations.getD []) key = some value →
    Dict.get? (outer.annotations.getD []) key = some value

/-- Metadata that replace those of the scheduling. A builder that clears writes empty metadata
too. -/
def Replaces (clears : Bool) (metadata : PodMetadataConfig) : Prop :=
  clears = true ∨ metadata.labels.getD [] ≠ [] ∨ metadata.annotations.getD [] ≠ []

/-- Inputs that are kept. -/
structure PodInputs.Placed (clears : Bool) (inputs : PodInputs) : Prop where
  scheduling : ∀ sched, inputs.podScheduling = some sched → SchedulingPlaced sched
  containers : ∀ s ∈ inputs.sidecars.getD [] ++ inputs.initContainers.getD [], ContainerPlaced s
  metadata : ∀ sched inner outer, inputs.podScheduling = some sched →
    sched.metadata = some inner → inputs.podMetadata = some outer → Replaces clears outer →
      Within inner outer

/-! ### The steps of both builders -/

/-- The metadata that a builder writes. -/
def writtenMetadata (clears : Bool) (metadata : Option PodMetadataConfig) : Option Json :=
  (metadata.map fun m => orNull (buildPodMetadataDict m)).filter (clears || ·.truthy)

/-- The containers that a builder writes. -/
def writtenContainers (clears : Bool) (containers : Option (List SidecarConfig)) :
    Option (List SidecarConfig) :=
  containers.filter (clears || !·.isEmpty)

/-- A pod spec after the inputs went into it, in the order of the steps. -/
def assemble (clears : Bool) (base : Dict String Json) (inputs : PodInputs)
    (context : Option JsonDict) : Dict String Json :=
  base
    |> changed inputs.podScheduling (fun podSpec sched =>
        updateDict podSpec (buildPodScheduling sched))
    |> changed (writtenMetadata clears inputs.podMetadata) (fun podSpec metadata =>
        Dict.set podSpec "metadata" metadata)
    |> changed (writtenContainers clears inputs.sidecars) (fun podSpec sidecars =>
        Dict.set podSpec "sidecars" (buildSidecarList sidecars))
    |> changed (writtenContainers clears inputs.initContainers) (fun podSpec initContainers =>
        Dict.set podSpec "initContainers" (buildSidecarList initContainers))
    |> changed context (fun podSpec context => setContainer podSpec "securityContext" context.json)

theorem writtenMetadata_false (metadata : Option PodMetadataConfig) :
    writtenMetadata false metadata = whenTrue (metadata.map buildPodMetadataDict) := by
  cases metadata with
  | none => rfl
  | some m =>
    simp only [writtenMetadata, whenTrue, orNull, Option.map_some, Option.filter_some,
      Bool.false_or]
    cases h : (buildPodMetadataDict m).truthy with
    | true => simp [h]
    | false => rfl

theorem writtenMetadata_true (metadata : Option PodMetadataConfig) :
    writtenMetadata true metadata = metadata.map fun m => orNull (buildPodMetadataDict m) := by
  cases metadata <;> rfl

theorem writtenContainers_true (containers : Option (List SidecarConfig)) :
    writtenContainers true containers = containers := by
  cases containers <;> rfl

theorem podSpecOf_eq (req : CreateK8sClusterRequest) :
    podSpecOf req = assemble false
      (changed req.resources (fun _ resources =>
        [("aerospikeContainer", .obj [("resources", buildResourcesDict resources)])]) [])
      (requestInputs req) req.aerospikeContainerSecurityContext := by
  rw [assemble, writtenMetadata_false]
  rfl

theorem changed_map {α β : Type} {value : Option α} {f : α → β}
    {change : Dict String Json → β → Dict String Json} {podSpec : Dict String Json} :
    changed (value.map f) change podSpec = changed value (fun d a => change d (f a)) podSpec := by
  cases value <;> rfl

theorem section_putAcl {spec : PatchSpec} {acl : Option ACLConfig} {key : String}
    (haccess : key ≠ "aerospikeAccessControl") (hconfig : key ≠ "aerospikeConfig") :
    (spec.putAcl acl).section_ key = spec.section_ key := by
  cases acl with
  | none => rfl
  | some acl =>
    rw [PatchSpec.putAcl]
    cases acl.enabled with
    | true => exact (section_set_of_ne hconfig).trans (section_set_of_ne haccess)
    | false => exact section_set_of_ne haccess

/-- The pod spec of the patch takes nothing from the other sections. -/
theorem section_buildUpdateSpec (body : UpdateK8sClusterRequest) :
    (buildUpdateSpec body).section_ "podSpec" = assemble true
      (changed body.resources (fun podSpec resources =>
        setContainer podSpec "resources" (buildResourcesDict resources)) [])
      (bodyInputs body) body.aerospikeContainerSecurityContext := by
  rw [assemble, writtenMetadata_true, writtenContainers_true, writtenContainers_true, changed_map]
  simp only [buildUpdateSpec, section_put_of_ne, section_changePodSpec, section_putAcl, ne_eq,
    String.reduceEq, not_false_eq_true]
  rfl

/-! ### What stands under a key -/

/-- An update overwrites what it has. -/
theorem get?_updateDict {d entries : Dict String Json} {key : String}
    (h : (entries.map Prod.fst).Nodup) :
    Dict.get? (updateDict d entries) key = (Dict.get? entries key).or (Dict.get? d key) := by
  induction entries generalizing d with
  | nil => rfl
  | cons entry entries ih =>
    obtain ⟨k, value⟩ := entry
    rw [List.map_cons, List.nodup_cons] at h
    have hstep : Dict.get? (updateDict d ((k, value) :: entries)) key =
        (Dict.get? entries key).or (Dict.get? (Dict.set d k value) key) := ih h.2
    rw [hstep]
    by_cases hk : k = key
    · subst hk
      simp [Dict.get?_eq_none h.1, Dict.get?]
    · rw [Dict.get?_set_of_ne (Ne.symm hk)]
      simp [Dict.get?, hk]

theorem get?_changed_of {α : Type} {value : Option α}
    {change : Dict String Json → α → Dict String Json} {podSpec : Dict String Json} {key : String}
    (h : ∀ d a, Dict.get? (change d a) key = Dict.get? d key) :
    Dict.get? (changed value change podSpec) key = Dict.get? podSpec key := by
  cases value with
  | none => rfl
  | some a => exact h podSpec a

theorem get?_changed_set {α : Type} {value : Option α} {key : String} {build : α → Json}
    {podSpec : Dict String Json} :
    Dict.get? (changed value (fun d a => Dict.set d key (build a)) podSpec) key =
      (value.map build).or (Dict.get? podSpec key) := by
  cases value with
  | none => rfl
  | some a => exact Dict.get?_set_self

/-- The entries of scheduling have the keys of a pod spec, each once. -/
theorem get?_buildPodScheduling {sched : PodSchedulingConfig} {key : String}
    (h : key ∉ schedulingKeys) : Dict.get? (buildPodScheduling sched) key = none :=
  Dict.get?_eq_none fun hmem => h (mem_schedulingKeys hmem)

/-- An entry whose key does not arrive is not set. -/
theorem eq_none_of_key_not_mem {entries : List (String × Option Json)} {key : String}
    {α : Type} {f : α → Json} {value : Option α} (hmem : (key, value.map f) ∈ entries)
    (h : key ∉ (present entries).map Prod.fst) : value = none := by
  cases value with
  | none => rfl
  | some a =>
    exact absurd (List.mem_map.2 ⟨(key, f a), List.mem_filterMap.2 ⟨_, hmem, rfl⟩, rfl⟩) h

theorem nodup_schedulingKeys : schedulingKeys.Nodup := by decide

theorem nodup_buildPodScheduling (sched : PodSchedulingConfig) :
    ((buildPodScheduling sched).map Prod.fst).Nodup := by
  refine nodup_keys_present ?_
  exact nodup_schedulingKeys

theorem get?_setContainer {podSpec : Dict String Json} {key k : String} {value : Json}
    (h : key ≠ "aerospikeContainer") :
    Dict.get? (setContainer podSpec k value) key = Dict.get? podSpec key :=
  Dict.get?_set_of_ne h

variable {clears : Bool} {base : Dict String Json} {inputs : PodInputs}
  {context : Option JsonDict} {key : String}

/-- What scheduling puts under a key. -/
def scheduled (inputs : PodInputs) (key : String) : Option Json :=
  inputs.podScheduling.bind fun sched => Dict.get? (buildPodScheduling sched) key

theorem get?_scheduling (hbase : Dict.get? base key = none) :
    Dict.get? (changed inputs.podScheduling (fun podSpec sched =>
      updateDict podSpec (buildPodScheduling sched)) base) key = scheduled inputs key := by
  rw [scheduled]
  cases inputs.podScheduling with
  | none => exact hbase
  | some sched =>
    rw [changed, get?_updateDict (nodup_buildPodScheduling sched), hbase, Option.or_none]
    rfl

theorem scheduled_of_not_mem (h : key ∉ schedulingKeys) : scheduled inputs key = none :=
  Option.bind_eq_none_iff.2 fun _ _ => get?_buildPodScheduling h

theorem get?_assemble_scheduled (hbase : Dict.get? base key = none)
    (h : key ∉ ["metadata", "sidecars", "initContainers", "aerospikeContainer"]) :
    Dict.get? (assemble clears base inputs context) key = scheduled inputs key := by
  simp only [List.mem_cons, List.not_mem_nil, or_false, not_or] at h
  rw [assemble, get?_changed_of fun _ _ => get?_setContainer h.2.2.2,
    get?_changed_of fun _ _ => Dict.get?_set_of_ne h.2.2.1,
    get?_changed_of fun _ _ => Dict.get?_set_of_ne h.2.1,
    get?_changed_of fun _ _ => Dict.get?_set_of_ne h.1, get?_scheduling hbase]

theorem get?_assemble_metadata (hbase : Dict.get? base "metadata" = none) :
    Dict.get? (assemble clears base inputs context) "metadata" =
      (writtenMetadata clears inputs.podMetadata).or (scheduled inputs "metadata") := by
  rw [assemble, get?_changed_of fun _ _ => get?_setContainer (by decide),
    get?_changed_of fun _ _ => Dict.get?_set_of_ne (by decide),
    get?_changed_of fun _ _ => Dict.get?_set_of_ne (by decide), get?_changed_set,
    get?_scheduling hbase, Option.map_id']

theorem get?_assemble_sidecars (hbase : Dict.get? base "sidecars" = none) :
    Dict.get? (assemble clears base inputs context) "sidecars" =
      (writtenContainers clears inputs.sidecars).map buildSidecarList := by
  rw [assemble, get?_changed_of fun _ _ => get?_setContainer (by decide),
    get?_changed_of fun _ _ => Dict.get?_set_of_ne (by decide), get?_changed_set,
    get?_changed_of fun _ _ => Dict.get?_set_of_ne (by decide), get?_scheduling hbase,
    scheduled_of_not_mem (by decide), Option.or_none]

theorem get?_assemble_initContainers (hbase : Dict.get? base "initContainers" = none) :
    Dict.get? (assemble clears base inputs context) "initContainers" =
      (writtenContainers clears inputs.initContainers).map buildSidecarList := by
  rw [assemble, get?_changed_of fun _ _ => get?_setContainer (by decide), get?_changed_set,
    get?_changed_of fun _ _ => Dict.get?_set_of_ne (by decide),
    get?_changed_of fun _ _ => Dict.get?_set_of_ne (by decide), get?_scheduling hbase,
    scheduled_of_not_mem (by decide), Option.or_none]

/-! ### Containers -/

/-- What is listed of the containers does not depend on whether an empty list is written. -/
theorem mem_items_written {containers : Option (List SidecarConfig)} {container : Json} :
    container ∈ (((writtenContainers clears containers).map buildSidecarList).getD .null).items ↔
      ∃ s ∈ containers.getD [], buildSidecarList [s] = .arr [container] := by
  have hitems : (((writtenContainers clears containers).map buildSidecarList).getD .null).items =
      (buildSidecarList (containers.getD [])).items := by
    match containers, clears with
    | none, _ => rfl
    | some [], true => rfl
    | some [], false => rfl
    | some (_ :: _), true => rfl
    | some (_ :: _), false => rfl
  rw [hitems]
  simp only [buildSidecarList, items, List.mem_map, List.map_cons, List.map_nil, arr.injEq,
    List.cons.injEq, and_true]

theorem buildSidecarList_eq {containers : List SidecarConfig}
    (h : ∀ s ∈ containers, ContainerPlaced s) :
    buildSidecarList containers = .arr (containers.map crdContainer) := by
  refine congrArg Json.arr (List.map_congr_left fun s hs => ?_)
  rw [crdContainer, (h s hs).1, (h s hs).2]
  rfl

theorem kept_containers {containers : Option (List SidecarConfig)}
    (h : ∀ s ∈ containers.getD [], ContainerPlaced s) :
    Kept (containers.map fun items => .arr (items.map crdContainer))
      ((writtenContainers clears containers).map buildSidecarList) := by
  have hbuild : (writtenContainers clears containers).map buildSidecarList =
      (writtenContainers clears containers).map fun items => .arr (items.map crdContainer) := by
    refine Option.map_congr fun items hitems => buildSidecarList_eq ?_
    rw [Option.mem_filter_iff.1 hitems |>.1] at h
    exact h
  rw [hbuild]
  cases clears with
  | true =>
    rw [writtenContainers_true]
    exact Kept.refl _
  | false => exact kept_filter (leafAt_of_not_truthy rfl rfl)

/-- The containers have the keys of the CRD exactly where they set none of the other fields. -/
theorem containersShaped_iff {containers : Option (List SidecarConfig)} :
    (∀ container ∈
        (((writtenContainers clears containers).map buildSidecarList).getD .null).items,
      ∀ k ∈ container.fields.map Prod.fst, k ∈ containerKeys) ↔
      ∀ s ∈ containers.getD [], ContainerPlaced s := by
  simp only [mem_items_written]
  constructor
  · intro h s hs
    have hkeys := h _ ⟨s, hs, rfl⟩
    have hmounts : "volume_mounts" ∉ containerKeys := by decide
    have hcontext : "security_context" ∉ containerKeys := by decide
    constructor
    · refine eq_none_of_key_not_mem (f := fun items => .arr (items.map JsonDict.json)) ?_
        fun hk => hmounts (hkeys _ hk)
      simp
    · refine eq_none_of_key_not_mem (f := JsonDict.json) ?_ fun hk => hcontext (hkeys _ hk)
      simp
  · rintro h container ⟨s, hs, hbuild⟩ k hk
    rw [buildSidecarList_eq fun t ht => by rw [List.mem_singleton.1 ht]; exact h s hs] at hbuild
    cases hbuild
    exact mem_keys_present hk

/-! ### Metadata -/

theorem Within.refl (metadata : PodMetadataConfig) : Within metadata metadata where
  labels := fun _ _ h => h
  annotations := fun _ _ h => h

/-- Metadata are kept in what has the labels and annotations of others exactly where those have
theirs. -/
theorem kept_crdMetadata_iff {inner outer : PodMetadataConfig} {emitted : Option Json}
    (h : (emitted.getD .null).fields = (buildPodMetadataDict outer).fields) :
    Kept (some (crdMetadata inner)) emitted ↔ Within inner outer := by
  have hnodup : ∀ labels annotations : Option Json,
      (([("labels", labels), ("annotations", annotations)] : List _).map Prod.fst).Nodup := by
    intro labels annotations
    show ["labels", "annotations"].Nodup
    decide
  rw [crdMetadata, kept_obj_iff, h]
  constructor
  · intro hkept
    have hlabels := hkept "labels"
    have hannotations := hkept "annotations"
    rw [buildPodMetadataDict, fields, get?_present (hnodup _ _), get?_present (hnodup _ _)]
      at hlabels hannotations
    exact ⟨kept_stringDict_iff.1 hlabels, kept_stringDict_iff.1 hannotations⟩
  · intro hwithin
    exact kept_present (hnodup _ _)
      (.cons ⟨rfl, kept_stringDict_iff.2 hwithin.labels⟩
        (.cons ⟨rfl, kept_stringDict_iff.2 hwithin.annotations⟩ .nil))

theorem truthy_stringDictOf {d : Option (Dict String String)} :
    (stringDictOf d).isSome ↔ d.getD [] ≠ [] := by
  match d with
  | none => decide
  | some [] => decide
  | some (_ :: _) => simp [stringDictOf, whenTrue, stringDict, truthy]

/-- The metadata of the pods are something where they have a label or an annotation. -/
theorem truthy_buildPodMetadataDict {metadata : PodMetadataConfig} :
    (buildPodMetadataDict metadata).truthy ↔
      metadata.labels.getD [] ≠ [] ∨ metadata.annotations.getD [] ≠ [] := by
  rw [← truthy_stringDictOf, ← truthy_stringDictOf, buildPodMetadataDict]
  cases stringDictOf metadata.labels <;> cases stringDictOf metadata.annotations <;>
    simp [present, truthy]

theorem writtenMetadata_of_replaces {metadata : PodMetadataConfig} (h : Replaces clears metadata) :
    writtenMetadata clears (some metadata) = some (orNull (buildPodMetadataDict metadata)) := by
  cases clears with
  | true => exact writtenMetadata_true _
  | false =>
    have htruthy : (buildPodMetadataDict metadata).truthy = true := by
      rcases h with h | h
      · cases h
      · exact truthy_buildPodMetadataDict.2 h
    rw [writtenMetadata_false, orNull, if_pos htruthy, whenTrue, Option.map_some,
      Option.filter_some, if_pos htruthy]

theorem writtenMetadata_of_not_replaces {metadata : PodMetadataConfig}
    (h : ¬Replaces clears metadata) : writtenMetadata clears (some metadata) = none := by
  rw [Replaces, not_or] at h
  cases clears with
  | true => exact absurd rfl h.1
  | false =>
    rw [writtenMetadata_false, whenTrue, Option.map_some, Option.filter_some,
      if_neg fun htruthy => h.2 (truthy_buildPodMetadataDict.1 htruthy)]

theorem kept_orNull_iff {inner outer : PodMetadataConfig} :
    Kept (some (crdMetadata inner)) (some (orNull (buildPodMetadataDict outer))) ↔
      Within inner outer := by
  refine kept_crdMetadata_iff ?_
  rw [buildPodMetadataDict]
  generalize present _ = fields
  cases fields <;> rfl

theorem kept_whenTrue_iff {inner outer : PodMetadataConfig} :
    Kept (some (crdMetadata inner)) (whenTrue (some (buildPodMetadataDict outer))) ↔
      Within inner outer := by
  refine kept_crdMetadata_iff ?_
  rw [buildPodMetadataDict]
  generalize present _ = fields
  cases fields <;> rfl

/-- The metadata of the scheduling are kept exactly where those that replace them have theirs. -/
theorem kept_inner_iff {sched : PodSchedulingConfig} {inner : PodMetadataConfig}
    {podMetadata : Option PodMetadataConfig} (hinner : sched.metadata = some inner) :
    Kept (some (crdMetadata inner)) ((writtenMetadata clears podMetadata).or
        (Dict.get? (buildPodScheduling sched) "metadata")) ↔
      ∀ outer, podMetadata = some outer → Replaces clears outer → Within inner outer := by
  have hsched : Dict.get? (buildPodScheduling sched) "metadata" =
      whenTrue (some (buildPodMetadataDict inner)) := by
    rw [buildPodScheduling, get?_present, hinner]
    · rfl
    · exact nodup_schedulingKeys
  rw [hsched]
  by_cases h : ∃ outer, podMetadata = some outer ∧ Replaces clears outer
  · obtain ⟨outer, rfl, hreplaces⟩ := h
    rw [writtenMetadata_of_replaces hreplaces, Option.some_or, kept_orNull_iff]
    constructor
    · rintro hwithin _ hsome -
      cases hsome
      exact hwithin
    · intro hwithin
      exact hwithin outer rfl hreplaces
  · have hnone : writtenMetadata clears podMetadata = none := by
      cases podMetadata with
      | none => rfl
      | some outer => exact writtenMetadata_of_not_replaces fun hr => h ⟨outer, rfl, hr⟩
    rw [hnone, Option.none_or]
    refine iff_of_true ((kept_whenTrue_iff).2 (Within.refl inner)) ?_
    intro outer hsome hreplaces
    exact absurd ⟨outer, hsome, hreplaces⟩ h

/-- The metadata of the pods are always kept. -/
theorem kept_outer {podMetadata : Option PodMetadataConfig} {rest : Option Json} :
    Kept (podMetadata.map crdMetadata) ((writtenMetadata clears podMetadata).or rest) := by
  cases podMetadata with
  | none => exact kept_none _
  | some outer =>
    by_cases hreplaces : Replaces clears outer
    · rw [writtenMetadata_of_replaces hreplaces]
      exact (kept_orNull_iff).2 (Within.refl outer)
    · -- such metadata have no leaf, since the dictionary that keeps theirs is empty
      intro path leaf hleaf
      have hempty : (buildPodMetadataDict outer).truthy = false := by
        rw [Replaces, not_or] at hreplaces
        exact Bool.eq_false_iff.2 fun h => hreplaces.2 (truthy_buildPodMetadataDict.1 h)
      have hkept := (@kept_crdMetadata_iff outer outer (some (buildPodMetadataDict outer)) rfl).2
        (Within.refl outer) path leaf hleaf
      rw [Option.bind_some, leafAt_of_not_truthy rfl hempty] at hkept
      cases hkept

/-! ### Scheduling -/

/-- What arrives of the metadata of the scheduling alone. -/
theorem kept_scheduledMetadata {metadata : Option PodMetadataConfig} :
    Kept (metadata.map crdMetadata) (whenTrue (metadata.map buildPodMetadataDict)) := by
  cases metadata with
  | none => exact kept_none _
  | some inner => exact kept_whenTrue_iff.2 (Within.refl inner)

/-- Scheduling without an empty text and without pull secrets is kept, entry by entry. -/
theorem kept_buildPodScheduling {sched : PodSchedulingConfig} (h : SchedulingPlaced sched)
    (key : String) :
    Kept (Dict.get? (crdScheduling sched) key) (Dict.get? (buildPodScheduling sched) key) := by
  have hlist : ∀ {α : Type} (items : Option (List α)) (build : List α → List Json),
      build [] = [] → Kept (items.map fun items => .arr (build items))
        ((items.filter (!·.isEmpty)).map fun items => .arr (build items)) := by
    intro α items build hbuild
    refine kept_filter fun path => ?_
    rw [hbuild]
    exact leafAt_of_not_truthy rfl rfl path
  have hsecrets : Kept (sched.imagePullSecrets.map fun secrets => .arr (secrets.map stringDict))
      ((sched.imagePullSecrets.filter (!·.isEmpty)).map fun secrets =>
        .arr (secrets.map fun s => .obj [("name", stringDict s)])) := by
    have hempty := h.imagePullSecrets
    cases hsecrets : sched.imagePullSecrets with
    | none => exact kept_none _
    | some secrets =>
      rw [hsecrets, Option.getD_some] at hempty
      rw [hempty]
      exact hlist (some []) (List.map stringDict) rfl
  refine kept_present ?_ ?_ key
  · exact nodup_schedulingKeys
  exact
    .cons ⟨rfl, kept_stringDictOf _⟩ <|
    .cons ⟨rfl, hlist _ (List.map crdToleration) rfl⟩ <|
    .cons ⟨rfl, Kept.refl _⟩ <|
    .cons ⟨rfl, Kept.refl _⟩ <|
    .cons ⟨rfl, kept_textOf_iff.2 h.serviceAccountName⟩ <|
    .cons ⟨rfl, Kept.refl _⟩ <|
    .cons ⟨rfl, Kept.refl _⟩ <|
    .cons ⟨rfl, Kept.refl _⟩ <|
    .cons ⟨rfl, kept_textOf_iff.2 h.dnsPolicy⟩ <|
    .cons ⟨rfl, hsecrets⟩ <|
    .cons ⟨rfl, kept_dictOf _⟩ <|
    .cons ⟨rfl, kept_dictsOf _⟩ <|
    .cons ⟨rfl, kept_scheduledMetadata⟩ <|
    .cons ⟨rfl, kept_dictOf _⟩ <|
    .cons ⟨rfl, kept_textOf_iff.2 h.priorityClassName⟩ .nil

theorem get?_crdScheduling_metadata (sched : PodSchedulingConfig) :
    Dict.get? (crdScheduling sched) "metadata" = sched.metadata.map crdMetadata := by
  rw [crdScheduling, get?_present]
  · rfl
  · exact nodup_schedulingKeys

/-- A pull secret that is sent is never one name. -/
theorem pullSecrets_iff {sched : PodSchedulingConfig} :
    (∀ secret ∈ ((Dict.get? (buildPodScheduling sched) "imagePullSecrets").getD .null).items,
      ∃ name, secret = .obj [("name", .str name)]) ↔ sched.imagePullSecrets.getD [] = [] := by
  have hget : Dict.get? (buildPodScheduling sched) "imagePullSecrets" =
      (sched.imagePullSecrets.filter (!·.isEmpty)).map fun secrets =>
        .arr (secrets.map fun s => .obj [("name", stringDict s)]) := by
    rw [buildPodScheduling, get?_present]
    · rfl
    · exact nodup_schedulingKeys
  rw [hget]
  match sched.imagePullSecrets with
  | none => exact iff_of_true (fun _ hmem => absurd hmem List.not_mem_nil) rfl
  | some [] => exact iff_of_true (fun _ hmem => absurd hmem List.not_mem_nil) rfl
  | some (secret :: secrets) =>
    refine iff_of_false (fun h => ?_) (by simp)
    obtain ⟨name, hname⟩ := h (.obj [("name", stringDict secret)]) (List.mem_cons_self ..)
    cases hname

/-- The texts of scheduling that is kept are not empty. -/
theorem texts_of_kept {sched : PodSchedulingConfig}
    (h : ∀ key ∈ ["serviceAccountName", "dnsPolicy", "priorityClassName"],
      Kept (Dict.get? (crdScheduling sched) key) (Dict.get? (buildPodScheduling sched) key)) :
    sched.serviceAccountName ≠ some "" ∧ sched.dnsPolicy ≠ some "" ∧
      sched.priorityClassName ≠ some "" := by
  refine ⟨?_, ?_, ?_⟩
  · exact text_of_kept (h "serviceAccountName" (by decide)) nodup_schedulingKeys
      nodup_schedulingKeys (by simp) (by simp)
  · exact text_of_kept (h "dnsPolicy" (by decide)) nodup_schedulingKeys nodup_schedulingKeys
      (by simp) (by simp)
  · exact text_of_kept (h "priorityClassName" (by decide)) nodup_schedulingKeys
      nodup_schedulingKeys (by simp) (by simp)

/-! ### Both builders -/

theorem scheduled_of_some {sched : PodSchedulingConfig} (h : inputs.podScheduling = some sched) :
    scheduled inputs key = Dict.get? (buildPodScheduling sched) key := by
  rw [scheduled, h, Option.bind_some]

/-- The parts of the inputs are kept one by one. -/
theorem kept_crd_iff {podSpec : Dict String Json} :
    (∀ part ∈ inputs.crd, Kept (some (.obj part)) (some (.obj podSpec))) ↔
      (∀ sched, inputs.podScheduling = some sched → ∀ key,
        Kept (Dict.get? (crdScheduling sched) key) (Dict.get? podSpec key)) ∧
      Kept (inputs.podMetadata.map crdMetadata) (Dict.get? podSpec "metadata") ∧
      Kept (inputs.sidecars.map fun items => .arr (items.map crdContainer))
        (Dict.get? podSpec "sidecars") ∧
      Kept (inputs.initContainers.map fun items => .arr (items.map crdContainer))
        (Dict.get? podSpec "initContainers") := by
  have hsched : Kept (some (.obj ((inputs.podScheduling.map crdScheduling).getD [])))
      (some (.obj podSpec)) ↔ ∀ sched, inputs.podScheduling = some sched → ∀ key,
        Kept (Dict.get? (crdScheduling sched) key) (Dict.get? podSpec key) := by
    rw [kept_obj_iff]
    cases inputs.podScheduling with
    | none =>
      refine iff_of_true (fun key => kept_none _) ?_
      intro sched hsome
      cases hsome
    | some sched =>
      constructor
      · rintro h _ hsome
        cases hsome
        exact h
      · intro h
        exact h sched rfl
  simp only [PodInputs.crd, List.forall_mem_cons, List.not_mem_nil, false_implies, implies_true,
    and_true, hsched, kept_entry_iff]

/-- The pod spec is faithful exactly to inputs that are kept. -/
theorem faithful_assemble_iff
    (hbase : ∀ key, key ≠ "aerospikeContainer" → Dict.get? base key = none) :
    Faithful inputs (assemble clears base inputs context) ↔ inputs.Placed clears := by
  have hmetadata := @get?_assemble_metadata clears base inputs context (hbase _ (by decide))
  have hsidecars := @get?_assemble_sidecars clears base inputs context (hbase _ (by decide))
  have hinits := @get?_assemble_initContainers clears base inputs context (hbase _ (by decide))
  -- under every other key the pod spec has what scheduling puts there
  have hscheduled : ∀ key ∉ ["metadata", "sidecars", "initContainers", "aerospikeContainer"],
      Dict.get? (assemble clears base inputs context) key = scheduled inputs key := by
    intro key hkey
    refine get?_assemble_scheduled (hbase key ?_) hkey
    rintro rfl
    exact hkey (by decide)
  constructor
  · rintro ⟨hkept, hshaped⟩
    obtain ⟨hsched, -, -, -⟩ := kept_crd_iff.1 hkept
    refine ⟨fun sched hsome => ?_, fun s hs => ?_, ?_⟩
    · have htexts := @texts_of_kept sched fun key hkey => by
        have hspecial : key ∉ ["metadata", "sidecars", "initContainers", "aerospikeContainer"] := by
          revert key
          decide
        rw [← scheduled_of_some hsome, ← hscheduled key hspecial]
        exact hsched sched hsome key
      have hsecrets := hshaped.pullSecrets
      rw [itemsAt, hscheduled _ (by decide), scheduled_of_some hsome] at hsecrets
      exact ⟨htexts.1, htexts.2.1, htexts.2.2, pullSecrets_iff.1 hsecrets⟩
      -- the containers of both lists are read back where they stand
    · rcases List.mem_append.1 hs with hs | hs
      · have hcontainers := hshaped.containers "sidecars" (by decide)
        rw [itemsAt, hsidecars] at hcontainers
        exact containersShaped_iff.1 hcontainers s hs
      · have hcontainers := hshaped.containers "initContainers" (by decide)
        rw [itemsAt, hinits] at hcontainers
        exact containersShaped_iff.1 hcontainers s hs
      -- both kinds of metadata stand under one key, and the second may replace the first
    · intro sched inner outer hsome hinner houter hreplaces
      have hinnerKept := hsched sched hsome "metadata"
      rw [hmetadata, scheduled_of_some hsome, get?_crdScheduling_metadata, hinner] at hinnerKept
      exact (kept_inner_iff hinner).1 hinnerKept outer houter hreplaces
  · intro hplaced
    have hcontainers := List.forall_mem_append.1 hplaced.containers
    refine ⟨kept_crd_iff.2 ⟨fun sched hsome key => ?_, ?_, ?_, ?_⟩, ?_, ?_⟩
    · have hkept := kept_buildPodScheduling (hplaced.scheduling sched hsome) key
      by_cases hspecial : key ∈ ["metadata", "sidecars", "initContainers", "aerospikeContainer"]
      · by_cases hkey : key = "metadata"
        · rw [hkey, hmetadata, scheduled_of_some hsome, get?_crdScheduling_metadata]
          cases hinner : sched.metadata with
          | none => exact kept_none _
          | some inner =>
            exact (kept_inner_iff hinner).2 fun outer =>
              hplaced.metadata sched inner outer hsome hinner
        · -- scheduling has nothing under the keys of the others
          have hmissing : key ∉ schedulingKeys := by
            clear hkept
            revert key
            decide
          rw [get?_buildPodScheduling hmissing] at hkept
          exact hkept.of_none _
      · rw [hscheduled key hspecial, scheduled_of_some hsome]
        exact hkept
    · rw [hmetadata]
      exact kept_outer
    · rw [hsidecars]
      exact kept_containers hcontainers.1
    · rw [hinits]
      exact kept_containers hcontainers.2
    · rw [itemsAt, hscheduled _ (by decide)]
      cases hsome : inputs.podScheduling with
      | none =>
        rw [scheduled, hsome]
        intro secret hmem
        exact absurd hmem List.not_mem_nil
      | some sched =>
        rw [scheduled_of_some hsome]
        exact pullSecrets_iff.2 (hplaced.scheduling sched hsome).imagePullSecrets
    · intro key hkey
      rcases List.mem_cons.1 hkey with rfl | hkey
      · rw [itemsAt, hsidecars]
        exact containersShaped_iff.2 hcontainers.1
      · rw [List.mem_singleton.1 hkey, itemsAt, hinits]
        exact containersShaped_iff.2 hcontainers.2

/-- The pod spec is the section of the spec that was written. -/
theorem podSpecAt_eq {cr : Json} {spec : PatchSpec}
    (h : Dict.get? cr.fields "spec" = some (.obj spec)) :
    podSpecAt cr = spec.section_ "podSpec" := by
  rw [podSpecAt, at?_cons, h, Option.bind_some, at?_singleton, section_eq]
  rfl

/-- What the builders make of a request that is accepted is faithful to its inputs. -/
def CrFaithful (req : CreateK8sClusterRequest) : Prop :=
  ∃ cr after, buildCr req = .ok (cr, after) ∧ Faithful (requestInputs req) (podSpecAt cr)

def PatchFaithful (body : UpdateK8sClusterRequest) : Prop :=
  Faithful (bodyInputs body) (podSpecAt (buildUpdatePatch body).1)

theorem patchFaithful_iff (body : UpdateK8sClusterRequest) :
    PatchFaithful body ↔ (bodyInputs body).Placed true := by
  have hspec : podSpecAt (buildUpdatePatch body).1 = (buildUpdateSpec body).section_ "podSpec" :=
    podSpecAt_eq rfl
  rw [PatchFaithful, hspec, section_buildUpdateSpec]
  refine faithful_assemble_iff fun key hkey => ?_
  cases body.resources with
  | none => rfl
  | some resources => exact get?_setContainer hkey

theorem crFaithful_iff {req : CreateK8sClusterRequest} (haccepted : req.Accepted) :
    CrFaithful req ↔ (requestInputs req).Placed false := by
  obtain ⟨req', hsize, -, -⟩ := sizeMemory_ok haccepted
  have hbuild : buildCr req = .ok (crOf req', req') := by
    rw [buildCr, hsize]
    rfl
  have hinputs : requestInputs req' = requestInputs req := by
    rw [sizeMemory_eq hsize]
    rfl
  have hfaithful : Faithful (requestInputs req) (podSpecAt (crOf req')) ↔
      (requestInputs req).Placed false := by
    have hspec : podSpecAt (crOf req') = (buildSpec req').section_ "podSpec" := podSpecAt_eq rfl
    rw [hspec, section_buildSpec, podSpecOf_eq, ← hinputs]
    refine faithful_assemble_iff fun key hkey => ?_
    cases req'.resources with
    | none => rfl
    | some resources => exact if_neg (Ne.symm hkey)
  rw [← hfaithful]
  constructor
  · rintro ⟨cr, after, hcr, h⟩
    rw [hbuild] at hcr
    cases hcr
    exact h
  · intro h
    exact ⟨_, _, hbuild, h⟩

/-- Both builders are faithful to a pod exactly where no text of its scheduling is empty, it has no
pull secrets, its containers set no field with a key of its own, and its metadata do not replace
others. -/
theorem podSpec_faithful_iff (req : CreateK8sClusterRequest) (haccepted : req.Accepted)
    (body : UpdateK8sClusterRequest) :
    (CrFaithful req ↔ (requestInputs req).Placed false) ∧
      (PatchFaithful body ↔ (bodyInputs body).Placed true) :=
  ⟨crFaithful_iff haccepted, patchFaithful_iff body⟩

/-- Pods with a label of their own and the label of their scheduling, and one sidecar. -/
def labelledPods : CreateK8sClusterRequest where
  name := "db"
  size := 1
  podScheduling := some {
    dnsPolicy := some "ClusterFirst"
    metadata := some { labels := some [("app", "db")] } }
  podMetadata := some { labels := some [("app", "db"), ("team", "data")] }
  sidecars := some [{ name := "exporter", image := "exporter:1" }]

theorem podSpec_faithful_labelledPods :
    CrFaithful labelledPods ∧ PatchFaithful { podMetadata := some {} } := by
  have haccepted : labelledPods.Accepted := by
    rintro _ hsome
    cases hsome
  obtain ⟨hcr, hpatch⟩ := podSpec_faithful_iff labelledPods haccepted { podMetadata := some {} }
  refine ⟨hcr.2 ⟨?_, ?_, ?_⟩, hpatch.2 ⟨?_, ?_, ?_⟩⟩
  · rintro _ hsome
    cases hsome
    exact ⟨by decide, by decide, by decide, rfl⟩
  · intro s hs
    cases List.mem_singleton.1 hs
    exact ⟨rfl, rfl⟩
  · rintro _ _ _ hsome hinner houter -
    cases hsome
    cases hinner
    cases houter
    refine ⟨fun key value hget => ?_, fun key value hget => ?_⟩
    · by_cases hkey : "app" = key
      · subst hkey
        exact hget
      · simp [Dict.get?, hkey] at hget
    · cases hget
  · rintro _ hsome
    cases hsome
  · intro s hs
    cases hs
  · rintro _ _ _ hsome
    cases hsome

/-- A pod that pulls its image with a secret. -/
def privateImage : CreateK8sClusterRequest where
  name := "db"
  size := 1
  podScheduling := some { imagePullSecrets := some [[("name", "my-secret")]] }

/-- A sidecar that mounts a volume. -/
def mountingSidecar : UpdateK8sClusterRequest where
  sidecars := some [{
    name := "exporter"
    image := "exporter:1"
    volumeMounts := some [.single "name" (.str "workdir")] }]

/-- The secret is wrapped twice, and the mounts of the sidecar go under the name of the field. -/
theorem privateImage_not_faithful :
    privateImage.Accepted ∧ ¬CrFaithful privateImage ∧ ¬PatchFaithful mountingSidecar := by
  have haccepted : privateImage.Accepted := by
    rintro _ hsome
    cases hsome
  refine ⟨haccepted, ?_, ?_⟩
  · rw [crFaithful_iff haccepted]
    intro hplaced
    cases (hplaced.scheduling _ rfl).imagePullSecrets
  · rw [patchFaithful_iff]
    intro hplaced
    cases (hplaced.containers _ (List.mem_singleton.2 rfl)).1

end ClusterManager.K8s.Build
