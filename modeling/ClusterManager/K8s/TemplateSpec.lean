import ClusterManager.K8s.Build
import ClusterManager.K8s.Leaves

/-!
# The spec of a template

A template is created with a CR and updated with a merge patch. The two are built from the same
fields by two functions, `buildTemplateCr` and `buildTemplateUpdatePatch`, which agree: the patch
put on an empty spec gives the spec of the CR (`template_specs_agree`).
-/

namespace ClusterManager.K8s

open Json Build

/-! ### The requests -/

/-- The characters the name of an image starts and ends with. -/
def isImageEnd (c : Char) : Bool := c.isLower || c.isDigit

/-- The characters of the name of an image. -/
def isImageChar (c : Char) : Bool := isImageEnd c || c == '.' || c == '_' || c == '/' || c == '-'

/-- The characters of the tag of an image. -/
def isTagChar (c : Char) : Bool := c.isAlphanum || c == '.' || c == '_' || c == '-'

/-- The pattern of an image: a name that starts and ends with a letter or a digit, and a tag. -/
def isImage (image : String) : Bool :=
  let (name, hasTag, tag) := Str.partition ':' image.toList
  hasTag && name.all isImageChar && name.head?.any isImageEnd && name.getLast?.any isImageEnd &&
    tag.all isTagChar && !tag.isEmpty

/-- The modes of the heartbeat. -/
inductive HeartbeatMode
  | mesh
  | multicast

def HeartbeatMode.text : HeartbeatMode → String
  | .mesh => "mesh"
  | .multicast => "multicast"

/-- `TemplateNetworkConfig`. -/
structure TemplateNetworkConfig where
  heartbeatMode : Option HeartbeatMode := none
  heartbeatPort : Option ℕ := none
  heartbeatInterval : Option ℕ := none
  heartbeatTimeout : Option ℕ := none

/-- `TemplateServiceConfig`. -/
structure TemplateServiceConfig where
  featureKeyFile : Option String := none
  protoFdMax : Option ℤ := none
  extraParams : Option JsonDict := none

/-- `TemplateRackConfig`. -/
structure TemplateRackConfig where
  maxRacksPerNode : Option ℕ := none

/-- `UpdateK8sTemplateRequest`: the fields of a template, with the checks of both requests. -/
structure UpdateK8sTemplateRequest where
  description : Option String := none
  image : Option String := none
  size : Option ℕ := none
  resources : Option ResourceConfig := none
  monitoring : Option MonitoringConfig := none
  scheduling : Option TemplateSchedulingConfig := none
  storage : Option TemplateStorageConfig := none
  networkPolicy : Option NetworkAccessConfig := none
  aerospikeConfig : Option JsonDict := none
  serviceConfig : Option TemplateServiceConfig := none
  networkConfig : Option TemplateNetworkConfig := none
  rackConfig : Option TemplateRackConfig := none
  description_valid : ∀ text, description = some text → text.length ≤ 500
  image_valid : ∀ text, image = some text → isImage text = true
  size_valid : ∀ n, size = some n → 1 ≤ n ∧ n ≤ 8

/-- `CreateK8sTemplateRequest`: a name, a workspace and the same fields. -/
structure CreateK8sTemplateRequest extends UpdateK8sTemplateRequest where
  name : String
  workspaceId : Option String := none

/-! ### What the service builds -/

/-- `_SERVICE_CONFIG_KNOWN_KEYS`. -/
def serviceConfigKnownKeys : List String := ["proto-fd-max", "feature-key-file"]

/-- `svc_cfg`: the extra parameters under other keys, then the explicit fields. -/
def buildServiceCfg (serviceConfig : TemplateServiceConfig) : Dict String Json :=
  let svcCfg := match serviceConfig.extraParams with
    | some extraParams => extraParams.fields.filter (·.1 ∉ serviceConfigKnownKeys)
    | none => []
  let svcCfg := match textOf serviceConfig.featureKeyFile with
    | some featureKeyFile => Dict.set svcCfg "feature-key-file" featureKeyFile
    | none => svcCfg
  match serviceConfig.protoFdMax with
  | some protoFdMax => Dict.set svcCfg "proto-fd-max" (.num protoFdMax)
  | none => svcCfg

/-- `_build_aerospike_cfg`. -/
def buildAerospikeCfg (aerospikeConfig : Option JsonDict)
    (serviceConfig : Option TemplateServiceConfig) : Dict String Json :=
  present [
    ("namespaceDefaults", aerospikeConfig.map JsonDict.json),
    ("service", whenTrue (serviceConfig.map fun config => .obj (buildServiceCfg config)))]

/-- `_build_template_network_config_dict`. -/
def buildTemplateNetworkConfigDict (networkConfig : TemplateNetworkConfig) : Json :=
  let heartbeat := present [
    ("mode", networkConfig.heartbeatMode.map fun mode => .str mode.text),
    ("interval", numOf networkConfig.heartbeatInterval),
    ("timeout", numOf networkConfig.heartbeatTimeout)]
  if heartbeat.isEmpty then .obj [] else .obj [("heartbeat", .obj heartbeat)]

/-- `aerospike_cfg`, with `setdefault("network", net_cfg)`. -/
def aerospikeCfgOf (body : UpdateK8sTemplateRequest) : Dict String Json :=
  let aerospikeCfg := buildAerospikeCfg body.aerospikeConfig body.serviceConfig
  match whenTrue (body.networkConfig.map buildTemplateNetworkConfigDict) with
  | some netCfg =>
      if (Dict.get? aerospikeCfg "network").isSome then aerospikeCfg
      else Dict.set aerospikeCfg "network" netCfg
  | none => aerospikeCfg

/-- `rack_cfg`. -/
def rackCfgOf (rackConfig : TemplateRackConfig) : Json :=
  .obj (present [("maxRacksPerNode", numOf rackConfig.maxRacksPerNode)])

/-- `build_template_cr`. -/
def buildTemplateCr (req : CreateK8sTemplateRequest) : Json :=
  .obj [
    ("apiVersion", .str "acko.io/v1alpha1"),
    ("kind", .str "AerospikeClusterTemplate"),
    ("metadata", .obj [("name", .str req.name)]),
    ("spec", .obj (present [
      ("description", textOf req.description),
      ("image", textOf req.image),
      ("size", numOf req.size),
      ("resources", req.resources.map buildResourcesDict),
      ("monitoring", req.monitoring.map buildMonitoring),
      ("scheduling", whenTrue (req.scheduling.map buildTemplateSchedulingDict)),
      ("storage", whenTrue (req.storage.map buildTemplateStorageDict)),
      ("aerospikeNetworkPolicy", req.networkPolicy.map buildNetworkPolicy),
      ("aerospikeConfig", whenTrue (some (.obj (aerospikeCfgOf req.toUpdateK8sTemplateRequest)))),
      ("rackConfig", whenTrue (req.rackConfig.map rackCfgOf))]))]

/-- `build_template_update_patch`. -/
def buildTemplateUpdatePatch (body : UpdateK8sTemplateRequest) : Json :=
  .obj [("spec", .obj (present [
    ("description", body.description.map .str),
    ("image", body.image.map .str),
    ("size", numOf body.size),
    ("resources", body.resources.map buildResourcesDict),
    ("monitoring", body.monitoring.map buildMonitoring),
    ("scheduling", whenTrue (body.scheduling.map buildTemplateSchedulingDict)),
    ("storage", whenTrue (body.storage.map buildTemplateStorageDict)),
    ("aerospikeNetworkPolicy", body.networkPolicy.map buildNetworkPolicy),
    ("aerospikeConfig", whenTrue (some (.obj (aerospikeCfgOf body)))),
    ("rackConfig", whenTrue (body.rackConfig.map rackCfgOf))]))]

/-! ### Nothing that is built is null -/

/-- An entry that is set is not null. -/
def EntryNullFree (value : Option Json) : Prop := ∀ v, value = some v → NullFree v

theorem nullFree_present {entries : List (String × Option Json)}
    (hnodup : (entries.map Prod.fst).Nodup) (h : ∀ entry ∈ entries, EntryNullFree entry.2) :
    NullFree (.obj (present entries)) := by
  rw [NullFree]
  refine ⟨nodup_keys_present hnodup, nullFreeFields_iff.2 fun field hfield => ?_⟩
  obtain ⟨⟨key, value⟩, hentry, hvalue⟩ := List.mem_filterMap.1 hfield
  obtain ⟨v, hv, rfl⟩ := Option.map_eq_some_iff.1 hvalue
  exact h (key, value) hentry v hv

theorem entryNullFree_map {α : Type} {build : α → Json} {o : Option α}
    (h : ∀ a, o = some a → NullFree (build a)) : EntryNullFree (o.map build) := by
  intro v hv
  obtain ⟨a, ha, rfl⟩ := Option.map_eq_some_iff.1 hv
  exact h a ha

theorem EntryNullFree.whenTrue {value : Option Json} (h : EntryNullFree value) :
    EntryNullFree (Json.whenTrue value) :=
  fun v hv => h v (Option.filter_eq_some_iff.1 hv).1

theorem entryNullFree_some {value : Json} (h : NullFree value) : EntryNullFree (some value) := by
  rintro v hv
  cases hv
  exact h

theorem entryNullFree_numOf (n : Option ℕ) : EntryNullFree (numOf n) :=
  entryNullFree_map fun _ _ => trivial

theorem entryNullFree_str (text : Option String) : EntryNullFree (text.map .str) :=
  entryNullFree_map fun _ _ => trivial

theorem entryNullFree_textOf (text : Option String) : EntryNullFree (textOf text) :=
  (entryNullFree_str text).whenTrue

/-- A list is replaced as a whole. -/
theorem entryNullFree_arr {α : Type} (items : Option α) (build : α → List Json) :
    EntryNullFree (items.map fun items => .arr (build items)) :=
  entryNullFree_map fun _ _ => trivial

theorem entryNullFree_stringsOf (items : Option (List String)) : EntryNullFree (stringsOf items) :=
  (entryNullFree_arr items fun items => items.map .str).whenTrue

theorem entryNullFree_dictsOf (items : Option (List JsonDict)) : EntryNullFree (dictsOf items) :=
  (entryNullFree_arr items fun items => items.map JsonDict.json).whenTrue

theorem nullFree_stringDict {d : Dict String String} (h : (d.map Prod.fst).Nodup) :
    NullFree (stringDict d) := by
  rw [stringDict, NullFree]
  refine ⟨?_, nullFreeFields_iff.2 fun field hfield => ?_⟩
  · rw [List.map_map]
    exact h
  · obtain ⟨entry, -, rfl⟩ := List.mem_map.1 hfield
    trivial

theorem entryNullFree_stringDictOf {d : Option (Dict String String)}
    (h : ∀ d', d = some d' → (d'.map Prod.fst).Nodup) : EntryNullFree (stringDictOf d) :=
  (entryNullFree_map fun d' hd => nullFree_stringDict (h d' hd)).whenTrue

theorem nullFree_buildResourcesDict (resources : ResourceConfig) :
    NullFree (buildResourcesDict resources) := by
  simp [buildResourcesDict, ResourceSpec.json, NullFree, NullFreeFields]

theorem nullFree_buildNetworkPolicy (policy : NetworkAccessConfig) :
    NullFree (buildNetworkPolicy policy) := by
  refine nullFree_present (by simp) ?_
  simp only [List.forall_mem_cons]
  exact ⟨entryNullFree_some trivial, entryNullFree_map fun _ _ => trivial,
    entryNullFree_map fun _ _ => trivial, entryNullFree_stringsOf _, entryNullFree_stringsOf _,
    entryNullFree_stringsOf _, List.forall_mem_nil _⟩

theorem nullFree_buildTemplateStorageDict (storage : TemplateStorageConfig) :
    NullFree (buildTemplateStorageDict storage) := by
  have hsize (size : Json) (h : textOf storage.size = some size) :
      NullFree (.obj [("requests", .obj [("storage", size)])]) := by
    have hfree := entryNullFree_textOf storage.size size h
    simpa [NullFree, NullFreeFields] using hfree
  refine nullFree_present (by simp) ?_
  simp only [List.forall_mem_cons]
  exact ⟨entryNullFree_textOf _, entryNullFree_map fun _ _ => trivial, entryNullFree_stringsOf _,
    entryNullFree_map hsize, entryNullFree_map fun _ _ => trivial, List.forall_mem_nil _⟩

/-! ### Free-form dictionaries -/

/-- The free-form dictionaries of a template have no null member at any depth, and the keys of a
dictionary are distinct. -/
structure UpdateK8sTemplateRequest.FreeForm (body : UpdateK8sTemplateRequest) : Prop where
  aerospikeConfig : ∀ config, body.aerospikeConfig = some config → NullFree config.json
  extraParams : ∀ service extraParams, body.serviceConfig = some service →
    service.extraParams = some extraParams → NullFree extraParams.json
  nodeAffinity : ∀ scheduling affinity, body.scheduling = some scheduling →
    scheduling.nodeAffinity = some affinity → NullFree affinity.json
  metricLabels : ∀ mon labels, body.monitoring = some mon → mon.metricLabels = some labels →
    (labels.map Prod.fst).Nodup
  serviceMonitorLabels : ∀ mon sm labels, body.monitoring = some mon →
    mon.serviceMonitor = some sm → sm.labels = some labels → (labels.map Prod.fst).Nodup
  prometheusRuleLabels : ∀ mon pr labels, body.monitoring = some mon →
    mon.prometheusRule = some pr → pr.labels = some labels → (labels.map Prod.fst).Nodup

variable {body : UpdateK8sTemplateRequest}

theorem nullFree_buildMonitoring (h : body.FreeForm) {mon : MonitoringConfig}
    (hmon : body.monitoring = some mon) : NullFree (buildMonitoring mon) := by
  refine nullFree_present (by simp) ?_
  simp only [List.forall_mem_cons]
  refine ⟨entryNullFree_some trivial, entryNullFree_some trivial, entryNullFree_textOf _,
    entryNullFree_map fun resources _ => nullFree_buildResourcesDict resources,
    entryNullFree_stringDictOf fun labels hlabels => h.metricLabels mon labels hmon hlabels,
    entryNullFree_map fun sm hsm => ?_, entryNullFree_map fun pr hpr => ?_,
    (entryNullFree_arr mon.exporterEnv fun items => items.map stringDict).whenTrue, List.forall_mem_nil _⟩
  · refine nullFree_present (by simp) ?_
    simp only [List.forall_mem_cons]
    exact ⟨entryNullFree_some trivial, entryNullFree_textOf _, entryNullFree_stringDictOf
      fun labels hlabels => h.serviceMonitorLabels mon sm labels hmon hsm hlabels,
      List.forall_mem_nil _⟩
  · refine nullFree_present (by simp) ?_
    simp only [List.forall_mem_cons]
    exact ⟨entryNullFree_some trivial, entryNullFree_stringDictOf
      fun labels hlabels => h.prometheusRuleLabels mon pr labels hmon hpr hlabels,
      entryNullFree_dictsOf _, List.forall_mem_nil _⟩

theorem nullFree_buildTemplateSchedulingDict (h : body.FreeForm)
    {scheduling : TemplateSchedulingConfig} (hscheduling : body.scheduling = some scheduling) :
    NullFree (buildTemplateSchedulingDict scheduling) := by
  refine nullFree_present (by simp) ?_
  simp only [List.forall_mem_cons]
  exact ⟨entryNullFree_map fun _ _ => trivial, entryNullFree_map fun _ _ => trivial,
    entryNullFree_dictsOf _,
    (entryNullFree_map fun affinity haffinity =>
      h.nodeAffinity scheduling affinity hscheduling haffinity).whenTrue,
    entryNullFree_dictsOf _, List.forall_mem_nil _⟩

theorem nullFree_obj_iff {fields : Dict String Json} : NullFree (.obj fields) ↔
    (fields.map Prod.fst).Nodup ∧ ∀ entry ∈ fields, NullFree entry.2 := by
  rw [NullFree, nullFreeFields_iff]

theorem nullFree_set {fields : Dict String Json} (key : String) {value : Json}
    (hfields : NullFree (.obj fields)) (hvalue : NullFree value) :
    NullFree (.obj (Dict.set fields key value)) := by
  rw [nullFree_obj_iff] at hfields ⊢
  refine ⟨Dict.nodup_keys_set hfields.1, fun entry hentry => ?_⟩
  obtain hentry | rfl := Dict.mem_set hentry
  · exact hfields.2 entry hentry
  · exact hvalue

theorem nullFree_filter {fields : Dict String Json} (h : NullFree (.obj fields))
    (p : String × Json → Bool) : NullFree (.obj (fields.filter p)) := by
  rw [nullFree_obj_iff] at h ⊢
  exact ⟨h.1.sublist (List.filter_sublist.map _), fun entry hentry =>
    h.2 entry (List.mem_of_mem_filter hentry)⟩

theorem nullFree_nil : NullFree (.obj []) := nullFree_obj_iff.2 ⟨List.nodup_nil, by simp⟩

/-- What is left of the extra parameters is free of null, and so are the explicit fields. -/
theorem nullFree_buildServiceCfg {service : TemplateServiceConfig}
    (h : ∀ extraParams, service.extraParams = some extraParams → NullFree extraParams.json) :
    NullFree (.obj (buildServiceCfg service)) := by
  have hextra : NullFree (.obj (match service.extraParams with
      | some extraParams => extraParams.fields.filter (·.1 ∉ serviceConfigKnownKeys)
      | none => [])) := by
    cases hparams : service.extraParams with
    | none => exact nullFree_nil
    | some extraParams => exact nullFree_filter (h extraParams hparams) _
  unfold buildServiceCfg
  cases hfile : textOf service.featureKeyFile with
  | none =>
    cases service.protoFdMax with
    | none => exact hextra
    | some n => exact nullFree_set _ hextra trivial
  | some file =>
    have hset := nullFree_set "feature-key-file" hextra
      (entryNullFree_textOf service.featureKeyFile file hfile)
    cases service.protoFdMax with
    | none => exact hset
    | some n => exact nullFree_set _ hset trivial

theorem nullFree_buildTemplateNetworkConfigDict (networkConfig : TemplateNetworkConfig) :
    NullFree (buildTemplateNetworkConfigDict networkConfig) := by
  have hheartbeat : NullFree (.obj (present [
      ("mode", networkConfig.heartbeatMode.map fun mode => .str mode.text),
      ("interval", numOf networkConfig.heartbeatInterval),
      ("timeout", numOf networkConfig.heartbeatTimeout)])) := by
    refine nullFree_present (by simp) ?_
    simp only [List.forall_mem_cons]
    exact ⟨entryNullFree_map fun _ _ => trivial, entryNullFree_numOf _, entryNullFree_numOf _,
      List.forall_mem_nil _⟩
  unfold buildTemplateNetworkConfigDict
  simp only
  split
  · exact nullFree_nil
  · exact nullFree_obj_iff.2 ⟨List.nodup_singleton _, by simpa using hheartbeat⟩

theorem nullFree_buildAerospikeCfg (h : body.FreeForm) :
    NullFree (.obj (buildAerospikeCfg body.aerospikeConfig body.serviceConfig)) := by
  refine nullFree_present (by simp) ?_
  simp only [List.forall_mem_cons]
  exact ⟨entryNullFree_map h.aerospikeConfig, (entryNullFree_map fun service hservice =>
    nullFree_buildServiceCfg fun extraParams => h.extraParams service extraParams hservice).whenTrue,
    List.forall_mem_nil _⟩

theorem nullFree_aerospikeCfgOf (h : body.FreeForm) : NullFree (.obj (aerospikeCfgOf body)) := by
  have hcfg := nullFree_buildAerospikeCfg h
  unfold aerospikeCfgOf
  cases hnet : whenTrue (body.networkConfig.map buildTemplateNetworkConfigDict) with
  | none => exact hcfg
  | some netCfg =>
    have hfree : EntryNullFree (whenTrue (body.networkConfig.map buildTemplateNetworkConfigDict)) :=
      (entryNullFree_map fun networkConfig _ =>
        nullFree_buildTemplateNetworkConfigDict networkConfig).whenTrue
    simp only
    split
    · exact hcfg
    · exact nullFree_set _ hcfg (hfree netCfg hnet)

theorem nullFree_rackCfgOf (rackConfig : TemplateRackConfig) : NullFree (rackCfgOf rackConfig) := by
  refine nullFree_present (by simp) ?_
  simp only [List.forall_mem_cons]
  exact ⟨entryNullFree_numOf _, List.forall_mem_nil _⟩

/-- The spec of a patch has no null at any depth. -/
theorem nullFree_patchSpec (h : body.FreeForm) :
    NullFree ((buildTemplateUpdatePatch body).under "spec") := by
  change NullFree (.obj (present _))
  refine nullFree_present (by simp) ?_
  simp only [List.forall_mem_cons]
  exact ⟨entryNullFree_str _, entryNullFree_str _, entryNullFree_numOf _,
    entryNullFree_map fun resources _ => nullFree_buildResourcesDict resources,
    entryNullFree_map fun mon hmon => nullFree_buildMonitoring h hmon,
    (entryNullFree_map fun scheduling hscheduling =>
      nullFree_buildTemplateSchedulingDict h hscheduling).whenTrue,
    (entryNullFree_map fun storage _ => nullFree_buildTemplateStorageDict storage).whenTrue,
    entryNullFree_map fun policy _ => nullFree_buildNetworkPolicy policy,
    (entryNullFree_some (nullFree_aerospikeCfgOf h)).whenTrue,
    (entryNullFree_map fun rackConfig _ => nullFree_rackCfgOf rackConfig).whenTrue,
    List.forall_mem_nil _⟩

/-! ### Creation and update -/

/-- A text that is not empty is set in both. -/
theorem textOf_eq {text : Option String} (h : text ≠ some "") : textOf text = text.map .str := by
  cases text with
  | none => rfl
  | some text =>
    have hne : text ≠ "" := fun he => h (congrArg some he)
    simp [textOf, whenTrue, truthy, hne]

/-- An image is not empty. -/
theorem image_ne_empty (body : UpdateK8sTemplateRequest) : body.image ≠ some "" := by
  intro h
  have hvalid := body.image_valid "" h
  exact absurd hvalid (by decide)

/-- Without an empty description the two specs are the same. -/
theorem specs_eq {req : CreateK8sTemplateRequest} (h : req.description ≠ some "") :
    (buildTemplateCr req).under "spec" =
      (buildTemplateUpdatePatch req.toUpdateK8sTemplateRequest).under "spec" := by
  change Json.obj (present _) = Json.obj (present _)
  rw [textOf_eq h, textOf_eq (image_ne_empty req.toUpdateK8sTemplateRequest)]

/-! ### Typed fields -/

/-- The path of a parameter of the service. -/
def servicePath (key : String) : List String := ["aerospikeConfig", "service", key]

/-- The typed fields of a service are set under their keys, whatever the extra parameters. -/
structure TypedFieldsKept (spec : Json) (service : TemplateServiceConfig) : Prop where
  featureKeyFile : ∀ file, service.featureKeyFile = some file → file ≠ "" →
    spec.at? (servicePath "feature-key-file") = some (.str file)
  protoFdMax : ∀ n, service.protoFdMax = some n →
    spec.at? (servicePath "proto-fd-max") = some (.num n)

theorem get?_protoFdMax {service : TemplateServiceConfig} {n : ℤ}
    (h : service.protoFdMax = some n) :
    Dict.get? (buildServiceCfg service) "proto-fd-max" = some (.num n) := by
  simp only [buildServiceCfg, h]
  exact Dict.get?_set_self

theorem get?_featureKeyFile {service : TemplateServiceConfig} {file : String}
    (h : service.featureKeyFile = some file) (hne : file ≠ "") :
    Dict.get? (buildServiceCfg service) "feature-key-file" = some (.str file) := by
  have htext : textOf service.featureKeyFile = some (.str file) := by
    rw [textOf_eq (by rw [h]; simpa using hne), h]
    rfl
  simp only [buildServiceCfg, htext]
  cases service.protoFdMax with
  | none => exact Dict.get?_set_self
  | some n =>
    simp only
    rw [Dict.get?_set_of_ne (by decide), Dict.get?_set_self]

/-- The parameters of the service that are set stand at their path. -/
theorem at?_servicePath {service : TemplateServiceConfig} {key : String} {value : Json}
    (hservice : body.serviceConfig = some service)
    (hvalue : Dict.get? (buildServiceCfg service) key = some value) :
    ((buildTemplateUpdatePatch body).under "spec").at? (servicePath key) = some value := by
  have hcfgs : Dict.get? (buildAerospikeCfg body.aerospikeConfig body.serviceConfig) "service" =
      some (.obj (buildServiceCfg service)) := by
    have htruthy : (Json.obj (buildServiceCfg service)).truthy = true := by
      cases hcfg : buildServiceCfg service with
      | nil =>
        rw [hcfg] at hvalue
        cases hvalue
      | cons entry entries => rfl
    rw [buildAerospikeCfg, get?_present (by simp), hservice]
    simp [Dict.get?, whenTrue, htruthy]
  have hcfg : Dict.get? (aerospikeCfgOf body) "service" = some (.obj (buildServiceCfg service)) := by
    unfold aerospikeCfgOf
    cases whenTrue (body.networkConfig.map buildTemplateNetworkConfigDict) with
    | none => exact hcfgs
    | some netCfg =>
      simp only
      split
      · exact hcfgs
      · rw [Dict.get?_set_of_ne (by decide), hcfgs]
  have hspec : Dict.get? ((buildTemplateUpdatePatch body).under "spec").fields "aerospikeConfig" =
      some (.obj (aerospikeCfgOf body)) := by
    have htruthy : (Json.obj (aerospikeCfgOf body)).truthy = true := by
      cases hempty : aerospikeCfgOf body with
      | nil =>
        rw [hempty] at hcfg
        cases hcfg
      | cons entry entries => rfl
    change Dict.get? (present _) _ = _
    rw [get?_present (by simp)]
    simp [Dict.get?, whenTrue, htruthy]
  rw [servicePath, at?_cons, hspec, Option.bind_some, at?_cons, Json.fields, hcfg,
    Option.bind_some, at?_cons, Json.fields, hvalue]
  rfl

/-- The typed fields are kept in the spec of a patch. -/
theorem typedFieldsKept_patch {service : TemplateServiceConfig}
    (hservice : body.serviceConfig = some service) :
    TypedFieldsKept ((buildTemplateUpdatePatch body).under "spec") service :=
  ⟨fun _ hfile hne => at?_servicePath hservice (get?_featureKeyFile hfile hne),
    fun _ hn => at?_servicePath hservice (get?_protoFdMax hn)⟩

/-- Creating a template and updating an empty one agree, and in both no typed field is overridden
by an extra parameter. -/
theorem template_specs_agree {req : CreateK8sTemplateRequest}
    (hdescription : req.description ≠ some "") (hfree : req.FreeForm) :
    (buildTemplateCr req).under "spec" = mergePatch (.obj [])
      ((buildTemplateUpdatePatch req.toUpdateK8sTemplateRequest).under "spec") ∧
    ∀ service, req.serviceConfig = some service →
      TypedFieldsKept ((buildTemplateCr req).under "spec") service ∧
      TypedFieldsKept
        ((buildTemplateUpdatePatch req.toUpdateK8sTemplateRequest).under "spec") service := by
  refine ⟨?_, fun service hservice => ⟨?_, typedFieldsKept_patch hservice⟩⟩
  · rw [specs_eq hdescription, mergePatch_of_nullFree rfl (nullFree_patchSpec hfree)]
  · rw [specs_eq hdescription]
    exact typedFieldsKept_patch hservice

/-- A service whose extra parameters try to set what a field sets. -/
def cappedService : TemplateServiceConfig where
  protoFdMax := some 15000
  extraParams := some ⟨[("proto-fd-max", .num 1), ("migrate-threads", .num 2)], by decide⟩

/-- A template of an image and a service. -/
def devTemplate : CreateK8sTemplateRequest where
  name := "dev"
  description := some "for development"
  image := some "aerospike:ce-8.1.1.1"
  serviceConfig := some cappedService
  description_valid text h := by
    cases h
    decide
  image_valid text h := by
    cases h
    decide
  size_valid n h := by cases h

theorem freeForm_devTemplate : devTemplate.FreeForm where
  aerospikeConfig _ h := by cases h
  extraParams service extraParams hservice hextra := by
    cases hservice
    cases hextra
    exact ⟨by decide, trivial, trivial, trivial⟩
  nodeAffinity _ _ h := by cases h
  metricLabels _ _ h := by cases h
  serviceMonitorLabels _ _ _ h := by cases h
  prometheusRuleLabels _ _ _ h := by cases h

theorem template_specs_agree_devTemplate :
    (buildTemplateCr devTemplate).under "spec" = mergePatch (.obj [])
      ((buildTemplateUpdatePatch devTemplate.toUpdateK8sTemplateRequest).under "spec") ∧
    ∀ service, devTemplate.serviceConfig = some service →
      TypedFieldsKept ((buildTemplateCr devTemplate).under "spec") service ∧
      TypedFieldsKept
        ((buildTemplateUpdatePatch devTemplate.toUpdateK8sTemplateRequest).under "spec") service :=
  template_specs_agree (by decide) freeForm_devTemplate

end ClusterManager.K8s
