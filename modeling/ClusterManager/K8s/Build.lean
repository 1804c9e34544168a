import ClusterManager.Db.Base
import ClusterManager.K8s.Quantity
import ClusterManager.K8s.Update

/-!
# Building the CR of a cluster

`buildCr` makes the CR of a typed request, section by section. Before it writes the pod it sizes
the memory of the pod after the namespaces that live in memory, and it is the request that it
rewrites for that.
-/

namespace ClusterManager.K8s.Build

open Json

/-! ### The request -/

/-- The storage engines of a namespace. -/
inductive StorageEngine
  | memory
  | device
  deriving DecidableEq

def StorageEngine.text : StorageEngine → String
  | .memory => "memory"
  | .device => "device"

/-- `AerospikeNamespaceStorage`. -/
structure AerospikeNamespaceStorage where
  type : StorageEngine := .memory
  dataSize : Option ℤ := some 1073741824
  file : Option String := none
  filesize : Option ℤ := none

/-- `AerospikeNamespaceConfig`. -/
structure AerospikeNamespaceConfig where
  name : String := "test"
  replicationFactor : ℕ := 1
  storageEngine : AerospikeNamespaceStorage := {}

/-- `StorageVolumeConfig`. -/
structure StorageVolumeConfig where
  storageClass : String := "standard"
  size : String := "10Gi"
  mountPath : String := "/opt/aerospike/data"
  initMethod : Option VolumeMethod := none
  wipeMethod : Option VolumeMethod := none
  cascadeDelete : Bool := true
  cleanupThreads : Option ℕ := none
  filesystemVolumePolicy : Option JsonDict := none
  blockVolumePolicy : Option JsonDict := none

/-- `StorageVolumeConfig | StorageSpec`. -/
inductive RequestStorage
  | legacy (storage : StorageVolumeConfig)
  | volumes (storage : StorageSpec)

/-- The levels of pod anti-affinity. -/
inductive PodAntiAffinityLevel
  | none_
  | preferred
  | required

def PodAntiAffinityLevel.text : PodAntiAffinityLevel → String
  | .none_ => "none"
  | .preferred => "preferred"
  | .required => "required"

/-- `TemplateSchedulingConfig`. -/
structure TemplateSchedulingConfig where
  podAntiAffinityLevel : Option PodAntiAffinityLevel := none
  podManagementPolicy : Option PodManagementPolicy := none
  tolerations : Option (List JsonDict) := none
  nodeAffinity : Option JsonDict := none
  topologySpreadConstraints : Option (List JsonDict) := none

/-- `TemplateStorageConfig`. -/
structure TemplateStorageConfig where
  storageClassName : Option String := none
  volumeMode : Option VolumeMode := none
  accessModes : Option (List String) := none
  size : Option String := none
  localPvRequired : Option Bool := none

/-- `TemplateOverrides`; the `rack_config` is its `max_racks_per_node`. -/
structure TemplateOverrides where
  image : Option String := none
  size : Option ℕ := none
  resources : Option ResourceConfig := none
  monitoring : Option MonitoringConfig := none
  networkPolicy : Option NetworkAccessConfig := none
  enableDynamicConfig : Option Bool := none
  scheduling : Option TemplateSchedulingConfig := none
  storage : Option TemplateStorageConfig := none
  rackConfig : Option (Option ℕ) := none
  aerospikeConfig : Option JsonDict := none

/-- `RollingUpdateConfig`. -/
structure RollingUpdateConfig where
  batchSize : Option ℕ := none
  maxUnavailable : Option String := none
  disablePdb : Bool := false

/-- `CreateK8sClusterRequest`; the `template_ref` is its name. -/
structure CreateK8sClusterRequest where
  name : String
  namespace_ : String := "aerospike"
  size : ℕ
  image : String := "aerospike:ce-8.1.1.1"
  namespaces : List AerospikeNamespaceConfig := [{}]
  storage : Option RequestStorage := none
  resources : Option ResourceConfig := none
  monitoring : Option MonitoringConfig := none
  templateRef : Option String := none
  templateOverrides : Option TemplateOverrides := none
  acl : Option ACLConfig := none
  rollingUpdate : Option RollingUpdateConfig := none
  rackConfig : Option RackAwareConfig := none
  enableDynamicConfig : Bool := false
  autoConnect : Bool := true
  workspaceId : Option String := none
  networkPolicy : Option NetworkAccessConfig := none
  k8sNodeBlockList : Option (List String) := none
  podScheduling : Option PodSchedulingConfig := none
  seedsFinderServices : Option SeedsFinderServicesConfig := none
  networkPolicyConfig : Option NetworkPolicyAutoConfig := none
  bandwidthConfig : Option BandwidthConfig := none
  validationPolicy : Option ValidationPolicyConfig := none
  headlessService : Option ServiceMetadataConfig := none
  podService : Option ServiceMetadataConfig := none
  enableRackIdOverride : Option Bool := none
  podMetadata : Option PodMetadataConfig := none
  sidecars : Option (List SidecarConfig) := none
  initContainers : Option (List SidecarConfig) := none
  aerospikeContainerSecurityContext : Option JsonDict := none

/-! ### Namespaces and storage -/

/-- `_default_mount`: where the file of a device namespace lies. -/
def defaultMount : Option RequestStorage → String
  | none => "/opt/aerospike/data"
  | some (.legacy storage) => storage.mountPath
  | some (.volumes storage) =>
      (storage.volumes.findSome? fun v =>
        match v.source, v.aerospike with
        | .persistentVolume, some att => some att.path
        | _, _ => none).getD "/opt/aerospike/data"

/-- `value or default`, of an integer that may be missing. -/
def intOr (default : ℤ) (value : Option ℤ) : ℤ :=
  match value with
  | some n => if n = 0 then default else n
  | none => default

/-- `storage_engine` of a namespace. -/
def buildStorageEngine (mount : String) (ns : AerospikeNamespaceConfig) : Json :=
  match ns.storageEngine.type with
  | .memory => .obj [
      ("type", .str StorageEngine.memory.text),
      ("data-size", .num (intOr 1073741824 ns.storageEngine.dataSize))]
  | .device => .obj [
      ("type", .str StorageEngine.device.text),
      ("file", .str (Db.orDefault (mount ++ "/" ++ ns.name ++ ".dat")
        (ns.storageEngine.file.getD ""))),
      ("filesize", .num (intOr 4294967296 ns.storageEngine.filesize))]

/-- One of `ns_configs`. -/
def buildNamespace (mount : String) (ns : AerospikeNamespaceConfig) : Json :=
  .obj [
    ("name", .str ns.name),
    ("replication-factor", .num ns.replicationFactor),
    ("storage-engine", buildStorageEngine mount ns)]

/-- `aerospikeConfig`; enabling access control adds `security`. -/
def buildAerospikeConfig (req : CreateK8sClusterRequest) : Json :=
  .obj (present [
    ("service", some (.obj [("cluster-name", .str req.name), ("proto-fd-max", .num 15000)])),
    ("network", some (.obj [
      ("service", .obj [("address", .str "any"), ("port", .num 3000)]),
      ("heartbeat", .obj [("mode", .str "mesh"), ("port", .num 3002)]),
      ("fabric", .obj [("address", .str "any"), ("port", .num 3001)])])),
    ("namespaces", some (.arr (req.namespaces.map (buildNamespace (defaultMount req.storage))))),
    ("logging", some (.arr [.obj [
      ("name", .str "/var/log/aerospike/aerospike.log"), ("context", .str "any info")]])),
    ("security", (req.acl.filter (·.enabled)).map fun _ => .obj [])])

/-- The legacy single volume as volumes of the CRD. -/
def buildLegacyStorage (storage : StorageVolumeConfig) : Json :=
  .obj (present [
    ("volumes", some (.arr [
      .obj (present [
        ("name", some (.str "data-vol")),
        ("source", some (.obj [("persistentVolume", .obj [
          ("storageClass", .str storage.storageClass),
          ("size", .str storage.size),
          ("volumeMode", .str "Filesystem")])])),
        ("aerospike", some (.obj [("path", .str storage.mountPath)])),
        ("cascadeDelete", some (.bool storage.cascadeDelete)),
        ("initMethod", storage.initMethod.map fun m => .str m.text),
        ("wipeMethod", storage.wipeMethod.map fun m => .str m.text)]),
      .obj [
        ("name", .str "workdir"),
        ("source", .obj [("emptyDir", .obj [])]),
        ("aerospike", .obj [("path", .str "/opt/aerospike/work")])]])),
    ("cleanupThreads", numOf storage.cleanupThreads),
    ("filesystemVolumePolicy", storage.filesystemVolumePolicy.map JsonDict.json),
    ("blockVolumePolicy", storage.blockVolumePolicy.map JsonDict.json)])

/-- `storage` of the spec. -/
def buildStorage : RequestStorage → Json
  | .legacy storage => buildLegacyStorage storage
  | .volumes storage => buildStorageSpecCr storage

/-! ### Memory -/

/-- What a namespace counts for: its data size, whatever its sign. -/
def countedSize (ns : AerospikeNamespaceConfig) : ℤ := ns.storageEngine.dataSize.getD 1073741824

/-- `total_ns_bytes`. -/
def totalNsBytes (req : CreateK8sClusterRequest) : ℤ :=
  ((req.namespaces.filter (·.storageEngine.type = .memory)).map countedSize).sum

/-- `min_memory_bytes`, for a total that is positive. -/
def minMemoryBytes (total : ℤ) : ℤ := ⌊(total : ℚ) * (13 / 10)⌋

/-- `min_memory_gi`. -/
def minMemoryGi (total : ℤ) : ℤ := max 1 (-(-minMemoryBytes total / 1024 ^ 3))

/-- `new_limit_mem`. -/
def newLimitMem (total : ℤ) : String :=
  String.ofList (Numerals.intText (minMemoryGi total) ++ ['G', 'i'])

/-- `new_requests_mem`. -/
def newRequestsMem (total : ℤ) (resources : ResourceConfig) : String :=
  if parseMemoryBytes resources.requests.memory > parseMemoryBytes (newLimitMem total) then
    newLimitMem total
  else resources.requests.memory

/-- The resources of a pod that is to hold so many bytes. `ResourceConfig` checks them again. -/
def sizedResources (total : ℤ) : Option ResourceConfig → Except Exc (Option ResourceConfig)
  | some resources =>
      if parseMemoryBytes resources.limits.memory < minMemoryBytes total then
        some <$> checkResources {
          requests := { cpu := resources.requests.cpu, memory := newRequestsMem total resources }
          limits := { cpu := resources.limits.cpu, memory := newLimitMem total } }
      else return some resources
  | none =>
      some <$> checkResources {
        requests := { cpu := "500m", memory := newLimitMem total }
        limits := { cpu := "2", memory := newLimitMem total } }

/-- The request after its resources were sized. -/
def sizeMemory (req : CreateK8sClusterRequest) : Except Exc CreateK8sClusterRequest := do
  if totalNsBytes req > 0 then
    return { req with resources := ← sizedResources (totalNsBytes req) req.resources }
  else return req

/-! ### Templates -/

/-- `_build_template_scheduling_dict`. -/
def buildTemplateSchedulingDict (scheduling : TemplateSchedulingConfig) : Json :=
  .obj (present [
    ("podAntiAffinityLevel", scheduling.podAntiAffinityLevel.map fun level => .str level.text),
    ("podManagementPolicy", scheduling.podManagementPolicy.map fun policy => .str policy.text),
    ("tolerations", dictsOf scheduling.tolerations),
    ("nodeAffinity", dictOf scheduling.nodeAffinity),
    ("topologySpreadConstraints", dictsOf scheduling.topologySpreadConstraints)])

/-- `_build_template_storage_dict`. -/
def buildTemplateStorageDict (storage : TemplateStorageConfig) : Json :=
  .obj (present [
    ("storageClassName", textOf storage.storageClassName),
    ("volumeMode", storage.volumeMode.map fun mode => .str mode.text),
    ("accessModes", stringsOf storage.accessModes),
    ("resources", (textOf storage.size).map fun size =>
      .obj [("requests", .obj [("storage", size)])]),
    ("localPVRequired", storage.localPvRequired.map .bool)])

/-- `overrides`. -/
def buildOverrides (overrides : TemplateOverrides) : Json :=
  .obj (present [
    ("image", textOf overrides.image),
    ("size", numOf overrides.size),
    ("podSpec", overrides.resources.map fun resources =>
      .obj [("aerospikeContainer", .obj [("resources", buildResourcesDict resources)])]),
    ("monitoring", overrides.monitoring.map buildMonitoring),
    ("aerospikeNetworkPolicy", overrides.networkPolicy.map buildNetworkPolicy),
    ("enableDynamicConfigUpdate", overrides.enableDynamicConfig.map .bool),
    ("scheduling", whenTrue (overrides.scheduling.map buildTemplateSchedulingDict)),
    ("storage", whenTrue (overrides.storage.map buildTemplateStorageDict)),
    ("rackConfig", (numOf overrides.rackConfig.join).map fun n => .obj [("maxRacksPerNode", n)]),
    ("aerospikeConfig", overrides.aerospikeConfig.map JsonDict.json)])

/-! ### The CR -/

/-- A list that is given and has something in it. -/
def nonEmpty {α : Type} (items : Option (List α)) : Option (List α) :=
  items.filter fun items => !items.isEmpty

/-- `spec`, of a request whose resources were sized. -/
def buildSpec (req : CreateK8sClusterRequest) : PatchSpec :=
  PatchSpec.empty
    |>.put "size" (some (.num req.size))
    |>.put "image" (some (.str req.image))
    |>.put "aerospikeConfig" (some (buildAerospikeConfig req))
    |>.put "storage" (req.storage.map buildStorage)
    |>.changePodSpec req.resources (fun _ resources =>
        [("aerospikeContainer", .obj [("resources", buildResourcesDict resources)])])
    |>.put "monitoring" (req.monitoring.map buildMonitoring)
    |>.changePodSpec req.podScheduling (fun podSpec sched =>
        updateDict podSpec (buildPodScheduling sched))
    |>.put "templateRef" (req.templateRef.map fun name => .obj [("name", .str name)])
    |>.put "overrides" (req.templateRef.bind fun _ =>
        whenTrue (req.templateOverrides.map buildOverrides))
    |>.put "enableDynamicConfigUpdate" (flagOf req.enableDynamicConfig)
    |>.put "aerospikeAccessControl" ((req.acl.filter (·.enabled)).map buildAclDict)
    |>.put "rollingUpdateBatchSize" (numOf (req.rollingUpdate.bind (·.batchSize)))
    |>.put "maxUnavailable" ((req.rollingUpdate.bind (·.maxUnavailable)).map .str)
    |>.put "disablePDB" (req.rollingUpdate.bind fun rolling => flagOf rolling.disablePdb)
    |>.put "rackConfig" ((req.rackConfig.filter fun rackConfig => !rackConfig.racks.isEmpty).map
        buildRackConfigDict)
    |>.put "aerospikeNetworkPolicy" (req.networkPolicy.map buildNetworkPolicy)
    |>.put "k8sNodeBlockList" (stringsOf req.k8sNodeBlockList)
    |>.put "seedsFinderServices" (req.seedsFinderServices.map buildSeedsFinderServices)
    |>.put "networkPolicyConfig" (req.networkPolicyConfig.map buildNetworkPolicyConfig)
    |>.put "bandwidthConfig" (whenTrue (req.bandwidthConfig.map buildBandwidthDict))
    |>.put "validationPolicy" (req.validationPolicy.map fun policy =>
        .obj [("skipWorkDirValidate", .bool policy.skipWorkDirValidate)])
    |>.put "headlessService" (req.headlessService.bind labelledService)
    |>.put "podService" (req.podService.bind labelledService)
    |>.put "enableRackIDOverride" (req.enableRackIdOverride.map .bool)
    |>.changePodSpec (whenTrue (req.podMetadata.map buildPodMetadataDict)) (fun podSpec metadata =>
        Dict.set podSpec "metadata" metadata)
    |>.changePodSpec (nonEmpty req.sidecars) (fun podSpec sidecars =>
        Dict.set podSpec "sidecars" (buildSidecarList sidecars))
    |>.changePodSpec (nonEmpty req.initContainers) (fun podSpec initContainers =>
        Dict.set podSpec "initContainers" (buildSidecarList initContainers))
    |>.changePodSpec req.aerospikeContainerSecurityContext (fun podSpec context =>
        setContainer podSpec "securityContext" context.json)
where
  /-- The metadata of a service, unless there are none. -/
  labelledService (service : ServiceMetadataConfig) : Option Json :=
    let svc := buildServiceMetadataDict service
    if ((Dict.get? svc.fields "metadata").getD .null).truthy then some svc else none

/-- The CR of a request whose resources were sized. -/
def crOf (req : CreateK8sClusterRequest) : Json :=
  .obj [
    ("apiVersion", .str "acko.io/v1alpha1"),
    ("kind", .str "AerospikeCluster"),
    ("metadata", .obj [("name", .str req.name), ("namespace", .str req.namespace_)]),
    ("spec", .obj (buildSpec req))]

/-- `build_cr`: the CR, and the request after the call. -/
def buildCr (req : CreateK8sClusterRequest) : Except Exc (Json × CreateK8sClusterRequest) := do
  let req ← sizeMemory req
  return (crOf req, req)

/-! ### What is sized -/

/-- Sizing changes the resources alone. -/
theorem sizeMemory_eq {req req' : CreateK8sClusterRequest} (h : sizeMemory req = .ok req') :
    req' = { req with resources := req'.resources } := by
  unfold sizeMemory at h
  split at h
  · obtain ⟨resources, -, h⟩ := exists_of_bind_ok h
    cases h
    rfl
  · cases h
    rfl

/-- The request after the call is the one before it but for its resources. -/
theorem buildCr_eq {req req' : CreateK8sClusterRequest} {cr : Json}
    (h : buildCr req = .ok (cr, req')) : req' = { req with resources := req'.resources } := by
  obtain ⟨sized, hsized, h⟩ := exists_of_bind_ok h
  cases h
  exact sizeMemory_eq hsized

/-! ### The parts of the spec -/

/-- A pod spec that is changed if there is something to change. -/
def changed {α : Type} (value : Option α) (change : Dict String Json → α → Dict String Json)
    (podSpec : Dict String Json) : Dict String Json :=
  match value with
  | some a => change podSpec a
  | none => podSpec

theorem section_eq {spec : PatchSpec} {key : String} :
    spec.section_ key = ((Dict.get? spec key).getD .null).fields := by
  rw [PatchSpec.section_]
  cases Dict.get? spec key <;> rfl

theorem section_put_of_ne {spec : PatchSpec} {key key' : String} {value : Option Json}
    (h : key ≠ key') : (spec.put key' value).section_ key = spec.section_ key := by
  rw [PatchSpec.section_, PatchSpec.get?_put_of_ne h, PatchSpec.section_]

theorem section_changePodSpec {α : Type} {spec : PatchSpec} {value : Option α}
    {change : Dict String Json → α → Dict String Json} :
    (spec.changePodSpec value change).section_ "podSpec" =
      changed value change (spec.section_ "podSpec") := by
  cases value with
  | none => rfl
  | some a =>
    rw [PatchSpec.section_, PatchSpec.changePodSpec, Option.map_some, PatchSpec.get?_put_self]
    rfl

/-- What `build_cr` makes of the pod, in the order of its steps. -/
def podSpecOf (req : CreateK8sClusterRequest) : Dict String Json :=
  []
    |> changed req.resources (fun _ resources =>
        [("aerospikeContainer", .obj [("resources", buildResourcesDict resources)])])
    |> changed req.podScheduling (fun podSpec sched =>
        updateDict podSpec (buildPodScheduling sched))
    |> changed (whenTrue (req.podMetadata.map buildPodMetadataDict)) (fun podSpec metadata =>
        Dict.set podSpec "metadata" metadata)
    |> changed (nonEmpty req.sidecars) (fun podSpec sidecars =>
        Dict.set podSpec "sidecars" (buildSidecarList sidecars))
    |> changed (nonEmpty req.initContainers) (fun podSpec initContainers =>
        Dict.set podSpec "initContainers" (buildSidecarList initContainers))
    |> changed req.aerospikeContainerSecurityContext (fun podSpec context =>
        setContainer podSpec "securityContext" context.json)

/-- The pod spec of the CR takes nothing from the other sections. -/
theorem section_buildSpec (req : CreateK8sClusterRequest) :
    (buildSpec req).section_ "podSpec" = podSpecOf req := by
  simp only [buildSpec, podSpecOf, section_put_of_ne, section_changePodSpec, ne_eq,
    String.reduceEq, not_false_eq_true]
  rfl

theorem aerospikeConfig_buildSpec (req : CreateK8sClusterRequest) :
    Dict.get? (buildSpec req) "aerospikeConfig" = some (buildAerospikeConfig req) := by
  simp only [buildSpec, PatchSpec.get?_put_of_ne, PatchSpec.get?_changePodSpec, ne_eq,
    String.reduceEq, not_false_eq_true, PatchSpec.get?_put_self, Option.some_or]

/-! ### The container of the pod -/

theorem section_set_of_ne {d : Dict String Json} {key key' : String} {value : Json}
    (h : key ≠ key') :
    PatchSpec.section_ (Dict.set d key' value) key = PatchSpec.section_ d key := by
  rw [section_eq, section_eq, Dict.get?_set_of_ne h]

/-- A section that no change touches. -/
theorem section_changed {α : Type} {value : Option α}
    {change : Dict String Json → α → Dict String Json} {podSpec : Dict String Json} {key : String}
    (h : ∀ a, PatchSpec.section_ (change podSpec a) key = PatchSpec.section_ podSpec key) :
    PatchSpec.section_ (changed value change podSpec) key = PatchSpec.section_ podSpec key := by
  cases value with
  | none => rfl
  | some a => exact h a

theorem section_setContainer {podSpec : Dict String Json} {key : String} {value : Json} :
    PatchSpec.section_ (setContainer podSpec key value) "aerospikeContainer" =
      Dict.set (PatchSpec.section_ podSpec "aerospikeContainer") key value := by
  rw [section_eq, setContainer, Dict.get?_set_self]
  rfl

/-- A key that is not updated. -/
theorem get?_updateDict_of_not_mem {d entries : Dict String Json} {key : String}
    (h : key ∉ entries.map Prod.fst) :
    Dict.get? (updateDict d entries) key = Dict.get? d key := by
  induction entries generalizing d with
  | nil => rfl
  | cons entry entries ih =>
    rw [List.map_cons, List.mem_cons, not_or] at h
    exact (ih h.2).trans (Dict.get?_set_of_ne h.1)

theorem mem_keys_present {entries : List (String × Option Json)} {key : String}
    (h : key ∈ (present entries).map Prod.fst) : key ∈ entries.map Prod.fst := by
  obtain ⟨entry, hentry, rfl⟩ := List.mem_map.1 h
  obtain ⟨⟨key, value⟩, hmem, hvalue⟩ := List.mem_filterMap.1 hentry
  obtain ⟨v, -, rfl⟩ := Option.map_eq_some_iff.1 hvalue
  exact List.mem_map.2 ⟨_, hmem, rfl⟩

theorem nodup_keys_present {entries : List (String × Option Json)}
    (h : (entries.map Prod.fst).Nodup) : ((present entries).map Prod.fst).Nodup := by
  induction entries with
  | nil => exact List.nodup_nil
  | cons entry entries ih =>
    obtain ⟨k, value⟩ := entry
    rw [List.map_cons, List.nodup_cons] at h
    cases value with
    | none => exact ih h.2
    | some value => exact List.nodup_cons.2 ⟨fun hmem => h.1 (mem_keys_present hmem), ih h.2⟩

/-- The keys that scheduling may set. -/
def schedulingKeys : List String :=
  ["nodeSelector", "tolerations", "multiPodPerHost", "hostNetwork", "serviceAccountName",
    "terminationGracePeriodSeconds", "readinessGateEnabled", "podManagementPolicy", "dnsPolicy",
    "imagePullSecrets", "securityContext", "topologySpreadConstraints", "metadata", "affinity",
    "priorityClassName"]

theorem mem_schedulingKeys {sched : PodSchedulingConfig} {key : String}
    (h : key ∈ (buildPodScheduling sched).map Prod.fst) : key ∈ schedulingKeys :=
  mem_keys_present h

theorem section_scheduling {podSpec : Dict String Json} {sched : PodSchedulingConfig} :
    PatchSpec.section_ (updateDict podSpec (buildPodScheduling sched)) "aerospikeContainer" =
      PatchSpec.section_ podSpec "aerospikeContainer" := by
  rw [section_eq, section_eq, get?_updateDict_of_not_mem]
  intro h
  exact absurd (mem_schedulingKeys h) (by decide)

/-- The resources of the container are those of the request. -/
theorem resources_podSpecOf (req : CreateK8sClusterRequest) :
    Dict.get? (PatchSpec.section_ (podSpecOf req) "aerospikeContainer") "resources" =
      req.resources.map buildResourcesDict := by
  have hcontext : ∀ podSpec : Dict String Json,
      Dict.get? (PatchSpec.section_ (changed req.aerospikeContainerSecurityContext
        (fun podSpec context => setContainer podSpec "securityContext" context.json) podSpec)
        "aerospikeContainer") "resources" =
      Dict.get? (PatchSpec.section_ podSpec "aerospikeContainer") "resources" := by
    intro podSpec
    cases req.aerospikeContainerSecurityContext with
    | none => rfl
    | some context => rw [changed, section_setContainer, Dict.get?_set_of_ne (by decide)]
  rw [podSpecOf, hcontext, section_changed fun _ => section_set_of_ne (by decide),
    section_changed fun _ => section_set_of_ne (by decide),
    section_changed fun _ => section_set_of_ne (by decide),
    section_changed fun _ => section_scheduling]
  cases req.resources <;> rfl

/-- A path into the pod spec of the CR. -/
theorem at?_podSpec (req : CreateK8sClusterRequest) (key : String) (path : List String) :
    (crOf req).at? ("spec" :: "podSpec" :: key :: path) =
      (Json.obj (podSpecOf req)).at? (key :: path) := by
  have hspec : Dict.get? (crOf req).fields "spec" = some (.obj (buildSpec req)) := rfl
  rw [at?_cons, hspec, Option.bind_some, at?_cons_cons, ← section_buildSpec, section_eq]
  rfl

end ClusterManager.K8s.Build
