import ClusterManager.Json

/-!
# The spec of a cluster, section by section

The request models a cluster is described with, and what the service makes of each in the spec of
the CR. A section leaves out what the request does not set: `present` lists the entries of a
section in the order the service writes them, and `whenTrue` is the `if` before an entry that is
also left out when it is empty.
-/

namespace ClusterManager

/-- A decoded `dict[str, Any]`: its keys are distinct. -/
structure JsonDict where
  fields : Dict String Json
  nodup : (fields.map Prod.fst).Nodup

namespace JsonDict

/-- The dictionary as a value. -/
def json (d : JsonDict) : Json := .obj d.fields

/-- `d.get(key)`. -/
def get? (d : JsonDict) (key : String) : Option Json := Dict.get? d.fields key

/-- `d[key] = value`. -/
def set (d : JsonDict) (key : String) (value : Json) : JsonDict :=
  ⟨Dict.set d.fields key value, Dict.nodup_keys_set d.nodup⟩

/-- The dictionary with one key. -/
def single (key : String) (value : Json) : JsonDict := ⟨[(key, value)], List.nodup_singleton _⟩

@[ext] theorem ext {c d : JsonDict} (h : c.fields = d.fields) : c = d := by
  cases c; cases d; congr

/-- Setting a key changes nothing just when the key has the value. -/
theorem set_eq_iff {d : JsonDict} {key : String} {value : Json} :
    d.set key value = d ↔ d.get? key = some value := by
  constructor
  · intro h
    rw [← h, get?, set, Dict.get?_set_self]
  · intro h
    exact JsonDict.ext (Dict.set_of_get? h)

end JsonDict

namespace Json

/-- A list of strings. -/
def strings (items : List String) : Json := .arr (items.map .str)

/-- A dictionary of strings. -/
def stringDict (d : Dict String String) : Json := .obj (d.map fun (key, value) => (key, .str value))

/-- `if value:`: the value, unless it is missing or empty. -/
def whenTrue (value : Option Json) : Option Json := value.filter truthy

/-- The dictionary of the entries that are set. -/
def present (entries : List (String × Option Json)) : Dict String Json :=
  entries.filterMap fun (key, value) => value.map (key, ·)

/-- A number that is left out when it is missing. -/
def numOf (value : Option ℕ) : Option Json := Option.map (fun n : ℕ => Json.num n) value

/-- A text that is left out when it is missing or empty. -/
def textOf (value : Option String) : Option Json := whenTrue (value.map .str)

/-- A list of strings that is left out when it is missing or empty. -/
def stringsOf (value : Option (List String)) : Option Json := whenTrue (value.map strings)

/-- A dictionary of strings that is left out when it is missing or empty. -/
def stringDictOf (value : Option (Dict String String)) : Option Json :=
  whenTrue (value.map stringDict)

/-- A dictionary that is left out when it is missing or empty. -/
def dictOf (value : Option JsonDict) : Option Json := whenTrue (value.map JsonDict.json)

/-- A list of dictionaries that is left out when it is missing or empty. -/
def dictsOf (value : Option (List JsonDict)) : Option Json :=
  whenTrue (value.map fun items => .arr (items.map JsonDict.json))

@[simp] theorem numOf_eq_none {value : Option ℕ} : numOf value = none ↔ value = none := by
  simp [numOf]

end Json

namespace K8s

open Json

/-! ### Resources and scheduling -/

/-- `ResourceSpec`. -/
structure ResourceSpec where
  cpu : String := "1"
  memory : String := "2Gi"

/-- `ResourceConfig`. -/
structure ResourceConfig where
  requests : ResourceSpec := { cpu := "500m", memory := "1Gi" }
  limits : ResourceSpec := { cpu := "2", memory := "4Gi" }

/-- The dictionary of a `ResourceSpec`. -/
def ResourceSpec.json (spec : ResourceSpec) : Json :=
  .obj [("cpu", .str spec.cpu), ("memory", .str spec.memory)]

/-- `_build_resources_dict`. -/
def buildResourcesDict (resources : ResourceConfig) : Json :=
  .obj [("requests", resources.requests.json), ("limits", resources.limits.json)]

/-- The operators of a toleration. -/
inductive TolerationOperator
  | exists_
  | equal

def TolerationOperator.text : TolerationOperator → String
  | .exists_ => "Exists"
  | .equal => "Equal"

/-- The effects of a toleration; the empty one matches all. -/
inductive TolerationEffect
  | noSchedule
  | preferNoSchedule
  | noExecute
  | all

def TolerationEffect.text : TolerationEffect → String
  | .noSchedule => "NoSchedule"
  | .preferNoSchedule => "PreferNoSchedule"
  | .noExecute => "NoExecute"
  | .all => ""

/-- `TolerationConfig`. -/
structure TolerationConfig where
  key : Option String := none
  operator : TolerationOperator := .equal
  value : Option String := none
  effect : Option TolerationEffect := none
  tolerationSeconds : Option ℤ := none

/-- `_build_toleration_list`. -/
def buildTolerationList (tolerations : List TolerationConfig) : Json :=
  .arr (tolerations.map fun t => .obj (present [
    ("key", t.key.map .str),
    ("operator", some (.str t.operator.text)),
    ("value", t.value.map .str),
    ("effect", t.effect.map fun effect => .str effect.text),
    ("tolerationSeconds", t.tolerationSeconds.map .num)]))

/-- `PodMetadataConfig`. -/
structure PodMetadataConfig where
  labels : Option (Dict String String) := none
  annotations : Option (Dict String String) := none

/-- `_build_pod_metadata_dict`. -/
def buildPodMetadataDict (metadata : PodMetadataConfig) : Json :=
  .obj (present [
    ("labels", stringDictOf metadata.labels),
    ("annotations", stringDictOf metadata.annotations)])

/-- The pod management policies. -/
inductive PodManagementPolicy
  | orderedReady
  | parallel

def PodManagementPolicy.text : PodManagementPolicy → String
  | .orderedReady => "OrderedReady"
  | .parallel => "Parallel"

/-- `PodSchedulingConfig`. -/
structure PodSchedulingConfig where
  nodeSelector : Option (Dict String String) := none
  tolerations : Option (List TolerationConfig) := none
  multiPodPerHost : Option Bool := none
  hostNetwork : Option Bool := none
  serviceAccountName : Option String := none
  terminationGracePeriod : Option ℕ := none
  readinessGateEnabled : Option Bool := none
  podManagementPolicy : Option PodManagementPolicy := none
  dnsPolicy : Option String := none
  imagePullSecrets : Option (List (Dict String String)) := none
  securityContext : Option JsonDict := none
  topologySpreadConstraints : Option (List JsonDict) := none
  metadata : Option PodMetadataConfig := none
  affinity : Option JsonDict := none
  priorityClassName : Option String := none

/-- `build_pod_scheduling`. Each pull secret, a dictionary already, is put under `name`. -/
def buildPodScheduling (sched : PodSchedulingConfig) : Dict String Json :=
  present [
    ("nodeSelector", stringDictOf sched.nodeSelector),
    ("tolerations", (sched.tolerations.filter (!·.isEmpty)).map buildTolerationList),
    ("multiPodPerHost", sched.multiPodPerHost.map .bool),
    ("hostNetwork", sched.hostNetwork.map .bool),
    ("serviceAccountName", textOf sched.serviceAccountName),
    ("terminationGracePeriodSeconds", numOf sched.terminationGracePeriod),
    ("readinessGateEnabled", sched.readinessGateEnabled.map .bool),
    ("podManagementPolicy", sched.podManagementPolicy.map fun policy => .str policy.text),
    ("dnsPolicy", textOf sched.dnsPolicy),
    ("imagePullSecrets", (sched.imagePullSecrets.filter (!·.isEmpty)).map fun secrets =>
      .arr (secrets.map fun s => .obj [("name", stringDict s)])),
    ("securityContext", dictOf sched.securityContext),
    ("topologySpreadConstraints", dictsOf sched.topologySpreadConstraints),
    ("metadata", whenTrue (sched.metadata.map buildPodMetadataDict)),
    ("affinity", dictOf sched.affinity),
    ("priorityClassName", textOf sched.priorityClassName)]

/-- `SidecarConfig`. -/
structure SidecarConfig where
  name : String
  image : String
  command : Option (List String) := none
  args : Option (List String) := none
  ports : Option (List JsonDict) := none
  env : Option (List JsonDict) := none
  volumeMounts : Option (List JsonDict) := none
  resources : Option JsonDict := none
  securityContext : Option JsonDict := none

/-- `_build_sidecar_list`: `model_dump(exclude_none=True)`, which goes by the names of the
fields and not by their aliases. -/
def buildSidecarList (sidecars : List SidecarConfig) : Json :=
  .arr (sidecars.map fun s => .obj (present [
    ("name", some (.str s.name)),
    ("image", some (.str s.image)),
    ("command", s.command.map strings),
    ("args", s.args.map strings),
    ("ports", s.ports.map fun items => .arr (items.map JsonDict.json)),
    ("env", s.env.map fun items => .arr (items.map JsonDict.json)),
    ("volume_mounts", s.volumeMounts.map fun items => .arr (items.map JsonDict.json)),
    ("resources", s.resources.map JsonDict.json),
    ("security_context", s.securityContext.map JsonDict.json)]))

/-! ### Racks -/

/-- `RackPodSpecConfig`. -/
structure RackPodSpecConfig where
  affinity : Option JsonDict := none
  tolerations : Option (List TolerationConfig) := none
  nodeSelector : Option (Dict String String) := none

/-- `RackConfig`; the storage of a rack is the volumes of its `RackStorageConfig`. -/
structure RackConfig where
  id : ℕ
  zone : Option String := none
  region : Option String := none
  rackLabel : Option String := none
  nodeName : Option String := none
  aerospikeConfig : Option JsonDict := none
  storage : Option (Option (List JsonDict)) := none
  podSpec : Option RackPodSpecConfig := none
  revision : Option String := none

/-- The pod spec of a rack. -/
def buildRackPodSpec (podSpec : RackPodSpecConfig) : Json :=
  .obj (present [
    ("affinity", dictOf podSpec.affinity),
    ("tolerations", (podSpec.tolerations.filter (!·.isEmpty)).map buildTolerationList),
    ("nodeSelector", stringDictOf podSpec.nodeSelector)])

/-- `build_rack_list`. -/
def buildRackList (racks : List RackConfig) : Json :=
  .arr (racks.map fun rack => .obj (present [
    ("id", some (.num rack.id)),
    ("zone", textOf rack.zone),
    ("region", textOf rack.region),
    ("rackLabel", textOf rack.rackLabel),
    ("nodeName", textOf rack.nodeName),
    ("aerospikeConfig", dictOf rack.aerospikeConfig),
    ("storage", (dictsOf rack.storage.join).map fun volumes => .obj [("volumes", volumes)]),
    ("revision", rack.revision.map .str),
    ("podSpec", whenTrue (rack.podSpec.map buildRackPodSpec))]))

/-- `RackAwareConfig`. -/
structure RackAwareConfig where
  racks : List RackConfig := []
  namespaces : Option (List String) := none
  scaleDownBatchSize : Option String := none
  maxIgnorablePods : Option String := none
  rollingUpdateBatchSize : Option String := none

/-- `_build_rack_config_dict`. -/
def buildRackConfigDict (rackConfig : RackAwareConfig) : Json :=
  .obj (present [
    ("racks", some (buildRackList rackConfig.racks)),
    ("namespaces", stringsOf rackConfig.namespaces),
    ("scaleDownBatchSize", textOf rackConfig.scaleDownBatchSize),
    ("maxIgnorablePods", textOf rackConfig.maxIgnorablePods),
    ("rollingUpdateBatchSize", textOf rackConfig.rollingUpdateBatchSize)])

/-! ### Monitoring -/

/-- `ServiceMonitorConfig`. -/
structure ServiceMonitorConfig where
  enabled : Bool := false
  interval : Option String := none
  labels : Option (Dict String String) := none

/-- `PrometheusRuleConfig`. -/
structure PrometheusRuleConfig where
  enabled : Bool := false
  labels : Option (Dict String String) := none
  customRules : Option (List JsonDict) := none

/-- `MonitoringConfig`. -/
structure MonitoringConfig where
  enabled : Bool := false
  port : ℕ := 9145
  exporterImage : Option String := none
  resources : Option ResourceConfig := none
  metricLabels : Option (Dict String String) := none
  serviceMonitor : Option ServiceMonitorConfig := none
  prometheusRule : Option PrometheusRuleConfig := none
  exporterEnv : Option (List (Dict String String)) := none

/-- `build_monitoring`. -/
def buildMonitoring (mon : MonitoringConfig) : Json :=
  .obj (present [
    ("enabled", some (.bool mon.enabled)),
    ("port", some (.num mon.port)),
    ("exporterImage", textOf mon.exporterImage),
    ("resources", mon.resources.map buildResourcesDict),
    ("metricLabels", stringDictOf mon.metricLabels),
    ("serviceMonitor", mon.serviceMonitor.map fun sm => .obj (present [
      ("enabled", some (.bool sm.enabled)),
      ("interval", textOf sm.interval),
      ("labels", stringDictOf sm.labels)])),
    ("prometheusRule", mon.prometheusRule.map fun pr => .obj (present [
      ("enabled", some (.bool pr.enabled)),
      ("labels", stringDictOf pr.labels),
      ("customRules", dictsOf pr.customRules)])),
    ("env", whenTrue (mon.exporterEnv.map fun items => .arr (items.map stringDict)))])

/-! ### Network -/

/-- How clients or nodes reach a node. -/
inductive AccessType
  | pod
  | hostInternal
  | hostExternal
  | configuredIP

def AccessType.text : AccessType → String
  | .pod => "pod"
  | .hostInternal => "hostInternal"
  | .hostExternal => "hostExternal"
  | .configuredIP => "configuredIP"

/-- `NetworkAccessConfig`. -/
structure NetworkAccessConfig where
  accessType : AccessType := .pod
  alternateAccessType : Option AccessType := none
  fabricType : Option AccessType := none
  customAccessNetworkNames : Option (List String) := none
  customAlternateAccessNetworkNames : Option (List String) := none
  customFabricNetworkNames : Option (List String) := none

/-- `build_network_policy`. -/
def buildNetworkPolicy (policy : NetworkAccessConfig) : Json :=
  .obj (present [
    ("accessType", some (.str policy.accessType.text)),
    ("alternateAccessType", policy.alternateAccessType.map fun t => .str t.text),
    ("fabricType", policy.fabricType.map fun t => .str t.text),
    ("customAccessNetworkNames", stringsOf policy.customAccessNetworkNames),
    ("customAlternateAccessNetworkNames", stringsOf policy.customAlternateAccessNetworkNames),
    ("customFabricNetworkNames", stringsOf policy.customFabricNetworkNames)])

/-- The external traffic policies of a load balancer. -/
inductive ExternalTrafficPolicy
  | cluster
  | local_

def ExternalTrafficPolicy.text : ExternalTrafficPolicy → String
  | .cluster => "Cluster"
  | .local_ => "Local"

/-- `LoadBalancerSpec`. -/
structure LoadBalancerSpec where
  annotations : Option (Dict String String) := none
  labels : Option (Dict String String) := none
  externalTrafficPolicy : Option ExternalTrafficPolicy := none
  port : ℕ := 3000
  targetPort : ℕ := 3000
  loadBalancerSourceRanges : Option (List String) := none

/-- `SeedsFinderServicesConfig`. -/
structure SeedsFinderServicesConfig where
  loadBalancer : Option LoadBalancerSpec := none

/-- `build_seeds_finder_services`. -/
def buildSeedsFinderServices (sfs : SeedsFinderServicesConfig) : Json :=
  .obj (present [("loadBalancer", sfs.loadBalancer.map fun lb => .obj (present [
    ("port", some (.num lb.port)),
    ("targetPort", some (.num lb.targetPort)),
    ("annotations", stringDictOf lb.annotations),
    ("labels", stringDictOf lb.labels),
    ("externalTrafficPolicy", lb.externalTrafficPolicy.map fun policy => .str policy.text),
    ("loadBalancerSourceRanges", stringsOf lb.loadBalancerSourceRanges)]))])

/-- The kinds of an automatic network policy. -/
inductive NetworkPolicyType
  | kubernetes
  | cilium

def NetworkPolicyType.text : NetworkPolicyType → String
  | .kubernetes => "kubernetes"
  | .cilium => "cilium"

/-- `NetworkPolicyAutoConfig`. -/
structure NetworkPolicyAutoConfig where
  enabled : Bool := false
  type : NetworkPolicyType := .kubernetes

/-- The `networkPolicyConfig` of the spec. -/
def buildNetworkPolicyConfig (config : NetworkPolicyAutoConfig) : Json :=
  .obj [("enabled", .bool config.enabled), ("type", .str config.type.text)]

/-- `BandwidthConfig`. -/
structure BandwidthConfig where
  ingress : Option String := none
  egress : Option String := none

/-- `_build_bandwidth_dict`. -/
def buildBandwidthDict (bandwidth : BandwidthConfig) : Json :=
  .obj (present [("ingress", textOf bandwidth.ingress), ("egress", textOf bandwidth.egress)])

/-- `ValidationPolicyConfig`. -/
structure ValidationPolicyConfig where
  skipWorkDirValidate : Bool := false

/-- `ServiceMetadataConfig`. -/
structure ServiceMetadataConfig where
  annotations : Option (Dict String String) := none
  labels : Option (Dict String String) := none

/-- `_build_service_metadata_dict`. -/
def buildServiceMetadataDict (service : ServiceMetadataConfig) : Json :=
  .obj [("metadata", .obj (present [
    ("annotations", stringDictOf service.annotations),
    ("labels", stringDictOf service.labels)]))]

/-! ### Access control -/

/-- `ACLRoleSpec`. -/
structure ACLRoleSpec where
  name : String
  privileges : List String := ["read-write"]
  whitelist : Option (List String) := none

/-- `ACLUserSpec`. -/
structure ACLUserSpec where
  name : String
  secretName : String
  roles : List String := ["user-admin"]

/-- `ACLConfig`. -/
structure ACLConfig where
  enabled : Bool := false
  roles : List ACLRoleSpec := []
  users : List ACLUserSpec := []
  adminPolicyTimeout : ℕ := 2000

/-- `_build_acl_dict`. -/
def buildAclDict (acl : ACLConfig) : Json :=
  .obj [
    ("roles", .arr (acl.roles.map fun r => .obj (present [
      ("name", some (.str r.name)),
      ("privileges", some (strings r.privileges)),
      ("whitelist", stringsOf r.whitelist)]))),
    ("users", .arr (acl.users.map fun u => .obj [
      ("name", .str u.name), ("secretName", .str u.secretName), ("roles", strings u.roles)])),
    ("adminPolicy", .obj [("timeout", .num acl.adminPolicyTimeout)])]

/-! ### Storage -/

/-- The volume modes. -/
inductive VolumeMode
  | filesystem
  | block

def VolumeMode.text : VolumeMode → String
  | .filesystem => "Filesystem"
  | .block => "Block"

/-- `PersistentVolumeClaimSource`. -/
structure PersistentVolumeClaimSource where
  storageClass : Option String := none
  size : String := "1Gi"
  accessModes : List String := ["ReadWriteOnce"]
  volumeMode : VolumeMode := .filesystem
  labels : Option (Dict String String) := none
  annotations : Option (Dict String String) := none
  selector : Option JsonDict := none

/-- The kinds of volume sources. -/
inductive VolumeSource
  | persistentVolume
  | emptyDir
  | secret
  | configMap
  | hostPath

/-- How a volume is initialized or wiped; `blkdiscardWithHeaderCleanup` is for wiping alone. -/
inductive VolumeMethod
  | none_
  | deleteFiles
  | dd
  | blkdiscard
  | headerCleanup
  | blkdiscardWithHeaderCleanup

def VolumeMethod.text : VolumeMethod → String
  | .none_ => "none"
  | .deleteFiles => "deleteFiles"
  | .dd => "dd"
  | .blkdiscard => "blkdiscard"
  | .headerCleanup => "headerCleanup"
  | .blkdiscardWithHeaderCleanup => "blkdiscardWithHeaderCleanup"

/-- `AerospikeVolumeAttachment`. -/
structure AerospikeVolumeAttachment where
  path : String
  readOnly : Bool := false
  subPath : Option String := none
  subPathExpr : Option String := none
  mountPropagation : Option String := none

/-- `VolumeAttachment`. -/
structure VolumeAttachment extends AerospikeVolumeAttachment where
  containerName : String

/-- `VolumeSpec`. -/
structure VolumeSpec where
  name : String
  source : VolumeSource := .persistentVolume
  persistentVolume : Option PersistentVolumeClaimSource := none
  emptyDir : Option JsonDict := none
  secret : Option JsonDict := none
  configMap : Option JsonDict := none
  hostPath : Option JsonDict := none
  aerospike : Option AerospikeVolumeAttachment := none
  sidecars : Option (List VolumeAttachment) := none
  initContainers : Option (List VolumeAttachment) := none
  initMethod : Option VolumeMethod := none
  wipeMethod : Option VolumeMethod := none
  cascadeDelete : Bool := false

/-- `if flag: d[key] = True`. -/
def flagOf (flag : Bool) : Option Json := if flag then some (.bool true) else none

/-- The `persistentVolume` of a volume: labels and annotations share a `metadata`. -/
def buildPersistentVolume (pv : PersistentVolumeClaimSource) : Json :=
  .obj (present [
    ("size", some (.str pv.size)),
    ("storageClass", textOf pv.storageClass),
    ("volumeMode", some (.str pv.volumeMode.text)),
    ("accessModes", whenTrue (some (strings pv.accessModes))),
    ("metadata", whenTrue (some (.obj (present [
      ("labels", stringDictOf pv.labels),
      ("annotations", stringDictOf pv.annotations)])))),
    ("selector", dictOf pv.selector)])

/-- The source of a volume: what the kind names, if it is given. -/
def buildVolumeSource (vol : VolumeSpec) : Json :=
  match vol.source with
  | .persistentVolume => .obj (present
      [("persistentVolume", vol.persistentVolume.map buildPersistentVolume)])
  | .emptyDir => .obj [("emptyDir", (dictOf vol.emptyDir).getD (.obj []))]
  | .secret => .obj (present [("secret", dictOf vol.secret)])
  | .configMap => .obj (present [("configMap", dictOf vol.configMap)])
  | .hostPath => .obj (present [("hostPath", dictOf vol.hostPath)])

/-- What an attachment says beside the container and the path. -/
def attachmentOptions (att : AerospikeVolumeAttachment) : List (String × Option Json) := [
  ("readOnly", flagOf att.readOnly),
  ("subPath", textOf att.subPath),
  ("subPathExpr", textOf att.subPathExpr),
  ("mountPropagation", textOf att.mountPropagation)]

/-- The mounts of a volume in sidecars or init containers. -/
def buildAttachments (attachments : List VolumeAttachment) : Json :=
  .arr (attachments.map fun att => .obj (present (
    [("containerName", some (.str att.containerName)), ("path", some (.str att.path))]
      ++ attachmentOptions att.toAerospikeVolumeAttachment)))

/-- `_build_volume_cr`. -/
def buildVolumeCr (vol : VolumeSpec) : Json :=
  .obj (present [
    ("name", some (.str vol.name)),
    ("source", some (buildVolumeSource vol)),
    ("aerospike", vol.aerospike.map fun att =>
      .obj (present (("path", some (.str att.path)) :: attachmentOptions att))),
    ("sidecars", whenTrue (vol.sidecars.map buildAttachments)),
    ("initContainers", whenTrue (vol.initContainers.map buildAttachments)),
    ("initMethod", vol.initMethod.map fun m => .str m.text),
    ("wipeMethod", vol.wipeMethod.map fun m => .str m.text),
    ("cascadeDelete", flagOf vol.cascadeDelete)])

/-- `StorageSpec`. -/
structure StorageSpec where
  volumes : List VolumeSpec := []
  filesystemVolumePolicy : Option JsonDict := none
  blockVolumePolicy : Option JsonDict := none
  cleanupThreads : Option ℕ := none
  localStorageClasses : Option (List String) := none
  deleteLocalStorageOnRestart : Bool := false

/-- `_build_storage_spec_cr`. -/
def buildStorageSpecCr (storage : StorageSpec) : Json :=
  .obj (present [
    ("volumes", some (.arr (storage.volumes.map buildVolumeCr))),
    ("filesystemVolumePolicy", storage.filesystemVolumePolicy.map JsonDict.json),
    ("blockVolumePolicy", storage.blockVolumePolicy.map JsonDict.json),
    ("cleanupThreads", numOf storage.cleanupThreads),
    ("localStorageClasses", storage.localStorageClasses.map strings),
    ("deleteLocalStorageOnRestart", flagOf storage.deleteLocalStorageOnRestart)])

end K8s

end ClusterManager
