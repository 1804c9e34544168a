import ClusterManager.K8s.Spec

/-!
# Updating a cluster

`updateK8sCluster` refuses a body that `hasUpdateFields` finds empty and otherwise sends the merge
patch that `buildUpdatePatch` makes of it. The two go through the fields of the body one by one,
each with its own list.
-/

namespace ClusterManager.K8s

open Json

/-- `UpdateK8sClusterRequest`. -/
structure UpdateK8sClusterRequest where
  size : Option ℕ := none
  image : Option String := none
  storage : Option StorageSpec := none
  resources : Option ResourceConfig := none
  monitoring : Option MonitoringConfig := none
  paused : Option Bool := none
  enableDynamicConfig : Option Bool := none
  aerospikeConfig : Option JsonDict := none
  rollingUpdateBatchSize : Option ℕ := none
  maxUnavailable : Option String := none
  disablePdb : Option Bool := none
  rackConfig : Option RackAwareConfig := none
  networkPolicy : Option NetworkAccessConfig := none
  k8sNodeBlockList : Option (List String) := none
  podScheduling : Option PodSchedulingConfig := none
  seedsFinderServices : Option SeedsFinderServicesConfig := none
  networkPolicyConfig : Option NetworkPolicyAutoConfig := none
  acl : Option ACLConfig := none
  bandwidthConfig : Option BandwidthConfig := none
  validationPolicy : Option ValidationPolicyConfig := none
  headlessService : Option ServiceMetadataConfig := none
  podService : Option ServiceMetadataConfig := none
  enableRackIdOverride : Option Bool := none
  podMetadata : Option PodMetadataConfig := none
  sidecars : Option (List SidecarConfig) := none
  initContainers : Option (List SidecarConfig) := none
  aerospikeContainerSecurityContext : Option JsonDict := none

/-- `has_update_fields`. -/
def hasUpdateFields (body : UpdateK8sClusterRequest) : Bool :=
  [body.size.isSome,
   body.image.isSome,
   body.resources.isSome,
   body.monitoring.isSome,
   body.paused.isSome,
   body.enableDynamicConfig.isSome,
   body.aerospikeConfig.isSome,
   body.rollingUpdateBatchSize.isSome,
   body.maxUnavailable.isSome,
   body.disablePdb.isSome,
   body.rackConfig.isSome,
   body.networkPolicy.isSome,
   body.k8sNodeBlockList.isSome,
   body.podScheduling.isSome,
   body.seedsFinderServices.isSome,
   body.networkPolicyConfig.isSome,
   body.acl.isSome,
   body.bandwidthConfig.isSome,
   body.validationPolicy.isSome,
   body.headlessService.isSome,
   body.podService.isSome,
   body.enableRackIdOverride.isSome,
   body.podMetadata.isSome,
   body.sidecars.isSome,
   body.initContainers.isSome,
   body.aerospikeContainerSecurityContext.isSome].any id

/-! ### The patch -/

/-- The part of a patch that stands under `spec`. -/
abbrev PatchSpec : Type := Dict String Json

namespace PatchSpec

/-- The patch before any field was looked at. -/
def empty : PatchSpec := []

/-- `if value is not None: spec[key] = value`. -/
def put (spec : PatchSpec) (key : String) (value : Option Json) : PatchSpec :=
  match value with
  | some value => Dict.set spec key value
  | none => spec

/-- `spec.get(key, {})`, of a key that only dictionaries are put under. -/
def section_ (spec : PatchSpec) (key : String) : Dict String Json :=
  ((Dict.get? spec key).getD (.obj [])).fields

/-- `pod_spec = spec.get("podSpec", {})`, changed if there is something to change, and put
back. -/
def changePodSpec {α : Type} (spec : PatchSpec) (value : Option α)
    (change : Dict String Json → α → Dict String Json) : PatchSpec :=
  spec.put "podSpec" (value.map fun a => .obj (change (spec.section_ "podSpec") a))

/-- The `acl` of a body: enabling access control writes both sections, the second into the
`aerospikeConfig` that the patch has. -/
def putAcl (spec : PatchSpec) (acl : Option ACLConfig) : PatchSpec :=
  match acl with
  | none => spec
  | some acl =>
      if acl.enabled then
        let spec := Dict.set spec "aerospikeAccessControl" (buildAclDict acl)
        Dict.set spec "aerospikeConfig"
          (.obj (Dict.set (section_ spec "aerospikeConfig") "security" (.obj [])))
      else Dict.set spec "aerospikeAccessControl" .null

variable {spec : PatchSpec} {j key : String} {value : Option Json} {α : Type} {item : Option α}
  {change : Dict String Json → α → Dict String Json}

@[simp] theorem get?_put_of_ne (h : j ≠ key) :
    Dict.get? (spec.put key value) j = Dict.get? spec j := by
  cases value with
  | none => rfl
  | some value => exact Dict.get?_set_of_ne h

theorem get?_put_self : Dict.get? (spec.put key value) key = value.or (Dict.get? spec key) := by
  cases value with
  | none => rfl
  | some value => exact Dict.get?_set_self

@[simp] theorem get?_changePodSpec (h : j ≠ "podSpec") :
    Dict.get? (spec.changePodSpec item change) j = Dict.get? spec j := get?_put_of_ne h

end PatchSpec

/-- The `aerospikeContainer` of a pod spec with one more entry. -/
def setContainer (podSpec : Dict String Json) (key : String) (value : Json) : Dict String Json :=
  Dict.set podSpec "aerospikeContainer"
    (.obj (Dict.set (PatchSpec.section_ podSpec "aerospikeContainer") key value))

/-- `pod_spec.update(entries)`. -/
def updateDict (d entries : Dict String Json) : Dict String Json :=
  entries.foldl (fun d entry => Dict.set d entry.1 entry.2) d

/-- A section that is removed when it is empty. -/
def orNull (value : Json) : Json := if value.truthy then value else .null

/-- The `spec` of the patch that `build_update_patch` makes. -/
def buildUpdateSpec (body : UpdateK8sClusterRequest) : PatchSpec :=
  PatchSpec.empty
    |>.put "size" (numOf body.size)
    |>.put "image" (body.image.map .str)
    |>.put "storage" (body.storage.map buildStorageSpecCr)
    |>.changePodSpec body.resources (fun podSpec resources =>
        setContainer podSpec "resources" (buildResourcesDict resources))
    |>.put "monitoring" (body.monitoring.map buildMonitoring)
    |>.put "paused" (body.paused.map .bool)
    |>.put "enableDynamicConfigUpdate" (body.enableDynamicConfig.map .bool)
    |>.put "aerospikeConfig" (body.aerospikeConfig.map JsonDict.json)
    |>.put "rollingUpdateBatchSize" (numOf body.rollingUpdateBatchSize)
    |>.put "maxUnavailable" (body.maxUnavailable.map .str)
    |>.put "disablePDB" (body.disablePdb.map .bool)
    |>.put "rackConfig" (body.rackConfig.map fun rackConfig =>
        if rackConfig.racks.isEmpty then .obj [("racks", .arr [])]
        else buildRackConfigDict rackConfig)
    |>.put "aerospikeNetworkPolicy" (body.networkPolicy.map buildNetworkPolicy)
    |>.put "k8sNodeBlockList" (body.k8sNodeBlockList.map strings)
    |>.changePodSpec body.podScheduling (fun podSpec sched =>
        updateDict podSpec (buildPodScheduling sched))
    |>.put "seedsFinderServices" (body.seedsFinderServices.map buildSeedsFinderServices)
    |>.put "networkPolicyConfig" (body.networkPolicyConfig.map buildNetworkPolicyConfig)
    |>.putAcl body.acl
    |>.put "bandwidthConfig" (body.bandwidthConfig.map fun bw => orNull (buildBandwidthDict bw))
    |>.put "validationPolicy" (body.validationPolicy.map fun policy =>
        .obj [("skipWorkDirValidate", .bool policy.skipWorkDirValidate)])
    |>.put "headlessService" (body.headlessService.map buildServiceMetadataDict)
    |>.put "podService" (body.podService.map buildServiceMetadataDict)
    |>.put "enableRackIDOverride" (body.enableRackIdOverride.map .bool)
    |>.changePodSpec body.podMetadata (fun podSpec metadata =>
        Dict.set podSpec "metadata" (orNull (buildPodMetadataDict metadata)))
    |>.changePodSpec body.sidecars (fun podSpec sidecars =>
        Dict.set podSpec "sidecars" (buildSidecarList sidecars))
    |>.changePodSpec body.initContainers (fun podSpec initContainers =>
        Dict.set podSpec "initContainers" (buildSidecarList initContainers))
    |>.changePodSpec body.aerospikeContainerSecurityContext (fun podSpec context =>
        setContainer podSpec "securityContext" context.json)

/-- The body after `build_update_patch`: the `aerospikeConfig` of the patch is the dictionary of
the body, so that what is written into the one stands in the other. -/
def bodyAfterPatch (body : UpdateK8sClusterRequest) : UpdateK8sClusterRequest :=
  if body.acl.any (·.enabled) then
    { body with aerospikeConfig := body.aerospikeConfig.map (·.set "security" (.obj [])) }
  else body

/-- `build_update_patch`: the patch, and the body after the call. -/
def buildUpdatePatch (body : UpdateK8sClusterRequest) : Json × UpdateK8sClusterRequest :=
  (.obj [("spec", .obj (buildUpdateSpec body))], bodyAfterPatch body)

/-- What `update_k8s_cluster` does with a body: the patch it sends, or the 400. -/
def updateK8sClusterPatch (body : UpdateK8sClusterRequest) : Except Exc Json :=
  if hasUpdateFields body then .ok (buildUpdatePatch body).1
  else .error (.http 400 "At least one field must be provided")

/-- The `spec` of a patch. -/
def patchSpec (patch : Json) : Json := (Dict.get? patch.fields "spec").getD .null

/-! ### What the two lists agree on -/

/-- A body without a field that `has_update_fields` looks at has a storage at most. -/
theorem hasUpdateFields_eq_false_iff {body : UpdateK8sClusterRequest} :
    hasUpdateFields body = false ↔ body = { storage := body.storage } := by
  obtain ⟨⟩ := body
  simp only [hasUpdateFields, List.any_cons, List.any_nil, id, Bool.or_false,
    Bool.or_eq_false_iff, Option.isSome_eq_false_iff, Option.isNone_iff_eq_none,
    UpdateK8sClusterRequest.mk.injEq, true_and]

namespace PatchSpec

@[simp] theorem set_ne_nil {spec : Dict String Json} {key : String} {value : Json} :
    Dict.set spec key value ≠ [] := by
  cases spec with
  | nil => simp [Dict.set]
  | cons p spec =>
    simp only [Dict.set]
    split <;> simp

@[simp] theorem put_eq_nil {spec : PatchSpec} {key : String} {value : Option Json} :
    spec.put key value = [] ↔ spec = [] ∧ value = none := by
  cases value <;> simp [put]

@[simp] theorem changePodSpec_eq_nil {α : Type} {spec : PatchSpec} {value : Option α}
    {change : Dict String Json → α → Dict String Json} :
    spec.changePodSpec value change = [] ↔ spec = [] ∧ value = none := by
  simp [changePodSpec]

@[simp] theorem putAcl_eq_nil {spec : PatchSpec} {acl : Option ACLConfig} :
    spec.putAcl acl = [] ↔ spec = [] ∧ acl = none := by
  cases acl with
  | none => simp [putAcl]
  | some acl => cases hen : acl.enabled <;> simp [putAcl, hen]

end PatchSpec

/-- The patch of a body is empty just when the body is. -/
theorem buildUpdateSpec_eq_nil_iff {body : UpdateK8sClusterRequest} :
    buildUpdateSpec body = [] ↔ hasUpdateFields body = false ∧ body.storage = none := by
  rw [hasUpdateFields_eq_false_iff]
  obtain ⟨⟩ := body
  simp only [buildUpdateSpec, PatchSpec.empty, PatchSpec.put_eq_nil, PatchSpec.changePodSpec_eq_nil,
    PatchSpec.putAcl_eq_nil, Option.map_eq_none_iff, numOf_eq_none,
    UpdateK8sClusterRequest.mk.injEq, true_and]
  constructor
  · intro h
    simp only [h, and_self]
  · intro h
    simp only [h, and_self]

theorem truthy_patchSpec {body : UpdateK8sClusterRequest} :
    (patchSpec (buildUpdatePatch body).1).truthy = !(buildUpdateSpec body).isEmpty := rfl

/-- The two lists agree on every body but those that change the storage alone. -/
theorem hasUpdateFields_iff_patch_iff (body : UpdateK8sClusterRequest) :
    (hasUpdateFields body = true ↔ (patchSpec (buildUpdatePatch body).1).truthy = true) ↔
      ∀ storage, body ≠ { storage := some storage } := by
  rw [truthy_patchSpec, Bool.not_eq_true', List.isEmpty_eq_false_iff, ne_eq,
    buildUpdateSpec_eq_nil_iff, not_and]
  constructor
  · rintro h storage rfl
    cases h.2 fun _ hnone => by cases hnone
  · intro h
    constructor
    · intro htrue hfalse
      rw [htrue] at hfalse
      cases hfalse
    · intro himp
      by_contra hne
      have hfalse := Bool.not_eq_true _ ▸ hne
      cases hstorage : body.storage with
      | none => exact himp hfalse hstorage
      | some storage =>
        refine h storage ?_
        rw [← hstorage]
        exact hasUpdateFields_eq_false_iff.1 hfalse

/-- A body that sets the storage alone is refused as empty, though it has a patch. -/
theorem storage_only_refused :
    ¬ (hasUpdateFields { storage := some {} } = true ↔
        (patchSpec (buildUpdatePatch { storage := some {} }).1).truthy = true) ∧
      updateK8sClusterPatch { storage := some {} } =
        .error (.http 400 "At least one field must be provided") :=
  ⟨fun h => (by cases h.2 rfl), rfl⟩

/-- What is sent is never empty. -/
theorem truthy_of_updateK8sClusterPatch {body : UpdateK8sClusterRequest} {patch : Json}
    (h : updateK8sClusterPatch body = .ok patch) : (patchSpec patch).truthy = true := by
  unfold updateK8sClusterPatch at h
  split at h
  next hfields =>
    cases h
    rw [truthy_patchSpec, Bool.not_eq_true', List.isEmpty_eq_false_iff, ne_eq,
      buildUpdateSpec_eq_nil_iff, hfields]
    rintro ⟨h, -⟩
    cases h
  next => cases h

end ClusterManager.K8s
