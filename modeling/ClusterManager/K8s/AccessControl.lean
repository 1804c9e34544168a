import ClusterManager.K8s.Update

/-!
# Turning access control on and off

A cluster with access control has two sections: the users and roles under `aerospikeAccessControl`
and the `security` of the `aerospikeConfig`. `AclInverse` is what turning it on and then off again
should do to both; `aclInverse_iff` is when the patches do.
-/

namespace ClusterManager.K8s

open Json

/-- Where the users and roles stand in a CR. -/
def accessControlPath : List String := ["spec", "aerospikeAccessControl"]

/-- Where the security settings stand in a CR. -/
def securityPath : List String := ["spec", "aerospikeConfig", "security"]

/-- A CR after the merge patch of a request. -/
def afterUpdate (cr : Json) (body : UpdateK8sClusterRequest) : Json :=
  cr.mergePatch (buildUpdatePatch body).1

/-- What turning access control on and then off again should do: both sections are there after the
first patch, with the security settings of its request (merging these in once more changes
nothing), neither is there after the second, and no request is changed. -/
structure AclInverse (cr : Json) (enable disable : UpdateK8sClusterRequest) : Prop where
  access_set : ∃ control, (afterUpdate cr enable).at? accessControlPath = some (.obj control)
  security_set : ∃ security, (afterUpdate cr enable).at? securityPath = some (.obj security) ∧
    ∀ config ∈ enable.aerospikeConfig, ∀ supplied, config.get? "security" = some supplied →
      (Json.obj security).mergePatch supplied = .obj security
  access_gone : (afterUpdate (afterUpdate cr enable) disable).at? accessControlPath = none
  security_gone : (afterUpdate (afterUpdate cr enable) disable).at? securityPath = none
  enable_kept : (buildUpdatePatch enable).2 = enable
  disable_kept : (buildUpdatePatch disable).2 = disable

/-! ### The entries of a patch -/

namespace PatchSpec

variable {spec : PatchSpec} {key : String} {value : Option Json} {α : Type} {item : Option α}
  {change : Dict String Json → α → Dict String Json} {acl : Option ACLConfig}

theorem get?_putAcl_access :
    Dict.get? (spec.putAcl acl) "aerospikeAccessControl" =
      (acl.map fun acl => if acl.enabled then buildAclDict acl else .null).or
        (Dict.get? spec "aerospikeAccessControl") := by
  cases acl with
  | none => simp [putAcl]
  | some acl => cases hen : acl.enabled <;> simp [putAcl, hen]

theorem get?_putAcl_config :
    Dict.get? (spec.putAcl acl) "aerospikeConfig" =
      if acl.any (·.enabled) then
        some (.obj (Dict.set (spec.section_ "aerospikeConfig") "security" (.obj [])))
      else Dict.get? spec "aerospikeConfig" := by
  cases acl with
  | none => simp [putAcl]
  | some acl => cases hen : acl.enabled <;> simp [putAcl, hen, section_]

theorem nodup_put (h : (spec.map Prod.fst).Nodup) : ((spec.put key value).map Prod.fst).Nodup := by
  cases value with
  | none => exact h
  | some value => exact Dict.nodup_keys_set h

theorem nodup_changePodSpec (h : (spec.map Prod.fst).Nodup) :
    ((spec.changePodSpec item change).map Prod.fst).Nodup := nodup_put h

theorem nodup_putAcl (h : (spec.map Prod.fst).Nodup) : ((spec.putAcl acl).map Prod.fst).Nodup := by
  cases acl with
  | none => exact h
  | some acl =>
    cases hen : acl.enabled with
    | false => simpa [putAcl, hen] using Dict.nodup_keys_set h
    | true => simpa [putAcl, hen] using Dict.nodup_keys_set (Dict.nodup_keys_set h)

end PatchSpec

/-- The keys of a patch are distinct. -/
theorem nodup_buildUpdateSpec {body : UpdateK8sClusterRequest} :
    ((buildUpdateSpec body).map Prod.fst).Nodup := by
  unfold buildUpdateSpec
  repeat first
    | exact List.nodup_nil
    | refine PatchSpec.nodup_put ?_
    | refine PatchSpec.nodup_changePodSpec ?_
    | refine PatchSpec.nodup_putAcl ?_

/-- The users and roles of a patch come from its `acl` alone. -/
theorem get?_access {body : UpdateK8sClusterRequest} :
    Dict.get? (buildUpdateSpec body) "aerospikeAccessControl" =
      body.acl.map fun acl => if acl.enabled then buildAclDict acl else .null := by
  simp [buildUpdateSpec, PatchSpec.get?_putAcl_access, PatchSpec.empty]

/-- The `aerospikeConfig` of a patch is the one of the body after it. -/
theorem get?_config {body : UpdateK8sClusterRequest} :
    Dict.get? (buildUpdateSpec body) "aerospikeConfig" =
      if body.acl.any (·.enabled) then
        some (.obj (Dict.set (body.aerospikeConfig.elim [] JsonDict.fields) "security" (.obj [])))
      else body.aerospikeConfig.map JsonDict.json := by
  have hsection : ∀ config : Option JsonDict,
      ((config.map JsonDict.json).getD (.obj [])).fields = config.elim [] JsonDict.fields := by
    intro config
    cases config <;> rfl
  simp [buildUpdateSpec, PatchSpec.get?_putAcl_config, PatchSpec.get?_put_self,
    PatchSpec.section_, PatchSpec.empty, hsection]

/-! ### The sections of a CR after a patch -/

/-- The fields of the `spec` of a CR. -/
def specFields (cr : Json) : Dict String Json := ((Dict.get? cr.fields "spec").getD .null).fields

/-- The fields of the `aerospikeConfig` of a CR. -/
def configFields (cr : Json) : Dict String Json :=
  ((Dict.get? (specFields cr) "aerospikeConfig").getD .null).fields

theorem at?_accessControlPath {cr : Json} :
    cr.at? accessControlPath = Dict.get? (specFields cr) "aerospikeAccessControl" := by
  rw [accessControlPath, at?_cons_cons, at?_singleton]
  rfl

theorem at?_securityPath {cr : Json} :
    cr.at? securityPath = Dict.get? (configFields cr) "security" := by
  rw [securityPath, at?_cons_cons, at?_cons_cons, at?_singleton]
  rfl

/-- What stands in the spec after a patch. -/
theorem specFields_afterUpdate {cr : Json} {body : UpdateK8sClusterRequest} :
    specFields (afterUpdate cr body) = mergeFields (specFields cr) (buildUpdateSpec body) := by
  have hspec : Dict.get? (mergeFields cr.fields [("spec", .obj (buildUpdateSpec body))]) "spec" =
      some (((Dict.get? cr.fields "spec").getD .null).mergePatch (.obj (buildUpdateSpec body))) :=
    get?_mergeFields_of_ne_null (List.nodup_singleton _) rfl (by simp)
  rw [specFields, afterUpdate, buildUpdatePatch, mergePatch, Json.fields, hspec, Option.getD_some,
    mergePatch, Json.fields, specFields]

/-- What stands in the configuration after a patch that has one. -/
theorem configFields_afterUpdate {cr : Json} {body : UpdateK8sClusterRequest}
    {config : Dict String Json}
    (h : Dict.get? (buildUpdateSpec body) "aerospikeConfig" = some (.obj config)) :
    configFields (afterUpdate cr body) = mergeFields (configFields cr) config := by
  rw [configFields, specFields_afterUpdate,
    get?_mergeFields_of_ne_null nodup_buildUpdateSpec h (by simp), Option.getD_some, mergePatch,
    Json.fields, configFields]

/-- A request that turns access control on writes the users and roles. -/
theorem access_of_enabled {cr : Json} {body : UpdateK8sClusterRequest} {acl : ACLConfig}
    (hacl : body.acl = some acl) (hen : acl.enabled = true) :
    ∃ control, (afterUpdate cr body).at? accessControlPath = some (.obj control) := by
  have hget : Dict.get? (buildUpdateSpec body) "aerospikeAccessControl" =
      some (buildAclDict acl) := by
    rw [get?_access, hacl, Option.map_some, if_pos hen]
  rw [at?_accessControlPath, specFields_afterUpdate,
    get?_mergeFields_of_ne_null nodup_buildUpdateSpec hget (by simp [buildAclDict]), buildAclDict,
    mergePatch]
  exact ⟨_, rfl⟩

/-- A request that turns access control off removes the users and roles. -/
theorem access_of_disabled {cr : Json} {body : UpdateK8sClusterRequest} {acl : ACLConfig}
    (hacl : body.acl = some acl) (hdis : acl.enabled = false) :
    (afterUpdate cr body).at? accessControlPath = none := by
  have hget : Dict.get? (buildUpdateSpec body) "aerospikeAccessControl" = some .null := by
    rw [get?_access, hacl, Option.map_some, hdis]
    rfl
  rw [at?_accessControlPath, specFields_afterUpdate,
    get?_mergeFields_of_null nodup_buildUpdateSpec hget]

/-- The security settings after access control was turned on are those the CR had: what the
request supplies of them is dropped. -/
theorem security_of_enabled {cr : Json} {body : UpdateK8sClusterRequest} {acl : ACLConfig}
    (hacl : body.acl = some acl) (hen : acl.enabled = true) :
    (afterUpdate cr body).at? securityPath =
      some (.obj ((cr.at? securityPath).getD .null).fields) := by
  have hget : Dict.get? (buildUpdateSpec body) "aerospikeConfig" =
      some (.obj (Dict.set (body.aerospikeConfig.elim [] JsonDict.fields) "security"
        (.obj []))) := by
    rw [get?_config, hacl, Option.any_some, if_pos hen]
  have hnodup : ((Dict.set (body.aerospikeConfig.elim [] JsonDict.fields) "security"
      (Json.obj [])).map Prod.fst).Nodup := by
    refine Dict.nodup_keys_set ?_
    cases body.aerospikeConfig with
    | none => exact List.nodup_nil
    | some config => exact config.nodup
  rw [at?_securityPath, configFields_afterUpdate hget,
    get?_mergeFields_of_ne_null hnodup Dict.get?_set_self (by simp), mergePatch, mergeFields,
    at?_securityPath]

/-- A request that turns access control off removes the security settings just when it asks for
that itself. -/
theorem security_of_disabled {cr security : Json} {body : UpdateK8sClusterRequest}
    {acl : ACLConfig} (hacl : body.acl = some acl) (hdis : acl.enabled = false)
    (hset : cr.at? securityPath = some security) :
    (afterUpdate cr body).at? securityPath = none ↔
      ∃ config ∈ body.aerospikeConfig, config.get? "security" = some .null := by
  have hget : Dict.get? (buildUpdateSpec body) "aerospikeConfig" =
      body.aerospikeConfig.map JsonDict.json := by
    rw [get?_config, hacl, Option.any_some, hdis]
    rfl
  rw [at?_securityPath] at hset ⊢
  cases hconfig : body.aerospikeConfig with
  | none =>
    rw [hconfig, Option.map_none] at hget
    rw [configFields, specFields_afterUpdate, get?_mergeFields_of_none hget, ← configFields, hset]
    simp
  | some config =>
    rw [hconfig, Option.map_some] at hget
    rw [configFields_afterUpdate hget]
    simp only [Option.mem_def, Option.some.injEq, exists_eq_left']
    cases hsec : config.get? "security" with
    | none => simp [get?_mergeFields_of_none hsec, hset]
    | some value =>
      by_cases hnull : value = .null
      · subst hnull
        simp [get?_mergeFields_of_null config.nodup hsec]
      · simp [get?_mergeFields_of_ne_null config.nodup hsec hnull, hnull]

/-! ### The requests after their patches -/

/-- Building the patch that turns access control on changes the request, unless its
configuration has an empty security section or there is none. -/
theorem enable_kept_iff {body : UpdateK8sClusterRequest} {acl : ACLConfig}
    (hacl : body.acl = some acl) (hen : acl.enabled = true) :
    (buildUpdatePatch body).2 = body ↔
      ∀ config ∈ body.aerospikeConfig, config.get? "security" = some (.obj []) := by
  obtain ⟨⟩ := body
  simp only at hacl
  simp only [buildUpdatePatch, bodyAfterPatch, hacl, Option.any_some, hen, if_true,
    UpdateK8sClusterRequest.mk.injEq, and_true, true_and]
  rename_i config _ _ _ _ _ _ _ _ _ _ _ _ _ _ _ _ _ _ _
  cases config with
  | none => simp
  | some config => simp [JsonDict.set_eq_iff]

theorem disable_kept {body : UpdateK8sClusterRequest} {acl : ACLConfig}
    (hacl : body.acl = some acl) (hdis : acl.enabled = false) :
    (buildUpdatePatch body).2 = body := by
  rw [buildUpdatePatch, bodyAfterPatch, hacl, Option.any_some, hdis]
  rfl

/-- The two patches undo each other just when the first request supplies no security settings and
the second removes them itself. -/
theorem aclInverse_iff {cr : Json} {enable disable : UpdateK8sClusterRequest} {on off : ACLConfig}
    (hon : enable.acl = some on) (hen : on.enabled = true) (hoff : disable.acl = some off)
    (hdis : off.enabled = false) :
    AclInverse cr enable disable ↔
      (∀ config ∈ enable.aerospikeConfig, config.get? "security" = some (.obj [])) ∧
      ∃ config ∈ disable.aerospikeConfig, config.get? "security" = some .null := by
  have hsec : (afterUpdate cr enable).at? securityPath =
      some (.obj ((cr.at? securityPath).getD .null).fields) := security_of_enabled hon hen
  rw [← enable_kept_iff hon hen, ← security_of_disabled hoff hdis hsec]
  constructor
  · intro h
    exact ⟨h.enable_kept, h.security_gone⟩
  · rintro ⟨hkept, hgone⟩
    refine ⟨access_of_enabled hon hen, ⟨_, hsec, ?_⟩, access_of_disabled hoff hdis, hgone, hkept,
      disable_kept hoff hdis⟩
    intro config hconfig supplied hsupplied
    have hempty := (enable_kept_iff hon hen).1 hkept config hconfig
    rw [hsupplied, Option.some.injEq] at hempty
    rw [hempty, mergePatch, mergeFields, Json.fields]

/-- Access control is turned on without settings, and off by a request that removes them. -/
theorem aclInverse_of_null :
    AclInverse (.obj []) { acl := some { enabled := true } }
      { acl := some {}, aerospikeConfig := some (.single "security" .null) } :=
  (aclInverse_iff rfl rfl rfl rfl).2 ⟨by simp, _, rfl, rfl⟩

/-- A request that turns access control on with quotas. -/
def enableQuotas : UpdateK8sClusterRequest where
  acl := some { enabled := true }
  aerospikeConfig := some (.single "security" (.obj [("enable-quotas", .bool true)]))

/-- The quotas are lost from the patch and from the request, and turning access control off leaves
`security` behind. -/
theorem acl_not_inverse :
    ¬ AclInverse (.obj []) enableQuotas { acl := some {} } ∧
      (afterUpdate (.obj []) enableQuotas).at? securityPath = some (.obj []) ∧
      (afterUpdate (afterUpdate (.obj []) enableQuotas) { acl := some {} }).at? securityPath =
        some (.obj []) ∧
      (buildUpdatePatch enableQuotas).2 =
        { enableQuotas with aerospikeConfig := some (.single "security" (.obj [])) } := by
  have hleft : (afterUpdate (afterUpdate (.obj []) enableQuotas) { acl := some {} }).at?
      securityPath = some (.obj []) := rfl
  refine ⟨fun h => ?_, rfl, hleft, rfl⟩
  have hgone := h.security_gone
  rw [hleft] at hgone
  cases hgone

end ClusterManager.K8s
