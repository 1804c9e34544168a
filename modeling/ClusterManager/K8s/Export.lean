import ClusterManager.K8s.Labels

/-!
# Exported manifests

`cleanCrForExport` takes from a CR what the API server put there, and `importK8sCluster` takes a
manifest to create a cluster. `reimport_recreates` says what of a cluster a manifest carries over
that was exported and is imported again, maybe into another namespace, and when it is created.
-/

namespace ClusterManager.K8s

open Db

/-- The keys of the metadata that an export leaves out. -/
def serverOwned : List String :=
  ["managedFields", "resourceVersion", "uid", "generation", "creationTimestamp"]

/-- The annotation that an export leaves out. -/
def lastApplied : String := "kubectl.kubernetes.io/last-applied-configuration"

/-- Metadata without that annotation: `None` where there is no other one. -/
def withoutLastApplied (metadata : Dict String Json) : Dict String Json :=
  match Dict.get? metadata "annotations" with
  | some (.obj annotations) =>
      if annotations.isEmpty then metadata
      else
        let kept := annotations.filter fun entry => entry.1 ≠ lastApplied
        Dict.set metadata "annotations" (if kept.isEmpty then .null else .obj kept)
  | _ => metadata

/-- `clean_cr_for_export`. -/
def cleanCrForExport : Json → Except Exc Json
  | .obj item =>
      match (Dict.get? item "metadata").getD (.obj []) with
      | .obj metadata => .ok (.obj
          [("apiVersion", (Dict.get? item "apiVersion").getD (.str "acko.io/v1alpha1")),
            ("kind", (Dict.get? item "kind").getD (.str "AerospikeCluster")),
            ("metadata", .obj (withoutLastApplied (serverOwned.foldl Dict.erase metadata))),
            ("spec", (Dict.get? item "spec").getD (.obj []))])
      -- `dict` of a CR's metadata that is no dictionary
      | _ => .error .typeError
  | _ => .error .typeError

/-- `get_k8s_cluster_yaml`. -/
def getK8sClusterYaml (callerOwnerId namespace_ name : String) : RouterProgram Json :=
  k8sEndpoint "export cluster YAML" do
    let item ← assertCallerOwnsK8sCluster namespace_ name callerOwnerId
    let yaml ← Coroutine.lift (cleanCrForExport item)
    return .obj [("yaml", yaml)]

/-! ### What is kept -/

/-- The manifest of a cluster that has the spec, the metadata and the label of another one, in a
namespace that may be another one. -/
structure Recreates (item : Json) (namespace_ : String) (body : Json) : Prop where
  spec : ∀ path, body.at? ("spec" :: path) =
    ((Dict.get? item.fields "spec").getD (.obj [])).at? path
  metadata : ∀ key, key ∉ serverOwned → key ∉ ["namespace", "annotations", "labels"] → ∀ path,
    body.at? ("metadata" :: key :: path) = item.at? ("metadata" :: key :: path)
  annotations : ∀ key, key ≠ lastApplied → ∀ path,
    body.at? ("metadata" :: "annotations" :: key :: path) =
      item.at? ("metadata" :: "annotations" :: key :: path)
  labels : ∀ key, key ≠ workspaceLabel → ∀ path,
    body.at? ("metadata" :: "labels" :: key :: path) =
      item.at? ("metadata" :: "labels" :: key :: path)
  label : ∀ workspaceId, crWorkspaceId item = .ok workspaceId →
    body.at? ["metadata", "labels", workspaceLabel] =
      some (.str (workspaceId.getD defaultWorkspaceId))
  owned : ∀ key ∈ serverOwned, body.at? ["metadata", key] = none
  applied : body.at? ["metadata", "annotations", lastApplied] = none
  status : body.at? ["status"] = none
  placed : body.at? ["metadata", "namespace"] = some (.str namespace_)

/-- A manifest of four fields. -/
def manifest (apiVersion kind : Json) (metadata : Dict String Json) (spec : Json) : Json :=
  .obj [("apiVersion", apiVersion), ("kind", kind), ("metadata", .obj metadata), ("spec", spec)]

/-- The metadata of a CR. -/
def metadataOf (item : Json) : Dict String Json := (item.under "metadata").fields

variable {apiVersion kind spec item exported : Json} {metadata : Dict String Json}

theorem at?_manifest_metadata {path : List String} :
    (manifest apiVersion kind metadata spec).at? ("metadata" :: path) =
      (Json.obj metadata).at? path := rfl

theorem at?_manifest_spec {path : List String} :
    (manifest apiVersion kind metadata spec).at? ("spec" :: path) = spec.at? path := rfl

theorem at?_manifest_status : (manifest apiVersion kind metadata spec).at? ["status"] = none := rfl

/-- An export is a manifest with the metadata of its CR, less what the server owns. -/
theorem cleanCrForExport_eq (h : cleanCrForExport item = .ok exported) :
    ∃ apiVersion kind, exported = manifest apiVersion kind
      (withoutLastApplied (serverOwned.foldl Dict.erase (metadataOf item)))
      ((Dict.get? item.fields "spec").getD (.obj [])) := by
  unfold cleanCrForExport at h
  split at h
  next fields =>
    split at h
    next metadata hmetadata =>
      cases h
      have hof : metadataOf (.obj fields) = metadata := by
        unfold metadataOf Json.under
        cases hget : Dict.get? fields "metadata" with
        | none =>
          simp only [hget, Option.getD_none, Json.obj.injEq] at hmetadata
          simp only [Json.fields, hget, Option.getD_none, hmetadata]
        | some value =>
          simp only [hget, Option.getD_some] at hmetadata
          simp only [Json.fields, hget, Option.getD_some, hmetadata]
      exact ⟨_, _, by rw [hof]; rfl⟩
    next => cases h
  next => cases h

/-! ### Metadata -/

variable {key : String} {path keys : List String}

theorem get?_eraseAll : Dict.get? (keys.foldl Dict.erase metadata) key =
    if key ∈ keys then none else Dict.get? metadata key := by
  induction keys generalizing metadata with
  | nil => simp
  | cons k keys ih =>
    rw [List.foldl_cons, ih]
    by_cases hk : key = k
    · subst hk
      simp
    · simp [hk]

theorem get?_withoutLastApplied (h : key ≠ "annotations") :
    Dict.get? (withoutLastApplied metadata) key = Dict.get? metadata key := by
  unfold withoutLastApplied
  split
  · split
    · rfl
    · exact Dict.get?_set_of_ne h
  · rfl

/-- An annotation that is left, or left out. -/
theorem at?_withoutLastApplied :
    (Json.obj (withoutLastApplied metadata)).at? ("annotations" :: key :: path) =
      if key = lastApplied then none
      else (Json.obj metadata).at? ("annotations" :: key :: path) := by
  unfold withoutLastApplied
  split
  next annotations hannotations =>
    have hold : (Json.obj metadata).at? ("annotations" :: key :: path) =
        (Dict.get? annotations key).bind (Json.at? · path) := by
      rw [Json.at?_cons]
      simp only [Json.fields, hannotations, Option.bind_some, Json.at?_cons]
    rw [hold]
    split
    next hempty =>
      rw [hold, List.isEmpty_iff.1 hempty]
      simp
    next =>
      -- a dictionary with nothing left and `None` have the same fields
      have hfields : ∀ kept : Dict String Json,
          (if kept.isEmpty then Json.null else .obj kept).fields = kept := by
        intro kept
        cases kept <;> rfl
      rw [Json.at?_cons]
      simp only [Json.fields, Dict.get?_set_self, Option.bind_some]
      have hkept : Dict.get? (annotations.filter fun entry => entry.1 ≠ lastApplied) key =
          if key = lastApplied then none else Dict.get? annotations key := by
        simpa using Dict.get?_filter_key (p := fun k => decide (k = lastApplied))
      rw [Json.at?_cons, hfields, hkept]
      by_cases hkey : key = lastApplied
      · rw [if_pos hkey, if_pos hkey, Option.bind_none]
      · rw [if_neg hkey, if_neg hkey]
  next hnone =>
    have hold : (Json.obj metadata).at? ("annotations" :: key :: path) = none := by
      rw [Json.at?_cons]
      cases hvalue : Dict.get? metadata "annotations" with
      | none => simp only [Json.fields, hvalue, Option.bind_none]
      | some value =>
        simp only [Json.fields, hvalue, Option.bind_some]
        cases value with
        | obj annotations => exact absurd hvalue (hnone annotations)
        | _ => rfl
    rw [hold, ite_self]

/-- The metadata of an imported manifest. -/
def importedMetadata (metadata : Dict String Json) (crNamespace : Json) : Dict String Json :=
  ["resourceVersion", "uid", "creationTimestamp", "generation", "managedFields"].foldl Dict.erase
    (Dict.set metadata "namespace" crNamespace)

theorem cleanImport_eq {namespace_ : Option String} :
    cleanImport ⟨(manifest apiVersion kind metadata spec).fields, namespace_⟩ =
      let crNamespace :=
        (Json.str (namespace_.getD "")).or ((Dict.get? metadata "namespace").getD .null)
      if crNamespace.truthy = false then
        .error (.http 400 "Namespace is required (set in CR metadata or request body)")
      else if ((Dict.get? metadata "name").getD .null).truthy = false then
        .error (.http 400 "CR metadata.name is required")
      else .ok (crNamespace, manifest (.str "acko.io/v1alpha1") (.str "AerospikeCluster")
        (importedMetadata metadata crNamespace) spec) := rfl

/-- An imported manifest, in the namespace it is given. -/
theorem cleanImport_manifest {namespace_ : Option String} {crNamespace cr : Json}
    (h : cleanImport ⟨(manifest apiVersion kind metadata spec).fields, namespace_⟩ =
      .ok (crNamespace, cr)) :
    cr = manifest (.str "acko.io/v1alpha1") (.str "AerospikeCluster")
      (importedMetadata metadata crNamespace) spec := by
  rw [cleanImport_eq] at h
  dsimp only at h
  split at h
  · cases h
  · split at h
    · cases h
    · cases h
      rfl

theorem get?_importedMetadata {crNamespace : Json} :
    Dict.get? (importedMetadata metadata crNamespace) key =
      if key ∈ serverOwned then none
      else if key = "namespace" then some crNamespace else Dict.get? metadata key := by
  have hperm : (key ∈ ["resourceVersion", "uid", "creationTimestamp", "generation",
      "managedFields"]) ↔ key ∈ serverOwned := by
    simp only [serverOwned, List.mem_cons, List.not_mem_nil]
    tauto
  rw [importedMetadata, get?_eraseAll]
  simp only [hperm]
  split
  · rfl
  · by_cases hkey : key = "namespace"
    · subst hkey
      rw [if_pos rfl, Dict.get?_set_self]
    · rw [if_neg hkey, Dict.get?_set_of_ne hkey]

/-- The metadata of a CR as it is exported and imported again. -/
def reimported (item : Json) (crNamespace : Json) : Dict String Json :=
  importedMetadata (withoutLastApplied (serverOwned.foldl Dict.erase (metadataOf item))) crNamespace

theorem get?_reimported {crNamespace : Json} (hannotations : key ≠ "annotations") :
    Dict.get? (reimported item crNamespace) key =
      if key ∈ serverOwned then none
      else if key = "namespace" then some crNamespace else Dict.get? (metadataOf item) key := by
  rw [reimported, get?_importedMetadata]
  split
  · rfl
  next howned =>
    rw [get?_withoutLastApplied hannotations, get?_eraseAll, if_neg howned]

theorem at?_reimported_annotations {crNamespace : Json} :
    (Json.obj (reimported item crNamespace)).at? ("annotations" :: key :: path) =
      if key = lastApplied then none
      else (Json.obj (metadataOf item)).at? ("annotations" :: key :: path) := by
  have hgets : ∀ {a b : Dict String Json}, Dict.get? a "annotations" = Dict.get? b "annotations" →
      (Json.obj a).at? ("annotations" :: key :: path) =
        (Json.obj b).at? ("annotations" :: key :: path) := by
    intro a b hab
    rw [Json.at?_cons, Json.at?_cons]
    simp only [Json.fields, hab]
  rw [hgets (b := withoutLastApplied (serverOwned.foldl Dict.erase (metadataOf item))),
    at?_withoutLastApplied]
  · split
    · rfl
    · exact hgets (by rw [get?_eraseAll, if_neg (by decide)])
  · rw [reimported, get?_importedMetadata, if_neg (by decide), if_neg (by decide)]

theorem at?_metadata : item.at? ("metadata" :: key :: path) =
    (Json.obj (metadataOf item)).at? (key :: path) := by
  rw [Json.at?_cons, metadataOf, Json.under]
  cases hget : Dict.get? item.fields "metadata" with
  | none => rfl
  | some value => rfl

/-- The label is read off the labels of a dictionary of metadata. -/
theorem crLabel_eq (h : item.get "metadata" (.obj []) = .ok (.obj metadata)) :
    crLabel item =
      (((Dict.get? metadata "labels").getD .null).or (.obj [])).get workspaceLabel := by
  have hmetadata : crMetadata item = .ok (.obj metadata) := by
    rw [crMetadata, h]
    cases metadata <;> rfl
  rw [crLabel, hmetadata]
  rfl

theorem get_metadata (h : cleanCrForExport item = .ok exported) :
    item.get "metadata" (.obj []) = .ok (.obj (metadataOf item)) := by
  cases item with
  | obj fields =>
    rw [Json.get_obj]
    unfold cleanCrForExport at h
    unfold metadataOf Json.under
    cases hget : Dict.get? fields "metadata" with
    | none =>
      simp only [Json.fields, hget, Option.getD_none]
    | some value =>
      simp only [hget, Option.getD_some] at h
      cases value with
      | obj metadata => simp only [Json.fields, hget, Option.getD_some]
      | _ => cases h
  | _ => cases h

/-- A CR that was exported and imported again is labelled as it was. -/
theorem crWorkspaceId_reimported {crNamespace : Json}
    (hexport : cleanCrForExport item = .ok exported) :
    crWorkspaceId (manifest apiVersion kind (reimported item crNamespace) spec) =
      crWorkspaceId item := by
  have hlabels : Dict.get? (reimported item crNamespace) "labels" =
      Dict.get? (metadataOf item) "labels" := by
    rw [get?_reimported (by decide), if_neg (by decide), if_neg (by decide)]
  have hlabel : crLabel (manifest apiVersion kind (reimported item crNamespace) spec) =
      crLabel item := by
    have hmetadata : (manifest apiVersion kind (reimported item crNamespace) spec).get "metadata"
        (.obj []) = .ok (.obj (reimported item crNamespace)) := rfl
    rw [crLabel_eq hmetadata, hlabels, crLabel_eq (get_metadata hexport)]
  rw [crWorkspaceId, crWorkspaceId, hlabel]

/-- The label of a CR that has one. -/
theorem at?_label {workspaceId : String} (h : item.get "metadata" (.obj []) = .ok (.obj metadata))
    (hlabel : crLabel item = .ok (.str workspaceId)) :
    (Json.obj metadata).at? ["labels", workspaceLabel] = some (.str workspaceId) := by
  rw [crLabel_eq h] at hlabel
  rw [Json.at?_cons]
  cases hget : Dict.get? metadata "labels" with
  | none =>
    rw [hget] at hlabel
    cases hlabel
  | some labels =>
    rw [hget] at hlabel
    simp only [Json.fields, hget, Option.bind_some, Json.at?_singleton]
    cases labels with
    | obj labels =>
      have hor : (Json.obj labels).or (.obj []) = .obj labels := by
        cases labels <;> rfl
      rw [Option.getD_some, hor, Json.get_obj] at hlabel
      cases hfound : Dict.get? labels workspaceLabel with
      | none =>
        rw [hfound] at hlabel
        cases hlabel
      | some value =>
        rw [hfound] at hlabel
        cases hlabel
        rfl
    | _ =>
      -- nothing else has a `get`, and what is falsy has nothing to get
      unfold Json.or at hlabel
      split at hlabel <;> cases hlabel

/-- A manifest with a stamp: its labels have one more, and the rest is as it was. -/
theorem stampWorkspace_manifest {workspaceId : String} {cr : Json}
    (h : stampWorkspace (manifest apiVersion kind metadata spec) workspaceId = .ok cr) :
    ∃ labels metadata', cr = manifest apiVersion kind metadata' spec ∧
      (Dict.get? metadata "labels" = some (.obj labels) ∨
        Dict.get? metadata "labels" = none ∧ labels = []) ∧
      Dict.get? metadata' "labels" =
        some (.obj (Dict.set labels workspaceLabel (.str workspaceId))) ∧
      ∀ key, key ≠ "labels" → Dict.get? metadata' key = Dict.get? metadata key := by
  obtain ⟨⟨cr₁, found⟩, hfound, h⟩ := exists_of_bind_ok h
  obtain ⟨rfl, rfl⟩ : cr₁ = manifest apiVersion kind metadata spec ∧ found = .obj metadata := by
    cases hfound
    exact ⟨rfl, rfl⟩
  obtain ⟨stamped, hstamped, h⟩ := exists_of_bind_ok h
  obtain ⟨⟨metadata₁, labels⟩, hlabels, hstamped⟩ := exists_of_bind_ok hstamped
  obtain ⟨labels', hset, hstamped⟩ := exists_of_bind_ok hstamped
  cases labels with
  | obj labels =>
    cases hset
    unfold Json.setDefault at hlabels
    dsimp only at hlabels
    split at hlabels
    next value hget =>
      cases hlabels
      cases hstamped
      cases h
      exact ⟨labels, _, rfl, Or.inl hget, Dict.get?_set_self,
        fun key hkey => Dict.get?_set_of_ne hkey⟩
    next hget =>
      cases hlabels
      cases hstamped
      cases h
      refine ⟨[], _, rfl, Or.inr ⟨hget, rfl⟩, Dict.get?_set_self, fun key hkey => ?_⟩
      rw [Dict.get?_set_of_ne hkey, Dict.get?_set_of_ne hkey]
  | _ => cases hset

/-- Metadata that differs from the reimported one in its labels only. -/
theorem recreates_manifest {namespace_ : String} {metadata' : Dict String Json}
    (hother : ∀ key, key ≠ "labels" →
      Dict.get? metadata' key = Dict.get? (reimported item (.str namespace_)) key)
    (hlabels : ∀ key, key ≠ workspaceLabel → ∀ path,
      (Json.obj metadata').at? ("labels" :: key :: path) =
        (Json.obj (metadataOf item)).at? ("labels" :: key :: path))
    (hlabel : ∀ workspaceId, crWorkspaceId item = .ok workspaceId →
      (Json.obj metadata').at? ["labels", workspaceLabel] =
        some (.str (workspaceId.getD defaultWorkspaceId))) :
    Recreates item namespace_ (manifest apiVersion kind metadata'
      ((Dict.get? item.fields "spec").getD (.obj []))) := by
  have hat : ∀ {key path}, key ≠ "labels" → (Json.obj metadata').at? (key :: path) =
      (Json.obj (reimported item (.str namespace_))).at? (key :: path) := by
    intro key path hkey
    rw [Json.at?_cons, Json.at?_cons]
    simp only [Json.fields, hother key hkey]
  constructor
  case spec => exact fun path => at?_manifest_spec
  case metadata =>
    intro key howned hkey path
    simp only [List.mem_cons, List.not_mem_nil, or_false, not_or] at hkey
    rw [at?_manifest_metadata, hat hkey.2.2, at?_metadata, Json.at?_cons, Json.at?_cons]
    simp only [Json.fields]
    rw [get?_reimported hkey.2.1, if_neg howned, if_neg hkey.1]
  case annotations =>
    intro key hkey path
    rw [at?_manifest_metadata, hat (by decide), at?_reimported_annotations, if_neg hkey,
      at?_metadata]
  case labels =>
    intro key hkey path
    rw [at?_manifest_metadata, hlabels key hkey path, at?_metadata]
  case label =>
    intro workspaceId h
    rw [at?_manifest_metadata, hlabel workspaceId h]
  case owned =>
    intro key howned
    have hne : key ≠ "labels" ∧ key ≠ "annotations" := by
      constructor <;> rintro rfl <;> revert howned <;> decide
    rw [at?_manifest_metadata, hat hne.1, Json.at?_singleton]
    simp only [Json.fields]
    rw [get?_reimported hne.2, if_pos howned]
  case applied =>
    rw [at?_manifest_metadata, hat (by decide), at?_reimported_annotations, if_pos rfl]
  case status => exact at?_manifest_status
  case placed =>
    rw [at?_manifest_metadata, hat (by decide), Json.at?_singleton]
    simp only [Json.fields]
    rw [get?_reimported (by decide), if_neg (by decide), if_pos rfl]

/-- What the workspace check lets through of a manifest that was exported. -/
theorem recreates_checkOrStamp {callerOwnerId : String} {crNamespace cr : Json}
    (hexport : cleanCrForExport item = .ok exported)
    (hcr : cr = manifest apiVersion kind (reimported item crNamespace)
      ((Dict.get? item.fields "spec").getD (.obj []))) :
    (checkOrStamp callerOwnerId cr).Safe (fun _ _ _ _ => True)
      (fun r (_ : Unit) => ∀ ns body, r = .kube (.createCluster ns body) →
        Recreates item ns body) ()
      (fun body _ => ∀ ns, crNamespace = .str ns → Recreates item ns body) fun _ _ => True := by
  have hid : crWorkspaceId cr = crWorkspaceId item := by
    rw [hcr]
    exact crWorkspaceId_reimported hexport
  have hlabels : Dict.get? (reimported item crNamespace) "labels" =
      Dict.get? (metadataOf item) "labels" := by
    rw [get?_reimported (by decide), if_neg (by decide), if_neg (by decide)]
  have hunder : ∀ path, (Json.obj (reimported item crNamespace)).at? ("labels" :: path) =
      (Json.obj (metadataOf item)).at? ("labels" :: path) := by
    intro path
    rw [Json.at?_cons, Json.at?_cons]
    simp only [Json.fields, hlabels]
  unfold checkOrStamp
  refine Coroutine.safe_bind.2
    (Coroutine.safe_lift.2 ⟨fun workspaceId hws => ?_, fun _ _ => trivial⟩)
  rw [hid] at hws
  -- without a label the cluster is stamped with the default workspace, with one it goes through
  cases workspaceId with
  | none =>
    refine Coroutine.safe_lift.2 ⟨fun body hstamp ns hns => ?_, fun _ _ => trivial⟩
    subst hns
    rw [hcr] at hstamp
    obtain ⟨labels, metadata', rfl, hold, hnew, hother⟩ := stampWorkspace_manifest hstamp
    refine recreates_manifest hother (fun key hkey path => ?_) fun workspaceId hws' => ?_
    · rw [Json.at?_cons, ← hunder, Json.at?_cons]
      simp only [Json.fields, hnew, Option.bind_some, Json.at?_cons]
      rw [Dict.get?_set_of_ne hkey]
      rcases hold with hold | ⟨hold, rfl⟩ <;> rw [hold] <;> rfl
    · rw [hws] at hws'
      cases hws'
      rw [Json.at?_cons]
      simp only [Json.fields, hnew, Option.bind_some, Json.at?_singleton]
      rw [Dict.get?_set_self]
      rfl
  | some workspaceId =>
    have hrecreates : ∀ ns, crNamespace = .str ns → Recreates item ns cr := by
      rintro ns rfl
      rw [hcr]
      refine recreates_manifest (fun _ _ => rfl) (fun key _ path => hunder _) fun id hid' => ?_
      rw [hws] at hid'
      cases hid'
      rw [hunder]
      exact at?_label (get_metadata hexport) (crWorkspaceId_eq_some hws).1
    refine Coroutine.safe_bind.2 ?_
    rw [workspaceVisible, safe_isWorkspaceVisible]
    refine Coroutine.safe_call.2 ⟨fun ns body hcall => ?_, fun ws _ _ => ?_, fun e _ _ => ?_⟩
    · cases hcall
    · split
      · exact hrecreates
      · trivial
    · split
      · exact hrecreates
      · trivial

/-- Whatever an import of an exported manifest submits recreates the cluster. -/
theorem asks_importK8sCluster (callerOwnerId : String)
    (hexport : cleanCrForExport item = .ok exported) (namespace_ : Option String) :
    Coroutine.Asks (fun r => ∀ ns body, r = .kube (.createCluster ns body) →
        Recreates item ns body)
      (importK8sCluster callerOwnerId ⟨exported.fields, namespace_⟩) := by
  obtain ⟨apiVersion, kind, hexported⟩ := cleanCrForExport_eq hexport
  refine Coroutine.Asks.tryCatch ?_ fun e => ?_
  · refine Coroutine.asks_lift_bind fun cleaned hclean => ?_
    obtain ⟨crNamespace, cr⟩ := cleaned
    rw [hexported] at hclean
    have hcr : cr = manifest (.str "acko.io/v1alpha1") (.str "AerospikeCluster")
        (reimported item crNamespace) ((Dict.get? item.fields "spec").getD (.obj [])) :=
      cleanImport_manifest hclean
    refine Coroutine.safe_bind.2 ((recreates_checkOrStamp hexport hcr).mono
      (fun body _ hbody => ?_) fun _ _ _ => trivial)
    refine Coroutine.safe_bind.2 (Coroutine.safe_call.2
      ⟨nofun, fun existingNamespaces _ _ => ?_, fun _ _ _ => trivial⟩)
    cases crNamespace with
    | str ns =>
      dsimp only
      split
      · refine Coroutine.safe_bind.2 (Coroutine.safe_call.2
          ⟨fun ns' body' hcall => ?_, fun result _ _ => ?_, fun _ _ _ => trivial⟩)
        · cases hcall
          exact hbody ns rfl
        · exact Coroutine.safe_lift.2 ⟨fun _ _ => trivial, fun _ _ => trivial⟩
      · trivial
    | _ => trivial
  · cases e with
    | http status detail => trivial
    | k8sApi status reason message => trivial
    | _ => trivial

/-! ### The import goes through -/

/-- What the calls of a run are answered. -/
abbrev RouterOracle : Type := Coroutine.History RouterCall RouterCall.Resp Exc →
  (r : RouterCall) → Except Exc r.Resp

/-- The labels of a CR are a dictionary, if it has any. -/
def DictLabels (item : Json) : Prop :=
  ∀ labels, Dict.get? (metadataOf item) "labels" = some labels → labels.IsDict

/-- Along a run, the export of a CR with a name can be imported into a namespace: it is the one
that is asked for or else that of the CR, the API server lists it, and the caller sees the
workspace of the CR whenever it is looked up. -/
structure Importable (oracle : RouterOracle) (callerOwnerId : String) (item : Json)
    (namespace_ : Option String) (ns : String) : Prop where
  named : ((Dict.get? (metadataOf item) "name").getD .null).truthy = true
  labels : DictLabels item
  asked : (Json.str (namespace_.getD "")).or
    ((Dict.get? (metadataOf item) "namespace").getD .null) = .str ns
  nonempty : ns ≠ ""
  listed : ∀ past, ∃ existing, oracle past (.kube .listNamespaces) = .ok existing ∧ ns ∈ existing
  visible : ∀ workspaceId, crWorkspaceId item = .ok (some workspaceId) → ∀ past, ∃ ws,
    oracle past (.db (.getWorkspace workspaceId)) = .ok ws ∧ ownedOrShared ws callerOwnerId = true

theorem exists_crWorkspaceId (hexport : cleanCrForExport item = .ok exported)
    (h : DictLabels item) : ∃ workspaceId, crWorkspaceId item = .ok workspaceId := by
  have hlabel : ∃ label, crLabel item = .ok label := by
    rw [crLabel_eq (get_metadata hexport)]
    cases hget : Dict.get? (metadataOf item) "labels" with
    | none => exact ⟨_, rfl⟩
    | some labels =>
      obtain ⟨fields, rfl⟩ := h labels hget
      cases fields <;> exact ⟨_, rfl⟩
  obtain ⟨label, hlabel⟩ := hlabel
  rw [crWorkspaceId, hlabel]
  cases label <;> exact ⟨_, rfl⟩

theorem exists_stampWorkspace {workspaceId : String}
    (h : ∀ labels, Dict.get? metadata "labels" = some labels → labels.IsDict) :
    ∃ cr, stampWorkspace (manifest apiVersion kind metadata spec) workspaceId = .ok cr := by
  have hunder : ∃ stamped, setUnder (.obj metadata) "labels" workspaceLabel (.str workspaceId) =
      .ok stamped := by
    unfold setUnder Json.setDefault
    dsimp only
    cases hget : Dict.get? metadata "labels" with
    | none => exact ⟨_, rfl⟩
    | some labels =>
      obtain ⟨fields, rfl⟩ := h labels hget
      exact ⟨_, rfl⟩
  obtain ⟨stamped, hstamped⟩ := hunder
  refine ⟨.obj (Dict.set (manifest apiVersion kind metadata spec).fields "metadata" stamped), ?_⟩
  show (setUnder (.obj metadata) "labels" workspaceLabel (.str workspaceId) >>= _) = _
  rw [hstamped]
  rfl

/-- A caller who sees the workspace passes the check. -/
theorem play_checkOrStamp {oracle : RouterOracle} {callerOwnerId ns : String}
    {namespace_ : Option String} {crNamespace : Json}
    {past : Coroutine.History RouterCall RouterCall.Resp Exc}
    (hexport : cleanCrForExport item = .ok exported)
    (h : Importable oracle callerOwnerId item namespace_ ns) :
    ∃ body past', (checkOrStamp callerOwnerId
      (manifest apiVersion kind (reimported item crNamespace) spec)).play oracle past =
        (.ok body, past') := by
  obtain ⟨workspaceId, hid⟩ := exists_crWorkspaceId hexport h.labels
  rw [checkOrStamp, Coroutine.play_bind, Coroutine.play_lift, crWorkspaceId_reimported hexport, hid]
  cases workspaceId with
  | none =>
    have hlabels : ∀ labels, Dict.get? (reimported item crNamespace) "labels" = some labels →
        labels.IsDict := by
      intro labels hget
      rw [get?_reimported (by decide), if_neg (by decide), if_neg (by decide)] at hget
      exact h.labels labels hget
    obtain ⟨cr, hcr⟩ := exists_stampWorkspace hlabels
    exact ⟨cr, past, by dsimp only; rw [Coroutine.play_lift, hcr]⟩
  | some workspaceId =>
    obtain ⟨ws, hws, hvisible⟩ := h.visible workspaceId hid past
    have hcheck : (workspaceVisible workspaceId callerOwnerId).play oracle past =
        (.ok true, past ++ [⟨.db (.getWorkspace workspaceId), .ok ws⟩]) := by
      rw [workspaceVisible, isWorkspaceVisible, Coroutine.play_tryCatch, Coroutine.play_bind,
        Coroutine.play_call, hws, ← hvisible]
      rfl
    refine ⟨manifest apiVersion kind (reimported item crNamespace) spec,
      past ++ [⟨.db (.getWorkspace workspaceId), .ok ws⟩], ?_⟩
    dsimp only
    rw [Coroutine.play_bind, hcheck]
    rfl

/-- The manifest of an import that can go through. -/
theorem cleanImport_importable {oracle : RouterOracle} {callerOwnerId ns : String}
    {namespace_ : Option String} (hexport : cleanCrForExport item = .ok exported)
    (h : Importable oracle callerOwnerId item namespace_ ns) :
    cleanImport ⟨exported.fields, namespace_⟩ = .ok (.str ns,
      manifest (.str "acko.io/v1alpha1") (.str "AerospikeCluster") (reimported item (.str ns))
        ((Dict.get? item.fields "spec").getD (.obj []))) := by
  obtain ⟨apiVersion, kind, rfl⟩ := cleanCrForExport_eq hexport
  have hexported : ∀ key ∈ ["name", "namespace"], Dict.get?
      (withoutLastApplied (serverOwned.foldl Dict.erase (metadataOf item))) key =
        Dict.get? (metadataOf item) key := by
    intro key hkey
    rw [get?_withoutLastApplied (by rintro rfl; revert hkey; decide), get?_eraseAll,
      if_neg (by intro howned; revert hkey; revert key; decide)]
  have htruthy : ¬(Json.str ns).truthy = false := by
    simpa [Json.truthy] using h.nonempty
  rw [cleanImport_eq, hexported "namespace" (by decide), hexported "name" (by decide), h.asked]
  dsimp only
  rw [if_neg htruthy, if_neg (by rw [h.named]; decide)]
  rfl

/-- An import that can go through asks for its cluster. -/
theorem play_importK8sCluster {oracle : RouterOracle} {callerOwnerId ns : String}
    {namespace_ : Option String} (hexport : cleanCrForExport item = .ok exported)
    (h : Importable oracle callerOwnerId item namespace_ ns) :
    ∃ body answer, ⟨.kube (.createCluster ns body), answer⟩ ∈
      ((importK8sCluster callerOwnerId ⟨exported.fields, namespace_⟩).play oracle []).2 := by
  obtain ⟨body, past, hcheck⟩ : ∃ body past, (checkOrStamp callerOwnerId
      (manifest (.str "acko.io/v1alpha1") (.str "AerospikeCluster") (reimported item (.str ns))
        ((Dict.get? item.fields "spec").getD (.obj [])))).play oracle [] = (.ok body, past) :=
    play_checkOrStamp hexport h
  obtain ⟨existing, hexisting, hlisted⟩ := h.listed past
  refine ⟨body, oracle (past ++ [⟨.kube .listNamespaces, .ok existing⟩])
    (.kube (.createCluster ns body)), Coroutine.mem_play_tryCatch ?_⟩
  rw [Coroutine.play_bind, Coroutine.play_lift, cleanImport_importable hexport h]
  dsimp only
  rw [Coroutine.play_bind, hcheck]
  dsimp only
  rw [Coroutine.play_bind, Coroutine.play_call, hexisting]
  dsimp only
  rw [if_pos hlisted]
  refine Coroutine.mem_play_bind ?_
  rw [Coroutine.play_call]
  exact List.mem_append_right _ (List.mem_singleton_self _)

/-- **A cluster exported and imported again is recreated.** What is submitted has the spec, the
metadata and the label of that cluster and none of the five fields that an export leaves out, and
where the import can go through it is submitted. -/
theorem reimport_recreates (callerOwnerId : String) (item exported : Json)
    (hexport : cleanCrForExport item = .ok exported) (namespace_ : Option String) :
    Coroutine.Asks (fun r => ∀ ns body, r = .kube (.createCluster ns body) →
        Recreates item ns body)
      (importK8sCluster callerOwnerId ⟨exported.fields, namespace_⟩) ∧
    ∀ (oracle : RouterOracle) (ns : String),
      Importable oracle callerOwnerId item namespace_ ns →
        ∃ body answer, Recreates item ns body ∧ ⟨.kube (.createCluster ns body), answer⟩ ∈
          ((importK8sCluster callerOwnerId ⟨exported.fields, namespace_⟩).play oracle []).2 := by
  have hasks := asks_importK8sCluster callerOwnerId hexport namespace_
  refine ⟨hasks, fun oracle ns h => ?_⟩
  obtain ⟨body, answer, hmem⟩ := play_importK8sCluster hexport h
  rcases hasks.of_mem_play hmem with hpast | hrecreates
  · cases hpast
  · exact ⟨body, answer, hrecreates ns body rfl, hmem⟩

/-- A labelled cluster as the API server has it. -/
def servedCluster : Json :=
  .obj [("apiVersion", .str "acko.io/v1alpha1"), ("kind", .str "AerospikeCluster"),
    ("metadata", .obj [("name", .str "demo"), ("namespace", .str "aerospike"), ("uid", .str "7f"),
      ("annotations", .obj [(lastApplied, .str "...")]),
      ("labels", .obj [(workspaceLabel, .str "ws-1")])]),
    ("spec", .obj [("size", .num 2)]), ("status", .obj [("phase", .str "Completed")])]

/-- The answers of a deployment where every workspace is alice's. -/
def servedOracle : RouterOracle
  | _, .kube .listNamespaces => .ok ["aerospike", "other"]
  | _, .db (.getWorkspace id) => .ok (some
      { id, name := "team", ownerId := "alice", createdAt := "2026", updatedAt := "2026" })
  | _, _ => .error (.k8sApi 503 "Service Unavailable" "")

theorem importable_servedCluster :
    Importable servedOracle "alice" servedCluster (some "other") "other" where
  named := rfl
  labels := by
    rintro _ ⟨⟩
    exact ⟨_, rfl⟩
  asked := rfl
  nonempty := by decide
  listed := fun past => ⟨_, rfl, by decide⟩
  visible := fun workspaceId _ past => ⟨_, rfl, rfl⟩

/-- The cluster comes back in another namespace. -/
theorem reimport_recreates_served : ∃ exported, cleanCrForExport servedCluster = .ok exported ∧
    ∃ body answer, Recreates servedCluster "other" body ∧
      ⟨.kube (.createCluster "other" body), answer⟩ ∈
        ((importK8sCluster "alice" ⟨exported.fields, some "other"⟩).play servedOracle []).2 :=
  ⟨_, rfl, (reimport_recreates "alice" servedCluster _ rfl (some "other")).2 servedOracle "other"
    importable_servedCluster⟩

end ClusterManager.K8s
