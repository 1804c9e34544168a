import Mathlib.Data.List.ReduceOption
import ClusterManager.K8s.Clusters

/-!
# Who sees what

What the access checks of the router compute when they run alone, and from that when the secrets
of a namespace are closed to a caller who sees none of its clusters (`secrets_closed_iff`).
-/

namespace ClusterManager.K8s

open Db

variable {rt : Runtime} {api : KubeApi} {t t' : Tables} {callerOwnerId : String}

/-! ### The checks -/

/-- The check raises what reading the workspace raises. -/
theorem run_workspaceVisible {workspaceId : String} :
    (workspaceVisible workspaceId callerOwnerId).run (RouterCall.exec rt api) t =
      ((getWorkspace workspaceId t).map fun ws => ownedOrShared ws callerOwnerId, t) := by
  have hexec : (db (.getWorkspace workspaceId)).run (RouterCall.exec rt api) t =
      (getWorkspace workspaceId t, t) := by
    rw [Coroutine.run_call]
    rfl
  rw [workspaceVisible, isWorkspaceVisible, Coroutine.run_tryCatch, Coroutine.run_bind, hexec]
  cases hws : getWorkspace workspaceId t with
  | ok ws => rfl
  | error e =>
    obtain rfl := getWorkspace_error hws
    rfl

theorem run_workspaceVisible_of_ok {workspaceId : String} {found : Option Workspace}
    (h : getWorkspace workspaceId t = .ok found) :
    (workspaceVisible workspaceId callerOwnerId).run (RouterCall.exec rt api) t =
      (.ok (visibleIn t callerOwnerId workspaceId), t) := by
  rw [run_workspaceVisible, visibleIn_of_ok h, h]
  rfl

/-- A check that answered answered by the rule. -/
theorem run_workspaceVisible_ok {workspaceId : String} {visible : Bool}
    (h : (workspaceVisible workspaceId callerOwnerId).run (RouterCall.exec rt api) t =
      (.ok visible, t')) : t' = t ∧ visible = visibleIn t callerOwnerId workspaceId := by
  rw [run_workspaceVisible] at h
  obtain ⟨hvisible, rfl⟩ := Prod.mk.inj h
  obtain ⟨found, hfound, rfl⟩ := map_eq_ok.1 hvisible
  exact ⟨rfl, (visibleIn_of_ok hfound).symm⟩

theorem run_gatherVisibility (hread : ReadableWorkspaces t) {workspaceIds : List String} :
    (gatherVisibility callerOwnerId workspaceIds).run (RouterCall.exec rt api) t =
      (.ok (workspaceIds.map fun id => (id, visibleIn t callerOwnerId id)), t) := by
  induction workspaceIds with
  | nil => rfl
  | cons id rest ih =>
    simp only [gatherVisibility, Coroutine.run_bind, ih, Coroutine.run_pure, List.map_cons,
      run_workspaceVisible_of_ok (getWorkspace_of_readable hread)]

/-- What was gathered is what the rule says. -/
theorem run_gatherVisibility_ok {workspaceIds : List String} {visible : List (String × Bool)}
    (h : (gatherVisibility callerOwnerId workspaceIds).run (RouterCall.exec rt api) t =
      (.ok visible, t')) :
    t' = t ∧ visible = workspaceIds.map fun id => (id, visibleIn t callerOwnerId id) := by
  induction workspaceIds generalizing visible t' with
  | nil =>
    obtain ⟨hvisible, rfl⟩ := Prod.mk.inj h
    exact ⟨rfl, (Except.ok.inj hvisible).symm⟩
  | cons id rest ih =>
    obtain ⟨first, t₁, hfirst, h⟩ := Coroutine.exists_of_run_bind_ok h
    obtain ⟨rfl, rfl⟩ := run_workspaceVisible_ok hfirst
    obtain ⟨others, t₂, hothers, h⟩ := Coroutine.exists_of_run_bind_ok h
    obtain ⟨rfl, rfl⟩ := ih hothers
    obtain ⟨hvisible, rfl⟩ := Prod.mk.inj h
    exact ⟨rfl, (Except.ok.inj hvisible).symm⟩

/-- A call into the Kubernetes API that returned. -/
theorem run_kube_ok {r : KubeCall} {a : r.Resp}
    (h : (kube r).run (RouterCall.exec rt api) t = (.ok a, t')) : api r = .ok a ∧ t' = t := by
  rw [Coroutine.run_call] at h
  obtain ⟨ha, rfl⟩ := Prod.mk.inj h
  exact ⟨ha, rfl⟩

/-- An endpoint that returned did so in its handler. -/
theorem run_k8sEndpoint_ok {α : Type} {operation : String} {func : RouterProgram α} {a : α}
    (h : (k8sEndpoint operation func).run (RouterCall.exec rt api) t = (.ok a, t')) :
    func.run (RouterCall.exec rt api) t = (.ok a, t') := by
  rw [k8sEndpoint, Coroutine.run_tryCatch] at h
  split at h
  next hfunc => rwa [← h]
  next e s hfunc =>
    split at h
    · cases h
    · cases h
    · split at h <;> cases h

/-! ### Clusters -/

/-- The CRs of a Kubernetes cluster and the names of its `Opaque` secrets. -/
structure KubeState where
  crs : List CustomResource
  secrets : String → List String

/-- An API that serves what is there, when it answers at all: a first page is as many CRs as were
asked for, and a list of secrets is all of them. -/
structure Serves (state : KubeState) (api : KubeApi) : Prop where
  listClusters : ∀ limit items token,
    api (.listClusters none (some limit) none none) = .ok (items, token) →
      items = (state.crs.take limit).map CustomResource.json
  listSecrets : ∀ namespace_ names,
    api (.listSecrets namespace_) = .ok names → names = state.secrets namespace_

/-- A CR that counts for a caller's namespaces: without a label, or with one the caller sees. -/
def countsFor (t : Tables) (callerOwnerId : String) (cr : CustomResource) : Bool :=
  cr.workspaceId.all (visibleIn t callerOwnerId)

section Items

/-! The items of a list are anything the API server sends for an object, as long as the workspace
label can be read. -/

variable {α : Type} {json : α → Json} {workspaceId : α → Option String}

theorem mapM_crWorkspaceId (h : ∀ a, crWorkspaceId (json a) = .ok (workspaceId a))
    (items : List α) : (items.map json).mapM crWorkspaceId = .ok (items.map workspaceId) := by
  rw [List.mapM_map]
  simp only [Function.comp_def, h]
  exact List.mapM_pure

theorem run_visibleWorkspaces (hread : ReadableWorkspaces t)
    (h : ∀ a, crWorkspaceId (json a) = .ok (workspaceId a)) (items : List α) :
    (visibleWorkspaces callerOwnerId (items.map json)).run (RouterCall.exec rt api) t =
      (.ok ((items.map workspaceId).reduceOption.dedup.map fun id =>
        (id, visibleIn t callerOwnerId id)), t) := by
  simp only [visibleWorkspaces, Coroutine.run_bind, mapM_crWorkspaceId h, Coroutine.run_lift,
    run_gatherVisibility hread]

/-- What the rule says of the workspaces of a list, once they were looked up. -/
theorem run_visibleWorkspaces_ok (h : ∀ a, crWorkspaceId (json a) = .ok (workspaceId a))
    {items : List α} {visible : List (String × Bool)}
    (hrun : (visibleWorkspaces callerOwnerId (items.map json)).run (RouterCall.exec rt api) t =
      (.ok visible, t')) :
    t' = t ∧ visible = (items.map workspaceId).reduceOption.dedup.map fun id =>
      (id, visibleIn t callerOwnerId id) := by
  simp only [visibleWorkspaces, Coroutine.run_bind, mapM_crWorkspaceId h,
    Coroutine.run_lift] at hrun
  exact run_gatherVisibility_ok hrun

/-- What the rule says of an item, from the visibility of the workspaces of all. -/
theorem itemVisible_eq (h : ∀ a, crWorkspaceId (json a) = .ok (workspaceId a)) {items : List α}
    {a : α} (ha : a ∈ items) (unlabelled : Bool) :
    itemVisible ((items.map workspaceId).reduceOption.dedup.map fun id =>
        (id, visibleIn t callerOwnerId id)) unlabelled (json a) =
      .ok ((workspaceId a).elim unlabelled (visibleIn t callerOwnerId)) := by
  rw [itemVisible, h]
  cases hws : workspaceId a with
  | none => rfl
  | some id =>
    have hmem : id ∈ (items.map workspaceId).reduceOption.dedup :=
      List.mem_dedup.2 (List.reduceOption_mem_iff.2 (List.mem_map.2 ⟨a, ha, hws⟩))
    simp only [bind, Except.bind, Dict.get?_graph hmem]
    rfl

/-- The filter of a list keeps the items the rule lets through. -/
theorem filterE_itemVisible (h : ∀ a, crWorkspaceId (json a) = .ok (workspaceId a))
    (items : List α) :
    filterE (itemVisible ((items.map workspaceId).reduceOption.dedup.map fun id =>
        (id, visibleIn t callerOwnerId id)) (callerOwnerId = systemOwnerId)) (items.map json) =
      .ok ((items.filter fun a => crVisibleIn t callerOwnerId (workspaceId a)).map json) := by
  have hrule : ∀ a ∈ items, itemVisible ((items.map workspaceId).reduceOption.dedup.map fun id =>
      (id, visibleIn t callerOwnerId id)) (callerOwnerId = systemOwnerId) (json a) =
        .ok (crVisibleIn t callerOwnerId (workspaceId a)) := by
    intro a ha
    rw [itemVisible_eq h ha]
    cases workspaceId a <;> rfl
  rw [filterE_map, filterE_ok hrule]
  rfl

end Items

/-! ### The secrets of a namespace -/

/-- The namespaces that count for a caller are those of the CRs that count. -/
theorem visibleNamespaces_eq (crs : List CustomResource) :
    visibleNamespaces ((crs.map CustomResource.workspaceId).reduceOption.dedup.map fun id =>
        (id, visibleIn t callerOwnerId id)) (crs.map CustomResource.json) =
      .ok ((crs.filter (countsFor t callerOwnerId)).map fun cr => some cr.namespace_) := by
  have hitems : filterE (itemVisible ((crs.map CustomResource.workspaceId).reduceOption.dedup.map
      fun id => (id, visibleIn t callerOwnerId id)) true) (crs.map CustomResource.json) =
        .ok ((crs.filter (countsFor t callerOwnerId)).map CustomResource.json) := by
    rw [filterE_map, filterE_ok (q := countsFor t callerOwnerId) fun cr hcr => by
      rw [itemVisible_eq CustomResource.crWorkspaceId_eq hcr, countsFor]
      cases cr.workspaceId <;> rfl]
    rfl
  have htruthy : ∀ crs : List CustomResource,
      (crs.map fun cr => Json.str cr.namespace_).filter Json.truthy =
        crs.map fun cr => Json.str cr.namespace_ := by
    intro crs
    refine List.filter_eq_self.2 fun value hvalue => ?_
    obtain ⟨cr, -, rfl⟩ := List.mem_map.1 hvalue
    simp [Json.truthy, cr.namespace_ne]
  have hnamespaces : ∀ crs : List CustomResource,
      (crs.map CustomResource.json).mapM (fun item => do (← crMetadata item).get "namespace") =
        .ok (crs.map fun cr => Json.str cr.namespace_) := by
    intro crs
    rw [List.mapM_map]
    simp only [Function.comp_def, CustomResource.namespace_eq]
    exact List.mapM_pure
  have helements : ∀ crs : List CustomResource,
      (crs.map fun cr => Json.str cr.namespace_).mapM namespaceElement =
        .ok (crs.map fun cr => some cr.namespace_) := by
    intro crs
    rw [List.mapM_map]
    exact List.mapM_pure
  simp only [visibleNamespaces, hitems, ok_bind, hnamespaces, htruthy, helements]

/-- What a caller's namespaces are, where the API serves the clusters. -/
theorem run_visibleClusterNamespaces_ok {state : KubeState} (hapi : Serves state api)
    {namespaces : List (Option String)}
    (h : (visibleClusterNamespaces callerOwnerId).run (RouterCall.exec rt api) t =
      (.ok namespaces, t')) :
    t' = t ∧ namespaces = ((state.crs.take 200).filter (countsFor t callerOwnerId)).map
      fun cr => some cr.namespace_ := by
  obtain ⟨⟨items, token⟩, t₁, hlist, h⟩ := Coroutine.exists_of_run_bind_ok h
  obtain ⟨hitems, rfl⟩ := run_kube_ok hlist
  obtain rfl := hapi.listClusters _ _ _ hitems
  dsimp only at h
  obtain ⟨visible, t₂, hvisible, h⟩ := Coroutine.exists_of_run_bind_ok h
  obtain ⟨rfl, rfl⟩ := run_visibleWorkspaces_ok CustomResource.crWorkspaceId_eq hvisible
  simp only [Coroutine.run_lift, visibleNamespaces_eq] at h
  obtain ⟨hnamespaces, rfl⟩ := Prod.mk.inj h
  exact ⟨rfl, (Except.ok.inj hnamespaces).symm⟩

/-- **The secrets of a namespace whose clusters a caller does not see are closed to the caller
exactly if a CR that counts for the caller is among the first 200, or there is none to list.** -/
theorem secrets_closed_iff (rt : Runtime) {state : KubeState} {api : KubeApi}
    (hapi : Serves state api) {t t' : Tables} {callerOwnerId namespace_ : String}
    (hinvisible : ∀ cr ∈ state.crs, cr.namespace_ = namespace_ →
      ∃ workspaceId, cr.workspaceId = some workspaceId ∧
        visibleIn t callerOwnerId workspaceId = false)
    {names : List String}
    (hrun : (listK8sSecrets callerOwnerId namespace_).run (RouterCall.exec rt api) t =
      (.ok names, t')) :
    names = [] ↔ (∃ cr ∈ state.crs.take 200, countsFor t callerOwnerId cr = true) ∨
      state.secrets namespace_ = [] := by
  obtain ⟨visible, t₁, hvisible, hrun⟩ :=
    Coroutine.exists_of_run_bind_ok (run_k8sEndpoint_ok hrun)
  obtain ⟨rfl, rfl⟩ := run_visibleClusterNamespaces_ok hapi hvisible
  have hclosed : some namespace_ ∉ ((state.crs.take 200).filter (countsFor t₁ callerOwnerId)).map
      fun cr => some cr.namespace_ := by
    intro hmem
    obtain ⟨cr, hcr, hns⟩ := List.mem_map.1 hmem
    obtain ⟨hcr, hcounts⟩ := List.mem_filter.1 hcr
    obtain ⟨workspaceId, hws, hhidden⟩ :=
      hinvisible cr (List.mem_of_mem_take hcr) (Option.some.inj hns)
    rw [countsFor, hws, Option.all_some, hhidden] at hcounts
    cases hcounts
  have hempty : ((state.crs.take 200).filter (countsFor t₁ callerOwnerId)).map
      (fun cr => some cr.namespace_) ≠ [] ↔
        ∃ cr ∈ state.crs.take 200, countsFor t₁ callerOwnerId cr = true := by
    simp
  split_ifs at hrun with hcond
  · obtain ⟨hnames, -⟩ := Prod.mk.inj hrun
    exact iff_of_true (Except.ok.inj hnames).symm (Or.inl (hempty.1 hcond.1))
  · obtain ⟨hnames, -⟩ := run_kube_ok hrun
    obtain rfl := hapi.listSecrets _ _ hnames
    have hnone : ¬ ∃ cr ∈ state.crs.take 200, countsFor t₁ callerOwnerId cr = true :=
      fun h => hcond ⟨hempty.2 h, hclosed⟩
    simp only [hnone, false_or]

/-- The API that serves what is there and never fails. -/
def KubeState.serve (state : KubeState) : KubeApi
  | .listClusters _ limit _ _ =>
      .ok ((state.crs.take (limit.getD state.crs.length)).map CustomResource.json, none)
  | .getCluster namespace_ name =>
      match state.crs.find? fun cr => cr.namespace_ = namespace_ ∧ cr.name = name with
      | some cr => .ok cr.json
      | none => .error (.k8sApi 404 "Not Found" "")
  | .listTemplates => .ok []
  | .getTemplate _ => .error (.k8sApi 404 "Not Found" "")
  | .createCluster _ body => .ok body
  | .deleteCluster _ _ => .ok (.obj [])
  | .listNamespaces => .ok (state.crs.map CustomResource.namespace_).dedup
  | .listSecrets namespace_ => .ok (state.secrets namespace_)
  | .deleteTemplate _ => .ok ()

theorem serves_serve (state : KubeState) : Serves state state.serve where
  listClusters _ _ _ h := (Prod.mk.inj (Except.ok.inj h)).1.symm
  listSecrets _ _ h := (Except.ok.inj h).symm

/-- A workspace of bob's. -/
def bobsWorkspace : Tables where
  connections := .empty
  workspaces := .singleton { id := "ws-bob", name := "Bob", ownerId := "bob",
                             createdAt := "0", updatedAt := "0" }
  setNotes := .empty
  recordNotes := .empty
  guides := .empty

/-- A cluster of bob's. -/
def bobsCluster : CustomResource := .prodDb [(workspaceLabel, "ws-bob")]

/-- A cluster without a label. -/
def unlabelledCluster : CustomResource := .devDb []

/-- The cluster of bob's, its namespace with a secret, beside other clusters. -/
def bobsSecret (others : List CustomResource) : KubeState where
  crs := bobsCluster :: others
  secrets namespace_ := if namespace_ = "prod" then ["password"] else []

/-- Beside an unlabelled cluster, the namespace is closed to alice. -/
theorem secrets_closed_iff_unlabelled :
    ([] : List String) = [] ↔
      (∃ cr ∈ (bobsSecret [unlabelledCluster]).crs.take 200,
        countsFor bobsWorkspace "alice" cr = true) ∨
      (bobsSecret [unlabelledCluster]).secrets "prod" = [] :=
  secrets_closed_iff plainRuntime (serves_serve _) (by
    intro cr hcr hns
    rcases List.mem_pair.1 hcr with rfl | rfl
    · exact ⟨"ws-bob", rfl, rfl⟩
    · exact absurd hns (by decide)) rfl

/-- Alice, who sees no cluster at all, is shown the secrets of bob's namespace. -/
theorem secrets_listed_to_stranger :
    (∀ cr ∈ (bobsSecret []).crs, cr.namespace_ = "prod" ∧
      ∃ workspaceId, cr.workspaceId = some workspaceId ∧
        visibleIn bobsWorkspace "alice" workspaceId = false) ∧
    ((listK8sSecrets "alice" "prod").run (RouterCall.exec plainRuntime (bobsSecret []).serve)
      bobsWorkspace).1 = .ok ["password"] := by
  refine ⟨fun cr hcr => ?_, rfl⟩
  obtain rfl := List.mem_singleton.1 hcr
  exact ⟨rfl, "ws-bob", rfl, rfl⟩

end ClusterManager.K8s
