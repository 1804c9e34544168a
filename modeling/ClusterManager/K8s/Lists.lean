import ClusterManager.Services.Gates
import ClusterManager.K8s.Association

/-!
# The lists and the gates

The lists of clusters and of templates filter what the API server sends in bulk; a single object
passes a gate of its own. `lists_agree_with_gates` says that both let the same objects through,
over all the pages of a list and whatever labels the objects have.
-/

namespace ClusterManager.K8s

open Db

/-! ### Templates -/

/-- The 404 for a template that is missing or not the caller's. -/
def templateNotFound (name : String) : Exc :=
  .http 404 ("Template '" ++ name ++ "' not found")

/-- The gate of a single object: the 404 hides what the caller may not see. -/
def objectGate (get : RouterProgram Json) (notFound : Exc) (callerOwnerId : String) :
    RouterProgram Json := do
  let item ← get.tryCatch fun
    | .k8sApi status reason message =>
        if status = 404 then throw notFound else throw (mapK8sError status reason message)
    | e => throw e
  match ← Coroutine.lift (crWorkspaceId item) with
  | none => if callerOwnerId = systemOwnerId then return item else throw notFound
  | some workspaceId =>
      if ← workspaceVisible workspaceId callerOwnerId then return item else throw notFound

/-- `_assert_template_visible`. -/
def assertTemplateVisible (name callerOwnerId : String) : RouterProgram Json :=
  objectGate (kube (.getTemplate name)) (templateNotFound name) callerOwnerId

/-- The gate of a cluster is of the same kind. -/
theorem assertCallerOwnsK8sCluster_eq (namespace_ name callerOwnerId : String) :
    assertCallerOwnsK8sCluster namespace_ name callerOwnerId =
      objectGate (kube (.getCluster namespace_ name)) (clusterNotFound namespace_ name)
        callerOwnerId := rfl

/-- `K8sTemplateSummary`. -/
structure K8sTemplateSummary where
  name : String
  image : Option String
  size : Option ℤ
  description : Option String
  usedBy : List String
  deriving DecidableEq

/-- A field that may be `None`. -/
def optional {α : Type} (field : Json → Except Exc α) : Json → Except Exc (Option α)
  | .null => .ok none
  | value => (field value).map some

/-- The clusters that use a template, as its status has them. -/
def usedBy : Json → Except Exc (List String)
  | .obj status =>
      match (Dict.get? status "usedBy").getD (.arr []) with
      | .arr names => names.mapM asStr
      | _ => .ok []
  | _ => .ok []

/-- `extract_template_summary`. -/
def extractTemplateSummary (item : Json) : Except Exc K8sTemplateSummary := do
  let metadata ← item.get "metadata" (.obj [])
  let spec ← item.get "spec" (.obj [])
  let status ← item.get "status" (.obj [])
  return {
    name := ← asStr (← metadata.get "name" (.str ""))
    image := ← optional asStr (← spec.get "image")
    size := ← optional asInt (← spec.get "size")
    description := ← optional asStr (← spec.get "description")
    usedBy := ← usedBy status }

/-- `list_k8s_templates`. -/
def listK8sTemplates (callerOwnerId : String) : RouterProgram (List K8sTemplateSummary) :=
  k8sEndpoint "list Kubernetes templates" do
    let items ← kube .listTemplates
    let visibility ← visibleWorkspaces callerOwnerId items
    let items ← Coroutine.lift
      (filterE (itemVisible visibility (callerOwnerId = systemOwnerId)) items)
    Coroutine.lift (items.mapM extractTemplateSummary)

/-! ### The objects of the API server -/

/-- An object as the API server sends it. It has metadata with a name; its labels may be missing,
`null` or a dictionary of anything. -/
structure ApiObject where
  json : Json
  metadata : Dict String Json
  name : String
  metadata_eq : json.get "metadata" (.obj []) = .ok (.obj metadata)
  name_eq : metadata.get? "name" = some (.str name)
  labels : metadata.get? "labels" = none ∨ metadata.get? "labels" = some .null ∨
    ∃ labels, metadata.get? "labels" = some (.obj labels)

/-- The workspace an object is labelled with. -/
def ApiObject.workspaceId (o : ApiObject) : Option String :=
  match crWorkspaceId o.json with
  | .ok workspaceId => workspaceId
  | .error _ => none

/-- An object of a namespace. -/
structure NamespacedObject extends ApiObject where
  namespace_ : String
  namespace_eq : metadata.get? "namespace" = some (.str namespace_)

/-- The namespace and the name of an object. -/
def NamespacedObject.key (o : NamespacedObject) : String × String := (o.namespace_, o.name)

/-- The AerospikeCluster and the AerospikeClusterTemplate objects of a Kubernetes cluster. -/
structure ApiObjects where
  clusters : List NamespacedObject
  templates : List ApiObject
  nodup_clusters : (clusters.map NamespacedObject.key).Nodup
  nodup_templates : (templates.map ApiObject.name).Nodup

/-- `Pages page token items` says that asking for a page, from `token` on and with the token of
each page for the next, comes to an end with `items`. -/
inductive Pages {α : Type} (page : Option String → Option (List α × Option String)) :
    Option String → List α → Prop
  | last {token : Option String} {items : List α} :
      page token = some (items, none) → Pages page token items
  | more {token : Option String} {next : String} {items rest : List α} :
      page token = some (items, some next) → Pages page (some next) rest →
        Pages page token (items ++ rest)

/-- The pages of the API server. -/
def apiPage (api : KubeApi) (limit : ℕ) (token : Option String) :
    Option (List Json × Option String) :=
  (api (.listClusters none (some limit) token none)).toOption

/-- The pages of `list_k8s_clusters` without a filter. -/
def listPage (rt : Runtime) (api : KubeApi) (t : Tables) (callerOwnerId : String) (limit : ℕ)
    (token : Option String) : Option (List K8sClusterSummary × Option String) :=
  ((listK8sClusters rt.lower callerOwnerId none limit token none).run
    (RouterCall.exec rt api) t).1.toOption.map fun response =>
      (response.items, response.continueToken)

/-- An API server that answers every call about its objects: the pages of a list are all of them,
and an object is found under its name. -/
structure Answers (objects : ApiObjects) (api : KubeApi) : Prop where
  listClusters : ∀ limit, 1 ≤ limit → ∃ items : List NamespacedObject,
    items.Perm objects.clusters ∧
    Pages (apiPage api limit) none (items.map fun o => o.json)
  getCluster : ∀ o ∈ objects.clusters, api (.getCluster o.namespace_ o.name) = .ok o.json
  getCluster_missing : ∀ namespace_ name,
    (namespace_, name) ∉ objects.clusters.map NamespacedObject.key →
      ∃ reason message, api (.getCluster namespace_ name) = .error (.k8sApi 404 reason message)
  listTemplates : ∃ items : List ApiObject, items.Perm objects.templates ∧
    api .listTemplates = .ok (items.map ApiObject.json)
  getTemplate : ∀ o ∈ objects.templates, api (.getTemplate o.name) = .ok o.json
  getTemplate_missing : ∀ name, name ∉ objects.templates.map ApiObject.name →
    ∃ reason message, api (.getTemplate name) = .error (.k8sApi 404 reason message)

theorem ApiObject.crMetadata_eq (o : ApiObject) : crMetadata o.json = .ok (.obj o.metadata) := by
  rw [crMetadata, o.metadata_eq, ok_bind]
  cases hmetadata : o.metadata with
  | nil => rfl
  | cons => rfl

/-- Whatever the labels of an object are, the workspace label can be read. -/
theorem ApiObject.crWorkspaceId_eq (o : ApiObject) :
    crWorkspaceId o.json = .ok o.workspaceId := by
  have hlabel : ∃ label, crLabel o.json = .ok label := by
    rw [crLabel, crMetadata_eq, ok_bind, Json.get_obj, ok_bind]
    rcases o.labels with h | h | ⟨labels, h⟩
    · exact ⟨.null, by rw [h]; rfl⟩
    · exact ⟨.null, by rw [h]; rfl⟩
    · cases labels <;> rw [h] <;> exact ⟨_, rfl⟩
  obtain ⟨label, hlabel⟩ := hlabel
  have hid : ∃ workspaceId, crWorkspaceId o.json = .ok workspaceId := by
    rw [crWorkspaceId, hlabel, ok_bind]
    split <;> exact ⟨_, rfl⟩
  obtain ⟨workspaceId, hid⟩ := hid
  rw [ApiObject.workspaceId, hid]

/-! ### The gates -/

section Run

variable {rt : Runtime} {api : KubeApi} {t : Tables} {callerOwnerId : String}

/-- A gate whose object is there admits exactly what the rule lets through: a workspace that cannot
be read is nobody's, and the gate raises on it. -/
theorem run_objectGate {get : RouterProgram Json} {notFound : Exc} (o : ApiObject)
    (hget : get.run (RouterCall.exec rt api) t = (.ok o.json, t)) :
    (∃ item, (objectGate get notFound callerOwnerId).run (RouterCall.exec rt api) t =
        (.ok item, t)) ↔
      crVisibleIn t callerOwnerId o.workspaceId = true := by
  rw [objectGate, Coroutine.run_bind, Coroutine.run_tryCatch, hget]
  simp only [Coroutine.run_bind, Coroutine.run_lift, o.crWorkspaceId_eq]
  cases hws : o.workspaceId with
  | none =>
    by_cases hsystem : callerOwnerId = systemOwnerId <;> simp [crVisibleIn, hsystem]
  | some workspaceId =>
    simp only [Coroutine.run_bind, crVisibleIn]
    cases hfound : getWorkspace workspaceId t with
    | error e => simp [run_workspaceVisible, visibleIn, hfound, Except.map]
    | ok found =>
      rw [run_workspaceVisible_of_ok hfound]
      by_cases hvisible : visibleIn t callerOwnerId workspaceId = true <;> simp [hvisible]

/-- A gate whose object is missing answers with its 404. -/
theorem run_objectGate_missing {get : RouterProgram Json} {notFound : Exc} {reason message : String}
    (hget : get.run (RouterCall.exec rt api) t = (.error (.k8sApi 404 reason message), t)) :
    (objectGate get notFound callerOwnerId).run (RouterCall.exec rt api) t =
      (.error notFound, t) := by
  rw [objectGate, Coroutine.run_bind, Coroutine.run_tryCatch, hget]
  rfl

/-- A gate admits exactly the keys of the objects the rule lets through. -/
theorem admitted_iff {β κ : Type} (object : β → ApiObject) {key : β → κ} {items : List β}
    {get : RouterProgram Json} {notFound : Exc} {k : κ}
    (hfound : ∀ b ∈ items, key b = k →
      get.run (RouterCall.exec rt api) t = (.ok (object b).json, t))
    (hmissing : k ∉ items.map key → ∃ reason message,
      get.run (RouterCall.exec rt api) t = (.error (.k8sApi 404 reason message), t)) :
    (∃ item, (objectGate get notFound callerOwnerId).run (RouterCall.exec rt api) t =
        (.ok item, t)) ↔
      k ∈ (items.filter fun b => crVisibleIn t callerOwnerId (object b).workspaceId).map key := by
  have hmem : k ∈ (items.filter fun b =>
      crVisibleIn t callerOwnerId (object b).workspaceId).map key ↔
        ∃ b ∈ items, crVisibleIn t callerOwnerId (object b).workspaceId = true ∧ key b = k := by
    simp only [List.mem_map, List.mem_filter, and_assoc]
  rw [hmem]
  constructor
  · rintro ⟨item, hgate⟩
    by_cases hk : k ∈ items.map key
    · obtain ⟨b, hb, hkey⟩ := List.mem_map.1 hk
      exact ⟨b, hb, (run_objectGate (object b) (hfound b hb hkey)).1 ⟨item, hgate⟩, hkey⟩
    · obtain ⟨reason, message, hget⟩ := hmissing hk
      rw [run_objectGate_missing hget] at hgate
      cases hgate
  · rintro ⟨b, hb, hvisible, hkey⟩
    exact (run_objectGate (object b) (hfound b hb hkey)).2 hvisible

/-! ### The lists -/

theorem run_k8sEndpoint {α : Type} {operation : String} {func : RouterProgram α} {a : α}
    (h : func.run (RouterCall.exec rt api) t = (.ok a, t)) :
    (k8sEndpoint operation func).run (RouterCall.exec rt api) t = (.ok a, t) := by
  rw [k8sEndpoint, Coroutine.run_tryCatch, h]

/-- The response model takes what an object holds. -/
def Fits {α : Type} (extract : Json → Except Exc α) (item : Json) : Prop :=
  ∃ summary, extract item = .ok summary

theorem findConnectionId_eq (lower : String → String) (connections : List ConnectionProfile)
    (o : NamespacedObject) :
    findConnectionId lower connections o.json =
      .ok (connectionOf lower connections o.namespace_ o.name) := by
  rw [findConnectionId, o.metadata_eq, ok_bind, Json.get_obj, o.name_eq, ok_bind, Json.get_obj,
    o.namespace_eq]
  rfl

/-- The summaries of objects that the response model takes. -/
theorem exists_summaries (lower : String → String) (connections : List ConnectionProfile)
    {items : List NamespacedObject}
    (hfits : ∀ o ∈ items, ∀ connectionId, Fits (extractSummary · connectionId) o.json) :
    ∃ summaries,
      (items.map fun o => o.json).mapM (fun item => do
        extractSummary item (← findConnectionId lower connections item)) = .ok summaries ∧
      summaries.map (fun summary => (summary.namespace_, summary.name)) =
        items.map NamespacedObject.key := by
  simp only [List.mapM_map, Function.comp_def, findConnectionId_eq, ok_bind]
  obtain ⟨summaries, hsummaries⟩ := exists_mapM fun o ho =>
    hfits o ho (connectionOf lower connections o.namespace_ o.name)
  refine ⟨summaries, hsummaries, map_of_mapM hsummaries fun o ho summary h => ?_⟩
  have hname : (Json.obj o.metadata).get "name" (.str "") = .ok (.str o.name) := by
    rw [Json.get_obj, o.name_eq]
    rfl
  have hnamespace : (Json.obj o.metadata).get "namespace" (.str "") = .ok (.str o.namespace_) := by
    rw [Json.get_obj, o.namespace_eq]
    rfl
  obtain ⟨hn, hns, -⟩ := extractSummary_json o.metadata_eq hname hnamespace h
  rw [hn, hns, NamespacedObject.key]

/-- A page of the list: the objects of the API's page that the rule lets through. -/
theorem listPage_eq (hread : Readable rt t) {limit : ℕ} {token next : Option String}
    {items : List NamespacedObject}
    (hfits : ∀ o ∈ items, crVisibleIn t callerOwnerId o.workspaceId = true →
      ∀ connectionId, Fits (extractSummary · connectionId) o.json)
    (hpage : apiPage api limit token = some (items.map (fun o => o.json), next)) :
    ∃ summaries, listPage rt api t callerOwnerId limit token = some (summaries, next) ∧
      summaries.map (fun summary => (summary.namespace_, summary.name)) =
        (items.filter fun o => crVisibleIn t callerOwnerId o.workspaceId).map
          NamespacedObject.key := by
  obtain ⟨connections, hconnections⟩ := exists_getAllConnections hread.connections
  obtain ⟨workspaces, hworkspaces⟩ := exists_getAllWorkspaces hread.workspaces
  have hlist : api (.listClusters none (some limit) token none) =
      .ok (items.map (fun o => o.json), next) := by
    rw [apiPage] at hpage
    cases hresponse : api (.listClusters none (some limit) token none) with
    | error e => simp [hresponse, Except.toOption] at hpage
    | ok response =>
      rw [hresponse] at hpage
      exact congrArg Except.ok (Option.some.inj hpage)
  obtain ⟨summaries, hsummaries, hkeys⟩ := exists_summaries rt.lower
    (visibleConnections workspaces callerOwnerId connections)
    fun o (ho : o ∈ items.filter fun o => crVisibleIn t callerOwnerId o.workspaceId) =>
      hfits o (List.mem_filter.1 ho).1 (List.mem_filter.1 ho).2
  refine ⟨summaries, ?_, hkeys⟩
  have hlabels : ∀ o : NamespacedObject, crWorkspaceId o.json = .ok o.workspaceId :=
    fun o => o.crWorkspaceId_eq
  have hrun : (listK8sClusters rt.lower callerOwnerId none limit token none).run
      (RouterCall.exec rt api) t = (.ok ⟨summaries, next, next.isSome⟩, t) := by
    refine run_k8sEndpoint ?_
    rw [Coroutine.run_bind, Coroutine.run_call, RouterCall.exec, hlist]
    dsimp only
    rw [Coroutine.run_bind, run_visibleWorkspaces hread.workspaces hlabels]
    dsimp only
    rw [Coroutine.run_bind, Coroutine.run_lift, filterE_itemVisible hlabels]
    dsimp only
    rw [Coroutine.run_bind, Coroutine.run_call]
    simp only [RouterCall.exec, DbOp.exec, reading, hconnections]
    rw [Coroutine.run_bind, run_getAllWorkspaces (by rfl), hworkspaces]
    simp only [Coroutine.run_bind, Coroutine.run_lift, hsummaries, Coroutine.run_pure]
  rw [listPage, hrun]
  rfl

/-- A template's summary carries its name. -/
theorem extractTemplateSummary_name {o : ApiObject} {summary : K8sTemplateSummary}
    (h : extractTemplateSummary o.json = .ok summary) : summary.name = o.name := by
  rw [extractTemplateSummary, o.metadata_eq, ok_bind] at h
  obtain ⟨spec, -, h⟩ := exists_of_bind_ok h
  obtain ⟨status, -, h⟩ := exists_of_bind_ok h
  rw [Json.get_obj, o.name_eq, ok_bind, Option.getD_some, asStr, ok_bind] at h
  obtain ⟨_, -, h⟩ := exists_of_bind_ok h
  obtain ⟨image, -, h⟩ := exists_of_bind_ok h
  obtain ⟨_, -, h⟩ := exists_of_bind_ok h
  obtain ⟨size, -, h⟩ := exists_of_bind_ok h
  obtain ⟨_, -, h⟩ := exists_of_bind_ok h
  obtain ⟨description, -, h⟩ := exists_of_bind_ok h
  obtain ⟨clusters, -, h⟩ := exists_of_bind_ok h
  obtain rfl := Except.ok.inj h
  rfl

/-- The list of templates: the templates that the rule lets through. -/
theorem run_listK8sTemplates (hread : ReadableWorkspaces t) {items : List ApiObject}
    (hfits : ∀ o ∈ items, crVisibleIn t callerOwnerId o.workspaceId = true →
      Fits extractTemplateSummary o.json)
    (hlist : api .listTemplates = .ok (items.map ApiObject.json)) :
    ∃ summaries, (listK8sTemplates callerOwnerId).run (RouterCall.exec rt api) t =
        (.ok summaries, t) ∧
      summaries.map K8sTemplateSummary.name =
        (items.filter fun o => crVisibleIn t callerOwnerId o.workspaceId).map ApiObject.name := by
  obtain ⟨summaries, hsummaries⟩ := exists_mapM
    fun o (ho : o ∈ items.filter fun o => crVisibleIn t callerOwnerId o.workspaceId) =>
      hfits o (List.mem_filter.1 ho).1 (List.mem_filter.1 ho).2
  refine ⟨summaries, run_k8sEndpoint ?_, map_of_mapM hsummaries fun o ho summary h =>
    extractTemplateSummary_name h⟩
  rw [Coroutine.run_bind, Coroutine.run_call, RouterCall.exec, hlist]
  dsimp only
  rw [Coroutine.run_bind, run_visibleWorkspaces hread ApiObject.crWorkspaceId_eq]
  dsimp only
  rw [Coroutine.run_bind, Coroutine.run_lift, filterE_itemVisible ApiObject.crWorkspaceId_eq]
  dsimp only
  rw [Coroutine.run_lift, List.mapM_map]
  exact congrArg (·, t) hsummaries

end Run

/-- If each page of one list gives a page of another, with the same token and the keys of what it
kept, then all the pages give all the pages. -/
theorem Pages.map {α β γ κ : Type} {page : Option String → Option (List α × Option String)}
    {page' : Option String → Option (List β × Option String)} {f : γ → α} {P : γ → Prop}
    {key : β → κ} (keys : List γ → List κ)
    (happend : ∀ l l', keys (l ++ l') = keys l ++ keys l')
    (hpage : ∀ token items next, (∀ c ∈ items, P c) → page token = some (items.map f, next) →
      ∃ items', page' token = some (items', next) ∧ items'.map key = keys items)
    {token : Option String} {all : List γ} (hall : ∀ c ∈ all, P c)
    (h : Pages page token (all.map f)) :
    ∃ all', Pages page' token all' ∧ all'.map key = keys all := by
  generalize hitems : all.map f = items at h
  induction h generalizing all with
  | last hlast =>
    subst hitems
    obtain ⟨items', hpage', hkeys⟩ := hpage _ _ _ hall hlast
    exact ⟨items', .last hpage', hkeys⟩
  | more hmore _ ih =>
    obtain ⟨first, others, rfl, rfl, rfl⟩ := List.map_eq_append_iff.1 hitems
    obtain ⟨items', hpage', hkeys⟩ :=
      hpage _ _ _ (fun c hc => hall c (List.mem_append_left _ hc)) hmore
    obtain ⟨rest', hrest, hkeys'⟩ := ih (fun c hc => hall c (List.mem_append_right _ hc)) rfl
    exact ⟨items' ++ rest', .more hpage' hrest, by rw [List.map_append, hkeys, hkeys', happend]⟩

/-- **The lists and the gates agree.** Where every stored row can be read and the response models
take the objects the caller may see, the pages of the unfiltered list of clusters and the list of
templates have exactly the objects that the gates admit, each of them once. -/
theorem lists_agree_with_gates (rt : Runtime) {objects : ApiObjects} {api : KubeApi}
    (hapi : Answers objects api) {t : Tables} (hread : Readable rt t) {callerOwnerId : String}
    (hclusters : ∀ o ∈ objects.clusters, crVisibleIn t callerOwnerId o.workspaceId = true →
      ∀ connectionId, Fits (extractSummary · connectionId) o.json)
    (htemplates : ∀ o ∈ objects.templates, crVisibleIn t callerOwnerId o.workspaceId = true →
      Fits extractTemplateSummary o.json) :
    (∀ limit, 1 ≤ limit → ∃ summaries,
      Pages (listPage rt api t callerOwnerId limit) none summaries ∧
      (summaries.map fun summary => (summary.namespace_, summary.name)).Nodup ∧
      ∀ namespace_ name,
        (namespace_, name) ∈ summaries.map (fun summary => (summary.namespace_, summary.name)) ↔
          ∃ cr, (assertCallerOwnsK8sCluster namespace_ name callerOwnerId).run
            (RouterCall.exec rt api) t = (.ok cr, t)) ∧
    ∃ summaries, (listK8sTemplates callerOwnerId).run (RouterCall.exec rt api) t =
        (.ok summaries, t) ∧
      (summaries.map K8sTemplateSummary.name).Nodup ∧
      ∀ name, name ∈ summaries.map K8sTemplateSummary.name ↔
        ∃ item, (assertTemplateVisible name callerOwnerId).run (RouterCall.exec rt api) t =
          (.ok item, t) := by
  constructor
  · intro limit hlimit
    obtain ⟨items, hperm, hpages⟩ := hapi.listClusters limit hlimit
    obtain ⟨summaries, hsummaries, hkeys⟩ := Pages.map
      (fun items : List NamespacedObject =>
        (items.filter fun o => crVisibleIn t callerOwnerId o.workspaceId).map NamespacedObject.key)
      (by simp) (fun token items next => listPage_eq hread)
      (fun o ho => hclusters o (hperm.mem_iff.1 ho)) hpages
    -- every object comes on one page, and the filter of the page is the rule of the gate
    have hlisted := (hperm.filter fun o => crVisibleIn t callerOwnerId o.workspaceId).map
      NamespacedObject.key
    refine ⟨summaries, hsummaries, ?_, fun namespace_ name => ?_⟩
    · rw [hkeys, hlisted.nodup_iff]
      exact objects.nodup_clusters.sublist (List.filter_sublist.map _)
    · rw [hkeys, hlisted.mem_iff, assertCallerOwnsK8sCluster_eq]
      refine (admitted_iff NamespacedObject.toApiObject (fun o ho hkey => ?_)
        fun hmissing => ?_).symm
      · obtain ⟨rfl, rfl⟩ := Prod.mk.inj hkey
        rw [Coroutine.run_call, RouterCall.exec, hapi.getCluster o ho]
      · obtain ⟨reason, message, hget⟩ := hapi.getCluster_missing _ _ hmissing
        exact ⟨reason, message, by rw [Coroutine.run_call, RouterCall.exec, hget]⟩
  · obtain ⟨items, hperm, hlist⟩ := hapi.listTemplates
    obtain ⟨summaries, hsummaries, hnames⟩ := run_listK8sTemplates hread.workspaces
      (fun o ho => htemplates o (hperm.mem_iff.1 ho)) hlist
    have hlisted := (hperm.filter fun o => crVisibleIn t callerOwnerId o.workspaceId).map
      ApiObject.name
    refine ⟨summaries, hsummaries, ?_, fun name => ?_⟩
    · rw [hnames, hlisted.nodup_iff]
      exact objects.nodup_templates.sublist (List.filter_sublist.map _)
    · rw [hnames, hlisted.mem_iff]
      refine (admitted_iff id (fun o ho hkey => ?_) fun hmissing => ?_).symm
      · obtain rfl := hkey
        rw [Coroutine.run_call, RouterCall.exec, hapi.getTemplate o ho]
        rfl
      · obtain ⟨reason, message, hget⟩ := hapi.getTemplate_missing _ hmissing
        exact ⟨reason, message, by rw [Coroutine.run_call, RouterCall.exec, hget]⟩

/-! ### Two clusters and a template -/

/-- A cluster in `prod`, labelled with bob's workspace. -/
def bobsObject : NamespacedObject where
  json := bobsCluster.json
  metadata := [("name", .str "db"), ("namespace", .str "prod"),
    ("labels", .obj [(workspaceLabel, .str "ws-bob")])]
  name := "db"
  namespace_ := "prod"
  metadata_eq := rfl
  name_eq := rfl
  namespace_eq := rfl
  labels := Or.inr (Or.inr ⟨_, rfl⟩)

/-- A cluster in `dev` whose labels are `null`. -/
def nullObject : NamespacedObject where
  json := .obj [("metadata", .obj [("name", .str "db"), ("namespace", .str "dev"),
    ("labels", .null)])]
  metadata := [("name", .str "db"), ("namespace", .str "dev"), ("labels", .null)]
  name := "db"
  namespace_ := "dev"
  metadata_eq := rfl
  name_eq := rfl
  namespace_eq := rfl
  labels := Or.inr (Or.inl rfl)

/-- A template without labels. -/
def plainTemplate : ApiObject where
  json := .obj [("metadata", .obj [("name", .str "small")])]
  metadata := [("name", .str "small")]
  name := "small"
  metadata_eq := rfl
  name_eq := rfl
  labels := Or.inl rfl

/-- The two clusters and the template. -/
def threeObjects : ApiObjects where
  clusters := [bobsObject, nullObject]
  templates := [plainTemplate]
  nodup_clusters := by simp [NamespacedObject.key, bobsObject, nullObject]
  nodup_templates := by simp

/-- An API server that puts each of the two clusters on a page of its own. -/
def threeObjectsApi : KubeApi
  | .listClusters _ _ none _ => .ok ([bobsObject.json], some "rest")
  | .listClusters _ _ (some _) _ => .ok ([nullObject.json], none)
  | .getCluster namespace_ name =>
      if (namespace_, name) = bobsObject.key then .ok bobsObject.json
      else if (namespace_, name) = nullObject.key then .ok nullObject.json
      else .error (.k8sApi 404 "Not Found" "")
  | .listTemplates => .ok [plainTemplate.json]
  | .getTemplate name =>
      if name = plainTemplate.name then .ok plainTemplate.json
      else .error (.k8sApi 404 "Not Found" "")
  | .createCluster _ body => .ok body
  | .deleteCluster _ _ => .ok (.obj [])
  | .listNamespaces => .ok ["prod", "dev"]
  | .listSecrets _ => .ok []
  | .deleteTemplate _ => .ok ()

theorem answers_threeObjects : Answers threeObjects threeObjectsApi where
  listClusters limit _ := by
    have hfirst : apiPage threeObjectsApi limit none = some ([bobsObject.json], some "rest") := rfl
    exact ⟨[bobsObject, nullObject], .refl _, .more hfirst (.last rfl)⟩
  getCluster o ho := by
    rcases List.mem_pair.1 ho with rfl | rfl <;> rfl
  getCluster_missing namespace_ name h := by
    simp only [threeObjects, List.map_cons, List.map_nil, List.mem_cons, List.not_mem_nil, or_false,
      not_or] at h
    refine ⟨"Not Found", "", ?_⟩
    simp only [threeObjectsApi, if_neg h.1, if_neg h.2]
  listTemplates := ⟨[plainTemplate], .refl _, rfl⟩
  getTemplate o ho := by
    obtain rfl := List.mem_singleton.1 ho
    rfl
  getTemplate_missing name h := by
    refine ⟨"Not Found", "", ?_⟩
    simp only [threeObjectsApi, if_neg fun hname => h (List.mem_singleton.2 hname)]

/-- Bob's workspace, with a connection to his cluster in it whose password is encrypted. -/
def bobsConnection : Tables where
  connections := .singleton { autoConnected "prod" with
    password := some "enc:v1:token", workspaceId := some "ws-bob" }
  workspaces := bobsWorkspace.workspaces
  setNotes := .empty
  recordNotes := .empty
  guides := .empty

theorem readable_bobsConnection : Readable plainRuntime bobsConnection := by
  refine ⟨fun row hrow => ?_, fun ws hws => ?_⟩
  · obtain rfl := List.mem_singleton.1 hrow
    exact ⟨_, rfl⟩
  · obtain rfl := List.mem_singleton.1 hws
    exact ⟨_, rfl⟩

/-- Bob is listed, page by page, what the gate lets him get at: his own cluster, and no template. -/
theorem lists_agree_with_gates_bob :
    (∃ summaries,
      Pages (listPage plainRuntime threeObjectsApi bobsConnection "bob" 1) none summaries ∧
      (summaries.map fun summary => (summary.namespace_, summary.name)).Nodup ∧
      ("prod", "db") ∈ summaries.map (fun summary => (summary.namespace_, summary.name)) ∧
      ∀ namespace_ name,
        (namespace_, name) ∈ summaries.map (fun summary => (summary.namespace_, summary.name)) ↔
          ∃ cr, (assertCallerOwnsK8sCluster namespace_ name "bob").run
            (RouterCall.exec plainRuntime threeObjectsApi) bobsConnection =
              (.ok cr, bobsConnection)) ∧
    ∃ summaries, (listK8sTemplates "bob").run (RouterCall.exec plainRuntime threeObjectsApi)
        bobsConnection = (.ok summaries, bobsConnection) ∧
      ∀ name, name ∈ summaries.map K8sTemplateSummary.name ↔
        ∃ item, (assertTemplateVisible name "bob").run
          (RouterCall.exec plainRuntime threeObjectsApi) bobsConnection =
            (.ok item, bobsConnection) := by
  obtain ⟨hpages, summaries, hrun, -, hlisted⟩ :=
    @lists_agree_with_gates plainRuntime _ _ answers_threeObjects _ readable_bobsConnection "bob"
      (fun o ho _ connectionId => by
        rcases List.mem_pair.1 ho with rfl | rfl <;> exact ⟨_, rfl⟩)
      (fun o ho _ => by
        obtain rfl := List.mem_singleton.1 ho
        exact ⟨_, rfl⟩)
  refine ⟨?_, summaries, hrun, hlisted⟩
  obtain ⟨clusters, hclusters, hnodup, hgate⟩ := hpages 1 le_rfl
  exact ⟨clusters, hclusters, hnodup, (hgate "prod" "db").2 ⟨_, rfl⟩, hgate⟩

/-- After the key has changed the gate still lets the system caller get at a cluster, but the list
raises on a stored password that does not decrypt. -/
theorem stale_key_hides_the_clusters :
    Answers threeObjects threeObjectsApi ∧
      (∃ cr, (assertCallerOwnsK8sCluster "dev" "db" systemOwnerId).run
        (RouterCall.exec Services.rotatedRuntime threeObjectsApi) Services.staleTables =
          (.ok cr, Services.staleTables)) ∧
      ∀ summaries, ¬ Pages
        (listPage Services.rotatedRuntime threeObjectsApi Services.staleTables systemOwnerId 20)
          none summaries := by
  refine ⟨answers_threeObjects, ⟨_, rfl⟩, fun summaries h => ?_⟩
  have hpage : listPage Services.rotatedRuntime threeObjectsApi Services.staleTables
      systemOwnerId 20 none = none := rfl
  cases h with
  | last hlast => cases hpage.symm.trans hlast
  | more hmore => cases hpage.symm.trans hmore

end ClusterManager.K8s
