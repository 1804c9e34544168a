import ClusterManager.K8s.Labels
import ClusterManager.K8s.Lists

/-!
# The deletion of a template

`delete_k8s_template` lists the clusters of all tenants, page by page, and refuses to delete a
template that one of them references. The refusal names them.
-/

namespace ClusterManager.K8s

open Db Interleaving

/-! ### The endpoint -/

/-- Whether a CR references a template. -/
def referencesTemplate (name : String) (cr : Json) : Except Exc Bool := do
  let spec ← cr.get "spec" (.obj [])
  let templateRef ← spec.get "templateRef" (.obj [])
  match ← templateRef.get "name" with
  | .str n => return n = name
  | _ => return false

/-- The name of a CR, as `join` takes it. -/
def crName (cr : Json) : Except Exc String := do
  let metadata ← cr.get "metadata" (.obj [])
  match ← metadata.get "name" (.str "") with
  | .str n => return n
  | _ => throw .typeError

/-- The names of the CRs that reference a template. -/
def referencingNames (name : String) (crs : List Json) : Except Exc (List String) := do
  (← filterE (referencesTemplate name) crs).mapM crName

/-- The loop over the pages of the clusters, `none` where more rounds are to come. -/
def listAllClusters : ℕ → Option String → RouterProgram (Option (List Json))
  | 0, _ => return none
  | rounds + 1, token => do
      let (items, token) ← kube (.listClusters none none token none)
      match token.filter (· ≠ "") with
      | none => return some items
      | some token => do
          let rest ← listAllClusters rounds (some token)
          return rest.map (items ++ ·)

/-- The 409 for a template that is referenced. -/
def templateReferenced (name : String) (referencing : List String) : Exc :=
  .http 409 ("Template '" ++ name ++ "' is referenced by cluster(s): " ++
    ", ".intercalate referencing ++
    ". Remove the template reference from these clusters before deleting.")

/-- `delete_k8s_template`, with its loop cut after some rounds: the message of its response. -/
def deleteK8sTemplate (rounds : ℕ) (callerOwnerId name : String) :
    RouterProgram (Option String) :=
  k8sEndpoint "delete Kubernetes template" do
    let _ ← assertTemplateVisible name callerOwnerId
    match ← listAllClusters rounds none with
    | none => return none
    | some allClusters =>
        let referencing ← Coroutine.lift (referencingNames name allClusters)
        if referencing ≠ [] then throw (templateReferenced name referencing)
        else
          kube (.deleteTemplate name)
          return some ("Template " ++ name ++ " deletion initiated")

/-! ### What is deleted -/

/-- `Listed past token items` says that asking for the pages from `token` on was answered with
`items`, down to a page without a token. -/
inductive Listed (past : List RouterAnswer) : Option String → List Json → Prop
  | last {token next : Option String} {items : List Json} :
      ⟨.kube (.listClusters none none token none), .ok (items, next)⟩ ∈ past →
      next.filter (· ≠ "") = none → Listed past token items
  | more {token : Option String} {next : String} {items rest : List Json} :
      ⟨.kube (.listClusters none none token none), .ok (items, some next)⟩ ∈ past →
      Listed past (some next) rest → Listed past token (items ++ rest)

/-- A template is deleted only once the clusters of all pages were listed and none of them
references it. -/
def DeletesUnreferenced (name : String) : RouterCall → List RouterAnswer → Prop
  | .kube (.deleteTemplate deleted), past => deleted = name ∧ ∃ items, Listed past none items ∧
      ∀ cr ∈ items, referencesTemplate name cr = .ok false
  | _, _ => True

/-- A program that deletes as it should. -/
abbrev Deletes (name : String) {α : Type} (p : RouterProgram α) (past : List RouterAnswer)
    (Q : α → List RouterAnswer → Prop) : Prop :=
  p.Safe (History AnyRouterAnswer) (DeletesUnreferenced name) past Q fun _ _ => True

section Deletions

variable {name callerOwnerId : String} {past : List RouterAnswer} {α : Type}

theorem deletes_k8sEndpoint {operation : String} {func : RouterProgram α}
    (h : Deletes name func past fun _ _ => True) :
    Deletes name (k8sEndpoint operation func) past fun _ _ => True := by
  rw [Deletes, k8sEndpoint, Coroutine.safe_tryCatch]
  refine h.mono (fun _ _ => id) fun e past _ => ?_
  cases e <;> trivial

/-- A call that deletes nothing. -/
theorem deletes_call {r : RouterCall} {Q : r.Resp → List RouterAnswer → Prop}
    (hr : DeletesUnreferenced name r past) (h : ∀ a, Q a (past ++ [⟨r, .ok a⟩])) :
    Deletes name (Coroutine.call r) past Q := by
  refine Coroutine.safe_call.2 ⟨hr, ?_, fun _ _ _ => trivial⟩
  rintro a _ ⟨-, rfl⟩
  exact h a

theorem deletes_workspaceVisible {workspaceId : String} {Q : Bool → List RouterAnswer → Prop}
    (h : ∀ visible past', Q visible past') :
    Deletes name (workspaceVisible workspaceId callerOwnerId) past Q := by
  rw [Deletes, workspaceVisible, safe_isWorkspaceVisible]
  refine Coroutine.safe_call.2 ⟨trivial, fun ws past' _ => h _ past', fun e past' _ => ?_⟩
  split
  · exact h _ past'
  · trivial

/-- The gate of a template deletes nothing. -/
theorem deletes_assertTemplateVisible {template : String} {Q : Json → List RouterAnswer → Prop}
    (h : ∀ item past', Q item past') :
    Deletes name (assertTemplateVisible template callerOwnerId) past Q := by
  rw [Deletes, assertTemplateVisible, objectGate, Coroutine.safe_bind, Coroutine.safe_tryCatch]
  refine Coroutine.safe_call.2 ⟨trivial, fun item past' _ => ?_, fun e past' _ => ?_⟩
  · rw [Coroutine.safe_bind, Coroutine.safe_lift]
    refine ⟨fun workspaceId hws => ?_, fun _ _ => trivial⟩
    cases workspaceId with
    | none =>
      dsimp only
      split
      · exact h item past'
      · trivial
    | some workspaceId =>
      dsimp only
      rw [Coroutine.safe_bind]
      refine deletes_workspaceVisible fun visible past'' => ?_
      split
      · exact h item past''
      · trivial
  · cases e with
    | k8sApi status reason message =>
      dsimp only
      split <;> trivial
    | _ => trivial

theorem Listed.mono {past' : List RouterAnswer} {token : Option String} {items : List Json}
    (h : Listed past token items) (hsub : past ⊆ past') : Listed past' token items := by
  induction h with
  | last hmem hnext => exact .last (hsub hmem) hnext
  | more hmem _ ih => exact .more (hsub hmem) ih

/-- The loop over the pages returns the items of all of them, or is not done. -/
theorem deletes_listAllClusters {rounds : ℕ} {token : Option String}
    {Q : Option (List Json) → List RouterAnswer → Prop}
    (hmore : ∀ past', Q none past')
    (hdone : ∀ items past', past ⊆ past' → Listed past' token items → Q (some items) past') :
    Deletes name (listAllClusters rounds token) past Q := by
  induction rounds generalizing token past Q with
  | zero => exact hmore past
  | succ rounds ih =>
    rw [Deletes, listAllClusters, Coroutine.safe_bind]
    refine deletes_call trivial fun answer => ?_
    obtain ⟨items, next⟩ := answer
    have hasked : past ⊆ past ++ [⟨.kube (.listClusters none none token none),
        .ok (items, next)⟩] := List.subset_append_left _ _
    dsimp only
    split
    next hnext => exact hdone items _ hasked (.last (by simp) hnext)
    next next' hnext =>
      obtain ⟨rfl, -⟩ := Option.filter_eq_some_iff.1 hnext
      rw [Coroutine.safe_bind]
      refine ih (fun past' => hmore past') fun rest past' hsub hrest => ?_
      exact hdone (items ++ rest) past' (List.Subset.trans hasked hsub)
        (.more (hsub (by simp)) hrest)

theorem referencingNames_eq_nil {crs : List Json} (h : referencingNames name crs = .ok []) :
    ∀ cr ∈ crs, referencesTemplate name cr = .ok false := by
  obtain ⟨kept, hkept, hnames⟩ := exists_of_bind_ok h
  obtain ⟨hall, hmem⟩ := mem_filterE hkept
  intro cr hcr
  obtain ⟨keep, hkeep⟩ := hall cr hcr
  cases keep with
  | false => exact hkeep
  | true =>
    obtain ⟨n, hn, -⟩ := (mem_mapM hnames).2 cr ((hmem cr).2 ⟨hcr, hkeep⟩)
    cases hn

/-- Whatever its calls are answered, the endpoint deletes what no listed cluster references. -/
theorem deletes_deleteK8sTemplate (rounds : ℕ) :
    Deletes name (deleteK8sTemplate rounds callerOwnerId name) [] fun _ _ => True := by
  refine deletes_k8sEndpoint ?_
  rw [Deletes, Coroutine.safe_bind]
  refine deletes_assertTemplateVisible fun item past => ?_
  rw [Coroutine.safe_bind]
  refine deletes_listAllClusters (fun _ => trivial) fun items past' _ hlisted => ?_
  rw [Coroutine.safe_bind, Coroutine.safe_lift]
  refine ⟨fun referencing hreferencing => ?_, fun _ _ => trivial⟩
  split_ifs with hempty
  · trivial
  · obtain rfl := not_not.1 hempty
    rw [Coroutine.safe_bind]
    refine deletes_call ⟨rfl, items, hlisted, referencingNames_eq_nil hreferencing⟩ fun _ => ?_
    trivial

end Deletions

/-! ### What is reported -/

/-- The pages of the unpaginated list. -/
def allPage (api : KubeApi) (token : Option String) : Option (List Json × Option String) :=
  (api (.listClusters none none token none)).toOption

/-- An API server that answers the calls of the deletion, too. A token is a text that is not
empty. -/
structure AnswersDeletion (objects : ApiObjects) (api : KubeApi) : Prop
    extends Answers objects api where
  listAll : ∃ items : List NamespacedObject, items.Perm objects.clusters ∧
    Pages (allPage api) none (items.map fun o => o.json)
  token_ne : ∀ token items, api (.listClusters none none token none) ≠ .ok (items, some "")
  deleteTemplate : ∀ name, api (.deleteTemplate name) = .ok ()

/-- The response for the names of the referencing clusters. -/
def outcome (name : String) : Except Exc (List String) → Except Exc (Option String)
  | .error _ => .error (.http 500 "Failed to delete Kubernetes template")
  | .ok [] => .ok (some ("Template " ++ name ++ " deletion initiated"))
  | .ok referencing => .error (templateReferenced name referencing)

/-- The names a response shows. -/
def shownNames : Except Exc (List String) → List String
  | .error _ => []
  | .ok referencing => referencing

/-- Each cluster that references the template has a name that a cluster of the caller's has, or
the reference of one cannot be read. -/
def ReferencedByOwn (objects : ApiObjects) (t : Tables) (callerOwnerId name : String) : Prop :=
  (∃ o ∈ objects.clusters, ∀ b, referencesTemplate name o.json ≠ .ok b) ∨
  ∀ o ∈ objects.clusters, referencesTemplate name o.json = .ok true →
    ∃ own ∈ objects.clusters, crVisibleIn t callerOwnerId own.workspaceId = true ∧
      own.name = o.name

section Reports

variable {rt : Runtime} {api : KubeApi} {objects : ApiObjects} {t : Tables}
  {callerOwnerId name : String}

/-- The loop comes to the items of all pages. -/
theorem run_listAllClusters (hapi : AnswersDeletion objects api) {token : Option String}
    {items : List Json} (h : Pages (allPage api) token items) :
    ∃ rounds, ∀ n ≥ rounds, (listAllClusters n token).run (RouterCall.exec rt api) t =
      (.ok (some items), t) := by
  have hanswer : ∀ {token next} {items : List Json}, allPage api token = some (items, next) →
      api (.listClusters none none token none) = .ok (items, next) := by
    intro token next items hpage
    rw [allPage] at hpage
    cases hresponse : api (.listClusters none none token none) with
    | error e => simp [hresponse, Except.toOption] at hpage
    | ok response =>
      rw [hresponse] at hpage
      exact congrArg Except.ok (Option.some.inj hpage)
  induction h with
  | last hpage =>
    refine ⟨1, fun n hn => ?_⟩
    obtain ⟨n, rfl⟩ := Nat.exists_eq_add_of_le' hn
    rw [listAllClusters, Coroutine.run_bind, Coroutine.run_call, RouterCall.exec, hanswer hpage]
    rfl
  | @more token next items rest hpage _ ih =>
    obtain ⟨rounds, ih⟩ := ih
    refine ⟨rounds + 1, fun n hn => ?_⟩
    obtain ⟨n, rfl⟩ := Nat.exists_eq_add_of_le' (Nat.le_of_add_left_le hn)
    have hne : next ≠ "" := by
      rintro rfl
      exact hapi.token_ne token items (hanswer hpage)
    have hfilter : (some next).filter (· ≠ "") = some next := by simp [hne]
    rw [listAllClusters, Coroutine.run_bind, Coroutine.run_call, RouterCall.exec, hanswer hpage]
    dsimp only
    rw [hfilter]
    dsimp only
    rw [Coroutine.run_bind, ih n (by omega)]
    rfl

theorem crName_eq (o : NamespacedObject) : crName o.json = .ok o.name := by
  rw [crName, o.metadata_eq, ok_bind, Json.get_obj, o.name_eq]
  rfl

theorem get_eq_error {value : Json} {key : String} {default : Json} {e : Exc}
    (h : value.get key default = .error e) : e = .typeError := by
  cases value <;> cases h <;> rfl

/-- A reference that cannot be read is one into a value of the wrong shape. -/
theorem referencesTemplate_error {cr : Json} {e : Exc}
    (h : referencesTemplate name cr = .error e) : e = .typeError := by
  rcases exists_of_bind_error h with h | ⟨spec, -, h⟩
  · exact get_eq_error h
  · rcases exists_of_bind_error h with h | ⟨templateRef, -, h⟩
    · exact get_eq_error h
    · rcases exists_of_bind_error h with h | ⟨value, -, h⟩
      · exact get_eq_error h
      · split at h <;> cases h

/-- The names of the referencing clusters, or a value of the wrong shape. -/
theorem referencingNames_cases (name : String) (items : List NamespacedObject) :
    (referencingNames name (items.map fun o => o.json) = .error .typeError ∧
      ∃ o ∈ items, ∀ b, referencesTemplate name o.json ≠ .ok b) ∨
    ∃ names, referencingNames name (items.map fun o => o.json) = .ok names ∧
      (∀ o ∈ items, ∃ b, referencesTemplate name o.json = .ok b) ∧
      ∀ c, c ∈ names ↔ ∃ o ∈ items, referencesTemplate name o.json = .ok true ∧ o.name = c := by
  cases hfilter : filterE (referencesTemplate name) (items.map fun o => o.json) with
  | error e =>
    obtain ⟨cr, hcr, he⟩ := exists_of_filterE_error hfilter
    obtain ⟨o, ho, rfl⟩ := List.mem_map.1 hcr
    refine Or.inl ⟨?_, o, ho, fun b hb => ?_⟩
    · rw [referencingNames, hfilter, referencesTemplate_error he]
      rfl
    · rw [he] at hb
      cases hb
  | ok kept =>
    obtain ⟨hall, hmem⟩ := mem_filterE hfilter
    have hkept : ∀ cr ∈ kept, ∃ o ∈ items, referencesTemplate name o.json = .ok true ∧
        o.json = cr := by
      intro cr hcr
      obtain ⟨hcr, href⟩ := (hmem cr).1 hcr
      obtain ⟨o, ho, rfl⟩ := List.mem_map.1 hcr
      exact ⟨o, ho, href, rfl⟩
    obtain ⟨names, hnames⟩ : ∃ names, kept.mapM crName = .ok names := by
      refine exists_mapM fun cr hcr => ?_
      obtain ⟨o, -, -, rfl⟩ := hkept cr hcr
      exact ⟨o.name, crName_eq o⟩
    have hresult : referencingNames name (items.map fun o => o.json) = .ok names := by
      rw [referencingNames, hfilter, ok_bind, hnames]
    refine Or.inr ⟨names, hresult, fun o ho => hall _ (List.mem_map_of_mem ho), fun c => ?_⟩
    obtain ⟨hto, hfrom⟩ := mem_mapM hnames
    constructor
    · intro hc
      obtain ⟨cr, hcr, hname⟩ := hto c hc
      obtain ⟨o, ho, href, rfl⟩ := hkept cr hcr
      rw [crName_eq] at hname
      exact ⟨o, ho, href, Except.ok.inj hname⟩
    · rintro ⟨o, ho, href, rfl⟩
      obtain ⟨c, hc, hname⟩ := hfrom o.json ((hmem _).2 ⟨List.mem_map_of_mem ho, href⟩)
      rw [crName_eq] at hname
      rwa [Except.ok.inj hname]

/-- The response, once all pages are listed. -/
theorem run_deleteK8sTemplate (hapi : AnswersDeletion objects api) {item : Json}
    {items : List NamespacedObject}
    (hgate : (assertTemplateVisible name callerOwnerId).run (RouterCall.exec rt api) t =
      (.ok item, t)) {n : ℕ}
    (hlist : (listAllClusters n none).run (RouterCall.exec rt api) t =
      (.ok (some (items.map fun o => o.json)), t)) :
    (deleteK8sTemplate n callerOwnerId name).run (RouterCall.exec rt api) t =
      (outcome name (referencingNames name (items.map fun o => o.json)), t) := by
  rw [deleteK8sTemplate, k8sEndpoint, Coroutine.run_tryCatch, Coroutine.run_bind, hgate]
  dsimp only
  rw [Coroutine.run_bind, hlist]
  dsimp only
  rw [Coroutine.run_bind, Coroutine.run_lift]
  rcases referencingNames_cases name items with ⟨herror, -⟩ | ⟨names, hnames, -⟩
  · rw [herror]
    rfl
  · rw [hnames]
    cases names with
    | nil =>
      have hdelete := hapi.deleteTemplate name
      dsimp only
      rw [if_neg (not_not.2 rfl), Coroutine.run_bind, Coroutine.run_call, RouterCall.exec,
        hdelete]
      rfl
    | cons c names =>
      dsimp only
      rw [if_pos (List.cons_ne_nil c names)]
      rfl

/-- The gate of the clusters admits, under some namespace, the names of the caller's clusters. -/
theorem exists_admitted_iff (hapi : Answers objects api) {c : String} :
    (∃ namespace_ cr, (assertCallerOwnsK8sCluster namespace_ c callerOwnerId).run
        (RouterCall.exec rt api) t = (.ok cr, t)) ↔
      ∃ own ∈ objects.clusters, crVisibleIn t callerOwnerId own.workspaceId = true ∧
        own.name = c := by
  have hgate : ∀ namespace_, (∃ cr, (assertCallerOwnsK8sCluster namespace_ c callerOwnerId).run
      (RouterCall.exec rt api) t = (.ok cr, t)) ↔
        (namespace_, c) ∈ (objects.clusters.filter fun o =>
          crVisibleIn t callerOwnerId o.workspaceId).map NamespacedObject.key := by
    intro namespace_
    rw [assertCallerOwnsK8sCluster_eq]
    refine admitted_iff NamespacedObject.toApiObject (fun o ho hkey => ?_) fun hmissing => ?_
    · obtain ⟨rfl, rfl⟩ := Prod.mk.inj hkey
      rw [Coroutine.run_call, RouterCall.exec, hapi.getCluster o ho]
    · obtain ⟨reason, message, hget⟩ := hapi.getCluster_missing _ _ hmissing
      exact ⟨reason, message, by rw [Coroutine.run_call, RouterCall.exec, hget]⟩
  simp only [hgate, List.mem_map, List.mem_filter, NamespacedObject.key, Prod.mk.injEq]
  constructor
  · rintro ⟨namespace_, own, ⟨hown, hvisible⟩, -, hname⟩
    exact ⟨own, hown, hvisible, hname⟩
  · rintro ⟨own, hown, hvisible, hname⟩
    exact ⟨own.namespace_, own, ⟨hown, hvisible⟩, rfl, hname⟩

end Reports

/-- **The endpoint deletes a template only once it has listed all clusters and none references it;
its response is that for the clusters of all pages, and the names in it are of clusters the caller
may see exactly if each cluster that references the template has the name of one.** -/
theorem template_deletion (callerOwnerId name : String) :
    (∀ rounds : ℕ,
      Deletes name (deleteK8sTemplate rounds callerOwnerId name) [] fun _ _ => True) ∧
    ∀ (rt : Runtime) (objects : ApiObjects) (api : KubeApi) (t : Tables) (item : Json),
      AnswersDeletion objects api →
      (assertTemplateVisible name callerOwnerId).run (RouterCall.exec rt api) t = (.ok item, t) →
      ∃ (rounds : ℕ) (items : List NamespacedObject), items.Perm objects.clusters ∧
        ∀ n ≥ rounds, (deleteK8sTemplate n callerOwnerId name).run (RouterCall.exec rt api) t =
          (outcome name (referencingNames name (items.map fun o => o.json)), t) ∧
        ((∀ c ∈ shownNames (referencingNames name (items.map fun o => o.json)),
            ∃ namespace_ cr, (assertCallerOwnsK8sCluster namespace_ c callerOwnerId).run
              (RouterCall.exec rt api) t = (.ok cr, t)) ↔
          ReferencedByOwn objects t callerOwnerId name) := by
  refine ⟨fun rounds => deletes_deleteK8sTemplate rounds, ?_⟩
  intro rt objects api t item hapi hgate
  obtain ⟨items, hperm, hpages⟩ := hapi.listAll
  obtain ⟨rounds, hrounds⟩ := @run_listAllClusters rt api objects t hapi _ _ hpages
  refine ⟨rounds, items, hperm, fun n hn =>
    ⟨run_deleteK8sTemplate hapi hgate (hrounds n hn), ?_⟩⟩
  simp only [exists_admitted_iff hapi.toAnswers]
  rcases referencingNames_cases name items with ⟨herror, o, ho, hbad⟩ | ⟨names, hnames, hall, hmem⟩
  · rw [herror]
    exact iff_of_true (by simp [shownNames]) (Or.inl ⟨o, hperm.mem_iff.1 ho, hbad⟩)
  · rw [hnames]
    constructor
    · intro hshown
      refine Or.inr fun o ho href => ?_
      exact hshown o.name ((hmem _).2 ⟨o, hperm.mem_iff.2 ho, href, rfl⟩)
    · rintro (⟨o, ho, hbad⟩ | hown) c hc
      · obtain ⟨b, hb⟩ := hall o (hperm.mem_iff.2 ho)
        exact (hbad b hb).elim
      · obtain ⟨o, ho, href, rfl⟩ := (hmem c).1 hc
        exact hown o (hperm.mem_iff.1 ho) href

/-! ### A template of bob's that another tenant uses -/

/-- A template in bob's workspace. -/
def bobsTemplate : ApiObject where
  json := .obj [("metadata", .obj [("name", .str "small"),
    ("labels", .obj [(workspaceLabel, .str "ws-bob")])])]
  metadata := [("name", .str "small"), ("labels", .obj [(workspaceLabel, .str "ws-bob")])]
  name := "small"
  metadata_eq := rfl
  name_eq := rfl
  labels := Or.inr (Or.inr ⟨_, rfl⟩)

/-- A cluster of another workspace that uses it. -/
def foreignObject : NamespacedObject where
  json := .obj [("metadata", .obj [("name", .str "orders"), ("namespace", .str "shop"),
      ("labels", .obj [(workspaceLabel, .str "ws-alice")])]),
    ("spec", .obj [("templateRef", .obj [("name", .str "small")])])]
  metadata := [("name", .str "orders"), ("namespace", .str "shop"),
    ("labels", .obj [(workspaceLabel, .str "ws-alice")])]
  name := "orders"
  namespace_ := "shop"
  metadata_eq := rfl
  name_eq := rfl
  namespace_eq := rfl
  labels := Or.inr (Or.inr ⟨_, rfl⟩)

/-- The template and the cluster. -/
def sharedObjects : ApiObjects where
  clusters := [foreignObject]
  templates := [bobsTemplate]
  nodup_clusters := by simp
  nodup_templates := by simp

/-- An API server with the template and the cluster. -/
def sharedApi : KubeApi
  | .listClusters _ _ _ _ => .ok ([foreignObject.json], none)
  | .getCluster namespace_ name =>
      if (namespace_, name) = foreignObject.key then .ok foreignObject.json
      else .error (.k8sApi 404 "Not Found" "")
  | .listTemplates => .ok [bobsTemplate.json]
  | .getTemplate name =>
      if name = bobsTemplate.name then .ok bobsTemplate.json
      else .error (.k8sApi 404 "Not Found" "")
  | .createCluster _ body => .ok body
  | .deleteCluster _ _ => .ok (.obj [])
  | .listNamespaces => .ok ["shop"]
  | .listSecrets _ => .ok []
  | .deleteTemplate _ => .ok ()

theorem answers_shared : AnswersDeletion sharedObjects sharedApi where
  listClusters limit _ := ⟨[foreignObject], .refl _, .last rfl⟩
  getCluster o ho := by
    obtain rfl := List.mem_singleton.1 ho
    rfl
  getCluster_missing namespace_ name h := by
    refine ⟨"Not Found", "", ?_⟩
    simp only [sharedApi, if_neg fun hkey => h (List.mem_singleton.2 hkey)]
  listTemplates := ⟨[bobsTemplate], .refl _, rfl⟩
  getTemplate o ho := by
    obtain rfl := List.mem_singleton.1 ho
    rfl
  getTemplate_missing name h := by
    refine ⟨"Not Found", "", ?_⟩
    simp only [sharedApi, if_neg fun hname => h (List.mem_singleton.2 hname)]
  listAll := ⟨[foreignObject], .refl _, .last rfl⟩
  token_ne token items h := by cases h
  deleteTemplate name := rfl

/-- Bob's deletion, for any number of rounds that is enough: it is refused for `orders`, a name bob
may be told exactly if a cluster of his own has it. -/
theorem template_deletion_shared :
    ∃ rounds : ℕ, ∀ n ≥ rounds,
      (deleteK8sTemplate n "bob" "small").run (RouterCall.exec plainRuntime sharedApi)
          bobsWorkspace = (.error (templateReferenced "small" ["orders"]), bobsWorkspace) ∧
        ((∀ c ∈ ["orders"], ∃ namespace_ cr, (assertCallerOwnsK8sCluster namespace_ c "bob").run
            (RouterCall.exec plainRuntime sharedApi) bobsWorkspace = (.ok cr, bobsWorkspace)) ↔
          ReferencedByOwn sharedObjects bobsWorkspace "bob" "small") := by
  obtain ⟨rounds, items, hperm, h⟩ := (template_deletion "bob" "small").2 plainRuntime
    sharedObjects sharedApi bobsWorkspace bobsTemplate.json answers_shared rfl
  obtain rfl := List.perm_singleton.1 hperm
  exact ⟨rounds, h⟩

/-- Bob is told the name of a cluster that the gate hides from him. -/
theorem conflict_names_foreign_cluster :
    ¬∀ (api : KubeApi) (t : Tables) (callerOwnerId name : String) (rounds : ℕ)
      (referencing : List String),
      (deleteK8sTemplate rounds callerOwnerId name).run (RouterCall.exec plainRuntime api) t =
        (.error (templateReferenced name referencing), t) →
      ∀ c ∈ referencing, ∃ namespace_ cr,
        (assertCallerOwnsK8sCluster namespace_ c callerOwnerId).run
          (RouterCall.exec plainRuntime api) t = (.ok cr, t) := by
  intro h
  have hadmitted := h sharedApi bobsWorkspace "bob" "small" 1 ["orders"] rfl "orders"
    List.mem_cons_self
  rw [exists_admitted_iff answers_shared.toAnswers] at hadmitted
  obtain ⟨own, hown, hvisible, -⟩ := hadmitted
  obtain rfl := List.mem_singleton.1 hown
  have hhidden : crVisibleIn bobsWorkspace "bob" foreignObject.workspaceId = false := rfl
  rw [hhidden] at hvisible
  cases hvisible

end ClusterManager.K8s
