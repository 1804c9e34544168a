import ClusterManager.K8s.Create
import ClusterManager.Lib.Interleaving

/-!
# The label of a new cluster

What an endpoint has been answered before it submits a CR decides the label it carries: a checked
workspace, the default one, or that of the source. A clone of a source without a label is the one
submission without a label (`submitted_labelled_iff`).
-/

namespace ClusterManager.K8s

open Db Interleaving
open Build (CreateK8sClusterRequest)

/-- An answered call of a handler. -/
abbrev RouterAnswer : Type := Answer RouterCall RouterCall.Resp Exc

/-- What `is_workspace_visible` makes of the answer to its lookup. -/
def checkPassed (callerOwnerId : String) : Except Exc (Option Workspace) → Bool
  | .ok ws => ownedOrShared ws callerOwnerId
  | .error e => e = .dbNotInitialized

/-- The label of a CR names a workspace: the default one, which is the system's and so everyone's,
or one that a check before found visible to the caller. -/
def Labelled (callerOwnerId : String) (past : List RouterAnswer) (body : Json) : Prop :=
  ∃ workspaceId, crLabel body = .ok (.str workspaceId) ∧ workspaceId ≠ "" ∧
    (workspaceId = defaultWorkspaceId ∨
      ∃ x, ⟨.db (.getWorkspace workspaceId), x⟩ ∈ past ∧ checkPassed callerOwnerId x = true)

/-! ### Stamps -/

theorem crLabel_obj {fields metadata labels : Dict String Json}
    (hmetadata : Dict.get? fields "metadata" = some (.obj metadata))
    (hlabels : Dict.get? metadata "labels" = some (.obj labels)) :
    crLabel (.obj fields) = .ok ((Dict.get? labels workspaceLabel).getD .null) := by
  have hm : metadata ≠ [] := by
    rintro rfl
    cases hlabels
  have hmeta : crMetadata (.obj fields) = .ok (.obj metadata) := by
    rw [crMetadata, Json.get_obj, hmetadata]
    exact congrArg Except.ok (or_of_truthy (by simpa [Json.truthy] using hm))
  rw [crLabel, hmeta, ok_bind, Json.get_obj, hlabels, ok_bind]
  cases labels <;> rfl

/-- A stamped CR carries the label. -/
theorem crLabel_stampWorkspace {cr cr' : Json} {workspaceId : String}
    (h : stampWorkspace cr workspaceId = .ok cr') : crLabel cr' = .ok (.str workspaceId) := by
  obtain ⟨⟨cr₁, metadata⟩, -, h⟩ := exists_of_bind_ok h
  obtain ⟨metadata', hmetadata, h⟩ := exists_of_bind_ok h
  obtain ⟨⟨metadata₁, labels⟩, -, hmetadata⟩ := exists_of_bind_ok hmetadata
  obtain ⟨labels', hlabels, hmetadata⟩ := exists_of_bind_ok hmetadata
  cases labels with
  | obj labels =>
    cases metadata₁ with
    | obj metadata₁ =>
      cases cr₁ with
      | obj cr₁ =>
        obtain rfl := Except.ok.inj hlabels
        obtain rfl := Except.ok.inj hmetadata
        obtain rfl := Except.ok.inj h
        rw [crLabel_obj Dict.get?_set_self Dict.get?_set_self, Dict.get?_set_self]
        rfl
      | _ => cases h
    | _ => cases hmetadata
  | _ => cases hlabels

/-- A clone carries the label of its source, or none. -/
theorem crLabel_cloneCr {source cr : Json} {name namespace_ : String}
    (h : cloneCr source name namespace_ = .ok cr) :
    ∃ workspaceId, crWorkspaceId source = .ok workspaceId ∧
      crLabel cr = .ok ((workspaceId.map Json.str).getD .null) := by
  obtain ⟨spec, -, h⟩ := exists_of_bind_ok h
  obtain ⟨workspaceId, hws, h⟩ := exists_of_bind_ok h
  obtain ⟨spec', -, h⟩ := exists_of_bind_ok h
  obtain rfl := Except.ok.inj h
  refine ⟨workspaceId, hws, ?_⟩
  cases workspaceId <;> rfl

/-! ### Submissions -/

/-- A call of one of the endpoints that create clusters. -/
inductive ClusterCall
  | create (body : CreateK8sClusterRequest) (uuid now : String) (nonce : ℕ)
  | importManifest (body : ImportClusterRequest)
  | clone (namespace_ name : String) (body : CloneClusterRequest)

/-- The program of a call. -/
def ClusterCall.program (rt : Runtime) (callerOwnerId : String) :
    ClusterCall → RouterProgram K8sClusterSummary
  | .create body uuid now nonce => createK8sCluster rt callerOwnerId body uuid now nonce
  | .importManifest body => importK8sCluster callerOwnerId body
  | .clone namespace_ name body => cloneK8sCluster callerOwnerId namespace_ name body

/-- The call clones a source that was found without a label. -/
def ClonesUnlabelled (past : List RouterAnswer) : ClusterCall → Prop
  | .clone namespace_ name _ => ∃ source,
      ⟨.kube (.getCluster namespace_ name), .ok source⟩ ∈ past ∧ crWorkspaceId source = .ok none
  | _ => False

/-- A submission has a label exactly if it is no clone of a source without one. -/
def LabelledUnlessClone (callerOwnerId : String) (call : ClusterCall) :
    RouterCall → List RouterAnswer → Prop
  | .kube (.createCluster _ body), past =>
      Labelled callerOwnerId past body ↔ ¬ ClonesUnlabelled past call
  | _, _ => True

/-- Every answer is possible. -/
def AnyRouterAnswer : (r : RouterCall) → Except Exc r.Resp → Prop := fun _ _ => True

/-- A program of a call that submits as it should. -/
abbrev Submits (callerOwnerId : String) (call : ClusterCall) {α : Type} (p : RouterProgram α)
    (past : List RouterAnswer) (Q : α → List RouterAnswer → Prop) : Prop :=
  p.Safe (History AnyRouterAnswer) (LabelledUnlessClone callerOwnerId call) past Q
    fun _ _ => True

section Submissions

variable {rt : Runtime} {callerOwnerId : String} {call : ClusterCall} {past : List RouterAnswer}
  {α : Type}

theorem submits_k8sEndpoint {operation : String} {func : RouterProgram α}
    (h : Submits callerOwnerId call func past fun _ _ => True) :
    Submits callerOwnerId call (k8sEndpoint operation func) past fun _ _ => True := by
  rw [Submits, k8sEndpoint, Coroutine.safe_tryCatch]
  refine h.mono (fun _ _ => id) fun e past _ => ?_
  cases e <;> trivial

/-- The visibility check leaves its lookup in the past. -/
theorem submits_workspaceVisible {workspaceId : String} {Q : Bool → List RouterAnswer → Prop}
    (h : ∀ x, Q (checkPassed callerOwnerId x) (past ++ [⟨.db (.getWorkspace workspaceId), x⟩])) :
    Submits callerOwnerId call (workspaceVisible workspaceId callerOwnerId) past Q := by
  rw [Submits, workspaceVisible, safe_isWorkspaceVisible]
  refine Coroutine.safe_call.2 ⟨trivial, ?_, ?_⟩
  · rintro ws _ ⟨-, rfl⟩
    exact h (.ok ws)
  · rintro e _ ⟨-, rfl⟩
    split
    next he =>
      subst he
      exact h (.error .dbNotInitialized)
    next => trivial

/-- A call whose answers say nothing about labels. -/
theorem submits_call {r : RouterCall} {Q : r.Resp → List RouterAnswer → Prop}
    (hr : LabelledUnlessClone callerOwnerId call r past)
    (h : ∀ a, Q a (past ++ [⟨r, .ok a⟩])) :
    Submits callerOwnerId call (Coroutine.call r) past Q := by
  refine Coroutine.safe_call.2 ⟨hr, ?_, fun _ _ _ => trivial⟩
  rintro a _ ⟨-, rfl⟩
  exact h a

/-- What the access gate lets through, and what it was answered. -/
theorem submits_assertCallerOwnsK8sCluster {namespace_ name : String}
    {Q : Json → List RouterAnswer → Prop}
    (hunlabelled : ∀ cr, crWorkspaceId cr = .ok none →
      Q cr (past ++ [⟨.kube (.getCluster namespace_ name), .ok cr⟩]))
    (hlabelled : ∀ cr workspaceId x, crWorkspaceId cr = .ok (some workspaceId) →
      checkPassed callerOwnerId x = true →
        Q cr (past ++ [⟨.kube (.getCluster namespace_ name), .ok cr⟩] ++
          [⟨.db (.getWorkspace workspaceId), x⟩])) :
    Submits callerOwnerId call (assertCallerOwnsK8sCluster namespace_ name callerOwnerId) past
      Q := by
  rw [Submits, assertCallerOwnsK8sCluster, Coroutine.safe_bind, Coroutine.safe_tryCatch]
  refine Coroutine.safe_call.2 ⟨trivial, ?_, ?_⟩
  · rintro cr _ ⟨-, rfl⟩
    rw [Coroutine.safe_bind, Coroutine.safe_lift]
    refine ⟨fun workspaceId hws => ?_, fun _ _ => trivial⟩
    cases workspaceId with
    | none =>
      dsimp only
      split
      · exact hunlabelled cr hws
      · trivial
    | some workspaceId =>
      dsimp only
      rw [Coroutine.safe_bind]
      refine submits_workspaceVisible fun x => ?_
      split
      next hpassed => exact hlabelled cr workspaceId x hws hpassed
      next => trivial
  · rintro e _ ⟨-, rfl⟩
    cases e with
    | k8sApi status reason message =>
      dsimp only
      split <;> trivial
    | _ => trivial

theorem Labelled.mono {past' : List RouterAnswer} {body : Json}
    (h : Labelled callerOwnerId past body) (hsub : ∀ a ∈ past, a ∈ past') :
    Labelled callerOwnerId past' body := by
  obtain ⟨workspaceId, hlabel, hne, hws⟩ := h
  exact ⟨workspaceId, hlabel, hne, hws.imp_right fun ⟨x, hx, hpassed⟩ => ⟨x, hsub _ hx, hpassed⟩⟩

/-- The default workspace is a label without a check. -/
theorem labelled_default {body : Json} (h : crLabel body = .ok (.str defaultWorkspaceId)) :
    Labelled callerOwnerId past body :=
  ⟨defaultWorkspaceId, h, by decide, Or.inl rfl⟩

/-- A submission that is no clone. -/
theorem submits_createCluster {namespace_ : String} {body : Json}
    (hcall : ¬ ClonesUnlabelled past call) (h : Labelled callerOwnerId past body)
    {Q : Json → List RouterAnswer → Prop}
    (hQ : ∀ a, Q a (past ++ [⟨.kube (.createCluster namespace_ body), .ok a⟩])) :
    Submits callerOwnerId call (kube (.createCluster namespace_ body)) past Q :=
  submits_call (iff_of_true h hcall) hQ

theorem submits_autoConnect {body : CreateK8sClusterRequest} {uuid now : String} {nonce : ℕ} :
    Submits callerOwnerId call (autoConnect rt body uuid now nonce) past fun _ _ => True := by
  unfold autoConnect
  split
  · rw [Submits, Coroutine.safe_tryCatch]
    refine Coroutine.Safe.mono (E := fun _ _ => True) ?_ (fun _ _ => id) fun e _ _ => ?_
    · rw [Coroutine.safe_bind]
      refine submits_call trivial fun workspace => ?_
      rw [Coroutine.safe_bind]
      exact submits_call trivial fun _ => trivial
    · split <;> trivial
  · trivial

/-- The label of a created cluster is admitted once the requested workspace is. -/
theorem labelled_requested {workspaceId : Option String} {body : Json}
    (hchecked : ∀ id, workspaceId = some id → ∃ x, ⟨.db (.getWorkspace id), x⟩ ∈ past ∧
      checkPassed callerOwnerId x = true)
    (h : crLabel body = .ok (.str (orDefault defaultWorkspaceId (workspaceId.getD "")))) :
    Labelled callerOwnerId past body := by
  cases workspaceId with
  | none => exact labelled_default h
  | some id =>
    by_cases hid : id = ""
    · subst hid
      exact labelled_default h
    · refine ⟨id, by simpa [orDefault, hid] using h, hid, Or.inr (hchecked id rfl)⟩

theorem submits_create {body : CreateK8sClusterRequest} {uuid now : String} {nonce : ℕ} :
    Submits callerOwnerId (.create body uuid now nonce)
      (createK8sCluster rt callerOwnerId body uuid now nonce) [] fun _ _ => True := by
  have hcheck : Submits callerOwnerId (.create body uuid now nonce)
      (assertRequestedWorkspace callerOwnerId body.workspaceId) [] fun _ past =>
        ∀ id, body.workspaceId = some id → ∃ x, ⟨.db (.getWorkspace id), x⟩ ∈ past ∧
          checkPassed callerOwnerId x = true := by
    cases hws : body.workspaceId with
    | none => exact nofun
    | some workspaceId =>
      rw [Submits, assertRequestedWorkspace, Coroutine.safe_bind]
      refine submits_workspaceVisible fun x => ?_
      split
      next hpassed =>
        rintro _ ⟨⟩
        exact ⟨x, List.mem_singleton_self _, hpassed⟩
      next => trivial
  refine submits_k8sEndpoint ?_
  rw [Submits, Coroutine.safe_bind]
  refine hcheck.mono (fun _ past hchecked => ?_) fun _ _ => id
  rw [Coroutine.safe_bind]
  refine submits_call trivial fun existingNamespaces => ?_
  split
  next => trivial
  next =>
    simp only [Coroutine.safe_bind]
    rw [Coroutine.safe_lift]
    refine ⟨fun built hbuilt => ?_, fun _ _ => trivial⟩
    obtain ⟨cr, req⟩ := built
    have hreq : req.workspaceId = body.workspaceId := by rw [Build.buildCr_eq hbuilt]
    dsimp only
    rw [Coroutine.safe_lift]
    refine ⟨fun cr' hcr' => ?_, fun _ _ => trivial⟩
    rw [hreq] at hcr'
    refine submits_createCluster id (labelled_requested (fun id hid => ?_)
      (crLabel_stampWorkspace hcr')) fun result => ?_
    · obtain ⟨x, hx, hpassed⟩ := hchecked id hid
      exact ⟨x, List.mem_append_left _ hx, hpassed⟩
    · refine submits_autoConnect.mono (fun _ past _ => ?_) fun _ _ => id
      rw [Coroutine.safe_lift]
      exact ⟨fun _ _ => trivial, fun _ _ => trivial⟩

theorem submits_import {body : ImportClusterRequest} :
    Submits callerOwnerId (.importManifest body) (importK8sCluster callerOwnerId body) []
      fun _ _ => True := by
  have hcheck : ∀ cr,
      Submits callerOwnerId (.importManifest body) (checkOrStamp callerOwnerId cr) []
      fun cr' past => Labelled callerOwnerId past cr' := by
    intro cr
    rw [Submits, checkOrStamp, Coroutine.safe_bind, Coroutine.safe_lift]
    refine ⟨fun workspaceId hws => ?_, fun _ _ => trivial⟩
    cases workspaceId with
    | none =>
      dsimp only
      rw [Coroutine.safe_lift]
      exact ⟨fun cr' hcr' => labelled_default (crLabel_stampWorkspace hcr'), fun _ _ => trivial⟩
    | some workspaceId =>
      dsimp only
      rw [Coroutine.safe_bind]
      refine submits_workspaceVisible fun x => ?_
      split
      next hpassed =>
        obtain ⟨hlabel, hne⟩ := crWorkspaceId_eq_some hws
        exact ⟨workspaceId, hlabel, hne, Or.inr ⟨x, List.mem_singleton_self _, hpassed⟩⟩
      next => trivial
  refine submits_k8sEndpoint ?_
  simp only [Submits, Coroutine.safe_bind]
  rw [Coroutine.safe_lift]
  refine ⟨?_, fun _ _ => trivial⟩
  rintro ⟨crNamespace, cr⟩ -
  refine (hcheck cr).mono (fun cr' past hlabelled => ?_) fun _ _ => id
  refine submits_call trivial fun existingNamespaces => ?_
  dsimp only
  split
  next namespace_ =>
    split
    next =>
      rw [Coroutine.safe_bind]
      refine submits_createCluster id (hlabelled.mono fun a => List.mem_append_left _) fun _ => ?_
      rw [Coroutine.safe_lift]
      exact ⟨fun _ _ => trivial, fun _ _ => trivial⟩
    next => trivial
  next => trivial

/-- What a clone does once its source has passed the gate. -/
theorem submits_cloneTail {namespace_ name targetNs : String} {body : CloneClusterRequest}
    {source : Json}
    (h : ∀ cr, cloneCr source body.name targetNs = .ok cr → ∀ existingNamespaces,
      (Labelled callerOwnerId
          (past ++ [⟨.kube .listNamespaces, .ok existingNamespaces⟩]) cr ↔
        ¬ ClonesUnlabelled (past ++ [⟨.kube .listNamespaces, .ok existingNamespaces⟩])
          (.clone namespace_ name body))) :
    Submits callerOwnerId (.clone namespace_ name body)
      (cloneFrom source body targetNs) past fun _ _ => True := by
  rw [Submits, cloneFrom, Coroutine.safe_bind]
  refine submits_call trivial fun existingNamespaces => ?_
  split
  next => trivial
  next =>
    rw [Coroutine.safe_bind, Coroutine.safe_lift]
    refine ⟨fun cr hcr => ?_, fun _ _ => trivial⟩
    rw [Coroutine.safe_bind, Coroutine.safe_tryCatch]
    refine Coroutine.Safe.mono (E := fun _ _ => True)
      (submits_call (h cr hcr existingNamespaces) fun result => ?_) (fun _ _ => id)
      fun e _ _ => ?_
    · rw [Coroutine.safe_lift]
      exact ⟨fun _ _ => trivial, fun _ _ => trivial⟩
    · cases e with
      | k8sApi status reason message =>
        dsimp only
        split <;> trivial
      | _ => trivial

theorem submits_clone {namespace_ name : String} {body : CloneClusterRequest} :
    Submits callerOwnerId (.clone namespace_ name body)
      (cloneK8sCluster callerOwnerId namespace_ name body) [] fun _ _ => True := by
  refine submits_k8sEndpoint ?_
  rw [Submits, Coroutine.safe_bind]
  refine submits_assertCallerOwnsK8sCluster (fun source hws => ?_)
    fun source workspaceId x hws hpassed => ?_
  · refine submits_cloneTail fun cr hcr existingNamespaces => ?_
    obtain ⟨workspaceId, hws', hlabel⟩ := crLabel_cloneCr hcr
    obtain rfl := Except.ok.inj (hws.symm.trans hws')
    refine iff_of_false ?_ fun h => h ⟨source, by simp, hws⟩
    rintro ⟨id, hid, -⟩
    cases hlabel.symm.trans hid
  · refine submits_cloneTail fun cr hcr existingNamespaces => ?_
    obtain ⟨workspaceId', hws', hlabel⟩ := crLabel_cloneCr hcr
    obtain rfl := Except.ok.inj (hws.symm.trans hws')
    refine iff_of_true ⟨workspaceId, hlabel, (crWorkspaceId_eq_some hws).2,
      Or.inr ⟨x, by simp, hpassed⟩⟩ ?_
    rintro ⟨source', hsource', hws''⟩
    -- of what the endpoint was answered, only the first is a CR
    rcases List.mem_cons.1 hsource' with h | h
    · obtain rfl := Except.ok.inj (eq_of_heq (Sigma.mk.inj h).2)
      cases hws''.symm.trans hws
    · have hget : ∀ r ∈ [RouterCall.db (.getWorkspace workspaceId), .kube .listNamespaces],
          r ≠ .kube (.getCluster namespace_ name) := by
        intro r hr
        simp only [List.mem_cons, List.not_mem_nil, or_false] at hr
        rcases hr with rfl | rfl <;> nofun
      exact hget _ (List.mem_map_of_mem (f := Sigma.fst) h) rfl

theorem submits_program :
    Submits callerOwnerId call (call.program rt callerOwnerId) [] fun _ _ => True := by
  cases call with
  | create body uuid now nonce => exact submits_create
  | importManifest body => exact submits_import
  | clone namespace_ name body => exact submits_clone

end Submissions

/-- Every CR the endpoints submit is labelled with a workspace its caller sees, exactly if it is
no clone of a source that was found without a label. -/
theorem submitted_labelled_iff (rt : Runtime) (callerOwnerId : String) (call : ClusterCall)
    {past : List RouterAnswer} {namespace_ : String} {body : Json}
    (h : (call.program rt callerOwnerId).Requests past
      (.kube (.createCluster namespace_ body))) :
    Labelled callerOwnerId past body ↔ ¬ ClonesUnlabelled past call :=
  safe_requests submits_program h fun _ _ => trivial

/-- A cluster, with a label or without one. -/
def sourceCluster (labels : Dict String String) : CustomResource :=
  { CustomResource.devDb labels with fields := [("spec", .obj [])] }

/-- The clone of that cluster under another name. -/
def cloneDb : ClusterCall := .clone "dev" "db" { name := "db2" }

/-- What alice is answered before the clone of her own cluster is submitted. -/
def aliceClones : List RouterAnswer :=
  [⟨.kube (.getCluster "dev" "db"), .ok (sourceCluster [(workspaceLabel, "ws-alice")]).json⟩,
    ⟨.db (.getWorkspace "ws-alice"), .ok (some
      { id := "ws-alice", name := "A", createdAt := "", updatedAt := "",
        ownerId := "alice" })⟩,
    ⟨.kube .listNamespaces, .ok ["dev"]⟩]

/-- The clone of a labelled cluster is submitted with its label. -/
theorem submitted_labelled_iff_clone :
    Labelled "alice" aliceClones
        (.obj [("apiVersion", .str "acko.io/v1alpha1"), ("kind", .str "AerospikeCluster"),
          ("metadata", cloneMetadata "db2" "dev" (some "ws-alice")), ("spec", .obj [])]) ↔
      ¬ ClonesUnlabelled aliceClones cloneDb :=
  submitted_labelled_iff plainRuntime "alice" cloneDb
    (.later _ _ _ _ _ (.later _ _ _ _ _ (.later _ _ _ _ _ (.here _ _))))

/-- The system caller clones a cluster without a label, and the clone has none either. -/
theorem clone_submitted_unlabelled :
    ∃ past body, (cloneDb.program plainRuntime systemOwnerId).Requests past
        (.kube (.createCluster "dev" body)) ∧ ¬ Labelled systemOwnerId past body := by
  refine ⟨[⟨.kube (.getCluster "dev" "db"), .ok (sourceCluster []).json⟩,
    ⟨.kube .listNamespaces, .ok ["dev"]⟩], _, .later _ _ _ _ _ (.later _ _ _ _ _ (.here _ _)), ?_⟩
  rintro ⟨workspaceId, hlabel, -⟩
  cases hlabel

end ClusterManager.K8s
