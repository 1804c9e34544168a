import ClusterManager.K8s.Clusters
import ClusterManager.Lib.Hands

/-!
# The autoscaler of a cluster

The endpoints that read, write and delete the `HorizontalPodAutoscaler` of a cluster. A write reads
the object first and then replaces or creates it, and anything may happen between the calls: other
requests, other clients of the Kubernetes API, and answers that are lost.

`writes_once` says what a request has changed by the time it is answered, `shown_was_put` where the
configuration that is shown comes from.
-/

namespace ClusterManager.K8s.Hpa

open Interleaving

/-! ### Configurations and objects -/

/-- `HPAConfig`. A body has both bounds; `model_construct` takes what the object has. -/
structure HpaConfig where
  minReplicas : Option ℤ
  maxReplicas : ℤ
  cpuTargetPercent : Option ℤ := none
  memoryTargetPercent : Option ℤ := none
  deriving DecidableEq

/-- A percentage that is left out, or from 1 to 100. -/
def PercentChecked (percent : Option ℤ) : Prop := ∀ p ∈ percent, 1 ≤ p ∧ p ≤ 100

/-- The checks of `HPAConfig`: the bounds of the fields, `max_gte_min` and `at_least_one_metric`. -/
structure HpaConfig.Checked (config : HpaConfig) : Prop where
  minReplicas : ∃ n, config.minReplicas = some n ∧ 1 ≤ n ∧ n ≤ 8 ∧ n ≤ config.maxReplicas
  maxReplicas : 1 ≤ config.maxReplicas ∧ config.maxReplicas ≤ 8
  cpu : PercentChecked config.cpuTargetPercent
  memory : PercentChecked config.memoryTargetPercent
  metric : config.cpuTargetPercent ≠ none ∨ config.memoryTargetPercent ≠ none

/-- A body that passed the checks. -/
abbrev Body : Type := { config : HpaConfig // config.Checked }

/-- `V2MetricTarget`. -/
structure MetricTarget where
  type : String
  averageUtilization : Option ℤ
  deriving DecidableEq

/-- `V2ResourceMetricSource`. -/
structure ResourceMetric where
  name : String
  target : MetricTarget
  deriving DecidableEq

/-- `V2MetricSpec`. Metrics that are not of resources have no `resource`. -/
structure MetricSpec where
  type : String
  resource : Option ResourceMetric
  deriving DecidableEq

/-- `V2HorizontalPodAutoscalerSpec`, with the target as its API version, kind and name. -/
structure HpaSpec where
  scaleTargetRef : String × String × String
  minReplicas : Option ℤ
  maxReplicas : ℤ
  metrics : Option (List MetricSpec)
  deriving DecidableEq

/-- What a request gives of the object: its name and namespace are those of the call. -/
structure HpaObject where
  labels : Dict String String
  spec : HpaSpec
  deriving DecidableEq

/-- A condition of the status. -/
structure HpaCondition where
  type : String
  status : String
  reason : Option String
  message : Option String
  lastTransitionTime : Option String
  deriving DecidableEq

/-- `V2HorizontalPodAutoscalerStatus` as `to_dict` has it. -/
structure RawStatus where
  currentReplicas : Option ℤ
  desiredReplicas : Option ℤ
  conditions : Option (List HpaCondition)
  deriving DecidableEq

/-- An object as `to_dict` has it. -/
structure RawHpa where
  object : HpaObject
  status : Option RawStatus
  deriving DecidableEq

/-- A metric of `_build_hpa_object`. -/
def resourceMetric (name : String) (percent : ℤ) : MetricSpec where
  type := "Resource"
  resource := some ⟨name, "Utilization", some percent⟩

/-- `_build_hpa_object`. -/
def buildHpaObject (clusterName : String) (config : HpaConfig) : HpaObject where
  labels := [("app.kubernetes.io/managed-by", "aerospike-cluster-manager"),
    ("app.kubernetes.io/instance", clusterName)]
  spec :=
    { scaleTargetRef := ("acko.io/v1alpha1", "AerospikeCluster", clusterName)
      minReplicas := config.minReplicas
      maxReplicas := config.maxReplicas
      metrics := some ((config.cpuTargetPercent.toList.map (resourceMetric "cpu")) ++
        config.memoryTargetPercent.toList.map (resourceMetric "memory")) }

/-! ### Responses -/

/-- `HPAStatus`. -/
structure HpaStatus where
  currentReplicas : ℤ
  desiredReplicas : ℤ
  conditions : List HpaCondition
  deriving DecidableEq

/-- `HPAResponse`. -/
structure HpaResponse where
  enabled : Bool := true
  config : HpaConfig
  status : HpaStatus
  deriving DecidableEq

/-- One metric in the loop of `extract_hpa_response`: the targets of the CPU and the memory. -/
def readMetric (targets : Option ℤ × Option ℤ) (metric : MetricSpec) :
    Except Exc (Option ℤ × Option ℤ) :=
  match metric.resource with
  -- the key is there with `None` under it, and `None` has no `get`
  | none => .error .typeError
  | some resource =>
      match resource.target.averageUtilization with
      | none => .ok targets
      | some percent =>
          if resource.name = "cpu" then .ok (some percent, targets.2)
          else if resource.name = "memory" then .ok (targets.1, some percent)
          else .ok targets

/-- `HPAStatus` of the status of an object. `None` is no integer. -/
def readStatus (status : RawStatus) : Except Exc HpaStatus :=
  match status.currentReplicas, status.desiredReplicas with
  | some currentReplicas, some desiredReplicas =>
      .ok ⟨currentReplicas, desiredReplicas, status.conditions.getD []⟩
  | _, _ => .error .validationError

/-- `extract_hpa_response`. -/
def extractHpaResponse (raw : RawHpa) : Except Exc HpaResponse :=
  match raw.object.spec.metrics, raw.status with
  | some metrics, some status => do
      let targets ← metrics.foldlM readMetric (none, none)
      let status ← readStatus status
      return { config :=
                 ⟨raw.object.spec.minReplicas, raw.object.spec.maxReplicas, targets.1, targets.2⟩
               status }
  | _, _ => .error .typeError

/-- What is extracted from the object of a configuration has that configuration. -/
theorem config_of_buildHpaObject {raw : RawHpa} {clusterName : String} {config : HpaConfig}
    {response : HpaResponse} (hobject : raw.object = buildHpaObject clusterName config)
    (h : extractHpaResponse raw = .ok response) : response.config = config := by
  obtain ⟨object, status⟩ := raw
  subst hobject
  obtain ⟨minReplicas, maxReplicas, cpu, memory⟩ := config
  cases status with
  | none => cases h
  | some status =>
    have htargets : ((cpu.toList.map (resourceMetric "cpu")) ++
        memory.toList.map (resourceMetric "memory")).foldlM readMetric (none, none) =
          .ok (cpu, memory) := by
      cases cpu <;> cases memory <;> rfl
    unfold extractHpaResponse buildHpaObject at h
    dsimp only at h
    rw [htargets, ok_bind] at h
    obtain ⟨shown, -, h⟩ := bind_eq_ok.1 h
    cases h
    rfl

/-! ### Endpoints -/

/-- The namespace and the name of a cluster, which its autoscaler shares. -/
abbrev Key : Type := String × String

/-- The calls into `k8s_client` for autoscalers. -/
inductive HpaCall
  | getHpa (key : Key)
  | createHpa (key : Key) (config : HpaConfig)
  | updateHpa (key : Key) (config : HpaConfig)
  | deleteHpa (key : Key)

/-- What each call returns. -/
abbrev HpaCall.Resp : HpaCall → Type
  | .deleteHpa _ => Unit
  | _ => RawHpa

/-- The calls of an endpoint: those of the access gate, and those for autoscalers. -/
inductive HpaRequest
  | router (r : RouterCall)
  | hpa (c : HpaCall)

/-- What each call returns. -/
abbrev HpaRequest.Resp : HpaRequest → Type
  | .router r => r.Resp
  | .hpa c => c.Resp

/-- The programs over these calls. -/
abbrev HpaProgram (α : Type) : Type := Coroutine HpaRequest HpaRequest.Resp Exc α

/-- Await a call for an autoscaler. -/
abbrev hpa (c : HpaCall) : HpaProgram c.Resp := Coroutine.call (HpaRequest.hpa c)

/-- `_assert_caller_owns_k8s_cluster` among these calls. -/
def gate (key : Key) (callerOwnerId : String) : HpaProgram Json :=
  (assertCallerOwnsK8sCluster key.1 key.2 callerOwnerId).embed .router fun _ x => x

/-- The exception that `_k8s_endpoint` raises for another one. -/
def endpointExc (operation : String) : Exc → Exc
  | .http status detail => .http status detail
  | .k8sApi status reason message => mapK8sError status reason message
  | e => if e.isException then .http 500 ("Failed to " ++ operation) else e

/-- `_k8s_endpoint`. -/
def hpaEndpoint {α : Type} (operation : String) (func : HpaProgram α) : HpaProgram α :=
  func.tryCatch fun e => throw (endpointExc operation e)

/-- The bodies that are answered. -/
inductive Reply
  | shown (response : HpaResponse)
  | written (status : ℕ) (response : HpaResponse)
  | deleted (message : String)

/-- `get_k8s_cluster_hpa`. -/
def getK8sClusterHpa (callerOwnerId : String) (key : Key) : HpaProgram Reply :=
  hpaEndpoint "get HPA for Kubernetes cluster" do
    let _ ← gate key callerOwnerId
    let raw ← hpa (.getHpa key)
    let response ← Coroutine.lift (extractHpaResponse raw)
    return .shown response

/-- Update where there is an object, create where there is none: the status, and the object. -/
def upsert (key : Key) (config : HpaConfig) : HpaProgram (ℕ × RawHpa) :=
  Coroutine.tryCatch (do
    let _ ← hpa (.getHpa key)
    let raw ← hpa (.updateHpa key config)
    return (200, raw)) fun
  | .k8sApi status reason message =>
      if status = 404 then do
        let raw ← hpa (.createHpa key config)
        return (201, raw)
      else throw (.k8sApi status reason message)
  | e => throw e

/-- `create_or_update_k8s_cluster_hpa`. -/
def createOrUpdateK8sClusterHpa (callerOwnerId : String) (key : Key) (body : HpaConfig) :
    HpaProgram Reply :=
  hpaEndpoint "create/update HPA for Kubernetes cluster" do
    if body.cpuTargetPercent = none ∧ body.memoryTargetPercent = none then
      throw (.http 400
        "At least one of cpu_target_percent or memory_target_percent is required")
    else
      let _ ← gate key callerOwnerId
      let (status, raw) ← upsert key body
      let response ← Coroutine.lift (extractHpaResponse raw)
      return .written status response

/-- `delete_k8s_cluster_hpa`. -/
def deleteK8sClusterHpa (callerOwnerId : String) (key : Key) : HpaProgram Reply :=
  hpaEndpoint "delete HPA for Kubernetes cluster" do
    let _ ← gate key callerOwnerId
    let _ ← hpa (.deleteHpa key)
    return .deleted ("HPA for " ++ key.1 ++ "/" ++ key.2 ++ " deleted")

/-- A request to one of the endpoints. -/
inductive Request
  | get (callerOwnerId : String) (key : Key)
  | put (callerOwnerId : String) (key : Key) (body : Body)
  | delete (callerOwnerId : String) (key : Key)

/-- The program of a request. -/
def Request.program : Request → HpaProgram Reply
  | .get callerOwnerId key => getK8sClusterHpa callerOwnerId key
  | .put callerOwnerId key body => createOrUpdateK8sClusterHpa callerOwnerId key body
  | .delete callerOwnerId key => deleteK8sClusterHpa callerOwnerId key

/-! ### The Kubernetes API -/

/-- A change of one autoscaler: what it is now, `none` where it is deleted. -/
abbrev Change : Type := Key × Option HpaObject

/-- The autoscalers, and every change of their objects with the request that made it. -/
structure Server where
  hpas : Key → Option RawHpa
  log : List (Option ℕ × Change) := []

/-- A change is made and logged. -/
def Server.write (s : Server) (writer : Option ℕ) (key : Key) (raw : Option RawHpa) : Server where
  hpas := Function.update s.hpas key raw
  log := s.log ++ [(writer, key, raw.map (·.object))]

/-- Serve a call of the request `i`: `status` is what a new object starts with, and `message` the
body of an error. -/
def Server.serve (s : Server) (i : ℕ) (status : Option RawStatus) (message : String) :
    (c : HpaCall) → Except Exc c.Resp × Server
  | .getHpa key =>
      match s.hpas key with
      | some raw => (.ok raw, s)
      | none => (.error (.k8sApi 404 "Not Found" message), s)
  | .createHpa key config =>
      match s.hpas key with
      | some _ => (.error (.k8sApi 409 "Conflict" message), s)
      | none =>
          let raw : RawHpa := ⟨buildHpaObject key.2 config, status⟩
          (.ok raw, s.write (some i) key (some raw))
  | .updateHpa key config =>
      match s.hpas key with
      | some old =>
          -- the status is a subresource that a replacement leaves alone
          let raw : RawHpa := ⟨buildHpaObject key.2 config, old.status⟩
          (.ok raw, s.write (some i) key (some raw))
      | none => (.error (.k8sApi 404 "Not Found" message), s)
  | .deleteHpa key =>
      match s.hpas key with
      | some _ => (.ok (), s.write (some i) key none)
      | none => (.error (.k8sApi 404 "Not Found" message), s)

/-- An error after which the call may have been served all the same: a timeout, an error of the
server or of the transport, a cancellation. -/
def doubtful : Exc → Bool
  | .k8sApi status _ _ => status = 408 || 500 ≤ status
  | .http status _ => status = 408 || 500 ≤ status
  | _ => true

/-- How a call goes. -/
inductive Choice
  /-- The access gate is answered. -/
  | gate (answer : (r : RouterCall) → Except Exc r.Resp)
  | served (status : Option RawStatus) (message : String)
  /-- The call is not served. -/
  | refused (e : Exc)
  /-- The call is served, and the answer does not arrive. -/
  | lost (status : Option RawStatus) (e : Exc)

/-- What else happens to the autoscalers. -/
inductive Other
  /-- The controller writes the status. -/
  | controller (key : Key) (status : RawStatus)
  /-- Another client writes or deletes an object. -/
  | client (key : Key) (raw : Option RawHpa)

/-- The Kubernetes API under the endpoints. -/
def world : World HpaRequest HpaRequest.Resp Exc Choice Other Server where
  exec i
    | .router r, .gate answer, s => some (answer r, s)
    | .hpa c, .served status message, s => some (s.serve i status message c)
    | .hpa _, .refused e, s => some (.error e, s)
    | .hpa c, .lost status e, s =>
        if doubtful e then some (.error e, (s.serve i status "" c).2) else none
    | _, _, _ => none
  env
    | .controller key status, s =>
        let raw := (s.hpas key).map fun raw => { raw with status := some status }
        some { s with hpas := Function.update s.hpas key raw }
    | .client key raw, s => some (s.write none key raw)

/-! ### What a request has done -/

/-- The change a call asks for. -/
def HpaCall.change : HpaCall → Option Change
  | .getHpa _ => none
  | .createHpa key config => some (key, some (buildHpaObject key.2 config))
  | .updateHpa key config => some (key, some (buildHpaObject key.2 config))
  | .deleteHpa key => some (key, none)

/-- The change a request asks for. -/
def Request.change : Request → Option Change
  | .get _ _ => none
  | .put _ key body => some (key, some (buildHpaObject key.2 body.1))
  | .delete _ key => some (key, none)

/-- Whether a request has made a change, as far as its answers tell. -/
inductive Standing
  | clean
  | wrote (w : Change)
  | inDoubt (w : Change)

/-- What a request knows: whether it has made a change, and the objects it was shown. -/
structure Hand where
  standing : Standing := .clean
  seen : List (Key × HpaObject) := []

/-- Where a request stands after the answer to a call. -/
def Standing.answered (g : Standing) (c : HpaCall) (x : Except Exc c.Resp) : Standing :=
  match c.change, x with
  | none, _ => g
  | some w, .ok _ => .wrote w
  | some w, .error e => if doubtful e then .inDoubt w else g

/-- The object that a call showed. -/
def shownBy : (c : HpaCall) → Except Exc c.Resp → List (Key × HpaObject)
  | .getHpa key, .ok raw => [(key, raw.object)]
  | _, _ => []

/-- What a request knows after an answer. -/
def Hand.answered (g : Hand) : Answer HpaRequest HpaRequest.Resp Exc → Hand
  | ⟨.router _, _⟩ => g
  | ⟨.hpa c, x⟩ => ⟨g.standing.answered c x, shownBy c x ++ g.seen⟩

/-- An answer that the API gives. -/
def Possible : (r : HpaRequest) → Except Exc r.Resp → Hand → Prop
  | .hpa (.createHpa key config), .ok raw, _ => raw.object = buildHpaObject key.2 config
  | .hpa (.updateHpa key config), .ok raw, _ => raw.object = buildHpaObject key.2 config
  | _, _, _ => True

/-- A request that has made no change yet asks for no other one than its own. -/
def Asks (req : Request) : HpaRequest → Hand → Prop
  | .router _, _ => True
  | .hpa c, g => ∀ w, c.change = some w → g.standing = .clean ∧ req.change = some w

/-- What a request knows when it is answered. -/
def Returns : Request → Reply → Hand → Prop
  | .get _ key, .shown response, g => g.standing = .clean ∧
      ∃ raw, extractHpaResponse raw = .ok response ∧ (key, raw.object) ∈ g.seen
  | .put _ key body, .written _ response, g =>
      g.standing = .wrote (key, some (buildHpaObject key.2 body.1)) ∧ response.config = body.1
  | .delete _ key, .deleted _, g => g.standing = .wrote (key, none)
  | _, _, _ => False

/-- What a request knows when it fails. -/
def Raises (e : Exc) (g : Hand) : Prop := doubtful e = true ∨ g.standing = .clean

variable {req : Request} {g : Hand} {key : Key} {config : HpaConfig} {callerOwnerId : String}

theorem readMetric_error {targets : Option ℤ × Option ℤ} {metrics : List MetricSpec} {e : Exc}
    (h : metrics.foldlM readMetric targets = .error e) : e = .typeError := by
  induction metrics generalizing targets with
  | nil => cases h
  | cons metric metrics ih =>
    rw [List.foldlM_cons] at h
    cases hmetric : readMetric targets metric with
    | ok targets' =>
      rw [hmetric] at h
      exact ih h
    | error e' =>
      rw [hmetric] at h
      cases h
      unfold readMetric at hmetric
      split at hmetric
      · cases hmetric
        rfl
      · split at hmetric
        · cases hmetric
        · split at hmetric
          · cases hmetric
          · split at hmetric <;> cases hmetric

/-- A response that cannot be built is an error of the server. -/
theorem doubtful_extractHpaResponse {raw : RawHpa} {e : Exc}
    (h : extractHpaResponse raw = .error e) : doubtful e = true := by
  unfold extractHpaResponse at h
  split at h
  next metrics status hmetrics hstatus =>
    cases hread : metrics.foldlM readMetric (none, none) with
    | error e' =>
      rw [hread] at h
      cases h
      rw [readMetric_error hread]
      rfl
    | ok targets =>
      rw [hread, ok_bind] at h
      unfold readStatus at h
      split at h
      · cases h
      · cases h
        rfl
  next =>
    cases h
    rfl

/-- The endpoints' errors tell no less than those they come from. -/
theorem doubtful_endpointExc {operation : String} {e : Exc} (h : doubtful e = true) :
    doubtful (endpointExc operation e) = true := by
  cases e with
  | k8sApi status reason message =>
    simp only [doubtful, Bool.or_eq_true, decide_eq_true_eq] at h
    show doubtful (.http (if 400 ≤ status ∧ status ≤ 599 then status else 500) _) = true
    split
    · simpa [doubtful] using h
    · rfl
  | http status detail => exact h
  | _ => rfl

/-- A call that fails without doubt has changed nothing. -/
theorem raises_answered {c : HpaCall} {e : Exc} (hclean : g.standing = .clean) :
    Raises e (g.answered ⟨.hpa c, .error e⟩) := by
  cases hdoubt : doubtful e with
  | true => exact Or.inl hdoubt
  | false =>
    refine Or.inr ?_
    show g.standing.answered c (.error e) = .clean
    unfold Standing.answered
    split
    · exact hclean
    next h => cases h
    next h =>
      cases h
      rw [hdoubt]
      exact hclean

/-- The access gate makes no change and is shown no autoscaler. -/
theorem safe_gate : (gate key callerOwnerId).Safe (Changes Possible Hand.answered) (Asks req) g
    (fun _ g' => g' = g) fun _ g' => g' = g := by
  refine Coroutine.safe_embed.2 (Coroutine.safe_of_preserved (fun r x s s' h hs => ?_) rfl)
  obtain ⟨y, -, -, rfl⟩ := h
  exact hs

/-- An endpoint that passes its gate. -/
theorem safe_endpoint {operation : String} {func : HpaProgram Reply}
    (h : func.Safe (Changes Possible Hand.answered) (Asks req) g (Returns req) Raises) :
    (hpaEndpoint operation func).Safe (Changes Possible Hand.answered) (Asks req) g (Returns req)
      Raises :=
  Coroutine.safe_tryCatch.2
    (h.mono (fun _ _ hq => hq) fun _ _ he => he.imp_left doubtful_endpointExc)

/-- The gate of an endpoint, and what comes after it. -/
theorem safe_gate_bind {rest : Json → HpaProgram Reply} (hclean : g.standing = .clean)
    (h : ∀ cr, (rest cr).Safe (Changes Possible Hand.answered) (Asks req) g (Returns req) Raises) :
    (gate key callerOwnerId >>= rest).Safe (Changes Possible Hand.answered) (Asks req) g
      (Returns req) Raises := by
  refine Coroutine.safe_bind.2 (safe_gate.mono (fun cr g' hg => ?_) fun e g' hg => ?_)
  · exact hg ▸ h cr
  · exact Or.inr (hg ▸ hclean)

theorem safe_upsert (hreq : req.change = some (key, some (buildHpaObject key.2 config)))
    (hclean : g.standing = .clean) :
    (upsert key config).Safe (Changes Possible Hand.answered) (Asks req) g
      (fun a g' => g'.standing = .wrote (key, some (buildHpaObject key.2 config)) ∧
        a.2.object = buildHpaObject key.2 config) Raises := by
  have hwrite : ∀ {c : HpaCall} {g' : Hand},
      c.change = some (key, some (buildHpaObject key.2 config)) → g'.standing = .clean →
        Asks req (.hpa c) g' := by
    intro c g' hchange hclean' w hw
    rw [hchange] at hw
    exact ⟨hclean', hreq.trans hw⟩
  unfold upsert
  refine Coroutine.safe_tryCatch.2 (Coroutine.Safe.mono (Q := fun a g' =>
    g'.standing = .wrote (key, some (buildHpaObject key.2 config)) ∧
      a.2.object = buildHpaObject key.2 config) (E := Raises) ?_ (fun _ _ hq => hq) ?_)
  · refine Coroutine.safe_bind.2 (safe_request nofun (fun raw _ => ?_) fun e _ => Or.inr hclean)
    exact Coroutine.safe_bind.2 (safe_request (hwrite rfl hclean) (fun raw hraw => ⟨rfl, hraw⟩)
      fun e _ => raises_answered hclean)
  · intro e g' he
    cases e with
    | k8sApi status reason message =>
      dsimp only
      split
      next h404 =>
        -- a 404 leaves no doubt
        have hclean' : g'.standing = .clean := by
          rcases he with hdoubt | hclean'
          · rw [h404] at hdoubt
            cases hdoubt
          · exact hclean'
        exact Coroutine.safe_bind.2 (safe_request (hwrite rfl hclean')
          (fun raw hraw => ⟨rfl, hraw⟩) fun e _ => raises_answered hclean')
      next => exact he
    | _ => exact he

theorem safe_program (req : Request) :
    req.program.Safe (Changes Possible Hand.answered) (Asks req) {} (Returns req) Raises := by
  cases req with
  | get callerOwnerId key =>
    refine safe_endpoint (safe_gate_bind rfl fun cr => ?_)
    refine Coroutine.safe_bind.2 (safe_request nofun (fun raw _ => ?_) fun e _ => Or.inr rfl)
    refine Coroutine.safe_bind.2 (Coroutine.safe_lift.2 ⟨fun response h => ?_, fun e _ => ?_⟩)
    · exact ⟨rfl, raw, h, List.mem_cons_self⟩
    · exact Or.inr rfl
  | put callerOwnerId key body =>
    refine safe_endpoint ?_
    split
    · exact Or.inr rfl
    · refine safe_gate_bind rfl fun cr => ?_
      refine Coroutine.safe_bind.2 ((safe_upsert rfl rfl).mono (fun a g hg => ?_) fun _ _ he => he)
      obtain ⟨hwrote, hobject⟩ := hg
      refine Coroutine.safe_bind.2 (Coroutine.safe_lift.2 ⟨fun response h => ?_, fun e h => ?_⟩)
      · exact ⟨hwrote, config_of_buildHpaObject hobject h⟩
      · exact Or.inl (doubtful_extractHpaResponse h)
  | delete callerOwnerId key =>
    refine safe_endpoint (safe_gate_bind rfl fun cr => ?_)
    refine Coroutine.safe_bind.2 (safe_request ?_ (fun _ _ => rfl) fun e _ => raises_answered rfl)
    intro w hw
    exact ⟨rfl, hw⟩

/-! ### The log -/

/-- The objects after some changes. -/
def replay (base : Key → Option HpaObject) (log : List (Option ℕ × Change)) :
    Key → Option HpaObject :=
  log.foldl (fun objects entry => Function.update objects entry.2.1 entry.2.2) base

theorem replay_concat {base : Key → Option HpaObject} {log : List (Option ℕ × Change)}
    {entry : Option ℕ × Change} : replay base (log ++ [entry]) =
      Function.update (replay base log) entry.2.1 entry.2.2 := by
  simp [replay]

/-- The changes that the `i`-th request made. -/
def changesOf (i : ℕ) (log : List (Option ℕ × Change)) : List Change :=
  (log.filter (·.1 = some i)).map Prod.snd

theorem changesOf_concat_self {i : ℕ} {log : List (Option ℕ × Change)} {w : Change} :
    changesOf i (log ++ [(some i, w)]) = changesOf i log ++ [w] := by
  simp [changesOf]

theorem changesOf_concat_of_ne {i : ℕ} {log : List (Option ℕ × Change)} {writer : Option ℕ}
    {w : Change} (h : writer ≠ some i) :
    changesOf i (log ++ [(writer, w)]) = changesOf i log := by
  simp [changesOf, h]

/-- The changes that a request made are those it knows of. -/
def Standing.Matches (changes : List Change) : Standing → Prop
  | .clean => changes = []
  | .wrote w => changes = [w]
  | .inDoubt w => changes = [] ∨ changes = [w]

/-- The `i`-th request. -/
def requestAt (requests : List Request) (i : ℕ) : Request :=
  requests.getD i (.get "" ("", ""))

/-- What every run keeps: the objects are those of the log, a request made the changes it knows of,
and was shown objects that were there. -/
structure Inv (requests : List Request) (base : Key → Option HpaObject) (s : Server)
    (h : ℕ → Hand) : Prop where
  stored : (fun key => (s.hpas key).map (·.object)) = replay base s.log
  standing : ∀ i, (h i).standing.Matches (changesOf i s.log)
  own : ∀ i w, (h i).standing = .wrote w ∨ (h i).standing = .inDoubt w →
    (requestAt requests i).change = some w
  seen : ∀ i, ∀ p ∈ (h i).seen, ∃ before, before <+: s.log ∧ replay base before p.1 = some p.2

variable {requests : List Request} {base : Key → Option HpaObject} {s s' : Server}
  {h : ℕ → Hand} {i : ℕ}

/-- The objects after a logged change. -/
theorem stored_write (hstored : (fun key => (s.hpas key).map (·.object)) = replay base s.log)
    (writer : Option ℕ) (key : Key) (raw : Option RawHpa) :
    (fun k => ((s.write writer key raw).hpas k).map (·.object)) =
      replay base (s.write writer key raw).log := by
  show _ = replay base (s.log ++ [_])
  rw [replay_concat, ← hstored]
  funext k
  by_cases hk : k = key
  · subst hk
    simp [Server.write]
  · simp [Server.write, hk]

/-- A change that no request made. -/
theorem Inv.client (hinv : Inv requests base s h) (key : Key) (raw : Option RawHpa) :
    Inv requests base (s.write none key raw) h where
  stored := stored_write hinv.stored none key raw
  standing i := by
    show (h i).standing.Matches (changesOf i (s.log ++ [_]))
    rw [changesOf_concat_of_ne (Option.some_ne_none i).symm]
    exact hinv.standing i
  own := hinv.own
  seen i p hp := by
    obtain ⟨before, hbefore, hobject⟩ := hinv.seen i p hp
    exact ⟨before, hbefore.trans (List.prefix_append _ _), hobject⟩

/-- A request made its change, and knows at least that it may have. -/
theorem Inv.wrote (hinv : Inv requests base s h) {w : Change} {raw : Option RawHpa} {g : Hand}
    (hclean : (h i).standing = .clean) (hown : (requestAt requests i).change = some w)
    (hraw : raw.map (·.object) = w.2)
    (hstanding : g.standing = .wrote w ∨ g.standing = .inDoubt w) (hseen : g.seen = (h i).seen) :
    Inv requests base (s.write (some i) w.1 raw) (Function.update h i g) where
  stored := stored_write hinv.stored (some i) w.1 raw
  standing j := by
    show ((Function.update h i g) j).standing.Matches (changesOf j (s.log ++ [_]))
    by_cases hj : j = i
    · subst hj
      have hnone : changesOf j s.log = [] := by
        have := hinv.standing j
        rwa [hclean] at this
      rw [Function.update_self, hraw, changesOf_concat_self, hnone]
      rcases hstanding with hg | hg <;> rw [hg]
      · rfl
      · exact Or.inr rfl
    · rw [Function.update_of_ne hj, changesOf_concat_of_ne (by simpa using Ne.symm hj)]
      exact hinv.standing j
  own j w' hw' := by
    by_cases hj : j = i
    · subst hj
      rw [Function.update_self] at hw'
      obtain rfl : w = w' := by
        rcases hstanding with hg | hg <;> simpa [hg] using hw'
      exact hown
    · rw [Function.update_of_ne hj] at hw'
      exact hinv.own j w' hw'
  seen j p hp := by
    have hp' : p ∈ (h j).seen := by
      by_cases hj : j = i
      · subst hj
        rwa [Function.update_self, hseen] at hp
      · rwa [Function.update_of_ne hj] at hp
    obtain ⟨before, hbefore, hobject⟩ := hinv.seen j p hp'
    exact ⟨before, hbefore.trans (List.prefix_append _ _), hobject⟩

/-- A request learns something while the autoscalers stay as they are. -/
theorem Inv.learns (hinv : Inv requests base s h) {g : Hand}
    (hstanding : g.standing = (h i).standing ∨ ∃ w, (h i).standing = .clean ∧
      g.standing = .inDoubt w ∧ (requestAt requests i).change = some w)
    (hseen : ∀ p ∈ g.seen, p ∈ (h i).seen ∨ (s.hpas p.1).map (·.object) = some p.2) :
    Inv requests base s (Function.update h i g) where
  stored := hinv.stored
  standing j := by
    by_cases hj : j = i
    · subst hj
      have hmatches := hinv.standing j
      rw [Function.update_self]
      rcases hstanding with hg | ⟨w, hclean, hg, -⟩
      · rwa [hg]
      · rw [hclean] at hmatches
        rw [hg]
        exact Or.inl hmatches
    · rw [Function.update_of_ne hj]
      exact hinv.standing j
  own j w hw := by
    by_cases hj : j = i
    · subst hj
      rw [Function.update_self] at hw
      rcases hstanding with hg | ⟨w', -, hg, hown⟩
      · rw [hg] at hw
        exact hinv.own j w hw
      · obtain rfl : w' = w := by simpa [hg] using hw
        exact hown
    · rw [Function.update_of_ne hj] at hw
      exact hinv.own j w hw
  seen j p hp := by
    by_cases hj : j = i
    · subst hj
      rw [Function.update_self] at hp
      rcases hseen p hp with hp | hstored
      · exact hinv.seen j p hp
      · exact ⟨s.log, List.prefix_rfl, (congrFun hinv.stored p.1).symm.trans hstored⟩
    · rw [Function.update_of_ne hj] at hp
      exact hinv.seen j p hp

/-! ### Calls -/

/-- What serving a call of the `i`-th request can do. -/
inductive Served (s : Server) (i : ℕ) : (c : HpaCall) → Except Exc c.Resp → Server → Prop
  | shown {key : Key} {raw : RawHpa} : s.hpas key = some raw →
      Served s i (.getHpa key) (.ok raw) s
  | failed {c : HpaCall} {e : Exc} : Served s i c (.error e) s
  | written {c : HpaCall} {w : Change} {x : c.Resp} {raw : Option RawHpa} : c.change = some w →
      raw.map (·.object) = w.2 → (∀ g, Possible (.hpa c) (.ok x) g) →
      Served s i c (.ok x) (s.write (some i) w.1 raw)

theorem served_serve {status : Option RawStatus} {message : String} {c : HpaCall}
    {a : Except Exc c.Resp} (hserve : s.serve i status message c = (a, s')) :
    Served s i c a s' := by
  cases c with
  | getHpa key =>
    simp only [Server.serve] at hserve
    split at hserve
    next raw hraw =>
      cases hserve
      exact .shown hraw
    next =>
      cases hserve
      exact .failed
  | createHpa key config =>
    simp only [Server.serve] at hserve
    split at hserve
    next =>
      cases hserve
      exact .failed
    next =>
      cases hserve
      exact .written (w := (key, some (buildHpaObject key.2 config))) rfl rfl fun _ => rfl
  | updateHpa key config =>
    simp only [Server.serve] at hserve
    split at hserve
    next =>
      cases hserve
      exact .written (w := (key, some (buildHpaObject key.2 config))) rfl rfl fun _ => rfl
    next =>
      cases hserve
      exact .failed
  | deleteHpa key =>
    simp only [Server.serve] at hserve
    split at hserve
    next =>
      cases hserve
      exact .written (w := (key, none)) rfl rfl fun _ => trivial
    next =>
      cases hserve
      exact .failed

/-- A call that failed, and was not served. -/
theorem Inv.fails (hinv : Inv requests base s h) {c : HpaCall}
    (hasks : Asks (requestAt requests i) (.hpa c) (h i)) (e : Exc) :
    Inv requests base s (Function.update h i ((h i).answered ⟨.hpa c, .error e⟩)) := by
  refine hinv.learns ?_ fun p hp => Or.inl ?_
  · show (h i).standing.answered c (.error e) = _ ∨
      ∃ w, _ ∧ (h i).standing.answered c (.error e) = _ ∧ _
    unfold Standing.answered
    split
    · exact Or.inl rfl
    next h' => cases h'
    next w _ hchange h' =>
      cases h'
      obtain ⟨hclean, hown⟩ := hasks w hchange
      split
      · exact Or.inr ⟨w, hclean, rfl, hown⟩
      · exact Or.inl rfl
  · cases c <;> exact hp

/-- Every call keeps the invariant, and is answered as it may be. -/
theorem inv_exec {r : HpaRequest} {x : Choice} {a : Except Exc r.Resp}
    (hinv : Inv requests base s h) (hasks : Asks (requestAt requests i) r (h i))
    (hexec : world.exec i r x s = some (a, s')) :
    Possible r a (h i) ∧
      Inv requests base s' (Function.update h i ((h i).answered ⟨r, a⟩)) := by
  cases r with
  | router r =>
    cases x with
    | gate answer =>
      cases hexec
      exact ⟨trivial, hinv.learns (Or.inl rfl) fun p hp => Or.inl hp⟩
    | _ => cases hexec
  | hpa c =>
    have hpossible : ∀ e, Possible (.hpa c) (.error e) (h i) := fun e => by cases c <;> trivial
    cases x with
    | gate answer => cases hexec
    | served status message =>
      cases served_serve (Option.some.inj hexec) with
      | shown hraw =>
        refine ⟨trivial, hinv.learns (Or.inl rfl) fun p hp => ?_⟩
        rcases List.mem_cons.1 hp with rfl | hp
        · exact Or.inr (by rw [hraw]; rfl)
        · exact Or.inl hp
      | failed => exact ⟨hpossible _, hinv.fails hasks _⟩
      | written hchange hraw hposs =>
        obtain ⟨hclean, hown⟩ := hasks _ hchange
        refine ⟨hposs _, hinv.wrote hclean hown hraw (Or.inl ?_) ?_⟩
        · show (h i).standing.answered c _ = _
          simp only [Standing.answered, hchange]
        · cases c with
          | getHpa key => cases hchange
          | _ => rfl
    | refused e =>
      cases hexec
      exact ⟨hpossible _, hinv.fails hasks _⟩
    | lost status e =>
      simp only [world] at hexec
      split at hexec
      next hdoubt =>
        generalize hserve : s.serve i status "" c = result at hexec
        obtain ⟨a', s''⟩ := result
        cases hexec
        refine ⟨hpossible _, ?_⟩
        cases served_serve hserve with
        | shown => exact hinv.fails hasks _
        | failed => exact hinv.fails hasks _
        | written hchange hraw =>
          obtain ⟨hclean, hown⟩ := hasks _ hchange
          refine hinv.wrote hclean hown hraw (Or.inr ?_) ?_
          · show (h i).standing.answered c (.error e) = _
            simp only [Standing.answered, hchange, hdoubt, if_true]
          · cases c <;> rfl
      next => cases hexec

/-! ### Runs -/

/-- The autoscalers and the requests in flight. -/
abbrev State : Type := Config HpaRequest HpaRequest.Resp Exc Reply Server

/-- The requests before their first call, over some autoscalers. -/
def start (hpas : Key → Option RawHpa) (requests : List Request) : State :=
  Config.start ⟨hpas, []⟩ (requests.map Request.program)

/-- The objects of some autoscalers. -/
def objects (hpas : Key → Option RawHpa) (key : Key) : Option HpaObject :=
  (hpas key).map (·.object)

/-- What is known of a request that is in flight or has ended: what it changed, and what it was
shown. -/
def Settled (base : Key → Option HpaObject) (log : List (Option ℕ × Change)) (i : ℕ)
    (req : Request) : HpaProgram Reply → Prop
  | .pure reply =>
      match req, reply with
      | .get _ key, .shown response => changesOf i log = [] ∧ ∃ before raw, before <+: log ∧
          replay base before key = some raw.object ∧ extractHpaResponse raw = .ok response
      | .put _ key body, .written _ response =>
          changesOf i log = [(key, some (buildHpaObject key.2 body.1))] ∧ response.config = body.1
      | .delete _ key, .deleted _ => changesOf i log = [(key, none)]
      | _, _ => False
  | .throw e => changesOf i log = [] ∨
      doubtful e = true ∧ ∃ w, req.change = some w ∧ changesOf i log = [w]
  | .await _ _ => changesOf i log = [] ∨ ∃ w, req.change = some w ∧ changesOf i log = [w]

/-- The invariant holds along every run. -/
theorem always_follows (hpas : Key → Option RawHpa) (requests : List Request)
    (es : List (Event Choice Other)) :
    Always world (fun c => Follows Possible Hand.answered {} (fun i => Asks (requestAt requests i))
          (fun i => Returns (requestAt requests i)) (fun _ => Raises) c ∧
        Inv requests (objects hpas) c.shared (hands Hand.answered {} c))
      (start hpas requests) es := by
  refine always_of_follows (Inv requests (objects hpas)) (G := fun _ _ _ _ _ => True) ?_ ?_ ?_ ?_
    (guarded_of_forall fun _ _ _ _ _ => trivial)
  · intro i r x past s a s' h hinv hasks _ _ hexec
    exact inv_exec hinv hasks hexec
  · intro e s s' h hinv henv
    cases e with
    | controller key status =>
      cases henv
      refine ⟨?_, hinv.standing, hinv.own, hinv.seen⟩
      rw [← hinv.stored]
      funext k
      by_cases hk : k = key
      · subst hk
        simp only [Function.update_self, Option.map_map]
        rfl
      · simp only [Function.update_of_ne hk]
    | client key raw =>
      cases henv
      exact hinv.client key raw
  · refine follows_start fun i p hp => ?_
    obtain ⟨req, hreq, rfl⟩ := Option.map_eq_some_iff.1 (List.getElem?_map ▸ hp)
    have hat : requestAt requests i = req := by simp [requestAt, List.getD, hreq]
    rw [hat]
    exact safe_program req
  · rw [start, hands_start]
    refine ⟨rfl, fun _ => rfl, fun i w h => ?_, nofun⟩
    rcases h with h | h <;> cases h

/-- The changes of a request are its own, one at most. -/
theorem Inv.changes (hinv : Inv requests base s h) (i : ℕ) : changesOf i s.log = [] ∨
    ∃ w, (requestAt requests i).change = some w ∧ changesOf i s.log = [w] := by
  have hmatches := hinv.standing i
  have hown := hinv.own i
  cases hstanding : (h i).standing with
  | clean =>
    rw [hstanding] at hmatches
    exact Or.inl hmatches
  | wrote w =>
    rw [hstanding] at hmatches
    exact Or.inr ⟨w, hown w (Or.inl hstanding), hmatches⟩
  | inDoubt w =>
    rw [hstanding] at hmatches
    exact hmatches.imp_right fun hone => ⟨w, hown w (Or.inr hstanding), hone⟩

variable {c : State}

theorem requestAt_of_getElem? (h : requests[i]? = some req) : requestAt requests i = req := by
  simp [requestAt, List.getD, h]

/-- What the invariant says of one request. -/
theorem Inv.settled (hinv : Inv requests base c.shared (hands Hand.answered {} c))
    (hfollows : Follows Possible Hand.answered {} (fun i => Asks (requestAt requests i))
      (fun i => Returns (requestAt requests i)) (fun _ => Raises) c)
    {task : Task HpaRequest HpaRequest.Resp Exc Reply} (hreq : requests[i]? = some req)
    (htask : c.tasks[i]? = some task) : Settled base c.shared.log i req task.prog := by
  have hat : requestAt requests i = req := requestAt_of_getElem? hreq
  have hhand : hands Hand.answered {} c i = hand Hand.answered {} task.past := hands_of_task htask
  have hmatches := hinv.standing i
  have hseen := hinv.seen i
  have hchanges := hinv.changes i
  have hsafe := hfollows i task htask
  rw [hhand] at hmatches hseen
  rw [hat] at hchanges
  simp only [hat] at hsafe
  obtain ⟨prog, past⟩ := task
  cases prog with
  | pure reply =>
    have hreturns : Returns req reply (hand Hand.answered {} past) := hsafe
    cases req with
    | get callerOwnerId key =>
      cases reply with
      | shown response =>
        obtain ⟨hclean, raw, hextract, hraw⟩ := hreturns
        rw [hclean] at hmatches
        obtain ⟨before, hbefore, hobject⟩ := hseen _ hraw
        exact ⟨hmatches, before, raw, hbefore, hobject, hextract⟩
      | _ => exact hreturns.elim
    | put callerOwnerId key body =>
      cases reply with
      | written status response =>
        obtain ⟨hwrote, hconfig⟩ := hreturns
        rw [hwrote] at hmatches
        exact ⟨hmatches, hconfig⟩
      | _ => exact hreturns.elim
    | delete callerOwnerId key =>
      cases reply with
      | deleted message =>
        have hwrote : (hand Hand.answered {} past).standing = .wrote (key, none) := hreturns
        rw [hwrote] at hmatches
        exact hmatches
      | _ => exact hreturns.elim
  | throw e =>
    have hraises : Raises e (hand Hand.answered {} past) := hsafe
    rcases hraises with hdoubt | hclean
    · exact hchanges.imp_right fun hw => ⟨hdoubt, hw⟩
    · rw [hclean] at hmatches
      exact Or.inl hmatches
  | await r k => exact hchanges

/-- An object that is there was there from the start, or was written. -/
theorem mem_of_replay {log : List (Option ℕ × Change)} {object : HpaObject}
    (hobject : replay base log key = some object) :
    base key = some object ∨ ∃ writer, (writer, key, some object) ∈ log := by
  induction log using List.reverseRecOn with
  | nil => exact Or.inl hobject
  | append_singleton log entry ih =>
    rw [replay_concat] at hobject
    by_cases hkey : key = entry.2.1
    · subst hkey
      rw [Function.update_self] at hobject
      exact Or.inr ⟨entry.1, by simp [← hobject]⟩
    · rw [Function.update_of_ne hkey] at hobject
      exact (ih hobject).imp_right fun ⟨writer, hmem⟩ => ⟨writer, List.mem_append_left _ hmem⟩

/-- Only a write asks for an object, and for the one of its body. -/
theorem put_of_change {object : HpaObject}
    (h : (requestAt requests i).change = some (key, some object)) :
    ∃ callerOwnerId body, requests[i]? = some (.put callerOwnerId key body) ∧
      object = buildHpaObject key.2 body.1 := by
  cases hreq : requests[i]? with
  | none => simp [requestAt, List.getD, hreq, Request.change] at h
  | some req =>
    rw [requestAt_of_getElem? hreq] at h
    cases req with
    | get callerOwnerId key' => cases h
    | put callerOwnerId key' body =>
      cases h
      exact ⟨callerOwnerId, body, rfl, rfl⟩
    | delete callerOwnerId key' => cases h

/-- What a request was shown is the whole configuration of one request for that cluster, or an
object that was there from the start or that another client wrote. -/
def ShownFrom (hpas : Key → Option RawHpa) (requests : List Request) (c : State) : Prop :=
  ∀ (i : ℕ) (callerOwnerId : String) (key : Key) (response : HpaResponse)
    (past : List (Answer HpaRequest HpaRequest.Resp Exc)),
    requests[i]? = some (.get callerOwnerId key) →
    c.tasks[i]? = some ⟨.pure (.shown response), past⟩ →
    (∃ (j : ℕ) (caller : String) (body : Body), requests[j]? = some (.put caller key body) ∧
      response.config = body.1) ∨
    ∃ raw, extractHpaResponse raw = .ok response ∧
      (objects hpas key = some raw.object ∨ (none, key, some raw.object) ∈ c.shared.log)

/-- No run shows a mixture of two configurations, or one that nobody asked for. -/
theorem shown_was_put (hpas : Key → Option RawHpa) (requests : List Request)
    (es : List (Event Choice Other)) :
    Always world (ShownFrom hpas requests) (start hpas requests) es := by
  refine (always_follows hpas requests es).imp fun c hc i callerOwnerId key response past hreq
    htask => ?_
  obtain ⟨hfollows, hinv⟩ := hc
  obtain ⟨-, before, raw, hbefore, hobject, hextract⟩ := hinv.settled hfollows hreq htask
  rcases mem_of_replay hobject with hbase | ⟨writer, hmem⟩
  · exact Or.inr ⟨raw, hextract, Or.inl hbase⟩
  have hlog : (writer, key, some raw.object) ∈ c.shared.log := hbefore.subset hmem
  cases writer with
  | none => exact Or.inr ⟨raw, hextract, Or.inr hlog⟩
  | some j =>
    have hchange : (key, some raw.object) ∈ changesOf j c.shared.log :=
      List.mem_map.2 ⟨_, List.mem_filter.2 ⟨hlog, by simp⟩, rfl⟩
    rcases hinv.changes j with hnone | ⟨w, hw, hone⟩
    · rw [hnone] at hchange
      cases hchange
    · rw [hone, List.mem_singleton] at hchange
      obtain ⟨caller, body, hput, hbody⟩ := put_of_change (hchange ▸ hw)
      exact Or.inl ⟨j, caller, body, hput, config_of_buildHpaObject hbody hextract⟩

/-! ### A request that writes, and one that reads -/

/-- One to three replicas, by the CPU. -/
def demoConfig : HpaConfig where
  minReplicas := some 1
  maxReplicas := 3
  cpuTargetPercent := some 70

theorem demoConfig_checked : demoConfig.Checked where
  minReplicas := ⟨1, rfl, by decide⟩
  maxReplicas := by decide
  cpu := by
    rintro p ⟨⟩
    decide
  memory := by
    rintro p ⟨⟩
  metric := Or.inl (by decide)

/-- The cluster of the requests. -/
def demoKey : Key := ("aerospike", "demo")

def putAndGet : List Request :=
  [.put Db.systemOwnerId demoKey ⟨demoConfig, demoConfig_checked⟩, .get Db.systemOwnerId demoKey]

/-- The gate finds a cluster without a label. -/
def unlabelledAnswer : (r : RouterCall) → Except Exc r.Resp
  | .kube (.getCluster _ _) => .ok (.obj [("metadata", .obj [])])
  | _ => .error .dbNotInitialized

/-- There is no autoscaler, so one is created, and then it is read. -/
def putAndGetRun : List (Event Choice Other) :=
  [.task 0 (.gate unlabelledAnswer), .task 0 (.served none "not found"),
    .task 0 (.served (some ⟨some 1, some 1, some []⟩) ""), .task 1 (.gate unlabelledAnswer),
    .task 1 (.served none "")]

/-- What both requests answer with. -/
def demoResponse : HpaResponse where
  config := demoConfig
  status := ⟨1, 1, []⟩

theorem run_putAndGet : ∃ c past past', run world (start (fun _ => none) putAndGet) putAndGetRun =
    some c ∧ c.tasks[0]? = some ⟨.pure (.written 201 demoResponse), past⟩ ∧
      c.tasks[1]? = some ⟨.pure (.shown demoResponse), past'⟩ ∧
      c.shared.log = [(some 0, demoKey, some (buildHpaObject "demo" demoConfig))] :=
  ⟨_, _, _, rfl, rfl, rfl, rfl⟩

/-- What is shown is what one of the requests put. -/
theorem shown_was_put_putAndGet : ∃ c past,
    run world (start (fun _ => none) putAndGet) putAndGetRun = some c ∧
      c.tasks[1]? = some ⟨.pure (.shown demoResponse), past⟩ ∧
      ∃ (j : ℕ) (caller : String) (body : Body),
        putAndGet[j]? = some (.put caller demoKey body) ∧ demoResponse.config = body.1 := by
  obtain ⟨c, past, past', hrun, -, hget, hlog⟩ := run_putAndGet
  refine ⟨c, past', hrun, hget, ?_⟩
  rcases (shown_was_put (fun _ => none) putAndGet putAndGetRun).run hrun 1 _ _ _ _ rfl hget with
    hput | ⟨raw, -, hbase | hother⟩
  · exact hput
  · cases hbase
  · rw [hlog, List.mem_singleton] at hother
    cases hother

end ClusterManager.K8s.Hpa
