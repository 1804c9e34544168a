import ClusterManager.K8s.Service

/-!
# The autoscaler of a cluster

`buildHpaObject` is the object the endpoint submits and `extractHpaResponse` reads what the client
library makes of the server's answer with `to_dict()`: a dictionary with every key, in snake case,
where what is not set is `None`. A default of `dict.get` does not replace such a `None`, so the
reader fails where a part it needs is not set (`hpa_read_iff`).

A time stands in such a dictionary as its ISO text.
-/

namespace ClusterManager.K8s

/-! ### The objects of the client library -/

/-- `V2ResourceMetricSource`, with its `V2MetricTarget`. -/
structure ResourceMetricSource where
  name : String
  type : String
  averageUtilization : Option ℤ := none
  averageValue : Option String := none
  value : Option String := none
  deriving DecidableEq

/-- The kinds of a metric other than `Resource`. -/
inductive OtherMetric
  | pods
  | object
  | external
  | containerResource
  deriving DecidableEq

/-- `V2MetricSpec`: the member of its kind is set and no other is. -/
inductive MetricSpec
  | resource (source : ResourceMetricSource)
  | other (kind : OtherMetric) (source : Dict String Json)

/-- `V2HorizontalPodAutoscalerSpec`. -/
structure HpaSpec where
  behavior : Option Json := none
  maxReplicas : ℤ
  metrics : Option (List MetricSpec) := none
  minReplicas : Option ℤ := none
  scaleTargetRef : Dict String Json

/-- `V2HorizontalPodAutoscalerCondition`. -/
structure HpaCondition where
  lastTransitionTime : Option String := none
  message : Option String := none
  reason : Option String := none
  status : String
  type : String
  deriving DecidableEq

/-- `V2HorizontalPodAutoscalerStatus`. -/
structure HpaStatus where
  conditions : Option (List HpaCondition) := none
  currentMetrics : Option Json := none
  currentReplicas : Option ℤ := none
  desiredReplicas : ℤ
  lastScaleTime : Option String := none
  observedGeneration : Option ℤ := none

/-- `V2HorizontalPodAutoscaler`. -/
structure HorizontalPodAutoscaler where
  apiVersion : Option String := none
  kind : Option String := none
  metadata : Option Json := none
  spec : Option HpaSpec := none
  status : Option HpaStatus := none

/-- What is not set is `None`. -/
def orNone (value : Option Json) : Json := value.getD .null

/-- `to_dict()` of a source of a resource metric. -/
def ResourceMetricSource.toDict (source : ResourceMetricSource) : Json :=
  .obj [
    ("name", .str source.name),
    ("target", .obj [
      ("average_utilization", orNone (source.averageUtilization.map .num)),
      ("average_value", orNone (source.averageValue.map .str)),
      ("type", .str source.type),
      ("value", orNone (source.value.map .str))])]

/-- `to_dict()` of a metric. -/
def MetricSpec.toDict : MetricSpec → Json
  | .resource source => .obj [("container_resource", .null), ("external", .null),
      ("object", .null), ("pods", .null), ("resource", source.toDict), ("type", .str "Resource")]
  | .other .pods source => .obj [("container_resource", .null), ("external", .null),
      ("object", .null), ("pods", .obj source), ("resource", .null), ("type", .str "Pods")]
  | .other .object source => .obj [("container_resource", .null), ("external", .null),
      ("object", .obj source), ("pods", .null), ("resource", .null), ("type", .str "Object")]
  | .other .external source => .obj [("container_resource", .null), ("external", .obj source),
      ("object", .null), ("pods", .null), ("resource", .null), ("type", .str "External")]
  | .other .containerResource source => .obj [("container_resource", .obj source),
      ("external", .null), ("object", .null), ("pods", .null), ("resource", .null),
      ("type", .str "ContainerResource")]

/-- `to_dict()` of a spec. -/
def HpaSpec.toDict (spec : HpaSpec) : Json :=
  .obj [
    ("behavior", orNone spec.behavior),
    ("max_replicas", .num spec.maxReplicas),
    ("metrics", orNone (spec.metrics.map fun metrics => .arr (metrics.map MetricSpec.toDict))),
    ("min_replicas", orNone (spec.minReplicas.map .num)),
    ("scale_target_ref", .obj spec.scaleTargetRef)]

/-- `to_dict()` of a condition. -/
def HpaCondition.toDict (condition : HpaCondition) : Json :=
  .obj [
    ("last_transition_time", orNone (condition.lastTransitionTime.map .str)),
    ("message", orNone (condition.message.map .str)),
    ("reason", orNone (condition.reason.map .str)),
    ("status", .str condition.status),
    ("type", .str condition.type)]

/-- `to_dict()` of a status. -/
def HpaStatus.toDict (status : HpaStatus) : Json :=
  .obj [
    ("conditions", orNone (status.conditions.map fun conditions =>
      .arr (conditions.map HpaCondition.toDict))),
    ("current_metrics", orNone status.currentMetrics),
    ("current_replicas", orNone (status.currentReplicas.map .num)),
    ("desired_replicas", .num status.desiredReplicas),
    ("last_scale_time", orNone (status.lastScaleTime.map .str)),
    ("observed_generation", orNone (status.observedGeneration.map .num))]

/-- `to_dict()`. -/
def HorizontalPodAutoscaler.toDict (hpa : HorizontalPodAutoscaler) : Json :=
  .obj [
    ("api_version", orNone (hpa.apiVersion.map .str)),
    ("kind", orNone (hpa.kind.map .str)),
    ("metadata", orNone hpa.metadata),
    ("spec", orNone (hpa.spec.map HpaSpec.toDict)),
    ("status", orNone (hpa.status.map HpaStatus.toDict))]

/-! ### Writing -/

/-- `HPAConfig`, as a request. -/
structure HPAConfig where
  minReplicas : ℤ
  maxReplicas : ℤ
  cpuTargetPercent : Option ℤ
  memoryTargetPercent : Option ℤ
  min_valid : 1 ≤ minReplicas ∧ minReplicas ≤ 8
  max_valid : 1 ≤ maxReplicas ∧ maxReplicas ≤ 8
  cpu_valid : ∀ n, cpuTargetPercent = some n → 1 ≤ n ∧ n ≤ 100
  memory_valid : ∀ n, memoryTargetPercent = some n → 1 ≤ n ∧ n ≤ 100
  max_gte_min : minReplicas ≤ maxReplicas
  at_least_one_metric : cpuTargetPercent ≠ none ∨ memoryTargetPercent ≠ none

/-- The metric of a target of utilization. -/
def utilizationMetric (name : String) (percent : ℤ) : MetricSpec :=
  .resource { name, type := "Utilization", averageUtilization := some percent }

/-- `_build_hpa_object`. -/
def buildHpaObject (clusterName namespace_ : String) (config : HPAConfig) :
    HorizontalPodAutoscaler where
  metadata := some (.obj [("name", .str clusterName), ("namespace", .str namespace_),
    ("labels", .obj [("app.kubernetes.io/managed-by", .str "aerospike-cluster-manager"),
      ("app.kubernetes.io/instance", .str clusterName)])])
  spec := some {
    scaleTargetRef := [("api_version", .str "acko.io/v1alpha1"), ("kind", .str "AerospikeCluster"),
      ("name", .str clusterName)]
    minReplicas := some config.minReplicas
    maxReplicas := config.maxReplicas
    metrics := some ((config.cpuTargetPercent.map (utilizationMetric "cpu")).toList ++
      (config.memoryTargetPercent.map (utilizationMetric "memory")).toList) }

/-! ### Reading -/

/-- The targets of utilization, `cpu` and `memory`, after one metric. -/
def readMetric (targets : Json × Json) (metric : Json) : Except Exc (Json × Json) := do
  let resource ← metric.get "resource" (.obj [])
  let target ← resource.get "target" (.obj [])
  let metricName ← resource.get "name" (.str "")
  if eqText metricName "cpu" then
    match ← target.get "average_utilization" with
    | .null => return targets
    | utilization => return (utilization, targets.2)
  else if eqText metricName "memory" then
    match ← target.get "average_utilization" with
    | .null => return targets
    | utilization => return (targets.1, utilization)
  else return targets

/-- `HPACondition` of a condition. -/
def readCondition (cond : Json) : Except Exc HpaCondition := do
  return {
    type := ← asStr (← cond.get "type" (.str ""))
    status := ← asStr (← cond.get "status" (.str ""))
    reason := ← asOptionalStr (← cond.get "reason")
    message := ← asOptionalStr (← cond.get "message")
    lastTransitionTime := ← asOptionalStr (← cond.get "last_transition_time") }

/-- What `HPAConfig.model_construct` makes of its arguments: nothing is checked. -/
structure ConstructedConfig where
  minReplicas : Json
  maxReplicas : Json
  cpuTargetPercent : Json
  memoryTargetPercent : Json

/-- `HPAResponse`, with its `HPAStatus`. -/
structure HPAResponse where
  enabled : Bool
  config : ConstructedConfig
  currentReplicas : ℤ
  desiredReplicas : ℤ
  conditions : List HpaCondition

/-- `extract_hpa_response`. -/
def extractHpaResponse (raw : Json) : Except Exc HPAResponse := do
  let spec ← raw.get "spec" (.obj [])
  let statusRaw ← raw.get "status" (.obj [])
  let minReplicas ← spec.get "min_replicas" (.num 1)
  let maxReplicas ← spec.get "max_replicas" (.num 1)
  let targets ← (← elements (← spec.get "metrics" (.arr []))).foldlM readMetric (.null, .null)
  let conditions ← (← elements ((← statusRaw.get "conditions" (.arr [])).or (.arr []))).mapM
    readCondition
  return {
    enabled := true
    config := {
      minReplicas, maxReplicas
      cpuTargetPercent := targets.1
      memoryTargetPercent := targets.2 }
    currentReplicas := ← asInt (← statusRaw.get "current_replicas" (.num 0))
    desiredReplicas := ← asInt (← statusRaw.get "desired_replicas" (.num 0))
    conditions }

/-! ### What is asked of a response -/

/-- The value is a number. -/
def IsNumber (value : Json) : Prop := ∃ n, value = .num n

/-- The configuration has the types it is declared with. The bounds and the need for a metric are
those of a request: an HPA that is read may have others. -/
structure ConstructedConfig.Typed (config : ConstructedConfig) : Prop where
  minReplicas : IsNumber config.minReplicas
  maxReplicas : IsNumber config.maxReplicas
  cpuTargetPercent : config.cpuTargetPercent = .null ∨ IsNumber config.cpuTargetPercent
  memoryTargetPercent : config.memoryTargetPercent = .null ∨ IsNumber config.memoryTargetPercent

/-- The configuration is that of a request. -/
structure ConstructedConfig.Is (config : ConstructedConfig) (request : HPAConfig) : Prop where
  minReplicas : config.minReplicas = .num request.minReplicas
  maxReplicas : config.maxReplicas = .num request.maxReplicas
  cpuTargetPercent : config.cpuTargetPercent = orNone (request.cpuTargetPercent.map .num)
  memoryTargetPercent : config.memoryTargetPercent = orNone (request.memoryTargetPercent.map .num)

/-- A metric is one of a resource. -/
def MetricSpec.IsResource : MetricSpec → Prop
  | .resource _ => True
  | .other _ _ => False

/-- Every part the reader needs is set: the spec with its metrics, all of a resource, and its lower
bound, and the status with its current replicas. -/
structure HorizontalPodAutoscaler.Readable (hpa : HorizontalPodAutoscaler) : Prop where
  spec : ∃ spec, hpa.spec = some spec ∧ spec.minReplicas ≠ none ∧
    ∃ metrics, spec.metrics = some metrics ∧ ∀ metric ∈ metrics, metric.IsResource
  status : ∃ status, hpa.status = some status ∧ status.currentReplicas ≠ none

/-! ### Reading an object -/

/-- The targets after the metric of a resource. -/
def afterMetric (targets : Json × Json) (source : ResourceMetricSource) : Json × Json :=
  match source.averageUtilization with
  | none => targets
  | some n =>
      if source.name = "cpu" then (.num n, targets.2)
      else if source.name = "memory" then (targets.1, .num n)
      else targets

theorem readMetric_resource (targets : Json × Json) (source : ResourceMetricSource) :
    readMetric targets (MetricSpec.resource source).toDict =
      .ok (afterMetric targets source) := by
  have hread : readMetric targets (MetricSpec.resource source).toDict =
      (if eqText (.str source.name) "cpu" then
        match orNone (source.averageUtilization.map .num) with
        | .null => .ok targets
        | utilization => .ok (utilization, targets.2)
      else if eqText (.str source.name) "memory" then
        match orNone (source.averageUtilization.map .num) with
        | .null => .ok targets
        | utilization => .ok (targets.1, utilization)
      else .ok targets) := rfl
  rw [hread, afterMetric]
  simp only [eqText, beq_iff_eq]
  cases source.averageUtilization with
  | none => simp [orNone]
  | some n =>
    by_cases hcpu : source.name = "cpu"
    · simp [hcpu, orNone]
    · by_cases hmemory : source.name = "memory"
      · simp [hmemory, orNone]
      · simp [hcpu, hmemory]

/-- A metric of another kind has no resource to read. -/
theorem readMetric_other (targets : Json × Json) (kind : OtherMetric) (source : Dict String Json) :
    readMetric targets (MetricSpec.other kind source).toDict = .error .typeError := by
  cases kind <;> rfl

/-- The targets after metrics that are all of a resource. -/
def afterMetrics (targets : Json × Json) (metrics : List MetricSpec) : Json × Json :=
  metrics.foldl (fun targets metric =>
    match metric with
    | .resource source => afterMetric targets source
    | .other _ _ => targets) targets

/-- The metrics are read if and only if all are of a resource. -/
theorem foldlM_readMetric {metrics : List MetricSpec} {targets targets' : Json × Json} :
    (metrics.map MetricSpec.toDict).foldlM readMetric targets = .ok targets' ↔
      (∀ metric ∈ metrics, metric.IsResource) ∧ targets' = afterMetrics targets metrics := by
  induction metrics generalizing targets with
  | nil =>
    rw [List.map_nil, List.foldlM_nil]
    constructor
    · intro h
      exact ⟨fun metric hmetric => by (cases hmetric), (Except.ok.inj h).symm⟩
    · rintro ⟨-, rfl⟩
      rfl
  | cons metric metrics ih =>
    rw [List.map_cons, List.foldlM_cons, List.forall_mem_cons]
    cases metric with
    | resource source =>
      rw [readMetric_resource, ok_bind, ih, and_iff_right (a := (MetricSpec.resource source).IsResource)
        trivial]
      rfl
    | other kind source =>
      rw [readMetric_other]
      refine iff_of_false (fun h => ?_) fun h => h.1.1
      cases h

/-- A target is not set or a number. -/
def IsTarget (value : Json) : Prop := value = .null ∨ IsNumber value

theorem isTarget_afterMetric {targets : Json × Json} {source : ResourceMetricSource}
    (h : IsTarget targets.1 ∧ IsTarget targets.2) :
    IsTarget (afterMetric targets source).1 ∧ IsTarget (afterMetric targets source).2 := by
  unfold afterMetric
  cases source.averageUtilization with
  | none => exact h
  | some n =>
    have hn : IsTarget (.num n) := Or.inr ⟨n, rfl⟩
    simp only
    split
    · exact ⟨hn, h.2⟩
    · split
      · exact ⟨h.1, hn⟩
      · exact h

theorem isTarget_afterMetrics (metrics : List MetricSpec) {targets : Json × Json}
    (h : IsTarget targets.1 ∧ IsTarget targets.2) :
    IsTarget (afterMetrics targets metrics).1 ∧ IsTarget (afterMetrics targets metrics).2 := by
  induction metrics generalizing targets with
  | nil => exact h
  | cons metric metrics ih =>
    cases metric with
    | resource source => exact ih (isTarget_afterMetric h)
    | other kind source => exact ih h

theorem readCondition_toDict (condition : HpaCondition) :
    readCondition condition.toDict = .ok condition := by
  obtain ⟨time, message, reason, status, type⟩ := condition
  cases time <;> cases message <;> cases reason <;> rfl

/-- The conditions are read as they are. -/
theorem mapM_readCondition (conditions : List HpaCondition) :
    (conditions.map HpaCondition.toDict).mapM readCondition = .ok conditions := by
  induction conditions with
  | nil => rfl
  | cons condition conditions ih =>
    rw [List.map_cons, List.mapM_cons, readCondition_toDict, ok_bind, ih, ok_bind]
    rfl

theorem elements_metrics {metrics : Option (List MetricSpec)} {items : List Json} :
    elements (orNone (metrics.map fun metrics => .arr (metrics.map MetricSpec.toDict))) =
      .ok items ↔ ∃ listed, metrics = some listed ∧ items = listed.map MetricSpec.toDict := by
  cases metrics with
  | none => exact iff_of_false (fun h => by cases h) (by simp)
  | some listed =>
    constructor
    · intro h
      exact ⟨listed, rfl, (Except.ok.inj h).symm⟩
    · rintro ⟨_, h, rfl⟩
      cases h
      rfl

theorem elements_conditions (conditions : Option (List HpaCondition)) :
    elements ((orNone (conditions.map fun conditions =>
      .arr (conditions.map HpaCondition.toDict))).or (.arr [])) =
      .ok ((conditions.getD []).map HpaCondition.toDict) := by
  cases conditions with
  | none => rfl
  | some conditions => cases conditions <;> rfl

theorem asInt_orNone {n : Option ℤ} {k : ℤ} :
    asInt (orNone (n.map .num)) = .ok k ↔ n = some k := by
  cases n with
  | none => exact iff_of_false (fun h => by cases h) (by simp)
  | some n =>
    rw [Option.some.injEq]
    exact ⟨fun h => Except.ok.inj h, fun h => congrArg _ h⟩

/-- What is read of an object that has a spec and a status. -/
theorem extractHpaResponse_eq {hpa : HorizontalPodAutoscaler} {spec : HpaSpec} {status : HpaStatus}
    (hspec : hpa.spec = some spec) (hstatus : hpa.status = some status) :
    extractHpaResponse hpa.toDict = (do
      let items ← elements
        (orNone (spec.metrics.map fun metrics => .arr (metrics.map MetricSpec.toDict)))
      let targets ← items.foldlM readMetric (.null, .null)
      let currentReplicas ← asInt (orNone (status.currentReplicas.map .num))
      return ⟨true, ⟨orNone (spec.minReplicas.map .num), .num spec.maxReplicas, targets.1,
        targets.2⟩, currentReplicas, status.desiredReplicas, status.conditions.getD []⟩) := by
  have hget : hpa.toDict.get "spec" (.obj []) = .ok spec.toDict := by
    change Except.ok (orNone (hpa.spec.map HpaSpec.toDict)) = _
    rw [hspec]
    rfl
  have hgetStatus : hpa.toDict.get "status" (.obj []) = .ok status.toDict := by
    change Except.ok (orNone (hpa.status.map HpaStatus.toDict)) = _
    rw [hstatus]
    rfl
  have hconditions : status.toDict.get "conditions" (.arr []) =
      .ok (orNone (status.conditions.map fun conditions =>
        .arr (conditions.map HpaCondition.toDict))) := rfl
  rw [extractHpaResponse, hget, ok_bind, hgetStatus, ok_bind, hconditions]
  simp only [ok_bind, elements_conditions, mapM_readCondition]
  rfl

/-- An object is read if and only if its spec, its metrics, its status and its current replicas are
set and its metrics are all of a resource. -/
theorem extractHpaResponse_ok {hpa : HorizontalPodAutoscaler} {response : HPAResponse} :
    extractHpaResponse hpa.toDict = .ok response ↔
      ∃ spec status metrics currentReplicas, hpa.spec = some spec ∧ hpa.status = some status ∧
        spec.metrics = some metrics ∧ (∀ metric ∈ metrics, metric.IsResource) ∧
        status.currentReplicas = some currentReplicas ∧
        response = ⟨true, ⟨orNone (spec.minReplicas.map .num), .num spec.maxReplicas,
          (afterMetrics (.null, .null) metrics).1, (afterMetrics (.null, .null) metrics).2⟩,
          currentReplicas, status.desiredReplicas, status.conditions.getD []⟩ := by
  cases hspec : hpa.spec with
  | none =>
    refine iff_of_false (fun h => ?_) (by simp)
    have hget : hpa.toDict.get "spec" (.obj []) = .ok .null := by
      change Except.ok (orNone (hpa.spec.map HpaSpec.toDict)) = _
      rw [hspec]
      rfl
    rw [extractHpaResponse, hget, ok_bind] at h
    obtain ⟨statusRaw, -, h⟩ := exists_of_bind_ok h
    cases h
  | some spec =>
    cases hstatus : hpa.status with
    | none =>
      refine iff_of_false (fun h => ?_) (by simp)
      have hget : hpa.toDict.get "status" (.obj []) = .ok .null := by
        change Except.ok (orNone (hpa.status.map HpaStatus.toDict)) = _
        rw [hstatus]
        rfl
      rw [extractHpaResponse] at h
      obtain ⟨spec', -, h⟩ := exists_of_bind_ok h
      rw [hget, ok_bind] at h
      obtain ⟨_, -, h⟩ := exists_of_bind_ok h
      obtain ⟨_, -, h⟩ := exists_of_bind_ok h
      obtain ⟨_, -, h⟩ := exists_of_bind_ok h
      obtain ⟨_, -, h⟩ := exists_of_bind_ok h
      obtain ⟨_, -, h⟩ := exists_of_bind_ok h
      cases h
    | some status =>
      rw [extractHpaResponse_eq hspec hstatus]
      constructor
      · intro h
        obtain ⟨items, hitems, h⟩ := exists_of_bind_ok h
        obtain ⟨metrics, hmetrics, rfl⟩ := elements_metrics.1 hitems
        obtain ⟨targets, htargets, h⟩ := exists_of_bind_ok h
        obtain ⟨hresource, rfl⟩ := foldlM_readMetric.1 htargets
        obtain ⟨currentReplicas, hcurrent, h⟩ := exists_of_bind_ok h
        exact ⟨spec, status, metrics, currentReplicas, rfl, rfl, hmetrics, hresource,
          asInt_orNone.1 hcurrent, (Except.ok.inj h).symm⟩
      · rintro ⟨_, _, metrics, currentReplicas, hs, ht, hmetrics, hresource, hcurrent, rfl⟩
        cases hs
        cases ht
        rw [elements_metrics.2 ⟨metrics, hmetrics, rfl⟩, ok_bind,
          foldlM_readMetric.2 ⟨hresource, rfl⟩, ok_bind, asInt_orNone.2 hcurrent]
        rfl

/-! ### The law -/

/-- The reader answers with a configuration of the declared types. -/
def IsRead (hpa : HorizontalPodAutoscaler) : Prop :=
  ∃ response, extractHpaResponse hpa.toDict = .ok response ∧ response.config.Typed

/-- The reader answers with the configuration of a request. -/
def ReadsBack (hpa : HorizontalPodAutoscaler) (config : HPAConfig) : Prop :=
  ∃ response, extractHpaResponse hpa.toDict = .ok response ∧ response.config.Is config

theorem isNumber_orNone {n : Option ℤ} : IsNumber (orNone (n.map .num)) ↔ n ≠ none := by
  cases n with
  | none => exact iff_of_false (fun ⟨_, h⟩ => by cases h) (by simp)
  | some n => exact iff_of_true ⟨n, rfl⟩ (by simp)

theorem isRead_iff {hpa : HorizontalPodAutoscaler} : IsRead hpa ↔ hpa.Readable := by
  constructor
  · rintro ⟨response, hok, htyped⟩
    obtain ⟨spec, status, metrics, currentReplicas, hspec, hstatus, hmetrics, hresource, hcurrent,
      rfl⟩ := extractHpaResponse_ok.1 hok
    exact ⟨⟨spec, hspec, isNumber_orNone.1 htyped.minReplicas, metrics, hmetrics, hresource⟩,
      ⟨status, hstatus, by simp [hcurrent]⟩⟩
  · rintro ⟨⟨spec, hspec, hmin, metrics, hmetrics, hresource⟩, ⟨status, hstatus, hcurrent⟩⟩
    obtain ⟨currentReplicas, hcurrent⟩ := Option.ne_none_iff_exists'.1 hcurrent
    have hnull : IsTarget (Json.null, Json.null).1 ∧ IsTarget (Json.null, Json.null).2 :=
      ⟨Or.inl rfl, Or.inl rfl⟩
    have htargets := isTarget_afterMetrics metrics hnull
    exact ⟨_, extractHpaResponse_ok.2 ⟨spec, status, metrics, currentReplicas, hspec, hstatus,
      hmetrics, hresource, hcurrent, rfl⟩, isNumber_orNone.2 hmin, ⟨_, rfl⟩, htargets.1,
      htargets.2⟩

/-- The metrics of a request are read back as its targets. -/
theorem afterMetrics_written (cpu memory : Option ℤ) :
    afterMetrics (.null, .null) ((cpu.map (utilizationMetric "cpu")).toList ++
      (memory.map (utilizationMetric "memory")).toList) =
      (orNone (cpu.map .num), orNone (memory.map .num)) := by
  cases cpu <;> cases memory <;> rfl

theorem isResource_written {cpu memory : Option ℤ} {metric : MetricSpec}
    (h : metric ∈ (cpu.map (utilizationMetric "cpu")).toList ++
      (memory.map (utilizationMetric "memory")).toList) : metric.IsResource := by
  obtain h | h := List.mem_append.1 h
  · obtain ⟨percent, -, rfl⟩ := Option.map_eq_some_iff.1 (Option.mem_toList.1 h)
    trivial
  · obtain ⟨percent, -, rfl⟩ := Option.map_eq_some_iff.1 (Option.mem_toList.1 h)
    trivial

/-- What is written is read back once the server has filled in a status with its current replicas,
and not before. -/
theorem readsBack_iff {clusterName namespace_ : String} {config : HPAConfig}
    {status : Option HpaStatus} :
    ReadsBack { buildHpaObject clusterName namespace_ config with status } config ↔
      ∃ filled, status = some filled ∧ filled.currentReplicas ≠ none := by
  constructor
  · rintro ⟨response, hok, -⟩
    obtain ⟨_, filled, _, currentReplicas, -, hstatus, -, -, hcurrent, -⟩ :=
      extractHpaResponse_ok.1 hok
    exact ⟨filled, hstatus, by simp [hcurrent]⟩
  · rintro ⟨filled, rfl, hcurrent⟩
    obtain ⟨currentReplicas, hcurrent⟩ := Option.ne_none_iff_exists'.1 hcurrent
    refine ⟨_, extractHpaResponse_ok.2 ⟨_, filled, _, currentReplicas, rfl, rfl, rfl,
      fun metric hmetric => isResource_written hmetric, hcurrent, rfl⟩, rfl, rfl, ?_, ?_⟩
    · exact congrArg Prod.fst (afterMetrics_written _ _)
    · exact congrArg Prod.snd (afterMetrics_written _ _)

/-- The reader answers for exactly the objects whose parts it needs are set. It undoes the writing
for exactly the statuses that have current replicas, so not for the object as it is built. -/
theorem hpa_read_iff (hpa : HorizontalPodAutoscaler) (clusterName namespace_ : String)
    (config : HPAConfig) :
    (IsRead hpa ↔ hpa.Readable) ∧
    (∀ status, ReadsBack { buildHpaObject clusterName namespace_ config with status } config ↔
      ∃ filled, status = some filled ∧ filled.currentReplicas ≠ none) ∧
    ¬ReadsBack (buildHpaObject clusterName namespace_ config) config := by
  refine ⟨isRead_iff, fun status => readsBack_iff, fun h => ?_⟩
  obtain ⟨filled, hfilled, -⟩ := readsBack_iff.1 h
  cases hfilled

/-- A request for a target of the processor. -/
def cpuConfig : HPAConfig where
  minReplicas := 1
  maxReplicas := 3
  cpuTargetPercent := some 70
  memoryTargetPercent := none
  min_valid := by decide
  max_valid := by decide
  cpu_valid n h := by
    cases h
    decide
  memory_valid n h := by cases h
  max_gte_min := by decide
  at_least_one_metric := Or.inl (by decide)

/-- An object that scales by a metric of its pods. -/
def podsMetricHpa : HorizontalPodAutoscaler where
  spec := some {
    maxReplicas := 3
    minReplicas := some 1
    metrics := some [.other .pods [("metric", .obj [("name", .str "requests")])]]
    scaleTargetRef := [("kind", .str "AerospikeCluster"), ("name", .str "aero")] }
  status := some { currentReplicas := some 1, desiredReplicas := 1 }

/-- Neither an object with a metric of its pods nor a built one is read. -/
theorem hpa_not_read : ¬IsRead podsMetricHpa ∧
    ¬ReadsBack (buildHpaObject "aero" "db" cpuConfig) cpuConfig := by
  constructor
  · rintro ⟨response, hok, -⟩
    cases hok
  · rintro ⟨response, hok, -⟩
    cases hok

end ClusterManager.K8s
