import Mathlib.Tactic.Linarith
import ClusterManager.K8s.Build

/-!
# The memory of a pod and its namespaces

The CR says how much the namespaces of a pod may hold in memory, and how much memory the pod may
have. The first is written per namespace, the second is sized after a total, and the two count a
data size of zero differently (`container_memory_iff`).
-/

namespace ClusterManager.K8s.Build

open Json Decimals

/-! ### What a CR says -/

/-- A text under the resources of the container. -/
def resourceText (cr : Json) (kind name : String) : Option String :=
  match cr.at? ["spec", "podSpec", "aerospikeContainer", "resources", kind, name] with
  | some (.str text) => some text
  | _ => none

/-- The bytes a CR requests or allows. -/
def memoryAt (cr : Json) (kind : String) : Option ℚ :=
  (resourceText cr kind "memory").bind fun mem => memoryValue mem.toList

/-- The processor time a CR requests or allows. -/
def cpuAt (cr : Json) (kind : String) : Option ℚ :=
  (resourceText cr kind "cpu").bind parseCpuMillis

/-- The data size of a namespace of a CR that lives in memory, `0` of any other. -/
def dataSizeOf (ns : Json) : ℤ :=
  match ns.at? ["storage-engine", "type"], ns.at? ["storage-engine", "data-size"] with
  | some (.str type), some (.num size) => if type = "memory" then size else 0
  | _, _ => 0

/-- The data sizes of the namespaces of a CR that live in memory. -/
def emittedDataSize (cr : Json) : ℤ :=
  match cr.at? ["spec", "aerospikeConfig", "namespaces"] with
  | some (.arr namespaces) => (namespaces.map dataSizeOf).sum
  | _ => 0

/-- The memory limit of a CR covers the data sizes of the same CR, and what they need besides. -/
def LimitCovers (cr : Json) : Prop :=
  ∃ limit, memoryAt cr "limits" = some limit ∧
    ((⌊(emittedDataSize cr : ℚ) * (13 / 10)⌋ : ℤ) : ℚ) ≤ limit

/-- No request of a CR exceeds its limit. -/
def RequestsFit (cr : Json) : Prop :=
  (∀ request, memoryAt cr "requests" = some request →
    ∃ limit, memoryAt cr "limits" = some limit ∧ request ≤ limit) ∧
  ∀ request, cpuAt cr "requests" = some request →
    ∃ limit, cpuAt cr "limits" = some limit ∧ request ≤ limit

/-- The CR of a request covers its namespaces, fits, and is built again from the same request. -/
def MemorySized (req : CreateK8sClusterRequest) : Prop :=
  ∃ cr req', buildCr req = .ok (cr, req') ∧ LimitCovers cr ∧ RequestsFit cr ∧
    buildCr req' = .ok (cr, req')

/-! ### What it says of a request -/

/-- The models have accepted the resources of a request. -/
def CreateK8sClusterRequest.Accepted (req : CreateK8sClusterRequest) : Prop :=
  ∀ resources, req.resources = some resources → resources.Valid

/-- The data size that is written for a namespace. -/
def emittedSize (ns : AerospikeNamespaceConfig) : ℤ := intOr 1073741824 ns.storageEngine.dataSize

/-- The data sizes that are written for the namespaces in memory. -/
def emittedBytes (req : CreateK8sClusterRequest) : ℤ :=
  ((req.namespaces.filter (·.storageEngine.type = .memory)).map emittedSize).sum

theorem dataSizeOf_buildNamespace (mount : String) (ns : AerospikeNamespaceConfig) :
    dataSizeOf (buildNamespace mount ns) =
      if ns.storageEngine.type = .memory then emittedSize ns else 0 := by
  have hengine : ∀ key, (buildNamespace mount ns).at? ["storage-engine", key] =
      Dict.get? (buildStorageEngine mount ns).fields key := by
    intro key
    rw [at?_cons_cons, at?_singleton]
    rfl
  rw [dataSizeOf, hengine, hengine, buildStorageEngine]
  cases ns.storageEngine.type <;> rfl

theorem emittedDataSize_crOf (req : CreateK8sClusterRequest) :
    emittedDataSize (crOf req) = emittedBytes req := by
  have hpath : (crOf req).at? ["spec", "aerospikeConfig", "namespaces"] =
      some (.arr (req.namespaces.map (buildNamespace (defaultMount req.storage)))) := by
    have hspec : Dict.get? (crOf req).fields "spec" = some (.obj (buildSpec req)) := rfl
    rw [at?_cons, hspec, Option.bind_some, at?_cons]
    show (Dict.get? (buildSpec req) "aerospikeConfig").bind _ = _
    rw [aerospikeConfig_buildSpec, Option.bind_some, at?_singleton]
    rfl
  rw [emittedDataSize, hpath, emittedBytes]
  dsimp only
  rw [List.map_map]
  induction req.namespaces with
  | nil => rfl
  | cons ns namespaces ih =>
    rw [List.map_cons, List.sum_cons, ih, Function.comp_apply, dataSizeOf_buildNamespace]
    by_cases hmemory : ns.storageEngine.type = .memory
    · simp [hmemory]
    · simp [hmemory]

theorem resourceText_crOf (req : CreateK8sClusterRequest) (kind name : String) :
    resourceText (crOf req) kind name =
      match (req.resources.map buildResourcesDict).bind (at? · [kind, name]) with
      | some (.str text) => some text
      | _ => none := by
  rw [resourceText, at?_podSpec, at?_cons_cons, at?_cons]
  show (match (Dict.get? ((Dict.get? (podSpecOf req) "aerospikeContainer").getD .null).fields
    "resources").bind (at? · [kind, name]) with
    | some (.str text) => some text
    | _ => none) = _
  rw [← section_eq, resources_podSpecOf]

theorem memoryAt_limits (req : CreateK8sClusterRequest) :
    memoryAt (crOf req) "limits" =
      req.resources.bind fun resources => memoryValue resources.limits.memory.toList := by
  rw [memoryAt, resourceText_crOf]
  cases req.resources <;> rfl

theorem memoryAt_requests (req : CreateK8sClusterRequest) :
    memoryAt (crOf req) "requests" =
      req.resources.bind fun resources => memoryValue resources.requests.memory.toList := by
  rw [memoryAt, resourceText_crOf]
  cases req.resources <;> rfl

theorem cpuAt_limits (req : CreateK8sClusterRequest) :
    cpuAt (crOf req) "limits" =
      req.resources.bind fun resources => parseCpuMillis resources.limits.cpu := by
  rw [cpuAt, resourceText_crOf]
  cases req.resources <;> rfl

theorem cpuAt_requests (req : CreateK8sClusterRequest) :
    cpuAt (crOf req) "requests" =
      req.resources.bind fun resources => parseCpuMillis resources.requests.cpu := by
  rw [cpuAt, resourceText_crOf]
  cases req.resources <;> rfl

/-! ### The new limit -/

/-- A number of GiB is read back. -/
theorem memoryValue_gib (n : ℕ) :
    memoryValue (Nat.toDigits 10 n ++ ['G', 'i']) = some ((n : ℚ) * 1024 ^ 3) := by
  have hreverse : (Nat.toDigits 10 n ++ ['G', 'i']).reverse =
      'i' :: 'G' :: (Nat.toDigits 10 n).reverse := by
    simp
  rw [memoryValue, hreverse]
  simp only [memoryUnits, List.reverse_reverse, decimalValue_toDigits]
  rfl

theorem one_le_minMemoryGi (total : ℤ) : 1 ≤ minMemoryGi total := le_max_left _ _

theorem memoryValue_newLimitMem (total : ℤ) :
    memoryValue (newLimitMem total).toList = some ((minMemoryGi total : ℚ) * 1024 ^ 3) := by
  have hpos := one_le_minMemoryGi total
  obtain ⟨n, hn⟩ := Int.eq_ofNat_of_zero_le (zero_le_one.trans hpos)
  rw [newLimitMem, String.toList_ofList, Numerals.intText, if_neg (by omega), hn,
    Int.natAbs_natCast, memoryValue_gib]
  rfl

theorem parseMemoryBytes_newLimitMem (total : ℤ) :
    parseMemoryBytes (newLimitMem total) = minMemoryGi total * 1024 ^ 3 := by
  have hcast : (minMemoryGi total : ℚ) * 1024 ^ 3 = ((minMemoryGi total * 1024 ^ 3 : ℤ) : ℚ) := by
    push_cast
    ring
  rw [parseMemoryBytes, memoryValue_newLimitMem]
  dsimp only
  rw [hcast, Int.floor_intCast]

/-- The bytes that a total needs, in integers. -/
theorem minMemoryBytes_eq (total : ℤ) : minMemoryBytes total = 13 * total / 10 := by
  have hcast : (total : ℚ) * (13 / 10) = ((13 * total : ℤ) : ℚ) / ((10 : ℕ) : ℚ) := by
    push_cast
    ring
  rw [minMemoryBytes, hcast, Rat.floor_intCast_div_natCast]
  rfl

theorem minMemoryGi_eq (total : ℤ) :
    minMemoryGi total = max 1 (-(-(13 * total / 10) / 1073741824)) := by
  rw [minMemoryGi, minMemoryBytes_eq]
  norm_num

/-- The new limit is enough for the total. -/
theorem minMemoryBytes_le (total : ℤ) : minMemoryBytes total ≤ minMemoryGi total * 1024 ^ 3 := by
  rw [minMemoryBytes_eq, minMemoryGi_eq]
  norm_num
  omega

/-- It is not enough for the total and one GiB more. -/
theorem newLimit_lt {total more : ℤ} (htotal : 0 < total) (hmore : 1073741824 ≤ more) :
    minMemoryGi total * 1024 ^ 3 < minMemoryBytes (total + more) := by
  rw [minMemoryBytes_eq, minMemoryGi_eq]
  norm_num
  omega

/-! ### Counting a data size of zero -/

/-- The namespaces in memory with a data size of zero. -/
def zeros (req : CreateK8sClusterRequest) : ℕ :=
  (req.namespaces.filter (·.storageEngine.type = .memory)).countP
    (·.storageEngine.dataSize = some 0)

/-- What is written is what is counted, and one GiB for each data size of zero. -/
theorem emittedBytes_eq (req : CreateK8sClusterRequest) :
    emittedBytes req = totalNsBytes req + 1073741824 * zeros req := by
  rw [emittedBytes, totalNsBytes, zeros]
  induction req.namespaces.filter (·.storageEngine.type = .memory) with
  | nil => rfl
  | cons ns namespaces ih =>
    rw [List.map_cons, List.map_cons, List.sum_cons, List.sum_cons, List.countP_cons, ih]
    have hns : emittedSize ns = countedSize ns +
        if ns.storageEngine.dataSize = some 0 then 1073741824 else 0 := by
      rw [emittedSize, countedSize]
      cases ns.storageEngine.dataSize with
      | none => rfl
      | some size =>
        by_cases hzero : size = 0
        · simp [intOr, hzero]
        · simp [intOr, hzero]
    rw [hns]
    by_cases hzero : ns.storageEngine.dataSize = some 0
    · simp only [hzero, if_true, decide_true]
      push_cast
      ring
    · simp [hzero]
      ring

/-- No namespace in memory has a data size of zero. -/
def NoZero (req : CreateK8sClusterRequest) : Prop :=
  ∀ ns ∈ req.namespaces, ns.storageEngine.type = .memory → ns.storageEngine.dataSize ≠ some 0

theorem zeros_eq_zero_iff (req : CreateK8sClusterRequest) : zeros req = 0 ↔ NoZero req := by
  simp only [zeros, List.countP_eq_zero, List.mem_filter, decide_eq_true_eq, and_imp, NoZero]

/-! ### What sizing does -/

/-- What becomes of resources that are to hold a total. -/
inductive Sized (total : ℤ) : Option ResourceConfig → ResourceConfig → Prop
  | kept (resources : ResourceConfig) :
      minMemoryBytes total ≤ parseMemoryBytes resources.limits.memory →
        Sized total (some resources) resources
  | raised (resources : ResourceConfig) :
      parseMemoryBytes resources.limits.memory < minMemoryBytes total →
        Sized total (some resources) {
          requests := resources.requests
          limits := { cpu := resources.limits.cpu, memory := newLimitMem total } }
  | default : Sized total none {
      requests := { cpu := "500m", memory := newLimitMem total }
      limits := { cpu := "2", memory := newLimitMem total } }

theorem parseMemoryBytes_of_value {mem : String} {value : ℚ}
    (h : memoryValue mem.toList = some value) : parseMemoryBytes mem = ⌊value⌋ := by
  rw [parseMemoryBytes, h]

theorem newLimitMem_valid (total : ℤ) : (memoryValue (newLimitMem total).toList).isSome := by
  rw [memoryValue_newLimitMem]
  rfl

/-- A request of resources that are accepted never reaches a limit that is raised. -/
theorem newRequestsMem_eq {total : ℤ} {resources : ResourceConfig} (hvalid : resources.Valid)
    (hlow : parseMemoryBytes resources.limits.memory < minMemoryBytes total) :
    newRequestsMem total resources = resources.requests.memory := by
  have hle := hvalid.2.2.2
  have hnew := minMemoryBytes_le total
  rw [newRequestsMem, if_neg]
  rw [parseMemoryBytes_newLimitMem]
  omega

/-- A limit that is enough is kept. -/
theorem sizedResources_kept {total : ℤ} {resources : ResourceConfig}
    (h : minMemoryBytes total ≤ parseMemoryBytes resources.limits.memory) :
    sizedResources total (some resources) = .ok (some resources) := by
  rw [sizedResources, if_neg (by omega)]
  rfl

/-- Sizing accepted resources succeeds, and leaves what it sized as it is. -/
theorem sizedResources_ok {total : ℤ} {resources : Option ResourceConfig}
    (hvalid : ∀ r, resources = some r → r.Valid) :
    ∃ sized, sizedResources total resources = .ok (some sized) ∧ Sized total resources sized ∧
      sized.Valid ∧ sizedResources total (some sized) = .ok (some sized) := by
  have hnew : minMemoryBytes total ≤ parseMemoryBytes (newLimitMem total) := by
    rw [parseMemoryBytes_newLimitMem]
    exact minMemoryBytes_le total
  cases resources with
  | none =>
    have hcheck : ResourceConfig.Valid {
        requests := { cpu := "500m", memory := newLimitMem total }
        limits := { cpu := "2", memory := newLimitMem total } } := by
      have hcpu : (parseCpuMillis "500m").isSome ∧ (parseCpuMillis "2").isSome ∧
          (parseCpuMillis "500m").getD 0 ≤ (parseCpuMillis "2").getD 0 := by
        decide +kernel
      exact ⟨⟨hcpu.1, newLimitMem_valid total⟩, ⟨hcpu.2.1, newLimitMem_valid total⟩, hcpu.2.2,
        le_rfl⟩
    refine ⟨_, ?_, .default, hcheck, sizedResources_kept hnew⟩
    rw [sizedResources, checkResources, if_pos hcheck]
    rfl
  | some r =>
    have hr := hvalid r rfl
    by_cases hlow : parseMemoryBytes r.limits.memory < minMemoryBytes total
    · have hcheck : ResourceConfig.Valid {
          requests := r.requests
          limits := { cpu := r.limits.cpu, memory := newLimitMem total } } :=
        ⟨hr.1, ⟨hr.2.1.1, newLimitMem_valid total⟩, hr.2.2.1,
          hr.2.2.2.trans (hlow.le.trans hnew)⟩
      refine ⟨_, ?_, .raised r hlow, hcheck, sizedResources_kept hnew⟩
      rw [sizedResources, if_pos hlow, newRequestsMem_eq hr hlow, checkResources, if_pos hcheck]
      rfl
    · have hkept := sizedResources_kept (not_lt.1 hlow)
      exact ⟨r, hkept, .kept r (not_lt.1 hlow), hr, hkept⟩

/-- Sizing an accepted request succeeds and is done once. -/
theorem sizeMemory_ok {req : CreateK8sClusterRequest} (h : req.Accepted) :
    ∃ req', sizeMemory req = .ok req' ∧ sizeMemory req' = .ok req' ∧
      ((totalNsBytes req ≤ 0 ∧ req' = req) ∨ (0 < totalNsBytes req ∧ ∃ sized,
        req' = { req with resources := some sized } ∧ sized.Valid ∧
          Sized (totalNsBytes req) req.resources sized)) := by
  by_cases htotal : 0 < totalNsBytes req
  · obtain ⟨sized, hsized, hspec, hvalid, hagain⟩ := sizedResources_ok h
    refine ⟨{ req with resources := some sized }, ?_, ?_,
      Or.inr ⟨htotal, sized, rfl, hvalid, hspec⟩⟩
    · rw [sizeMemory, if_pos htotal, hsized]
      rfl
    · have hsame : totalNsBytes { req with resources := some sized } = totalNsBytes req := rfl
      rw [sizeMemory, hsame, if_pos htotal, hagain]
      rfl
  · have hrefl : sizeMemory req = .ok req := by
      rw [sizeMemory, if_neg htotal]
      rfl
    exact ⟨req, hrefl, hrefl, Or.inl ⟨by omega, rfl⟩⟩

/-! ### The CR of a request -/

/-- A memory limit covers data of so many bytes, and what they need besides. -/
def Covers (written : ℤ) (resources : ResourceConfig) : Prop :=
  ∃ limit, memoryValue resources.limits.memory.toList = some limit ∧
    ((⌊(written : ℚ) * (13 / 10)⌋ : ℤ) : ℚ) ≤ limit

/-- The data sizes that are written are the ones that are counted, and there are some, or the
limit of the request covers what is written. -/
def LimitGiven (req : CreateK8sClusterRequest) : Prop :=
  (0 < totalNsBytes req ∧ NoZero req) ∨
    ∃ resources, req.resources = some resources ∧ Covers (emittedBytes req) resources

/-- The memory requested is not above the limit, to the last fraction of a byte, or the limit is
replaced. -/
def RequestGiven (req : CreateK8sClusterRequest) : Prop :=
  ∀ resources, req.resources = some resources →
    (memoryValue resources.requests.memory.toList).getD 0 ≤
        (memoryValue resources.limits.memory.toList).getD 0 ∨
      (0 < totalNsBytes req ∧
        parseMemoryBytes resources.limits.memory < minMemoryBytes (totalNsBytes req))

/-- Whole bytes are enough to compare with. -/
theorem covers_iff {written : ℤ} {resources : ResourceConfig}
    (hvalid : (memoryValue resources.limits.memory.toList).isSome) :
    Covers written resources ↔
      minMemoryBytes written ≤ parseMemoryBytes resources.limits.memory := by
  obtain ⟨limit, hlimit⟩ := Option.isSome_iff_exists.1 hvalid
  rw [parseMemoryBytes_of_value hlimit, Int.le_floor, minMemoryBytes]
  constructor
  · rintro ⟨limit', hlimit', hle⟩
    rw [hlimit] at hlimit'
    cases hlimit'
    exact hle
  · intro hle
    exact ⟨limit, hlimit, hle⟩

theorem limitCovers_crOf {req : CreateK8sClusterRequest} :
    LimitCovers (crOf req) ↔
      ∃ resources, req.resources = some resources ∧ Covers (emittedBytes req) resources := by
  rw [LimitCovers, memoryAt_limits, emittedDataSize_crOf]
  cases req.resources with
  | none => simp
  | some resources => simp [Covers]

/-- The new limit covers what is written exactly where no data size is zero. -/
theorem covers_new_iff {req : CreateK8sClusterRequest} {resources : ResourceConfig}
    (htotal : 0 < totalNsBytes req)
    (hnew : resources.limits.memory = newLimitMem (totalNsBytes req)) :
    Covers (emittedBytes req) resources ↔ NoZero req := by
  have hvalid := newLimitMem_valid (totalNsBytes req)
  rw [← hnew] at hvalid
  rw [covers_iff hvalid, hnew, parseMemoryBytes_newLimitMem, emittedBytes_eq, ← zeros_eq_zero_iff]
  constructor
  · intro hle
    by_contra hzeros
    have hlt := @newLimit_lt (totalNsBytes req) (1073741824 * zeros req) htotal (by omega)
    omega
  · intro hzeros
    rw [hzeros]
    simpa using minMemoryBytes_le (totalNsBytes req)

/-- A sized limit covers what is written exactly where no data size is zero, or where it was given
and covers it. -/
theorem limitCovers_sized_iff {req : CreateK8sClusterRequest} {sized : ResourceConfig}
    (haccepted : req.Accepted) (htotal : 0 < totalNsBytes req)
    (hsized : Sized (totalNsBytes req) req.resources sized) :
    Covers (emittedBytes req) sized ↔ LimitGiven req := by
  have hsame : NoZero req → emittedBytes req = totalNsBytes req := by
    intro hzero
    rw [emittedBytes_eq, (zeros_eq_zero_iff req).2 hzero]
    simp
  rw [LimitGiven]
  generalize hgiven : req.resources = given at hsized
  cases hsized with
  | kept _ hkept =>
    have hvalid := (haccepted sized hgiven).2.1.2
    constructor
    · intro hcovers
      exact Or.inr ⟨sized, rfl, hcovers⟩
    · rintro (⟨-, hzero⟩ | ⟨_, hsome, hcovers⟩)
      · rw [covers_iff hvalid, hsame hzero]
        exact hkept
      · cases hsome
        exact hcovers
  | raised resources hlow =>
    have hvalid := (haccepted resources hgiven).2.1.2
    rw [covers_new_iff htotal rfl]
    constructor
    · intro hzero
      exact Or.inl ⟨htotal, hzero⟩
    · rintro (⟨-, hzero⟩ | ⟨_, hsome, hcovers⟩)
      · exact hzero
      · -- the limit that was given would cover the total too
        cases hsome
        rw [covers_iff hvalid, emittedBytes_eq] at hcovers
        rw [minMemoryBytes_eq] at hcovers hlow
        omega
  | default =>
    rw [covers_new_iff htotal rfl]
    constructor
    · intro hzero
      exact Or.inl ⟨htotal, hzero⟩
    · rintro (⟨-, hzero⟩ | ⟨_, hnone, -⟩)
      · exact hzero
      · cases hnone

/-- What resources request is within their limits. -/
def Fits (resources : ResourceConfig) : Prop :=
  (memoryValue resources.requests.memory.toList).getD 0 ≤
    (memoryValue resources.limits.memory.toList).getD 0

/-- The processor time that is accepted is always within the limit. -/
theorem requestsFit_crOf {req : CreateK8sClusterRequest} (haccepted : req.Accepted) :
    RequestsFit (crOf req) ↔ ∀ resources, req.resources = some resources → Fits resources := by
  rw [RequestsFit, memoryAt_requests, memoryAt_limits, cpuAt_requests, cpuAt_limits]
  cases hresources : req.resources with
  | none => simp
  | some resources =>
    have hvalid := haccepted resources hresources
    obtain ⟨requested, hrequested⟩ := Option.isSome_iff_exists.1 hvalid.1.2
    obtain ⟨limit, hlimit⟩ := Option.isSome_iff_exists.1 hvalid.2.1.2
    obtain ⟨requestedCpu, hrequestedCpu⟩ := Option.isSome_iff_exists.1 hvalid.1.1
    obtain ⟨limitCpu, hlimitCpu⟩ := Option.isSome_iff_exists.1 hvalid.2.1.1
    have hcpu := hvalid.2.2.1
    rw [hrequestedCpu, hlimitCpu] at hcpu
    simp [Fits, hrequested, hlimit, hrequestedCpu, hlimitCpu]
    exact fun _ => hcpu

/-- A request of memory is within the limit if it was, or if the limit was raised. -/
theorem fits_sized_iff {req : CreateK8sClusterRequest} {sized : ResourceConfig}
    (haccepted : req.Accepted) (htotal : 0 < totalNsBytes req)
    (hsized : Sized (totalNsBytes req) req.resources sized) : Fits sized ↔ RequestGiven req := by
  rw [RequestGiven]
  generalize hgiven : req.resources = given at hsized
  cases hsized with
  | kept _ hkept =>
    constructor
    · rintro hfits _ hsome
      cases hsome
      exact Or.inl hfits
    · intro h
      rcases h sized rfl with hfits | ⟨-, hlow⟩
      · exact hfits
      · omega
  | raised resources hlow =>
    refine iff_of_true ?_ ?_
    · have hvalid := haccepted resources hgiven
      obtain ⟨requested, hrequested⟩ := Option.isSome_iff_exists.1 hvalid.1.2
      have hbytes := hvalid.2.2.2
      rw [parseMemoryBytes_of_value hrequested] at hbytes
      have hnew := minMemoryBytes_le (totalNsBytes req)
      have hlt : ⌊requested⌋ < minMemoryGi (totalNsBytes req) * 1024 ^ 3 := by omega
      have hvalue := (Int.floor_lt.1 hlt).le
      rw [Fits]
      dsimp only
      rw [hrequested, memoryValue_newLimitMem]
      push_cast at hvalue
      exact hvalue
    · rintro _ hsome
      cases hsome
      exact Or.inr ⟨htotal, hlow⟩
  | default =>
    refine iff_of_true (by rw [Fits]) ?_
    rintro _ hsome
    cases hsome

/-- The CR of an accepted request covers its namespaces, fits and is built again exactly where the
limit is given and the request is. -/
theorem container_memory_iff (req : CreateK8sClusterRequest) (haccepted : req.Accepted) :
    MemorySized req ↔ LimitGiven req ∧ RequestGiven req := by
  obtain ⟨req', hsize, hagain, hspec⟩ := sizeMemory_ok haccepted
  have hbuild : buildCr req = .ok (crOf req', req') := by
    rw [buildCr, hsize]
    rfl
  have hrebuild : buildCr req' = .ok (crOf req', req') := by
    rw [buildCr, hagain]
    rfl
  have hmeets : MemorySized req ↔ LimitCovers (crOf req') ∧ RequestsFit (crOf req') := by
    constructor
    · rintro ⟨cr, after, hcr, hcovers, hfit, -⟩
      rw [hbuild] at hcr
      cases hcr
      exact ⟨hcovers, hfit⟩
    · rintro ⟨hcovers, hfit⟩
      exact ⟨_, _, hbuild, hcovers, hfit, hrebuild⟩
  rw [hmeets]
  rcases hspec with ⟨htotal, rfl⟩ | ⟨htotal, sized, rfl, hvalid, hsized⟩
  · rw [limitCovers_crOf, requestsFit_crOf haccepted, LimitGiven, RequestGiven]
    have hnot : ¬0 < totalNsBytes req' := by omega
    simp [hnot, Fits]
  · have hsame : emittedBytes { req with resources := some sized } = emittedBytes req := rfl
    rw [limitCovers_crOf, requestsFit_crOf, hsame, ← limitCovers_sized_iff haccepted htotal hsized,
      ← fits_sized_iff haccepted htotal hsized]
    · simp
    · rintro resources hsome
      cases hsome
      exact hvalid

/-- A cluster of one namespace of 1 GiB, with the resources of the model. -/
def oneNamespace : CreateK8sClusterRequest where
  name := "db"
  size := 1
  resources := some {}

theorem container_memory_oneNamespace : MemorySized oneNamespace := by
  have haccepted : oneNamespace.Accepted := by
    rintro _ hsome
    cases hsome
    decide +kernel
  refine (container_memory_iff oneNamespace haccepted).2 ⟨Or.inl ⟨by decide, ?_⟩, ?_⟩
  · simp [NoZero, oneNamespace]
  · rintro _ hsome
    cases hsome
    exact Or.inl (by decide +kernel)

/-- A second namespace asks for a data size of zero, and the pod may have 2 GiB. -/
def zeroDataSize : CreateK8sClusterRequest where
  name := "db"
  size := 1
  namespaces := [{}, { name := "cache", storageEngine := { dataSize := some 0 } }]
  resources := some { limits := { cpu := "2", memory := "2Gi" } }

/-- Two namespaces of 1 GiB are written, one is counted, and 2 GiB stay the limit. -/
theorem zeroDataSize_undersized : zeroDataSize.Accepted ∧ ¬MemorySized zeroDataSize := by
  have haccepted : zeroDataSize.Accepted := by
    rintro _ hsome
    cases hsome
    decide +kernel
  refine ⟨haccepted, ?_⟩
  have hkept : sizedResources (totalNsBytes zeroDataSize) zeroDataSize.resources =
      .ok zeroDataSize.resources :=
    sizedResources_kept (by decide +kernel)
  have hbuild : buildCr zeroDataSize = .ok (crOf zeroDataSize, zeroDataSize) := by
    rw [buildCr, sizeMemory, if_pos (by decide), hkept]
    rfl
  rintro ⟨cr, after, hcr, hcovers, -⟩
  rw [hbuild] at hcr
  cases hcr
  obtain ⟨resources, hsome, hcovers⟩ := limitCovers_crOf.1 hcovers
  rw [covers_iff (haccepted resources hsome).2.1.2] at hcovers
  cases hsome
  revert hcovers
  decide +kernel

end ClusterManager.K8s.Build
