import Mathlib.Algebra.Order.BigOperators.Group.List
import Mathlib.Algebra.Order.Ring.Int
import ClusterManager.K8s.Service

/-!
# The migration of partitions

The operator reports a migration at two places of a CR: as a whole under `status.migrationStatus`
and pod by pod under `status.pods`. `getMigrationStatus` answers from the first, or from the second
where the first is missing or empty.

A value that is absent has a default. A `null` has one at some of the places only: where it does
not, the answer is an error (`migration_status_iff`).
-/

namespace ClusterManager.K8s

/-! ### The endpoint -/

/-- What `+=` adds to a number. -/
def addend : Json → Except Exc ℤ
  | .num n => .ok n
  | .bool b => .ok (if b then 1 else 0)
  | _ => .error .typeError

/-- `PodMigrationStatus`. -/
structure PodMigrationStatus where
  podName : String
  migratingPartitions : ℤ
  deriving DecidableEq

/-- What `extract_migration_status` returns. -/
structure MigrationReport where
  inProgress : Json
  remainingPartitions : Json
  lastChecked : Json
  pods : List PodMigrationStatus

/-- One pod of the loop: the total so far and the pods listed so far. -/
def addPod (acc : ℤ × List PodMigrationStatus) (pod : String × Json) :
    Except Exc (ℤ × List PodMigrationStatus) :=
  match pod.2 with
  | .obj podInfo => do
      let migratingPartitions ←
        addend (((Dict.get? podInfo "migratingPartitions").getD (.num 0)).or (.num 0))
      return (acc.1 + migratingPartitions,
        if 0 < migratingPartitions then acc.2 ++ [⟨pod.1, migratingPartitions⟩] else acc.2)
  | _ => .ok acc

/-- The report once both sources are read. -/
def reportOf (migrationStatus inProgress remainingPartitions lastChecked phase : Json)
    (totalMigrating : ℤ) (podMigrationList : List PodMigrationStatus) : MigrationReport :=
  let inProgress := if migrationStatus.truthy then inProgress else .bool (0 < totalMigrating)
  let remainingPartitions :=
    if migrationStatus.truthy then remainingPartitions else .num totalMigrating
  let inProgress :=
    if eqText phase "WaitingForMigration" && !inProgress.truthy then .bool true else inProgress
  if inProgress.truthy then ⟨inProgress, remainingPartitions, lastChecked, podMigrationList⟩
  else ⟨inProgress, .num 0, lastChecked, []⟩

/-- `extract_migration_status`. -/
def extractMigrationStatus (clusterCr : Json) : Except Exc MigrationReport := do
  let status ← clusterCr.get "status" (.obj [])
  let migrationStatus := (← status.get "migrationStatus" (.obj [])).or (.obj [])
  let inProgress ← migrationStatus.get "inProgress" (.bool false)
  let remainingPartitions ← migrationStatus.get "remainingPartitions" (.num 0)
  let lastChecked ← migrationStatus.get "lastChecked"
  let podsStatus := (← status.get "pods" (.obj [])).or (.obj [])
  -- pods that are no dictionary are skipped: they have no fields
  let (totalMigrating, podMigrationList) ← podsStatus.fields.foldlM addPod (0, [])
  let phase ← status.get "phase" (.str "")
  return reportOf migrationStatus inProgress remainingPartitions lastChecked phase
    totalMigrating podMigrationList

/-- `MigrationStatusResponse`. -/
structure MigrationStatusResponse where
  inProgress : Bool
  remainingPartitions : ℤ
  lastChecked : Option String
  pods : List PodMigrationStatus
  deriving DecidableEq

/-- `MigrationStatusResponse(**report)`. -/
def MigrationReport.validate (report : MigrationReport) :
    Except Exc MigrationStatusResponse := do
  return {
    inProgress := ← asBool report.inProgress
    remainingPartitions := ← asInt report.remainingPartitions
    lastChecked := ← asOptionalStr report.lastChecked
    pods := report.pods }

/-- `get_migration_status`, once the caller may see the CR. -/
def getMigrationStatus (cr : Json) : Except Exc MigrationStatusResponse := do
  (← extractMigrationStatus cr).validate

/-! ### Well-formed CRs -/

/-- A value is a flag. -/
def IsFlag (value : Json) : Prop := ∃ b, value = .bool b

/-- A value is a number of things. -/
def IsCount (value : Json) : Prop := ∃ n : ℕ, value = .num n

/-- A value is a text. -/
def IsText (value : Json) : Prop := ∃ s, value = .str s

/-- What stands under a key of a value is absent, null or of the kind the field has. -/
def OptionalField (value : Json) (key : String) (kind : Json → Prop) : Prop :=
  ∀ v, Dict.get? value.fields key = some v → v = .null ∨ kind v

/-- A pod of the status is null or a dictionary, and so is its count. -/
def WellFormedPod (pod : Json) : Prop :=
  pod = .null ∨ pod.IsDict ∧ OptionalField pod "migratingPartitions" IsCount

/-- The fields the endpoint reads are each absent, null or well-formed. -/
structure WellFormedMigration (cr : Json) : Prop where
  root : cr.IsDict
  status : OptionalField cr "status" Json.IsDict
  migrationStatus : OptionalField (cr.under "status") "migrationStatus" Json.IsDict
  inProgress : OptionalField ((cr.under "status").under "migrationStatus") "inProgress" IsFlag
  remainingPartitions :
    OptionalField ((cr.under "status").under "migrationStatus") "remainingPartitions" IsCount
  lastChecked : OptionalField ((cr.under "status").under "migrationStatus") "lastChecked" IsText
  phase : OptionalField (cr.under "status") "phase" IsText
  pods : OptionalField (cr.under "status") "pods" Json.IsDict
  pod : ∀ entry ∈ ((cr.under "status").under "pods").fields, WellFormedPod entry.2

/-! ### The answer -/

/-- The operator waits for a migration. -/
def Waiting (cr : Json) : Prop :=
  (cr.under "status").under "phase" = .str "WaitingForMigration"

/-- No part the endpoint needs is an explicit `null`: not the status, not the flag unless the phase
stands in for it, not the count of a migration in progress. -/
structure Answerable (cr : Json) : Prop where
  status : Dict.get? cr.fields "status" ≠ some .null
  inProgress : Dict.get? ((cr.under "status").under "migrationStatus").fields "inProgress" =
    some .null → Waiting cr
  remainingPartitions :
    Dict.get? ((cr.under "status").under "migrationStatus").fields "remainingPartitions" =
      some .null →
    ((cr.under "status").under "migrationStatus").under "inProgress" ≠ .bool true ∧ ¬Waiting cr

/-- An answer is consistent: without a migration nothing remains and no pod is listed, and a count
inferred from the pods is that of the listed ones. -/
structure MigrationStatusResponse.Consistent (response : MigrationStatusResponse) (cr : Json) :
    Prop where
  idle : response.inProgress = false → response.remainingPartitions = 0 ∧ response.pods = []
  inferred : ((cr.under "status").under "migrationStatus").truthy = false →
    response.remainingPartitions = (response.pods.map (·.migratingPartitions)).sum

/-! ### The loop over the pods -/

/-- The partitions a well-formed pod is migrating. -/
def partitionsOf (pod : Json) : ℤ :=
  match Dict.get? pod.fields "migratingPartitions" with
  | some (.num n) => n
  | _ => 0

/-- The entry of a pod in the list, if it is migrating any partitions. -/
def listing (pod : String × Json) : Option PodMigrationStatus :=
  if 0 < partitionsOf pod.2 then some ⟨pod.1, partitionsOf pod.2⟩ else none

theorem partitionsOf_nonneg {pod : Json} (h : WellFormedPod pod) : 0 ≤ partitionsOf pod := by
  obtain rfl | ⟨-, h⟩ := h
  · exact le_rfl
  · unfold partitionsOf
    cases hget : Dict.get? pod.fields "migratingPartitions" with
    | none => exact le_rfl
    | some v =>
      obtain rfl | ⟨n, rfl⟩ := h v hget
      · exact le_rfl
      · exact Int.natCast_nonneg n

theorem addPod_ok {acc : ℤ × List PodMigrationStatus} {pod : String × Json}
    (h : WellFormedPod pod.2) :
    addPod acc pod = .ok (acc.1 + partitionsOf pod.2, acc.2 ++ (listing pod).toList) := by
  obtain ⟨name, pod⟩ := pod
  obtain rfl | ⟨⟨podInfo, rfl⟩, h⟩ := h
  · simp [addPod, listing, partitionsOf, Json.fields]
  · have hadd : addend (((Dict.get? podInfo "migratingPartitions").getD (.num 0)).or (.num 0)) =
        .ok (partitionsOf (.obj podInfo)) := by
      unfold partitionsOf
      rw [Json.fields]
      cases hget : Dict.get? podInfo "migratingPartitions" with
      | none => rfl
      | some v =>
        obtain rfl | ⟨n, rfl⟩ := h v hget
        · rfl
        · cases n <;> rfl
    simp only [addPod, hadd, ok_bind, listing]
    split <;> simp [pure, Except.pure]

/-- The loop adds up the counts and lists the pods that have one. -/
theorem foldlM_addPod {pods : List (String × Json)} {acc : ℤ × List PodMigrationStatus}
    (h : ∀ entry ∈ pods, WellFormedPod entry.2) :
    pods.foldlM addPod acc =
      .ok (acc.1 + (pods.map fun entry => partitionsOf entry.2).sum,
        acc.2 ++ pods.filterMap listing) := by
  induction pods generalizing acc with
  | nil => simp [pure, Except.pure]
  | cons pod pods ih =>
    rw [List.foldlM_cons, addPod_ok (h pod List.mem_cons_self), ok_bind,
      ih fun entry hentry => h entry (List.mem_cons_of_mem _ hentry)]
    rw [List.map_cons, List.sum_cons, List.filterMap_cons, Int.add_assoc, List.append_assoc]
    cases listing pod <;> rfl

/-- The pods that are left out of the list have nothing to migrate. -/
theorem sum_listed {pods : List (String × Json)} (h : ∀ entry ∈ pods, WellFormedPod entry.2) :
    ((pods.filterMap listing).map (·.migratingPartitions)).sum =
      (pods.map fun entry => partitionsOf entry.2).sum := by
  induction pods with
  | nil => rfl
  | cons pod pods ih =>
    have hnonneg := partitionsOf_nonneg (h pod List.mem_cons_self)
    rw [List.map_cons, List.sum_cons, List.filterMap_cons,
      ← ih fun entry hentry => h entry (List.mem_cons_of_mem _ hentry), listing]
    split
    case h_1 heq =>
      have hzero : partitionsOf pod.2 = 0 := by
        by_contra hne
        rw [if_pos (by omega)] at heq
        cases heq
      omega
    case h_2 b heq =>
      split at heq
      · cases heq
        rfl
      · cases heq

/-! ### Reading the CR -/

/-- A dictionary that is not null is read with its fields. -/
theorem get_of_optional {value : Json} {key : String} (hvalue : value.IsDict)
    (h : OptionalField value key Json.IsDict) (hne : Dict.get? value.fields key ≠ some .null) :
    value.get key (.obj []) = .ok (.obj (value.under key).fields) := by
  obtain ⟨fields, rfl⟩ := hvalue
  rw [Json.get_obj, Json.under]
  simp only [Json.fields] at hne ⊢
  cases hget : Dict.get? fields key with
  | none => rfl
  | some v =>
    obtain rfl | ⟨fields', rfl⟩ := h v hget
    · exact absurd hget hne
    · rfl

/-- `or {}` makes an empty dictionary of null. -/
theorem or_of_optional {value : Json} {key : String} (h : OptionalField value key Json.IsDict) :
    ((Dict.get? value.fields key).getD (.obj [])).or (.obj []) =
      .obj (value.under key).fields := by
  rw [Json.under]
  cases hget : Dict.get? value.fields key with
  | none => rfl
  | some v =>
    obtain rfl | ⟨fields, rfl⟩ := h v hget
    · rfl
    · cases fields <;> rfl

/-- What the endpoint reads of a well-formed CR. -/
theorem extractMigrationStatus_ok {cr : Json} (h : WellFormedMigration cr)
    (hstatus : Dict.get? cr.fields "status" ≠ some .null) :
    extractMigrationStatus cr = .ok (reportOf
      (.obj ((cr.under "status").under "migrationStatus").fields)
      ((Dict.get? ((cr.under "status").under "migrationStatus").fields "inProgress").getD
        (.bool false))
      ((Dict.get? ((cr.under "status").under "migrationStatus").fields
        "remainingPartitions").getD (.num 0))
      (((cr.under "status").under "migrationStatus").under "lastChecked")
      ((Dict.get? (cr.under "status").fields "phase").getD (.str ""))
      (((cr.under "status").under "pods").fields.map fun entry => partitionsOf entry.2).sum
      (((cr.under "status").under "pods").fields.filterMap listing)) := by
  rw [extractMigrationStatus, get_of_optional h.root h.status hstatus]
  simp only [ok_bind, Json.get_obj, or_of_optional h.migrationStatus, or_of_optional h.pods]
  rw [Json.fields, foldlM_addPod h.pod]
  simp only [ok_bind, Int.zero_add, List.nil_append]
  rfl

/-- A status that is `null` has no fields to read. -/
theorem extractMigrationStatus_null {cr : Json} (hcr : cr.IsDict)
    (hstatus : Dict.get? cr.fields "status" = some .null) :
    extractMigrationStatus cr = .error .typeError := by
  obtain ⟨fields, rfl⟩ := hcr
  rw [extractMigrationStatus, Json.get_obj]
  rw [Json.fields] at hstatus
  rw [hstatus]
  rfl

/-! ### What is answered -/

/-- The flag and the count are answered in their own types, or an error is. -/
theorem validate_eq_ok {report : MigrationReport} {response : MigrationStatusResponse} :
    report.validate = .ok response ↔
      asBool report.inProgress = .ok response.inProgress ∧
      asInt report.remainingPartitions = .ok response.remainingPartitions ∧
      asOptionalStr report.lastChecked = .ok response.lastChecked ∧
      report.pods = response.pods := by
  constructor
  · intro h
    obtain ⟨inProgress, hinProgress, h⟩ := exists_of_bind_ok h
    obtain ⟨remaining, hremaining, h⟩ := exists_of_bind_ok h
    obtain ⟨lastChecked, hlastChecked, h⟩ := exists_of_bind_ok h
    obtain rfl := Except.ok.inj h
    exact ⟨hinProgress, hremaining, hlastChecked, rfl⟩
  · rintro ⟨hinProgress, hremaining, hlastChecked, hpods⟩
    rw [MigrationReport.validate, hinProgress, hremaining, hlastChecked, hpods]
    rfl

theorem asOptionalStr_ok {value : Json} (h : value = .null ∨ IsText value) :
    ∃ text, asOptionalStr value = .ok text := by
  obtain rfl | ⟨s, rfl⟩ := h
  · exact ⟨none, rfl⟩
  · exact ⟨some s, rfl⟩

/-- A report is answered, consistently; where `inferred` holds the count is that of the pods. -/
def Answered (inferred : Prop) (report : MigrationReport) : Prop :=
  ∃ response, report.validate = .ok response ∧
    (response.inProgress = false → response.remainingPartitions = 0 ∧ response.pods = []) ∧
    (inferred → response.remainingPartitions = (response.pods.map (·.migratingPartitions)).sum)

section Answers

variable {inferred : Prop} {migrationStatus inProgress remainingPartitions lastChecked phase : Json}
  {b : Bool} {n : ℤ} {pods : List PodMigrationStatus}

/-- A report of a flag and a count is answered with them. -/
theorem answered_of_flag (h : lastChecked = .null ∨ IsText lastChecked)
    (hidle : b = false → n = 0 ∧ pods = [])
    (hsum : inferred → n = (pods.map (·.migratingPartitions)).sum) :
    Answered inferred ⟨.bool b, .num n, lastChecked, pods⟩ := by
  obtain ⟨text, htext⟩ := asOptionalStr_ok h
  exact ⟨⟨b, n, text, pods⟩, validate_eq_ok.2 ⟨rfl, rfl, htext, rfl⟩, hidle, hsum⟩

/-- Without a status of the migration as a whole the answer is inferred from the pods. -/
theorem answered_of_empty (hempty : migrationStatus.truthy = false)
    (h : lastChecked = .null ∨ IsText lastChecked) :
    Answered inferred (reportOf migrationStatus inProgress remainingPartitions lastChecked phase
      (pods.map (·.migratingPartitions)).sum pods) := by
  have hidle : Answered inferred ⟨.bool false, .num 0, lastChecked, []⟩ :=
    answered_of_flag h (fun _ => ⟨rfl, rfl⟩) fun _ => rfl
  have hbusy : Answered inferred
      ⟨.bool true, .num (pods.map (·.migratingPartitions)).sum, lastChecked, pods⟩ :=
    answered_of_flag h (fun hfalse => by cases hfalse) fun _ => rfl
  unfold reportOf
  rw [hempty]
  by_cases hpos : 0 < (pods.map (·.migratingPartitions)).sum
  · simpa [hpos, Json.truthy] using hbusy
  · cases hphase : eqText phase "WaitingForMigration" with
    | true => simpa [hpos, hphase, Json.truthy] using hbusy
    | false => simpa [hpos, hphase, Json.truthy] using hidle

/-- With one, a `null` flag needs the phase to stand in and a `null` count a migration that is not
in progress. -/
theorem answered_iff (hfull : migrationStatus.truthy = true) (hinferred : ¬inferred)
    (hflag : inProgress = .null ∨ IsFlag inProgress)
    (hcount : remainingPartitions = .null ∨ IsCount remainingPartitions)
    (h : lastChecked = .null ∨ IsText lastChecked) :
    Answered inferred (reportOf migrationStatus inProgress remainingPartitions lastChecked phase
      n pods) ↔
      (inProgress = .null → eqText phase "WaitingForMigration" = true) ∧
      (remainingPartitions = .null →
        inProgress ≠ .bool true ∧ eqText phase "WaitingForMigration" = false) := by
  have hidle : Answered inferred ⟨.bool false, .num 0, lastChecked, []⟩ :=
    answered_of_flag h (fun _ => ⟨rfl, rfl⟩) fun _ => rfl
  have hbusy (k : ℕ) : Answered inferred ⟨.bool true, .num k, lastChecked, pods⟩ :=
    answered_of_flag h (fun hfalse => by cases hfalse) fun h => absurd h hinferred
  -- neither a `null` flag nor a `null` count is accepted
  have hnoflag : ¬Answered inferred ⟨.null, .num 0, lastChecked, []⟩ := by
    rintro ⟨response, hok, -⟩
    cases (validate_eq_ok.1 hok).1
  have hnocount : ¬Answered inferred ⟨.bool true, .null, lastChecked, pods⟩ := by
    rintro ⟨response, hok, -⟩
    cases (validate_eq_ok.1 hok).2.1
  unfold reportOf
  rw [hfull]
  cases hphase : eqText phase "WaitingForMigration" with
  | true =>
    obtain rfl | ⟨flag, rfl⟩ := hflag <;> obtain rfl | ⟨k, rfl⟩ := hcount
    · simpa [Json.truthy] using hnocount
    · simpa [Json.truthy] using hbusy k
    · cases flag <;> simpa [Json.truthy] using hnocount
    · cases flag <;> simpa [Json.truthy] using hbusy k
  | false =>
    obtain rfl | ⟨flag, rfl⟩ := hflag
    · simpa [Json.truthy] using hnoflag
    · obtain rfl | ⟨k, rfl⟩ := hcount
      · cases flag
        · simpa [Json.truthy] using hidle
        · simpa [Json.truthy] using hnocount
      · cases flag
        · simpa [Json.truthy] using hidle
        · simpa [Json.truthy] using hbusy k

end Answers

/-! ### The law -/

/-- A field that has a default reads as one of its kind or as null. -/
theorem getD_of_optional {value default : Json} {key : String} {kind : Json → Prop}
    (h : OptionalField value key kind) (hdefault : kind default) :
    (Dict.get? value.fields key).getD default = .null ∨
      kind ((Dict.get? value.fields key).getD default) := by
  cases hget : Dict.get? value.fields key with
  | none => exact Or.inr hdefault
  | some v => exact h v hget

theorem under_of_optional {value : Json} {key : String} {kind : Json → Prop}
    (h : OptionalField value key kind) : value.under key = .null ∨ kind (value.under key) := by
  unfold Json.under
  cases hget : Dict.get? value.fields key with
  | none => exact Or.inl rfl
  | some v => exact h v hget

theorem isCount_zero : IsCount (.num 0) := ⟨0, rfl⟩

/-- Only an explicit null reads as null where there is another default. -/
theorem getD_eq_null_iff {o : Option Json} {default : Json} (hne : default ≠ .null) :
    o.getD default = .null ↔ o = some .null := by
  cases o with
  | none => exact iff_of_false hne (by simp)
  | some v => simp

theorem getD_flag_iff {value : Json} {key : String} :
    (Dict.get? value.fields key).getD (.bool false) = .bool true ↔
      value.under key = .bool true := by
  unfold Json.under
  cases Dict.get? value.fields key <;> simp

theorem eqText_phase {cr : Json} :
    eqText ((Dict.get? (cr.under "status").fields "phase").getD (.str ""))
      "WaitingForMigration" = true ↔ Waiting cr := by
  rw [eqText_iff, Waiting]
  change _ ↔ (Dict.get? (cr.under "status").fields "phase").getD .null = _
  cases Dict.get? (cr.under "status").fields "phase" <;> simp

/-- The endpoint answers consistently where the report of the CR is answered so. -/
theorem consistent_iff_answered {cr : Json} {report : MigrationReport}
    (h : extractMigrationStatus cr = .ok report) :
    (∃ response, getMigrationStatus cr = .ok response ∧ response.Consistent cr) ↔
      Answered (((cr.under "status").under "migrationStatus").truthy = false) report := by
  rw [getMigrationStatus, h, ok_bind]
  refine exists_congr fun response => and_congr_right fun _ => ?_
  exact ⟨fun hc => ⟨hc.idle, hc.inferred⟩, fun hc => ⟨hc.1, hc.2⟩⟩

/-- The endpoint answers a well-formed CR, and consistently, if and only if no part it needs is an
explicit null. -/
theorem migration_status_iff {cr : Json} (h : WellFormedMigration cr) :
    (∃ response, getMigrationStatus cr = .ok response ∧ response.Consistent cr) ↔
      Answerable cr := by
  by_cases hstatus : Dict.get? cr.fields "status" = some .null
  · refine iff_of_false ?_ fun ha => ha.status hstatus
    rintro ⟨response, hok, -⟩
    rw [getMigrationStatus, extractMigrationStatus_null h.root hstatus] at hok
    cases hok
  · have hlast := under_of_optional h.lastChecked
    have htruthy : (Json.obj ((cr.under "status").under "migrationStatus").fields).truthy =
        ((cr.under "status").under "migrationStatus").truthy := by
      obtain hnull | ⟨fields, hfields⟩ := under_of_optional h.migrationStatus
      · rw [hnull]
        rfl
      · rw [hfields, Json.fields]
    rw [consistent_iff_answered (extractMigrationStatus_ok h hstatus), ← sum_listed h.pod]
    cases hfull : ((cr.under "status").under "migrationStatus").truthy with
    | false =>
      refine iff_of_true (answered_of_empty (htruthy.trans hfull) hlast) ?_
      have hnone (key : String) :
          Dict.get? ((cr.under "status").under "migrationStatus").fields key = none := by
        obtain hnull | ⟨fields, hfields⟩ := under_of_optional h.migrationStatus
        · rw [hnull]
          rfl
        · rw [hfields] at hfull ⊢
          cases fields with
          | nil => rfl
          | cons field fields => cases hfull
      refine ⟨hstatus, fun hn => ?_, fun hn => ?_⟩
      · cases (hnone _).symm.trans hn
      · cases (hnone _).symm.trans hn
    | true =>
      have hinferred : ¬(true = false) := by decide
      rw [answered_iff (htruthy.trans hfull) hinferred
        (getD_of_optional h.inProgress ⟨false, rfl⟩)
        (getD_of_optional h.remainingPartitions isCount_zero) hlast, getD_eq_null_iff (by simp),
        getD_eq_null_iff (by simp), eqText_phase, Bool.eq_false_iff, ne_eq, ne_eq, eqText_phase,
        getD_flag_iff]
      exact ⟨fun ha => ⟨hstatus, ha.1, ha.2⟩, fun ha => ⟨ha.inProgress, ha.remainingPartitions⟩⟩

/-- A status that lists one pod, with what the operator writes of the migration as a whole. -/
def migratingCr (migrationStatus : Json) : Json :=
  .obj [("status", .obj [("migrationStatus", migrationStatus),
    ("pods", .obj [("aero-0", .obj [("migratingPartitions", .num 3)])])])]

theorem wellFormed_migratingCr {migrationStatus : Json}
    (h : migrationStatus = .null ∨ migrationStatus =
      .obj [("inProgress", .bool true), ("remainingPartitions", .null)]) :
    WellFormedMigration (migratingCr migrationStatus) := by
  have hpod : WellFormedPod (.obj [("migratingPartitions", .num 3)]) :=
    Or.inr ⟨⟨_, rfl⟩, fun v hv => by cases hv; exact Or.inr ⟨3, rfl⟩⟩
  refine ⟨⟨_, rfl⟩, fun v hv => ?_, fun v hv => ?_, ?_, ?_, ?_, fun v hv => ?_, fun v hv => ?_, ?_⟩
  · cases hv
    exact Or.inr ⟨_, rfl⟩
  · cases hv
    exact h.imp_right fun h => ⟨_, h⟩
  · rintro v hv
    obtain rfl | rfl := h <;> cases hv
    exact Or.inr ⟨true, rfl⟩
  · rintro v hv
    obtain rfl | rfl := h <;> cases hv
    exact Or.inl rfl
  · rintro v hv
    obtain rfl | rfl := h <;> cases hv
  · cases hv
  · cases hv
    exact Or.inr ⟨_, rfl⟩
  · rintro entry hentry
    cases List.mem_singleton.1 hentry
    exact hpod

/-- Where the operator writes `null` for the migration as a whole, the pods answer. -/
theorem migration_status_pods : ∃ response,
    getMigrationStatus (migratingCr .null) = .ok response ∧
      response.Consistent (migratingCr .null) :=
  (migration_status_iff (wellFormed_migratingCr (Or.inl rfl))).2
    ⟨fun h => (by cases h), fun h => (by cases h), fun h => (by cases h)⟩

/-- A migration in progress whose count is `null` is not answered. -/
theorem migration_status_null :
    WellFormedMigration
      (migratingCr (.obj [("inProgress", .bool true), ("remainingPartitions", .null)])) ∧
    ¬∃ response,
      getMigrationStatus (migratingCr
        (.obj [("inProgress", .bool true), ("remainingPartitions", .null)])) = .ok response ∧
      response.Consistent
        (migratingCr (.obj [("inProgress", .bool true), ("remainingPartitions", .null)])) := by
  refine ⟨wellFormed_migratingCr (Or.inr rfl), ?_⟩
  rintro ⟨response, hok, -⟩
  cases hok

end ClusterManager.K8s
