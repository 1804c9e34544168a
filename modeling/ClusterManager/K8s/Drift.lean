import Mathlib.Data.List.Dedup
import Mathlib.Data.List.MinMax
import ClusterManager.Json
import ClusterManager.Lib.Grouping
import ClusterManager.Text

/-!
# The drift of a configuration

`computeConfigDrift` compares the spec a CR asks for with the one the operator applied, key by key,
and groups the pods by the pair of hashes each reports. The pairs are joined to one text, which
tells them apart as long as no hash contains the separator (`drift_correct`).
-/

namespace ClusterManager

/-! ### Equality -/

namespace Json

mutual

/-- `value == other`: dictionaries are equal if they have the same entries, in any order, and
`True` is `1`. -/
def eq : Json → Json → Bool
  | null, null => true
  | bool a, bool b => a == b
  | bool a, num n => n == if a then 1 else 0
  | num n, bool b => n == if b then 1 else 0
  | num m, num n => m == n
  | str s, str t => s == t
  | arr items, arr others => eqItems items others
  | obj fields, obj others => fields.length == others.length && eqFields fields others
  | _, _ => false

/-- The items of two lists are equal, one by one. -/
def eqItems : List Json → List Json → Bool
  | [], [] => true
  | item :: items, other :: others => eq item other && eqItems items others
  | _, _ => false

/-- Each field is one of a dictionary. -/
def eqFields : List (String × Json) → Dict String Json → Bool
  | [], _ => true
  | (key, value) :: fields, others =>
      (match Dict.get? others key with
        | some other => eq value other
        | none => false) && eqFields fields others

end

end Json

namespace K8s

/-! ### The endpoint -/

/-- What the code leaves to the interpreter: the order a set is iterated in, and the text of a
value in an f-string. -/
structure Interpreter where
  setOrder : List String → List String
  format : Json → String
  setOrder_perm : ∀ l, (setOrder l).Perm l.dedup
  format_str : ∀ s, format (.str s) = s

/-- A group of pods that report the same hashes. -/
structure HashGroup where
  configHash : Json
  podSpecHash : Json
  pods : List String
  isCurrent : Bool

/-- What `compute_config_drift` returns. -/
structure ConfigDrift where
  hasDrift : Bool
  inSync : Bool
  changedFields : List String
  podHashGroups : List HashGroup
  desiredConfigHash : Option Json
  desiredConfig : Json
  appliedConfig : Json

/-- `value.items()`. -/
def dictItems : Json → Except Exc (Dict String Json)
  | .obj fields => .ok fields
  | _ => .error .typeError

/-- The comparison of one key of the two specs. -/
def differs (spec appliedSpec : Dict String Json) (key : String) : Bool :=
  if key = "aerospikeConfig" then
    !((Dict.get? spec key).getD (.obj [])).eq ((Dict.get? appliedSpec key).getD (.obj []))
  else !((Dict.get? spec key).getD .null).eq ((Dict.get? appliedSpec key).getD .null)

/-- The pods whose entry is a dictionary. -/
def podEntries (podsStatus : Dict String Json) : Dict String (Dict String Json) :=
  podsStatus.filterMap fun entry =>
    match entry.2 with
    | .obj podStatus => some (entry.1, podStatus)
    | _ => none

/-- A pod with the hashes it reports. -/
structure HashedPod where
  podName : String
  configHash : Json
  podSpecHash : Json

variable (py : Interpreter)

/-- The hashes of a pod, under the key of its group. -/
def hashed (entry : String × Dict String Json) : String × HashedPod :=
  let configHash := (Dict.get? entry.2 "configHash").getD (.str "")
  let podSpecHash := (Dict.get? entry.2 "podSpecHash").getD (.str "")
  (py.format configHash ++ "|" ++ py.format podSpecHash, ⟨entry.1, configHash, podSpecHash⟩)

/-- A pod joins its group, which it opens if it is the first. -/
def joinGroup (o : Option HashGroup) (pod : HashedPod) : HashGroup :=
  let group := o.getD ⟨pod.configHash, pod.podSpecHash, [], false⟩
  { group with pods := group.pods ++ [pod.podName] }

/-- `hash_groups`. -/
def hashGroups (podsStatus : Dict String Json) : Dict String HashGroup :=
  Dict.accumulate joinGroup [] ((podEntries podsStatus).map (hashed py))

/-- The first of the largest groups, with its key. -/
def maxGroup (groups : Dict String HashGroup) : Option (String × HashGroup) :=
  groups.argmax fun entry => entry.2.pods.length

/-- The most common group is marked as the current one. -/
def markCurrent (groups : Dict String HashGroup) : Dict String HashGroup :=
  match maxGroup groups with
  | some (maxGroupKey, _) => groups.map fun entry =>
      (entry.1, { entry.2 with isCurrent := entry.1 = maxGroupKey || entry.2.isCurrent })
  | none => groups

/-- `changed_fields`: the keys of the two specs whose values differ, if anything is applied. -/
def changedFields (spec appliedSpec : Json) : Except Exc (List String) :=
  if appliedSpec.truthy then do
    let spec ← dictItems spec
    let appliedSpec ← dictItems appliedSpec
    return (py.setOrder (spec.map Prod.fst ++ appliedSpec.map Prod.fst)).filter
      (differs spec appliedSpec)
  else .ok []

/-- `applied_config`. -/
def appliedConfig (appliedSpec : Json) : Except Exc Json :=
  if appliedSpec.truthy then appliedSpec.get "aerospikeConfig" else .ok .null

/-- `compute_config_drift`. -/
def computeConfigDrift (cr : Json) : Except Exc ConfigDrift := do
  let spec ← cr.get "spec" (.obj [])
  let status ← cr.get "status" (.obj [])
  let appliedSpec ← status.get "appliedSpec" (.obj [])
  let changedFields ← changedFields py spec appliedSpec
  let podsStatus ← dictItems (← status.get "pods" (.obj []))
  let groups := hashGroups py podsStatus
  let hasDrift := 0 < changedFields.length || 1 < groups.length
  let desiredConfig ← spec.get "aerospikeConfig"
  let appliedConfig ← appliedConfig appliedSpec
  return {
    hasDrift
    inSync := !hasDrift
    changedFields
    podHashGroups := (markCurrent groups).map Prod.snd
    desiredConfigHash := (maxGroup groups).map (·.2.configHash)
    desiredConfig
    appliedConfig }

/-! ### What is asked of the answer -/

/-- The hash a pod reports under a key; a missing one counts as empty. -/
def hashText (podStatus : Dict String Json) (key : String) : String :=
  match Dict.get? podStatus key with
  | some (.str hash) => hash
  | _ => ""

/-- A hash is a text without the separator, or missing. -/
def HashOk (podStatus : Dict String Json) (key : String) : Prop :=
  ∀ v, Dict.get? podStatus key = some v → ∃ hash : String, v = .str hash ∧ '|' ∉ hash.toList

/-- The value of a key of a spec: a missing one counts as null, and for the configuration as
empty. -/
def specValue (spec : Dict String Json) (key : String) : Json :=
  (Dict.get? spec key).getD (if key = "aerospikeConfig" then .obj [] else .null)

/-- What stands under a key is a dictionary, or nothing does. -/
def AbsentOrDict (value : Json) (key : String) : Prop :=
  ∀ v, Dict.get? value.fields key = some v → v.IsDict

/-- The parts of a CR the endpoint reads are dictionaries, as far as they are there. -/
structure DriftShape (cr : Json) : Prop where
  root : cr.IsDict
  spec : AbsentOrDict cr "spec"
  status : AbsentOrDict cr "status"
  appliedSpec : AbsentOrDict (cr.under "status") "appliedSpec"
  pods : AbsentOrDict (cr.under "status") "pods"
  podNames : (((cr.under "status").under "pods").fields.map Prod.fst).Nodup
  hashes : ∀ entry ∈ podEntries ((cr.under "status").under "pods").fields,
    HashOk entry.2 "configHash" ∧ HashOk entry.2 "podSpecHash"

/-- The drift of two specs and the pods of a status: the groups are a partition of the pods by
their pair of hashes with one current group of maximal size, and the changed fields are those that
differ. -/
structure ConfigDrift.Correct (drift : ConfigDrift)
    (spec appliedSpec podsStatus : Dict String Json) : Prop where
  members : (drift.podHashGroups.flatMap (·.pods)).Perm ((podEntries podsStatus).map Prod.fst)
  one_group : ∀ pod ∈ podEntries podsStatus,
    ∃ group, drift.podHashGroups.filter (pod.1 ∈ ·.pods) = [group]
  shared : ∀ pod ∈ podEntries podsStatus, ∀ other ∈ podEntries podsStatus,
    (∃ group ∈ drift.podHashGroups, pod.1 ∈ group.pods ∧ other.1 ∈ group.pods) ↔
      hashText pod.2 "configHash" = hashText other.2 "configHash" ∧
      hashText pod.2 "podSpecHash" = hashText other.2 "podSpecHash"
  current : podEntries podsStatus ≠ [] →
    ∃ group, drift.podHashGroups.filter (·.isCurrent) = [group] ∧
      ∀ other ∈ drift.podHashGroups, other.pods.length ≤ group.pods.length
  changed : ∀ key, key ∈ drift.changedFields ↔ appliedSpec ≠ [] ∧
    (key ∈ spec.map Prod.fst ∨ key ∈ appliedSpec.map Prod.fst) ∧
      (specValue spec key).eq (specValue appliedSpec key) = false
  changed_once : drift.changedFields.Nodup
  drifted : drift.hasDrift = true ↔ drift.changedFields ≠ [] ∨ 1 < drift.podHashGroups.length

/-! ### The groups -/

section Groups

variable {py} {podsStatus : Dict String Json} {key : String} {group : HashGroup}

theorem joinGroup_none (pod : HashedPod) :
    joinGroup none pod = ⟨pod.configHash, pod.podSpecHash, [pod.podName], false⟩ := rfl

theorem joinGroup_some (pod : HashedPod) :
    joinGroup (some group) pod = { group with pods := group.pods ++ [pod.podName] } := rfl

theorem foldl_joinGroup (pods : List HashedPod) (group : HashGroup) :
    pods.foldl (fun o pod => some (joinGroup o pod)) (some group) =
      some { group with pods := group.pods ++ pods.map (·.podName) } := by
  induction pods generalizing group with
  | nil => simp
  | cons pod pods ih => simp [ih, joinGroup_some]

/-- A group has the hashes of its first pod and lists the pods of its key. -/
theorem get?_hashGroups : (hashGroups py podsStatus).get? key =
    (Dict.valuesAt ((podEntries podsStatus).map (hashed py)) key).head?.map fun pod =>
      ⟨pod.configHash, pod.podSpecHash,
        (Dict.valuesAt ((podEntries podsStatus).map (hashed py)) key).map (·.podName), false⟩ := by
  rw [hashGroups, Dict.get?_accumulate]
  cases Dict.valuesAt ((podEntries podsStatus).map (hashed py)) key with
  | nil => rfl
  | cons pod pods => simp [foldl_joinGroup, joinGroup_none]

theorem nodup_hashGroups : ((hashGroups py podsStatus).map Prod.fst).Nodup :=
  Dict.nodup_keys_accumulate List.nodup_nil

theorem nodup_podEntries (h : (podsStatus.map Prod.fst).Nodup) :
    ((podEntries podsStatus).map Prod.fst).Nodup := by
  refine h.sublist ?_
  clear h
  induction podsStatus with
  | nil => exact List.Sublist.refl _
  | cons entry podsStatus ih =>
    obtain ⟨name, podStatus⟩ := entry
    cases podStatus with
    | obj podStatus => exact ih.cons_cons name
    | _ => exact ih.cons name

/-- A pod is in the group of its key, and in no other. -/
theorem mem_pods_iff (h : (key, group) ∈ hashGroups py podsStatus) {name : String} :
    name ∈ group.pods ↔
      ∃ entry ∈ podEntries podsStatus, entry.1 = name ∧ (hashed py entry).1 = key := by
  have hget := Dict.get?_of_mem nodup_hashGroups h
  rw [get?_hashGroups, Option.map_eq_some_iff] at hget
  obtain ⟨first, -, rfl⟩ := hget
  simp only [List.mem_map, Dict.mem_valuesAt]
  constructor
  · rintro ⟨pod, ⟨entry, hentry, heq⟩, rfl⟩
    exact ⟨entry, hentry, congrArg (fun p => p.2.podName) heq, congrArg Prod.fst heq⟩
  · rintro ⟨entry, hentry, rfl, rfl⟩
    exact ⟨(hashed py entry).2, ⟨entry, hentry, rfl⟩, rfl⟩

theorem isCurrent_hashGroups (h : (key, group) ∈ hashGroups py podsStatus) :
    group.isCurrent = false := by
  have hget := Dict.get?_of_mem nodup_hashGroups h
  rw [get?_hashGroups, Option.map_eq_some_iff] at hget
  obtain ⟨first, -, rfl⟩ := hget
  rfl

/-- Each pod has a group. -/
theorem exists_group (py : Interpreter) {entry : String × Dict String Json}
    (h : entry ∈ podEntries podsStatus) :
    ∃ group, ((hashed py entry).1, group) ∈ hashGroups py podsStatus := by
  have hkey : (hashed py entry).1 ∈ (hashGroups py podsStatus).map Prod.fst :=
    Dict.mem_keys_accumulate.2 (Or.inr (List.mem_map_of_mem (List.mem_map_of_mem h)))
  obtain ⟨group, hget⟩ := Dict.mem_keys_iff.1 hkey
  exact ⟨group, Dict.mem_of_get?_eq_some hget⟩

/-- The groups together list the pods. -/
theorem members_hashGroups : ((hashGroups py podsStatus).flatMap fun e => e.2.pods).Perm
    ((podEntries podsStatus).map Prod.fst) := by
  have hjoin (o : Option HashGroup) (pod : HashedPod) :
      HashGroup.pods (joinGroup o pod) = o.elim [] HashGroup.pods ++ [HashedPod.podName pod] := by
    cases o <;> rfl
  have hperm : ((hashGroups py podsStatus).flatMap fun e => e.2.pods).Perm
      ([] ++ ((podEntries podsStatus).map (hashed py)).map fun p => p.2.podName) :=
    Dict.flatMap_accumulate hjoin
  rw [List.nil_append, List.map_map] at hperm
  exact hperm

/-! ### The current group -/

/-- A group with its mark. -/
def marked (maxGroupKey : String) (entry : String × HashGroup) : HashGroup :=
  { entry.2 with isCurrent := entry.1 = maxGroupKey || entry.2.isCurrent }

/-- The groups are marked by the key of one of the largest. -/
theorem markCurrent_eq {groups : Dict String HashGroup} (hne : groups ≠ []) :
    ∃ largest ∈ groups, (markCurrent groups).map Prod.snd = groups.map (marked largest.1) ∧
      ∀ entry ∈ groups, entry.2.pods.length ≤ largest.2.pods.length := by
  unfold markCurrent
  cases hmax : maxGroup groups with
  | none => exact absurd (List.argmax_eq_none.1 hmax) hne
  | some largest =>
    have hle (entry : String × HashGroup) (hentry : entry ∈ groups) :
        entry.2.pods.length ≤ largest.2.pods.length :=
      List.le_of_mem_argmax (f := fun e : String × HashGroup => e.2.pods.length) hentry hmax
    refine ⟨largest, List.argmax_mem hmax, ?_, hle⟩
    rw [List.map_map]
    rfl

/-- Marking changes no list of pods. -/
theorem markCurrent_pods (groups : Dict String HashGroup) :
    ((markCurrent groups).map Prod.snd).map (·.pods) = groups.map fun e => e.2.pods := by
  unfold markCurrent
  cases maxGroup groups with
  | none => rw [List.map_map]; rfl
  | some largest => rw [List.map_map, List.map_map]; rfl

/-- What is said of the pods of a group is not changed by marking. -/
theorem exists_markCurrent {groups : Dict String HashGroup} {p : List String → Prop} :
    (∃ group ∈ (markCurrent groups).map Prod.snd, p group.pods) ↔
      ∃ entry ∈ groups, p entry.2.pods := by
  have hpods := markCurrent_pods groups
  constructor
  · rintro ⟨group, hgroup, hp⟩
    have hmem : group.pods ∈ groups.map fun e => e.2.pods := by
      rw [← hpods]
      exact List.mem_map_of_mem hgroup
    obtain ⟨entry, hentry, heq⟩ := List.mem_map.1 hmem
    exact ⟨entry, hentry, by rwa [heq]⟩
  · rintro ⟨entry, hentry, hp⟩
    have hmem : entry.2.pods ∈ ((markCurrent groups).map Prod.snd).map (·.pods) := by
      rw [hpods]
      exact List.mem_map_of_mem hentry
    obtain ⟨group, hgroup, heq⟩ := List.mem_map.1 hmem
    exact ⟨group, hgroup, by rwa [heq]⟩

/-- Exactly the group of the marked key is current. -/
theorem filter_marked {groups : Dict String HashGroup} {largest : String × HashGroup}
    (hnodup : (groups.map Prod.fst).Nodup) (hmem : largest ∈ groups)
    (hfalse : ∀ entry ∈ groups, entry.2.isCurrent = false) :
    (groups.map (marked largest.1)).filter (·.isCurrent) =
      [{ largest.2 with isCurrent := true }] := by
  have hcurrent : groups.filter ((·.isCurrent) ∘ marked largest.1) =
      groups.filter (·.1 = largest.1) := by
    refine List.filter_congr fun entry hentry => ?_
    simp [marked, hfalse entry hentry]
  have hvalues : (groups.filter (·.1 = largest.1)).map (·.2) = [largest.2] := by
    have hvalues := Dict.valuesAt_of_nodup hnodup (k := largest.1)
    rw [Dict.get?_of_mem hnodup hmem] at hvalues
    exact hvalues
  rw [List.filter_map, hcurrent]
  calc (groups.filter (·.1 = largest.1)).map (marked largest.1)
      = (groups.filter (·.1 = largest.1)).map
          ((fun group => { group with isCurrent := true }) ∘ Prod.snd) := by
        refine List.map_congr_left fun entry hentry => ?_
        have hkey := of_decide_eq_true (List.mem_filter.1 hentry).2
        simp [marked, hkey]
    _ = [{ largest.2 with isCurrent := true }] := by
        rw [← List.map_map, hvalues, List.map_singleton]

end Groups

/-! ### The keys of the groups -/

/-- Texts joined by a separator that the first does not contain can be told apart. -/
theorem join_injective {a b c d : String} (ha : '|' ∉ a.toList) (hc : '|' ∉ c.toList)
    (h : a ++ "|" ++ b = c ++ "|" ++ d) : a = c ∧ b = d := by
  have hlists : a.toList ++ '|' :: b.toList = c.toList ++ '|' :: d.toList := by
    simpa using congrArg String.toList h
  have hparts := congrArg (Str.partition '|') hlists
  rw [Str.partition_append ha, Str.partition_append hc] at hparts
  simpa [String.toList_inj] using hparts

/-- The key of a pod's group joins its two hashes. -/
theorem hashed_fst {py : Interpreter} {entry : String × Dict String Json}
    (hconfig : HashOk entry.2 "configHash") (hpodSpec : HashOk entry.2 "podSpecHash") :
    (hashed py entry).1 =
      hashText entry.2 "configHash" ++ "|" ++ hashText entry.2 "podSpecHash" := by
  have hformat {key : String} (h : HashOk entry.2 key) :
      py.format ((Dict.get? entry.2 key).getD (.str "")) = hashText entry.2 key := by
    unfold hashText
    cases hget : Dict.get? entry.2 key with
    | none => exact py.format_str ""
    | some v =>
      obtain ⟨hash, rfl, -⟩ := h v hget
      exact py.format_str hash
  rw [hashed, hformat hconfig, hformat hpodSpec]

theorem separator_not_mem {podStatus : Dict String Json} {key : String} (h : HashOk podStatus key) :
    '|' ∉ (hashText podStatus key).toList := by
  unfold hashText
  cases hget : Dict.get? podStatus key with
  | none => simp
  | some v =>
    obtain ⟨hash, rfl, hnot⟩ := h v hget
    exact hnot

/-- Two pods are in one group if and only if both their hashes are the same. -/
theorem shared_iff {py : Interpreter} {podsStatus : Dict String Json}
    {pod other : String × Dict String Json}
    (hnodup : ((podEntries podsStatus).map Prod.fst).Nodup) (hpod : pod ∈ podEntries podsStatus)
    (hother : other ∈ podEntries podsStatus)
    (hpodHashes : HashOk pod.2 "configHash" ∧ HashOk pod.2 "podSpecHash")
    (hotherHashes : HashOk other.2 "configHash" ∧ HashOk other.2 "podSpecHash") :
    (∃ entry ∈ hashGroups py podsStatus, pod.1 ∈ entry.2.pods ∧ other.1 ∈ entry.2.pods) ↔
      hashText pod.2 "configHash" = hashText other.2 "configHash" ∧
      hashText pod.2 "podSpecHash" = hashText other.2 "podSpecHash" := by
  have hkeys : (∃ entry ∈ hashGroups py podsStatus,
      pod.1 ∈ entry.2.pods ∧ other.1 ∈ entry.2.pods) ↔
      (hashed py pod).1 = (hashed py other).1 := by
    constructor
    · rintro ⟨⟨key, group⟩, hgroup, hin, hin'⟩
      obtain ⟨entry, hentry, hname, rfl⟩ := (mem_pods_iff hgroup).1 hin
      obtain ⟨entry', hentry', hname', heq⟩ := (mem_pods_iff hgroup).1 hin'
      cases List.inj_on_of_nodup_map hnodup hentry hpod hname
      cases List.inj_on_of_nodup_map hnodup hentry' hother hname'
      exact heq.symm
    · intro heq
      obtain ⟨group, hgroup⟩ := exists_group py hpod
      refine ⟨_, hgroup, ?_, ?_⟩
      · exact (mem_pods_iff hgroup).2 ⟨pod, hpod, rfl, rfl⟩
      · exact (mem_pods_iff hgroup).2 ⟨other, hother, rfl, heq.symm⟩
  rw [hkeys, hashed_fst hpodHashes.1 hpodHashes.2, hashed_fst hotherHashes.1 hotherHashes.2]
  constructor
  · exact join_injective (separator_not_mem hpodHashes.1) (separator_not_mem hotherHashes.1)
  · rintro ⟨hconfig, hpodSpec⟩
    rw [hconfig, hpodSpec]

/-! ### The law -/

theorem get_of_absentOrDict {value : Json} {key : String} (hvalue : value.IsDict)
    (h : AbsentOrDict value key) :
    value.get key (.obj []) = .ok (.obj (value.under key).fields) := by
  obtain ⟨fields, rfl⟩ := hvalue
  rw [Json.get_obj, Json.under, Json.fields]
  cases hget : Dict.get? fields key with
  | none => rfl
  | some v =>
    obtain ⟨fields', rfl⟩ := h v hget
    rfl

theorem differs_iff {spec appliedSpec : Dict String Json} {key : String} :
    differs spec appliedSpec key = true ↔
      (specValue spec key).eq (specValue appliedSpec key) = false := by
  unfold differs specValue
  split <;> rw [Bool.not_eq_true']

/-- The changed fields are the keys whose values differ, each once. -/
theorem changedFields_ok (py : Interpreter) (spec appliedSpec : Dict String Json) :
    ∃ changed, changedFields py (.obj spec) (.obj appliedSpec) = .ok changed ∧ changed.Nodup ∧
      ∀ key, key ∈ changed ↔ appliedSpec ≠ [] ∧
        (key ∈ spec.map Prod.fst ∨ key ∈ appliedSpec.map Prod.fst) ∧
        (specValue spec key).eq (specValue appliedSpec key) = false := by
  by_cases happlied : appliedSpec = []
  · subst happlied
    exact ⟨[], rfl, List.nodup_nil, fun key => by simp⟩
  · have htruthy : (Json.obj appliedSpec).truthy = true := by simpa [Json.truthy] using happlied
    have hperm := py.setOrder_perm (spec.map Prod.fst ++ appliedSpec.map Prod.fst)
    refine ⟨_, by rw [changedFields, if_pos htruthy]; rfl, ?_, fun key => ?_⟩
    · exact (hperm.nodup_iff.2 (List.nodup_dedup _)).filter _
    · rw [List.mem_filter, hperm.mem_iff, List.mem_dedup, List.mem_append, differs_iff,
        and_iff_right (a := appliedSpec ≠ []) happlied]

/-- The answer for a CR of the right shape. -/
theorem computeConfigDrift_ok (py : Interpreter) {cr : Json} (h : DriftShape cr) :
    ∃ drift changed, computeConfigDrift py cr = .ok drift ∧
      changedFields py (.obj (cr.under "spec").fields)
        (.obj ((cr.under "status").under "appliedSpec").fields) = .ok changed ∧
      drift.changedFields = changed ∧
      drift.hasDrift = (0 < changed.length ||
        1 < (hashGroups py ((cr.under "status").under "pods").fields).length) ∧
      drift.podHashGroups =
        (markCurrent (hashGroups py ((cr.under "status").under "pods").fields)).map Prod.snd := by
  obtain ⟨changed, hchanged, -⟩ := changedFields_ok py (cr.under "spec").fields
    ((cr.under "status").under "appliedSpec").fields
  have happlied : (Json.obj (cr.under "status").fields).get "appliedSpec" (.obj []) =
      .ok (.obj ((cr.under "status").under "appliedSpec").fields) :=
    get_of_absentOrDict ⟨_, rfl⟩ h.appliedSpec
  have hpods : (Json.obj (cr.under "status").fields).get "pods" (.obj []) =
      .ok (.obj ((cr.under "status").under "pods").fields) :=
    get_of_absentOrDict ⟨_, rfl⟩ h.pods
  have hconfig : ∃ config,
      appliedConfig (.obj ((cr.under "status").under "appliedSpec").fields) = .ok config := by
    unfold appliedConfig
    split
    · exact ⟨_, rfl⟩
    · exact ⟨_, rfl⟩
  obtain ⟨config, hconfig⟩ := hconfig
  rw [computeConfigDrift, get_of_absentOrDict h.root h.spec, get_of_absentOrDict h.root h.status]
  simp only [ok_bind, happlied, hpods, hchanged, dictItems, hconfig]
  exact ⟨_, changed, rfl, rfl, rfl, rfl, rfl⟩

/-- The groups of an answer that lists what is grouped. -/
theorem correct_of_ok {py : Interpreter} {drift : ConfigDrift}
    {spec appliedSpec podsStatus : Dict String Json} {changed : List String}
    (hnames : (podsStatus.map Prod.fst).Nodup)
    (hhashes : ∀ entry ∈ podEntries podsStatus,
      HashOk entry.2 "configHash" ∧ HashOk entry.2 "podSpecHash")
    (hchanged : changedFields py (.obj spec) (.obj appliedSpec) = .ok changed)
    (hfields : drift.changedFields = changed)
    (hdrift : drift.hasDrift = (0 < changed.length || 1 < (hashGroups py podsStatus).length))
    (hgroups : drift.podHashGroups = (markCurrent (hashGroups py podsStatus)).map Prod.snd) :
    drift.Correct spec appliedSpec podsStatus := by
  have hnodup : ((podEntries podsStatus).map Prod.fst).Nodup :=
    nodup_podEntries hnames
  have hmembers : (drift.podHashGroups.flatMap (·.pods)).Perm
      ((podEntries podsStatus).map Prod.fst) := by
    rw [hgroups, List.flatMap_def, markCurrent_pods, ← List.flatMap_def]
    exact members_hashGroups
  have hlength : drift.podHashGroups.length = (hashGroups py podsStatus).length := by
    have hpods := congrArg List.length (markCurrent_pods (hashGroups py podsStatus))
    rw [hgroups]
    simpa using hpods
  obtain ⟨changed', hchanged', hnodup', hmem⟩ := changedFields_ok py spec appliedSpec
  cases hchanged.symm.trans hchanged'
  refine ⟨hmembers, fun pod hpod => ?_, fun pod hpod other hother => ?_, fun hne => ?_, ?_, ?_, ?_⟩
  · exact Dict.exists_filter_mem_eq (hmembers.nodup_iff.2 hnodup)
      (hmembers.mem_iff.2 (List.mem_map_of_mem hpod))
  · rw [← shared_iff hnodup hpod hother (hhashes pod hpod) (hhashes other hother), hgroups]
    exact exists_markCurrent (p := fun pods => pod.1 ∈ pods ∧ other.1 ∈ pods)
  · obtain ⟨entry, hentry⟩ := List.exists_mem_of_ne_nil _ hne
    obtain ⟨group, hgroup⟩ := exists_group py hentry
    obtain ⟨largest, hlargest, hmarked, hle⟩ := markCurrent_eq (List.ne_nil_of_mem hgroup)
    refine ⟨{ largest.2 with isCurrent := true }, ?_, ?_⟩
    · rw [hgroups, hmarked]
      exact filter_marked nodup_hashGroups hlargest fun entry hentry =>
        isCurrent_hashGroups hentry
    · rw [hgroups, hmarked]
      rintro other hother
      obtain ⟨entry, hentry, rfl⟩ := List.mem_map.1 hother
      exact hle entry hentry
  · rw [hfields]
    exact hmem
  · rw [hfields]
    exact hnodup'
  · rw [hdrift, hfields, hlength, Bool.or_eq_true, decide_eq_true_iff, decide_eq_true_iff,
      List.length_pos_iff]

/-- The endpoint answers a CR of the right shape, and its groups, changed fields and flag are
correct. -/
theorem drift_correct (py : Interpreter) {cr : Json} (h : DriftShape cr) :
    ∃ drift, computeConfigDrift py cr = .ok drift ∧
      drift.Correct (cr.under "spec").fields ((cr.under "status").under "appliedSpec").fields
        ((cr.under "status").under "pods").fields := by
  obtain ⟨drift, changed, hok, hchanged, hfields, hdrift, hgroups⟩ :=
    computeConfigDrift_ok py h
  exact ⟨drift, hok, correct_of_ok h.podNames h.hashes hchanged hfields hdrift hgroups⟩

/-- An interpreter that iterates a set in the order its items came last. -/
def plainInterpreter : Interpreter where
  setOrder := List.dedup
  format
    | .str s => s
    | _ => ""
  setOrder_perm _ := List.Perm.refl _
  format_str _ := rfl

/-- A cluster whose second pod still has the hashes of the old configuration. -/
def rollingCr : Json :=
  .obj [("spec", .obj [("size", .num 3)]),
    ("status", .obj [("appliedSpec", .obj [("size", .num 2)]),
      ("pods", .obj [
        ("aero-0", .obj [("configHash", .str "c2"), ("podSpecHash", .str "p1")]),
        ("aero-1", .obj [("configHash", .str "c1"), ("podSpecHash", .str "p1")])])])]

theorem driftShape_rollingCr : DriftShape rollingCr := by
  refine ⟨⟨_, rfl⟩, fun v hv => ?_, fun v hv => ?_, fun v hv => ?_, fun v hv => ?_, ?_, ?_⟩
  · cases hv
    exact ⟨_, rfl⟩
  · cases hv
    exact ⟨_, rfl⟩
  · cases hv
    exact ⟨_, rfl⟩
  · cases hv
    exact ⟨_, rfl⟩
  · decide
  · have hpods : podEntries ((rollingCr.under "status").under "pods").fields =
        [("aero-0", [("configHash", .str "c2"), ("podSpecHash", .str "p1")]),
         ("aero-1", [("configHash", .str "c1"), ("podSpecHash", .str "p1")])] := rfl
    rw [hpods]
    rintro entry hentry
    obtain rfl | hentry := List.mem_cons.1 hentry
    · exact ⟨fun v hv => ⟨"c2", (Option.some.inj hv).symm, by decide⟩,
        fun v hv => ⟨"p1", (Option.some.inj hv).symm, by decide⟩⟩
    · cases List.mem_singleton.1 hentry
      exact ⟨fun v hv => ⟨"c1", (Option.some.inj hv).symm, by decide⟩,
        fun v hv => ⟨"p1", (Option.some.inj hv).symm, by decide⟩⟩

/-- The drift of a cluster in the middle of a rolling restart. -/
theorem drift_correct_rolling : ∃ drift,
    computeConfigDrift plainInterpreter rollingCr = .ok drift ∧
      drift.Correct (rollingCr.under "spec").fields
        ((rollingCr.under "status").under "appliedSpec").fields
        ((rollingCr.under "status").under "pods").fields :=
  drift_correct plainInterpreter driftShape_rollingCr

end K8s

end ClusterManager
