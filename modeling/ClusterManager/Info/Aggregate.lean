import ClusterManager.Info.Parser
import ClusterManager.Lib.Grouping

/-!
# Answers of several nodes

`info_all` asks every node, and `aggregate_node_kv` and `aggregate_set_records` make one answer of
theirs. Both are loops that keep one accumulator for each key or set (`kvOfNodes_eq`,
`setsOfNodes_eq`), so that what they give can be read off the answers, in whatever order the nodes
gave them (`aggregation_order_independent`).
-/

namespace ClusterManager.Info

open Str Numerals

/-- A row of `info_all`: a node, its error code and its response. -/
structure InfoAllRow where
  name : Str
  err : Option ℤ
  resp : Str
  deriving DecidableEq

/-- `if err:`, which the code `0` does not meet. -/
def InfoAllRow.failed (row : InfoAllRow) : Bool := row.err.any (· ≠ 0)

/-- The rows of the nodes that did not fail. -/
def answers (results : List InfoAllRow) : List InfoAllRow := results.filter (!·.failed)

/-! ### Key-value pairs -/

/-- The dictionaries of `aggregate_node_kv`. -/
structure KvState where
  merged : Dict Str Str
  sumAccum : Dict Str ℤ
  minAccum : Dict Str ℤ

variable (keysToSum keysToMin : List Str)

/-- One pair of a node. -/
def KvState.put (s : KvState) (p : Str × Str) : KvState :=
  let k := p.1
  let s :=
    if !keysToSum.contains k && !keysToMin.contains k && (s.merged.get? k).isNone then
      { s with merged := s.merged.set k p.2 }
    else s
  if keysToSum.contains k then
    { s with sumAccum := s.sumAccum.set k ((s.sumAccum.get? k).getD 0 + safeInt (some p.2) 0) }
  else if keysToMin.contains k then
    let cur := safeInt (some p.2) 0
    { s with minAccum := s.minAccum.set k (min ((s.minAccum.get? k).getD cur) cur) }
  else s

/-- The loop over the nodes. -/
def kvOfNodes (results : List InfoAllRow) : KvState :=
  results.foldl
    (fun s row =>
      if row.failed then s
      else (parseKvPairs row.resp ';').foldl (KvState.put keysToSum keysToMin) s)
    ⟨[], [], []⟩

/-- `merged[k] = str(n)`. `none` is a `ValueError`. -/
def putPrinted (merged : Dict Str Str) (p : Str × ℤ) : Option (Dict Str Str) :=
  (printInt p.2).map (merged.set p.1)

/-- `aggregate_node_kv`. `none` is a `ValueError`. -/
def aggregateNodeKv (results : List InfoAllRow) : Option (Dict Str Str) :=
  let s := kvOfNodes keysToSum keysToMin results
  (s.sumAccum.foldlM putPrinted s.merged).bind fun merged => s.minAccum.foldlM putPrinted merged

/-! ### Sets -/

/-- The entry of a set in `set_data`. -/
structure SetData where
  objects : ℤ
  tombstones : ℤ
  memoryDataBytes : ℤ
  stopWritesCount : ℤ
  nodeCount : ℕ

/-- A record of `aggregate_set_records`. -/
structure SetRecord where
  name : Str
  objects : ℤ
  tombstones : ℤ
  memoryDataBytes : ℤ
  stopWritesCount : ℤ
  nodeCount : ℕ
  deriving DecidableEq

/-- `rec.get(key, rec.get(other, default))`. -/
def getEither (rec : Dict Str Str) (key other : String) : Option Str :=
  (rec.get? key.toList).or (rec.get? other.toList)

/-- The name of the set a record is about. -/
def setName (rec : Dict Str Str) : Str := (getEither rec "set" "set_name").getD []

/-- `safe_int(rec.get(key))`. -/
def counter (key : String) (rec : Dict Str Str) : ℤ := safeInt (rec.get? key.toList) 0

/-- The stop-writes limit in a record. -/
def stopWrites (rec : Dict Str Str) : ℤ :=
  safeInt (getEither rec "stop-writes-count" "stop_writes_count") 0

/-- One record of a node enters the entry of its set. -/
def SetData.join (entry : Option SetData) (rec : Dict Str Str) : SetData :=
  let entry := entry.getD ⟨0, 0, 0, 0, 0⟩
  { objects := entry.objects + counter "objects" rec
    tombstones := entry.tombstones + counter "tombstones" rec
    memoryDataBytes := entry.memoryDataBytes + counter "memory_data_bytes" rec
    stopWritesCount := max entry.stopWritesCount (stopWrites rec)
    nodeCount := entry.nodeCount + 1 }

/-- One record of a node. -/
def putRecord (setData : Dict Str SetData) (rec : Dict Str Str) : Dict Str SetData :=
  let name := setName rec
  if name = [] then setData else setData.set name (SetData.join (setData.get? name) rec)

/-- The loop over the nodes: the entries of the sets and `responding_nodes`. -/
def setsOfNodes (results : List InfoAllRow) : Dict Str SetData × ℕ :=
  results.foldl
    (fun s row =>
      if row.failed then s
      else ((parseRecords row.resp ';' ':').foldl putRecord s.1, s.2 + 1))
    ([], 0)

/-- `effective_rf` for a number of nodes. -/
def effectiveRf (replicationFactor : ℤ) (nodes : ℕ) : ℤ :=
  if 0 < nodes then min replicationFactor nodes else 1

/-- `a // b`. `none` is a `ZeroDivisionError`. -/
def floorDiv (a b : ℤ) : Option ℤ := if b = 0 then none else some (a.fdiv b)

/-- `n // rf if rf > 0 else n`. -/
def perReplica (rf n : ℤ) : Option ℤ := if 0 < rf then floorDiv n rf else some n

/-- The record of a set. -/
def SetData.record (rf : ℤ) (entry : Str × SetData) : Option SetRecord :=
  (perReplica rf entry.2.objects).bind fun objects =>
    (perReplica rf entry.2.tombstones).map fun tombstones =>
      { name := entry.1
        objects
        tombstones
        memoryDataBytes := entry.2.memoryDataBytes
        stopWritesCount := entry.2.stopWritesCount
        nodeCount := entry.2.nodeCount }

/-- `aggregate_set_records`. `none` is a `ZeroDivisionError`. -/
def aggregateSetRecords (results : List InfoAllRow) (replicationFactor : ℤ) :
    Option (List SetRecord) :=
  let s := setsOfNodes results
  s.1.mapM (SetData.record (effectiveRf replicationFactor s.2))

/-! ### The loops as groups -/

/-- The pairs of the nodes that did not fail. -/
def reportedPairs (results : List InfoAllRow) : List (Str × Str) :=
  (answers results).flatMap fun row => parseKvPairs row.resp ';'

/-- The values the nodes give a key. -/
def reportedValues (results : List InfoAllRow) (k : Str) : List Str :=
  Dict.valuesAt (reportedPairs results) k

/-- The records of the nodes that did not fail. -/
def reportedRecords (results : List InfoAllRow) : List (Dict Str Str) :=
  (answers results).flatMap fun row => parseRecords row.resp ';' ':'

/-- The records about a set. -/
def recordsOf (results : List InfoAllRow) (name : Str) : List (Dict Str Str) :=
  (reportedRecords results).filter (setName · = name)

variable {keysToSum keysToMin} {results results' : List InfoAllRow}

/-- A loop that skips the nodes that failed is a loop over the answers. -/
theorem foldl_answers {σ α : Type} (read : InfoAllRow → List α) (step : σ → α → σ) (s : σ) :
    results.foldl (fun s row => if row.failed then s else (read row).foldl step s) s =
      ((answers results).flatMap read).foldl step s := by
  induction results generalizing s with
  | nil => rfl
  | cons row results ih =>
    rw [List.foldl_cons, ih]
    cases h : row.failed with
    | true => simp [answers, h]
    | false => simp [answers, h, List.foldl_append]

/-- A pair passes through: its key is neither summed nor minimised. -/
def passes (keysToSum keysToMin : List Str) (k : Str) : Bool :=
  !keysToSum.contains k && !keysToMin.contains k

/-- A key is minimised. -/
def isLeast (keysToSum keysToMin : List Str) (k : Str) : Bool :=
  !keysToSum.contains k && keysToMin.contains k

/-- A pair with its number. -/
def numbered (p : Str × Str) : Str × ℤ := (p.1, safeInt (some p.2) 0)

/-- One pair joins one of three groups. -/
theorem put_eq (s : KvState) (p : Str × Str) : s.put keysToSum keysToMin p =
    { merged := if passes keysToSum keysToMin p.1 then Dict.join Dict.keep s.merged p
        else s.merged
      sumAccum := if keysToSum.contains p.1 then Dict.join Dict.add s.sumAccum (numbered p)
        else s.sumAccum
      minAccum := if isLeast keysToSum keysToMin p.1 then
          Dict.join Dict.least s.minAccum (numbered p)
        else s.minAccum } := by
  rw [Dict.join_keep]
  unfold KvState.put passes isLeast
  by_cases hs : p.1 ∈ keysToSum
  · simp [hs, Dict.join, Dict.add, numbered]
  · by_cases hm : p.1 ∈ keysToMin
    · simp [hs, hm, Dict.join, Dict.least, numbered]
    · cases hk : s.merged.get? p.1 with
      | none => simp [hs, hm, hk]
      | some v => simp [hs, hm, hk]

/-- The pairs fall into three groups. -/
theorem foldl_put (pairs : List (Str × Str)) (s : KvState) :
    pairs.foldl (KvState.put keysToSum keysToMin) s =
      { merged := Dict.accumulate Dict.keep s.merged
          (pairs.filter (passes keysToSum keysToMin ·.1))
        sumAccum := Dict.accumulate Dict.add s.sumAccum
          ((pairs.filter (keysToSum.contains ·.1)).map numbered)
        minAccum := Dict.accumulate Dict.least s.minAccum
          ((pairs.filter (isLeast keysToSum keysToMin ·.1)).map numbered) } := by
  induction pairs generalizing s with
  | nil => rfl
  | cons p pairs ih =>
    rw [List.foldl_cons, ih, put_eq, List.filter_cons, List.filter_cons, List.filter_cons]
    congr 1
    · cases passes keysToSum keysToMin p.1 <;> rfl
    · cases keysToSum.contains p.1 <;> rfl
    · cases isLeast keysToSum keysToMin p.1 <;> rfl

/-- The loop over the nodes keeps the first value, the sum and the least value of each key. -/
theorem kvOfNodes_eq (results : List InfoAllRow) : kvOfNodes keysToSum keysToMin results =
    { merged := Dict.accumulate Dict.keep []
        ((reportedPairs results).filter (passes keysToSum keysToMin ·.1))
      sumAccum := Dict.accumulate Dict.add []
        (((reportedPairs results).filter (keysToSum.contains ·.1)).map numbered)
      minAccum := Dict.accumulate Dict.least []
        (((reportedPairs results).filter (isLeast keysToSum keysToMin ·.1)).map numbered) } := by
  unfold kvOfNodes
  rw [foldl_answers (fun row => parseKvPairs row.resp ';')]
  exact foldl_put _ _

/-- The numbers the nodes give a key. -/
def reportedNumbers (results : List InfoAllRow) (k : Str) : List ℤ :=
  (reportedValues results k).map fun v => safeInt (some v) 0

/-- What a group holds are the values of its key. -/
theorem valuesAt_filter (pairs : List (Str × Str)) (q : Str → Bool) (k : Str) :
    Dict.valuesAt (pairs.filter (q ·.1)) k = if q k then Dict.valuesAt pairs k else [] := by
  unfold Dict.valuesAt
  rw [List.filter_filter]
  split
  next h =>
    congr 1
    refine List.filter_congr fun p _ => ?_
    by_cases hp : p.1 = k
    · simp [hp, h]
    · simp [hp]
  next h =>
    rw [List.map_eq_nil_iff, List.filter_eq_nil_iff]
    intro p _ hp
    simp only [Bool.and_eq_true, decide_eq_true_eq] at hp
    exact h (hp.1 ▸ hp.2)

theorem valuesAt_numbered (pairs : List (Str × Str)) (k : Str) :
    Dict.valuesAt (pairs.map numbered) k =
      (Dict.valuesAt pairs k).map fun v => safeInt (some v) 0 := by
  unfold Dict.valuesAt
  rw [List.filter_map, List.map_map, List.map_map]
  rfl

variable (results) (k : Str)

theorem get?_merged : (kvOfNodes keysToSum keysToMin results).merged.get? k =
    if passes keysToSum keysToMin k then (reportedValues results k).head? else none := by
  rw [kvOfNodes_eq, Dict.get?_accumulate_keep, valuesAt_filter]
  split <;> rfl

theorem get?_sumAccum : (kvOfNodes keysToSum keysToMin results).sumAccum.get? k =
    if k ∈ keysToSum ∧ reportedValues results k ≠ [] then
      some (reportedNumbers results k).sum else none := by
  rw [kvOfNodes_eq, Dict.get?_accumulate_add, valuesAt_numbered, valuesAt_filter,
    ← reportedValues]
  by_cases hk : k ∈ keysToSum
  · by_cases hv : reportedValues results k = []
    · simp [hk, hv]
    · simp [hk, hv, reportedNumbers]
  · simp [hk]

theorem get?_minAccum : (kvOfNodes keysToSum keysToMin results).minAccum.get? k =
    if isLeast keysToSum keysToMin k then (reportedNumbers results k).min? else none := by
  rw [kvOfNodes_eq, Dict.get?_accumulate_least, valuesAt_numbered, valuesAt_filter]
  split <;> rfl

variable {results} {k}

theorem nodup_sumAccum :
    ((kvOfNodes keysToSum keysToMin results).sumAccum.map Prod.fst).Nodup := by
  rw [kvOfNodes_eq]
  exact Dict.nodup_keys_accumulate List.nodup_nil

theorem nodup_minAccum :
    ((kvOfNodes keysToSum keysToMin results).minAccum.map Prod.fst).Nodup := by
  rw [kvOfNodes_eq]
  exact Dict.nodup_keys_accumulate List.nodup_nil

/-! ### What is printed -/

/-- Printing succeeds on numbers of few digits, and enters their texts. -/
theorem foldlM_putPrinted {entries : Dict Str ℤ} {base merged : Dict Str Str} :
    entries.foldlM putPrinted base = some merged ↔
      (∀ p ∈ entries, printInt p.2 ≠ none) ∧
        merged = Dict.accumulate (fun _ n => intText n) base entries := by
  induction entries generalizing base with
  | nil => simp [eq_comm]
  | cons p entries ih =>
    rw [List.foldlM_cons, putPrinted]
    cases h : printInt p.2 with
    | none => simp [h]
    | some text =>
      have htext : text = intText p.2 := by
        unfold printInt at h
        split at h
        · cases h
        · exact (Option.some.inj h).symm
      simp [h, ih, htext, Dict.join]

theorem get?_printed {entries : Dict Str ℤ} (h : (entries.map Prod.fst).Nodup)
    (base : Dict Str Str) :
    (Dict.accumulate (fun _ n => intText n) base entries).get? k =
      ((entries.get? k).map intText).or (base.get? k) := by
  rw [Dict.get?_accumulate, Dict.valuesAt_of_nodup h]
  cases entries.get? k <;> rfl

/-- A number that a node gives can be printed. -/
theorem printInt_safeInt (v : Str) : printInt (safeInt (some v) 0) ≠ none := by
  rw [safeInt, Option.bind_some]
  cases h : parseInt v with
  | none => decide
  | some n => simp [printInt_of_parseInt h]

/-- A least number can be printed. -/
theorem printInt_least {p : Str × ℤ}
    (h : p ∈ (kvOfNodes keysToSum keysToMin results).minAccum) : printInt p.2 ≠ none := by
  have hp := (Dict.mem_iff_get? nodup_minAccum).1 h
  rw [get?_minAccum] at hp
  split at hp
  · obtain ⟨v, -, hv⟩ := List.mem_map.1 (List.min?_mem hp)
    rw [← hv]
    exact printInt_safeInt v
  · cases hp

/-- The answers are aggregated unless a sum has too many digits. -/
theorem aggregateNodeKv_eq_none : aggregateNodeKv keysToSum keysToMin results = none ↔
    ∃ k ∈ keysToSum, printInt (reportedNumbers results k).sum = none := by
  constructor
  · intro h
    by_contra hall
    push Not at hall
    have hsums : ∀ p ∈ (kvOfNodes keysToSum keysToMin results).sumAccum,
        printInt p.2 ≠ none := by
      intro p hp
      have hget := (Dict.mem_iff_get? nodup_sumAccum).1 hp
      rw [get?_sumAccum] at hget
      split at hget
      · rename_i hk
        rw [← Option.some.inj hget]
        exact hall p.1 hk.1
      · cases hget
    refine absurd h ?_
    rw [aggregateNodeKv, foldlM_putPrinted.2 ⟨hsums, rfl⟩, Option.bind_some,
      foldlM_putPrinted.2 ⟨fun p hp => printInt_least hp, rfl⟩]
    exact Option.some_ne_none _
  · rintro ⟨k, hk, hprint⟩
    refine Option.eq_none_iff_forall_ne_some.2 fun merged h => ?_
    obtain ⟨merged₁, h₁, -⟩ := Option.bind_eq_some_iff.1 h
    have hv : reportedValues results k ≠ [] := by
      intro hv
      rw [reportedNumbers, hv] at hprint
      exact absurd hprint (by decide)
    have hget : (kvOfNodes keysToSum keysToMin results).sumAccum.get? k =
        some (reportedNumbers results k).sum := by
      rw [get?_sumAccum, if_pos ⟨hk, hv⟩]
    exact (foldlM_putPrinted.1 h₁).1 _ (Dict.mem_of_get?_eq_some hget) hprint

/-- A key is looked up among the least values, the sums and the first values. -/
theorem get?_of_aggregateNodeKv {merged : Dict Str Str}
    (h : aggregateNodeKv keysToSum keysToMin results = some merged) : merged.get? k =
      (((kvOfNodes keysToSum keysToMin results).minAccum.get? k).map intText).or
        ((((kvOfNodes keysToSum keysToMin results).sumAccum.get? k).map intText).or
          ((kvOfNodes keysToSum keysToMin results).merged.get? k)) := by
  obtain ⟨merged₁, h₁, h₂⟩ := Option.bind_eq_some_iff.1 h
  obtain ⟨-, rfl⟩ := foldlM_putPrinted.1 h₁
  obtain ⟨-, rfl⟩ := foldlM_putPrinted.1 h₂
  rw [get?_printed nodup_minAccum, get?_printed nodup_sumAccum]

/-- The value under each key, where the answers are aggregated. -/
theorem get?_aggregateNodeKv {merged : Dict Str Str}
    (h : aggregateNodeKv keysToSum keysToMin results = some merged) : merged.get? k =
      if k ∈ keysToSum then
        if reportedValues results k = [] then none
        else some (intText (reportedNumbers results k).sum)
      else if k ∈ keysToMin then (reportedNumbers results k).min?.map intText
      else (reportedValues results k).head? := by
  rw [get?_of_aggregateNodeKv h, get?_minAccum, get?_sumAccum, get?_merged]
  by_cases hs : k ∈ keysToSum
  · by_cases hv : reportedValues results k = []
    · simp [hs, hv, isLeast, passes]
    · simp [hs, hv, isLeast, passes]
  · by_cases hm : k ∈ keysToMin
    · simp [hs, hm, isLeast, passes]
    · simp [hs, hm, isLeast, passes]

/-! ### The records of a set -/

/-- A record with the name of its set. -/
def named (rec : Dict Str Str) : Str × Dict Str Str := (setName rec, rec)

/-- One record joins the group of its set. -/
theorem putRecord_eq (setData : Dict Str SetData) (rec : Dict Str Str) : putRecord setData rec =
    if setName rec = [] then setData else Dict.join SetData.join setData (named rec) := rfl

/-- The records fall into groups, those without a set into none. -/
theorem foldl_putRecord (recs : List (Dict Str Str)) (setData : Dict Str SetData) :
    recs.foldl putRecord setData =
      Dict.accumulate SetData.join setData ((recs.filter (setName · ≠ [])).map named) := by
  induction recs generalizing setData with
  | nil => rfl
  | cons rec recs ih =>
    rw [List.foldl_cons, ih, putRecord_eq]
    by_cases h : setName rec = []
    · simp [h]
    · simp [h]

/-- The loop over the nodes groups the records and counts the answers. -/
theorem setsOfNodes_eq (results : List InfoAllRow) : setsOfNodes results =
    (Dict.accumulate SetData.join []
        (((reportedRecords results).filter (setName · ≠ [])).map named),
      (answers results).length) := by
  have h : ∀ s : Dict Str SetData × ℕ,
      results.foldl (fun s row => if row.failed then s
        else ((parseRecords row.resp ';' ':').foldl putRecord s.1, s.2 + 1)) s =
      ((reportedRecords results).foldl putRecord s.1, s.2 + (answers results).length) := by
    induction results with
    | nil => exact fun s => rfl
    | cons row results ih =>
      intro s
      rw [List.foldl_cons, ih]
      cases hrow : row.failed with
      | true => simp [reportedRecords, answers, hrow]
      | false =>
        simp only [reportedRecords, answers, hrow, Bool.false_eq_true, if_false, Bool.not_false,
          List.filter_cons_of_pos, List.flatMap_cons, List.foldl_append, List.length_cons]
        congr 1
        omega
  rw [setsOfNodes, h, foldl_putRecord, Nat.zero_add]

/-- What the records of a set add up to. -/
def SetData.total (recs : List (Dict Str Str)) : SetData where
  objects := (recs.map (counter "objects")).sum
  tombstones := (recs.map (counter "tombstones")).sum
  memoryDataBytes := (recs.map (counter "memory_data_bytes")).sum
  stopWritesCount := (recs.map stopWrites).foldl max 0
  nodeCount := recs.length

theorem foldl_join (recs : List (Dict Str Str)) (entry : SetData) :
    recs.foldl (fun o rec => some (SetData.join o rec)) (some entry) =
      some
        { objects := entry.objects + (SetData.total recs).objects
          tombstones := entry.tombstones + (SetData.total recs).tombstones
          memoryDataBytes := entry.memoryDataBytes + (SetData.total recs).memoryDataBytes
          stopWritesCount := (recs.map stopWrites).foldl max entry.stopWritesCount
          nodeCount := entry.nodeCount + recs.length } := by
  induction recs generalizing entry with
  | nil => simp [SetData.total]
  | cons rec recs ih =>
    rw [List.foldl_cons, ih]
    simp only [SetData.join, SetData.total, Option.getD_some, List.map_cons, List.sum_cons,
      List.foldl_cons, List.length_cons, Option.some.injEq, SetData.mk.injEq, true_and]
    omega

/-- The records of a set add up, if it has any. -/
theorem foldl_join_none {recs : List (Dict Str Str)} (h : recs ≠ []) :
    recs.foldl (fun o rec => some (SetData.join o rec)) none = some (SetData.total recs) := by
  cases recs with
  | nil => exact absurd rfl h
  | cons rec recs =>
    rw [List.foldl_cons, foldl_join]
    simp only [SetData.join, SetData.total, Option.getD_none, List.map_cons, List.sum_cons,
      List.foldl_cons, List.length_cons, Option.some.injEq, SetData.mk.injEq, true_and]
    omega

/-- The records of a set join its entry in any order. -/
theorem commutes_join : Dict.Commutes SetData.join := by
  intro o a b
  simp only [SetData.join, Option.getD_some, SetData.mk.injEq, and_true]
  omega

theorem valuesAt_named {name : Str} (hname : name ≠ []) (recs : List (Dict Str Str)) :
    Dict.valuesAt ((recs.filter (setName · ≠ [])).map named) name =
      recs.filter (setName · = name) := by
  unfold Dict.valuesAt
  rw [List.filter_map, List.map_map, List.filter_filter]
  refine (List.map_id _).trans (List.filter_congr fun rec _ => ?_)
  by_cases h : setName rec = name
  · simp [named, h, hname]
  · simp [named, h]

/-- The entry of a set is what its records add up to. -/
theorem get?_setsOfNodes {name : Str} : (setsOfNodes results).1.get? name =
    if name = [] ∨ recordsOf results name = [] then none
    else some (SetData.total (recordsOf results name)) := by
  rw [setsOfNodes_eq, Dict.get?_accumulate]
  by_cases hname : name = []
  · have hnil : Dict.valuesAt (((reportedRecords results).filter (setName · ≠ [])).map named)
        name = [] := by
      rw [Dict.valuesAt_eq_nil, hname]
      intro h
      obtain ⟨p, hp, hp'⟩ := List.mem_map.1 h
      obtain ⟨rec, hrec, rfl⟩ := List.mem_map.1 hp
      exact absurd hp' (by simpa [named] using (List.mem_filter.1 hrec).2)
    rw [hnil, if_pos (Or.inl hname)]
    rfl
  · rw [valuesAt_named hname, ← recordsOf]
    by_cases hrecs : recordsOf results name = []
    · simp [hrecs]
    · rw [if_neg (not_or.2 ⟨hname, hrecs⟩)]
      exact foldl_join_none hrecs

theorem nodup_setsOfNodes : ((setsOfNodes results).1.map Prod.fst).Nodup := by
  rw [setsOfNodes_eq]
  exact Dict.nodup_keys_accumulate List.nodup_nil

/-- A count for each replica: the floor of the quotient where the factor is positive. -/
def share (rf n : ℤ) : ℤ := if 0 < rf then n / rf else n

/-- A factor that is divided by is not zero. -/
theorem perReplica_eq (rf n : ℤ) : perReplica rf n = some (share rf n) := by
  unfold perReplica share floorDiv
  split
  next h => rw [if_neg (by omega), Int.fdiv_eq_ediv_of_nonneg _ (by omega)]
  next => rfl

/-- The record of an entry. -/
def SetRecord.of (rf : ℤ) (entry : Str × SetData) : SetRecord where
  name := entry.1
  objects := share rf entry.2.objects
  tombstones := share rf entry.2.tombstones
  memoryDataBytes := entry.2.memoryDataBytes
  stopWritesCount := entry.2.stopWritesCount
  nodeCount := entry.2.nodeCount

/-- The aggregation of sets never divides by zero. -/
theorem aggregateSetRecords_eq (results : List InfoAllRow) (replicationFactor : ℤ) :
    aggregateSetRecords results replicationFactor =
      some ((setsOfNodes results).1.map
        (SetRecord.of (effectiveRf replicationFactor (answers results).length))) := by
  have hcount : (setsOfNodes results).2 = (answers results).length := by rw [setsOfNodes_eq]
  have hrecord (rf : ℤ) : SetData.record rf = fun entry => pure (SetRecord.of rf entry) := by
    funext entry
    rw [SetData.record, perReplica_eq, perReplica_eq]
    rfl
  unfold aggregateSetRecords
  simp only [hcount, hrecord, List.mapM_pure]
  rfl

/-! ### Order -/

theorem answers_perm (h : results.Perm results') : (answers results).Perm (answers results') :=
  h.filter _

theorem answers_answers (results : List InfoAllRow) :
    answers (answers results) = answers results := by
  simp [answers]

theorem reportedPairs_perm (h : results.Perm results') :
    (reportedPairs results).Perm (reportedPairs results') :=
  (answers_perm h).flatMap_right _

/-- The sum of the numbers of a key does not depend on the order of the nodes. -/
theorem sum_reportedNumbers_perm (h : results.Perm results') :
    (reportedNumbers results k).sum = (reportedNumbers results' k).sum :=
  ((Dict.valuesAt_perm (reportedPairs_perm h)).map _).sum_eq

theorem reportedRecords_perm (h : results.Perm results') :
    (reportedRecords results).Perm (reportedRecords results') :=
  (answers_perm h).flatMap_right _

/-- The entries of the sets do not depend on the order of the nodes. -/
theorem setsOfNodes_perm (h : results.Perm results') :
    (setsOfNodes results).1.Perm (setsOfNodes results').1 := by
  rw [setsOfNodes_eq, setsOfNodes_eq]
  exact Dict.accumulate_perm commutes_join List.nodup_nil
    (((reportedRecords_perm h).filter _).map _)

/-- The sums and the least values do not depend on the order of the nodes. -/
theorem kvOfNodes_perm (h : results.Perm results') :
    (kvOfNodes keysToSum keysToMin results).sumAccum.get? k =
        (kvOfNodes keysToSum keysToMin results').sumAccum.get? k ∧
      (kvOfNodes keysToSum keysToMin results).minAccum.get? k =
        (kvOfNodes keysToSum keysToMin results').minAccum.get? k := by
  rw [kvOfNodes_eq, kvOfNodes_eq]
  exact ⟨Dict.get?_accumulate_perm Dict.commutes_add
      (((reportedPairs_perm h).filter _).map _),
    Dict.get?_accumulate_perm Dict.commutes_least
      (((reportedPairs_perm h).filter _).map _)⟩

/-- Two merged answers have the same keys, the same sums and the same minima. -/
structure SameTotals (keysToSum keysToMin : List Str) (merged merged' : Dict Str Str) : Prop where
  keys : ∀ k, k ∈ merged.map Prod.fst ↔ k ∈ merged'.map Prod.fst
  totals : ∀ k, k ∈ keysToSum ∨ k ∈ keysToMin → merged.get? k = merged'.get? k

/-- A merged answer says what the nodes that did not fail say together. -/
structure MergesAnswers (keysToSum keysToMin : List Str) (results : List InfoAllRow)
    (merged : Dict Str Str) : Prop where
  keys : ∀ k, k ∈ merged.map Prod.fst ↔
    ∃ row ∈ results, row.failed = false ∧ k ∈ (parseKvPairs row.resp ';').map Prod.fst
  sums : ∀ k ∈ keysToSum, k ∈ merged.map Prod.fst →
    merged.get? k = some (intText (reportedNumbers results k).sum)
  minima : ∀ k ∈ keysToMin, k ∉ keysToSum →
    merged.get? k = (reportedNumbers results k).min?.map intText
  passed : ∀ k v, k ∉ keysToSum → k ∉ keysToMin → merged.get? k = some v →
    ∃ row ∈ results, row.failed = false ∧ (parseKvPairs row.resp ';').get? k = some v

/-- Set records say what the nodes that did not fail say together. -/
structure CountsSets (replicationFactor : ℤ) (results : List InfoAllRow)
    (records : List SetRecord) : Prop where
  unique : (records.map (·.name)).Nodup
  names : ∀ name, name ∈ records.map (·.name) ↔ name ≠ [] ∧
    ∃ row ∈ results, row.failed = false ∧
      ∃ rec ∈ parseRecords row.resp ';' ':', setName rec = name
  counts : ∀ s ∈ records,
    s = SetRecord.of (effectiveRf replicationFactor (answers results).length)
      (s.name, SetData.total (recordsOf results s.name))

theorem mem_answers {row : InfoAllRow} :
    row ∈ answers results ↔ row ∈ results ∧ row.failed = false := by
  simp [answers]

theorem mem_reportedValues {v : Str} : v ∈ reportedValues results k ↔
    ∃ row ∈ results, row.failed = false ∧ (parseKvPairs row.resp ';').get? k = some v := by
  rw [reportedValues, Dict.mem_valuesAt, reportedPairs, List.mem_flatMap]
  constructor
  · rintro ⟨row, hrow, h⟩
    obtain ⟨hrow, hok⟩ := mem_answers.1 hrow
    exact ⟨row, hrow, hok, (Dict.mem_iff_get? (nodup_keys_parseKvPairs _ _)).1 h⟩
  · rintro ⟨row, hrow, hok, h⟩
    exact ⟨row, mem_answers.2 ⟨hrow, hok⟩, Dict.mem_of_get?_eq_some h⟩

theorem reportedValues_ne_nil : reportedValues results k ≠ [] ↔
    ∃ row ∈ results, row.failed = false ∧ k ∈ (parseKvPairs row.resp ';').map Prod.fst := by
  constructor
  · intro hne
    obtain ⟨v, hv⟩ := List.exists_mem_of_ne_nil _ hne
    obtain ⟨row, hrow, hok, hget⟩ := mem_reportedValues.1 hv
    exact ⟨row, hrow, hok, Dict.mem_keys_iff.2 ⟨v, hget⟩⟩
  · rintro ⟨row, hrow, hok, hkey⟩
    obtain ⟨v, hv⟩ := Dict.mem_keys_iff.1 hkey
    exact List.ne_nil_of_mem (mem_reportedValues.2 ⟨row, hrow, hok, hv⟩)

/-- The keys of a merged answer are those the nodes give a value. -/
theorem mem_keys_aggregateNodeKv {merged : Dict Str Str}
    (h : aggregateNodeKv keysToSum keysToMin results = some merged) :
    k ∈ merged.map Prod.fst ↔ reportedValues results k ≠ [] := by
  rw [Dict.mem_keys_iff, get?_aggregateNodeKv h]
  by_cases hv : reportedValues results k = []
  · simp [hv, reportedNumbers]
  · have hn : reportedNumbers results k ≠ [] := by simpa [reportedNumbers] using hv
    obtain ⟨m, hm⟩ := Option.ne_none_iff_exists'.1 (mt List.min?_eq_none_iff.1 hn)
    obtain ⟨v, rest, hvalues⟩ := List.exists_cons_of_ne_nil hv
    split
    · simp [hv]
    · split
      · simp [hv, hm]
      · simp [hvalues]

theorem mergesAnswers {merged : Dict Str Str}
    (h : aggregateNodeKv keysToSum keysToMin results = some merged) :
    MergesAnswers keysToSum keysToMin results merged where
  keys k := (mem_keys_aggregateNodeKv h).trans reportedValues_ne_nil
  sums k hk hmem := by
    rw [get?_aggregateNodeKv h, if_pos hk, if_neg ((mem_keys_aggregateNodeKv h).1 hmem)]
  minima k hk hs := by rw [get?_aggregateNodeKv h, if_neg hs, if_pos hk]
  passed k v hs hm hv := by
    rw [get?_aggregateNodeKv h, if_neg hs, if_neg hm] at hv
    exact mem_reportedValues.1 (List.mem_of_head? hv)

theorem sameTotals (hperm : results.Perm results') {merged merged' : Dict Str Str}
    (h : aggregateNodeKv keysToSum keysToMin results = some merged)
    (h' : aggregateNodeKv keysToSum keysToMin results' = some merged') :
    SameTotals keysToSum keysToMin merged merged' where
  keys k := by
    have hvalues : (reportedValues results k).Perm (reportedValues results' k) :=
      Dict.valuesAt_perm (reportedPairs_perm hperm)
    rw [mem_keys_aggregateNodeKv h, mem_keys_aggregateNodeKv h', Ne, Ne,
      ← List.length_eq_zero_iff, ← List.length_eq_zero_iff, hvalues.length_eq]
  totals k hk := by
    have hpass : passes keysToSum keysToMin k = false := by
      rcases hk with hk | hk <;> simp [passes, hk]
    obtain ⟨hsum, hmin⟩ := kvOfNodes_perm hperm
    rw [get?_of_aggregateNodeKv h, get?_of_aggregateNodeKv h', hsum, hmin, get?_merged,
      get?_merged, hpass]
    rfl

theorem mem_names_aggregateSetRecords {name : Str} :
    name ∈ (setsOfNodes results).1.map Prod.fst ↔ name ≠ [] ∧ recordsOf results name ≠ [] := by
  rw [Dict.mem_keys_iff, get?_setsOfNodes]
  by_cases h : name = [] ∨ recordsOf results name = []
  · rw [if_pos h, ← not_or]
    simp [h]
  · rw [if_neg h, ← not_or]
    simp [h]

theorem recordsOf_ne_nil {name : Str} : recordsOf results name ≠ [] ↔
    ∃ row ∈ results, row.failed = false ∧
      ∃ rec ∈ parseRecords row.resp ';' ':', setName rec = name := by
  constructor
  · intro hne
    obtain ⟨rec, hrec⟩ := List.exists_mem_of_ne_nil _ hne
    obtain ⟨hrec, hname⟩ := List.mem_filter.1 hrec
    obtain ⟨row, hrow, hrec⟩ := List.mem_flatMap.1 hrec
    obtain ⟨hrow, hok⟩ := mem_answers.1 hrow
    exact ⟨row, hrow, hok, rec, hrec, of_decide_eq_true hname⟩
  · rintro ⟨row, hrow, hok, rec, hrec, hname⟩
    exact List.ne_nil_of_mem (List.mem_filter.2
      ⟨List.mem_flatMap.2 ⟨row, mem_answers.2 ⟨hrow, hok⟩, hrec⟩, by simpa using hname⟩)

theorem countsSets {replicationFactor : ℤ} {records : List SetRecord}
    (h : aggregateSetRecords results replicationFactor = some records) :
    CountsSets replicationFactor results records := by
  rw [aggregateSetRecords_eq] at h
  cases h
  have hnames (rf : ℤ) : ((setsOfNodes results).1.map (SetRecord.of rf)).map (·.name) =
      (setsOfNodes results).1.map Prod.fst := by
    rw [List.map_map]
    rfl
  refine ⟨?_, fun name => ?_, fun s hs => ?_⟩
  · rw [hnames]
    exact nodup_setsOfNodes
  · rw [hnames, mem_names_aggregateSetRecords, recordsOf_ne_nil]
  · obtain ⟨entry, hentry, rfl⟩ := List.mem_map.1 hs
    have hget := (Dict.mem_iff_get? nodup_setsOfNodes).1 hentry
    rw [get?_setsOfNodes] at hget
    split at hget
    · cases hget
    · rw [show (SetRecord.of _ entry).name = entry.1 from rfl, Option.some.inj hget]

/-- The merged answers exist in every order or in none, and agree. -/
theorem rel_aggregateNodeKv (hperm : results.Perm results') :
    Option.Rel (SameTotals keysToSum keysToMin) (aggregateNodeKv keysToSum keysToMin results)
      (aggregateNodeKv keysToSum keysToMin results') := by
  have hnone : aggregateNodeKv keysToSum keysToMin results = none ↔
      aggregateNodeKv keysToSum keysToMin results' = none := by
    simp only [aggregateNodeKv_eq_none, sum_reportedNumbers_perm hperm]
  cases h : aggregateNodeKv keysToSum keysToMin results with
  | none => rw [hnone.1 h]; exact Option.Rel.none
  | some merged =>
    cases h' : aggregateNodeKv keysToSum keysToMin results' with
    | none => rw [hnone.2 h'] at h; cases h
    | some merged' => exact Option.Rel.some (sameTotals hperm h h')

/-- The rows that failed do not matter. -/
theorem aggregate_answers (replicationFactor : ℤ) :
    aggregateNodeKv keysToSum keysToMin (answers results) =
        aggregateNodeKv keysToSum keysToMin results ∧
      aggregateSetRecords (answers results) replicationFactor =
        aggregateSetRecords results replicationFactor := by
  have hkv : kvOfNodes keysToSum keysToMin (answers results) =
      kvOfNodes keysToSum keysToMin results := by
    rw [kvOfNodes_eq, kvOfNodes_eq, reportedPairs, answers_answers, reportedPairs]
  have hsets : setsOfNodes (answers results) = setsOfNodes results := by
    rw [setsOfNodes_eq, setsOfNodes_eq, reportedRecords, answers_answers, reportedRecords]
  exact ⟨by rw [aggregateNodeKv, hkv, aggregateNodeKv],
    by rw [aggregateSetRecords, hsets, aggregateSetRecords]⟩

/-- **Node aggregation is order-independent and conservative.** However the rows of `info_all` are
ordered, the merged answers have the same keys, sums and minima, and the same set records; the
rows that failed do not matter; each key and each set says what the other rows say together; and
no replication factor makes the division fail. -/
theorem aggregation_order_independent (hperm : results.Perm results')
    (keysToSum keysToMin : List Str) (replicationFactor : ℤ) :
    (aggregateNodeKv keysToSum keysToMin (answers results) =
        aggregateNodeKv keysToSum keysToMin results ∧
      aggregateSetRecords (answers results) replicationFactor =
        aggregateSetRecords results replicationFactor) ∧
    (aggregateNodeKv keysToSum keysToMin results = none ↔
      ∃ k ∈ keysToSum, printInt (reportedNumbers results k).sum = none) ∧
    Option.Rel (SameTotals keysToSum keysToMin) (aggregateNodeKv keysToSum keysToMin results)
      (aggregateNodeKv keysToSum keysToMin results') ∧
    (∀ merged, aggregateNodeKv keysToSum keysToMin results = some merged →
      MergesAnswers keysToSum keysToMin results merged) ∧
    ∃ records records', aggregateSetRecords results replicationFactor = some records ∧
      aggregateSetRecords results' replicationFactor = some records' ∧
      records.Perm records' ∧ CountsSets replicationFactor results records := by
  refine ⟨aggregate_answers _, aggregateNodeKv_eq_none, rel_aggregateNodeKv hperm,
    fun merged h => mergesAnswers h, _, _, aggregateSetRecords_eq _ _,
    aggregateSetRecords_eq _ _, ?_, countsSets (aggregateSetRecords_eq _ _)⟩
  rw [(answers_perm hperm).length_eq]
  exact (setsOfNodes_perm hperm).map _

/-- A node that failed and two that answered, in two orders. -/
def exampleRows : List InfoAllRow :=
  [⟨"A".toList, some (-8), "objects=9".toList⟩,
    ⟨"B".toList, none, "objects=5;set=a:objects=5".toList⟩,
    ⟨"C".toList, some 0, "objects=x;set=a:objects=2".toList⟩]

theorem aggregation_order_independent_rows : ∃ records records',
    aggregateSetRecords exampleRows 2 = some records ∧
      aggregateSetRecords exampleRows.reverse 2 = some records' ∧ records.Perm records' := by
  obtain ⟨-, -, -, -, records, records', h, h', hperm, -⟩ :=
    aggregation_order_independent exampleRows.reverse_perm.symm ["objects".toList] [] 2
  exact ⟨records, records', h, h', hperm⟩

end ClusterManager.Info
