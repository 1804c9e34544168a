import Mathlib.Algebra.Order.BigOperators.Group.List
import ClusterManager.Services.Clusters

/-!
# Object counts of namespaces and sets

Where every node that answers gives a namespace as many objects as its sets have together, the
reports on the namespace are compared: the namespace with its sets in `get_cluster_info`, and the
counts of a set in `get_cluster_info`, `list_sets` and `_get_set_object_count`.
-/

namespace ClusterManager.Services.Clusters

open Info Numerals

/-! ### What the nodes say -/

/-- The objects a node gives a namespace. -/
def namespaceObjects (row : InfoAllRow) : ℤ :=
  safeInt ((parseKvPairs row.resp ';').get? "objects".toList) 0

/-- The objects a node gives the sets of a namespace. -/
def setsObjects (row : InfoAllRow) : ℤ :=
  (((parseRecords row.resp ';' ':').filter (setName · ≠ [])).map (counter "objects")).sum

/-- The objects all nodes give a namespace. -/
def totalObjects (nsAll : List InfoAllRow) : ℤ := ((answers nsAll).map namespaceObjects).sum

/-- The objects all nodes give a set. -/
def setObjects (setsAll : List InfoAllRow) (name : Str) : ℤ :=
  (SetData.total (recordsOf setsAll name)).objects

/-- The replication factor the first node that knows it reports. -/
def reportedFactor (nsAll : List InfoAllRow) : ℤ :=
  safeInt (reportedValues nsAll "replication-factor".toList).head? 1

/-- The same nodes answer about a namespace and about its sets, and each gives the namespace as
many objects as its sets have together. No set has fewer than none. -/
structure Consistent (nsAll setsAll : List InfoAllRow) : Prop where
  agree : ((answers nsAll).map fun row => (row.name, namespaceObjects row)).Perm
    ((answers setsAll).map fun row => (row.name, setsObjects row))
  nonneg : ∀ row ∈ answers setsAll, ∀ rec ∈ parseRecords row.resp ';' ':',
    setName rec ≠ [] → 0 ≤ counter "objects" rec

/-- The object counts that are reported of a namespace agree. -/
structure CountsAgree (client : InfoClient) (info : ClusterInfo) (ns : Str) : Prop where
  reported : ∃ n ∈ info.namespaces, n.name = ns
  covers : ∀ n ∈ info.namespaces, n.name = ns → ∀ s ∈ n.sets, s.objects ≤ n.objects
  listed : ∃ listed, listSets client ns = .ok listed ∧
    ∀ n ∈ info.namespaces, n.name = ns → objectCounts n.sets = objectCounts listed
  counted : ∀ n ∈ info.namespaces, n.name = ns → ∀ s ∈ n.sets,
    getSetObjectCount client ns s.name = .ok (some s.objects)

/-- Enough nodes answered, or no set holds too much of its namespace. -/
def Covered (totalNodes : ℕ) (nsAll setsAll : List InfoAllRow) : Prop :=
  reportedFactor nsAll ≤ 0 ∨
  min (reportedFactor nsAll) totalNodes ≤ (answers setsAll).length ∨
  ∀ name ≠ [], min (reportedFactor nsAll) totalNodes *
    (setObjects setsAll name / (answers setsAll).length) ≤ totalObjects nsAll

/-! ### Sums -/

variable {nsAll setsAll : List InfoAllRow}

/-- The sum of a key over the values that are given is the sum over the nodes. -/
theorem sum_reportedNumbers (results : List InfoAllRow) :
    (reportedNumbers results "objects".toList).sum = totalObjects results := by
  unfold reportedNumbers reportedValues reportedPairs totalObjects
  induction answers results with
  | nil => rfl
  | cons row rows ih =>
    have hrow : ((Dict.valuesAt (parseKvPairs row.resp ';') "objects".toList).map
        fun v => safeInt (some v) 0).sum = namespaceObjects row := by
      rw [Dict.valuesAt_of_nodup (nodup_keys_parseKvPairs _ _), namespaceObjects]
      cases (parseKvPairs row.resp ';').get? "objects".toList with
      | none => rfl
      | some v => simp
    rw [List.flatMap_cons, List.map_cons, List.sum_cons, ← ih, ← hrow, ← List.sum_append,
      ← List.map_append]
    simp [Dict.valuesAt]

/-- What the nodes give the sets together. -/
theorem sum_setsObjects (results : List InfoAllRow) :
    ((answers results).map setsObjects).sum =
      (((reportedRecords results).filter (setName · ≠ [])).map (counter "objects")).sum := by
  unfold reportedRecords
  induction answers results with
  | nil => rfl
  | cons row rows ih =>
    rw [List.map_cons, List.sum_cons, ih, List.flatMap_cons, List.filter_append, List.map_append,
      List.sum_append, setsObjects]

namespace Consistent

theorem totalObjects_eq (h : Consistent nsAll setsAll) : totalObjects nsAll =
    (((reportedRecords setsAll).filter (setName · ≠ [])).map (counter "objects")).sum := by
  have hperm := h.agree.map Prod.snd
  simp only [List.map_map] at hperm
  rw [← sum_setsObjects]
  exact hperm.sum_eq

theorem counter_nonneg (h : Consistent nsAll setsAll) {rec : Dict Str Str}
    (hrec : rec ∈ reportedRecords setsAll) (hname : setName rec ≠ []) :
    0 ≤ counter "objects" rec := by
  obtain ⟨row, hrow, hrec⟩ := List.mem_flatMap.1 hrec
  exact h.nonneg row hrow rec hrec hname

/-- A set has no more objects than its namespace, and no fewer than none. -/
theorem setObjects_le (h : Consistent nsAll setsAll) {name : Str} (hname : name ≠ []) :
    0 ≤ setObjects setsAll name ∧ setObjects setsAll name ≤ totalObjects nsAll := by
  have hsub : (recordsOf setsAll name).Sublist
      ((reportedRecords setsAll).filter (setName · ≠ [])) := by
    refine List.monotone_filter_right _ fun rec hrec => ?_
    simp only [decide_eq_true_eq] at hrec ⊢
    rw [hrec]
    exact hname
  have hall : ∀ n ∈ ((reportedRecords setsAll).filter (setName · ≠ [])).map (counter "objects"),
      0 ≤ n := by
    intro n hn
    obtain ⟨rec, hrec, rfl⟩ := List.mem_map.1 hn
    obtain ⟨hrec, hne⟩ := List.mem_filter.1 hrec
    exact h.counter_nonneg hrec (by simpa using hne)
  have hmap := hsub.map (counter "objects")
  rw [h.totalObjects_eq]
  exact ⟨List.sum_nonneg fun n hn => hall n (hmap.subset hn), hmap.sum_le_sum hall⟩

end Consistent

/-! ### Factors -/

/-- A set is reported to hold no more than its namespace when its namespace is divided by no more,
or when the set is small. -/
theorem share_le_share_iff {rf c total : ℤ} {totalNodes nodes : ℕ} (hnodes : 0 < nodes)
    (hc : 0 ≤ c) (hle : c ≤ total) :
    share (effectiveRf rf nodes) c ≤ share (effectiveRf rf totalNodes) total ↔
      rf ≤ 0 ∨ min rf totalNodes ≤ nodes ∨ min rf totalNodes * (c / nodes) ≤ total := by
  by_cases hrf : rf ≤ 0
  · have hset : share (effectiveRf rf nodes) c = c := by
      rw [effectiveRf, if_pos hnodes, share, if_neg (by omega)]
    have hns : share (effectiveRf rf totalNodes) total = total := by
      unfold effectiveRf share
      split
      · rw [if_neg (by omega)]
      · simp
    rw [hset, hns]
    exact iff_of_true hle (Or.inl hrf)
  · have hpos : 0 < min rf nodes := by omega
    have hset : share (effectiveRf rf nodes) c = c / min rf nodes := by
      rw [effectiveRf, if_pos hnodes, share, if_pos hpos]
    by_cases htotal : 0 < totalNodes
    · have hns : share (effectiveRf rf totalNodes) total = total / min rf totalNodes := by
        rw [effectiveRf, if_pos htotal, share, if_pos (by omega)]
      rw [hset, hns, Int.le_ediv_iff_mul_le (by omega)]
      by_cases hcover : min rf totalNodes ≤ nodes
      · refine iff_of_true ?_ (Or.inr (Or.inl hcover))
        calc c / min rf nodes * min rf totalNodes
            ≤ c / min rf nodes * min rf nodes :=
              Int.mul_le_mul_of_nonneg_left (by omega) (Int.ediv_nonneg hc (by omega))
          _ ≤ c := Int.ediv_mul_le c (by omega)
          _ ≤ total := hle
      · rw [show min rf (nodes : ℤ) = nodes by omega, Int.mul_comm]
        simp only [hrf, hcover, false_or]
    · have hns : share (effectiveRf rf totalNodes) total = total := by
        rw [effectiveRf, if_neg htotal, share, if_pos (by decide), Int.ediv_one]
      rw [hset, hns]
      refine iff_of_true ((Int.ediv_le_self _ hc).trans hle) (Or.inr (Or.inl ?_))
      omega

/-! ### The reports -/

theorem nodeKv_eq_ok {keysToSum : List Str} {nsStats : Dict Str Str} :
    nodeKv keysToSum nsAll = .ok nsStats ↔ aggregateNodeKv keysToSum [] nsAll = some nsStats :=
  orRaise_eq_ok

/-- The replication factor that is read is the one that is reported. -/
theorem replicationFactor_eq {keysToSum : List Str} {nsStats : Dict Str Str}
    (hkey : "replication-factor".toList ∉ keysToSum)
    (h : nodeKv keysToSum nsAll = .ok nsStats) : replicationFactor nsStats = reportedFactor nsAll := by
  rw [replicationFactor, get?_aggregateNodeKv (nodeKv_eq_ok.1 h), if_neg hkey,
    if_neg List.not_mem_nil, reportedFactor]

theorem objects_mem_nsSumKeys : "objects".toList ∈ nsSumKeys := by decide

theorem replicationFactor_not_mem_nsSumKeys : "replication-factor".toList ∉ nsSumKeys := by decide

/-- The objects that are read are those of all nodes. -/
theorem stat_objects {nsStats : Dict Str Str} (h : nodeKv nsSumKeys nsAll = .ok nsStats) :
    stat nsStats "objects" = totalObjects nsAll := by
  have hkv := nodeKv_eq_ok.1 h
  rw [stat, get?_aggregateNodeKv hkv, if_pos objects_mem_nsSumKeys, ← sum_reportedNumbers]
  split
  next hnone =>
    rw [reportedNumbers, hnone]
    rfl
  next =>
    cases hprint : printInt (reportedNumbers nsAll "objects".toList).sum with
    | none =>
      rw [aggregateNodeKv_eq_none.2 ⟨_, objects_mem_nsSumKeys, hprint⟩] at hkv
      cases hkv
    | some text =>
      have htext := hprint
      unfold printInt at htext
      split at htext
      · cases htext
      · cases htext
        exact safeInt_of_printInt hprint

/-- The set records of a namespace. -/
def recordsFor (nsAll setsAll : List InfoAllRow) : List SetRecord :=
  (setsOfNodes setsAll).1.map
    (SetRecord.of (effectiveRf (reportedFactor nsAll) (answers setsAll).length))

theorem setRecords_eq {rf : ℤ} (h : rf = reportedFactor nsAll) :
    setRecords setsAll rf = .ok (recordsFor nsAll setsAll) := by
  rw [setRecords, aggregateSetRecords_eq, h]
  rfl

/-- What is said of a namespace that is described. -/
theorem describeNamespace_ok {out : Outside} {totalNodes : ℕ} {ns : Str} {n : NamespaceInfo}
    (h : describeNamespace out totalNodes ns nsAll setsAll = .ok n) :
    (∃ nsStats, nodeKv nsSumKeys nsAll = .ok nsStats) ∧ n.name = ns ∧
      n.objects = share (effectiveRf (reportedFactor nsAll) totalNodes) (totalObjects nsAll) ∧
      n.sets = (recordsFor nsAll setsAll).map (SetInfo.of ns totalNodes) := by
  obtain ⟨nsStats, hstats, h⟩ := bind_eq_ok.1 h
  have hrf := replicationFactor_eq replicationFactor_not_mem_nsSumKeys hstats
  obtain ⟨objects, hobjects, h⟩ := bind_eq_ok.1 h
  obtain ⟨memoryFreePct, -, h⟩ := bind_eq_ok.1 h
  obtain ⟨aggSets, hsets, rfl⟩ := map_eq_ok.1 h
  rw [setRecords_eq hrf] at hsets
  cases hsets
  rw [orRaise_eq_ok, perReplica_eq, stat_objects hstats, hrf] at hobjects
  cases hobjects
  exact ⟨⟨nsStats, hstats⟩, rfl, rfl, rfl⟩

variable {out : Outside} {client : InfoClient} {connId ns : Str} {info : ClusterInfo}
  {names : List Str}

theorem commandsOf_ok {c : Str × Str × Str} (h : commandsOf ns = .ok c) :
    c.1 = ns ∧ infoNamespace ns = .ok c.2.1 ∧ infoSets ns = .ok c.2.2 := by
  obtain ⟨namespaceCommand, hns, h⟩ := bind_eq_ok.1 h
  obtain ⟨setsCommand, hsets, rfl⟩ := map_eq_ok.1 h
  exact ⟨rfl, hns, hsets⟩

/-- A namespace whose commands are answered is reported as it is described. -/
theorem reported_of_getClusterInfo (hinfo : getClusterInfo out client connId = .ok info)
    (hnames : listNamespaces client = .ok names) (hns : ns ∈ names)
    (hnsAll : (infoNamespace ns).bind client.infoAll = .ok nsAll)
    (hsetsAll : (infoSets ns).bind client.infoAll = .ok setsAll) :
    (∃ n ∈ info.namespaces, n.name = ns) ∧ ∀ n ∈ info.namespaces, n.name = ns →
      ∃ n₀, describeNamespace out client.nodeNames.length ns nsAll setsAll = .ok n₀ ∧
        SameCounts n₀ n := by
  obtain ⟨nodes, hnodes, hinfo⟩ := bind_eq_ok.1 hinfo
  obtain ⟨nsNames, hnsNames, hinfo⟩ := bind_eq_ok.1 hinfo
  obtain ⟨commands, hcommands, hinfo⟩ := bind_eq_ok.1 hinfo
  obtain ⟨infos, hinfos, hinfo⟩ := bind_eq_ok.1 hinfo
  obtain ⟨attached, hattached, rfl⟩ := map_eq_ok.1 hinfo
  rw [hnames] at hnsNames
  cases hnsNames
  rw [length_getNodes hnodes] at hinfos
  obtain ⟨hfrom, hto⟩ := mem_describeNamespaces hinfos
  obtain ⟨hkept, hback⟩ := sameCounts_of_attachSetNotes hattached
  obtain ⟨namespaceCommand, hnamespaceCommand, hnsAll⟩ := bind_eq_ok.1 hnsAll
  obtain ⟨setsCommand, hsetsCommand, hsetsAll⟩ := bind_eq_ok.1 hsetsAll
  have hcommand {c : Str × Str × Str} (hc : commandsOf ns = .ok c) :
      c = (ns, namespaceCommand, setsCommand) := by
    obtain ⟨hc₁, hc₂, hc₃⟩ := commandsOf_ok hc
    rw [hnamespaceCommand] at hc₂
    rw [hsetsCommand] at hc₃
    exact Prod.ext hc₁ (Prod.ext (Except.ok.inj hc₂).symm (Except.ok.inj hc₃).symm)
  constructor
  · obtain ⟨c, hc, hns⟩ := (mem_mapM hcommands).2 ns hns
    rw [hcommand hns] at hc
    obtain ⟨n, hn, hdescribe⟩ := hto _ hc nsAll setsAll hnsAll hsetsAll
    obtain ⟨n', hn', hsame⟩ := hkept n hn
    exact ⟨n', hn', hsame.1.trans (describeNamespace_ok hdescribe).2.1⟩
  · intro n' hn' hname
    obtain ⟨n, hn, hsame⟩ := hback n' hn'
    obtain ⟨c, hc, nsAll', setsAll', hnsAll', hsetsAll', hdescribe⟩ := hfrom n hn
    obtain ⟨ns', -, hns'⟩ := (mem_mapM hcommands).1 c hc
    have hcns : c.1 = ns := by
      rw [← (describeNamespace_ok hdescribe).2.1, ← hsame.1, hname]
    rw [(commandsOf_ok hns').1.symm, hcns] at hns'
    rw [hcommand hns'] at hnsAll' hsetsAll' hdescribe
    rw [hnsAll] at hnsAll'
    rw [hsetsAll] at hsetsAll'
    cases hnsAll'
    cases hsetsAll'
    exact ⟨n, hdescribe, hsame⟩

/-! ### Agreement -/

theorem objectCounts_of (ns : Str) (totalNodes : ℕ) (records : List SetRecord) :
    objectCounts (records.map (SetInfo.of ns totalNodes)) =
      records.map fun s => (s.name, s.objects) := by
  rw [objectCounts, List.map_map]
  rfl

/-- `list_sets` reports the set records. -/
theorem listSets_ok (hnames : listNamespaces client = .ok names) (hns : ns ∈ names)
    (hnsAll : (infoNamespace ns).bind client.infoAll = .ok nsAll)
    (hsetsAll : (infoSets ns).bind client.infoAll = .ok setsAll)
    {nsStats : Dict Str Str} (hstats : nodeKv nsSumKeys nsAll = .ok nsStats) :
    listSets client ns =
      .ok ((recordsFor nsAll setsAll).map (SetInfo.of ns client.nodeNames.length)) := by
  have hrf := replicationFactor_eq replicationFactor_not_mem_nsSumKeys hstats
  refine bind_eq_ok.2 ⟨names, hnames, ?_⟩
  rw [if_neg (by simpa using hns)]
  exact bind_eq_ok.2 ⟨nsAll, hnsAll, bind_eq_ok.2 ⟨setsAll, hsetsAll,
    bind_eq_ok.2 ⟨nsStats, hstats, map_eq_ok.2 ⟨_, setRecords_eq hrf, rfl⟩⟩⟩⟩

/-- Set records are about different sets, none of them nameless. -/
theorem recordsFor_spec (nsAll setsAll : List InfoAllRow) :
    CountsSets (reportedFactor nsAll) setsAll (recordsFor nsAll setsAll) :=
  countsSets (aggregateSetRecords_eq _ _)

/-- `_get_set_object_count` reports the set record. -/
theorem getSetObjectCount_ok (hnsAll : (infoNamespace ns).bind client.infoAll = .ok nsAll)
    (hsetsAll : (infoSets ns).bind client.infoAll = .ok setsAll) {s : SetRecord}
    (hs : s ∈ recordsFor nsAll setsAll) :
    getSetObjectCount client ns s.name = .ok (some s.objects) := by
  have hspec := recordsFor_spec nsAll setsAll
  have hname : s.name ≠ [] := ((hspec.names _).1 (List.mem_map_of_mem hs)).1
  obtain ⟨nsStats, hstats⟩ : ∃ nsStats, nodeKv [] nsAll = .ok nsStats := by
    cases h : aggregateNodeKv [] [] nsAll with
    | none =>
      obtain ⟨k, hk, -⟩ := aggregateNodeKv_eq_none.1 h
      cases hk
    | some nsStats => exact ⟨nsStats, nodeKv_eq_ok.2 h⟩
  have hrf := replicationFactor_eq List.not_mem_nil hstats
  have hfind : (recordsFor nsAll setsAll).find? (·.name = s.name) = some s := by
    cases h : (recordsFor nsAll setsAll).find? (·.name = s.name) with
    | none => exact absurd (List.find?_eq_none.1 h s hs) (by simp)
    | some t =>
      have ht := List.mem_of_find?_eq_some h
      have hts : t.name = s.name := by simpa using List.find?_some h
      rw [List.inj_on_of_nodup_map hspec.unique ht hs hts]
  have hcount : ((infoNamespace ns).bind client.infoAll).bind (fun nsAll =>
      (nodeKv [] nsAll).bind fun nsStats =>
        ((infoSets ns).bind client.infoAll).bind fun setsAll =>
          (setRecords setsAll (replicationFactor nsStats)).map fun agg =>
            some (((agg.find? (·.name = s.name)).map (·.objects)).getD 0)) =
      .ok (some s.objects) :=
    bind_eq_ok.2 ⟨nsAll, hnsAll, bind_eq_ok.2 ⟨nsStats, hstats, bind_eq_ok.2 ⟨setsAll, hsetsAll,
      map_eq_ok.2 ⟨_, setRecords_eq hrf, by rw [hfind]; rfl⟩⟩⟩⟩
  rw [getSetObjectCount, if_neg hname]
  simp only [hcount]

/-- The sets of a namespace are reported to hold no more than it exactly when the nodes that
answered cover it. -/
theorem covers_iff (hcons : Consistent nsAll setsAll) (totalNodes : ℕ) :
    (∀ s ∈ recordsFor nsAll setsAll,
      s.objects ≤ share (effectiveRf (reportedFactor nsAll) totalNodes) (totalObjects nsAll)) ↔
    Covered totalNodes nsAll setsAll := by
  have hspec := recordsFor_spec nsAll setsAll
  have hshare {s : SetRecord} (hs : s ∈ recordsFor nsAll setsAll) :
      s.objects ≤ share (effectiveRf (reportedFactor nsAll) totalNodes) (totalObjects nsAll) ↔
        reportedFactor nsAll ≤ 0 ∨
        min (reportedFactor nsAll) totalNodes ≤ (answers setsAll).length ∨
        min (reportedFactor nsAll) totalNodes *
          (setObjects setsAll s.name / (answers setsAll).length) ≤ totalObjects nsAll := by
    obtain ⟨hname, row, hrow, hok, -⟩ := (hspec.names _).1 (List.mem_map_of_mem hs)
    obtain ⟨hc, hle⟩ := hcons.setObjects_le hname
    have hnodes := List.length_pos_of_mem (mem_answers.2 ⟨hrow, hok⟩)
    rw [hspec.counts s hs]
    exact share_le_share_iff hnodes hc hle
  constructor
  · intro h
    by_cases hrf : reportedFactor nsAll ≤ 0
    · exact Or.inl hrf
    by_cases hnodes : min (reportedFactor nsAll) totalNodes ≤ (answers setsAll).length
    · exact Or.inr (Or.inl hnodes)
    refine Or.inr (Or.inr fun name hname => ?_)
    by_cases hmem : name ∈ (recordsFor nsAll setsAll).map (·.name)
    · obtain ⟨s, hs, rfl⟩ := List.mem_map.1 hmem
      exact (((hshare hs).1 (h s hs)).resolve_left hrf).resolve_left hnodes
    · have hnone : recordsOf setsAll name = [] := by
        by_contra hne
        exact hmem ((hspec.names name).2 ⟨hname, recordsOf_ne_nil.1 hne⟩)
      have hzero : setObjects setsAll name = 0 := by
        rw [setObjects, hnone]
        rfl
      obtain ⟨hc, hle⟩ := hcons.setObjects_le hname
      rw [hzero] at hle ⊢
      simpa using hle
  · intro h s hs
    refine (hshare hs).2 (h.imp_right (Or.imp_right fun h => h s.name ?_))
    exact ((hspec.names _).1 (List.mem_map_of_mem hs)).1

/-- **Object counts agree where the nodes that answered cover the namespace.** -/
theorem object_counts_agree (hinfo : getClusterInfo out client connId = .ok info)
    (hnames : listNamespaces client = .ok names) (hns : ns ∈ names)
    (hnsAll : (infoNamespace ns).bind client.infoAll = .ok nsAll)
    (hsetsAll : (infoSets ns).bind client.infoAll = .ok setsAll)
    (hcons : Consistent nsAll setsAll) :
    CountsAgree client info ns ↔ Covered client.nodeNames.length nsAll setsAll := by
  obtain ⟨hreported, hdescribed⟩ := reported_of_getClusterInfo hinfo hnames hns hnsAll hsetsAll
  rw [← covers_iff hcons]
  constructor
  · intro h s hs
    obtain ⟨n, hn, hname⟩ := hreported
    obtain ⟨n₀, hn₀, -, hobjects, hsets⟩ := hdescribed n hn hname
    obtain ⟨-, -, hobjects₀, hsets₀⟩ := describeNamespace_ok hn₀
    have hmem : (s.name, s.objects) ∈ objectCounts n.sets := by
      rw [hsets, hsets₀, objectCounts_of]
      exact List.mem_map.2 ⟨s, hs, rfl⟩
    obtain ⟨s', hs', heq⟩ := List.mem_map.1 hmem
    have hle := h.covers n hn hname s' hs'
    rw [hobjects, hobjects₀] at hle
    exact (Prod.mk.inj heq).2 ▸ hle
  · intro h
    have hmem {n : NamespaceInfo} (hn : n ∈ info.namespaces) (hname : n.name = ns)
        {s : SetInfo} (hs : s ∈ n.sets) :
        ∃ r ∈ recordsFor nsAll setsAll, r.name = s.name ∧ r.objects = s.objects := by
      obtain ⟨n₀, hn₀, -, -, hsets⟩ := hdescribed n hn hname
      obtain ⟨-, -, -, hsets₀⟩ := describeNamespace_ok hn₀
      have hs' : (s.name, s.objects) ∈ objectCounts n.sets := List.mem_map_of_mem hs
      rw [hsets, hsets₀, objectCounts_of] at hs'
      obtain ⟨r, hr, heq⟩ := List.mem_map.1 hs'
      exact ⟨r, hr, (Prod.ext_iff.1 heq).1, (Prod.ext_iff.1 heq).2⟩
    refine ⟨hreported, fun n hn hname s hs => ?_, ?_, fun n hn hname s hs => ?_⟩
    · obtain ⟨n₀, hn₀, -, hobjects, -⟩ := hdescribed n hn hname
      obtain ⟨r, hr, -, hr'⟩ := hmem hn hname hs
      rw [hobjects, (describeNamespace_ok hn₀).2.2.1, ← hr']
      exact h r hr
    · obtain ⟨n, hn, hname⟩ := hreported
      obtain ⟨n₀, hn₀, -⟩ := hdescribed n hn hname
      obtain ⟨nsStats, hstats⟩ := (describeNamespace_ok hn₀).1
      refine ⟨_, listSets_ok hnames hns hnsAll hsetsAll hstats, fun n hn hname => ?_⟩
      obtain ⟨n₀, hn₀, -, -, hsets⟩ := hdescribed n hn hname
      rw [hsets, (describeNamespace_ok hn₀).2.2.2]
    · obtain ⟨r, hr, hr₁, hr₂⟩ := hmem hn hname hs
      rw [← hr₁, ← hr₂]
      exact getSetObjectCount_ok hnsAll hsetsAll hr

/-! ### A cluster of two nodes -/

/-- The nodes `A` and `B` and their namespace `test`. -/
def twoNodes (nsAll setsAll : List InfoAllRow) : InfoClient where
  nodeNames := ["A".toList, "B".toList]
  infoAll command :=
    .ok (if command = "namespace/test".toList then nsAll
      else if command = "sets/test".toList then setsAll else [])
  infoRandomNode _ := .ok "test".toList
  cached _ := .ok []

/-- No percentage, no case and no note. -/
def noOutside : Outside where
  lower text := text
  freePct _ _ := some 0
  batchGetSetNotes _ _ _ := .ok none

/-- The answer of `A` about the namespace. -/
def namespaceRow : InfoAllRow := ⟨"A".toList, none, "objects=10;replication-factor=2".toList⟩

/-- The answer of `A` about the sets. -/
def setsRow : InfoAllRow := ⟨"A".toList, none, "set=users:objects=10".toList⟩

/-- `B` does not answer. -/
def failedRow : InfoAllRow := ⟨"B".toList, some 9, []⟩

/-- An answer of `B`, which holds a copy of everything. -/
def fromB (row : InfoAllRow) : InfoAllRow := { row with name := "B".toList }

/-- Where one of two nodes fails, the namespace is divided by two and its set by one. -/
theorem object_counts_disagree : ∃ info nsAll setsAll,
    getClusterInfo noOutside (twoNodes nsAll setsAll) [] = .ok info ∧
      listNamespaces (twoNodes nsAll setsAll) = .ok ["test".toList] ∧
      (infoNamespace "test".toList).bind (twoNodes nsAll setsAll).infoAll = .ok nsAll ∧
      (infoSets "test".toList).bind (twoNodes nsAll setsAll).infoAll = .ok setsAll ∧
      Consistent nsAll setsAll ∧
      ¬ CountsAgree (twoNodes nsAll setsAll) info "test".toList := by
  refine ⟨_, [namespaceRow, failedRow], [setsRow, failedRow], rfl, rfl, rfl, rfl,
    ⟨.of_eq rfl, by decide +kernel⟩, fun h => ?_⟩
  have hle := h.covers _ List.mem_cons_self rfl _ List.mem_cons_self
  exact absurd hle (by decide +kernel)

/-- Where both nodes answer, the counts agree. -/
theorem object_counts_agree_twoNodes : ∃ info,
    CountsAgree
      (twoNodes [namespaceRow, fromB namespaceRow] [setsRow, fromB setsRow]) info "test".toList :=
  ⟨_, (@object_counts_agree _ _ noOutside _ [] _ _ _ rfl rfl List.mem_cons_self rfl rfl
    ⟨.of_eq rfl, by decide +kernel⟩).2 (Or.inr (Or.inl (by decide +kernel)))⟩

end ClusterManager.Services.Clusters
