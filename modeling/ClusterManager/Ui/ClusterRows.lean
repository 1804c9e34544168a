import Mathlib.Algebra.Order.BigOperators.Group.List
import Mathlib.Algebra.Order.Ring.Nat
import Mathlib.Data.List.Perm.Basic
import ClusterManager.K8s.Clusters
import ClusterManager.Lib.Grouping

/-!
# The page of clusters

The page of clusters joins two lists: the connections of the workspace and the clusters that
`list_k8s_clusters` reports, each with the connection it is linked to. A linked cluster shares the
row of its connection, and the rows are grouped by the environment of their labels.

`shows_all_iff` says what the page shows, and when it shows everything once. A connection takes up
the first cluster that is linked to it, and the others with the same link are shown nowhere.
-/

namespace ClusterManager.Ui.ClusterRows

open Db K8s

/-- `ClusterRow`, by what its fields are read from: a connection profile with the cluster that is
linked to it, or a cluster without a profile. -/
inductive ClusterRow
  | connection (c : ConnectionProfile) (linkedK8s : Option K8sClusterSummary)
  | k8s (k : K8sClusterSummary)

/-- `DEFAULT_ENV_VALUE`. -/
def defaultEnvValue : String := "default"

/-- `ensureEnvLabel`. -/
def ensureEnvLabel (labels : Dict String String) : Dict String String :=
  if (labels.get? "env").getD "" = "" then labels.set "env" defaultEnvValue else labels

/-! ### The fields of a row -/

namespace ClusterRow

def displayName : ClusterRow → String
  | .connection c _ => c.name
  | .k8s k => k.name

def profile : ClusterRow → Option ConnectionProfile
  | .connection c _ => some c
  | .k8s _ => none

/-- The cluster that a row shows. -/
def cluster : ClusterRow → Option K8sClusterSummary
  | .connection _ linkedK8s => linkedK8s
  | .k8s k => some k

def labels (row : ClusterRow) : Dict String String :=
  ensureEnvLabel ((row.profile.map (·.labels)).getD [])

end ClusterRow

/-! ### Merging -/

/-- `k.connectionId === c.id`. -/
def linked (connId : String) (k : K8sClusterSummary) : Bool := k.connectionId = some connId

/-- `k.connectionId && seenConnIds.has(k.connectionId)`. -/
def seen (connections : List ConnectionProfile) (k : K8sClusterSummary) : Bool :=
  match k.connectionId with
  | some connId => connId ≠ "" && connections.any fun c => c.id = connId
  | none => false

/-- `mergeRows`. What is not loaded yet counts as no connections and as no clusters. -/
def mergeRows (connections : List ConnectionProfile) (k8s : List K8sClusterSummary) :
    List ClusterRow :=
  connections.map (fun c => .connection c (k8s.find? (linked c.id))) ++
    (k8s.filter fun k => !seen connections k).map .k8s

/-! ### Groups -/

/-- What the page uses of the language: `toLowerCase`, and whether `localeCompare` is at most 0. -/
structure Locale where
  toLowerCase : String → String
  le : String → String → Bool

/-- `EnvGroup`. -/
structure EnvGroup where
  env : String
  rows : List ClusterRow

/-- `ENV_PRIORITY`. -/
def envPriority : List String := ["prod", "stage", "test", "dev", defaultEnvValue]

variable (locale : Locale)

/-- The number in `envSortKey`. -/
def envIndex (env : String) : ℕ := envPriority.idxOf (locale.toLowerCase env)

/-- `compareEnv` is at most 0. -/
def compareEnv (a b : String) : Bool :=
  if envIndex locale a ≠ envIndex locale b then envIndex locale a < envIndex locale b
  else locale.le (locale.toLowerCase a) (locale.toLowerCase b)

/-- The environment a row is grouped under. -/
def envOf (row : ClusterRow) : String :=
  locale.toLowerCase ((row.labels.get? "env").getD defaultEnvValue)

/-- The map of `groupByEnv`. -/
def envGroups (rows : List ClusterRow) : Dict String (List ClusterRow) :=
  Dict.accumulate (fun group row => group.getD [] ++ [row]) []
    (rows.map fun row => (envOf locale row, row))

/-- `groupByEnv`. -/
def groupByEnv (rows : List ClusterRow) : List EnvGroup :=
  ((envGroups locale rows).map fun group =>
    { env := group.1
      rows := group.2.mergeSort fun a b => locale.le a.displayName b.displayName }).mergeSort
    fun a b => compareEnv locale a.env b.env

/-- `ClustersPage`: its groups, for the connections of all workspaces that the caller sees. -/
def clustersPage (currentWorkspaceId : String) (connections : List ConnectionProfile)
    (k8s : List K8sClusterSummary) : List EnvGroup :=
  groupByEnv locale (mergeRows (connections.filter (·.workspaceId = currentWorkspaceId)) k8s)

/-- All rows that the page shows. -/
def rowsShown (page : List EnvGroup) : List ClusterRow := page.flatMap (·.rows)

/-! ### Grouping keeps the rows -/

/-- The groups hold the rows, each once. -/
theorem rowsShown_groupByEnv (rows : List ClusterRow) :
    (rowsShown (groupByEnv locale rows)).Perm rows := by
  unfold rowsShown groupByEnv
  refine ((List.mergeSort_perm _ _).flatMap_right _).trans ?_
  rw [List.flatMap_map]
  refine (List.Perm.flatMap_left _ fun e _ => List.mergeSort_perm e.2 _).trans ?_
  have hgroups : ((envGroups locale rows).flatMap fun e => id e.2).Perm
      ((([] : Dict String (List ClusterRow)).flatMap fun e => id e.2) ++
        (rows.map fun row => (envOf locale row, row)).map fun p => id p.2) :=
    Dict.flatMap_accumulate fun o row => by cases o <;> rfl
  rw [List.flatMap_nil, List.nil_append, List.map_map] at hgroups
  exact hgroups.trans (List.Perm.of_eq (List.map_id _))

/-- The groups of the map hold the rows of their environments. -/
theorem env_of_mem_envGroups {rows : List ClusterRow} {e : String × List ClusterRow}
    (he : e ∈ envGroups locale rows) {row : ClusterRow} (hrow : row ∈ e.2) :
    envOf locale row = e.1 := by
  have hkept : ∀ (rows : List ClusterRow) (d : Dict String (List ClusterRow)),
      (∀ e ∈ d, ∀ row ∈ e.2, envOf locale row = e.1) →
      ∀ e ∈ Dict.accumulate (fun (group : Option (List ClusterRow)) row => group.getD [] ++ [row]) d
        (rows.map fun row => (envOf locale row, row)), ∀ row ∈ e.2, envOf locale row = e.1 := by
    intro rows
    induction rows with
    | nil => exact fun d hd => hd
    | cons row rows ih =>
      intro d hd
      rw [List.map_cons, Dict.accumulate_cons]
      refine ih _ fun e he r hr => ?_
      rcases Dict.mem_set he with he | rfl
      · exact hd e he r hr
      · rcases List.mem_append.1 hr with hr | hr
        · cases hget : d.get? (envOf locale row) with
          | none =>
            rw [hget] at hr
            cases hr
          | some group =>
            rw [hget] at hr
            exact hd _ (Dict.mem_of_get?_eq_some hget) r hr
        · rw [List.mem_singleton.1 hr]
  exact hkept rows [] (fun _ hmem => absurd hmem List.not_mem_nil) e he row hrow

/-- Every environment has one group, and a group holds the rows of its environment. -/
theorem groupByEnv_env (rows : List ClusterRow) :
    ((groupByEnv locale rows).map (·.env)).Nodup ∧
      ∀ group ∈ groupByEnv locale rows, ∀ row ∈ group.rows, envOf locale row = group.env := by
  unfold groupByEnv
  constructor
  · rw [((List.mergeSort_perm _ _).map _).nodup_iff, List.map_map]
    exact Dict.nodup_keys_accumulate List.nodup_nil
  · intro group hgroup row hrow
    obtain ⟨e, he, rfl⟩ := List.mem_map.1 ((List.mergeSort_perm _ _).mem_iff.1 hgroup)
    exact env_of_mem_envGroups locale he ((List.mergeSort_perm _ _).mem_iff.1 hrow)

/-! ### The rows -/

/-- The clusters that take a row: the first one of each connection, and those without one. -/
theorem filterMap_cluster (connections : List ConnectionProfile) (k8s : List K8sClusterSummary) :
    (mergeRows connections k8s).filterMap (·.cluster) =
      (connections.flatMap fun c => (k8s.filter (linked c.id)).head?.toList) ++
        k8s.filter fun k => !seen connections k := by
  unfold mergeRows
  rw [List.filterMap_append, List.filterMap_map, List.filterMap_map]
  congr 1
  · rw [List.filterMap_eq_flatMap_toList]
    simp only [Function.comp_apply, ClusterRow.cluster, List.head?_filter]
  · exact List.filterMap_some

theorem filterMap_profile (connections : List ConnectionProfile) (k8s : List K8sClusterSummary) :
    (mergeRows connections k8s).filterMap (·.profile) = connections := by
  unfold mergeRows
  rw [List.filterMap_append, List.filterMap_map, List.filterMap_map]
  have hnone : (k8s.filter fun k => !seen connections k).filterMap
      ((fun row : ClusterRow => row.profile) ∘ .k8s) = [] :=
    List.filterMap_eq_nil_iff.2 fun _ _ => rfl
  rw [hnone, List.append_nil]
  exact List.filterMap_some

/-- The linked clusters, connection by connection. -/
theorem filter_seen_perm {connections : List ConnectionProfile}
    (hids : (connections.map (·.id)).Nodup) (hne : ∀ c ∈ connections, c.id ≠ "")
    (k8s : List K8sClusterSummary) :
    (k8s.filter (seen connections)).Perm
      (connections.flatMap fun c => k8s.filter (linked c.id)) := by
  induction connections with
  | nil =>
    have hnone : k8s.filter (seen []) = [] := List.filter_eq_nil_iff.2 fun k _ => by
      unfold seen
      split <;> simp
    rw [hnone]
    exact .nil
  | cons c connections ih =>
    obtain ⟨hc, hids⟩ := List.nodup_cons.1 hids
    have ih := ih hids fun c' hc' => hne c' (List.mem_cons_of_mem _ hc')
    rw [List.flatMap_cons]
    refine List.Perm.trans ?_ (ih.append_left _)
    -- a cluster is linked to `c` or to one of the others, never to both
    have hsplit : ∀ k, seen (c :: connections) k = (linked c.id k || seen connections k) := by
      intro k
      have hcne := hne c List.mem_cons_self
      unfold seen linked
      cases k.connectionId with
      | none => simp
      | some connId =>
        by_cases hconn : connId = c.id
        · subst hconn
          simp [hcne]
        · simp [hconn, Ne.symm hconn]
    have hdisjoint : ∀ k, linked c.id k = true → seen connections k = false := by
      intro k hk
      have hconn : k.connectionId = some c.id := of_decide_eq_true hk
      unfold seen
      rw [hconn]
      simp only [Bool.and_eq_false_iff, List.any_eq_false, decide_eq_true_eq]
      exact Or.inr fun c' hc' hid => hc (List.mem_map.2 ⟨c', hc', hid⟩)
    refine (List.filter_append_perm (linked c.id) _).symm.trans ?_
    rw [List.filter_filter, List.filter_filter]
    refine List.Perm.of_eq ?_
    congr 1 <;> refine List.filter_congr fun k _ => ?_
    · rw [hsplit]
      cases linked c.id k <;> simp
    · rw [hsplit]
      cases hk : linked c.id k with
      | false => simp
      | true => simp [hdisjoint k hk]

/-- The first clusters of the connections are all that are linked to them, exactly if each has one
at most. -/
theorem heads_perm_iff {connections : List ConnectionProfile} {k8s : List K8sClusterSummary} :
    (connections.flatMap fun c => (k8s.filter (linked c.id)).head?.toList).Perm
        (connections.flatMap fun c => k8s.filter (linked c.id)) ↔
      ∀ c ∈ connections, (k8s.filter (linked c.id)).length ≤ 1 := by
  have hle : ∀ l : List K8sClusterSummary, l.head?.toList.length ≤ l.length := fun l => by
    cases l <;> simp
  constructor
  · intro hperm c hc
    by_contra hmany
    have hlength := hperm.length_eq
    rw [List.length_flatMap, List.length_flatMap] at hlength
    refine absurd hlength (Nat.ne_of_lt (List.sum_lt_sum _ _ (fun c _ => hle _) ⟨c, hc, ?_⟩))
    have hone : (k8s.filter (linked c.id)).head?.toList.length ≤ 1 := by
      cases k8s.filter (linked c.id) <;> simp
    omega
  · intro hone
    refine List.Perm.of_eq (List.flatMap_congr fun c hc => ?_)
    have hlength := hone c hc
    generalize k8s.filter (linked c.id) = l at hlength
    cases l with
    | nil => rfl
    | cons k rest =>
      obtain rfl := List.eq_nil_of_length_eq_zero (Nat.le_zero.1 (Nat.le_of_succ_le_succ hlength))
      rfl

/-- The page shows every connection of the workspace once, in one group for each environment. Of the
clusters it shows the first one linked to each connection and those linked to none, and no others:
every cluster once, exactly if no two clusters are linked to one of these connections. -/
theorem shows_all_iff {connections : List ConnectionProfile}
    (hids : (connections.map (·.id)).Nodup) (hne : ∀ c ∈ connections, c.id ≠ "")
    (currentWorkspaceId : String) (k8s : List K8sClusterSummary) :
    ((clustersPage locale currentWorkspaceId connections k8s).map (·.env)).Nodup ∧
      (∀ group ∈ clustersPage locale currentWorkspaceId connections k8s, ∀ row ∈ group.rows,
        envOf locale row = group.env) ∧
      ((rowsShown (clustersPage locale currentWorkspaceId connections k8s)).filterMap
        (·.profile)).Perm (connections.filter (·.workspaceId = currentWorkspaceId)) ∧
      ((rowsShown (clustersPage locale currentWorkspaceId connections k8s)).filterMap
        (·.cluster)).Perm
          (((connections.filter (·.workspaceId = currentWorkspaceId)).flatMap fun c =>
              (k8s.filter (linked c.id)).head?.toList) ++
            k8s.filter fun k =>
              !seen (connections.filter (·.workspaceId = currentWorkspaceId)) k) ∧
      (((rowsShown (clustersPage locale currentWorkspaceId connections k8s)).filterMap
          (·.cluster)).Perm k8s ↔
        ∀ c ∈ connections, c.workspaceId = currentWorkspaceId →
          (k8s.filter (linked c.id)).length ≤ 1) := by
  unfold clustersPage
  obtain ⟨henvs, henv⟩ := groupByEnv_env locale
    (mergeRows (connections.filter (·.workspaceId = currentWorkspaceId)) k8s)
  refine ⟨henvs, henv, ?_, ?_, ?_⟩
  · refine ((rowsShown_groupByEnv locale _).filterMap _).trans (List.Perm.of_eq ?_)
    exact filterMap_profile _ k8s
  · refine ((rowsShown_groupByEnv locale _).filterMap _).trans (List.Perm.of_eq ?_)
    exact filterMap_cluster _ k8s
  · generalize hshown : connections.filter (·.workspaceId = currentWorkspaceId) = shown
    have hsub : shown.Sublist connections := hshown ▸ List.filter_sublist
    have hids := hids.sublist (hsub.map _)
    have hne : ∀ c ∈ shown, c.id ≠ "" := fun c hc => hne c (hsub.subset hc)
    have hrows := (rowsShown_groupByEnv locale (mergeRows shown k8s)).filterMap (·.cluster)
    rw [filterMap_cluster] at hrows
    -- the clusters without a connection are on both sides
    have hsplit := List.filter_append_perm (seen shown) k8s
    rw [hrows.congr_left, ← hsplit.congr_right, List.perm_append_right_iff,
      (filter_seen_perm hids hne k8s).congr_right, heads_perm_iff, ← hshown]
    simp only [List.mem_filter, decide_eq_true_eq, and_imp]

/-- The connection that stands under the name of two clusters. -/
def demoConnection : ConnectionProfile :=
  { id := "conn-1", name := "[K8s] demo", hosts := ["demo.a"], port := 3000, color := "#4F46E5"
    labels := [], createdAt := "", updatedAt := "" }

/-- A cluster that is linked to it. -/
def demoCluster (namespace_ : String) : K8sClusterSummary :=
  ⟨"demo", namespace_, 1, "", "Completed", some "conn-1", none, none, 0⟩

/-- A language without cases that puts shorter names first. -/
def byLength : Locale := ⟨id, fun a b => a.length ≤ b.length⟩

/-- Of two clusters of one name in two namespaces the page shows the first, and not the other. -/
theorem shows_all_iff_same_name :
    ((rowsShown (clustersPage byLength defaultWorkspaceId [demoConnection]
        [demoCluster "a", demoCluster "b"])).filterMap (·.cluster)).Perm [demoCluster "a"] ∧
      ¬((rowsShown (clustersPage byLength defaultWorkspaceId [demoConnection]
        [demoCluster "a", demoCluster "b"])).filterMap (·.cluster)).Perm
          [demoCluster "a", demoCluster "b"] := by
  have hids : ([demoConnection].map (·.id)).Nodup := by decide
  have hne : ∀ c ∈ [demoConnection], c.id ≠ "" := by decide
  obtain ⟨-, -, -, hshown, hall⟩ :=
    shows_all_iff byLength hids hne defaultWorkspaceId [demoCluster "a", demoCluster "b"]
  refine ⟨hshown, fun hperm => ?_⟩
  have hone := hall.1 hperm demoConnection (.head _) rfl
  exact absurd hone (by decide)

end ClusterManager.Ui.ClusterRows
