import ClusterManager.K8s.Access

/-!
# Clusters and their connection profiles

The deletion of a cluster and the list of clusters look for a cluster's connection profile by the
host of its service, and by a display name that any cluster of that name and any user may have
given a profile. `association_iff` says when this finds the profiles of other clusters.
-/

namespace ClusterManager.K8s

open Db

variable {rt : Runtime} {api : KubeApi} {t t' : Tables} {callerOwnerId namespace_ name : String}

/-! ### Connections and their rows -/

/-- A profile and the row it was read from. -/
structure Reads (rt : Runtime) (row : ConnectionRow) (conn : ConnectionProfile) : Prop where
  id : conn.id = row.id
  name : conn.name = row.name
  hosts : conn.hosts = row.hosts
  workspaceId : conn.workspaceId = orDefault defaultWorkspaceId (row.workspaceId.getD "")

theorem reads_of_decryptedProfile {row : ConnectionRow} {conn : ConnectionProfile}
    (h : decryptedProfile rt row = .ok conn) : Reads rt row conn := by
  obtain ⟨-, password, -, rfl⟩ := decryptedProfile_eq_ok.1 h
  exact ⟨rfl, rfl, rfl, rfl⟩

/-- Every row is read, and every profile is read from a row. -/
theorem mem_getAllConnections {conns : List ConnectionProfile}
    (h : getAllConnections rt none t = .ok conns) :
    (∀ conn ∈ conns, ∃ row ∈ t.connections, Reads rt row conn) ∧
      ∀ row ∈ t.connections, ∃ conn ∈ conns, Reads rt row conn := by
  obtain ⟨hto, hfrom⟩ := mem_mapM h
  refine ⟨fun conn hconn => ?_, fun row hrow => ?_⟩
  · obtain ⟨row, hrow, hread⟩ := hto conn hconn
    exact ⟨row, (List.mem_insertionSort _).1 hrow, reads_of_decryptedProfile hread⟩
  · obtain ⟨conn, hconn, hread⟩ := hfrom row ((List.mem_insertionSort _).2 hrow)
    exact ⟨conn, hconn, reads_of_decryptedProfile hread⟩

/-- The caller sees the workspace of a connection. -/
def RowVisible (t : Tables) (callerOwnerId : String) (row : ConnectionRow) : Prop :=
  visibleIn t callerOwnerId (orDefault defaultWorkspaceId (row.workspaceId.getD "")) = true

theorem orDefault_orDefault (s : String) :
    orDefault defaultWorkspaceId (orDefault defaultWorkspaceId s) =
      orDefault defaultWorkspaceId s := by
  by_cases h : s = "" <;> simp [orDefault, h, defaultWorkspaceId]

/-! ### The deletion -/

/-- The tables without some connections, notes cascaded. -/
def removeConnections (t : Tables) (connIds : List String) : Tables :=
  connIds.foldl Tables.removeConnection t

theorem mem_removeConnections {connIds : List String} {t : Tables} :
    (∀ row, row ∈ (removeConnections t connIds).connections ↔
      row ∈ t.connections ∧ row.id ∉ connIds) ∧
    (∀ n, n ∈ (removeConnections t connIds).setNotes ↔
      n ∈ t.setNotes ∧ n.connectionId ∉ connIds) ∧
    ∀ n, n ∈ (removeConnections t connIds).recordNotes ↔
      n ∈ t.recordNotes ∧ n.connectionId ∉ connIds := by
  induction connIds generalizing t with
  | nil => simp [removeConnections]
  | cons connId rest ih =>
    obtain ⟨hrows, hset, hrecord⟩ := @ih (t.removeConnection connId)
    refine ⟨fun row => (hrows row).trans ?_, fun n => (hset n).trans ?_,
      fun n => (hrecord n).trans ?_⟩ <;>
    simp [Tables.removeConnection, and_assoc]

/-- The cleanup looks at a connection: for its display name or for its host. -/
def isCandidate (namespace_ name : String) (conn : ConnectionProfile) : Bool :=
  conn.name = displayName name ∨ serviceHost namespace_ name ∈ conn.hosts

/-- The cleanup takes a connection for the cluster's, if the caller sees it. -/
def takenForCluster (t : Tables) (callerOwnerId namespace_ name : String)
    (conn : ConnectionProfile) : Bool :=
  isCandidate namespace_ name conn &&
    visibleIn t callerOwnerId (orDefault defaultWorkspaceId conn.workspaceId)

/-- The cleanup ends at a candidate whose workspace cannot be read. -/
def endsCleanup (t : Tables) (namespace_ name : String) (conn : ConnectionProfile) : Bool :=
  isCandidate namespace_ name conn &&
    !(getWorkspace (orDefault defaultWorkspaceId conn.workspaceId) t).toBool

/-- The connections the cleanup gets to. -/
def reachedByCleanup (t : Tables) (namespace_ name : String) (conns : List ConnectionProfile) :
    List ConnectionProfile :=
  conns.takeWhile (!endsCleanup t namespace_ name ·)

theorem run_cleanupConnections {conns : List ConnectionProfile} :
    (cleanupConnections callerOwnerId namespace_ name conns).run (RouterCall.exec rt api) t =
      (if conns.any (endsCleanup t namespace_ name) then .error .validationError else .ok (),
        removeConnections t (((reachedByCleanup t namespace_ name conns).filter
          (takenForCluster t callerOwnerId namespace_ name)).map (·.id))) := by
  induction conns generalizing t with
  | nil => rfl
  | cons conn rest ih =>
    have hends : endsCleanup (t.removeConnection conn.id) namespace_ name =
        endsCleanup t namespace_ name := rfl
    have htaken : takenForCluster (t.removeConnection conn.id) callerOwnerId namespace_ name =
        takenForCluster t callerOwnerId namespace_ name := rfl
    have hdelete : (db (.deleteConnection conn.id)).run (RouterCall.exec rt api) t =
        (.ok ((t.connections.find? conn.id).toList.length == 1), t.removeConnection conn.id) := rfl
    by_cases hmatch : conn.name = displayName name ∨ serviceHost namespace_ name ∈ conn.hosts
    · have hcandidate : isCandidate namespace_ name conn = true := decide_eq_true hmatch
      cases hws : getWorkspace (orDefault defaultWorkspaceId conn.workspaceId) t with
      | error e =>
        -- the check raises, and the rest of the list is left alone
        obtain rfl := getWorkspace_error hws
        have hend : endsCleanup t namespace_ name conn = true := by
          simp [endsCleanup, hcandidate, hws, Except.toBool]
        simp only [cleanupConnections, hmatch, if_true, Coroutine.run_bind, run_workspaceVisible,
          hws, Except.map, List.any_cons, hend, Bool.true_or, reachedByCleanup,
          List.takeWhile_cons, Bool.not_true, Bool.false_eq_true, if_false]
        rfl
      | ok found =>
        have hend : endsCleanup t namespace_ name conn = false := by
          simp [endsCleanup, hws, Except.toBool]
        cases hvisible :
            visibleIn t callerOwnerId (orDefault defaultWorkspaceId conn.workspaceId) with
        | true =>
          have hmine : takenForCluster t callerOwnerId namespace_ name conn = true := by
            simp [takenForCluster, hcandidate, hvisible]
          simp only [cleanupConnections, hmatch, if_true, Coroutine.run_bind,
            run_workspaceVisible_of_ok hws, hvisible, hdelete, Coroutine.run_call, RouterCall.exec,
            ih, hends, htaken, List.any_cons, hend, Bool.false_or, reachedByCleanup,
            List.takeWhile_cons, Bool.not_false, List.filter_cons_of_pos hmine, List.map_cons]
          rfl
        | false =>
          have hmine : ¬ takenForCluster t callerOwnerId namespace_ name conn = true := by
            simp [takenForCluster, hvisible]
          simp only [cleanupConnections, hmatch, if_true, Coroutine.run_bind,
            run_workspaceVisible_of_ok hws, hvisible, Bool.false_eq_true, if_false, ih,
            List.any_cons, hend, Bool.false_or, reachedByCleanup, List.takeWhile_cons,
            Bool.not_false, List.filter_cons_of_neg hmine]
    · have hcandidate : isCandidate namespace_ name conn = false := decide_eq_false hmatch
      have hend : endsCleanup t namespace_ name conn = false := by
        simp [endsCleanup, hcandidate]
      have hmine : ¬ takenForCluster t callerOwnerId namespace_ name conn = true := by
        simp [takenForCluster, hcandidate]
      simp only [cleanupConnections, hmatch, if_false, ih, List.any_cons, hend, Bool.false_or,
        reachedByCleanup, List.takeWhile_cons, Bool.not_false, if_true,
        List.filter_cons_of_neg hmine]

/-- The calls that leave the tables. -/
def RouterCall.reads : RouterCall → Bool
  | .db (.getWorkspace _) => true
  | .db (.getAllConnections _) => true
  | .db .getAllWorkspaces => true
  | .kube _ => true
  | _ => false

theorem exec_reads {r : RouterCall} (h : r.reads = true) : (r.exec rt api t).2 = t := by
  unfold RouterCall.reads at h
  split at h <;> first | rfl | cases h

/-- The access gate leaves the tables. -/
theorem run_assertCallerOwnsK8sCluster_ok {cr : Json}
    (h : (assertCallerOwnsK8sCluster namespace_ name callerOwnerId).run
      (RouterCall.exec rt api) t = (.ok cr, t')) : t' = t := by
  have hsafe : (assertCallerOwnsK8sCluster namespace_ name callerOwnerId).Safe
      (fun _ _ s s' => s' = s) (fun r _ => r.reads = true) t (fun _ s => s = t)
      fun _ s => s = t := by
    rw [assertCallerOwnsK8sCluster, Coroutine.safe_bind, Coroutine.safe_tryCatch]
    refine Coroutine.safe_call.2 ⟨rfl, ?_, ?_⟩
    · rintro cr _ rfl
      rw [Coroutine.safe_bind, Coroutine.safe_lift]
      refine ⟨fun workspaceId _ => ?_, fun _ _ => rfl⟩
      cases workspaceId with
      | none =>
        dsimp only
        split <;> rfl
      | some workspaceId =>
        dsimp only
        rw [Coroutine.safe_bind, workspaceVisible, safe_isWorkspaceVisible]
        refine Coroutine.safe_call.2 ⟨rfl, ?_, ?_⟩
        · rintro ws _ rfl
          split <;> rfl
        · rintro e _ rfl
          split <;> rfl
    · rintro e _ rfl
      cases e with
      | k8sApi status reason message =>
        dsimp only
        split <;> rfl
      | _ => rfl
  have hreads : ∀ (r : RouterCall) (t : Tables), r.reads = true →
      (RouterCall.exec rt api r t).2 = t := fun r t => exec_reads
  exact hsafe.run_ok hreads h

/-- The profiles that do not name a host are still there, with their notes. -/
def UnrelatedKept (host : String) (t t' : Tables) : Prop :=
  ∀ row ∈ t.connections, host ∉ row.hosts → row ∈ t'.connections ∧
    (∀ n ∈ t.setNotes, n.connectionId = row.id → n ∈ t'.setNotes) ∧
    ∀ n ∈ t.recordNotes, n.connectionId = row.id → n ∈ t'.recordNotes

/-- A deletion that returns has removed the connections taken for the cluster's that the cleanup
got to, and none if some connection cannot be read. -/
theorem run_deleteK8sCluster_ok {message : String}
    (h : (deleteK8sCluster callerOwnerId namespace_ name).run (RouterCall.exec rt api) t =
      (.ok message, t')) :
    (∃ conns, getAllConnections rt none t = .ok conns ∧
      t' = removeConnections t (((reachedByCleanup t namespace_ name conns).filter
        (takenForCluster t callerOwnerId namespace_ name)).map (·.id))) ∨
    ((¬ ∃ conns, getAllConnections rt none t = .ok conns) ∧ t' = t) := by
  obtain ⟨cr, t₁, hgate, hrest⟩ := Coroutine.exists_of_run_bind_ok (run_k8sEndpoint_ok h)
  obtain rfl := run_assertCallerOwnsK8sCluster_ok hgate
  obtain ⟨_, t₂, hdelete, hafter⟩ := Coroutine.exists_of_run_bind_ok hrest
  obtain ⟨-, rfl⟩ := run_kube_ok hdelete
  obtain ⟨_, t₃, hcleanup, hreturn⟩ := Coroutine.exists_of_run_bind_ok hafter
  obtain ⟨-, rfl⟩ := Prod.mk.inj hreturn
  have hget : (db (.getAllConnections none)).run (RouterCall.exec rt api) t₂ =
      (getAllConnections rt none t₂, t₂) := by
    rw [Coroutine.run_call]
    rfl
  rw [Coroutine.run_tryCatch, Coroutine.run_bind, hget] at hcleanup
  cases hall : getAllConnections rt none t₂ with
  | ok conns =>
    rw [hall] at hcleanup
    simp only [run_cleanupConnections] at hcleanup
    refine Or.inl ⟨conns, rfl, ?_⟩
    cases hend : conns.any (endsCleanup t₂ namespace_ name) with
    | true =>
      rw [hend] at hcleanup
      exact (Prod.mk.inj hcleanup).2.symm
    | false =>
      rw [hend] at hcleanup
      exact (Prod.mk.inj hcleanup).2.symm
  | error e =>
    rw [hall] at hcleanup
    refine Or.inr ⟨by simp, ?_⟩
    dsimp only at hcleanup
    split at hcleanup
    · exact (Prod.mk.inj hcleanup).2.symm
    · cases hcleanup

/-- The cleanup gets to the connection of a row: every row can be read, and so can the workspace of
every candidate before it. -/
def Reached (rt : Runtime) (t : Tables) (namespace_ name : String) (row : ConnectionRow) : Prop :=
  ∃ conns, getAllConnections rt none t = .ok conns ∧
    ∃ conn ∈ reachedByCleanup t namespace_ name conns, conn.id = row.id

/-- The deletion keeps the unrelated profiles exactly if none that it gets to and the caller sees
has the display name. -/
theorem unrelatedKept_iff {message : String}
    (h : (deleteK8sCluster callerOwnerId namespace_ name).run (RouterCall.exec rt api) t =
      (.ok message, t')) :
    UnrelatedKept (serviceHost namespace_ name) t t' ↔
      ∀ row ∈ t.connections, Reached rt t namespace_ name row → row.name = displayName name →
        RowVisible t callerOwnerId row → serviceHost namespace_ name ∈ row.hosts := by
  rcases run_deleteK8sCluster_ok h with ⟨conns, hconns, rfl⟩ | ⟨hnone, rfl⟩
  swap
  · refine iff_of_true (fun row hrow _ => ⟨hrow, fun _ hn _ => hn, fun _ hn _ => hn⟩) ?_
    rintro row - ⟨conns, hconns, -⟩
    exact absurd ⟨conns, hconns⟩ hnone
  obtain ⟨hrows, hset, hrecord⟩ := @mem_removeConnections
    (((reachedByCleanup t namespace_ name conns).filter
      (takenForCluster t callerOwnerId namespace_ name)).map (·.id)) t
  obtain ⟨hread, -⟩ := mem_getAllConnections hconns
  have hsub : ∀ conn ∈ reachedByCleanup t namespace_ name conns, conn ∈ conns :=
    fun conn hconn => (List.takeWhile_sublist _).subset hconn
  -- A row that does not name the host is removed exactly for its display name.
  have htaken : ∀ row ∈ t.connections, serviceHost namespace_ name ∉ row.hosts →
      (row.id ∈ ((reachedByCleanup t namespace_ name conns).filter
          (takenForCluster t callerOwnerId namespace_ name)).map (·.id) ↔
        Reached rt t namespace_ name row ∧ row.name = displayName name ∧
          RowVisible t callerOwnerId row) := by
    intro row hrow hhost
    simp only [List.mem_map, List.mem_filter, takenForCluster, isCandidate, Bool.and_eq_true,
      decide_eq_true_eq]
    constructor
    · rintro ⟨conn, ⟨hconn, hmatch, hvisible⟩, hid⟩
      obtain ⟨row', hrow', hread'⟩ := hread conn (hsub conn hconn)
      obtain rfl : row' = row := Table.eq_of_key hrow' hrow (hread'.id.symm.trans hid)
      rw [hread'.workspaceId, orDefault_orDefault] at hvisible
      rw [hread'.name, hread'.hosts] at hmatch
      exact ⟨⟨conns, hconns, conn, hconn, hid⟩, hmatch.resolve_right hhost, hvisible⟩
    · rintro ⟨⟨conns', hconns', conn, hconn, hid⟩, hname, hvisible⟩
      obtain rfl : conns = conns' := Except.ok.inj (hconns.symm.trans hconns')
      obtain ⟨row', hrow', hread'⟩ := hread conn (hsub conn hconn)
      obtain rfl : row' = row := Table.eq_of_key hrow' hrow (hread'.id.symm.trans hid)
      refine ⟨conn, ⟨hconn, Or.inl (hread'.name.trans hname), ?_⟩, hid⟩
      rwa [hread'.workspaceId, orDefault_orDefault]
  constructor
  · intro hkept row hrow hreached hname hvisible
    by_contra hhost
    exact ((hrows row).1 (hkept row hrow hhost).1).2
      ((htaken row hrow hhost).2 ⟨hreached, hname, hvisible⟩)
  · intro h row hrow hhost
    have hid : row.id ∉ ((reachedByCleanup t namespace_ name conns).filter
        (takenForCluster t callerOwnerId namespace_ name)).map (·.id) := by
      intro hmem
      obtain ⟨hreached, hname, hvisible⟩ := (htaken row hrow hhost).1 hmem
      exact hhost (h row hrow hreached hname hvisible)
    exact ⟨(hrows row).2 ⟨hrow, hid⟩, fun n hn hn' => (hset n).2 ⟨hn, hn' ▸ hid⟩,
      fun n hn hn' => (hrecord n).2 ⟨hn, hn' ▸ hid⟩⟩

/-! ### The list -/

/-- The connections a caller sees, in the order they were created. -/
def callerConnections (rt : Runtime) (t : Tables) (callerOwnerId : String) :
    List ConnectionProfile :=
  match getAllConnections rt none t, getAllWorkspaces t with
  | .ok conns, .ok workspaces => visibleConnections workspaces callerOwnerId conns
  | _, _ => []

/-- A connection of the table that the caller sees and that names a host, whatever the case. -/
def NamesHost (rt : Runtime) (t : Tables) (callerOwnerId host connId : String) : Prop :=
  ∃ row ∈ t.connections, row.id = connId ∧ RowVisible t callerOwnerId row ∧
    rt.lower host ∈ row.hosts.map rt.lower

theorem mem_visibleConnections {workspaces : List Workspace}
    (hworkspaces : getAllWorkspaces t = .ok workspaces) {conns : List ConnectionProfile}
    {conn : ConnectionProfile} :
    conn ∈ visibleConnections workspaces callerOwnerId conns ↔
      conn ∈ conns ∧
        visibleIn t callerOwnerId (orDefault defaultWorkspaceId conn.workspaceId) = true := by
  obtain ⟨hread, rfl⟩ := getAllWorkspaces_ok hworkspaces
  have hvisible : ∀ workspaceId, visibleIn t callerOwnerId workspaceId = true ↔
      ∃ ws ∈ t.workspaces, (ws.withOwner.ownerId = callerOwnerId ∨
        ws.withOwner.ownerId = systemOwnerId) ∧ ws.id = workspaceId := by
    intro workspaceId
    rw [visibleIn_of_ok (getWorkspace_of_readable hread)]
    simp only [ownedOrShared, Option.any_map, Option.any_eq_true_iff_get]
    constructor
    · rintro ⟨hsome, howner⟩
      obtain ⟨hmem, hid⟩ := Table.find?_eq_some.1 (Option.some_get hsome).symm
      exact ⟨_, hmem, by simpa using howner, hid⟩
    · rintro ⟨ws, hmem, howner, hid⟩
      have hfind := Table.find?_eq_some.2 ⟨hmem, hid⟩
      exact ⟨by simp [hfind], by simpa [hfind] using howner⟩
  rw [visibleConnections, List.mem_filter, decide_eq_true_eq, hvisible]
  refine and_congr_right fun _ => ?_
  simp only [List.mem_map, List.mem_filter, decide_eq_true_eq]
  constructor
  · rintro ⟨_, ⟨⟨ws, hws, rfl⟩, howner⟩, hid⟩
    exact ⟨ws, (List.mem_insertionSort _).1 hws, howner, hid⟩
  · rintro ⟨ws, hws, howner, hid⟩
    exact ⟨_, ⟨⟨ws, (List.mem_insertionSort _).2 hws, rfl⟩, howner⟩, hid⟩

/-- The connections a caller sees that name a host. -/
theorem namesHost_iff {conns : List ConnectionProfile}
    (hconns : getAllConnections rt none t = .ok conns) {workspaces : List Workspace}
    (hworkspaces : getAllWorkspaces t = .ok workspaces) {host connId : String} :
    NamesHost rt t callerOwnerId host connId ↔
      ∃ conn ∈ visibleConnections workspaces callerOwnerId conns,
        conn.id = connId ∧ rt.lower host ∈ conn.hosts.map rt.lower := by
  obtain ⟨hread, hreads⟩ := mem_getAllConnections hconns
  constructor
  · rintro ⟨row, hrow, rfl, hvisible, hhost⟩
    obtain ⟨conn, hconn, h⟩ := hreads row hrow
    refine ⟨conn, (mem_visibleConnections hworkspaces).2 ⟨hconn, ?_⟩, h.id, h.hosts ▸ hhost⟩
    rwa [h.workspaceId, orDefault_orDefault]
  · rintro ⟨conn, hconn, rfl, hhost⟩
    obtain ⟨hconn, hvisible⟩ := (mem_visibleConnections hworkspaces).1 hconn
    obtain ⟨row, hrow, h⟩ := hread conn hconn
    rw [h.workspaceId, orDefault_orDefault] at hvisible
    exact ⟨row, hrow, h.id.symm, hvisible, h.hosts ▸ hhost⟩

/-- What is filed under a host names it. -/
theorem connByHost_get? {lower : String → String} {conns : List ConnectionProfile}
    {host connId : String} (h : (connByHost lower conns).get? host = some connId) :
    ∃ conn ∈ conns, conn.id = connId ∧ host ∈ conn.hosts.map lower := by
  have hhosts : ∀ (hosts : List String) (d : Dict String String) (id : String),
      (hosts.foldl (fun d host => d.set (lower host) id) d).get? host = some connId →
        (id = connId ∧ host ∈ hosts.map lower) ∨ d.get? host = some connId := by
    intro hosts
    induction hosts with
    | nil => exact fun _ _ => Or.inr
    | cons host' hosts ih =>
      intro d id h
      rcases ih _ id h with ⟨hid, hmem⟩ | h
      · exact Or.inl ⟨hid, List.mem_cons_of_mem _ hmem⟩
      · by_cases heq : host = lower host'
        · subst heq
          exact Or.inl ⟨by simpa using h, List.mem_cons_self⟩
        · exact Or.inr (by simpa [heq] using h)
  have hconns : ∀ (conns : List ConnectionProfile) (d : Dict String String),
      (conns.foldl (fun d conn => conn.hosts.foldl
        (fun d host => d.set (lower host) conn.id) d) d).get? host = some connId →
        (∃ conn ∈ conns, conn.id = connId ∧ host ∈ conn.hosts.map lower) ∨
          d.get? host = some connId := by
    intro conns
    induction conns with
    | nil => exact fun _ => Or.inr
    | cons conn conns ih =>
      intro d h
      rcases ih _ h with ⟨conn', hmem, h⟩ | h
      · exact Or.inl ⟨conn', List.mem_cons_of_mem _ hmem, h⟩
      · rcases hhosts _ _ _ h with h | h
        · exact Or.inl ⟨conn, List.mem_cons_self, h⟩
        · exact Or.inr h
  exact (hconns conns [] h).resolve_right (by simp)

/-- A cluster's display name leads to a connection that names its host too, if no connection with
an id is filed under the host. -/
def DisplayNameAgrees (rt : Runtime) (t : Tables) (callerOwnerId namespace_ name : String) :
    Prop :=
  ∀ connId, (connByName (callerConnections rt t callerOwnerId)).get? (displayName name) =
      some connId →
    (∃ id, (connByHost rt.lower (callerConnections rt t callerOwnerId)).get?
      (rt.lower (serviceHost namespace_ name)) = some id ∧ id ≠ "") ∨
    NamesHost rt t callerOwnerId (serviceHost namespace_ name) connId

/-- The connection of a cluster names its host exactly if the display name agrees. -/
theorem connectionOf_names_iff {conns : List ConnectionProfile}
    (hconns : getAllConnections rt none t = .ok conns) {workspaces : List Workspace}
    (hworkspaces : getAllWorkspaces t = .ok workspaces) :
    (∀ connId, connectionOf rt.lower (callerConnections rt t callerOwnerId) namespace_ name =
        some connId → NamesHost rt t callerOwnerId (serviceHost namespace_ name) connId) ↔
      DisplayNameAgrees rt t callerOwnerId namespace_ name := by
  have hcaller : callerConnections rt t callerOwnerId =
      visibleConnections workspaces callerOwnerId conns := by
    rw [callerConnections, hconns, hworkspaces]
  unfold connectionOf DisplayNameAgrees
  cases hhost : (connByHost rt.lower (callerConnections rt t callerOwnerId)).get?
      (rt.lower (serviceHost namespace_ name)) with
  | none => simp
  | some id =>
    by_cases hid : id = ""
    · simp [hid]
    · refine iff_of_true ?_ fun _ _ => Or.inl ⟨id, rfl, hid⟩
      rintro connId hconnId
      obtain rfl : id = connId := by simpa [hid] using hconnId
      rw [hcaller] at hhost
      exact (namesHost_iff hconns hworkspaces).2 (connByHost_get? hhost)

/-- The calls that list leave the tables. -/
theorem run_db_reads {op : DbOp} {a : op.Resp} (hop : (RouterCall.db op).reads = true)
    (h : (db op).run (RouterCall.exec rt api) t = (.ok a, t')) :
    (op.exec rt t).1 = .ok a ∧ t' = t := by
  rw [Coroutine.run_call] at h
  exact ⟨congrArg Prod.fst h, (congrArg Prod.snd h).symm.trans (exec_reads hop)⟩

/-- The workspaces are looked up with a handler that lets a `ValidationError` through. -/
theorem run_getAllWorkspaces {handle : Exc → RouterProgram (List Workspace)}
    (hhandle : handle .validationError = throw .validationError) :
    (Coroutine.tryCatch (db .getAllWorkspaces) handle).run (RouterCall.exec rt api) t =
      (getAllWorkspaces t, t) := by
  have hget : (db .getAllWorkspaces).run (RouterCall.exec rt api) t = (getAllWorkspaces t, t) := by
    rw [Coroutine.run_call]
    rfl
  rw [Coroutine.run_tryCatch, hget]
  cases hall : getAllWorkspaces t with
  | ok workspaces => rfl
  | error e =>
    obtain rfl := getAllWorkspaces_error hall
    dsimp only
    rw [hhandle]
    rfl

/-- What a list that returns consists of: a summary for each CR the caller sees. -/
theorem run_listK8sClusters_ok {limit : ℕ} {inNamespace continueToken labelSelector : Option String}
    {crs : List CustomResource} {token : Option String} {page : K8sClusterListResponse}
    (hlist : api (.listClusters inNamespace (some limit) continueToken labelSelector) =
      .ok (crs.map CustomResource.json, token))
    (h : (listK8sClusters rt.lower callerOwnerId inNamespace limit continueToken
      labelSelector).run (RouterCall.exec rt api) t = (.ok page, t')) :
    (∃ conns, getAllConnections rt none t = .ok conns) ∧
      (∃ workspaces, getAllWorkspaces t = .ok workspaces) ∧
      (crs.filter fun cr => crVisibleIn t callerOwnerId cr.workspaceId).mapM (fun cr =>
        extractSummary cr.json (connectionOf rt.lower (callerConnections rt t callerOwnerId)
          cr.namespace_ cr.name)) = .ok page.items := by
  obtain ⟨⟨items, token'⟩, t₁, hfirst, hvisibility⟩ :=
    Coroutine.exists_of_run_bind_ok (run_k8sEndpoint_ok h)
  obtain ⟨hitems, rfl⟩ := run_kube_ok hfirst
  obtain ⟨rfl, rfl⟩ := Prod.mk.inj (Except.ok.inj (hlist.symm.trans hitems))
  dsimp only at hvisibility
  obtain ⟨visible, t₂, hvisible, hvisibility⟩ := Coroutine.exists_of_run_bind_ok hvisibility
  obtain ⟨rfl, rfl⟩ := run_visibleWorkspaces_ok CustomResource.crWorkspaceId_eq hvisible
  simp only [filterE_itemVisible CustomResource.crWorkspaceId_eq] at hvisibility
  obtain ⟨_, t₃, hlift, hconnections⟩ := Coroutine.exists_of_run_bind_ok hvisibility
  rw [Coroutine.run_lift] at hlift
  obtain ⟨⟨⟩, rfl⟩ := Prod.mk.inj hlift
  obtain ⟨conns, t₄, hget, hworkspaces⟩ := Coroutine.exists_of_run_bind_ok hconnections
  obtain ⟨hconns, rfl⟩ := run_db_reads rfl hget
  obtain ⟨workspaces, t₅, hws, hsummaries⟩ := Coroutine.exists_of_run_bind_ok hworkspaces
  rw [run_getAllWorkspaces (by rfl)] at hws
  obtain ⟨hread, rfl⟩ := Prod.mk.inj hws
  obtain ⟨summaries, t₆, hmap, hreturn⟩ := Coroutine.exists_of_run_bind_ok hsummaries
  obtain ⟨⟨⟩, rfl⟩ := Prod.mk.inj hreturn
  rw [Coroutine.run_lift, List.mapM_map] at hmap
  have hall : getAllConnections rt none _ = .ok conns := hconns
  refine ⟨⟨conns, hall⟩, ⟨workspaces, hread⟩, ?_⟩
  rw [callerConnections, hall, hread]
  exact congrArg Prod.fst hmap

/-- The connections a page reports name the hosts of their clusters. -/
def LinkedByHost (rt : Runtime) (t : Tables) (callerOwnerId : String)
    (page : K8sClusterListResponse) : Prop :=
  ∀ summary ∈ page.items, ∀ connId, summary.connectionId = some connId →
    NamesHost rt t callerOwnerId (serviceHost summary.namespace_ summary.name) connId

/-- A page reports connections that name the hosts exactly if the display names agree. -/
theorem linkedByHost_iff {limit : ℕ} {inNamespace continueToken labelSelector : Option String}
    {crs : List CustomResource} {token : Option String} {page : K8sClusterListResponse}
    (hlist : api (.listClusters inNamespace (some limit) continueToken labelSelector) =
      .ok (crs.map CustomResource.json, token))
    (h : (listK8sClusters rt.lower callerOwnerId inNamespace limit continueToken
      labelSelector).run (RouterCall.exec rt api) t = (.ok page, t')) :
    LinkedByHost rt t callerOwnerId page ↔
      ∀ cr ∈ crs, crVisibleIn t callerOwnerId cr.workspaceId = true →
        DisplayNameAgrees rt t callerOwnerId cr.namespace_ cr.name := by
  obtain ⟨⟨conns, hconns⟩, ⟨workspaces, hworkspaces⟩, hpage⟩ := run_listK8sClusters_ok hlist h
  obtain ⟨hto, hfrom⟩ := mem_mapM hpage
  constructor
  · intro hlinked cr hcr hvisible
    obtain ⟨summary, hsummary, hextract⟩ := hfrom cr (List.mem_filter.2 ⟨hcr, hvisible⟩)
    obtain ⟨hname, hnamespace, hconnection⟩ := extractSummary_ok hextract
    refine (connectionOf_names_iff hconns hworkspaces).1 fun connId hconnId => ?_
    rw [← hname, ← hnamespace]
    exact hlinked summary hsummary connId (hconnection.trans hconnId)
  · intro hagrees summary hsummary connId hconnId
    obtain ⟨cr, hcr, hextract⟩ := hto summary hsummary
    obtain ⟨hcr, hvisible⟩ := List.mem_filter.1 hcr
    obtain ⟨hname, hnamespace, hconnection⟩ := extractSummary_ok hextract
    rw [hname, hnamespace]
    exact (connectionOf_names_iff hconns hworkspaces).2 (hagrees cr hcr hvisible) connId
      (hconnection.symm.trans hconnId)

/-- **A cluster and its connection profile are associated by namespace and name exactly as long as
the display name never stands in for the host.** -/
theorem association_iff (rt : Runtime) (api : KubeApi) (t : Tables) (callerOwnerId : String) :
    (∀ namespace_ name message t', (deleteK8sCluster callerOwnerId namespace_ name).run
        (RouterCall.exec rt api) t = (.ok message, t') →
      (UnrelatedKept (serviceHost namespace_ name) t t' ↔
        ∀ row ∈ t.connections, Reached rt t namespace_ name row → row.name = displayName name →
          RowVisible t callerOwnerId row → serviceHost namespace_ name ∈ row.hosts)) ∧
    ∀ inNamespace limit continueToken labelSelector (crs : List CustomResource) token page t',
      api (.listClusters inNamespace (some limit) continueToken labelSelector) =
        .ok (crs.map CustomResource.json, token) →
      (listK8sClusters rt.lower callerOwnerId inNamespace limit continueToken
        labelSelector).run (RouterCall.exec rt api) t = (.ok page, t') →
      (LinkedByHost rt t callerOwnerId page ↔
        ∀ cr ∈ crs, crVisibleIn t callerOwnerId cr.workspaceId = true →
          DisplayNameAgrees rt t callerOwnerId cr.namespace_ cr.name) :=
  ⟨fun _ _ _ _ => unrelatedKept_iff, fun _ _ _ _ _ _ _ _ => linkedByHost_iff⟩

/-- The profile that the creation of a cluster `db` in a namespace connects to it. -/
def autoConnected (namespace_ : String) : ConnectionRow where
  id := "conn-" ++ namespace_
  name := "[K8s] db"
  hosts := [serviceHost namespace_ "db"]
  port := 3000
  clusterName := some (namespace_ ++ "/db")
  username := none
  password := none
  color := "#10B981"
  note := none
  labels := some [("env", "default")]
  workspaceId := some "ws-default"
  createdAt := "0"
  updatedAt := "0"

/-- The shared workspace, with the profile of one cluster in it. -/
def sharedProfile (namespace_ : String) : Tables where
  connections := .singleton (autoConnected namespace_)
  workspaces := .singleton { id := "ws-default", name := "Default", isDefault := true,
                             ownerId := "system", createdAt := "0", updatedAt := "0" }
  setNotes := .empty
  recordNotes := .empty
  guides := .empty

/-- A cluster `prod/db` of the shared workspace. -/
def prodCluster : KubeState where
  crs := [.prodDb [(workspaceLabel, "ws-default")]]
  secrets _ := []

/-- Where the only profile is the cluster's own, both endpoints do as they should. -/
theorem association_iff_own_profile :
    UnrelatedKept (serviceHost "prod" "db") (sharedProfile "prod")
      ((deleteK8sCluster "alice" "prod" "db").run
        (RouterCall.exec plainRuntime prodCluster.serve) (sharedProfile "prod")).2 ∧
    ∀ page t', (listK8sClusters id "alice" none 20 none none).run
        (RouterCall.exec plainRuntime prodCluster.serve) (sharedProfile "prod") =
          (.ok page, t') →
      LinkedByHost plainRuntime (sharedProfile "prod") "alice" page := by
  have h := association_iff plainRuntime prodCluster.serve (sharedProfile "prod") "alice"
  refine ⟨(h.1 "prod" "db" _ _ rfl).2 fun row hrow _ _ _ => ?_, fun page t' hrun =>
    (h.2 none 20 none none prodCluster.crs none page t' rfl hrun).2 fun cr hcr _ connId _ => ?_⟩
  · obtain rfl := List.mem_singleton.1 hrow
    exact List.mem_cons_self
  · obtain rfl := List.mem_singleton.1 hcr
    exact Or.inl ⟨"conn-prod", rfl, by decide⟩

/-- The cluster `prod/db` is taken for the cluster `staging/db`: the list reports the profile of
the one for the other, and its deletion deletes that profile. -/
theorem profile_of_same_named_cluster :
    (∃ message t', (deleteK8sCluster "alice" "prod" "db").run
        (RouterCall.exec plainRuntime prodCluster.serve) (sharedProfile "staging") =
          (.ok message, t') ∧
      ¬ UnrelatedKept (serviceHost "prod" "db") (sharedProfile "staging") t') ∧
    ∃ page t', (listK8sClusters id "alice" none 20 none none).run
        (RouterCall.exec plainRuntime prodCluster.serve) (sharedProfile "staging") =
          (.ok page, t') ∧
      ¬ LinkedByHost plainRuntime (sharedProfile "staging") "alice" page := by
  refine ⟨⟨_, _, rfl, fun h => ?_⟩, ⟨_, _, rfl, fun h => ?_⟩⟩
  · exact nomatch (h _ List.mem_cons_self (by decide)).1
  · obtain ⟨row, hrow, -, -, hhost⟩ := h _ List.mem_cons_self "conn-staging" rfl
    obtain rfl := List.mem_singleton.1 hrow
    exact absurd (List.mem_singleton.1 hhost) (by decide)

end ClusterManager.K8s
