import ClusterManager.Services.Orphans
import ClusterManager.WorkspaceAcl

/-!
# The gates of a connection

Six separately written checks decide whether a caller gets at a connection: the list and the fetch
of the connections service, the two FastAPI dependencies, the gate of the notes router, and the
workspaces service. `gates_agree` says that they compute one predicate, `Visible`, on every
initialised state of the database whose rows can be read.
-/

namespace ClusterManager.Services

open Db

/-! ### The services -/

/-- `list_connections`. -/
def listConnections (workspaceId callerOwnerId : Option String) :
    DbProgram (List ConnectionProfile) := do
  match workspaceId with
  | some workspaceId => assertWorkspaceVisible workspaceId callerOwnerId
  | none => pure ()
  let profiles ← db (.getAllConnections workspaceId)
  match callerOwnerId, workspaceId with
  | some caller, none => do
      let workspaces ← (db .getAllWorkspaces).tryCatch fun e =>
        if e = .dbNotInitialized then return [] else throw e
      let visible := workspaces.filter fun ws =>
        ws.ownerId = caller ∨ ws.ownerId = systemOwnerId
      return (profiles.filter fun p =>
        orDefault defaultWorkspaceId p.workspaceId ∈ visible.map Workspace.id).map fromProfile
  | _, _ => return profiles.map fromProfile

/-- `try: workspace = await db.get_workspace(…) except DBNotInitialized`, which is the outer
`none`. -/
def lookUpWorkspace (workspaceId : String) : DbProgram (Option (Option Workspace)) :=
  (do return some (← db (.getWorkspace workspaceId)) : DbProgram (Option (Option Workspace)))
    |>.tryCatch fun e => if e = .dbNotInitialized then return none else throw e

/-- What the gates make of the workspace of a connection that was found. -/
def refuseOthers (notFound : Exc) (callerOwnerId : String) :
    Option (Option Workspace) → DbProgram Unit
  | none => return ()
  | some none => throw notFound
  | some (some workspace) =>
      if workspace.ownerId ≠ callerOwnerId ∧ workspace.ownerId ≠ systemOwnerId then throw notFound
      else return ()

/-- The owner check behind a connection that was found. -/
def assertOwned (notFound : Exc) (workspaceId callerOwnerId : String) : DbProgram Unit := do
  refuseOthers notFound callerOwnerId (← lookUpWorkspace workspaceId)

/-- The gate of a single connection, and what it gives of the profile behind it. -/
def gated {α : Type} (notFound : Exc) (connId callerOwnerId : String)
    (result : ConnectionProfile → α) : DbProgram α := do
  match ← db (.getConnection connId) with
  | none => throw notFound
  | some conn => do
      assertOwned notFound conn.workspaceId callerOwnerId
      return result conn

/-- `get_connection`. -/
def getConnection (connId callerOwnerId : String) : DbProgram ConnectionProfile :=
  gated (.connectionNotFound connId) connId callerOwnerId fromProfile

/-- `list_workspaces`. -/
def listWorkspaces (callerOwnerId : String) : DbProgram (List Workspace) :=
  db (.getWorkspacesOwnedBy callerOwnerId)

/-- `get_workspace`. -/
def getWorkspace (workspaceId callerOwnerId : String) : DbProgram Workspace := do
  match ← db (.getWorkspace workspaceId) with
  | none => throw (.workspaceNotFound workspaceId)
  | some ws =>
      if isVisibleTo ws callerOwnerId = false then throw (.workspaceNotFound workspaceId)
      else return ws

/-! ### The dependencies -/

/-- The 404 of a connection. -/
def connection404 (connId : String) : Exc := .http 404 ("Connection '" ++ connId ++ "' not found")

/-- `_get_verified_connection`. -/
def getVerifiedConnection (connId callerOwnerId : String) : DbProgram String :=
  gated (connection404 connId) connId callerOwnerId fun _ => connId

/-- `_get_connection_profile`. -/
def getConnectionProfile (connId callerOwnerId : String) : DbProgram ConnectionProfile :=
  gated (connection404 connId) connId callerOwnerId id

/-- `_assert_caller_owns_connection`, the gate of the notes router, behind `VerifiedConnId`. -/
def assertCallerOwnsConnection (connId callerOwnerId : String) : DbProgram String := do
  let connId ← getVerifiedConnection connId callerOwnerId
  match ← db (.getConnection connId) with
  | none => throw (connection404 connId)
  | some profile =>
      match ← db (.getWorkspace profile.workspaceId) with
      | none => throw (connection404 connId)
      | some workspace =>
          if workspace.ownerId ≠ callerOwnerId ∧ workspace.ownerId ≠ systemOwnerId then
            throw (connection404 connId)
          else return connId

/-! ### One predicate -/

/-- What the migrations of `init_db` and every later write make sure of: a connection has a
workspace id and a workspace an owner. -/
structure Backfilled (t : Tables) : Prop where
  workspaceId : ∀ row ∈ t.connections, ∃ workspaceId, row.workspaceId = some workspaceId ∧
    workspaceId ≠ ""
  ownerId : ∀ ws ∈ t.workspaces, ws.ownerId ≠ ""

/-- What the models require of what is stored: `ownerId` has a minimum length, and
`create_connection` defaults the workspace. -/
def WellFormed : DbOp → Prop
  | .createConnection conn _ => conn.workspaceId ≠ ""
  | .createWorkspace ws => ws.ownerId ≠ ""
  | _ => True

/-- Every call keeps the database initialised. -/
theorem Backfilled.exec {rt : Runtime} {t : Tables} (h : Backfilled t) {r : DbOp}
    (hr : WellFormed r) : Backfilled (r.exec rt t).2 := by
  cases r with
  | createConnection conn nonce =>
    rw [exec_createConnection]
    cases hu : t.connections.insert? (profileToRow rt nonce conn) with
    | none => exact h
    | some u =>
      refine ⟨fun row hrow => ?_, h.ownerId⟩
      rcases (Table.mem_insert? hu).1 hrow with hrow | rfl
      · exact h.workspaceId row hrow
      · exact ⟨conn.workspaceId, rfl, hr⟩
  | updateConnection connId data now nonce =>
    rcases exec_updateConnection rt t connId data now nonce with
      heq | ⟨found, existing, conn, -, -, hconn, heq⟩
    · rwa [heq]
    · rw [heq]
      refine ⟨fun row hrow => ?_, h.ownerId⟩
      obtain ⟨old, hold, rfl⟩ := mem_assignConnection.1 hrow
      split
      · refine ⟨conn.workspaceId, rfl, ?_⟩
        rw [(buildMergedProfile_ok hconn).2.2]
        exact orDefault_ne (by decide)
      · exact h.workspaceId old hold
  | deleteConnection connId =>
    exact ⟨fun row hrow => h.workspaceId row (Table.mem_delete.1 hrow).1, h.ownerId⟩
  | createWorkspace ws =>
    rcases exec_createWorkspace rt t ws with heq | ⟨u, hu, heq⟩
    · rwa [heq]
    · rw [heq]
      refine ⟨h.workspaceId, fun ws' hws => ?_⟩
      rcases (Table.mem_insert? hu).1 hws with hws | rfl
      · exact h.ownerId ws' hws
      · exact hr
  | updateWorkspace workspaceId data now =>
    rcases exec_updateWorkspace rt t workspaceId data now with
      heq | ⟨_, _, updated, -, -, -, heq⟩
    · rwa [heq]
    · rw [heq]
      refine ⟨h.workspaceId, fun ws' hws' => ?_⟩
      obtain ⟨old, hold, rfl⟩ := mem_assignWorkspace.1 hws'
      split <;> exact h.ownerId old hold
  | deleteWorkspace workspaceId =>
    rcases exec_deleteWorkspace rt t workspaceId with heq | ⟨-, heq⟩
    · rwa [heq]
    · rw [heq]
      exact ⟨h.workspaceId, fun ws hws => h.ownerId ws (Table.mem_delete.1 hws).1⟩
  | _ => exact h

/-- The profile of a row that can be read. -/
def readProfile (rt : Runtime) (row : ConnectionRow) : ConnectionProfile :=
  match decryptedProfile rt row with
  | .ok p => p
  | .error _ => row.toProfile rt

/-- The workspace exists and is the caller's or the system's. -/
def WorkspaceVisible (t : Tables) (callerOwnerId workspaceId : String) : Prop :=
  ∃ ws ∈ t.workspaces, ws.id = workspaceId ∧
    (ws.ownerId = callerOwnerId ∨ ws.ownerId = systemOwnerId)

/-- The connection exists, and so does its workspace, owned by the caller or by the system. -/
def Visible (t : Tables) (callerOwnerId connId : String) : Prop :=
  ∃ row ∈ t.connections, row.id = connId ∧
    ∃ workspaceId, row.workspaceId = some workspaceId ∧
      WorkspaceVisible t callerOwnerId workspaceId

section Run

variable {rt : Runtime} {t : Tables} {callerOwnerId connId workspaceId : String}

theorem withOwner_eq (ht : Backfilled t) {ws : Workspace} (h : ws ∈ t.workspaces) :
    ws.withOwner = ws := by
  rw [Workspace.withOwner, orDefault, if_neg (ht.ownerId ws h)]

/-- What a lookup finds, once every workspace can be read. -/
theorem exists_getWorkspace (hread : Readable rt t) (workspaceId : String) :
    ∃ found, Db.getWorkspace workspaceId t = .ok found :=
  ⟨_, getWorkspace_of_readable hread.workspaces⟩

/-- The shared rule is the predicate. -/
theorem visibleIn_iff (ht : Backfilled t) (hread : Readable rt t) :
    visibleIn t callerOwnerId workspaceId = true ↔
      WorkspaceVisible t callerOwnerId workspaceId := by
  rw [visibleIn_of_ok (getWorkspace_of_readable hread.workspaces)]
  cases h : t.workspaces.find? workspaceId with
  | none =>
    refine iff_of_false (by simp [ownedOrShared]) ?_
    rintro ⟨ws, hmem, hid, -⟩
    exact Table.find?_eq_none.1 h ws hmem hid
  | some ws =>
    obtain ⟨hmem, hid⟩ := Table.find?_eq_some.1 h
    rw [Option.map_some, withOwner_eq ht hmem]
    simp only [ownedOrShared, Option.any_some, decide_eq_true_eq]
    constructor
    · exact fun howner => ⟨ws, hmem, hid, howner⟩
    · rintro ⟨ws', hmem', hid', howner⟩
      rwa [Table.eq_of_key hmem hmem' (hid.trans hid'.symm)]

theorem run_lookUpWorkspace {found : Option Workspace}
    (h : Db.getWorkspace workspaceId t = .ok found) :
    (lookUpWorkspace workspaceId).run (DbOp.exec rt) t = (.ok (some found), t) := by
  simp only [lookUpWorkspace, Coroutine.run_tryCatch, Coroutine.run_bind, Coroutine.run_call,
    DbOp.exec, reading, h]
  rfl

/-- The owner check, on the tables. -/
theorem run_assertOwned (hread : Readable rt t) {notFound : Exc} :
    (assertOwned notFound workspaceId callerOwnerId).run (DbOp.exec rt) t =
      (if visibleIn t callerOwnerId workspaceId then .ok () else .error notFound, t) := by
  obtain ⟨found, hfound⟩ := exists_getWorkspace hread workspaceId
  rw [assertOwned, Coroutine.run_bind, run_lookUpWorkspace hfound, visibleIn_of_ok hfound]
  dsimp only
  cases found with
  | none => rfl
  | some ws =>
    simp only [refuseOthers, foreign_iff]
    cases ownedOrShared (some ws) callerOwnerId <;> rfl

theorem readProfile_eq (row : ConnectionRow) :
    (readProfile rt row).id = row.id ∧
      (readProfile rt row).workspaceId = (row.toProfile rt).workspaceId := by
  unfold readProfile
  cases hprofile : decryptedProfile rt row with
  | error e => exact ⟨rfl, rfl⟩
  | ok conn =>
    obtain ⟨-, password, -, rfl⟩ := decryptedProfile_eq_ok.1 hprofile
    exact ⟨rfl, rfl⟩

theorem decryptedProfile_eq (hread : Readable rt t) {row : ConnectionRow}
    (h : row ∈ t.connections) : decryptedProfile rt row = .ok (readProfile rt row) := by
  obtain ⟨conn, hconn⟩ := hread.connections row h
  rw [readProfile, hconn]

/-- A gate, on the tables. -/
theorem run_gated {α : Type} {notFound : Exc} {result : ConnectionProfile → α}
    (hread : Readable rt t) :
    (gated notFound connId callerOwnerId result).run (DbOp.exec rt) t =
      (match t.connections.find? connId with
        | none => .error notFound
        | some row =>
            if visibleIn t callerOwnerId (row.toProfile rt).workspaceId then
              .ok (result (readProfile rt row))
            else .error notFound, t) := by
  simp only [gated, Coroutine.run_bind, Coroutine.run_call, DbOp.exec, reading, Db.getConnection]
  cases hrow : t.connections.find? connId with
  | none => rfl
  | some row =>
    simp only [decryptedProfile_eq hread (Table.find?_eq_some.1 hrow).1, Except.map,
      Coroutine.run_bind, run_assertOwned hread, (readProfile_eq row).2]
    cases visibleIn t callerOwnerId (row.toProfile rt).workspaceId <;> rfl

/-- A row names the workspace its profile is in. -/
theorem workspaceId_of_mem (rt : Runtime) (ht : Backfilled t) {row : ConnectionRow}
    (h : row ∈ t.connections) :
    row.workspaceId = some (readProfile rt row).workspaceId ∧
      (readProfile rt row).workspaceId ≠ "" := by
  obtain ⟨w, hw, hne⟩ := ht.workspaceId row h
  rw [(readProfile_eq row).2, ConnectionRow.toProfile, hw]
  simp [orDefault, hne]

theorem mapM_decryptedProfile (hread : Readable rt t) {rows : List ConnectionRow}
    (h : ∀ row ∈ rows, row ∈ t.connections) :
    rows.mapM (decryptedProfile rt) = .ok (rows.map (readProfile rt)) :=
  mapM_eq_ok_map fun row hrow => decryptedProfile_eq hread (h row hrow)

theorem mapM_rowToWorkspace (ht : Backfilled t) (hread : Readable rt t) {rows : List Workspace}
    (h : ∀ row ∈ rows, row ∈ t.workspaces) : rows.mapM rowToWorkspace = .ok rows := by
  rw [mapM_eq_ok_map (g := id), List.map_id]
  intro row hrow
  obtain ⟨ws, hws⟩ := hread.workspaces row (h row hrow)
  obtain ⟨-, rfl⟩ := rowToWorkspace_eq_ok.1 hws
  rw [hws, withOwner_eq ht (h row hrow), id]

/-- All the workspaces, in the order `get_all_workspaces` returns them. -/
theorem getAllWorkspaces_eq (ht : Backfilled t) (hread : Readable rt t) :
    getAllWorkspaces t = .ok (t.workspaces.rows.insertionSort Workspace.before) :=
  mapM_rowToWorkspace ht hread fun _ hrow => (List.mem_insertionSort _).1 hrow

/-- The visible set of `list_connections` is the rule. -/
theorem mem_visible_iff (ht : Backfilled t) (hread : Readable rt t) :
    workspaceId ∈ (((t.workspaces.rows.insertionSort Workspace.before).filter fun ws =>
        ws.ownerId = callerOwnerId ∨ ws.ownerId = systemOwnerId).map Workspace.id) ↔
      visibleIn t callerOwnerId workspaceId = true := by
  rw [visibleIn_iff ht hread, List.mem_map]
  simp only [List.mem_filter, List.mem_insertionSort, decide_eq_true_eq]
  constructor
  · rintro ⟨ws, ⟨hmem, howner⟩, hid⟩
    exact ⟨ws, hmem, hid, howner⟩
  · rintro ⟨ws, hmem, hid, howner⟩
    exact ⟨ws, ⟨hmem, howner⟩, hid⟩

/-- The rows in the order `get_all_connections` returns them. -/
abbrev byCreation (rows : List ConnectionRow) : List ConnectionRow :=
  rows.insertionSort fun a b => a.createdAt ≤ b.createdAt

theorem run_listConnections_all (ht : Backfilled t) (hread : Readable rt t) :
    (listConnections none (some callerOwnerId)).run (DbOp.exec rt) t =
      (.ok ((((byCreation t.connections.rows).map (readProfile rt)).filter fun p =>
        visibleIn t callerOwnerId p.workspaceId).map fromProfile), t) := by
  have hrows : ∀ row ∈ byCreation t.connections.rows, row ∈ t.connections :=
    fun row hrow => (List.mem_insertionSort _).1 hrow
  have hall : getAllConnections rt none t =
      .ok ((byCreation t.connections.rows).map (readProfile rt)) :=
    mapM_decryptedProfile hread hrows
  have hfilter : ∀ p ∈ (byCreation t.connections.rows).map (readProfile rt),
      decide (orDefault defaultWorkspaceId p.workspaceId ∈
        ((t.workspaces.rows.insertionSort Workspace.before).filter fun ws =>
          ws.ownerId = callerOwnerId ∨ ws.ownerId = systemOwnerId).map Workspace.id) =
      visibleIn t callerOwnerId p.workspaceId := by
    intro p hp
    obtain ⟨row, hrow, rfl⟩ := List.mem_map.1 hp
    rw [orDefault, if_neg (workspaceId_of_mem rt ht (hrows row hrow)).2, Bool.eq_iff_iff,
      decide_eq_true_eq, mem_visible_iff ht hread]
  rw [← List.filter_congr hfilter]
  simp only [listConnections, Coroutine.run_bind, Coroutine.run_pure, Coroutine.run_call,
    Coroutine.run_tryCatch, DbOp.exec, reading, hall, getAllWorkspaces_eq ht hread]

/-- The rows of one workspace. -/
abbrev inWorkspace (rows : List ConnectionRow) (workspaceId : String) : List ConnectionRow :=
  rows.filter fun row => row.workspaceId = some workspaceId

theorem run_assertWorkspaceVisible {found : Option Workspace}
    (h : Db.getWorkspace workspaceId t = .ok found) :
    (assertWorkspaceVisible workspaceId (some callerOwnerId)).run (DbOp.exec rt) t =
      (if visibleIn t callerOwnerId workspaceId then .ok ()
        else .error (.workspaceNotFound workspaceId), t) := by
  simp only [assertWorkspaceVisible, visibleIn_of_ok h, Coroutine.run_bind, Coroutine.run_call,
    DbOp.exec, reading, h]
  cases found with
  | none => rfl
  | some ws =>
    simp only [foreign_iff]
    cases ownedOrShared (some ws) callerOwnerId <;> rfl

theorem run_listConnections_some (hread : Readable rt t) :
    (listConnections (some workspaceId) (some callerOwnerId)).run (DbOp.exec rt) t =
      (if visibleIn t callerOwnerId workspaceId then
          .ok (((byCreation (inWorkspace t.connections.rows workspaceId)).map
            (readProfile rt)).map fromProfile)
        else .error (.workspaceNotFound workspaceId), t) := by
  have hall : getAllConnections rt (some workspaceId) t =
      .ok ((byCreation (inWorkspace t.connections.rows workspaceId)).map (readProfile rt)) := by
    refine mapM_decryptedProfile hread fun row hrow => ?_
    exact List.mem_of_mem_filter ((List.mem_insertionSort _).1 hrow)
  obtain ⟨found, hfound⟩ := exists_getWorkspace hread workspaceId
  simp only [listConnections, Coroutine.run_bind, Coroutine.run_call,
    run_assertWorkspaceVisible hfound]
  cases visibleIn t callerOwnerId workspaceId with
  | false => rfl
  | true =>
    simp only [if_true, DbOp.exec, reading, hall]
    rfl

theorem run_assertCallerOwnsConnection (hread : Readable rt t) :
    (assertCallerOwnsConnection connId callerOwnerId).run (DbOp.exec rt) t =
      (match t.connections.find? connId with
        | none => .error (connection404 connId)
        | some row =>
            if visibleIn t callerOwnerId (row.toProfile rt).workspaceId then .ok connId
            else .error (connection404 connId), t) := by
  rw [assertCallerOwnsConnection, Coroutine.run_bind, getVerifiedConnection, run_gated hread]
  cases hrow : t.connections.find? connId with
  | none => rfl
  | some row =>
    dsimp only
    cases hvisible : visibleIn t callerOwnerId (row.toProfile rt).workspaceId with
    | false => simp
    | true =>
      have hget : Db.getConnection rt connId t = .ok (some (readProfile rt row)) := by
        rw [Db.getConnection, hrow]
        simp only [decryptedProfile_eq hread (Table.find?_eq_some.1 hrow).1]
        rfl
      obtain ⟨found, hfound⟩ := exists_getWorkspace hread (row.toProfile rt).workspaceId
      simp only [if_true, Coroutine.run_bind, Coroutine.run_call, DbOp.exec, reading, hget,
        (readProfile_eq row).2, hfound]
      rw [visibleIn_of_ok hfound] at hvisible
      cases found with
      | none => cases hvisible
      | some ws =>
        dsimp only
        rw [if_neg fun howner => foreign_iff.1 howner hvisible]
        rfl

theorem run_getWorkspace {found : Option Workspace}
    (h : Db.getWorkspace workspaceId t = .ok found) :
    (getWorkspace workspaceId callerOwnerId).run (DbOp.exec rt) t =
      (match found with
        | none => .error (.workspaceNotFound workspaceId)
        | some ws =>
            if isVisibleTo ws callerOwnerId then .ok ws
            else .error (.workspaceNotFound workspaceId), t) := by
  simp only [getWorkspace, Coroutine.run_bind, Coroutine.run_call, DbOp.exec, reading, h]
  cases found with
  | none => rfl
  | some ws =>
    dsimp only
    cases isVisibleTo ws callerOwnerId <;> rfl

/-- The predicate, as the gates compute it. -/
theorem visible_iff (ht : Backfilled t) (hread : Readable rt t) :
    Visible t callerOwnerId connId ↔ ∃ row, t.connections.find? connId = some row ∧
      visibleIn t callerOwnerId (row.toProfile rt).workspaceId = true := by
  constructor
  · rintro ⟨row, hmem, hid, w, hw, hvisible⟩
    refine ⟨row, Table.find?_eq_some.2 ⟨hmem, hid⟩, ?_⟩
    have := (workspaceId_of_mem rt ht hmem).1
    rw [← (readProfile_eq row).2, visibleIn_iff ht hread]
    rw [hw, Option.some.injEq] at this
    exact this ▸ hvisible
  · rintro ⟨row, hrow, hvisible⟩
    obtain ⟨hmem, hid⟩ := Table.find?_eq_some.1 hrow
    rw [← (readProfile_eq row).2, visibleIn_iff ht hread] at hvisible
    exact ⟨row, hmem, hid, _, (workspaceId_of_mem rt ht hmem).1, hvisible⟩

end Run

/-! ### The gates -/

/-- How each gate answers a caller it lets through to a connection. -/
structure Admitted (rt : Runtime) (t : Tables) (callerOwnerId connId : String) : Prop where
  listed : ∃ l, (listConnections none (some callerOwnerId)).run (DbOp.exec rt) t = (.ok l, t) ∧
    ∃ p ∈ l, p.id = connId
  fetched : ∃ p, (getConnection connId callerOwnerId).run (DbOp.exec rt) t = (.ok p, t)
  verified : (getVerifiedConnection connId callerOwnerId).run (DbOp.exec rt) t = (.ok connId, t)
  profile : ∃ p, (getConnectionProfile connId callerOwnerId).run (DbOp.exec rt) t = (.ok p, t)
  notes : (assertCallerOwnsConnection connId callerOwnerId).run (DbOp.exec rt) t = (.ok connId, t)

/-- How each gate answers a caller it refuses a connection. -/
structure Refused (rt : Runtime) (t : Tables) (callerOwnerId connId : String) : Prop where
  listed : ∃ l, (listConnections none (some callerOwnerId)).run (DbOp.exec rt) t = (.ok l, t) ∧
    ∀ p ∈ l, p.id ≠ connId
  fetched : (getConnection connId callerOwnerId).run (DbOp.exec rt) t =
    (.error (.connectionNotFound connId), t)
  verified : (getVerifiedConnection connId callerOwnerId).run (DbOp.exec rt) t =
    (.error (connection404 connId), t)
  profile : (getConnectionProfile connId callerOwnerId).run (DbOp.exec rt) t =
    (.error (connection404 connId), t)
  notes : (assertCallerOwnsConnection connId callerOwnerId).run (DbOp.exec rt) t =
    (.error (connection404 connId), t)

section Gates

variable {rt : Runtime} {t : Tables} {callerOwnerId connId : String}

/-- The list has the connection exactly if it is visible. -/
theorem mem_listed_iff (ht : Backfilled t) (hread : Readable rt t) :
    (∃ p ∈ (((byCreation t.connections.rows).map (readProfile rt)).filter fun p =>
        visibleIn t callerOwnerId p.workspaceId).map fromProfile, p.id = connId) ↔
      Visible t callerOwnerId connId := by
  rw [visible_iff ht hread]
  constructor
  · rintro ⟨p, hp, hid⟩
    obtain ⟨q, hq, rfl⟩ := List.mem_map.1 hp
    obtain ⟨hq, hvisible⟩ := List.mem_filter.1 hq
    obtain ⟨row, hrow, rfl⟩ := List.mem_map.1 hq
    rw [fromProfile, (readProfile_eq row).1] at hid
    rw [(readProfile_eq row).2] at hvisible
    exact ⟨row, Table.find?_eq_some.2 ⟨(List.mem_insertionSort _).1 hrow, hid⟩, hvisible⟩
  · rintro ⟨row, hrow, hvisible⟩
    obtain ⟨hmem, hid⟩ := Table.find?_eq_some.1 hrow
    refine ⟨fromProfile (readProfile rt row), List.mem_map_of_mem (List.mem_filter.2 ⟨?_, ?_⟩), ?_⟩
    · exact List.mem_map_of_mem ((List.mem_insertionSort _).2 hmem)
    · rw [(readProfile_eq row).2]
      exact hvisible
    · rw [fromProfile, (readProfile_eq row).1]
      exact hid

theorem admitted_of_visible (ht : Backfilled t) (hread : Readable rt t)
    (h : Visible t callerOwnerId connId) : Admitted rt t callerOwnerId connId := by
  obtain ⟨row, hrow, hvisible⟩ := (visible_iff ht hread).1 h
  refine ⟨⟨_, run_listConnections_all ht hread, (mem_listed_iff ht hread).2 h⟩,
    ⟨fromProfile (readProfile rt row), ?_⟩, ?_, ⟨readProfile rt row, ?_⟩, ?_⟩
  · rw [getConnection, run_gated hread, hrow]
    simp only [hvisible, if_true]
  · rw [getVerifiedConnection, run_gated hread, hrow]
    simp only [hvisible, if_true]
  · rw [getConnectionProfile, run_gated hread, hrow]
    simp only [hvisible, if_true]
    rfl
  · rw [run_assertCallerOwnsConnection hread, hrow]
    simp only [hvisible, if_true]

theorem refused_of_not_visible (ht : Backfilled t) (hread : Readable rt t)
    (h : ¬ Visible t callerOwnerId connId) : Refused rt t callerOwnerId connId := by
  have hlisted := mt (mem_listed_iff ht hread).1 h
  rw [visible_iff ht hread, not_exists] at h
  have hgate : ∀ {α : Type} (notFound : Exc) (result : ConnectionProfile → α),
      (gated notFound connId callerOwnerId result).run (DbOp.exec rt) t = (.error notFound, t) := by
    intro α notFound result
    rw [run_gated hread]
    cases hrow : t.connections.find? connId with
    | none => rfl
    | some row => simp [show visibleIn t callerOwnerId (row.toProfile rt).workspaceId = false by
        simpa [hrow] using h row]
  refine ⟨⟨_, run_listConnections_all ht hread, fun p hp hid => hlisted ⟨p, hp, hid⟩⟩,
    hgate _ _, hgate _ _, hgate _ _, ?_⟩
  rw [assertCallerOwnsConnection, Coroutine.run_bind, getVerifiedConnection, hgate]

/-- `get_workspace` returns the stored workspace to a caller the rule lets through. -/
theorem run_getWorkspace_of_visible {workspaceId : String} {ws : Workspace}
    (hget : Db.getWorkspace workspaceId t = .ok (some ws))
    (h : visibleIn t callerOwnerId workspaceId = true) :
    (getWorkspace workspaceId callerOwnerId).run (DbOp.exec rt) t = (.ok ws, t) := by
  rw [visibleIn_of_ok hget] at h
  have : isVisibleTo ws callerOwnerId = true := by
    simpa [ownedOrShared, isVisibleTo] using h
  rw [run_getWorkspace hget]
  simp only [this, if_true]

/-- `get_workspace` answers exactly the callers the rule lets through. -/
theorem run_getWorkspace_visible (hread : Readable rt t) {workspaceId : String}
    (h : visibleIn t callerOwnerId workspaceId = true) :
    ∃ ws, (getWorkspace workspaceId callerOwnerId).run (DbOp.exec rt) t = (.ok ws, t) := by
  obtain ⟨found, hget⟩ := exists_getWorkspace hread workspaceId
  cases found with
  | none =>
    rw [visibleIn_of_ok hget] at h
    cases h
  | some ws => exact ⟨ws, run_getWorkspace_of_visible hget h⟩

theorem run_getWorkspace_not_visible (hread : Readable rt t) {workspaceId : String}
    (h : visibleIn t callerOwnerId workspaceId = false) :
    (getWorkspace workspaceId callerOwnerId).run (DbOp.exec rt) t =
      (.error (.workspaceNotFound workspaceId), t) := by
  obtain ⟨found, hget⟩ := exists_getWorkspace hread workspaceId
  rw [run_getWorkspace hget]
  rw [visibleIn_of_ok hget] at h
  cases found with
  | none => rfl
  | some ws =>
    have : isVisibleTo ws callerOwnerId = false := by
      simpa [ownedOrShared, isVisibleTo] using h
    simp [this]

/-- The workspaces `list_workspaces` keeps, in its order. -/
abbrev ownedOrSharedRows (t : Tables) (callerOwnerId : String) : List Workspace :=
  (t.workspaces.rows.filter fun ws => ws.ownerId = callerOwnerId ∨ ws.ownerId = systemOwnerId)
    |>.insertionSort Workspace.before

theorem run_listWorkspaces (ht : Backfilled t) (hread : Readable rt t) :
    (listWorkspaces callerOwnerId).run (DbOp.exec rt) t =
      (.ok (ownedOrSharedRows t callerOwnerId), t) := by
  have hrows : getWorkspacesOwnedBy callerOwnerId t = .ok (ownedOrSharedRows t callerOwnerId) :=
    mapM_rowToWorkspace ht hread fun _ hrow =>
      List.mem_of_mem_filter ((List.mem_insertionSort _).1 hrow)
  simp only [listWorkspaces, Coroutine.run_call, DbOp.exec, reading, hrows]

/-- The listed workspaces are those the rule lets through. -/
theorem mem_ownedOrSharedRows_iff (ht : Backfilled t) (hread : Readable rt t)
    {workspaceId : String} :
    (∃ ws ∈ ownedOrSharedRows t callerOwnerId, ws.id = workspaceId) ↔
      visibleIn t callerOwnerId workspaceId = true := by
  rw [visibleIn_iff ht hread]
  simp only [List.mem_insertionSort, List.mem_filter, decide_eq_true_eq]
  constructor
  · rintro ⟨ws, ⟨hmem, howner⟩, hid⟩
    exact ⟨ws, hmem, hid, howner⟩
  · rintro ⟨ws, hmem, hid, howner⟩
    exact ⟨ws, ⟨hmem, howner⟩, hid⟩

/-- Sorting and reading the rows of one visible workspace, or keeping those of it among all the
visible ones, gives the same connections. -/
theorem listed_perm (ht : Backfilled t) {workspaceId : String}
    (h : visibleIn t callerOwnerId workspaceId = true) :
    (((byCreation (inWorkspace t.connections.rows workspaceId)).map (readProfile rt)).map
        fromProfile).Perm
      (((((byCreation t.connections.rows).map (readProfile rt)).filter fun p =>
          visibleIn t callerOwnerId p.workspaceId).map fromProfile).filter
        (·.workspaceId = workspaceId)) := by
  have hworkspace : ∀ row ∈ byCreation t.connections.rows,
      decide (row.workspaceId = some workspaceId) =
        (visibleIn t callerOwnerId (readProfile rt row).workspaceId &&
          decide ((fromProfile (readProfile rt row)).workspaceId = workspaceId)) := by
    intro row hrow
    have hmem : row ∈ t.connections := (List.mem_insertionSort _).1 hrow
    rw [(workspaceId_of_mem rt ht hmem).1, fromProfile]
    by_cases heq : (readProfile rt row).workspaceId = workspaceId
    · simp [heq, h]
    · simp [heq]
  have hfilter : ((((byCreation t.connections.rows).map (readProfile rt)).filter fun p =>
        visibleIn t callerOwnerId p.workspaceId).map fromProfile).filter
          (·.workspaceId = workspaceId) =
      ((inWorkspace (byCreation t.connections.rows) workspaceId).map (readProfile rt)).map
        fromProfile := by
    rw [inWorkspace, List.filter_congr hworkspace]
    simp only [List.filter_map, List.filter_filter, Function.comp_def, List.map_map]
    congr 2
    funext row
    exact Bool.and_comm _ _
  rw [hfilter]
  refine ((List.perm_insertionSort _ _).trans ?_).map _ |>.map _
  exact ((List.perm_insertionSort _ _).filter _).symm

/-- **The gates of a connection agree.** On an initialised database whose rows can be read, every
gate lets a caller through to a connection exactly if it is visible, the workspaces are
listed exactly as they are fetched, and the connections listed for a workspace are those of the
full list. -/
theorem gates_agree (rt : Runtime) (t : Tables) (ht : Backfilled t) (hread : Readable rt t)
    (callerOwnerId : String) :
    (∀ connId, (Visible t callerOwnerId connId → Admitted rt t callerOwnerId connId) ∧
      (¬ Visible t callerOwnerId connId → Refused rt t callerOwnerId connId)) ∧
    (∃ workspaces connections,
      (listWorkspaces callerOwnerId).run (DbOp.exec rt) t = (.ok workspaces, t) ∧
      (listConnections none (some callerOwnerId)).run (DbOp.exec rt) t = (.ok connections, t) ∧
      ∀ workspaceId,
        ((∃ ws, (getWorkspace workspaceId callerOwnerId).run (DbOp.exec rt) t = (.ok ws, t)) ∧
          (∃ ws ∈ workspaces, ws.id = workspaceId) ∧
          ∃ l, (listConnections (some workspaceId) (some callerOwnerId)).run (DbOp.exec rt) t =
              (.ok l, t) ∧ l.Perm (connections.filter (·.workspaceId = workspaceId))) ∨
        ((getWorkspace workspaceId callerOwnerId).run (DbOp.exec rt) t =
            (.error (.workspaceNotFound workspaceId), t) ∧
          (∀ ws ∈ workspaces, ws.id ≠ workspaceId) ∧
          (listConnections (some workspaceId) (some callerOwnerId)).run (DbOp.exec rt) t =
            (.error (.workspaceNotFound workspaceId), t))) := by
  refine ⟨fun connId => ⟨admitted_of_visible ht hread, refused_of_not_visible ht hread⟩,
    _, _, run_listWorkspaces ht hread, run_listConnections_all ht hread, fun workspaceId => ?_⟩
  cases hvisible : visibleIn t callerOwnerId workspaceId with
  | true =>
    refine Or.inl ⟨run_getWorkspace_visible hread hvisible,
      (mem_ownedOrSharedRows_iff ht hread).2 hvisible, _, ?_, listed_perm ht hvisible⟩
    rw [run_listConnections_some hread, hvisible]
    rfl
  | false =>
    refine Or.inr ⟨run_getWorkspace_not_visible hread hvisible, fun ws hmem hid => ?_, ?_⟩
    · have := (mem_ownedOrSharedRows_iff ht hread).1 ⟨ws, hmem, hid⟩
      rw [hvisible] at this
      cases this
    · rw [run_listConnections_some hread, hvisible]
      rfl

end Gates

/-! ### A rotated key -/

/-- A key that decrypts no token of another key. -/
def rotatedRuntime : Runtime := ⟨⟨fun _ plaintext => plaintext, fun _ => none⟩, id⟩

/-- A connection in the default workspace. -/
def inDefault (id : String) (password : Option String) : ConnectionRow where
  id := id
  name := id
  hosts := ["h"]
  port := 3000
  clusterName := none
  username := none
  password := password
  color := "#0097D3"
  note := none
  labels := none
  workspaceId := some defaultWorkspaceId
  createdAt := "0"
  updatedAt := "0"

/-- The first password was encrypted under the key before the rotation. -/
def staleRows : List ConnectionRow :=
  [inDefault "c1" (some "enc:v1:token"), inDefault "c2" none]

theorem nodup_staleRows : (staleRows.map ConnectionRow.id).Nodup := by decide

/-- Two connections in the default workspace. -/
def staleTables : Tables where
  connections := ⟨staleRows, nodup_staleRows⟩
  workspaces := .singleton { id := defaultWorkspaceId, name := "Default", isDefault := true,
                             ownerId := systemOwnerId, createdAt := "0", updatedAt := "0" }
  setNotes := .empty
  recordNotes := .empty
  guides := .empty

theorem backfilled_staleTables : Backfilled staleTables := by
  refine ⟨fun row hrow => ⟨defaultWorkspaceId, ?_, by decide⟩, fun ws hws => ?_⟩
  · rcases List.mem_cons.1 hrow with rfl | hrow
    · rfl
    · cases List.mem_singleton.1 hrow
      rfl
  · cases List.mem_singleton.1 hws
    decide

/-- The second connection is fetched, but the list raises on the first one. -/
theorem stale_key_hides_the_list :
    Backfilled staleTables ∧ Visible staleTables systemOwnerId "c2" ∧
      (∃ p, (getConnection "c2" systemOwnerId).run (DbOp.exec rotatedRuntime) staleTables =
        (.ok p, staleTables)) ∧
      (listConnections none (some systemOwnerId)).run (DbOp.exec rotatedRuntime) staleTables =
        (.error .kekMismatch, staleTables) := by
  refine ⟨backfilled_staleTables, ?_, ⟨_, rfl⟩, rfl⟩
  exact ⟨inDefault "c2" none, List.mem_cons_of_mem _ List.mem_cons_self, rfl, defaultWorkspaceId,
    rfl, _, List.mem_singleton_self _, rfl, Or.inr rfl⟩

/-- Under the key they were written with, the rows can be read. -/
theorem readable_staleTables : Readable plainRuntime staleTables := by
  refine ⟨fun row hrow => ?_, fun ws hws => ?_⟩
  · rcases List.mem_cons.1 hrow with rfl | hrow
    · exact ⟨_, rfl⟩
    · cases List.mem_singleton.1 hrow
      exact ⟨_, rfl⟩
  · cases List.mem_singleton.1 hws
    exact ⟨_, rfl⟩

/-- Everybody gets at both connections of the default workspace, and at no other one. -/
theorem gates_agree_staleTables :
    Admitted plainRuntime staleTables "alice" "c1" ∧
      Admitted plainRuntime staleTables "alice" "c2" ∧
      Refused plainRuntime staleTables "alice" "c3" := by
  have hgates := (gates_agree plainRuntime staleTables backfilled_staleTables readable_staleTables
    "alice").1
  have hdefault : WorkspaceVisible staleTables "alice" defaultWorkspaceId :=
    ⟨_, List.mem_singleton_self _, rfl, Or.inr rfl⟩
  refine ⟨(hgates "c1").1 ?_, (hgates "c2").1 ?_, (hgates "c3").2 ?_⟩
  · exact ⟨inDefault "c1" (some "enc:v1:token"), List.mem_cons_self, rfl, defaultWorkspaceId, rfl,
      hdefault⟩
  · exact ⟨inDefault "c2" none, List.mem_cons_of_mem _ List.mem_cons_self, rfl,
      defaultWorkspaceId, rfl, hdefault⟩
  · rintro ⟨row, hrow, hid, -⟩
    have hne : ∀ row ∈ staleRows, row.id ≠ "c3" := by decide
    exact hne row hrow hid

end ClusterManager.Services
