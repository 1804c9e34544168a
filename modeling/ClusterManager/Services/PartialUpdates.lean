import ClusterManager.Db.Validation
import ClusterManager.Services.Gates
import ClusterManager.Targets.Policy

/-!
# Partial updates

What `update_connection` and `update_workspace` of the services make of a request the models
accept: a refusal that leaves the tables alone, or a merge that the next fetch returns. A request
may set a field to `None` that the stored model requires, and the target gate may raise for a host
with a null character; `partial_updates_merge_iff` says that nothing else comes in between.
-/

namespace ClusterManager.Services

open Db Targets
open Db.Sqlite (Field normal_of_decrypted normal_of_merged buildMergedProfile_identity
  decryptedProfile_assign)

/-- The default workspace is there, marked as such, belongs to the system, and can be read. -/
def DefaultShared (t : Tables) : Prop :=
  ∃ ws ∈ t.workspaces, ws.id = defaultWorkspaceId ∧ ws.isDefault = true ∧
    ws.ownerId = systemOwnerId ∧ rowToWorkspace ws = .ok ws

/-- The workspace is not there, or not the caller's to see. -/
def isHidden (t : Tables) (callerOwnerId : Option String) (workspaceId : String) : Bool :=
  match Db.getWorkspace workspaceId t with
  | .ok found => !callerOwnerId.elim found.isSome (ownedOrShared found)
  | .error _ => false

/-- The workspace a request moves a connection to, if the check of `update_connection` refuses
it. -/
def refusedTarget (t : Tables) (data : UpdateData) (callerOwnerId : Option String) :
    Option String :=
  match data.workspaceId with
  | some (some target) => if isHidden t callerOwnerId target then some target else none
  | _ => none

/-- The workspace a request moves a connection to, if it names one, can be read. -/
def readsTarget (t : Tables) (data : UpdateData) : Bool :=
  match data.workspaceId with
  | some (some target) => (Db.getWorkspace target t).toBool
  | _ => true

/-! ### What an update should do -/

/-- The profile `conn` is `existing` with the request merged into it. -/
structure Merged (rt : Runtime) (existing : ConnectionProfile) (data : UpdateData)
    (conn : ConnectionProfile) : Prop where
  valid : conn.isValid = true
  id : conn.id = existing.id
  createdAt : conn.createdAt = existing.createdAt
  kept : ∀ f : Field, f.isSet data = false → f.get conn = f.get existing
  given : ∀ (f : Field) (v : f.Value), f.given rt data = some v → f.get conn = v

/-- How an update of the connection `existing` may end: with one of two refusals and the tables as
they were, or with the merged profile, which is stored and which the caller, and every other reader
of its workspace, fetches next. -/
inductive UpdateMerges (rt : Runtime) (t : Tables) (existing : ConnectionProfile)
    (data : UpdateData) (callerOwnerId : Option String) :
    Except Exc ConnectionProfile × Tables → Prop
  | blockedTarget (host : String) :
      UpdateMerges rt t existing data callerOwnerId (.error (.blockedTarget host), t)
  | workspaceNotFound (workspaceId : String) :
      UpdateMerges rt t existing data callerOwnerId (.error (.workspaceNotFound workspaceId), t)
  | merged (conn : ConnectionProfile) (t' : Tables) (merged : Merged rt existing data conn)
      (stored : Db.getConnection rt existing.id t' = .ok (some conn))
      (fetched : ∀ reader, callerOwnerId = some reader ∨
          visibleIn t' reader conn.workspaceId = true →
        (getConnection existing.id reader).run (DbOp.exec rt) t' = (.ok (fromProfile conn), t')) :
      UpdateMerges rt t existing data callerOwnerId (.ok (fromProfile conn), t')

/-- The workspace `ws` is `existing` with the request merged into it. -/
structure MergedWorkspace (existing : Workspace) (data : WorkspaceUpdateData) (ws : Workspace) :
    Prop where
  valid : ws.isValid = true
  id : ws.id = existing.id
  createdAt : ws.createdAt = existing.createdAt
  isDefault : ws.isDefault = existing.isDefault
  ownerId : ws.ownerId = existing.ownerId
  kept : ∀ f : WorkspaceField, f.isSet data = false → f.get ws = f.get existing
  given : ∀ (f : WorkspaceField) (v : f.Value), f.given data = some v → f.get ws = v

/-- How an update of the workspace `existing` may end. -/
inductive WorkspaceUpdateMerges (rt : Runtime) (t : Tables) (existing : Workspace)
    (data : WorkspaceUpdateData) (callerOwnerId : String) : Except Exc Workspace × Tables → Prop
  | workspaceNotFound (workspaceId : String) :
      WorkspaceUpdateMerges rt t existing data callerOwnerId
        (.error (.workspaceNotFound workspaceId), t)
  | merged (ws : Workspace) (t' : Tables) (merged : MergedWorkspace existing data ws)
      (stored : Db.getWorkspace existing.id t' = .ok (some ws))
      (fetched : ∀ reader, reader = callerOwnerId ∨ visibleIn t' reader existing.id = true →
        (getWorkspace existing.id reader).run (DbOp.exec rt) t' = (.ok ws, t')) :
      WorkspaceUpdateMerges rt t existing data callerOwnerId (.ok ws, t')

/-! ### The default workspace -/

section Default

variable {rt : Runtime} {t : Tables}

theorem visibleIn_default (h : DefaultShared t) (callerOwnerId : String) :
    visibleIn t callerOwnerId defaultWorkspaceId = true := by
  obtain ⟨ws, hmem, hid, -, howner, hread⟩ := h
  have hget : Db.getWorkspace defaultWorkspaceId t = .ok (some ws) := by
    rw [Db.getWorkspace, Table.find?_eq_some.2 ⟨hmem, hid⟩]
    simp only [hread, Except.map]
  rw [visibleIn_of_ok hget]
  simp [ownedOrShared, howner]

/-- Every call into the `db` module keeps the default workspace. -/
theorem DefaultShared.exec (h : DefaultShared t) (r : DbOp) : DefaultShared (r.exec rt t).2 := by
  obtain ⟨ws, hmem, hid, hdefault, howner, hread⟩ := h
  cases r with
  | createConnection conn nonce =>
    rw [exec_createConnection]
    split <;> exact ⟨ws, hmem, hid, hdefault, howner, hread⟩
  | updateConnection connId data now nonce =>
    rcases exec_updateConnection rt t connId data now nonce with
      heq | ⟨_, _, _, -, -, -, heq⟩ <;> rw [heq] <;> exact ⟨ws, hmem, hid, hdefault, howner, hread⟩
  | deleteConnection connId => exact ⟨ws, hmem, hid, hdefault, howner, hread⟩
  | createWorkspace ws' =>
    rcases exec_createWorkspace rt t ws' with heq | ⟨u, hu, heq⟩
    · rw [heq]
      exact ⟨ws, hmem, hid, hdefault, howner, hread⟩
    · rw [heq]
      exact ⟨ws, (Table.mem_insert? hu).2 (Or.inl hmem), hid, hdefault, howner, hread⟩
  | updateWorkspace workspaceId data now =>
    rcases exec_updateWorkspace rt t workspaceId data now with
      heq | ⟨_, _, updated, -, -, hupdated, heq⟩
    · rw [heq]
      exact ⟨ws, hmem, hid, hdefault, howner, hread⟩
    · rw [heq]
      refine ⟨_, mem_assignWorkspace.2 ⟨ws, hmem, rfl⟩, ?_⟩
      split
      · refine ⟨hid, hdefault, howner, rowToWorkspace_eq_ok.2
          ⟨isValid_assign (isValid_of_buildMergedWorkspace hupdated) ws, ?_⟩⟩
        simp [Workspace.withOwner, Workspace.assign, howner, orDefault, systemOwnerId]
      · exact ⟨hid, hdefault, howner, hread⟩
  | deleteWorkspace workspaceId =>
    simp only [DbOp.exec, Db.deleteWorkspace, Dml.apply, Except.map, writing,
      Tables.removeWorkspace]
    split
    next hremoved =>
      have hne : ws.id ≠ workspaceId := by
        rintro rfl
        simp [Table.find?_eq_some.2 ⟨hmem, rfl⟩, hdefault] at hremoved
      exact ⟨ws, Table.mem_delete.2 ⟨hmem, by simpa using hne⟩, hid, hdefault, howner, hread⟩
    next => exact ⟨ws, hmem, hid, hdefault, howner, hread⟩
  | _ => exact ⟨ws, hmem, hid, hdefault, howner, hread⟩

end Default

/-! ### The gates -/

/-- The target gate refuses a host, or raises for a null character in one. -/
theorem assertTargetsAllowed_error {allowPrivateTargets : Bool}
    {hosts : List String} {port : ℕ} {e : Exc}
    (h : assertTargetsAllowed allowPrivateTargets hosts port = .error e) :
    (∃ host, e = .blockedTarget host) ∨ e = .other "ValueError: embedded null character" := by
  induction hosts with
  | nil => cases h
  | cons host hosts ih =>
    rcases exists_of_bind_error h with h | ⟨blocked, -, h⟩
    · refine Or.inr ?_
      unfold isBlockedTarget parseIpLiteral at h
      split at h
      · cases h
      split at h
      · cases h
      split at h
      · cases h
      split at h
      · exact (Except.error.inj h).symm
      · cases h
    · cases blocked with
      | true => exact Or.inl ⟨host, (Except.error.inj h).symm⟩
      | false => exact ih h

theorem assertUpdateTargets_error {allowPrivateTargets : Bool}
    {data : UpdateData} {e : Exc}
    (h : assertUpdateTargets (assertTargetsAllowed allowPrivateTargets) data = .error e) :
    (∃ host, e = .blockedTarget host) ∨ e = .other "ValueError: embedded null character" := by
  unfold assertUpdateTargets at h
  split at h
  · exact assertTargetsAllowed_error h
  · cases h

section Run

variable {rt : Runtime} {t : Tables} {gate : TargetGate} {data : UpdateData}
  {callerOwnerId : Option String} {connId now : String} {nonce : ℕ}

/-- The check of a workspace that can be read, on the tables. -/
theorem run_assertWorkspaceVisible_isHidden {workspaceId : String} {found : Option Workspace}
    (h : Db.getWorkspace workspaceId t = .ok found) :
    (assertWorkspaceVisible workspaceId callerOwnerId).run (DbOp.exec rt) t =
      (if isHidden t callerOwnerId workspaceId then .error (.workspaceNotFound workspaceId)
        else .ok (), t) := by
  cases callerOwnerId with
  | none =>
    simp only [assertWorkspaceVisible, Coroutine.run_bind, Coroutine.run_call, DbOp.exec, reading,
      isHidden, h]
    cases found <;> rfl
  | some caller =>
    rw [run_assertWorkspaceVisible h, visibleIn_of_ok h]
    simp only [isHidden, h, Option.elim]
    cases ownedOrShared found caller <;> rfl

/-- The check raises what reading the workspace raises. -/
theorem run_assertWorkspaceVisible_of_error {workspaceId : String} {e : Exc}
    (h : Db.getWorkspace workspaceId t = .error e) :
    (assertWorkspaceVisible workspaceId callerOwnerId).run (DbOp.exec rt) t = (.error e, t) := by
  simp only [assertWorkspaceVisible, Coroutine.run_bind, Coroutine.run_call, DbOp.exec, reading, h]

/-- Where the target can be read, the workspace check refuses the move, and nothing else. -/
theorem run_assertUpdateWorkspace (hread : readsTarget t data = true) :
    (assertUpdateWorkspace data callerOwnerId).run (DbOp.exec rt) t =
      ((refusedTarget t data callerOwnerId).elim (.ok ()) fun target =>
        .error (.workspaceNotFound target), t) := by
  rcases hdata : data.workspaceId with _ | _ | target
  · simp only [assertUpdateWorkspace, refusedTarget, hdata]
    rfl
  · simp only [assertUpdateWorkspace, refusedTarget, hdata]
    rfl
  · cases hfound : Db.getWorkspace target t with
    | error e => simp [readsTarget, hdata, hfound, Except.toBool] at hread
    | ok found =>
      simp only [assertUpdateWorkspace, refusedTarget, hdata,
        run_assertWorkspaceVisible_isHidden hfound]
      cases isHidden t callerOwnerId target <;> rfl

/-- A target that is refused could be read. -/
theorem readsTarget_of_refused {target : String}
    (h : refusedTarget t data callerOwnerId = some target) : readsTarget t data = true := by
  rcases hdata : data.workspaceId with _ | _ | target'
  · simp only [readsTarget, hdata]
  · simp only [readsTarget, hdata]
  · cases hfound : Db.getWorkspace target' t with
    | ok found => simp only [readsTarget, hdata, hfound, Except.toBool]
    | error e => simp [refusedTarget, isHidden, hdata, hfound] at h

/-- What the target gate raises is what the update raises. -/
theorem run_updateConnection_of_gate {e : Exc} (hgate : assertUpdateTargets gate data = .error e) :
    (updateConnection gate connId data callerOwnerId now nonce).run (DbOp.exec rt) t =
      (.error e, t) := by
  rw [updateConnection, Coroutine.run_bind, Coroutine.run_lift, hgate]

/-- A move that is refused ends the update. -/
theorem run_updateConnection_of_refused (hgate : assertUpdateTargets gate data = .ok ())
    {target : String} (htarget : refusedTarget t data callerOwnerId = some target) :
    (updateConnection gate connId data callerOwnerId now nonce).run (DbOp.exec rt) t =
      (.error (.workspaceNotFound target), t) := by
  rw [updateConnection, Coroutine.run_bind, Coroutine.run_lift, hgate]
  dsimp only
  rw [Coroutine.run_bind, run_assertUpdateWorkspace (readsTarget_of_refused htarget), htarget]
  rfl

/-- A target that cannot be read ends the update, too. -/
theorem run_updateConnection_of_unread (hgate : assertUpdateTargets gate data = .ok ())
    (hread : readsTarget t data = false) :
    (updateConnection gate connId data callerOwnerId now nonce).run (DbOp.exec rt) t =
      (.error .validationError, t) := by
  rw [updateConnection, Coroutine.run_bind, Coroutine.run_lift, hgate]
  dsimp only
  rw [Coroutine.run_bind]
  rcases hdata : data.workspaceId with _ | _ | target
  · simp [readsTarget, hdata] at hread
  · simp [readsTarget, hdata] at hread
  · cases hfound : Db.getWorkspace target t with
    | ok found => simp [readsTarget, hdata, hfound, Except.toBool] at hread
    | error e =>
      obtain rfl := getWorkspace_error hfound
      simp only [assertUpdateWorkspace, hdata, run_assertWorkspaceVisible_of_error hfound]

/-- Past the gates the update is that of the `db` module. -/
theorem run_updateConnection_of_passed (hgate : assertUpdateTargets gate data = .ok ())
    (hread : readsTarget t data = true) (htarget : refusedTarget t data callerOwnerId = none)
    {row : ConnectionRow} (hrow : t.connections.find? connId = some row) {existing : ConnectionProfile}
    (hexisting : decryptedProfile rt row = .ok existing) :
    (updateConnection gate connId data callerOwnerId now nonce).run (DbOp.exec rt) t =
      match buildMergedProfile rt existing data connId now with
      | .ok conn => (.ok (fromProfile conn), t.assignConnection connId (profileToRow rt nonce conn))
      | .error e => (.error e, t) := by
  rw [updateConnection, Coroutine.run_bind, Coroutine.run_lift, hgate]
  dsimp only
  rw [Coroutine.run_bind, run_assertUpdateWorkspace hread, htarget]
  dsimp only [Option.elim]
  rw [Coroutine.run_bind, Coroutine.run_call]
  simp only [DbOp.exec, Db.updateConnection, hrow, hexisting, ok_bind]
  cases buildMergedProfile rt existing data connId now <;> rfl

/-- A stored profile is fetched by every reader who sees its workspace. -/
theorem run_getConnection_of_stored {conn : ConnectionProfile} {reader : String}
    (hstored : Db.getConnection rt connId t = .ok (some conn))
    (hvisible : visibleIn t reader conn.workspaceId = true) :
    (getConnection connId reader).run (DbOp.exec rt) t = (.ok (fromProfile conn), t) := by
  rw [getConnection, gated, Coroutine.run_bind, Coroutine.run_call]
  simp only [DbOp.exec, reading, hstored]
  obtain ⟨ws, hws, howner⟩ := exists_of_visibleIn hvisible
  simp only [assertOwned, Coroutine.run_bind, run_lookUpWorkspace hws, refuseOthers, foreign_iff,
    howner]
  rfl

end Run

/-! ### Updating a connection -/

section Connection

variable {rt : Runtime} {t : Tables} {row : ConnectionRow} {existing conn : ConnectionProfile}
  {callerOwnerId : Option String} {now : String} {nonce : ℕ}

theorem id_of_decrypted (h : decryptedProfile rt row = .ok existing) : existing.id = row.id := by
  obtain ⟨-, password, -, rfl⟩ := decryptedProfile_eq_ok.1 h
  rfl

/-- A merge that went through is the merge of the request. -/
theorem merged_of_ok (hlower : rt.LowerLawful) (hexisting : decryptedProfile rt row = .ok existing)
    (payload : UpdateConnectionRequest)
    (h : buildMergedProfile rt existing payload.toUpdateData row.id now = .ok conn) :
    Merged rt existing payload.toUpdateData conn where
  valid := isValid_of_buildMergedProfile h
  id := (buildMergedProfile_identity h).1.trans (id_of_decrypted hexisting).symm
  createdAt := (buildMergedProfile_identity h).2
  kept _ hf := get_of_merged (normal_of_decrypted hlower hexisting) h hf
  given _ _ hf := get_of_given h hf

/-- The row that was rewritten reads as the merged profile. -/
theorem getConnection_assignConnection (hf : rt.fernet.Lawful) (hlower : rt.LowerLawful)
    (nonce : ℕ) (hrow : t.connections.find? row.id = some row)
    (hexisting : decryptedProfile rt row = .ok existing) {data : UpdateData}
    (h : buildMergedProfile rt existing data row.id now = .ok conn) :
    Db.getConnection rt row.id (t.assignConnection row.id (profileToRow rt nonce conn)) =
      .ok (some conn) := by
  obtain ⟨hid, hcreated⟩ := buildMergedProfile_identity h
  have hread : decryptedProfile rt ((profileToRow rt nonce conn).assign row) = .ok conn :=
    decryptedProfile_assign hf hexisting (normal_of_merged hlower h)
      (isValid_of_buildMergedProfile h) hid hcreated
  have hfind : (t.assignConnection row.id (profileToRow rt nonce conn)).connections.find? row.id =
      some ((profileToRow rt nonce conn).assign row) := by
    rw [Tables.assignConnection, Table.find?_update, if_pos rfl, hrow]
    rfl
  rw [Db.getConnection, hfind]
  dsimp only
  rw [hread]
  rfl

/-- The caller sees the workspace the connection is in after the merge. -/
theorem visibleIn_of_merged (hlower : rt.LowerLawful) (ht : DefaultShared t)
    (hexisting : decryptedProfile rt row = .ok existing) {data : UpdateData} {caller : String}
    (hvisible : visibleIn t caller existing.workspaceId = true)
    (hread : readsTarget t data = true) (htarget : refusedTarget t data (some caller) = none)
    (h : buildMergedProfile rt existing data row.id now = .ok conn) :
    visibleIn t caller conn.workspaceId = true := by
  rw [(buildMergedProfile_ok h).2.2]
  rcases hdata : data.workspaceId with _ | _ | target
  · have hne := (normal_of_decrypted hlower hexisting).workspaceId
    simpa [orDefault, hne] using hvisible
  · exact visibleIn_default ht caller
  · by_cases hempty : target = ""
    · simpa [orDefault, hempty] using visibleIn_default ht caller
    · cases hfound : Db.getWorkspace target t with
      | error e => simp [readsTarget, hdata, hfound, Except.toBool] at hread
      | ok found =>
        simpa [refusedTarget, hdata, isHidden, orDefault, hempty, hfound, visibleIn] using htarget

/-- Past the gates, an accepted request without a `None` for a required field merges. -/
theorem updateMerges_of_passed (hf : rt.fernet.Lawful) (hlower : rt.LowerLawful)
    (ht : DefaultShared t) (hmem : row ∈ t.connections)
    (hexisting : decryptedProfile rt row = .ok existing)
    (hvisible : ∀ caller, callerOwnerId = some caller →
      visibleIn t caller existing.workspaceId = true)
    {gate : TargetGate} (payload : UpdateConnectionRequest)
    (hgate : assertUpdateTargets gate payload.toUpdateData = .ok ())
    (hread : readsTarget t payload.toUpdateData = true)
    (htarget : refusedTarget t payload.toUpdateData callerOwnerId = none)
    (hnulls : payload.nullsRequired = false) :
    UpdateMerges rt t existing payload.toUpdateData callerOwnerId
      ((updateConnection gate row.id payload.toUpdateData callerOwnerId now nonce).run
        (DbOp.exec rt) t) := by
  have hrow : t.connections.find? row.id = some row := Table.find?_eq_some.2 ⟨hmem, rfl⟩
  obtain ⟨conn, hconn⟩ := exists_buildMergedProfile rt payload row.id now
    (isValid_of_decrypted hexisting) hnulls
  have hstored := getConnection_assignConnection hf hlower nonce hrow hexisting hconn
  rw [run_updateConnection_of_passed hgate hread htarget hrow hexisting, hconn]
  dsimp only
  rw [← id_of_decrypted hexisting] at hstored ⊢
  refine .merged conn _ (merged_of_ok hlower hexisting payload hconn) hstored ?_
  rintro reader (rfl | hreader)
  · -- the update leaves the workspaces alone, so the caller still sees the one it checked
    exact run_getConnection_of_stored hstored
      (visibleIn_of_merged hlower ht hexisting (hvisible reader rfl) hread htarget hconn)
  · exact run_getConnection_of_stored hstored hreader

/-- An update may end with no other error than the two refusals. -/
theorem not_updateMerges_error {data : UpdateData} {e : Exc} {t' : Tables}
    (hblocked : ∀ host, e ≠ .blockedTarget host)
    (hnotFound : ∀ workspaceId, e ≠ .workspaceNotFound workspaceId) :
    ¬UpdateMerges rt t existing data callerOwnerId (.error e, t') := by
  intro h
  cases h with
  | blockedTarget host => exact hblocked host rfl
  | workspaceNotFound workspaceId => exact hnotFound workspaceId rfl

/-- An update of a connection ends as it should exactly if no `ValidationError` and no `ValueError`
gets in. -/
theorem updateMerges_iff (hf : rt.fernet.Lawful) (hlower : rt.LowerLawful)
    (ht : DefaultShared t) (hmem : row ∈ t.connections)
    (hexisting : decryptedProfile rt row = .ok existing)
    {allowPrivateTargets : Bool} (payload : UpdateConnectionRequest)
    (hvisible : ∀ caller, callerOwnerId = some caller →
      visibleIn t caller existing.workspaceId = true) :
    UpdateMerges rt t existing payload.toUpdateData callerOwnerId
        ((updateConnection (assertTargetsAllowed allowPrivateTargets) row.id
          payload.toUpdateData callerOwnerId now nonce).run (DbOp.exec rt) t) ↔
      (∃ host, assertUpdateTargets (assertTargetsAllowed allowPrivateTargets)
        payload.toUpdateData = .error (.blockedTarget host)) ∨
      (assertUpdateTargets (assertTargetsAllowed allowPrivateTargets)
          payload.toUpdateData = .ok () ∧
        ((refusedTarget t payload.toUpdateData callerOwnerId).isSome = true ∨
          readsTarget t payload.toUpdateData = true ∧ payload.nullsRequired = false)) := by
  have hrow : t.connections.find? row.id = some row := Table.find?_eq_some.2 ⟨hmem, rfl⟩
  cases hgate : assertUpdateTargets (assertTargetsAllowed allowPrivateTargets)
      payload.toUpdateData with
  | error e =>
    rw [run_updateConnection_of_gate hgate]
    rcases assertUpdateTargets_error hgate with ⟨host, rfl⟩ | rfl
    · exact iff_of_true (.blockedTarget host) (Or.inl ⟨host, rfl⟩)
    · refine iff_of_false (not_updateMerges_error (by simp) (by simp)) ?_
      rintro (⟨host, hhost⟩ | ⟨hok, -⟩)
      · cases hhost
      · cases hok
  | ok u =>
    cases htarget : refusedTarget t payload.toUpdateData callerOwnerId with
    | some target =>
      rw [run_updateConnection_of_refused hgate htarget]
      exact iff_of_true (.workspaceNotFound target) (Or.inr ⟨rfl, Or.inl rfl⟩)
    | none =>
      cases hread : readsTarget t payload.toUpdateData with
      | false =>
        rw [run_updateConnection_of_unread hgate hread]
        exact iff_of_false (not_updateMerges_error (by simp) (by simp)) (by simp)
      | true =>
        cases hnulls : payload.nullsRequired with
        | false =>
          exact iff_of_true (updateMerges_of_passed hf hlower ht hmem hexisting hvisible payload
            hgate hread htarget hnulls) (Or.inr ⟨rfl, Or.inr ⟨rfl, rfl⟩⟩)
        | true =>
          -- the merge meets the `None`, and its error is neither of the two refusals
          rw [run_updateConnection_of_passed hgate hread htarget hrow hexisting,
            buildMergedProfile_of_nullsRequired rt existing row.id now hnulls]
          exact iff_of_false (not_updateMerges_error (by simp) (by simp)) (by simp)

end Connection

/-! ### Updating a workspace -/

section Workspace

variable {rt : Runtime} {t : Tables} {row ws existing : Workspace}
  {workspaceId callerOwnerId now : String} {data : WorkspaceUpdateData}

theorem run_ownedWorkspace_of_owned (hget : Db.getWorkspace workspaceId t = .ok (some ws)) :
    (ownedWorkspace workspaceId ws.ownerId).run (DbOp.exec rt) t = (.ok ws, t) := by
  simp [ownedWorkspace, Coroutine.run_bind, DbOp.exec, reading, hget, isVisibleTo, isOwnedBy]

theorem run_ownedWorkspace_of_other (hget : Db.getWorkspace workspaceId t = .ok (some ws))
    (howner : ws.ownerId ≠ callerOwnerId) :
    (ownedWorkspace workspaceId callerOwnerId).run (DbOp.exec rt) t =
      (.error (.workspaceNotFound workspaceId), t) := by
  simp [ownedWorkspace, Coroutine.run_bind, DbOp.exec, reading, hget, isOwnedBy, howner]

theorem getWorkspace_of_row (hrow : t.workspaces.find? workspaceId = some row)
    (hexisting : rowToWorkspace row = .ok existing) :
    Db.getWorkspace workspaceId t = .ok (some existing) := by
  rw [Db.getWorkspace, hrow]
  simp only [hexisting, Except.map]

/-- For its owner the update is that of the `db` module. -/
theorem run_updateWorkspace_of_owned (hrow : t.workspaces.find? workspaceId = some row)
    (hexisting : rowToWorkspace row = .ok existing) :
    (updateWorkspace workspaceId data existing.ownerId now).run (DbOp.exec rt) t =
      match buildMergedWorkspace existing data now with
      | .ok ws => (.ok ws, t.assignWorkspace workspaceId ws)
      | .error e => (.error e, t) := by
  rw [updateWorkspace, Coroutine.run_bind,
    run_ownedWorkspace_of_owned (getWorkspace_of_row hrow hexisting)]
  dsimp only
  rw [Coroutine.run_bind, Coroutine.run_call]
  simp only [DbOp.exec, Db.updateWorkspace, hrow, hexisting, ok_bind]
  cases buildMergedWorkspace existing data now <;> rfl

/-- Nobody else gets to it. -/
theorem run_updateWorkspace_of_other (hrow : t.workspaces.find? workspaceId = some row)
    (hexisting : rowToWorkspace row = .ok existing) (howner : existing.ownerId ≠ callerOwnerId) :
    (updateWorkspace workspaceId data callerOwnerId now).run (DbOp.exec rt) t =
      (.error (.workspaceNotFound workspaceId), t) := by
  rw [updateWorkspace, Coroutine.run_bind,
    run_ownedWorkspace_of_other (getWorkspace_of_row hrow hexisting) howner]

/-- The row that was rewritten reads as the merged workspace. -/
theorem getWorkspace_assignWorkspace (hrow : t.workspaces.find? row.id = some row)
    (hexisting : rowToWorkspace row = .ok existing)
    (h : buildMergedWorkspace existing data now = .ok ws) :
    Db.getWorkspace row.id (t.assignWorkspace row.id ws) = .ok (some ws) := by
  have hread : rowToWorkspace (ws.assign row) = .ok ws := by
    refine rowToWorkspace_eq_ok.2
      ⟨isValid_assign (isValid_of_buildMergedWorkspace h) row, ?_⟩
    obtain ⟨-, rfl⟩ := rowToWorkspace_eq_ok.1 hexisting
    obtain ⟨name, color, -, -, rfl⟩ := exists_of_buildMergedWorkspace h
    rfl
  refine getWorkspace_of_row ?_ hread
  rw [Tables.assignWorkspace, Table.find?_update, if_pos rfl, hrow]
  rfl

/-- A merge that went through is the merge of the request. -/
theorem mergedWorkspace_of_ok (payload : UpdateWorkspaceRequest)
    (h : buildMergedWorkspace existing payload.toWorkspaceUpdateData now = .ok ws) :
    MergedWorkspace existing payload.toWorkspaceUpdateData ws where
  valid := isValid_of_buildMergedWorkspace h
  id := (buildMergedWorkspace_ok h).1
  createdAt := createdAt_of_mergedWorkspace h
  isDefault := (buildMergedWorkspace_ok h).2.1
  ownerId := (buildMergedWorkspace_ok h).2.2
  kept _ hf := get_of_mergedWorkspace h hf
  given _ _ hf := get_of_givenWorkspace h hf

/-- For the owner, an accepted request without a `None` for a required field merges. -/
theorem workspaceUpdateMerges_of_owned (hmem : row ∈ t.workspaces)
    (hexisting : rowToWorkspace row = .ok existing) (payload : UpdateWorkspaceRequest)
    (hnulls : payload.nullsRequired = false) :
    WorkspaceUpdateMerges rt t existing payload.toWorkspaceUpdateData existing.ownerId
      ((updateWorkspace row.id payload.toWorkspaceUpdateData existing.ownerId now).run
        (DbOp.exec rt) t) := by
  have hrow : t.workspaces.find? row.id = some row := Table.find?_eq_some.2 ⟨hmem, rfl⟩
  obtain ⟨hvalid, heq⟩ := rowToWorkspace_eq_ok.1 hexisting
  obtain ⟨ws, hws⟩ := exists_buildMergedWorkspace payload now (heq ▸ hvalid) hnulls
  have hstored := getWorkspace_assignWorkspace hrow hexisting hws
  have howner : ws.ownerId = existing.ownerId := (buildMergedWorkspace_ok hws).2.2
  have hid : existing.id = row.id := by rw [heq, Workspace.withOwner]
  rw [run_updateWorkspace_of_owned hrow hexisting, hws]
  dsimp only
  rw [← hid] at hstored ⊢
  refine .merged ws _ (mergedWorkspace_of_ok payload hws) hstored fun reader hreader => ?_
  refine run_getWorkspace_of_visible hstored ?_
  rcases hreader with rfl | hreader
  · rw [visibleIn_of_ok hstored]
    simp [ownedOrShared, howner]
  · exact hreader

/-- An update may end with no other error than the refusal. -/
theorem not_workspaceUpdateMerges_error {e : Exc} {t' : Tables}
    (hnotFound : ∀ workspaceId, e ≠ .workspaceNotFound workspaceId) :
    ¬WorkspaceUpdateMerges rt t existing data callerOwnerId (.error e, t') := by
  intro h
  cases h with
  | workspaceNotFound workspaceId => exact hnotFound workspaceId rfl

/-- An update of a workspace ends as it should exactly if no `ValidationError` gets in. -/
theorem workspaceUpdateMerges_iff (hmem : row ∈ t.workspaces)
    (hexisting : rowToWorkspace row = .ok existing) (payload : UpdateWorkspaceRequest) :
    WorkspaceUpdateMerges rt t existing payload.toWorkspaceUpdateData callerOwnerId
        ((updateWorkspace row.id payload.toWorkspaceUpdateData callerOwnerId now).run
          (DbOp.exec rt) t) ↔
      existing.ownerId ≠ callerOwnerId ∨ payload.nullsRequired = false := by
  have hrow : t.workspaces.find? row.id = some row := Table.find?_eq_some.2 ⟨hmem, rfl⟩
  by_cases howner : existing.ownerId = callerOwnerId
  · subst howner
    cases hnulls : payload.nullsRequired with
    | false =>
      exact iff_of_true (workspaceUpdateMerges_of_owned hmem hexisting payload hnulls) (Or.inr rfl)
    | true =>
      rw [run_updateWorkspace_of_owned hrow hexisting,
        buildMergedWorkspace_of_nullsRequired existing now hnulls]
      refine iff_of_false (not_workspaceUpdateMerges_error (by simp)) ?_
      rintro (hne | hfalse)
      · exact hne rfl
      · cases hfalse
  · rw [run_updateWorkspace_of_other hrow hexisting howner]
    exact iff_of_true (.workspaceNotFound row.id) (Or.inl howner)

end Workspace

/-! ### Both updates -/

/-- **A partial update merges unless a `None` or a null character gets past the request model.**
On a row that decodes, an update of a visible connection ends as it should exactly if the target
gate refuses a host, or it passes and the request is refused its workspace or, its workspace being
one that can be read, sets no required field to `None`; an update of a workspace exactly if the
caller does not own it or the request sets no required field to `None`. -/
theorem partial_updates_merge_iff (rt : Runtime) (hf : rt.fernet.Lawful) (hlower : rt.LowerLawful)
    (allowPrivateTargets : Bool) (t : Tables) (ht : DefaultShared t)
    (now : String) (nonce : ℕ) :
    (∀ row ∈ t.connections, ∀ existing, decryptedProfile rt row = .ok existing →
      ∀ (payload : UpdateConnectionRequest) (callerOwnerId : Option String),
      (∀ caller, callerOwnerId = some caller → visibleIn t caller existing.workspaceId = true) →
      (UpdateMerges rt t existing payload.toUpdateData callerOwnerId
          ((updateConnection (assertTargetsAllowed allowPrivateTargets) row.id
            payload.toUpdateData callerOwnerId now nonce).run (DbOp.exec rt) t) ↔
        (∃ host, assertUpdateTargets (assertTargetsAllowed allowPrivateTargets)
          payload.toUpdateData = .error (.blockedTarget host)) ∨
        (assertUpdateTargets (assertTargetsAllowed allowPrivateTargets)
            payload.toUpdateData = .ok () ∧
          ((refusedTarget t payload.toUpdateData callerOwnerId).isSome = true ∨
            readsTarget t payload.toUpdateData = true ∧ payload.nullsRequired = false)))) ∧
    (∀ row ∈ t.workspaces, ∀ existing, rowToWorkspace row = .ok existing →
      ∀ (payload : UpdateWorkspaceRequest) (callerOwnerId : String),
      (WorkspaceUpdateMerges rt t existing payload.toWorkspaceUpdateData callerOwnerId
          ((updateWorkspace row.id payload.toWorkspaceUpdateData callerOwnerId now).run
            (DbOp.exec rt) t) ↔
        existing.ownerId ≠ callerOwnerId ∨ payload.nullsRequired = false)) :=
  ⟨fun _ hmem _ hexisting payload _ hvisible =>
      updateMerges_iff hf hlower ht hmem hexisting payload hvisible,
    fun _ hmem _ hexisting payload _ => workspaceUpdateMerges_iff hmem hexisting payload⟩

theorem defaultShared_staleTables : DefaultShared staleTables :=
  ⟨_, List.mem_singleton_self _, rfl, rfl, rfl, rfl⟩

/-- A new name, and no note any more. -/
def renameRequest : UpdateConnectionRequest where
  name := some (some "Two")
  note := some none
  name_accepted v hv := by
    cases hv
    decide
  hosts_accepted v hv := by cases hv
  port_accepted v hv := by cases hv
  color_accepted v hv := by cases hv

/-- Another color for a workspace. -/
def recolorRequest : UpdateWorkspaceRequest where
  color := some (some "#FF0000")
  name_accepted v hv := by cases hv
  color_accepted v hv := by
    cases hv
    decide

/-- Both requests are merged. -/
theorem partial_updates_merge_iff_staleTables :
    UpdateMerges plainRuntime staleTables ((inDefault "c2" none).toProfile plainRuntime)
        renameRequest.toUpdateData (some "alice")
        ((updateConnection (assertTargetsAllowed false) "c2"
          renameRequest.toUpdateData (some "alice") "1" 0).run
            (DbOp.exec plainRuntime) staleTables) ∧
      ∀ ws ∈ staleTables.workspaces,
        WorkspaceUpdateMerges plainRuntime staleTables ws
          recolorRequest.toWorkspaceUpdateData systemOwnerId
          ((updateWorkspace ws.id recolorRequest.toWorkspaceUpdateData systemOwnerId "1").run
            (DbOp.exec plainRuntime) staleTables) := by
  have hlower : plainRuntime.LowerLawful := ⟨fun _ => rfl, fun _ h => h, fun _ _ => rfl⟩
  obtain ⟨hconnection, hworkspace⟩ := partial_updates_merge_iff plainRuntime (fun _ _ => rfl) hlower
    false staleTables defaultShared_staleTables "1" 0
  refine ⟨?_, fun ws hws => ?_⟩
  · refine (hconnection (inDefault "c2" none) (List.mem_cons_of_mem _ List.mem_cons_self) _ rfl
      renameRequest (some "alice") ?_).2 (Or.inr ⟨rfl, Or.inr ⟨rfl, rfl⟩⟩)
    exact fun caller _ => visibleIn_default defaultShared_staleTables caller
  · obtain rfl := List.mem_singleton.1 hws
    exact (hworkspace _ hws _ rfl recolorRequest systemOwnerId).2 (Or.inr rfl)

/-- A request with a `None` for the name. -/
def nullNameRequest : UpdateConnectionRequest where
  name := some none
  name_accepted v hv := by cases hv
  hosts_accepted v hv := by cases hv
  port_accepted v hv := by cases hv
  color_accepted v hv := by cases hv

/-- A request with a `None` for the color. -/
def nullColorRequest : UpdateWorkspaceRequest where
  color := some none
  name_accepted v hv := by cases hv
  color_accepted v hv := by cases hv

/-- The model takes both requests, and the merges raise `ValidationError`: neither refusal, and no
merge. -/
theorem partial_updates_null :
    decryptedProfile plainRuntime (inDefault "c2" none) =
        .ok ((inDefault "c2" none).toProfile plainRuntime) ∧
      visibleIn staleTables "alice" defaultWorkspaceId = true ∧
      (updateConnection (assertTargetsAllowed false) "c2"
          nullNameRequest.toUpdateData (some "alice") "1" 0).run
        (DbOp.exec plainRuntime) staleTables = (.error .validationError, staleTables) ∧
      ¬ UpdateMerges plainRuntime staleTables ((inDefault "c2" none).toProfile plainRuntime)
        nullNameRequest.toUpdateData (some "alice")
        ((updateConnection (assertTargetsAllowed false) "c2"
          nullNameRequest.toUpdateData (some "alice") "1" 0).run
            (DbOp.exec plainRuntime) staleTables) ∧
      ∀ ws ∈ staleTables.workspaces,
        rowToWorkspace ws = .ok ws ∧
          (updateWorkspace ws.id nullColorRequest.toWorkspaceUpdateData systemOwnerId "1").run
            (DbOp.exec plainRuntime) staleTables = (.error .validationError, staleTables) ∧
          ¬ WorkspaceUpdateMerges plainRuntime staleTables ws
            nullColorRequest.toWorkspaceUpdateData systemOwnerId
            ((updateWorkspace ws.id nullColorRequest.toWorkspaceUpdateData systemOwnerId "1").run
              (DbOp.exec plainRuntime) staleTables) := by
  have hrun : (updateConnection (assertTargetsAllowed false) "c2"
      nullNameRequest.toUpdateData (some "alice") "1" 0).run (DbOp.exec plainRuntime) staleTables =
        (.error .validationError, staleTables) := rfl
  refine ⟨rfl, visibleIn_default defaultShared_staleTables _, hrun, ?_, fun ws hws => ?_⟩
  · rw [hrun]
    exact not_updateMerges_error (by simp) (by simp)
  · obtain rfl := List.mem_singleton.1 hws
    exact ⟨rfl, rfl, not_workspaceUpdateMerges_error (by simp)⟩

end ClusterManager.Services
