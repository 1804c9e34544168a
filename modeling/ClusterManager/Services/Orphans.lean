import ClusterManager.Lib.Interleaving
import ClusterManager.Services.Connections

/-!
# Orphaned connections

The service calls run interleaved, one atomic `db` call at a time. No connection is orphaned as
long as every write acts on checks that still hold (`orphanFree_iff_checks_hold`): the workspace
`create_connection` or `update_connection` found is still there when the row is written, and the
connections `delete_workspace` counted are still none when the workspace goes. Nothing in the
service enforces this, and a schedule that breaks it leaves an orphan.
-/

namespace ClusterManager.Services

open Db Interleaving

/-- A call into the service layer. -/
inductive Call
  | createConnection (payload : CreateConnectionRequest) (callerOwnerId : Option String)
      (uuid now : String) (nonce : ℕ)
  | updateConnection (connId : String) (data : UpdateData) (callerOwnerId : Option String)
      (now : String) (nonce : ℕ)
  | deleteConnection (connId : String) (callerOwnerId : Option String)
  | createWorkspace (payload : CreateWorkspaceRequest) (ownerId uuid now : String)
  | updateWorkspace (workspaceId : String) (data : WorkspaceUpdateData)
      (callerOwnerId now : String)
  | deleteWorkspace (workspaceId callerOwnerId : String)

/-- An answered `db` call. -/
abbrev DbAnswer : Type := Answer DbOp DbOp.Resp Exc

section

variable (rt : Runtime) (gate : TargetGate)

/-- The program of a call, its response dropped. -/
def Call.program : Call → DbProgram Unit
  | .createConnection payload callerOwnerId uuid now nonce => do
      let _ ← Services.createConnection rt gate payload callerOwnerId uuid now nonce
  | .updateConnection connId data callerOwnerId now nonce => do
      let _ ← Services.updateConnection gate connId data callerOwnerId now nonce
  | .deleteConnection connId callerOwnerId => Services.deleteConnection connId callerOwnerId
  | .createWorkspace payload ownerId uuid now => do
      let _ ← Services.createWorkspace payload ownerId uuid now
  | .updateWorkspace workspaceId data callerOwnerId now => do
      let _ ← Services.updateWorkspace workspaceId data callerOwnerId now
  | .deleteWorkspace workspaceId callerOwnerId =>
      Services.deleteWorkspace workspaceId callerOwnerId

/-- The database: a call takes its atomic effect, or raises without one. -/
def dbWorld : World DbOp DbOp.Resp Exc (Option Exc) Empty Tables where
  exec _ r x t := some (match x with
    | none => r.exec rt t
    | some e => (.error e, t))
  env e _ := nomatch e

end

/-! ### What a call checked before it writes -/

/-- A workspace read by id has that id. -/
def Truthful : (r : DbOp) → Except Exc r.Resp → Prop
  | .getWorkspace workspaceId, .ok (some ws) => ws.id = workspaceId
  | _, _ => True

/-- The checks behind each write of the service. -/
def Checked : DbOp → List DbAnswer → Prop
  | .createConnection conn _, past =>
      conn.workspaceId ≠ "" ∧
        ∃ ws, past = [⟨.getWorkspace conn.workspaceId, .ok (some ws)⟩]
  | .updateConnection _ data _ _, past =>
      match data.workspaceId with
      | some (some target) => ∃ ws, past = [⟨.getWorkspace target, .ok (some ws)⟩]
      | _ => past = []
  | .deleteWorkspace workspaceId, past =>
      workspaceId ≠ defaultWorkspaceId ∧
        ∃ ws, past = [⟨.getWorkspace workspaceId, .ok (some ws)⟩,
          ⟨.countConnectionsInWorkspace workspaceId, .ok 0⟩]
  | .createWorkspace ws, _ => ws.isValid = true
  | _, _ => True

variable {past : List DbAnswer}

/-- Past the visibility check, the workspace was found. -/
theorem safe_assertWorkspaceVisible {workspaceId : String} {callerOwnerId : Option String}
    {Q : Unit → List DbAnswer → Prop}
    (hQ : ∀ ws, Q () (past ++ [⟨.getWorkspace workspaceId, .ok (some ws)⟩])) :
    (assertWorkspaceVisible workspaceId callerOwnerId).Safe (History Truthful) Checked past Q
      fun _ _ => True := by
  simp only [assertWorkspaceVisible, Coroutine.safe_bind, Coroutine.safe_call, History, Checked,
    true_and, implies_true, and_true]
  rintro (_ | ws) s ⟨-, rfl⟩
  · trivial
  · cases callerOwnerId with
    | none => exact hQ ws
    | some caller =>
      dsimp only
      split <;> [trivial; exact hQ ws]

/-- Past the ownership gate, the workspace was found under its id. -/
theorem safe_ownedWorkspace {workspaceId callerOwnerId : String}
    {Q : Workspace → List DbAnswer → Prop}
    (hQ : ∀ ws, ws.id = workspaceId →
      Q ws (past ++ [⟨.getWorkspace workspaceId, .ok (some ws)⟩])) :
    (ownedWorkspace workspaceId callerOwnerId).Safe (History Truthful) Checked past Q
      fun _ _ => True := by
  simp only [ownedWorkspace, Coroutine.safe_bind, Coroutine.safe_call, History, Checked,
    true_and, implies_true, and_true]
  rintro (_ | ws) s ⟨hws, rfl⟩
  · trivial
  · dsimp only
    split
    · trivial
    · split <;> [trivial; exact hQ ws hws]

/-- Every call makes its checks before its write. -/
theorem checked_program (rt : Runtime) (gate : TargetGate) (call : Call) :
    (call.program rt gate).Safe (History Truthful) Checked []
      (fun _ _ => True) (fun _ _ => True) := by
  cases call with
  | createConnection payload callerOwnerId uuid now nonce =>
    simp only [Call.program, createConnection, Coroutine.safe_bind, Coroutine.safe_lift,
      Coroutine.safe_pure]
    refine ⟨fun _ _ => safe_assertWorkspaceVisible fun ws => ⟨fun conn hconn => ?_, by simp⟩,
      by simp⟩
    obtain ⟨-, rfl⟩ := ConnectionProfile.validated_eq_ok.1 hconn
    simp only [Coroutine.safe_call, Checked, newProfile, List.nil_append]
    exact ⟨⟨orDefault_ne (by decide), ws, rfl⟩, by simp⟩
  | updateConnection connId data callerOwnerId now nonce =>
    have hwrite : ∀ past : List DbAnswer,
        Checked (.updateConnection connId data now nonce) past →
          (db (.updateConnection connId data now nonce)).Safe (History Truthful) Checked past
            (fun _ _ => True) fun _ _ => True :=
      fun past h => Coroutine.safe_call.2 ⟨h, fun _ _ _ => trivial, fun _ _ _ => trivial⟩
    simp only [Call.program, updateConnection, Coroutine.safe_bind, Coroutine.safe_lift,
      Coroutine.safe_pure]
    refine ⟨fun _ _ => ?_, by simp⟩
    -- only a request that names a workspace is checked before the write
    rcases hws : data.workspaceId with _ | _ | target
    · simp only [assertUpdateWorkspace, hws, Coroutine.safe_pure]
      refine (hwrite _ (by simp only [Checked, hws])).mono ?_ fun _ _ => id
      rintro (_ | conn) s - <;> trivial
    · simp only [assertUpdateWorkspace, hws, Coroutine.safe_pure]
      refine (hwrite _ (by simp only [Checked, hws])).mono ?_ fun _ _ => id
      rintro (_ | conn) s - <;> trivial
    · simp only [assertUpdateWorkspace, hws]
      refine safe_assertWorkspaceVisible fun ws => (hwrite _ ?_).mono ?_ fun _ _ => id
      · simp only [Checked, hws]
        exact ⟨ws, rfl⟩
      · rintro (_ | conn) s - <;> trivial
  | deleteConnection connId callerOwnerId =>
    simp only [Call.program, deleteConnection, Coroutine.safe_bind, Coroutine.safe_pure]
    have hwrite : ∀ past : List DbAnswer, (db (.deleteConnection connId)).Safe
        (History Truthful) Checked past (fun _ _ => True) fun _ _ => True := by
      simp [Checked]
    cases callerOwnerId with
    | none => exact hwrite _
    | some caller =>
      simp only [assertDeletable, Coroutine.safe_bind]
      refine Coroutine.safe_call.2 ⟨trivial, ?_, by simp⟩
      rintro (_ | existing) s -
      · exact hwrite _
      · simp only [workspaceOrNone, Coroutine.safe_bind, Coroutine.safe_tryCatch]
        refine Coroutine.safe_call.2 ⟨trivial, ?_, fun e s _ => ?_⟩
        · rintro (_ | workspace) s -
          · exact hwrite _
          · dsimp only
            split <;> [trivial; exact hwrite _]
        · by_cases he : e = .dbNotInitialized
          · subst he
            exact hwrite _
          · simp only [if_neg he]
            trivial
  | createWorkspace payload ownerId uuid now =>
    simp only [Call.program, createWorkspace, Coroutine.safe_bind, Coroutine.safe_lift,
      Coroutine.safe_pure]
    refine ⟨fun ws hws => ?_, by simp⟩
    obtain ⟨hvalid, rfl⟩ := Workspace.validated_eq_ok.1 hws
    exact Coroutine.safe_call.2 ⟨hvalid, by simp, by simp⟩
  | updateWorkspace workspaceId data callerOwnerId now =>
    simp only [Call.program, updateWorkspace, Coroutine.safe_bind]
    refine safe_ownedWorkspace fun ws _ => ?_
    refine Coroutine.safe_call.2 ⟨trivial, ?_, by simp⟩
    rintro (_ | ws) s - <;> trivial
  | deleteWorkspace workspaceId callerOwnerId =>
    simp only [Call.program, deleteWorkspace, Coroutine.safe_bind]
    refine safe_ownedWorkspace fun ws hws => ?_
    -- the default workspace is never deleted, any other one after its connections were counted
    split
    next => trivial
    next hdefault =>
      refine Coroutine.safe_bind.2 (Coroutine.safe_call.2 ⟨trivial, ?_, by simp⟩)
      rintro remaining s ⟨-, rfl⟩
      split
      next => trivial
      next hzero =>
        obtain rfl : remaining = (0 : ℕ) := Nat.eq_zero_of_not_pos hzero
        refine Coroutine.safe_bind.2 (Coroutine.safe_call.2 ⟨⟨?_, ws, rfl⟩, by simp⟩)
        rintro rfl
        exact hdefault (Or.inr hws)

/-! ### Orphans -/

/-- The workspace is there. -/
def HasWorkspace (t : Tables) (workspaceId : String) : Prop :=
  ∃ ws ∈ t.workspaces, ws.id = workspaceId

/-- Every connection belongs to a workspace that is there. -/
def OrphanFree (t : Tables) : Prop :=
  ∀ row ∈ t.connections, ∃ workspaceId, row.workspaceId = some workspaceId ∧
    HasWorkspace t workspaceId

/-- What `get_connection` and `list_connections` show a caller. -/
def VisibleTo (t : Tables) (row : ConnectionRow) (callerOwnerId : String) : Prop :=
  ∃ ws, getWorkspace (orDefault defaultWorkspaceId (row.workspaceId.getD "")) t = .ok (some ws) ∧
    isVisibleTo ws callerOwnerId = true

/-- What `init_db` leaves: the default workspace is there, the model takes every workspace, and no
connection is orphaned. -/
structure Initialised (t : Tables) : Prop where
  default : HasWorkspace t defaultWorkspaceId
  readable : ReadableWorkspaces t
  orphanFree : OrphanFree t

/-- The check behind an answer would come out the same now. An empty id stands for the default
workspace, as it does in the merge. -/
def StillHolds (t : Tables) : DbAnswer → Prop
  | ⟨.getWorkspace workspaceId, .ok (some _)⟩ =>
      HasWorkspace t (orDefault defaultWorkspaceId workspaceId)
  | ⟨.countConnectionsInWorkspace workspaceId, .ok 0⟩ =>
      ∀ row ∈ t.connections, row.workspaceId ≠ some workspaceId
  | _ => True

/-- The writes that act on a check made before. -/
def actsOnCheck : DbOp → Bool
  | .createConnection _ _ => true
  | .updateConnection _ _ _ _ => true
  | .deleteWorkspace _ => true
  | _ => false

/-- A write that changes the tables acts on checks that still hold. -/
def ChecksStillHold (rt : Runtime) : Guard DbOp DbOp.Resp Exc (Option Exc) Tables :=
  fun _ r x past t => actsOnCheck r = true → x = none → (r.exec rt t).2 ≠ t →
    ∀ a ∈ past, StillHolds t a

section Effects

variable {rt : Runtime} {t : Tables} {workspaceId : String}

theorem hasWorkspace_orDefault (hdef : HasWorkspace t defaultWorkspaceId)
    (h : HasWorkspace t workspaceId) :
    HasWorkspace t (orDefault defaultWorkspaceId workspaceId) := by
  unfold orDefault
  split
  · exact hdef
  · exact h

/-- Without orphans, and with the default workspace, every connection has a caller who sees
it. -/
theorem OrphanFree.visible (h : OrphanFree t) (hdef : HasWorkspace t defaultWorkspaceId)
    (hread : ReadableWorkspaces t) :
    ∀ row ∈ t.connections, ∃ callerOwnerId, VisibleTo t row callerOwnerId := by
  intro row hrow
  obtain ⟨workspaceId, hws, hhas⟩ := h row hrow
  obtain ⟨ws, hmem, hid⟩ := hasWorkspace_orDefault hdef hhas
  have hfind : t.workspaces.find? (orDefault defaultWorkspaceId workspaceId) = some ws :=
    Table.find?_eq_some.2 ⟨hmem, hid⟩
  refine ⟨ws.withOwner.ownerId, ws.withOwner, ?_, by simp [isVisibleTo]⟩
  rw [hws, Option.getD_some, getWorkspace_of_readable hread, hfind]
  rfl

/-- What `create_connection` of the `db` module can leave. -/
theorem exec_createConnection (conn : ConnectionProfile) (nonce : ℕ) :
    (DbOp.exec rt (.createConnection conn nonce) t).2 =
      match t.connections.insert? (profileToRow rt nonce conn) with
      | some connections => { t with connections }
      | none => t := by
  simp only [DbOp.exec, Db.createConnection, Dml.apply]
  cases t.connections.insert? (profileToRow rt nonce conn) <;> rfl

/-- What `update_connection` of the `db` module can leave. -/
theorem exec_updateConnection (rt : Runtime) (t : Tables) (connId : String) (data : UpdateData)
    (now : String) (nonce : ℕ) :
    (DbOp.exec rt (.updateConnection connId data now nonce) t).2 = t ∨
      ∃ row existing conn, t.connections.find? connId = some row ∧
        decryptedProfile rt row = .ok existing ∧
        buildMergedProfile rt existing data connId now = .ok conn ∧
        (DbOp.exec rt (.updateConnection connId data now nonce) t).2 =
          t.assignConnection connId (profileToRow rt nonce conn) := by
  simp only [DbOp.exec, Db.updateConnection]
  cases hrow : t.connections.find? connId with
  | none => exact Or.inl rfl
  | some row =>
  cases hexisting : decryptedProfile rt row with
  | error e =>
    refine Or.inl ?_
    simp only [hexisting, bind, Except.bind]
    rfl
  | ok existing =>
  cases hconn : buildMergedProfile rt existing data connId now with
  | error e =>
    refine Or.inl ?_
    simp only [hexisting, bind, Except.bind, hconn]
    rfl
  | ok conn =>
    refine Or.inr ⟨row, existing, conn, rfl, hexisting, hconn, ?_⟩
    simp only [hexisting, bind, Except.bind, hconn]
    rfl

/-- What `create_workspace` of the `db` module can leave. -/
theorem exec_createWorkspace (rt : Runtime) (t : Tables) (ws : Workspace) :
    (DbOp.exec rt (.createWorkspace ws) t).2 = t ∨
      ∃ workspaces, t.workspaces.insert? ws = some workspaces ∧
        (DbOp.exec rt (.createWorkspace ws) t).2 = { t with workspaces } := by
  simp only [DbOp.exec, Db.createWorkspace, Dml.apply]
  cases hu : t.workspaces.insert? ws with
  | none => exact Or.inl rfl
  | some workspaces => exact Or.inr ⟨workspaces, rfl, rfl⟩

/-- What `update_workspace` of the `db` module can leave. -/
theorem exec_updateWorkspace (rt : Runtime) (t : Tables) (workspaceId : String)
    (data : WorkspaceUpdateData) (now : String) :
    (DbOp.exec rt (.updateWorkspace workspaceId data now) t).2 = t ∨
      ∃ row existing ws, t.workspaces.find? workspaceId = some row ∧
        rowToWorkspace row = .ok existing ∧
        buildMergedWorkspace existing data now = .ok ws ∧
        (DbOp.exec rt (.updateWorkspace workspaceId data now) t).2 =
          t.assignWorkspace workspaceId ws := by
  simp only [DbOp.exec, Db.updateWorkspace]
  cases hrow : t.workspaces.find? workspaceId with
  | none => exact Or.inl rfl
  | some row =>
  cases hexisting : rowToWorkspace row with
  | error e =>
    refine Or.inl ?_
    simp only [hexisting, bind, Except.bind]
    rfl
  | ok existing =>
  cases hws : buildMergedWorkspace existing data now with
  | error e =>
    refine Or.inl ?_
    simp only [hexisting, bind, Except.bind, hws]
    rfl
  | ok ws =>
    refine Or.inr ⟨row, existing, ws, rfl, hexisting, hws, ?_⟩
    simp only [hexisting, bind, Except.bind, hws]
    rfl

/-- What `delete_workspace` of the `db` module can leave. -/
theorem exec_deleteWorkspace (rt : Runtime) (t : Tables) (workspaceId : String) :
    (DbOp.exec rt (.deleteWorkspace workspaceId) t).2 = t ∨
      (HasWorkspace t workspaceId ∧
        (DbOp.exec rt (.deleteWorkspace workspaceId) t).2 =
          { t with
            workspaces := t.workspaces.delete (·.id = workspaceId)
            guides := t.guides.delete (·.workspaceId = workspaceId) }) := by
  simp only [DbOp.exec, Db.deleteWorkspace, Dml.apply, Except.map, writing, Tables.removeWorkspace]
  cases hws : t.workspaces.find? workspaceId with
  | none => exact Or.inl rfl
  | some ws =>
    cases hdef : ws.isDefault with
    | true => exact Or.inl (by simp [hdef])
    | false => exact Or.inr ⟨⟨ws, Table.find?_eq_some.1 hws⟩, by simp [hdef]⟩

/-- Adding a connection makes no orphan exactly when its workspace is there. -/
theorem orphanFree_createConnection (h : OrphanFree t) (conn : ConnectionProfile) (nonce : ℕ) :
    OrphanFree (DbOp.exec rt (.createConnection conn nonce) t).2 ↔
      ((DbOp.exec rt (.createConnection conn nonce) t).2 ≠ t →
        HasWorkspace t conn.workspaceId) := by
  rw [exec_createConnection]
  cases hu : t.connections.insert? (profileToRow rt nonce conn) with
  | none => simpa using h
  | some u =>
    have hne : ({ t with connections := u } : Tables) ≠ t := by
      intro heq
      have := congrArg (fun t => t.connections.rows.length) heq
      simp [(Table.insert?_eq_some.1 hu).2] at this
    constructor
    · intro hfree _
      obtain ⟨w, hw, hhas⟩ := hfree _ ((Table.mem_insert? hu).2 (Or.inr rfl))
      cases hw
      exact hhas
    · intro hhas row hrow
      rcases (Table.mem_insert? hu).1 hrow with hrow | rfl
      · exact h row hrow
      · exact ⟨conn.workspaceId, rfl, hhas hne⟩

/-- Rewriting a connection makes no orphan exactly when the workspace it names is there. A
request that names none keeps the connection where it is. -/
theorem orphanFree_updateConnection (h : OrphanFree t) (hdef : HasWorkspace t defaultWorkspaceId)
    (connId : String) (data : UpdateData) (now : String) (nonce : ℕ) :
    OrphanFree (DbOp.exec rt (.updateConnection connId data now nonce) t).2 ↔
      ((DbOp.exec rt (.updateConnection connId data now nonce) t).2 ≠ t →
        ∀ target, data.workspaceId = some (some target) →
          HasWorkspace t (orDefault defaultWorkspaceId target)) := by
  rcases exec_updateConnection rt t connId data now nonce with
    heq | ⟨row, existing, conn, hrow, hexisting, hconn, heq⟩
  · simpa [heq] using h
  obtain ⟨hmem, hid⟩ := Table.find?_eq_some.1 hrow
  obtain ⟨-, -, hws⟩ := buildMergedProfile_ok hconn
  have hexists : (∀ target, data.workspaceId = some (some target) →
      HasWorkspace t (orDefault defaultWorkspaceId target)) →
      HasWorkspace t conn.workspaceId := by
    intro htarget
    rw [hws]
    rcases hdata : data.workspaceId with _ | _ | target
    · obtain ⟨w, hw, hhas⟩ := h row hmem
      have : existing.workspaceId = orDefault defaultWorkspaceId w := by
        obtain ⟨-, password, -, rfl⟩ := decryptedProfile_eq_ok.1 hexisting
        simp [ConnectionRow.toProfile, hw]
      simp only [Option.getD_none, Option.getD_some, this]
      exact hasWorkspace_orDefault hdef (hasWorkspace_orDefault hdef hhas)
    · exact hdef
    · exact htarget target hdata
  rw [heq]
  constructor
  · intro hfree _ target hdata
    obtain ⟨w, hw, hhas⟩ := hfree _ (mem_assignConnection.2 ⟨row, hmem, rfl⟩)
    rw [if_pos hid] at hw
    cases hw
    rw [hws, hdata] at hhas
    exact hhas
  · intro htarget b hb
    by_cases heqt : t.assignConnection connId (profileToRow rt nonce conn) = t
    · rw [heqt] at hb ⊢
      exact h b hb
    · obtain ⟨a, ha, rfl⟩ := mem_assignConnection.1 hb
      split
      · exact ⟨conn.workspaceId, rfl, hexists (htarget heqt)⟩
      · exact h a ha

/-- Deleting a workspace makes no orphan exactly when no connection belongs to it. -/
theorem orphanFree_deleteWorkspace (h : OrphanFree t) :
    OrphanFree (DbOp.exec rt (.deleteWorkspace workspaceId) t).2 ↔
      ((DbOp.exec rt (.deleteWorkspace workspaceId) t).2 ≠ t →
        ∀ row ∈ t.connections, row.workspaceId ≠ some workspaceId) := by
  rcases exec_deleteWorkspace rt t workspaceId with
    heq | ⟨⟨ws, hws, hid⟩, heq⟩
  · simpa [heq] using h
  rw [heq]
  constructor
  · intro hfree _ row hrow hw
    obtain ⟨w, hw', ws', hmem, hid'⟩ := hfree row hrow
    rw [hw] at hw'
    cases hw'
    simpa [hid'] using (Table.mem_delete.1 hmem).2
  · intro hnone row hrow
    obtain ⟨w, hw, ws', hmem, hid'⟩ := h row hrow
    refine ⟨w, hw, ws', Table.mem_delete.2 ⟨hmem, ?_⟩, hid'⟩
    have hne : ({ t with
        workspaces := t.workspaces.delete (·.id = workspaceId)
        guides := t.guides.delete (·.workspaceId = workspaceId) } : Tables) ≠ t := by
      intro heqt
      have hmem : ws ∈ t.workspaces.delete (·.id = workspaceId) := by
        rw [show t.workspaces.delete (·.id = workspaceId) = t.workspaces from
          congrArg Tables.workspaces heqt]
        exact hws
      simp [hid] at hmem
    have := hnone hne row hrow
    simp only [decide_eq_false_iff_not]
    rintro rfl
    exact this (hid' ▸ hw)

/-- The calls that act on no check leave every connection where it is and every workspace
there. -/
theorem unchecked_keeps (rt : Runtime) (t : Tables) {r : DbOp} (hr : actsOnCheck r = false) :
    (∀ row ∈ (r.exec rt t).2.connections, row ∈ t.connections) ∧
      ∀ w, HasWorkspace t w → HasWorkspace (r.exec rt t).2 w := by
  cases r with
  | createConnection _ _ => cases hr
  | updateConnection _ _ _ _ => cases hr
  | deleteWorkspace _ => cases hr
  | deleteConnection connId => exact ⟨fun row hrow => (Table.mem_delete.1 hrow).1, fun w h => h⟩
  | createWorkspace ws =>
    rcases exec_createWorkspace rt t ws with heq | ⟨u, hu, heq⟩
    · rw [heq]
      exact ⟨fun row hrow => hrow, fun w h => h⟩
    · rw [heq]
      refine ⟨fun row hrow => hrow, ?_⟩
      rintro w ⟨ws', hmem, hid⟩
      exact ⟨ws', (Table.mem_insert? hu).2 (Or.inl hmem), hid⟩
  | updateWorkspace workspaceId data now =>
    rcases exec_updateWorkspace rt t workspaceId data now with
      heq | ⟨_, _, updated, -, -, -, heq⟩
    · rw [heq]
      exact ⟨fun row hrow => hrow, fun w h => h⟩
    · rw [heq]
      refine ⟨fun row hrow => hrow, ?_⟩
      rintro w ⟨ws', hmem, hid⟩
      refine ⟨_, mem_assignWorkspace.2 ⟨ws', hmem, rfl⟩, ?_⟩
      split <;> exact hid
  | _ => exact ⟨fun row hrow => hrow, fun w h => h⟩

/-- No call of the service removes the default workspace. -/
theorem hasDefault_exec {r : DbOp} {past : List DbAnswer} (hchecked : Checked r past)
    (h : HasWorkspace t defaultWorkspaceId) : HasWorkspace (r.exec rt t).2 defaultWorkspaceId := by
  by_cases hr : actsOnCheck r = false
  · exact (unchecked_keeps _ _ hr).2 _ h
  cases r with
  | createConnection conn nonce =>
    rw [exec_createConnection]
    split <;> exact h
  | updateConnection connId data now nonce =>
    rcases exec_updateConnection rt t connId data now nonce with
      heq | ⟨_, _, _, -, -, -, heq⟩ <;> (rw [heq]; exact h)
  | deleteWorkspace workspaceId =>
    rcases exec_deleteWorkspace rt t workspaceId with
      heq | ⟨-, heq⟩
    · rw [heq]
      exact h
    · obtain ⟨ws, hmem, hid⟩ := h
      rw [heq]
      exact ⟨ws, Table.mem_delete.2 ⟨hmem, by simpa [hid] using Ne.symm hchecked.1⟩, hid⟩
  | _ => exact absurd rfl hr

/-- A created workspace is valid, and so is a merged one: every workspace can still be read. -/
theorem readableWorkspaces_exec {r : DbOp} {past : List DbAnswer} (hchecked : Checked r past)
    (h : ReadableWorkspaces t) : ReadableWorkspaces (r.exec rt t).2 := by
  cases r with
  | createConnection conn nonce =>
    rw [exec_createConnection]
    split <;> exact h
  | updateConnection connId data now nonce =>
    rcases exec_updateConnection rt t connId data now nonce with
      heq | ⟨_, _, _, -, -, -, heq⟩ <;> (rw [heq]; exact h)
  | createWorkspace ws =>
    rcases exec_createWorkspace rt t ws with heq | ⟨u, hu, heq⟩
    · rwa [heq]
    · rw [heq]
      intro row hrow
      rcases (Table.mem_insert? hu).1 hrow with hrow | rfl
      · exact h row hrow
      · exact ⟨_, rowToWorkspace_eq_ok.2 ⟨isValid_withOwner hchecked, rfl⟩⟩
  | updateWorkspace workspaceId data now =>
    rcases exec_updateWorkspace rt t workspaceId data now with
      heq | ⟨_, _, updated, -, -, hupdated, heq⟩
    · rwa [heq]
    · rw [heq]
      intro row hrow
      obtain ⟨a, ha, rfl⟩ := mem_assignWorkspace.1 hrow
      split
      · exact ⟨_, rowToWorkspace_eq_ok.2
          ⟨isValid_assign (isValid_of_buildMergedWorkspace hupdated) a, rfl⟩⟩
      · exact h a ha
  | deleteWorkspace workspaceId =>
    rcases exec_deleteWorkspace rt t workspaceId with heq | ⟨-, heq⟩
    · rwa [heq]
    · rw [heq]
      exact fun row hrow => h row (Table.mem_delete.1 hrow).1
  | _ => exact h

/-- A call keeps the tables free of orphans exactly when its checks still hold. -/
theorem orphanFree_exec_iff {r : DbOp} {past : List DbAnswer} (hchecked : Checked r past)
    (h : OrphanFree t) (hdef : HasWorkspace t defaultWorkspaceId) :
    OrphanFree (r.exec rt t).2 ↔
      (actsOnCheck r = true → (r.exec rt t).2 ≠ t → ∀ a ∈ past, StillHolds t a) := by
  by_cases hr : actsOnCheck r = false
  · refine iff_of_true (fun row hrow => ?_) (by simp [hr])
    obtain ⟨hconn, hws⟩ := unchecked_keeps rt t hr
    obtain ⟨w, hw, hhas⟩ := h row (hconn row hrow)
    exact ⟨w, hw, hws w hhas⟩
  cases r with
  | createConnection conn nonce =>
    obtain ⟨hne, ws, rfl⟩ := hchecked
    rw [orphanFree_createConnection h]
    simp [actsOnCheck, StillHolds, orDefault, hne]
  | updateConnection connId data now nonce =>
    rw [orphanFree_updateConnection h hdef]
    rcases hdata : data.workspaceId with _ | _ | target
    · simp only [Checked, hdata] at hchecked
      simp [hchecked]
    · simp only [Checked, hdata] at hchecked
      simp [hchecked]
    · simp only [Checked, hdata] at hchecked
      obtain ⟨ws, rfl⟩ := hchecked
      simp [actsOnCheck, StillHolds]
  | deleteWorkspace workspaceId =>
    obtain ⟨-, ws, rfl⟩ := hchecked
    rw [orphanFree_deleteWorkspace h]
    have hhas : (DbOp.exec rt (.deleteWorkspace workspaceId) t).2 ≠ t →
        HasWorkspace t (orDefault defaultWorkspaceId workspaceId) := by
      intro hne
      rcases exec_deleteWorkspace rt t workspaceId with
        heq | ⟨hhas, -⟩
      · exact absurd heq hne
      · exact hasWorkspace_orDefault hdef hhas
    simp only [actsOnCheck, List.mem_cons, List.not_mem_nil, or_false, forall_eq_or_imp,
      forall_eq, StillHolds, true_imp_iff]
    exact ⟨fun hnone hne => ⟨hhas hne, hnone hne⟩, fun hchecks hne => (hchecks hne).2⟩
  | _ => exact absurd rfl hr

end Effects

theorem truthful_exec {rt : Runtime} {i : ℕ} {r : DbOp} {x : Option Exc} {t t' : Tables}
    {a : Except Exc r.Resp} (h : (dbWorld rt).exec i r x t = some (a, t')) : Truthful r a := by
  cases r with
  | getWorkspace workspaceId =>
    cases x with
    | some e =>
      cases h
      trivial
    | none =>
      simp only [dbWorld, DbOp.exec, reading, Option.some.injEq, Prod.mk.injEq] at h
      obtain ⟨rfl, -⟩ := h
      cases hanswer : getWorkspace workspaceId t with
      | error e => trivial
      | ok found =>
        rw [getWorkspace_ok hanswer]
        cases hws : t.workspaces.find? workspaceId with
        | none => trivial
        | some ws => exact (Table.find?_eq_some.1 hws).2
  | _ => trivial

/-- What every step of the service keeps, whatever its checks are worth by then. -/
def Underway (c : Config DbOp DbOp.Resp Exc Unit Tables) : Prop :=
  (HasWorkspace c.shared defaultWorkspaceId ∧ ReadableWorkspaces c.shared) ∧
    Tracks Truthful (fun _ => Checked) (fun _ _ _ => True) (fun _ _ _ => True) c

theorem underway_step {rt : Runtime} {c c' : Config DbOp DbOp.Resp Exc Unit Tables}
    {e : Event (Option Exc) Empty} (h : Underway c) (hstep : step (dbWorld rt) c e = some c') :
    Underway c' := by
  refine ⟨?_, h.2.step (fun _ _ _ _ _ _ => truthful_exec) hstep⟩
  cases e with
  | env e => cases e
  | task i x =>
    obtain ⟨r, k, past, a, t', hi, hx, rfl⟩ := step_task hstep
    cases x with
    | some e =>
      cases hx
      exact h.1
    | none =>
      have : t' = (r.exec rt c.shared).2 := (congrArg Prod.snd (Option.some.inj hx)).symm
      have hchecked := h.2.request hi
      exact this ▸ ⟨hasDefault_exec hchecked h.1.1, readableWorkspaces_exec hchecked h.1.2⟩

/-- One step keeps the tables free of orphans exactly when the checks it acts on still hold. -/
theorem orphanFree_step_iff {rt : Runtime} {c c' : Config DbOp DbOp.Resp Exc Unit Tables}
    {e : Event (Option Exc) Empty} (h : Underway c) (hfree : OrphanFree c.shared)
    (hstep : step (dbWorld rt) c e = some c') :
    OrphanFree c'.shared ↔ Permits (ChecksStillHold rt) c e := by
  cases e with
  | env e => cases e
  | task i x =>
    obtain ⟨r, k, past, a, t', hi, hx, rfl⟩ := step_task hstep
    rw [permits_task hi]
    cases x with
    | some e =>
      cases hx
      exact iff_of_true hfree (by simp [ChecksStillHold])
    | none =>
      have : t' = (r.exec rt c.shared).2 := (congrArg Prod.snd (Option.some.inj hx)).symm
      simp only [this, ChecksStillHold, true_imp_iff]
      exact orphanFree_exec_iff (h.2.request hi) hfree h.1.1

/-- **No connection is orphaned exactly as long as every write acts on checks that still hold.** -/
theorem orphanFree_iff_checks_hold (rt : Runtime) (gate : TargetGate) (calls : List Call)
    (t : Tables) (ht : Initialised t) (es : List (Event (Option Exc) Empty)) :
    Always (dbWorld rt) (fun c => OrphanFree c.shared ∧
        ∀ row ∈ c.shared.connections, ∃ callerOwnerId, VisibleTo c.shared row callerOwnerId)
      (.start t (calls.map (Call.program rt gate))) es ↔
    Guarded (dbWorld rt) (ChecksStillHold rt) (.start t (calls.map (Call.program rt gate))) es := by
  have hstart : Underway (.start t (calls.map (Call.program rt gate))) := by
    refine ⟨⟨ht.default, ht.readable⟩, tracks_start fun i p hp => ?_⟩
    obtain ⟨call, -, rfl⟩ := List.mem_map.1 (List.mem_of_getElem? hp)
    exact checked_program rt gate call
  refine always_iff_guarded (fun _ _ _ => underway_step) (fun c e c' h hfree hstep => ?_) hstart
    ⟨ht.orphanFree, ht.orphanFree.visible ht.default ht.readable⟩
  rw [← orphanFree_step_iff h hfree.1 hstep]
  obtain ⟨⟨hdef, hread⟩, -⟩ := underway_step h hstep
  exact ⟨And.left, fun hfree' => ⟨hfree', hfree'.visible hdef hread⟩⟩

/-! ### Schedules -/

/-- A target gate that lets everything through. -/
def openGate : TargetGate := fun _ _ => .ok ()

/-- The default workspace and one of alice's. -/
def twoWorkspaces : Tables where
  connections := .empty
  workspaces := ⟨[{ id := "ws-default", name := "Default", isDefault := true, ownerId := "system",
                    createdAt := "0", updatedAt := "0" },
                  { id := "ws-1", name := "One", ownerId := "alice",
                    createdAt := "1", updatedAt := "1" }], by decide⟩
  setNotes := .empty
  recordNotes := .empty
  guides := .empty

theorem readable_twoWorkspaces : ReadableWorkspaces twoWorkspaces := by
  intro row hrow
  refine ⟨_, rowToWorkspace_eq_ok.2 ⟨?_, rfl⟩⟩
  have hvalid : ∀ row ∈ twoWorkspaces.workspaces.rows, row.withOwner.isValid = true := by decide
  exact hvalid row hrow

theorem initialised_twoWorkspaces : Initialised twoWorkspaces :=
  ⟨⟨_, List.mem_cons_self, rfl⟩, readable_twoWorkspaces, fun row hrow => by cases hrow⟩

/-- Alice creates a connection in her workspace, and deletes the workspace. -/
def createAndDelete : List Call :=
  [.createConnection { workspaceId := some "ws-1" } (some "alice") "1" "2" 0,
    .deleteWorkspace "ws-1" "alice"]

/-- The connection is written after the deletion has counted none. -/
def orphaningSchedule : List (Event (Option Exc) Empty) :=
  [.task 0 none, .task 1 none, .task 1 none, .task 1 none, .task 0 none]

/-- Where the connection is written first, the deletion counts it and gives up. -/
theorem orphanFree_iff_checks_hold_createAndDelete :
    Always (dbWorld plainRuntime) (fun c => OrphanFree c.shared ∧
        ∀ row ∈ c.shared.connections, ∃ callerOwnerId, VisibleTo c.shared row callerOwnerId)
      (.start twoWorkspaces (createAndDelete.map (Call.program plainRuntime openGate)))
      [.task 0 none, .task 0 none, .task 1 none, .task 1 none] := by
  refine (orphanFree_iff_checks_hold plainRuntime openGate createAndDelete twoWorkspaces
    initialised_twoWorkspaces _).2 ?_
  rintro _ ⟨⟩
  refine ⟨nofun, ?_⟩
  rintro _ ⟨⟩
  refine ⟨?_, ?_⟩
  · rintro - - - a ha
    obtain rfl := List.mem_singleton.1 ha
    exact ⟨_, List.mem_cons_of_mem _ List.mem_cons_self, by decide⟩
  rintro _ ⟨⟩
  refine ⟨nofun, ?_⟩
  rintro _ ⟨⟩
  exact ⟨nofun, trivial⟩

theorem createConnection_orphaned_by_deleteWorkspace :
    Initialised twoWorkspaces ∧
      ¬ Always (dbWorld plainRuntime) (fun c => OrphanFree c.shared ∧
          ∀ row ∈ c.shared.connections, ∃ callerOwnerId, VisibleTo c.shared row callerOwnerId)
        (.start twoWorkspaces (createAndDelete.map (Call.program plainRuntime openGate)))
        orphaningSchedule := by
  refine ⟨initialised_twoWorkspaces, fun h => ?_⟩
  obtain ⟨w, hw, ws, hmem, hid⟩ := (h.run rfl).1 _ List.mem_cons_self
  cases hw
  have hnone : ∀ ws ∈ [twoWorkspaces.workspaces.rows.head (by decide)], ws.id ≠ "ws-1" := by
    decide
  exact hnone ws hmem hid

end ClusterManager.Services
