import ClusterManager.Db.Sqlite

/-!
# SQLite writers are all-or-nothing

A writer whose every unhandled exception leaves no transaction behind leaves the connection as it
found it or as its complete operation makes it (`writer_safe`), and a schedule of such writers
commits nothing but complete operations (`tenures_complete`). The handler is `except Exception`
and starts after `BEGIN`: a cancellation, or an exception at `BEGIN` itself, escapes it, and the
transaction that is open then stays open for the next writer.
-/

namespace ClusterManager.Db.Sqlite

open Interleaving

/-- The exceptions no handler of the writer rolls back: those that are no `Exception`, and any at
`BEGIN`, which stands before the `try`, or at the handler's own `ROLLBACK`. -/
def Escapes (e : Exc) : Stmt → Prop
  | .acquire => False
  | .release => False
  | .begin => True
  | .rollback handler => handler = true ∨ e.isException = false
  | _ => e.isException = false

/-- An exception that escapes the handler has left no transaction open. -/
def LeavesNothingOpen : Guard Stmt Stmt.Resp Exc (Option Fault) Connection :=
  fun i r x _ s => ∀ f, x = some f → Escapes f.exc r → (r.fail i f.effect s).tx = none

/-! ### One statement -/

/-- How the holder's statements move the connection. -/
def Next (i : ℕ) (r : Stmt) (x : Except Exc r.Resp) (s s' : Connection) : Prop :=
  ∃ y, LeavesNothingOpen i r y [] s ∧ world.exec i r y s = some (x, s')

section Statements

variable {i : ℕ} {r : Stmt} {s s' : Connection} {e : Exc}

theorem next_ok {a : r.Resp} (h : Next i r (.ok a) s s') (hr : r ≠ .acquire) :
    r.run i s = (.ok a, s') := by
  obtain ⟨_ | f, -, hx⟩ := h
  · cases r <;> first | exact absurd rfl hr | exact Option.some.inj hx
  · cases r <;> first | exact absurd rfl hr | exact Option.some.inj hx | cases hx

/-- A statement that raised was refused, or was cut short; what escapes the handler then left
nothing open. -/
theorem next_error (h : Next i r (.error e) s s') (hr : r ≠ .acquire) (hr' : r ≠ .release) :
    r.run i s = (.error e, s') ∨
      ∃ effect, s' = r.fail i effect s ∧ (Escapes e r → s'.tx = none) := by
  obtain ⟨_ | f, hperm, hx⟩ := h
  · refine Or.inl ?_
    cases r <;> first | exact absurd rfl hr | exact absurd rfl hr' | exact Option.some.inj hx
  · refine Or.inr ⟨f.effect, ?_⟩
    have hf := hperm f rfl
    cases r <;> first
      | exact absurd rfl hr
      | exact absurd rfl hr'
      | (cases hx
         exact ⟨rfl, hf⟩)

/-- A data-changing statement is refused with an `Exception`. -/
theorem isException_of_apply {d : Dml} {t : Tables} (h : d.apply t = .error e) :
    e.isException = true := by
  have hunique : ∀ {α : Type} {o : Option α} {β : Type} {f : α → β},
      (unique o).map f = .error e → e.isException = true := by
    intro α o β f h
    cases o with
    | none =>
      cases h
      rfl
    | some a => cases h
  have hreferenced : ∀ {α : Type} {o : Option α} {β : Type} {f : Unit → β},
      (referenced o).map f = .error e → e.isException = true := by
    intro α o β f h
    cases o with
    | none =>
      cases h
      rfl
    | some a => cases h
  cases d <;> first | exact hunique h | exact hreferenced h | cases h

/-- A `SELECT`, its fetch and its close leave the connection as it is. -/
theorem next_read {x : Except Exc r.Resp} (h : Next i r x s s')
    (hr : (∃ q, r = .select q) ∨ (∃ q, r = .fetch q) ∨ r = .closeCursor) :
    s' = s ∧ ∀ e, x = .error e → e.isException = false → s.tx = none := by
  have hne : r ≠ .acquire ∧ r ≠ .release := by
    rcases hr with ⟨q, rfl⟩ | ⟨q, rfl⟩ | rfl <;> exact ⟨nofun, nofun⟩
  have hrun : (r.run i s).2 = s ∧ ∃ a, (r.run i s).1 = .ok a := by
    rcases hr with ⟨q, rfl⟩ | ⟨q, rfl⟩ | rfl <;> exact ⟨rfl, _, rfl⟩
  have hfail : ∀ effect, r.fail i effect s = s := by
    rcases hr with ⟨q, rfl⟩ | ⟨q, rfl⟩ | rfl <;> intro effect <;> cases effect <;> rfl
  cases x with
  | ok a =>
    have := next_ok h hne.1
    rw [this] at hrun
    exact ⟨hrun.1, nofun⟩
  | error e =>
    rcases next_error h hne.1 hne.2 with h | ⟨effect, rfl, hesc⟩
    · obtain ⟨a, ha⟩ := hrun.2
      rw [h] at ha
      cases ha
    · rw [hfail] at hesc ⊢
      refine ⟨rfl, fun e' he hexc => hesc ?_⟩
      cases he
      rcases hr with ⟨q, rfl⟩ | ⟨q, rfl⟩ | rfl <;> exact hexc

end Statements

/-! ### The body of a writer

`op` is the complete operation, `base` the tables committed when the lock was taken. -/

/-- The writer holds the lock and has committed nothing yet. -/
def Working (i : ℕ) (base : Tables) (s : Connection) : Prop :=
  s.lock = some (i, base) ∧ s.committed = base

/-- The writer holds the lock and has committed nothing or its complete operation. -/
def Settled (op : Tables → Except Exc Tables) (i : ℕ) (base : Tables) (s : Connection) : Prop :=
  s.lock = some (i, base) ∧ (s.committed = base ∨ op base = .ok s.committed)

/-- Settled, with no transaction open: the lock may be released. -/
def Ready (op : Tables → Except Exc Tables) (i : ℕ) (base : Tables) (s : Connection) : Prop :=
  Settled op i base s ∧ s.tx = none

/-- Settled, and ready unless the handler will catch the exception. -/
def Raised (op : Tables → Except Exc Tables) (i : ℕ) (base : Tables) (e : Exc)
    (s : Connection) : Prop :=
  Settled op i base s ∧ (e.isException = false → s.tx = none)

/-- What the holder may ask for: it holds the lock, begins only where nothing is open, and
releases only when it is ready. -/
def MayAwait (op : Tables → Except Exc Tables) (i : ℕ) (r : Stmt) (s : Connection) : Prop :=
  s.lock.map Prod.fst = some i ∧ r ≠ .acquire ∧ (r = .begin → s.tx = none) ∧
    (r = .release → ∃ base, Ready op i base s)

section Body

variable {op : Tables → Except Exc Tables} {i : ℕ} {base : Tables} {s : Connection} {α : Type}

theorem Working.settled (h : Working i base s) : Settled op i base s := ⟨h.1, Or.inl h.2⟩

theorem mayAwait {r : Stmt} (h : s.lock = some (i, base))
    (hr : r ≠ .acquire ∧ r ≠ .begin ∧ r ≠ .release) : MayAwait op i r s :=
  ⟨by rw [h]; rfl, hr.1, fun h => absurd h hr.2.1, fun h => absurd h hr.2.2⟩

theorem safe_begin (h : Working i base s) (htx : s.tx = none) :
    (sql .begin).Safe (Next i) (MayAwait op i) s
      (fun _ s' => s' = { s with tx := some s.committed }) (fun _ => Ready op i base) := by
  refine Coroutine.safe_call.2 ⟨⟨by rw [h.1]; rfl, nofun, fun _ => htx, nofun⟩, ?_, ?_⟩
  · intro _ s' hs
    have := next_ok hs (by simp)
    simp only [Stmt.run, htx, Prod.mk.injEq] at this
    exact this.2.symm
  · intro e s' hs
    have hready : Ready op i base s := ⟨h.settled, htx⟩
    rcases next_error hs nofun nofun with hrun | ⟨effect, rfl, hesc⟩
    · simp [Stmt.run, htx] at hrun
    · cases effect with
      | nothing => exact hready
      | begun => exact hready
      | complete =>
        have := hesc trivial
        simp [Stmt.fail, Stmt.run, htx] at this

theorem safe_execute (h : Working i base s) {d : Dml} :
    (sql (.execute d)).Safe (Next i) (MayAwait op i) s
      (fun rowcount s' => ∃ t, d.apply s.view = .ok (rowcount, t) ∧ s' = { s with tx := some t })
      (Raised op i base) := by
  refine Coroutine.safe_call.2 ⟨mayAwait h.1 (by simp), ?_, ?_⟩
  · intro rowcount s' hs
    have hrun := next_ok hs (by simp)
    simp only [Stmt.run] at hrun
    split at hrun
    next n t ht =>
      cases hrun
      exact ⟨t, ht, rfl⟩
    next => cases hrun
  · intro e s' hs
    rcases next_error hs nofun nofun with hrun | ⟨effect, rfl, hesc⟩
    · simp only [Stmt.run] at hrun
      split at hrun
      next => cases hrun
      next e' he =>
        cases hrun
        exact ⟨⟨h.1, Or.inl h.2⟩, fun hexc => by simp [isException_of_apply he] at hexc⟩
    · refine ⟨?_, hesc⟩
      cases effect with
      | nothing => exact h.settled
      | begun => exact ⟨h.1, Or.inl h.2⟩
      | complete =>
        simp only [Stmt.fail, Stmt.run]
        split <;> exact ⟨h.1, Or.inl h.2⟩

theorem safe_commit (h : Working i base s) (hop : op base = .ok s.view) :
    (sql .commit).Safe (Next i) (MayAwait op i) s
      (fun _ => Ready op i base) (Raised op i base) := by
  have hdone : Ready op i base { s with committed := s.view, tx := none } :=
    ⟨⟨h.1, Or.inr hop⟩, rfl⟩
  refine Coroutine.safe_call.2 ⟨mayAwait h.1 (by simp), ?_, ?_⟩
  · intro _ s' hs
    cases next_ok hs (by simp)
    exact hdone
  · intro e s' hs
    rcases next_error hs nofun nofun with hrun | ⟨effect, rfl, hesc⟩
    · cases hrun
    · refine ⟨?_, hesc⟩
      cases effect with
      | nothing => exact h.settled
      | begun => exact h.settled
      | complete => exact hdone.1

theorem safe_rollback (h : Settled op i base s) {handler : Bool} :
    (sql (.rollback handler)).Safe (Next i) (MayAwait op i) s
      (fun _ => Ready op i base)
      (fun e s' => Raised op i base e s' ∧ (handler = true → s'.tx = none)) := by
  refine Coroutine.safe_call.2 ⟨mayAwait h.1 (by simp), ?_, ?_⟩
  · intro _ s' hs
    cases next_ok hs (by simp)
    exact ⟨h, rfl⟩
  · intro e s' hs
    rcases next_error hs nofun nofun with hrun | ⟨effect, rfl, hesc⟩
    · cases hrun
    · refine ⟨⟨?_, fun hexc => hesc (Or.inr hexc)⟩, fun hh => hesc (Or.inl hh)⟩
      cases effect <;> exact h

/-- Fetching and closing leave the connection as it is. -/
theorem safe_fetch (h : Working i base s) {q : Query} :
    ((sql (.fetch q)).tryFinally (sql .closeCursor)).Safe (Next i) (MayAwait op i) s
      (fun rows s' => rows = q.rows s.view ∧ s' = s) (Raised op i base) := by
  rw [Coroutine.safe_tryFinally]
  refine Coroutine.safe_call.2 ⟨mayAwait h.1 (by simp), ?_, ?_⟩
  · intro rows s' hs
    have hrows := congrArg Prod.fst (next_ok hs (by simp))
    obtain ⟨rfl, -⟩ := next_read hs (Or.inr (Or.inl ⟨q, rfl⟩))
    cases hrows
    refine Coroutine.safe_call.2 ⟨mayAwait h.1 (by simp), ?_, ?_⟩
    · intro _ s' hs
      obtain ⟨rfl, -⟩ := next_read hs (Or.inr (Or.inr rfl))
      exact ⟨rfl, rfl⟩
    · intro e s' hs
      obtain ⟨rfl, hexc⟩ := next_read hs (Or.inr (Or.inr rfl))
      exact ⟨h.settled, hexc e rfl⟩
  · intro e s' hs
    obtain ⟨rfl, hexc⟩ := next_read hs (Or.inr (Or.inl ⟨q, rfl⟩))
    refine Coroutine.safe_call.2 ⟨mayAwait h.1 (by simp), ?_, ?_⟩
    · intro _ s' hs
      obtain ⟨rfl, -⟩ := next_read hs (Or.inr (Or.inr rfl))
      exact ⟨h.settled, hexc e rfl⟩
    · intro e' s' hs
      obtain ⟨rfl, hexc⟩ := next_read hs (Or.inr (Or.inr rfl))
      exact ⟨h.settled, hexc e' rfl⟩

/-- A cursor reads the connection and leaves it as it is. -/
theorem safe_cursor (h : Working i base s) {q : Query} :
    (cursor q).Safe (Next i) (MayAwait op i) s
      (fun rows s' => rows = q.rows s.view ∧ s' = s) (Raised op i base) := by
  simp only [cursor, Coroutine.safe_bind]
  refine Coroutine.safe_call.2 ⟨mayAwait h.1 (by simp), ?_, ?_⟩
  · intro _ s' hs
    obtain ⟨rfl, -⟩ := next_read hs (Or.inl ⟨q, rfl⟩)
    exact safe_fetch h
  · intro e s' hs
    obtain ⟨rfl, hexc⟩ := next_read hs (Or.inl ⟨q, rfl⟩)
    exact ⟨h.settled, hexc e rfl⟩

/-- The handler makes a settled body ready. -/
theorem safe_rollbackOnException {body : Program α}
    (h : body.Safe (Next i) (MayAwait op i) s (fun _ => Ready op i base) (Raised op i base)) :
    (rollbackOnException body).Safe (Next i) (MayAwait op i) s
      (fun _ => Ready op i base) (fun _ => Ready op i base) := by
  simp only [rollbackOnException, Coroutine.safe_tryCatch]
  refine h.mono (fun _ _ h => h) fun e s he => ?_
  cases hexc : e.isException with
  | false => exact ⟨he.1, he.2 hexc⟩
  | true =>
    simp only [if_true, Coroutine.safe_bind]
    exact (safe_rollback he.1).mono (fun _ _ h => h) fun e' s' h => ⟨h.1.1, h.2 rfl⟩

/-- One statement and its commit are ready when they end. -/
theorem safe_executeBody (h : Working i base s) (htx : s.tx = none) {d : Dml}
    (hop : ∀ rowcount t, d.apply base = .ok (rowcount, t) → op base = .ok t) :
    (rollbackOnException (do
      let rowcount ← sql (.execute d)
      sql .commit
      return rowcount)).Safe (Next i) (MayAwait op i) s
      (fun _ => Ready op i base) (fun _ => Ready op i base) := by
  refine safe_rollbackOnException ?_
  simp only [Coroutine.safe_bind, Coroutine.safe_pure]
  refine (safe_execute h).mono ?_ fun _ _ h => h
  rintro rowcount _ ⟨t, ht, rfl⟩
  have hview : s.view = base := by rw [Connection.view, htx, ← h.2]; rfl
  rw [hview] at ht
  exact safe_commit ⟨h.1, h.2⟩ (hop rowcount t ht)

/-- An upsert, the fetch of its row and the commit are ready when they end. -/
theorem safe_upsertBody (h : Working i base s) (htx : s.tx = none) {d : Dml} {q : Query}
    (hop : ∀ rowcount t, d.apply base = .ok (rowcount, t) → op base = .ok t) :
    (rollbackOnException (do
      let _ ← sql (.execute d)
      let rows ← (sql (.fetch q)).tryFinally (sql .closeCursor)
      sql .commit
      return rows.head?)).Safe (Next i) (MayAwait op i) s
      (fun _ => Ready op i base) (fun _ => Ready op i base) := by
  refine safe_rollbackOnException ?_
  simp only [Coroutine.safe_bind, Coroutine.safe_pure]
  refine (safe_execute h).mono ?_ fun _ _ h => h
  rintro rowcount _ ⟨t, ht, rfl⟩
  have hview : s.view = base := by rw [Connection.view, htx, ← h.2]; rfl
  rw [hview] at ht
  refine (safe_fetch (s := { s with tx := some t }) ⟨h.1, h.2⟩).mono ?_ fun _ _ h => h
  rintro rows _ ⟨-, rfl⟩
  exact safe_commit ⟨h.1, h.2⟩ (hop rowcount t ht)

/-- A transaction that was begun first is ready when it ends, if its body is settled. -/
theorem safe_beginBody (h : Working i base s) (htx : s.tx = none) {body : Program α}
    (hbody : ∀ s, Working i base s → s.view = base →
      body.Safe (Next i) (MayAwait op i) s (fun _ => Ready op i base) (Raised op i base)) :
    Coroutine.Safe (Next i) (MayAwait op i) (do
      sql .begin
      rollbackOnException body) s (fun _ => Ready op i base) (fun _ => Ready op i base) := by
  refine Coroutine.safe_bind.2 ((safe_begin h htx).mono ?_ fun _ _ h => h)
  rintro _ _ rfl
  exact safe_rollbackOnException (hbody _ ⟨h.1, h.2⟩ h.2)

end Body

/-! ### The transactions that read first -/

section Transactions

variable {rt : Runtime} {i : ℕ} {base : Tables} {s : Connection}

theorem raised_of_lift {op : Tables → Except Exc Tables} {e : Exc} (h : Working i base s)
    (he : e.isException = true) : Raised op i base e s :=
  ⟨h.settled, fun h => by simp [he] at h⟩

theorem isException_decryptedProfile {row : ConnectionRow} {e : Exc}
    (h : decryptedProfile rt row = .error e) : e.isException = true := by
  rcases exists_of_bind_error h with h | ⟨profile, -, h⟩
  · rw [ConnectionProfile.validated_error h]
    rfl
  rcases exists_of_bind_error h with h | ⟨password, -, h⟩
  · unfold decryptPassword at h
    split at h
    · cases h
    · split at h
      · cases h
      · split at h
        · cases h
        · split at h <;> cases h
          rfl
  · cases h

theorem isException_rowToWorkspace {row : Workspace} {e : Exc}
    (h : rowToWorkspace row = .error e) : e.isException = true := by
  rw [Workspace.validated_error h]
  rfl

theorem isException_of_required {α : Type} {o : Option α} {e : Exc}
    (h : required o = .error e) : e.isException = true := by
  cases o with
  | none =>
    cases h
    rfl
  | some a => cases h

theorem isException_buildMergedProfile {existing : ConnectionProfile} {data : UpdateData}
    {connId now : String} {e : Exc}
    (h : buildMergedProfile rt existing data connId now = .error e) : e.isException = true := by
  rcases exists_of_bind_error h with h | ⟨name, -, h⟩
  · exact isException_of_required h
  rcases exists_of_bind_error h with h | ⟨hosts, -, h⟩
  · exact isException_of_required h
  rcases exists_of_bind_error h with h | ⟨port, -, h⟩
  · exact isException_of_required h
  rcases exists_of_bind_error h with h | ⟨color, -, h⟩
  · exact isException_of_required h
  · rw [ConnectionProfile.validated_error h]
    rfl

theorem isException_buildMergedWorkspace {existing : Workspace} {data : WorkspaceUpdateData}
    {now : String} {e : Exc} (h : buildMergedWorkspace existing data now = .error e) :
    e.isException = true := by
  rcases exists_of_bind_error h with h | ⟨name, -, h⟩
  · exact isException_of_required h
  rcases exists_of_bind_error h with h | ⟨color, -, h⟩
  · exact isException_of_required h
  · rw [Workspace.validated_error h]
    rfl

theorem safe_updateConnectionBody {connId : String} {data : UpdateData} {now : String} {nonce : ℕ}
    (h : Working i base s) (hview : s.view = base) :
    (updateConnectionBody rt connId data now nonce).Safe (Next i)
      (MayAwait ((Writer.updateConnection connId data now nonce).complete rt) i) s
      (fun _ => Ready ((Writer.updateConnection connId data now nonce).complete rt) i base)
      (Raised ((Writer.updateConnection connId data now nonce).complete rt) i base) := by
  refine Coroutine.safe_bind.2 ((safe_cursor h).mono ?_ fun _ _ h => h)
  rintro _ s' ⟨rfl, rfl⟩
  rw [hview]
  simp only [Query.rows]
  cases hrow : base.connections.find? connId with
  | none =>
    refine Coroutine.safe_bind.2 ((safe_rollback h.settled).mono (fun _ _ h => h) ?_)
    exact fun e s' h => h.1
  | some row =>
    simp only [Option.toList_some, List.head?_cons, Coroutine.safe_bind, Coroutine.safe_lift]
    refine ⟨fun existing hexisting => ⟨fun updated hupdated => ?_, fun e he => ?_⟩, fun e he => ?_⟩
    · refine (safe_execute h).mono ?_ fun _ _ h => h
      rintro rowcount _ ⟨t, ht, rfl⟩
      rw [hview] at ht
      refine safe_commit ⟨h.1, h.2⟩ ?_
      simp only [Writer.complete, Db.updateConnection, hrow, hexisting, hupdated, bind,
        Except.bind, ht]
      rfl
    · exact raised_of_lift h (isException_buildMergedProfile he)
    · exact raised_of_lift h (isException_decryptedProfile he)

theorem safe_updateWorkspaceBody {workspaceId : String} {data : WorkspaceUpdateData}
    {now : String} (h : Working i base s) (hview : s.view = base) :
    (updateWorkspaceBody workspaceId data now).Safe (Next i)
      (MayAwait ((Writer.updateWorkspace workspaceId data now).complete rt) i) s
      (fun _ => Ready ((Writer.updateWorkspace workspaceId data now).complete rt) i base)
      (Raised ((Writer.updateWorkspace workspaceId data now).complete rt) i base) := by
  refine Coroutine.safe_bind.2 ((safe_cursor h).mono ?_ fun _ _ h => h)
  rintro _ s' ⟨rfl, rfl⟩
  rw [hview]
  simp only [Query.rows]
  cases hrow : base.workspaces.find? workspaceId with
  | none =>
    refine Coroutine.safe_bind.2 ((safe_rollback h.settled).mono (fun _ _ h => h) ?_)
    exact fun e s' h => h.1
  | some row =>
    simp only [Option.toList_some, List.head?_cons, Coroutine.safe_bind, Coroutine.safe_lift]
    refine ⟨fun existing hexisting => ⟨fun updated hupdated => ?_, fun e he => ?_⟩, fun e he => ?_⟩
    · refine (safe_execute h).mono ?_ fun _ _ h => h
      rintro rowcount _ ⟨t, ht, rfl⟩
      rw [hview] at ht
      refine safe_commit ⟨h.1, h.2⟩ ?_
      simp only [Writer.complete, Db.updateWorkspace, hrow, hexisting, hupdated, bind,
        Except.bind, ht]
      rfl
    · exact raised_of_lift h (isException_buildMergedWorkspace he)
    · exact raised_of_lift h (isException_rowToWorkspace he)

/-- The loop leaves the rewrites of its rows in the open transaction. -/
theorem safe_rewriteRows {op : Tables → Except Exc Tables} {nonces : String → ℕ}
    {rows : List ConnectionRow} (h : Working i base s) {t : Tables} (hview : s.view = t) :
    (rewriteRows rt (.succeeding nonces) rows).Safe (Next i) (MayAwait op i) s
      (fun _ s' => Working i base s' ∧
        s'.view = rewritePasswords t (rows.filterMap (passwordRewrite rt nonces)))
      (Raised op i base) := by
  induction rows generalizing s t with
  | nil => exact ⟨h, hview⟩
  | cons row rows ih =>
    unfold rewriteRows
    rw [List.filterMap_cons, passwordRewrite_eq]
    cases hrow : legacyPassword row with
    | none => exact ih h hview
    | some password =>
      simp only [Coroutine.safe_bind, Coroutine.safe_pure, Coroutine.safe_lift, Option.map_some]
      refine ⟨fun nonce hnonce => ?_, by simp [Draws.succeeding]⟩
      cases hnonce
      refine (safe_execute h).mono ?_ fun _ _ h => h
      rintro rowcount _ ⟨t', ht, rfl⟩
      rw [hview] at ht
      cases ht
      have hnext : Working i base { s with tx := some (t.assignPassword row.id
          (some (encryptPassword rt.fernet (nonces row.id) password))) } := ⟨h.1, h.2⟩
      exact ih hnext rfl

theorem safe_migrateBody {nonces : String → ℕ} (h : Working i base s) (hview : s.view = base) :
    (migrateBody rt (.succeeding nonces)).Safe (Next i)
      (MayAwait ((Writer.migratePasswordsToEncrypted nonces).complete rt) i) s
      (fun _ => Ready ((Writer.migratePasswordsToEncrypted nonces).complete rt) i base)
      (Raised ((Writer.migratePasswordsToEncrypted nonces).complete rt) i base) := by
  simp only [migrateBody, Coroutine.safe_bind, Coroutine.safe_pure]
  refine (safe_cursor h).mono ?_ fun _ _ h => h
  rintro _ s' ⟨rfl, rfl⟩
  refine (safe_rewriteRows h hview).mono ?_ fun _ _ h => h
  rintro rewritten s' ⟨hworking, hview'⟩
  refine safe_commit hworking ?_
  rw [hview', hview]
  rfl

end Transactions

/-! ### The whole writer -/

/-- A program that takes the lock first, and whatever it does then releases it ready. -/
def LockedBy {α : Type} (op : Tables → Except Exc Tables) (i : ℕ) (p : Program α) : Prop :=
  ∃ k, p = .await .acquire k ∧ (∀ e, k (.error e) = .throw e) ∧
    ∀ s, s.tx = none → s.lock = some (i, s.committed) →
      (k (.ok ())).Safe (Next i) (MayAwait op i) s
        (fun _ s' => s'.lock = none) (fun _ s' => s'.lock = none)

section Locked

variable {op : Tables → Except Exc Tables} {i : ℕ} {α β : Type}

/-- What is done with the result, without another await, leaves the lock alone. -/
theorem LockedBy.bind {p : Program α} (h : LockedBy op i p) {f : α → Program β}
    (hf : ∀ a, (f a).isDone = true) : LockedBy op i (p >>= f) := by
  obtain ⟨k, rfl, herr, hok⟩ := h
  refine ⟨fun x => (k x).bind f, rfl, fun e => ?_, fun s htx hlock => ?_⟩
  · change (k (.error e)).bind _ = _
    rw [herr]
    rfl
  · refine Coroutine.safe_bind.2 ((hok s htx hlock).mono (fun a s' h => ?_) fun _ _ h => h)
    have hdone := hf a
    cases hfa : f a with
    | await r k => simp [hfa, Coroutine.isDone] at hdone
    | pure b => exact h
    | throw e => exact h

theorem LockedBy.map {p : Program α} (h : LockedBy op i p) (f : α → β) :
    LockedBy op i (p >>= fun a => pure (f a)) := h.bind fun _ => rfl

theorem lockedBy_withWriteLock {body : Program α}
    (hbody : ∀ base s, Working i base s → s.tx = none →
      body.Safe (Next i) (MayAwait op i) s (fun _ => Ready op i base) (fun _ => Ready op i base)) :
    LockedBy op i (withWriteLock body) := by
  refine ⟨_, rfl, fun e => rfl, fun s htx hlock => ?_⟩
  have hrelease : ∀ s base, Ready op i base s → (sql .release).Safe (Next i) (MayAwait op i) s
      (fun _ s' => s'.lock = none) (fun _ s' => s'.lock = none) := by
    intro s base h
    refine Coroutine.safe_call.2
      ⟨⟨by rw [h.1.1]; rfl, nofun, nofun, fun _ => ⟨base, h⟩⟩, ?_, ?_⟩
    · intro _ s' hs
      cases next_ok hs (by simp)
      rfl
    · rintro e s' ⟨_ | f, -, hx⟩ <;> cases hx
  refine Coroutine.safe_tryFinally.2 ((hbody s.committed s ⟨hlock, rfl⟩ htx).mono ?_ ?_)
  · exact fun _ s h => hrelease s _ h
  · exact fun _ s h => hrelease s _ h

/-- A statement and its commit behind the lock. -/
theorem lockedBy_executeAndCommit {d : Dml}
    (hop : ∀ base rowcount t, d.apply base = .ok (rowcount, t) → op base = .ok t) :
    LockedBy op i (executeAndCommit d) :=
  lockedBy_withWriteLock fun _ _ h htx => safe_executeBody h htx (hop _)

/-- An upsert behind the lock. -/
theorem lockedBy_upsertAndCommit {d : Dml} {q : Query}
    (hop : ∀ base rowcount t, d.apply base = .ok (rowcount, t) → op base = .ok t) :
    LockedBy op i (upsertAndCommit d q) :=
  lockedBy_withWriteLock fun _ _ h htx => safe_upsertBody h htx (hop _)

theorem isDone_lift {x : Except Exc α} : (Coroutine.lift x : Program α).isDone = true := by
  cases x <;> rfl

/-- Every writer takes the lock first and releases it ready. -/
theorem lockedBy_program (rt : Runtime) (w : Writer) (i : ℕ) :
    LockedBy (w.complete rt) i (w.program rt) := by
  have hmap : ∀ {d : Dml} {base : Tables} {rowcount : ℕ} {t : Tables},
      d.apply base = .ok (rowcount, t) → (d.apply base).map Prod.snd = .ok t := by
    intro d base rowcount t ht
    rw [ht]
    rfl
  cases w with
  | createConnection conn nonce =>
    exact (lockedBy_executeAndCommit fun _ _ _ => hmap).map _
  | updateConnection connId data now nonce =>
    exact (lockedBy_withWriteLock fun base s h htx =>
      safe_beginBody h htx fun s h hview => safe_updateConnectionBody h hview).map _
  | deleteConnection connId =>
    refine ((lockedBy_executeAndCommit fun base rowcount t ht => ?_).map _).map _
    simp only [Writer.complete, Db.deleteConnection, ht]
    rfl
  | createWorkspace ws =>
    exact (lockedBy_executeAndCommit fun _ _ _ => hmap).map _
  | updateWorkspace workspaceId data now =>
    exact (lockedBy_withWriteLock fun base s h htx =>
      safe_beginBody h htx fun s h hview => safe_updateWorkspaceBody h hview).map _
  | deleteWorkspace workspaceId =>
    refine ((lockedBy_executeAndCommit fun base rowcount t ht => ?_).map _).map _
    simp only [Writer.complete, Db.deleteWorkspace, ht]
    rfl
  | migratePasswordsToEncrypted nonces =>
    exact (lockedBy_withWriteLock fun base s h htx =>
      safe_beginBody h htx fun s h hview => safe_migrateBody h hview).map _
  | upsertSetNote note =>
    exact ((lockedBy_upsertAndCommit fun _ _ _ => hmap).bind fun _ => isDone_lift).map _
  | deleteSetNote connectionId namespace_ setName =>
    exact ((lockedBy_executeAndCommit fun _ _ _ => hmap).map _).map _
  | upsertRecordNote note =>
    exact ((lockedBy_upsertAndCommit fun _ _ _ => hmap).bind fun _ => isDone_lift).map _
  | deleteRecordNote connectionId namespace_ setName pkText pkType =>
    exact ((lockedBy_executeAndCommit fun _ _ _ => hmap).map _).map _
  | upsertGuide guide =>
    exact ((lockedBy_upsertAndCommit fun _ _ _ => hmap).bind fun _ => isDone_lift).map _
  | deleteGuide workspaceId guideType =>
    exact ((lockedBy_executeAndCommit fun _ _ _ => hmap).map _).map _

end Locked

/-! ### All the writers -/

section Writers

variable (rt : Runtime) (writers : List Writer)

/-- The tenures lead from `t` to `t'`: each begins where the last one ended, and leaves the
committed tables as they were or as the complete operation of its writer makes them. -/
def Chain : Tables → List Tenure → Tables → Prop
  | t, [], t' => t = t'
  | t, e :: es, t' =>
      e.before = t ∧
        (e.after = t ∨ ∃ w, writers[e.writer]? = some w ∧ w.complete rt t = .ok e.after) ∧
        Chain e.after es t'

/-- What a caller of the shared connection may rely on: once the lock is free nothing is open and
the committed tables are those the tenures lead to, and no writer begins inside a transaction. -/
structure AllOrNothing (t₀ : Tables) (c : Config Stmt Stmt.Resp Exc Unit Connection) : Prop where
  nothingOpen : c.shared.lock = none → c.shared.tx = none
  complete : c.shared.lock = none → Chain rt writers t₀ c.shared.tenures c.shared.committed
  before : ∀ i base, c.shared.lock = some (i, base) → Chain rt writers t₀ c.shared.tenures base
  begins : ∀ (i : ℕ) k past, c.tasks[i]? = some ⟨.await .begin k, past⟩ → c.shared.tx = none

/-- Where a writer stands: before its first await, inside the lock, or done. -/
inductive Stands (i : ℕ) (s : Connection) (prog : Program Unit) : Prop
  | waiting (w : Writer) (hw : writers[i]? = some w) (hprog : prog = w.program rt)
      (hlock : s.lock.map Prod.fst ≠ some i)
  | inside (w : Writer) (hw : writers[i]? = some w) (hlock : s.lock.map Prod.fst = some i)
      (hsafe : prog.Safe (Next i) (MayAwait (w.complete rt) i) s
        (fun _ s' => s'.lock = none) (fun _ s' => s'.lock = none))
  | done (hdone : prog.isDone = true) (hlock : s.lock.map Prod.fst ≠ some i)

/-- What every guarded step keeps. -/
structure Invariant (t₀ : Tables) (c : Config Stmt Stmt.Resp Exc Unit Connection) : Prop where
  nothingOpen : c.shared.lock = none → c.shared.tx = none
  complete : c.shared.lock = none → Chain rt writers t₀ c.shared.tenures c.shared.committed
  before : ∀ i base, c.shared.lock = some (i, base) → Chain rt writers t₀ c.shared.tenures base
  stands : ∀ (i : ℕ) (t : Task Stmt Stmt.Resp Exc Unit), c.tasks[i]? = some t →
    Stands rt writers i c.shared t.prog

variable {rt writers} {t₀ t t' : Tables}

theorem chain_concat {es : List Tenure} {e : Tenure} (h : Chain rt writers t es e.before)
    (he : e.after = e.before ∨
      ∃ w, writers[e.writer]? = some w ∧ w.complete rt e.before = .ok e.after) :
    Chain rt writers t (es ++ [e]) e.after := by
  induction es generalizing t with
  | nil =>
    cases h
    exact ⟨rfl, he, rfl⟩
  | cons e' es ih => exact ⟨h.1, h.2.1, ih h.2.2⟩

/-- Only taking and releasing the lock touch the lock. -/
theorem lock_of_exec {i : ℕ} {r : Stmt} {x : Option Fault} {s s' : Connection}
    {a : Except Exc r.Resp} (h : world.exec i r x s = some (a, s')) (hr : r ≠ .acquire)
    (hr' : r ≠ .release) : s'.lock = s.lock ∧ s'.tenures = s.tenures := by
  have hrun : (r.run i s).2.lock = s.lock ∧ (r.run i s).2.tenures = s.tenures := by
    cases r with
    | acquire => exact absurd rfl hr
    | release => exact absurd rfl hr'
    | begin =>
      simp only [Stmt.run]
      split <;> exact ⟨rfl, rfl⟩
    | execute d =>
      simp only [Stmt.run]
      split <;> exact ⟨rfl, rfl⟩
    | _ => exact ⟨rfl, rfl⟩
  have hfail : ∀ effect, (r.fail i effect s).lock = s.lock ∧
      (r.fail i effect s).tenures = s.tenures := by
    intro effect
    cases effect with
    | nothing => exact ⟨rfl, rfl⟩
    | complete => exact hrun
    | begun => cases r <;> exact ⟨rfl, rfl⟩
  cases x with
  | none =>
    have hs : s' = (r.run i s).2 := by
      cases r <;> first
        | exact absurd rfl hr
        | exact absurd rfl hr'
        | exact (congrArg Prod.snd (Option.some.inj h)).symm
    exact hs ▸ hrun
  | some f =>
    have hs : s' = r.fail i f.effect s := by
      cases r <;> first
        | exact absurd rfl hr
        | exact absurd rfl hr'
        | exact (congrArg Prod.snd (Option.some.inj h)).symm
    exact hs ▸ hfail f.effect

/-- Another writer's place is not touched by the holder's statements. -/
theorem Stands.other {j : ℕ} {s s' : Connection} {prog : Program Unit}
    (h : Stands rt writers j s prog) (hs : s.lock.map Prod.fst ≠ some j)
    (hs' : s'.lock.map Prod.fst ≠ some j) : Stands rt writers j s' prog := by
  cases h with
  | waiting w hw hprog _ => exact .waiting w hw hprog hs'
  | inside w hw hlock _ => exact absurd hlock hs
  | done hdone _ => exact .done hdone hs'

theorem invariant_step {c c' : Config Stmt Stmt.Resp Exc Unit Connection}
    {e : Event (Option Fault) Empty} (h : Invariant rt writers t₀ c)
    (hperm : Permits LeavesNothingOpen c e) (hstep : step world c e = some c') :
    Invariant rt writers t₀ c' := by
  cases e with
  | env e => cases e
  | task i x =>
    obtain ⟨r, k, past, a, s', hi, hx, rfl⟩ := step_task hstep
    have hguard := (permits_task hi).1 hperm
    cases h.stands i _ hi with
    | done hdone _ => cases hdone
    | waiting w hw hprog hlock =>
      obtain ⟨k₀, hk₀, herr, hok⟩ := lockedBy_program rt w i
      rw [hk₀] at hprog
      cases hprog
      cases x with
      | some f =>
        -- the wait for the lock was cut short: nothing happened
        cases hx
        refine ⟨h.nothingOpen, h.complete, h.before, fun j t hj => ?_⟩
        rcases getElem?_set_task hi hj with ⟨rfl, rfl⟩ | ⟨-, hj⟩
        · exact .done (by rw [herr]; rfl) hlock
        · exact h.stands j t hj
      | none =>
        simp only [world] at hx
        split at hx
        next hfree =>
          -- the writer gets the lock: what held of the last committed state is its base
          cases hx
          have hfree : c.shared.lock = none := by simpa using hfree
          refine ⟨nofun, nofun, ?_, fun j t hj => ?_⟩
          · rintro _ _ ⟨⟩
            exact h.complete hfree
          · rcases getElem?_set_task hi hj with ⟨rfl, rfl⟩ | ⟨hne, hj⟩
            · exact .inside w hw rfl (hok _ (h.nothingOpen hfree) rfl)
            · exact (h.stands j t hj).other (by simp [hfree]) (by simpa using Ne.symm hne)
        next => cases hx
    | inside w hw hlock hsafe =>
      have hnext : Next i r a c.shared s' := ⟨x, hguard, hx⟩
      have hsafe' := hsafe.2 a s' hnext
      have hother : ∀ j, j ≠ i → c.shared.lock.map Prod.fst ≠ some j := by
        intro j hne
        rw [hlock]
        simpa using Ne.symm hne
      by_cases hr : r = .release
      · -- the lock is released, ready: one more tenure
        subst hr
        obtain ⟨base, ⟨hbase, hsettled⟩, htx⟩ := hsafe.1.2.2.2 rfl
        have hs' : s' = (Stmt.release.run i c.shared).2 := by
          cases x <;> exact (congrArg Prod.snd (Option.some.inj hx)).symm
        subst hs'
        refine ⟨fun _ => htx, fun _ => ?_, nofun, fun j t hj => ?_⟩
        · simp only [Stmt.run, hbase, Option.toList_some, List.map_cons, List.map_nil]
          refine chain_concat (e := ⟨i, base, c.shared.committed⟩) (h.before i base hbase) ?_
          exact hsettled.imp id fun hop => ⟨w, hw, hop⟩
        · rcases getElem?_set_task hi hj with ⟨rfl, rfl⟩ | ⟨hne, hj⟩
          · refine .done ?_ nofun
            cases hk : k a with
            | await r' k' =>
              rw [hk] at hsafe'
              exact absurd hsafe'.1.1 nofun
            | pure _ => rfl
            | throw _ => rfl
          · exact (h.stands j t hj).other (hother j hne) nofun
      · obtain ⟨hlock', htenures⟩ := lock_of_exec hx hsafe.1.2.1 hr
        have hheld : s'.lock ≠ none := by
          rw [hlock']
          rintro hnone
          simp [hnone] at hlock
        refine ⟨fun h => absurd h hheld, fun h => absurd h hheld, fun j base hj => ?_,
          fun j t hj => ?_⟩
        · rw [htenures]
          exact h.before j base (hlock' ▸ hj)
        · rcases getElem?_set_task hi hj with ⟨rfl, rfl⟩ | ⟨hne, hj⟩
          · exact .inside w hw (by rw [hlock', hlock]) hsafe'
          · exact (h.stands j t hj).other (hother j hne) (by rw [hlock']; exact hother j hne)

theorem Invariant.allOrNothing {c : Config Stmt Stmt.Resp Exc Unit Connection}
    (h : Invariant rt writers t₀ c) : AllOrNothing rt writers t₀ c := by
  refine ⟨h.nothingOpen, h.complete, h.before, fun i k past hi => ?_⟩
  cases h.stands i _ hi with
  | waiting w hw hprog _ =>
    obtain ⟨k₀, hk₀, -, -⟩ := lockedBy_program rt w i
    rw [hk₀] at hprog
    cases hprog
  | inside w hw hlock hsafe => exact hsafe.1.2.2.1 rfl
  | done hdone _ => cases hdone

theorem invariant_start (rt : Runtime) (writers : List Writer) (t₀ : Tables) :
    Invariant rt writers t₀
      (.start { committed := t₀ } (writers.map (Writer.program rt))) := by
  refine ⟨fun _ => rfl, fun _ => rfl, by simp [Config.start], fun i t hi => ?_⟩
  simp only [Config.start, List.getElem?_map, Option.map_map, Option.map_eq_some_iff] at hi
  obtain ⟨w, hw, rfl⟩ := hi
  exact .waiting w hw rfl (by simp [Config.start])

/-- **SQLite writers are all-or-nothing as long as what escapes their handlers leaves no
transaction open.** -/
theorem writers_all_or_nothing (rt : Runtime) (writers : List Writer) (t₀ : Tables)
    (es : List (Event (Option Fault) Empty))
    (hG : Guarded world LeavesNothingOpen
      (.start { committed := t₀ } (writers.map (Writer.program rt))) es) :
    Always world (AllOrNothing rt writers t₀)
      (.start { committed := t₀ } (writers.map (Writer.program rt))) es :=
  (always_of_guarded (fun _ _ _ => invariant_step) (invariant_start rt writers t₀) hG).imp
    fun _ => Invariant.allOrNothing

end Writers

/-! ### Schedules -/

/-- One connection in the default workspace. -/
def oneConnection : Tables where
  connections := .singleton {
    id := "c1", name := "One", hosts := ["h"], port := 3000, clusterName := none,
    username := none, password := none, color := "#0097D3", note := none,
    labels := none, workspaceId := some "ws-default", createdAt := "0", updatedAt := "0" }
  workspaces := .singleton { id := "ws-default", name := "Default", isDefault := true,
                             ownerId := "system", createdAt := "0", updatedAt := "0" }
  setNotes := .empty
  recordNotes := .empty
  guides := .empty

/-- A deletion of the connection. -/
def oneDeletion : List Writer := [.deleteConnection "c1"]

/-- The `DELETE` raises a driver error after it has run: the handler rolls it back. -/
theorem writers_all_or_nothing_driver_error :
    Always world (AllOrNothing plainRuntime oneDeletion oneConnection)
      (.start { committed := oneConnection } (oneDeletion.map (Writer.program plainRuntime)))
      [.task 0 none, .task 0 (some ⟨.databaseError "disk I/O error", .complete⟩),
        .task 0 none, .task 0 none] := by
  refine writers_all_or_nothing plainRuntime oneDeletion oneConnection _ ?_
  rintro _ ⟨⟩
  refine ⟨nofun, ?_⟩
  rintro _ ⟨⟩
  refine ⟨?_, ?_⟩
  · rintro _ ⟨⟩ ⟨⟩
  rintro _ ⟨⟩
  refine ⟨nofun, ?_⟩
  rintro _ ⟨⟩
  exact ⟨nofun, trivial⟩

/-- The `DELETE` is cancelled after it has run: no handler catches the cancellation, the lock is
released, and the transaction stays open on the shared connection. -/
theorem cancelled_writer_leaves_transaction_open :
    ¬ Always world (AllOrNothing plainRuntime oneDeletion oneConnection)
      (.start { committed := oneConnection } (oneDeletion.map (Writer.program plainRuntime)))
      [.task 0 none, .task 0 (some ⟨.cancelled, .complete⟩), .task 0 none] := by
  intro h
  exact nomatch (h.run rfl).nothingOpen rfl

end ClusterManager.Db.Sqlite
