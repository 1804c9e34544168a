import ClusterManager.Db.SqliteAtomic

/-!
# SQLite writers without faults

A writer that meets no fault runs inside the lock as if it were alone (`run_program`), so a
schedule without faults is a serial one: when every writer is done, the writers have had one turn
each, and the committed tables are those of their complete operations one after the other
(`writers_serial`).
-/

namespace ClusterManager.Db.Sqlite

open Interleaving

/-- The tables a writer leaves: those of its complete operation, or the ones it found when that
raises. -/
def Writer.settled (rt : Runtime) (w : Writer) (t : Tables) : Tables :=
  match w.complete rt t with
  | .ok t' => t'
  | .error _ => t

/-- The connection after a turn that found `base` and left `t`. -/
def Connection.afterTurn (s : Connection) (i : ℕ) (base t : Tables) : Connection :=
  { committed := t, tx := none, lock := none, tenures := s.tenures ++ [⟨i, base, t⟩] }

/-! ### A writer alone -/

section Alone

variable {rt : Runtime} {i : ℕ} {s s₁ : Connection} {α β : Type} {body : Program α}

/-- The lock is taken and the transaction begun. -/
def Connection.opened (s : Connection) (i : ℕ) : Connection :=
  { s with lock := some (i, s.committed), tx := some s.committed }

/-- A transaction whose body returns ends as its body does. -/
theorem run_transaction_ok (htx : s.tx = none) {a : α}
    (h : body.run (Stmt.run i) (s.opened i) = (.ok a, s₁)) :
    (withWriteLock (do sql .begin; rollbackOnException body)).run (Stmt.run i) s =
      (.ok a, (Stmt.release.run i s₁).2) := by
  simp only [Connection.opened] at h
  simp only [withWriteLock, rollbackOnException, Coroutine.tryFinally, Coroutine.run_bind,
    Coroutine.run_call, Coroutine.run_tryCatch, Stmt.run, htx, h]
  rfl

/-- A transaction whose body raises is rolled back. -/
theorem run_transaction_error (htx : s.tx = none) {e : Exc} (he : e.isException = true)
    (h : body.run (Stmt.run i) (s.opened i) = (.error e, s₁)) :
    (withWriteLock (do sql .begin; rollbackOnException body)).run (Stmt.run i) s =
      (.error e, (Stmt.release.run i { s₁ with tx := none }).2) := by
  simp only [Connection.opened] at h
  simp only [withWriteLock, rollbackOnException, Coroutine.tryFinally, Coroutine.run_bind,
    Coroutine.run_call, Coroutine.run_tryCatch, Stmt.run, htx, h, he, if_true]
  rfl

/-- A cursor reads the rows and leaves the connection as it is. -/
theorem run_cursor {q : Query} : (cursor q).run (Stmt.run i) s = (.ok (q.rows s.view), s) := rfl

theorem run_then {p : Program α} {f : α → Program β} (hf : ∀ a, (f a).isDone = true) :
    ((p >>= f).run (Stmt.run i) s).2 = (p.run (Stmt.run i) s).2 := by
  rw [Coroutine.run_bind]
  rcases p.run (Stmt.run i) s with ⟨_ | a, s'⟩
  · rfl
  · have hdone := hf a
    dsimp only
    cases hfa : f a with
    | await r k => simp [hfa, Coroutine.isDone] at hdone
    | pure b => rfl
    | throw e => rfl

theorem run_map {p : Program α} {f : α → β} :
    ((p >>= fun a => pure (f a)).run (Stmt.run i) s).2 = (p.run (Stmt.run i) s).2 :=
  run_then fun _ => rfl

/-- One statement and its commit, alone. -/
theorem run_executeAndCommit (htx : s.tx = none) (d : Dml) :
    ((executeAndCommit d).run (Stmt.run i) s).2 =
      s.afterTurn i s.committed (match d.apply s.committed with
        | .ok (_, t) => t
        | .error _ => s.committed) := by
  simp only [executeAndCommit, withWriteLock, rollbackOnException, Coroutine.tryFinally,
    Coroutine.run_bind, Coroutine.run_call, Coroutine.run_tryCatch, Stmt.run, Connection.view, htx,
    Option.getD_none]
  cases h : d.apply s.committed with
  | ok x => rfl
  | error e =>
    simp [isException_of_apply h, Coroutine.run_bind, Stmt.run, Connection.afterTurn]

/-- One upsert, its fetch and its commit, alone. -/
theorem run_upsertAndCommit (htx : s.tx = none) (d : Dml) (q : Query) :
    ((upsertAndCommit d q).run (Stmt.run i) s).2 =
      s.afterTurn i s.committed (match d.apply s.committed with
        | .ok (_, t) => t
        | .error _ => s.committed) := by
  simp only [upsertAndCommit, withWriteLock, rollbackOnException, Coroutine.tryFinally,
    Coroutine.run_bind, Coroutine.run_call, Coroutine.run_tryCatch, Stmt.run, Connection.view, htx,
    Option.getD_none]
  cases h : d.apply s.committed with
  | ok x => rfl
  | error e =>
    simp [isException_of_apply h, Coroutine.run_bind, Stmt.run, Connection.afterTurn]

/-- A transaction that reads first leaves what its body committed, or what it found. -/
theorem run_transaction (htx : s.tx = none) {x : Except Exc α} {t : Tables}
    (h : body.run (Stmt.run i) (s.opened i) = (x, s₁)) (hlock : s₁.lock = (s.opened i).lock)
    (htenures : s₁.tenures = s.tenures) (ht : s₁.committed = t)
    (hx : match x with
      | .ok _ => s₁.tx = none
      | .error e => e.isException = true) :
    ((withWriteLock (do sql .begin; rollbackOnException body)).run (Stmt.run i) s).2 =
      s.afterTurn i s.committed t := by
  cases x with
  | ok a =>
    rw [run_transaction_ok htx h]
    simp [Stmt.run, Connection.afterTurn, Connection.opened, hlock, htenures, ht, hx]
  | error e =>
    rw [run_transaction_error htx hx h]
    simp [Stmt.run, Connection.afterTurn, Connection.opened, hlock, htenures, ht]

theorem run_updateConnection (htx : s.tx = none) {connId : String} {data : UpdateData}
    {now : String} {nonce : ℕ} :
    ((updateConnection rt connId data now nonce).run (Stmt.run i) s).2 =
      s.afterTurn i s.committed
        ((Writer.updateConnection connId data now nonce).settled rt s.committed) := by
  have hread : (cursor (.connectionById connId)).run (Stmt.run i) (s.opened i) =
      (.ok (s.committed.connections.find? connId).toList, s.opened i) := rfl
  have hbody : (updateConnectionBody rt connId data now nonce).run (Stmt.run i) (s.opened i) =
      (updateConnectionBody rt connId data now nonce).run (Stmt.run i) (s.opened i) := rfl
  conv_rhs at hbody => rw [updateConnectionBody, Coroutine.run_bind, hread]
  rw [Writer.settled, Writer.complete, Db.updateConnection]
  cases hrow : s.committed.connections.find? connId with
  | none =>
    rw [hrow] at hbody
    exact run_transaction htx hbody rfl rfl rfl rfl
  | some row =>
    rw [hrow] at hbody
    simp only [Option.toList_some, List.head?_cons, Coroutine.run_bind, Coroutine.run_lift] at hbody
    dsimp only
    cases hexisting : decryptedProfile rt row with
    | error e =>
      rw [hexisting] at hbody
      exact run_transaction htx hbody rfl rfl rfl (isException_decryptedProfile hexisting)
    | ok existing =>
      rw [hexisting] at hbody
      simp only [ok_bind] at hbody ⊢
      cases hupdated : buildMergedProfile rt existing data connId now with
      | error e =>
        rw [hupdated] at hbody
        exact run_transaction htx hbody rfl rfl rfl (isException_buildMergedProfile hupdated)
      | ok updated =>
        rw [hupdated] at hbody
        exact run_transaction htx hbody rfl rfl rfl rfl

theorem run_updateWorkspace (htx : s.tx = none) {workspaceId : String}
    {data : WorkspaceUpdateData} {now : String} :
    ((updateWorkspace workspaceId data now).run (Stmt.run i) s).2 =
      s.afterTurn i s.committed
        ((Writer.updateWorkspace workspaceId data now).settled rt s.committed) := by
  have hread : (cursor (.workspaceById workspaceId)).run (Stmt.run i) (s.opened i) =
      (.ok (s.committed.workspaces.find? workspaceId).toList, s.opened i) := rfl
  have hbody : (updateWorkspaceBody workspaceId data now).run (Stmt.run i) (s.opened i) =
      (updateWorkspaceBody workspaceId data now).run (Stmt.run i) (s.opened i) := rfl
  conv_rhs at hbody => rw [updateWorkspaceBody, Coroutine.run_bind, hread]
  rw [Writer.settled, Writer.complete, Db.updateWorkspace]
  cases hrow : s.committed.workspaces.find? workspaceId with
  | none =>
    rw [hrow] at hbody
    exact run_transaction htx hbody rfl rfl rfl rfl
  | some row =>
    rw [hrow] at hbody
    simp only [Option.toList_some, List.head?_cons, Coroutine.run_bind, Coroutine.run_lift] at hbody
    dsimp only
    cases hexisting : rowToWorkspace row with
    | error e =>
      rw [hexisting] at hbody
      exact run_transaction htx hbody rfl rfl rfl (isException_rowToWorkspace hexisting)
    | ok existing =>
      rw [hexisting] at hbody
      simp only [ok_bind] at hbody ⊢
      cases hupdated : buildMergedWorkspace existing data now with
      | error e =>
        rw [hupdated] at hbody
        exact run_transaction htx hbody rfl rfl rfl (isException_buildMergedWorkspace hupdated)
      | ok updated =>
        rw [hupdated] at hbody
        exact run_transaction htx hbody rfl rfl rfl rfl

/-- The loop of the migration, alone. -/
theorem run_rewriteRows_succeeding {nonces : String → ℕ} {rows : List ConnectionRow} {t : Tables}
    (htx : s.tx = some t) :
    (rewriteRows rt (.succeeding nonces) rows).run (Stmt.run i) s =
      (.ok (rows.filterMap (passwordRewrite rt nonces)).length,
        { s with
          tx := some (rewritePasswords t (rows.filterMap (passwordRewrite rt nonces))) }) := by
  induction rows generalizing s t with
  | nil =>
    rw [List.filterMap_nil, rewritePasswords, List.foldl_nil, ← htx]
    rfl
  | cons row rows ih =>
    unfold rewriteRows
    rw [List.filterMap_cons, passwordRewrite_eq]
    cases hp : legacyPassword row with
    | none => exact ih htx
    | some password =>
      have hview : s.view = t := by rw [Connection.view, htx]; rfl
      rw [Coroutine.run_bind, Draws.succeeding, Coroutine.run_lift]
      simp only [Coroutine.run_bind, Coroutine.run_call, Stmt.run, hview, Dml.apply]
      rw [← Draws.succeeding, ih rfl]
      rfl

theorem run_migratePasswordsToEncrypted (htx : s.tx = none) {nonces : String → ℕ} :
    ((migratePasswordsToEncrypted rt (.succeeding nonces)).run (Stmt.run i) s).2 =
      s.afterTurn i s.committed
        ((Writer.migratePasswordsToEncrypted nonces).settled rt s.committed) := by
  have hbody : (migrateBody rt (.succeeding nonces)).run (Stmt.run i) (s.opened i) =
      (migrateBody rt (.succeeding nonces)).run (Stmt.run i) (s.opened i) := rfl
  conv_rhs at hbody =>
    rw [migrateBody, Coroutine.run_bind, run_cursor]
    change Coroutine.run _ (rewriteRows rt _ s.committed.connections.rows >>= _) _
    rw [Coroutine.run_bind, run_rewriteRows_succeeding (t := s.committed) rfl]
  exact run_transaction htx hbody rfl rfl rfl rfl

/-- What the complete operation of one statement leaves. -/
theorem settled_of_complete {w : Writer} {d : Dml} {t : Tables}
    (hw : w.complete rt t = (d.apply t).map Prod.snd) :
    w.settled rt t = match d.apply t with
      | .ok (_, t') => t'
      | .error _ => t := by
  rw [Writer.settled, hw]
  cases d.apply t <;> rfl

/-- A writer alone has one turn. -/
theorem run_program (rt : Runtime) (w : Writer) (htx : s.tx = none) :
    ((w.program rt).run (Stmt.run i) s).2 =
      s.afterTurn i s.committed (w.settled rt s.committed) := by
  cases w with
  | createConnection conn nonce =>
    rw [settled_of_complete (d := .insertConnection (profileToRow rt nonce conn)) rfl]
    exact run_map.trans (run_executeAndCommit htx _)
  | updateConnection connId data now nonce => exact run_map.trans (run_updateConnection htx)
  | deleteConnection connId => exact run_map.trans (run_map.trans (run_executeAndCommit htx _))
  | createWorkspace ws =>
    rw [settled_of_complete (d := .insertWorkspace ws) rfl]
    exact run_map.trans (run_executeAndCommit htx _)
  | updateWorkspace workspaceId data now => exact run_map.trans (run_updateWorkspace htx)
  | deleteWorkspace workspaceId =>
    exact run_map.trans (run_map.trans (run_executeAndCommit htx _))
  | migratePasswordsToEncrypted nonces => exact run_map.trans (run_migratePasswordsToEncrypted htx)
  | upsertSetNote note =>
    rw [settled_of_complete (d := .upsertSetNote note) rfl]
    exact run_map.trans ((run_then fun _ => isDone_lift).trans (run_upsertAndCommit htx _ _))
  | deleteSetNote connectionId namespace_ setName =>
    exact run_map.trans (run_map.trans (run_executeAndCommit htx _))
  | upsertRecordNote note =>
    rw [settled_of_complete (d := .upsertRecordNote note) rfl]
    exact run_map.trans ((run_then fun _ => isDone_lift).trans (run_upsertAndCommit htx _ _))
  | deleteRecordNote connectionId namespace_ setName pkText pkType =>
    exact run_map.trans (run_map.trans (run_executeAndCommit htx _))
  | upsertGuide guide =>
    rw [settled_of_complete (d := .upsertGuide guide) rfl]
    exact run_map.trans ((run_then fun _ => isDone_lift).trans (run_upsertAndCommit htx _ _))
  | deleteGuide workspaceId guideType =>
    exact run_map.trans (run_map.trans (run_executeAndCommit htx _))

end Alone

/-! ### Schedules without faults -/

section Serial

variable (rt : Runtime) (writers : List Writer)

/-- No await of the schedule raises by itself. -/
def FaultFree (es : List (Event (Option Fault) Empty)) : Prop :=
  ∀ i x, Event.task i x ∈ es → x = none

/-- The tables after the turns of some writers. -/
def settledAll (t : Tables) (turns : List ℕ) : Tables :=
  turns.foldl (fun t i => (writers[i]?.map fun w => w.settled rt t).getD t) t

/-- Who has had a turn, in order. -/
def Connection.turns (s : Connection) : List ℕ := s.tenures.map (·.writer)

/-- Where a writer stands: its turn is to come, is under way with the rest of it settled, or is
over. -/
inductive Turn (i : ℕ) (s : Connection) (prog : Program Unit) : Prop
  | ahead (w : Writer) (hw : writers[i]? = some w) (hprog : prog = w.program rt)
      (hlock : s.lock.map Prod.fst ≠ some i) (hturns : i ∉ s.turns)
  | underway (w : Writer) (hw : writers[i]? = some w) (base : Tables)
      (hlock : s.lock = some (i, base)) (hturns : i ∉ s.turns)
      (hrun : (prog.run (Stmt.run i) s).2 = s.afterTurn i base (w.settled rt base))
  | finished (hdone : prog.isDone = true) (hlock : s.lock.map Prod.fst ≠ some i)
      (hturns : i ∈ s.turns)

/-- What every step without a fault keeps. -/
structure Serial (t₀ : Tables) (c : Config Stmt Stmt.Resp Exc Unit Connection) : Prop where
  invariant : Invariant rt writers t₀ c
  stands : ∀ (i : ℕ) (t : Task Stmt Stmt.Resp Exc Unit), c.tasks[i]? = some t →
    Turn rt writers i c.shared t.prog
  free : c.shared.lock = none → c.shared.committed = settledAll rt writers t₀ c.shared.turns
  held : ∀ i base, c.shared.lock = some (i, base) →
    base = settledAll rt writers t₀ c.shared.turns
  nodup : c.shared.turns.Nodup
  length : c.tasks.length = writers.length
  lt : ∀ i ∈ c.shared.turns, i < writers.length
  holder : ∀ i base, c.shared.lock = some (i, base) → i < writers.length

variable {rt writers} {t₀ : Tables}

theorem settledAll_concat {i : ℕ} {w : Writer} (hw : writers[i]? = some w) (t : Tables)
    (turns : List ℕ) :
    settledAll rt writers t (turns ++ [i]) = w.settled rt (settledAll rt writers t turns) := by
  simp [settledAll, hw]

/-- Another writer's turn is not touched by a step. -/
theorem Turn.other {j : ℕ} {s s' : Connection} {prog : Program Unit}
    (h : Turn rt writers j s prog) (hs : s.lock.map Prod.fst ≠ some j)
    (hs' : s'.lock.map Prod.fst ≠ some j) (hturns : j ∈ s'.turns ↔ j ∈ s.turns) :
    Turn rt writers j s' prog := by
  cases h with
  | ahead w hw hprog _ h => exact .ahead w hw hprog hs' fun h' => h (hturns.1 h')
  | underway w hw base hlock _ _ => exact absurd (by rw [hlock]; rfl) hs
  | finished hdone _ h => exact .finished hdone hs' (hturns.2 h)

theorem exec_none {i : ℕ} {r : Stmt} {s : Connection} (hr : r ≠ .acquire) :
    world.exec i r none s = some (r.run i s) := by
  cases r <;> first | exact absurd rfl hr | rfl

/-- What the all-or-nothing invariant says of the holder's next statement. -/
theorem safe_of_underway {c : Config Stmt Stmt.Resp Exc Unit Connection} {i : ℕ} {r : Stmt}
    {k : Except Exc r.Resp → Program Unit} {past : List (Answer Stmt Stmt.Resp Exc)} {base : Tables}
    (h : Invariant rt writers t₀ c) (hi : c.tasks[i]? = some ⟨.await r k, past⟩)
    (hlock : c.shared.lock = some (i, base)) :
    r ≠ .acquire ∧ ∃ op, ∀ a s', Next i r a c.shared s' →
      (k a).Safe (Next i) (MayAwait op i) s' (fun _ s' => s'.lock = none)
        (fun _ s' => s'.lock = none) := by
  cases h.stands i _ hi with
  | waiting w hw hprog hlock' => exact absurd (by rw [hlock]; rfl) hlock'
  | inside w hw hlock' hsafe => exact ⟨hsafe.1.2.1, _, hsafe.2⟩
  | done hdone hlock' => cases hdone

theorem serial_step {c c' : Config Stmt Stmt.Resp Exc Unit Connection} {i : ℕ}
    (h : Serial rt writers t₀ c) (hstep : step world c (.task i none) = some c') :
    Serial rt writers t₀ c' := by
  have hinv' : Invariant rt writers t₀ c' := by
    refine invariant_step h.invariant ?_ hstep
    simp only [Permits, LeavesNothingOpen]
    split <;> simp
  obtain ⟨r, k, past, a, s', hi, hx, rfl⟩ := step_task hstep
  have hlength : (c.tasks.set i ⟨k a, past ++ [⟨r, a⟩]⟩).length = writers.length := by
    rw [List.length_set, h.length]
  -- the writer has not begun, or is inside its turn: one that is done makes no statement
  cases h.stands i _ hi with
  | finished hdone _ _ => cases hdone
  | ahead w hw hprog hlock hturns =>
    obtain ⟨k₀, hk₀, -, -⟩ := lockedBy_program rt w i
    have hrun := run_program (i := i) (s := c.shared) rt w
    rw [hk₀] at hprog hrun
    cases hprog
    simp only [world] at hx
    -- the turn begins where the lock is free, with the tables that are committed then
    split at hx
    next hfree =>
      cases hx
      have hfree : c.shared.lock = none := by simpa using hfree
      refine ⟨hinv', fun j t hj => ?_, by simp, ?_, h.nodup, hlength, h.lt, ?_⟩
      · rcases getElem?_set_task hi hj with ⟨rfl, rfl⟩ | ⟨hne, hj⟩
        · exact .underway w hw c.shared.committed rfl hturns
            (hrun (h.invariant.nothingOpen hfree))
        · exact (h.stands j t hj).other (by simp [hfree]) (by simpa using Ne.symm hne) Iff.rfl
      · rintro _ _ ⟨⟩
        exact h.free hfree
      · rintro _ _ ⟨⟩
        exact (List.getElem?_eq_some_iff.1 hw).1
    next => cases hx
  | underway w hw base hlock hturns hrun =>
    obtain ⟨hacquire, op, hsafe⟩ := safe_of_underway h.invariant hi hlock
    rw [exec_none hacquire, Option.some.injEq] at hx
    have hs' : s' = (r.run i c.shared).2 := by rw [hx]
    have hrun' : ((k a).run (Stmt.run i) s').2 = c.shared.afterTurn i base (w.settled rt base) := by
      rw [← hrun, Coroutine.run, hx]
    have hother : ∀ j, j ≠ i → c.shared.lock.map Prod.fst ≠ some j := by
      intro j hne
      rw [hlock]
      simpa using Ne.symm hne
    by_cases hr : r = .release
    · -- nothing is left to do: the turn is over
      subst hr
      -- after the release nothing is awaited: a further statement would need the lock
      have hdone : (k a).isDone = true ∧ s' = c.shared.afterTurn i base (w.settled rt base) := by
        have := hsafe a s' ⟨none, by simp [LeavesNothingOpen], by rw [exec_none hacquire, hx]⟩
        cases hk : k a with
        | await r' k' =>
          rw [hk] at this
          have hlock' := this.1.1
          rw [hs'] at hlock'
          cases hlock'
        | pure _ => exact ⟨rfl, by rw [← hrun', hk]; rfl⟩
        | throw _ => exact ⟨rfl, by rw [← hrun', hk]; rfl⟩
      have hturns' : s'.turns = c.shared.turns ++ [i] := by
        rw [hdone.2]
        simp [Connection.turns, Connection.afterTurn]
      have hmem : ∀ j, j ≠ i → (j ∈ s'.turns ↔ j ∈ c.shared.turns) := by
        intro j hne
        simp [hturns', hne]
      have hlock' : s'.lock = none := by rw [hdone.2]; rfl
      refine ⟨hinv', fun j t hj => ?_, fun _ => ?_, by simp [hlock'], ?_, hlength, ?_,
        by simp [hlock']⟩
      · rcases getElem?_set_task hi hj with ⟨rfl, rfl⟩ | ⟨hne, hj⟩
        · exact .finished hdone.1 (by simp [hlock']) (by simp [hturns'])
        · exact (h.stands j t hj).other (hother j hne) (by simp [hlock']) (hmem j hne)
      · change s'.committed = settledAll rt writers t₀ s'.turns
        rw [hturns', settledAll_concat hw, ← h.held i base hlock, hdone.2]
        rfl
      · change s'.turns.Nodup
        rw [hturns']
        exact List.Nodup.append h.nodup (List.nodup_singleton i) (by simpa using hturns)
      · intro j hj
        by_cases hne : j = i
        · exact hne ▸ (List.getElem?_eq_some_iff.1 hw).1
        · exact h.lt j ((hmem j hne).1 hj)
    · obtain ⟨hlock', htenures⟩ := lock_of_exec (x := none) (by rw [exec_none hacquire, hx])
        hacquire hr
      have hturns' : s'.turns = c.shared.turns := by rw [Connection.turns, htenures]; rfl
      have hafter : s'.afterTurn i base = c.shared.afterTurn i base := by
        funext t
        rw [Connection.afterTurn, htenures]
        rfl
      refine ⟨hinv', fun j t hj => ?_, fun hfree => ?_, fun j b hj => ?_, ?_, hlength, ?_,
        fun j b hj => h.holder j b (hlock' ▸ hj)⟩
      · rcases getElem?_set_task hi hj with ⟨rfl, rfl⟩ | ⟨hne, hj⟩
        · exact .underway w hw base (hlock' ▸ hlock) (hturns' ▸ hturns)
            (by rw [hafter]; exact hrun')
        · exact (h.stands j t hj).other (hother j hne) (by rw [hlock']; exact hother j hne)
            (by rw [hturns'])
      · rw [hlock', hlock] at hfree
        cases hfree
      · change b = settledAll rt writers t₀ s'.turns
        rw [hturns']
        exact h.held j b (hlock' ▸ hj)
      · change s'.turns.Nodup
        rw [hturns']
        exact h.nodup
      · intro j hj
        exact h.lt j (hturns' ▸ hj)

theorem serial_start (rt : Runtime) (writers : List Writer) (t₀ : Tables) :
    Serial rt writers t₀ (.start { committed := t₀ } (writers.map (Writer.program rt))) := by
  have hstart := invariant_start rt writers t₀
  refine ⟨hstart, fun i t hi => ?_, fun _ => rfl, nofun, List.nodup_nil, by simp [Config.start],
    by simp [Connection.turns, Config.start], nofun⟩
  cases hstart.stands i t hi with
  | waiting w hw hprog hlock =>
    exact .ahead w hw hprog hlock (by simp [Connection.turns, Config.start])
  | inside w hw hlock _ => cases hlock
  | done hdone _ =>
    simp only [Config.start, List.getElem?_map, Option.map_map, Option.map_eq_some_iff] at hi
    obtain ⟨w, hw, rfl⟩ := hi
    obtain ⟨k₀, hk₀, -, -⟩ := lockedBy_program rt w i
    simp only [Function.comp_apply, hk₀] at hdone
    cases hdone

theorem serial_run {es : List (Event (Option Fault) Empty)} (hes : FaultFree es)
    {c c' : Config Stmt Stmt.Resp Exc Unit Connection} (h : Serial rt writers t₀ c)
    (hrun : run world c es = some c') : Serial rt writers t₀ c' := by
  induction es generalizing c with
  | nil => exact Option.some.inj hrun ▸ h
  | cons e es ih =>
    obtain ⟨c₁, hc, hrun⟩ := Option.bind_eq_some_iff.1 hrun
    refine ih (fun i x hx => hes i x (List.mem_cons_of_mem _ hx)) ?_ hrun
    cases e with
    | env e => cases e
    | task i x =>
      cases hes i x List.mem_cons_self
      exact serial_step h hc

/-- **A schedule without faults is serial.** When every writer is done, each has had one turn, and
the committed tables are those of the turns in order. -/
theorem writers_serial (rt : Runtime) (writers : List Writer) (t₀ : Tables)
    (es : List (Event (Option Fault) Empty)) (hes : FaultFree es)
    {c : Config Stmt Stmt.Resp Exc Unit Connection}
    (hrun : run world (.start { committed := t₀ } (writers.map (Writer.program rt))) es = some c)
    (hdone : ∀ t ∈ c.tasks, t.prog.isDone = true) :
    c.shared.lock = none ∧ c.shared.tx = none ∧
      c.shared.turns.Perm (List.range writers.length) ∧
      c.shared.committed = settledAll rt writers t₀ c.shared.turns := by
  have h := serial_run hes (serial_start rt writers t₀) hrun
  have hover : ∀ i, i < writers.length → c.shared.lock.map Prod.fst ≠ some i ∧
      i ∈ c.shared.turns := by
    intro i hi
    rw [← h.length] at hi
    have hprog := hdone _ (List.getElem_mem hi)
    cases h.stands i _ (List.getElem?_eq_getElem hi) with
    | finished _ hlock hturns => exact ⟨hlock, hturns⟩
    | ahead w hw hprog' hlock hturns =>
      obtain ⟨k₀, hk₀, -, -⟩ := lockedBy_program rt w i
      rw [hprog', hk₀] at hprog
      cases hprog
    | underway w hw base hlock hturns hrun =>
      have hend : c.shared = c.shared.afterTurn i base (w.settled rt base) := by
        rw [← hrun]
        cases hk : (c.tasks[i]).prog with
        | await r k =>
          rw [hk] at hprog
          cases hprog
        | pure _ => rfl
        | throw _ => rfl
      rw [hend] at hlock
      cases hlock
  have hfree : c.shared.lock = none := by
    cases hlock : c.shared.lock with
    | none => rfl
    | some p =>
      obtain ⟨i, base⟩ := p
      exact absurd (by rw [hlock]; rfl) (hover i (h.holder i base hlock)).1
  refine ⟨hfree, h.invariant.nothingOpen hfree, ?_, h.free hfree⟩
  refine (List.perm_ext_iff_of_nodup h.nodup List.nodup_range).2 fun i => ?_
  rw [List.mem_range]
  exact ⟨h.lt i, fun hi => (hover i hi).2⟩

end Serial

end ClusterManager.Db.Sqlite
