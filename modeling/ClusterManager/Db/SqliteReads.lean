import ClusterManager.Db.SqliteAtomic

/-!
# Reads beside the writers of SQLite

A reader takes no lock: its `SELECT` is one more statement on the shared connection and sees the
transaction a writer has open there. `reads_committed` says when every read returns rows of a
committed state of the tables: when no `SELECT` runs between a writer's change and its `COMMIT`.
-/

namespace ClusterManager.Db.Sqlite

open Interleaving

/-- The `SELECT`s of the readers. -/
inductive Read
  | allConnections (workspaceId : Option String)
  | connection (connId : String)
  | connectionCount (workspaceId : String)
  | allWorkspaces
  | workspace (workspaceId : String)
  | workspacesOwnedBy (ownerId : String)
  | setNote (connectionId namespace_ setName : String)
  | setNotes (connectionId : String) (namespace_ : Option String)
  | setNotesNamed (connectionId namespace_ : String) (setNames : List String)
  | recordNote (connectionId namespace_ setName pkText pkType : String)
  | recordNotes (connectionId namespace_ setName : String)
  | recordNotesKeyed (connectionId namespace_ setName : String) (pks : List (String × String))
  | guide (workspaceId guideType : String)
  | guides (workspaceId : String)

/-- The rows each `SELECT` returns. -/
abbrev Read.Row : Read → Type
  | .allConnections _ | .connection _ => ConnectionRow
  | .connectionCount _ => ℕ
  | .allWorkspaces | .workspace _ | .workspacesOwnedBy _ => Workspace
  | .setNote _ _ _ | .setNotes _ _ => SetNote
  | .setNotesNamed _ _ _ => String × String
  | .recordNote _ _ _ _ _ | .recordNotes _ _ _ => RecordNote
  | .recordNotesKeyed _ _ _ _ => (String × String) × String
  | .guide _ _ | .guides _ => Guide

/-- `a < b`, or `a = b` and the rest decides. -/
def lexLe (a b : String × String) : Prop := a.1 < b.1 ∨ (a.1 = b.1 ∧ a.2 ≤ b.2)

instance : DecidableRel lexLe := fun a b =>
  inferInstanceAs (Decidable (a.1 < b.1 ∨ (a.1 = b.1 ∧ a.2 ≤ b.2)))

/-- The result of a `SELECT`. -/
def Read.rows : (q : Read) → Tables → List q.Row
  | .allConnections workspaceId, t =>
      (t.connections.rows.filter fun row => workspaceId.all fun w => row.workspaceId = some w)
        |>.insertionSort fun a b => a.createdAt ≤ b.createdAt
  | .connection connId, t => (t.connections.find? connId).toList
  | .connectionCount workspaceId, t => [countConnectionsInWorkspace workspaceId t]
  | .allWorkspaces, t => t.workspaces.rows.insertionSort Workspace.before
  | .workspace workspaceId, t => (t.workspaces.find? workspaceId).toList
  | .workspacesOwnedBy ownerId, t =>
      (t.workspaces.rows.filter fun ws => ws.ownerId = ownerId ∨ ws.ownerId = systemOwnerId)
        |>.insertionSort Workspace.before
  | .setNote connectionId namespace_ setName, t =>
      (t.setNotes.find? (connectionId, namespace_, setName)).toList
  | .setNotes connectionId namespace_, t =>
      (t.setNotes.rows.filter fun n =>
          n.connectionId = connectionId ∧ namespace_.all fun ns => n.namespace_ = ns)
        |>.insertionSort fun a b => lexLe (a.namespace_, a.setName) (b.namespace_, b.setName)
  | .setNotesNamed connectionId namespace_ setNames, t =>
      (t.setNotes.rows.filter fun n =>
          n.connectionId = connectionId ∧ n.namespace_ = namespace_ ∧ n.setName ∈ setNames).map
        fun n => (n.setName, n.note)
  | .recordNote connectionId namespace_ setName pkText pkType, t =>
      (t.recordNotes.find? (connectionId, namespace_, setName, pkText, pkType)).toList
  | .recordNotes connectionId namespace_ setName, t =>
      (t.recordNotes.rows.filter fun n =>
          n.connectionId = connectionId ∧ n.namespace_ = namespace_ ∧ n.setName = setName)
        |>.insertionSort fun a b => a.pkText ≤ b.pkText
  | .recordNotesKeyed connectionId namespace_ setName pks, t =>
      (t.recordNotes.rows.filter fun n =>
          n.connectionId = connectionId ∧ n.namespace_ = namespace_ ∧ n.setName = setName ∧
            (n.pkText, n.pkType) ∈ pks).map
        fun n => ((n.pkText, n.pkType), n.note)
  | .guide workspaceId guideType, t => (t.guides.find? (workspaceId, guideType)).toList
  | .guides workspaceId, t =>
      (t.guides.rows.filter (·.workspaceId = workspaceId)).insertionSort
        fun a b => a.guideType ≤ b.guideType

/-! ### The shared connection with its readers -/

/-- The awaits of writers and readers. A reader runs its `SELECT`, fetches and closes its cursor. -/
inductive Ask
  | write (r : Stmt)
  | query (q : Read)
  | fetch
  | close

/-- What each await returns. -/
abbrev Ask.Resp : Ask → Type
  | .write r => r.Resp
  | .query q => List q.Row
  | .fetch | .close => Unit

/-- The shared connection, and every state of the tables that has been committed. -/
structure History where
  connection : Connection
  states : List Tables

/-- The connection after a statement. -/
def History.record (s : History) (connection : Connection) : History :=
  ⟨connection, s.states ++ [connection.committed]⟩

/-- One await on the shared connection. A `SELECT` sees what the connection sees. -/
def queue : World Ask Ask.Resp Exc (Option Fault) Empty History where
  exec i r x s :=
    match r, x with
    | .write r, x => (world.exec i r x s.connection).map fun (a, connection) =>
        (a, s.record connection)
    | .query q, none => some (.ok (q.rows s.connection.view), s)
    | .fetch, none => some (.ok (), s)
    | .close, none => some (.ok (), s)
    | _, some f => some (.error f.exc, s)
  env e _ := nomatch e

/-- `async with conn.execute(…) as cursor: await cursor.fetch…()`. -/
def reader (q : Read) : Coroutine Ask Ask.Resp Exc Unit := do
  let _ ← Coroutine.call (Ask.query q)
  (Coroutine.call Ask.fetch).tryFinally (Coroutine.call Ask.close)

/-- A call of the API. -/
inductive Call
  | write (w : Writer)
  | read (q : Read)

/-- The program of a call. -/
def Call.program (rt : Runtime) : Call → Coroutine Ask Ask.Resp Exc Unit
  | .write w => (w.program rt).embed .write fun _ a => a
  | .read q => reader q

/-- Every read so far has returned rows of a state that had been committed. -/
def ReadsCommitted (c : Config Ask Ask.Resp Exc Unit History) : Prop :=
  ∀ t ∈ c.tasks, ∀ (q : Read) (rows : List q.Row), ⟨.query q, .ok rows⟩ ∈ t.past →
    ∃ tables ∈ c.shared.states, rows = q.rows tables

/-- No `SELECT` of a reader runs while a transaction with changes is open. -/
def NothingUncommitted : Guard Ask Ask.Resp Exc (Option Fault) History :=
  fun _ r _ _ s => (∃ q, r = .query q) → s.connection.view = s.connection.committed

/-! ### Every state -/

theorem states_of_exec {i : ℕ} {r : Ask} {x : Option Fault} {s s' : History}
    {a : Except Exc r.Resp} (h : queue.exec i r x s = some (a, s'))
    (hs : s.connection.committed ∈ s.states) :
    s'.connection.committed ∈ s'.states ∧ ∀ t ∈ s.states, t ∈ s'.states := by
  cases r with
  | write r =>
    obtain ⟨⟨a', connection⟩, -, heq⟩ := Option.map_eq_some_iff.1 h
    cases heq
    exact ⟨List.mem_append_right _ List.mem_cons_self, fun t ht => List.mem_append_left _ ht⟩
  | _ =>
    cases x <;>
      · cases h
        exact ⟨hs, fun t ht => ht⟩

/-- What a read returns is what the connection sees. -/
theorem rows_of_exec {i : ℕ} {q : Read} {x : Option Fault} {s s' : History} {rows : List q.Row}
    (h : queue.exec i (.query q) x s = some (.ok rows, s')) : rows = q.rows s.connection.view := by
  cases x with
  | none =>
    cases h
    rfl
  | some f => cases h

/-- **SQLite reads observe only committed states as long as none runs inside a transaction with
changes.** -/
theorem reads_committed (rt : Runtime) (calls : List Call) (t₀ : Tables)
    (es : List (Event (Option Fault) Empty))
    (hG : Guarded queue NothingUncommitted
      (.start ⟨{ committed := t₀ }, [t₀]⟩ (calls.map (Call.program rt))) es) :
    Always queue ReadsCommitted
      (.start ⟨{ committed := t₀ }, [t₀]⟩ (calls.map (Call.program rt))) es := by
  have hstep : ∀ (c : Config Ask Ask.Resp Exc Unit History) e c',
      c.shared.connection.committed ∈ c.shared.states ∧ ReadsCommitted c →
      Permits NothingUncommitted c e → step queue c e = some c' →
      c'.shared.connection.committed ∈ c'.shared.states ∧ ReadsCommitted c' := by
    rintro c e c' ⟨hstates, hreads⟩ hperm hstep
    cases e with
    | env e => cases e
    | task i x =>
      obtain ⟨r, k, past, a, s, hi, hx, rfl⟩ := step_task hstep
      obtain ⟨hnow, hkept⟩ := states_of_exec hx hstates
      refine ⟨hnow, fun t ht q rows hrows => ?_⟩
      rcases List.mem_or_eq_of_mem_set ht with ht | rfl
      · exact (hreads t ht q rows hrows).imp fun tables h => ⟨hkept _ h.1, h.2⟩
      · rcases List.mem_append.1 hrows with hrows | hrows
        · exact (hreads _ (List.mem_of_getElem? hi) q rows hrows).imp
            fun tables h => ⟨hkept _ h.1, h.2⟩
        · -- the read just made
          cases List.mem_singleton.1 hrows
          have hview := (permits_task hi).1 hperm ⟨q, rfl⟩
          exact ⟨_, hkept _ hstates, by rw [rows_of_exec hx, hview]⟩
  refine (always_of_guarded hstep ⟨?_, ?_⟩ hG).imp fun _ h => h.2
  · exact List.mem_singleton_self _
  · intro t ht q rows hrows
    obtain ⟨p, -, rfl⟩ := List.mem_map.1 ht
    cases hrows

/-! ### Schedules -/

/-- A deletion, and a listing of the connections. -/
def deletionAndListing : List Call :=
  [.write (.deleteConnection "c1"), .read (.allConnections none)]

/-- Listings around a deletion, and around a workspace that is not added after all. -/
def listingsAndWriters : List Call :=
  [.read (.allConnections none), .write (.deleteConnection "c1"), .read (.allConnections none),
    .write (.createWorkspace { id := "ws-1", name := "One", ownerId := "alice",
                               createdAt := "1", updatedAt := "1" }),
    .read .allWorkspaces]

/-- The first listing closes its cursor while the `DELETE` waits for its `COMMIT`, the second one
runs behind the `COMMIT`; the third one runs behind the rollback of an `INSERT` whose `COMMIT`
fails. -/
def listingsAroundWriters : List (Event (Option Fault) Empty) :=
  [.task 0 none, .task 1 none, .task 1 none, .task 0 none, .task 0 none, .task 1 none,
    .task 2 none, .task 1 none, .task 3 none, .task 3 none,
    .task 3 (some ⟨.databaseError "disk I/O error", .nothing⟩), .task 3 none, .task 4 none]

/-- Each listing returns the rows of a committed state: before the deletion, after it, and without
the workspace that was rolled back. -/
theorem reads_committed_listingsAroundWriters :
    Always queue ReadsCommitted
      (.start ⟨{ committed := oneConnection }, [oneConnection]⟩
        (listingsAndWriters.map (Call.program plainRuntime))) listingsAroundWriters ∧
    ∃ c, run queue (.start ⟨{ committed := oneConnection }, [oneConnection]⟩
        (listingsAndWriters.map (Call.program plainRuntime))) listingsAroundWriters = some c ∧
      (∃ t ∈ c.tasks[0]?,
        ⟨.query (.allConnections none), .ok oneConnection.connections.rows⟩ ∈ t.past) ∧
      (∃ t ∈ c.tasks[2]?, ⟨.query (.allConnections none), .ok []⟩ ∈ t.past) ∧
      ∃ t ∈ c.tasks[4]?, ⟨.query .allWorkspaces, .ok oneConnection.workspaces.rows⟩ ∈ t.past := by
  refine ⟨reads_committed plainRuntime listingsAndWriters oneConnection _ ?_,
    _, rfl, ⟨_, rfl, List.mem_cons_self⟩, ⟨_, rfl, List.mem_cons_self⟩,
    ⟨_, rfl, List.mem_cons_self⟩⟩
  -- a statement that is no `SELECT` is free, and each `SELECT` finds nothing uncommitted
  iterate 13 (rintro _ ⟨⟩; refine ⟨by rintro ⟨q, ⟨⟩⟩ <;> rfl, ?_⟩)
  trivial

/-- The listing runs between the `DELETE` and its `COMMIT`; the `COMMIT` fails and the `DELETE` is
rolled back. The connection that was never deleted is missing from the list. -/
theorem read_between_change_and_rollback :
    ¬ Always queue ReadsCommitted
      (.start ⟨{ committed := oneConnection }, [oneConnection]⟩
        (deletionAndListing.map (Call.program plainRuntime)))
      [.task 0 none, .task 0 none, .task 1 none,
        .task 0 (some ⟨.databaseError "disk I/O error", .nothing⟩), .task 0 none,
        .task 0 none] := by
  intro h
  have hend := h.run rfl
  obtain ⟨tables, htables, hrows⟩ := hend _ (List.mem_cons_of_mem _ List.mem_cons_self)
    (.allConnections none) [] List.mem_cons_self
  have hall : ∀ t ∈ List.replicate 6 oneConnection, (Read.allConnections none).rows t ≠ [] := by
    intro t ht
    rw [List.eq_of_mem_replicate ht]
    decide
  exact hall tables htables hrows.symm

end ClusterManager.Db.Sqlite
