import ClusterManager.Clients.Manager
import ClusterManager.Lib.Hands
import ClusterManager.Services.Orphans

/-!
# No stale client

`update_connection` and `delete_connection` write the profile and then evict the client that the
slot has cached. A client is dated by the number of profile writes before its profile was read, and
`floor` dates the last eviction of a slot: nothing in the slot is older (`Fresh`).
`no_stale_client` is the result, for every interleaving of the calls of one session.
-/

namespace ClusterManager.Clients

open Db Interleaving

/-! ### The services that evict -/

/-- A service function, among the other statements. -/
def inService {α : Type} (p : DbProgram α) : PoolProgram α := p.embed PoolOp.db fun _ a => a

/-- The update touches `_CLIENT_AFFECTING_FIELDS`. -/
def affectsClient (data : UpdateData) : Bool :=
  data.hosts.isSome || data.port.isSome || data.username.isSome || data.password.isSome

/-- `update_connection`, with the eviction. -/
def updateConnection (settings : Settings) (session : Option String) (connId : String)
    (data : UpdateData) (callerOwnerId : Option String) (now : String) (nonce : ℕ) :
    PoolProgram ConnectionProfile := do
  let conn ← inService
    (Services.updateConnection settings.assertTargetsAllowed connId data callerOwnerId now nonce)
  if affectsClient data then
    closeClient (session, connId)
    return conn
  else return conn

/-- `delete_connection`, with the eviction. -/
def deleteConnection (session : Option String) (connId : String) (callerOwnerId : Option String) :
    PoolProgram Unit := do
  inService (Services.deleteConnection connId callerOwnerId)
  closeClient (session, connId)

/-- A call in one session. -/
inductive SlotCall
  | getClient (connId : String)
  | closeClient (connId : String)
  | updateConnection (connId : String) (data : UpdateData) (callerOwnerId : Option String)
      (now : String) (nonce : ℕ)
  | deleteConnection (connId : String) (callerOwnerId : Option String)

/-- The program of a call, and the client it returns if it is a `get_client`. -/
def SlotCall.program (settings : Settings) (session : Option String) :
    SlotCall → PoolProgram (Option ℕ)
  | .getClient connId => do return some (← Clients.getClient settings (session, connId))
  | .closeClient connId => do
      Clients.closeClient (session, connId)
      return none
  | .updateConnection connId data callerOwnerId now nonce => do
      let _ ← Clients.updateConnection settings session connId data callerOwnerId now nonce
      return none
  | .deleteConnection connId callerOwnerId => do
      Clients.deleteConnection session connId callerOwnerId
      return none

/-- The call deletes the profile. -/
def SlotCall.deletes (connId : String) : SlotCall → Bool
  | .deleteConnection connId' _ => connId' = connId
  | _ => false

/-- The call changes where or as whom the client of the profile connects, or deletes the profile. -/
def SlotCall.changes (connId : String) : SlotCall → Bool
  | .updateConnection connId' data _ _ _ => connId' = connId && affectsClient data
  | .deleteConnection connId' _ => connId' = connId
  | _ => false

/-- The calls of a session over time: only they write profiles. -/
def slotWorld (rt : Runtime) : World PoolOp PoolOp.Resp Exc Outcome Empty Pool where
  exec := Pool.exec rt
  env e _ := e.elim

/-- The calls before their first step, over a pool without clients. -/
def slotStart (settings : Settings) (session : Option String) (tables : Tables)
    (calls : List SlotCall) : Config PoolOp PoolOp.Resp Exc (Option ℕ) Pool :=
  .start { tables } (calls.map (SlotCall.program settings session))

/-- The slot a client was built for, and the number of profile writes before its profile was
read. -/
def Pool.origin (s : Pool) (client : ℕ) : Option (CacheKey × ℕ) :=
  s.objects[client]?.map fun o => (o.key, o.readAt)

/-! ### What a call has seen -/

/-- Where a call stands with its lock, the profile it has read and the client it has built since it
entered, the slot it evicted and the profile it deleted, and, since it began, the clients it was
given for a slot, the profiles it found, and whether a statement raised. -/
structure Sight where
  grip : Grip CacheKey := .free
  read : Option String := none
  built : Option (CacheKey × ℕ) := none
  evicted : Option CacheKey := none
  deleted : Option String := none
  seen : List (CacheKey × ℕ) := []
  found : List String := []
  raised : Bool := false

namespace Sight

/-- The connection whose profile a call into the `db` module gave. -/
def profileRead : (r : DbOp) → Except Exc r.Resp → Option String
  | .getConnection connId, .ok (some _) => some connId
  | _, _ => none

/-- The connection whose profile a call into the `db` module deleted. -/
def profileDeleted : (r : DbOp) → Except Exc r.Resp → Option String
  | .deleteConnection connId, .ok _ => some connId
  | _, _ => none

/-- What the answer of the `db` module changes. -/
def updDb (g : Sight) (r : DbOp) (a : Except Exc r.Resp) : Sight :=
  { g with
    read := match g.grip with
      | .inside _ _ => profileRead r a
      | _ => none
    evicted := if Pool.wrote r a then none else g.evicted
    deleted := (profileDeleted r a).or g.deleted
    found := (profileRead r a).toList ++ g.found }

/-- What an answer changes, apart from `raised`. -/
def updSeen (g : Sight) : Answer PoolOp PoolOp.Resp Exc → Sight
  | ⟨.lockOf key, .ok lock⟩ => { g with grip := .waiting key lock }
  | ⟨.acquire _, .ok _⟩ => { g with grip := g.grip.enter }
  | ⟨.acquire _, .error _⟩ => { g with grip := .free }
  | ⟨.release _, _⟩ => { g with grip := .free, read := none, built := none }
  | ⟨.cached key, .ok client⟩ => { g with seen := client.toList.map (fun c => (key, c)) ++ g.seen }
  | ⟨.db r, a⟩ => g.updDb r a
  | ⟨.construct key _, .ok client⟩ =>
      { g with built := some (key, client), seen := (key, client) :: g.seen }
  | ⟨.popClient key, .ok _⟩ => { g with evicted := some key, read := none, built := none }
  | _ => g

/-- What an answer changes. -/
def upd (g : Sight) (a : Answer PoolOp PoolOp.Resp Exc) : Sight :=
  { g.updSeen a with
    raised := match a.2 with
      | .ok _ => g.raised
      | .error _ => true }

/-- What a call has seen at each statement. No call creates a profile or evicts in bulk. -/
def Needs : PoolOp → Sight → Prop
  | .lockOf _, g => g.grip = .free
  | .acquire lock, g => ∃ key, g.grip = .waiting key lock
  | .release lock, g => ∃ key, g.grip = .inside key lock
  | .cached key, g => ∃ lock, g.grip = .inside key lock
  | .db (.createConnection _ _), _ => False
  | .construct key _, g => (∃ lock, g.grip = .inside key lock) ∧ g.read = some key.2
  | .publish key client, g => (∃ lock, g.grip = .inside key lock) ∧ g.built = some (key, client)
  | .popClient key, g => ∃ lock, g.grip = .inside key lock
  | .popSession _, _ => False
  | .popAll, _ => False
  | _, _ => True

/-- Only an await and the constructor raise. -/
def Possible : (r : PoolOp) → Except Exc r.Resp → Sight → Prop
  | .acquireGlobal, _, _ => True
  | .acquire _, _, _ => True
  | .db _, _, _ => True
  | .construct _ _, _, _ => True
  | .connect _, _, _ => True
  | .close _ _, _, _ => True
  | .invalidateInfo _, _, _ => True
  | .clearInfo, _, _ => True
  | _, .error _, _ => False
  | _, .ok _, _ => True

/-- A call in flight, judged by what it has seen. -/
abbrev Safe {α : Type} (p : PoolProgram α) (g : Sight) (Q : α → Sight → Prop)
    (E : Exc → Sight → Prop) : Prop :=
  p.Safe (Changes Possible upd) Needs g Q E

end Sight

section Programs

variable {g : Sight} {key : CacheKey} {client lock : ℕ} {reason : CloseReason} {connId : String}
  {E : Exc → Sight → Prop}

theorem Sight.safe_loggedClose {Q : Unit → Sight → Prop} (hQ : ∀ raised, Q () { g with raised })
    (hE : ∀ e, E e { g with raised := true }) :
    Sight.Safe (loggedClose client reason) g Q E := by
  refine Coroutine.safe_tryCatch.2 (safe_request trivial (fun _ _ => hQ _) fun e _ => ?_)
  split
  · exact hQ _
  · exact hE e

theorem Sight.safe_getConnLock {Q : ℕ → Sight → Prop} (hg : g.grip = .free)
    (hQ : ∀ lock, Q lock { g with grip := .waiting key lock })
    (hE : ∀ e g', g'.raised = true → E e g') : Sight.Safe (getConnLock key) g Q E := by
  refine Coroutine.safe_bind.2 (safe_request trivial (fun _ _ => ?_) fun e _ => hE e _ rfl)
  refine Coroutine.safe_tryFinally.2 (safe_request hg (fun lock _ => ?_) fun e h => h.elim)
  exact safe_request trivial (fun _ _ => hQ lock) fun e h => h.elim

theorem Sight.safe_acquire {Q : Unit → Sight → Prop} (hg : g.grip = .waiting key lock)
    (hQ : Q () { g with grip := .inside key lock }) (hE : ∀ e g', g'.raised = true → E e g') :
    Sight.Safe (op (.acquire lock)) g Q E := by
  refine safe_request ⟨key, hg⟩ (fun _ _ => ?_) fun _ _ => hE _ _ rfl
  rw [Sight.upd, Sight.updSeen, hg]
  exact hQ

theorem Sight.safe_release {Q : Unit → Sight → Prop} (hg : g.grip = .inside key lock)
    (hQ : Q () { g with grip := .free, read := none, built := none }) :
    Sight.Safe (op (.release lock)) g Q E :=
  safe_request ⟨key, hg⟩ (fun _ _ => hQ) fun _ h => h.elim

/-- A client that is built was constructed from the profile of the slot, read inside. -/
theorem Sight.safe_buildClient {settings : Settings} {Q : ℕ → Sight → Prop}
    (hg : g.grip = .inside key lock)
    (hQ : ∀ client g', g'.grip = g.grip → g'.built = some (key, client) →
      (key, client) ∈ g'.seen → Q client g')
    (hE : ∀ e g', g'.grip = g.grip →
      g'.raised = true ∨ key.2 ∈ g'.found ∨ e = profileNotFound key.2 → E e g') :
    Sight.Safe (buildClient settings key) g Q E := by
  refine Coroutine.safe_bind.2 (safe_request trivial (fun profile _ => ?_) fun e _ =>
    hE e _ rfl (Or.inl rfl))
  cases profile with
  | none => exact hE _ _ rfl (Or.inr (Or.inr rfl))
  | some profile =>
    have hread : (g.upd ⟨.db (.getConnection key.2), .ok (some profile)⟩).read = some key.2 := by
      simp [Sight.upd, Sight.updSeen, Sight.updDb, hg, Sight.profileRead]
    have hfound : key.2 ∈ (g.upd ⟨.db (.getConnection key.2), .ok (some profile)⟩).found :=
      List.mem_cons_self
    refine Coroutine.safe_bind.2 (Coroutine.safe_lift.2 ⟨fun _ _ => ?_, fun e _ =>
      hE e _ rfl (Or.inr (Or.inl hfound))⟩)
    refine Coroutine.safe_bind.2 (safe_request ⟨⟨lock, hg⟩, hread⟩ (fun client _ => ?_)
      fun e _ => hE e _ rfl (Or.inl rfl))
    refine Coroutine.safe_bind.2 (Coroutine.safe_tryCatch.2 (safe_request trivial (fun _ _ => ?_)
      fun e _ => ?_))
    · exact hQ client _ rfl rfl List.mem_cons_self
    · exact Coroutine.safe_bind.2 (Sight.safe_loggedClose
        (fun raised => hE e _ rfl (Or.inr (Or.inl hfound))) fun e => hE e _ rfl (Or.inl rfl))

theorem Sight.safe_closeStale {Q : Unit → Sight → Prop} (hg : g.grip = .inside key lock)
    (hQ : ∀ g', g'.grip = g.grip → g'.built = g.built → g.seen ⊆ g'.seen → Q () g')
    (hE : ∀ e g', g'.grip = g.grip → g'.raised = true → E e g') :
    Sight.Safe (closeStale key) g Q E := by
  refine Coroutine.safe_bind.2 (safe_request ⟨lock, hg⟩ (fun old _ => ?_) fun _ h => h.elim)
  cases old with
  | none => exact hQ _ rfl rfl (List.subset_append_right _ _)
  | some old =>
    refine Coroutine.safe_bind.2 (Sight.safe_loggedClose (fun raised => ?_) fun e => hE e _ rfl rfl)
    exact safe_request trivial (fun _ _ => hQ _ rfl rfl (List.subset_append_right _ _))
      fun _ h => h.elim

/-- How a `get_client` ends: it returns a client it was given, or it raises the error of a missing
profile unless it found the profile or a statement raised. -/
theorem Sight.safe_getClient {settings : Settings} :
    Sight.Safe (getClient settings key) {} (fun client g => (key, client) ∈ g.seen)
      (fun e g => g.raised = true ∨ key.2 ∈ g.found ∨ e = profileNotFound key.2) := by
  refine Coroutine.safe_bind.2 (Sight.safe_getConnLock rfl (fun lock => ?_)
    fun e g' h => Or.inl h)
  refine Coroutine.safe_bind.2 (Sight.safe_acquire rfl ?_ fun e g' h => Or.inl h)
  refine Coroutine.safe_tryFinally.2 ?_
  have hbuild : ∀ g : Sight, g.grip = .inside key lock → Sight.Safe (do
      let client ← buildClient settings key
      closeStale key
      op (.publish key client)
      op (.addGauge 1 (metricAttrs key))
      return client) g
      (fun client g => Sight.Safe (op (.release lock)) g (fun _ g => (key, client) ∈ g.seen)
        fun e g => g.raised = true ∨ key.2 ∈ g.found ∨ e = profileNotFound key.2)
      (fun e g => Sight.Safe (op (.release lock)) g
        (fun _ g => g.raised = true ∨ key.2 ∈ g.found ∨ e = profileNotFound key.2)
        fun e g => g.raised = true ∨ key.2 ∈ g.found ∨ e = profileNotFound key.2) := by
    intro g hg
    refine Coroutine.safe_bind.2 (Sight.safe_buildClient hg (fun client g₁ hg₁ hbuilt hseen => ?_)
      fun e g' hg' h => Sight.safe_release (hg'.trans hg) h)
    refine Coroutine.safe_bind.2 (Sight.safe_closeStale (hg₁.trans hg)
      (fun g₂ hg₂ hbuilt₂ hseen₂ => ?_)
      fun e g' hg' h => Sight.safe_release ((hg'.trans hg₁).trans hg) (Or.inl h))
    have hinside : g₂.grip = .inside key lock := (hg₂.trans hg₁).trans hg
    refine Coroutine.safe_bind.2 (safe_request ⟨⟨lock, hinside⟩, hbuilt₂.trans hbuilt⟩
      (fun _ _ => ?_) fun _ h => h.elim)
    refine Coroutine.safe_bind.2 (safe_request trivial (fun _ _ => ?_) fun _ h => h.elim)
    exact Sight.safe_release (Q := fun _ g => (key, client) ∈ g.seen) hinside (hseen₂ hseen)
  refine Coroutine.safe_bind.2 (safe_request ⟨lock, rfl⟩ (fun client _ => ?_) fun _ h => h.elim)
  cases client with
  | none => exact hbuild _ rfl
  | some client =>
    refine Coroutine.safe_bind.2 (safe_request trivial (fun connected _ => ?_) fun _ h => h.elim)
    cases connected with
    | true =>
      exact Sight.safe_release (Q := fun _ g => (key, client) ∈ g.seen) rfl List.mem_cons_self
    | false => exact hbuild _ rfl

/-- A `close_client` that returns has evicted the slot. -/
theorem Sight.safe_closeClient {Q : Unit → Sight → Prop} (hg : g.grip = .free)
    (hQ : ∀ g', g'.evicted = some key → g'.deleted = g.deleted → Q () g') :
    Sight.Safe (closeClient key) g Q fun _ _ => True := by
  refine Coroutine.safe_bind.2 (Sight.safe_getConnLock hg (fun lock => ?_) fun _ _ _ => trivial)
  refine Coroutine.safe_bind.2 (Sight.safe_acquire rfl ?_ fun _ _ _ => trivial)
  refine Coroutine.safe_tryFinally.2 ?_
  have hraise : ∀ g : Sight, g.grip = .inside key lock →
      Sight.Safe (op (.release lock)) g (fun _ _ => True) fun _ _ => True :=
    fun g hg => Sight.safe_release hg trivial
  refine Coroutine.safe_bind.2 (safe_request ⟨lock, rfl⟩ (fun client _ => ?_) fun _ h => h.elim)
  refine Coroutine.safe_bind.2 (safe_request trivial (fun _ _ => ?_) fun _ _ => hraise _ rfl)
  cases client with
  | none => exact Sight.safe_release rfl (hQ _ rfl rfl)
  | some client =>
    refine Coroutine.safe_bind.2 (Sight.safe_loggedClose (fun raised => ?_) fun _ => hraise _ rfl)
    refine safe_request trivial (fun _ _ => ?_) fun _ h => h.elim
    exact Sight.safe_release rfl (hQ _ rfl rfl)

/-- A service function, judged by what its answers change. -/
abbrev Sight.SafeDb {α : Type} (p : DbProgram α) (g : Sight) (Q : α → Sight → Prop) : Prop :=
  p.Safe (fun r x g g' => g' = g.upd ⟨.db r, x⟩) (fun r g => Sight.Needs (.db r) g) g Q
    fun _ _ => True

theorem Sight.safe_inService {α : Type} {p : DbProgram α} {Q : α → Sight → Prop}
    (hp : Sight.SafeDb p g Q) : Sight.Safe (inService p) g Q fun _ _ => True := by
  refine Coroutine.safe_embed.2 (hp.mono_next fun r x g g' h => ?_)
  obtain ⟨y, rfl, -, rfl⟩ := h
  cases y <;> rfl

/-- A call into the `db` module that creates no profile. -/
theorem Sight.safe_db {r : DbOp} {Q : r.Resp → Sight → Prop} (hr : Sight.Needs (.db r) g)
    (hQ : ∀ a, Q a (g.upd ⟨.db r, .ok a⟩)) : Sight.SafeDb (db r) g Q :=
  Coroutine.safe_call.2 ⟨hr, fun a _ h => h ▸ hQ a, fun _ _ _ => trivial⟩

theorem Sight.safe_assertWorkspaceVisible {workspaceId : String} {callerOwnerId : Option String} :
    Sight.SafeDb (Services.assertWorkspaceVisible workspaceId callerOwnerId) g
      fun _ g' => g'.grip = g.grip := by
  refine Coroutine.safe_bind.2 (Sight.safe_db trivial fun ws => ?_)
  cases ws with
  | none => trivial
  | some ws =>
    cases callerOwnerId with
    | none => rfl
    | some caller =>
      dsimp only
      split
      · trivial
      · rfl

theorem Sight.safe_updateConnection {settings : Settings} {session : Option String}
    {data : UpdateData} {callerOwnerId : Option String} {now : String} {nonce : ℕ} :
    Sight.Safe (updateConnection settings session connId data callerOwnerId now nonce) {}
      (fun _ g => affectsClient data = true → g.evicted = some (session, connId))
      fun _ _ => True := by
  have hservice : Sight.SafeDb (Services.updateConnection settings.assertTargetsAllowed connId data
      callerOwnerId now nonce) {} fun _ g => g.grip = .free := by
    refine Coroutine.safe_bind.2 (Coroutine.safe_lift.2 ⟨fun _ _ => ?_, fun _ _ => trivial⟩)
    have hws : Sight.SafeDb (Services.assertUpdateWorkspace data callerOwnerId) {}
        fun _ g => g.grip = .free := by
      unfold Services.assertUpdateWorkspace
      split
      · exact Sight.safe_assertWorkspaceVisible
      · rfl
    refine Coroutine.safe_bind.2 (hws.mono (fun _ g hg => ?_) fun _ _ h => h)
    refine Coroutine.safe_bind.2 (Sight.safe_db trivial fun conn => ?_)
    cases conn with
    | none => trivial
    | some conn => exact hg
  refine Coroutine.safe_bind.2 ((Sight.safe_inService hservice).mono (fun conn g hg => ?_)
    fun _ _ h => h)
  split
  · exact Coroutine.safe_bind.2 (Sight.safe_closeClient hg fun g' hevicted _ _ => hevicted)
  next hdata => exact fun h => absurd h hdata

theorem Sight.safe_deleteConnection {session : Option String} {callerOwnerId : Option String} :
    Sight.Safe (deleteConnection session connId callerOwnerId) {}
      (fun _ g => g.evicted = some (session, connId) ∧ g.deleted = some connId)
      fun _ _ => True := by
  have hassert : Sight.SafeDb (Services.assertDeletable connId callerOwnerId) {}
      fun _ g => g.grip = .free := by
    cases callerOwnerId with
    | none => rfl
    | some caller =>
      refine Coroutine.safe_bind.2 (Sight.safe_db trivial fun existing => ?_)
      cases existing with
      | none => rfl
      | some existing =>
        refine Coroutine.safe_bind.2 (Coroutine.safe_tryCatch.2 (Coroutine.safe_call.2
          ⟨trivial, fun workspace g h => ?_, fun e g h => ?_⟩))
        · subst h
          cases workspace with
          | none => rfl
          | some workspace =>
            dsimp only
            split
            · trivial
            · rfl
        · subst h
          split
          · rfl
          · trivial
  have hservice : Sight.SafeDb (Services.deleteConnection connId callerOwnerId) {}
      fun _ g => g.grip = .free ∧ g.deleted = some connId :=
    Coroutine.safe_bind.2 (hassert.mono (fun _ g hg =>
      Coroutine.safe_bind.2 (Sight.safe_db trivial fun _ => ⟨hg, rfl⟩)) fun _ _ h => h)
  refine Coroutine.safe_bind.2 ((Sight.safe_inService hservice).mono (fun _ g hg => ?_)
    fun _ _ h => h)
  exact Sight.safe_closeClient hg.1 fun g' hevicted hdeleted => ⟨hevicted, hdeleted.trans hg.2⟩

/-- How a call ends. -/
def SlotCall.Ends (session : Option String) : SlotCall → Option ℕ → Sight → Prop
  | .getClient connId, client, g => ∃ c, client = some c ∧ ((session, connId), c) ∈ g.seen
  | .closeClient _, _, _ => True
  | .updateConnection connId data _ _ _, _, g =>
      affectsClient data = true → g.evicted = some (session, connId)
  | .deleteConnection connId _, _, g =>
      g.evicted = some (session, connId) ∧ g.deleted = some connId

/-- How a call raises. -/
def SlotCall.Raises : SlotCall → Exc → Sight → Prop
  | .getClient connId, e, g => g.raised = true ∨ connId ∈ g.found ∨ e = profileNotFound connId
  | _, _, _ => True

theorem Sight.safe_program {settings : Settings} {session : Option String} (call : SlotCall) :
    Sight.Safe (call.program settings session) {} (call.Ends session) call.Raises := by
  cases call with
  | getClient connId =>
    exact Coroutine.safe_bind.2 (Sight.safe_getClient.mono (fun client _ h => ⟨client, rfl, h⟩)
      fun _ _ h => h)
  | closeClient connId =>
    exact Coroutine.safe_bind.2 (Sight.safe_closeClient rfl fun _ _ _ => trivial)
  | updateConnection connId data callerOwnerId now nonce =>
    exact Coroutine.safe_bind.2 Sight.safe_updateConnection
  | deleteConnection connId callerOwnerId =>
    exact Coroutine.safe_bind.2 Sight.safe_deleteConnection

end Programs

/-! ### Nothing older than the last eviction -/

/-- What a call has read since it entered and what it has built is no older than the last eviction
of the slot, and its eviction no older than its write. -/
structure Dated (s : Pool) (i : ℕ) (g : Sight) : Prop where
  read : ∀ connId, g.read = some connId →
    ∃ key lock, g.grip = .inside key lock ∧ s.floor key ≤ s.readAt i
  built : ∀ key client, g.built = some (key, client) →
    (∃ lock, g.grip = .inside key lock) ∧ ∃ n, s.origin client = some (key, n) ∧ s.floor key ≤ n
  evicted : ∀ key, g.evicted = some key → s.wroteAt i ≤ s.floor key

/-- So is what is cached in a slot, and no date lies ahead. -/
structure Fresh (s : Pool) (h : ℕ → Sight) : Prop where
  locks : s.locks.Agrees (Sight.grip ∘ h)
  floor_le : ∀ key, s.floor key ≤ s.writes
  readAt_le : ∀ i, s.readAt i ≤ s.writes
  wroteAt_le : ∀ i, s.wroteAt i ≤ s.writes
  origin_le : ∀ client key n, s.origin client = some (key, n) → n ≤ s.writes
  cached : ∀ key client, s.clients.get? key = some client →
    ∃ n, s.origin client = some (key, n) ∧ s.floor key ≤ n
  calls : ∀ i, Dated s i (h i)

/-- The profile is gone, and every client built from it and every reading of it is older than the
`v`-th write. -/
structure GoneSince (connId : String) (v : ℕ) (s : Pool) (h : ℕ → Sight) : Prop where
  absent : s.tables.connections.find? connId = none
  origin : ∀ client key n, s.origin client = some (key, n) → key.2 = connId → n < v
  read : ∀ i, (h i).read = some connId → s.readAt i < v

/-- Every profile that a call has deleted is gone since. -/
def Gone (s : Pool) (h : ℕ → Sight) : Prop :=
  ∀ i connId, (h i).deleted = some connId → GoneSince connId (s.wroteAt i) s h

/-- Two states of the pool differ only in what freshness does not look at. -/
structure Pool.Alike (s s' : Pool) : Prop where
  floor : s'.floor = s.floor
  writes : s'.writes = s.writes
  readAt : s'.readAt = s.readAt
  wroteAt : s'.wroteAt = s.wroteAt
  origin : s'.origin = s.origin
  clients : s'.clients = s.clients
  tables : s'.tables = s.tables

/-- The call keeps what it has read and built, or drops it. -/
structure Sight.Keeps (g g' : Sight) : Prop where
  evicted : g'.evicted = g.evicted
  deleted : g'.deleted = g.deleted
  read : g'.read = none ∨ (g'.grip = g.grip ∧ g'.read = g.read)
  built : g'.built = none ∨ (g'.grip = g.grip ∧ g'.built = g.built)

section Exec

variable {s s' : Pool} {h : ℕ → Sight} {g : Sight} {i client lock v : ℕ} {key : CacheKey}
  {connId : String}

theorem Pool.alike_closed : s.Alike (s.closed client) where
  floor := rfl
  writes := rfl
  readAt := rfl
  wroteAt := rfl
  origin := by
    funext c
    simp only [Pool.origin, Pool.closed, List.getElem?_modify]
    cases s.objects[c]? with
    | none => rfl
    | some o => by_cases hc : client = c <;> simp [hc, Client.closedOnce]
  clients := rfl
  tables := rfl

/-- What holds of every call after one of them has changed what it has seen. -/
theorem forall_update {P : ℕ → Sight → Prop} (hi : P i g) (hother : ∀ j, j ≠ i → P j (h j))
    (j : ℕ) : P j (Function.update h i g j) := by
  by_cases hj : j = i
  · subst hj
    rwa [Function.update_self]
  · rw [Function.update_of_ne hj]
    exact hother j hj

/-- A call that is not inside has read and built nothing. -/
theorem Dated.outside (hdated : Dated s i g) (hgrip : ∀ key lock, g.grip ≠ .inside key lock) :
    g.read = none ∧ g.built = none := by
  constructor
  · cases hread : g.read with
    | none => rfl
    | some connId =>
      obtain ⟨key, lock, hinside, -⟩ := hdated.read connId hread
      exact absurd hinside (hgrip key lock)
  · cases hbuilt : g.built with
    | none => rfl
    | some entry =>
      obtain ⟨⟨lock, hinside⟩, -⟩ := hdated.built entry.1 entry.2 hbuilt
      exact absurd hinside (hgrip _ lock)

theorem Dated.keeps {g' : Sight} (hdated : Dated s i g) (hkeeps : g.Keeps g') : Dated s i g' := by
  refine ⟨fun connId hread => ?_, fun key client hbuilt => ?_, hkeeps.evicted ▸ hdated.evicted⟩
  · rcases hkeeps.read with hnone | ⟨hgrip, hsame⟩
    · rw [hnone] at hread
      cases hread
    · rw [hgrip]
      exact hdated.read connId (hsame ▸ hread)
  · rcases hkeeps.built with hnone | ⟨hgrip, hsame⟩
    · rw [hnone] at hbuilt
      cases hbuilt
    · rw [hgrip]
      exact hdated.built key client (hsame ▸ hbuilt)

theorem Dated.alike (hdated : Dated s i g) (halike : s.Alike s') : Dated s' i g := by
  obtain ⟨hread, hbuilt, hevicted⟩ := hdated
  refine ⟨?_, ?_, ?_⟩
  · rwa [halike.floor, halike.readAt]
  · rwa [halike.floor, halike.origin]
  · rwa [halike.floor, halike.wroteAt]

/-- A call that stands where it stood with its lock. -/
theorem Fresh.locks_same (hfresh : Fresh s h) (hgrip : g.grip = (h i).grip) :
    s.locks.Agrees (Sight.grip ∘ Function.update h i g) := by
  rw [Function.comp_update, hgrip]
  exact (Function.update_eq_self i (Sight.grip ∘ h)).symm ▸ hfresh.locks

/-- A step that changes where a call stands with its lock, and nothing that is dated. -/
theorem Fresh.same (hfresh : Fresh s h) (halike : s.Alike s')
    (hlocks : s'.locks.Agrees (Sight.grip ∘ Function.update h i g)) (hkeeps : (h i).Keeps g) :
    Fresh s' (Function.update h i g) where
  locks := hlocks
  floor_le := by
    rw [halike.floor, halike.writes]
    exact hfresh.floor_le
  readAt_le := by
    rw [halike.readAt, halike.writes]
    exact hfresh.readAt_le
  wroteAt_le := by
    rw [halike.wroteAt, halike.writes]
    exact hfresh.wroteAt_le
  origin_le := by
    rw [halike.origin, halike.writes]
    exact hfresh.origin_le
  cached := by
    rw [halike.floor, halike.origin, halike.clients]
    exact hfresh.cached
  calls := forall_update (P := Dated s') (((hfresh.calls i).keeps hkeeps).alike halike)
    fun j _ => (hfresh.calls j).alike halike

theorem GoneSince.same (hgone : GoneSince connId v s h) (halike : s.Alike s')
    (hkeeps : (h i).Keeps g) : GoneSince connId v s' (Function.update h i g) where
  absent := halike.tables ▸ hgone.absent
  origin := halike.origin ▸ hgone.origin
  read := by
    rw [halike.readAt]
    refine forall_update (P := fun j g => g.read = some connId → s.readAt j < v) (fun hread => ?_)
      fun j _ => hgone.read j
    rcases hkeeps.read with hnone | ⟨-, hsame⟩
    · rw [hnone] at hread
      cases hread
    · exact hgone.read i (hsame ▸ hread)

/-- A call publishes the client it has built. -/
theorem Fresh.publish (hfresh : Fresh s h) (hbuilt : (h i).built = some (key, client)) :
    Fresh { s with clients := s.clients.set key client } h where
  locks := hfresh.locks
  floor_le := hfresh.floor_le
  readAt_le := hfresh.readAt_le
  wroteAt_le := hfresh.wroteAt_le
  origin_le := hfresh.origin_le
  cached key' client' hget := by
    by_cases hk : key' = key
    · subst hk
      rw [Dict.get?_set_self] at hget
      cases hget
      exact ((hfresh.calls i).built key' client hbuilt).2
    · rw [Dict.get?_set_of_ne hk] at hget
      exact hfresh.cached key' client' hget
  calls j := { hfresh.calls j with }

/-- A call evicts the slot it is inside for: nobody else has read or built anything for it. -/
theorem Fresh.popClient (hfresh : Fresh s h) (hinside : (h i).grip = .inside key lock)
    (hgrip : g.grip = (h i).grip) (hread : g.read = none) (hbuilt : g.built = none)
    (hevicted : g.evicted = some key) :
    Fresh { s with clients := s.clients.erase key
                   floor := Function.update s.floor key s.writes } (Function.update h i g) where
  locks := hfresh.locks_same hgrip
  floor_le key' := by
    by_cases hk : key' = key
    · subst hk
      simp
    · simpa [hk] using hfresh.floor_le key'
  readAt_le := hfresh.readAt_le
  wroteAt_le := hfresh.wroteAt_le
  origin_le := hfresh.origin_le
  cached key' client hget := by
    have hk : key' ≠ key := by
      rintro rfl
      simp at hget
    simp only [Dict.get?_erase_of_ne hk] at hget
    obtain ⟨n, horigin, hle⟩ := hfresh.cached key' client hget
    exact ⟨n, horigin, by simpa [hk] using hle⟩
  calls := by
    have hother : ∀ j key' lock', j ≠ i → (h j).grip = .inside key' lock' → key' ≠ key := by
      rintro j key' lock' hj hin rfl
      exact hj (hfresh.locks.exclusive hinside hin).symm
    refine forall_update (P := Dated _) ⟨?_, ?_, fun key' hkey => ?_⟩ fun j hj =>
      ⟨fun connId hc => ?_, fun key' client hc => ?_, fun key' hc => ?_⟩
    · simp [hread]
    · simp [hbuilt]
    · obtain rfl : key = key' := Option.some.inj (hevicted.symm.trans hkey)
      simpa using hfresh.wroteAt_le i
    · obtain ⟨key', lock', hin, hle⟩ := (hfresh.calls j).read connId hc
      exact ⟨key', lock', hin, by simpa [hother j key' lock' hj hin] using hle⟩
    · obtain ⟨⟨lock', hin⟩, n, horigin, hle⟩ := (hfresh.calls j).built key' client hc
      exact ⟨⟨lock', hin⟩, n, horigin, by simpa [hother j key' lock' hj hin] using hle⟩
    · by_cases hk : key' = key
      · subst hk
        simpa using hfresh.wroteAt_le j
      · simpa [hk] using (hfresh.calls j).evicted key' hc

/-- The clients that there were, and the new one. -/
theorem Pool.origin_append {o : Client} {c : ℕ} :
    Pool.origin { s with objects := s.objects ++ [o] } c =
      if c = s.objects.length then some (o.key, o.readAt) else s.origin c := by
  simp only [Pool.origin]
  split
  next hc => simp [hc]
  next hc =>
    rcases lt_or_gt_of_ne hc with hlt | hgt
    · rw [List.getElem?_append_left hlt]
    · rw [List.getElem?_eq_none (by rw [List.length_append, List.length_singleton]; omega),
        List.getElem?_eq_none hgt.le]

theorem Pool.origin_length : s.origin s.objects.length = none := by
  simp [Pool.origin]

/-- A client keeps its origin when another is constructed. -/
theorem Pool.origin_append_of_some {o : Client} {c n : ℕ} (h : s.origin c = some (key, n)) :
    Pool.origin { s with objects := s.objects ++ [o] } c = some (key, n) := by
  have hne : c ≠ s.objects.length := by
    rintro rfl
    rw [Pool.origin_length] at h
    cases h
  rw [Pool.origin_append, if_neg hne, h]

/-- A call constructs a client from the profile it has read inside. -/
theorem Fresh.construct {config : ClientConfig} (hfresh : Fresh s h)
    (hinside : (h i).grip = .inside key lock) (hread : (h i).read = some connId)
    (hgrip : g.grip = (h i).grip) (hsame : g.read = (h i).read)
    (hbuilt : g.built = some (key, s.objects.length)) (hevicted : g.evicted = (h i).evicted) :
    Fresh { s with objects := s.objects ++ [{ key, config, readAt := s.readAt i }] }
      (Function.update h i g) where
  locks := hfresh.locks_same hgrip
  floor_le := hfresh.floor_le
  readAt_le := hfresh.readAt_le
  wroteAt_le := hfresh.wroteAt_le
  origin_le c key' n hc := by
    rw [Pool.origin_append] at hc
    split at hc
    · cases hc
      exact hfresh.readAt_le i
    · exact hfresh.origin_le c key' n hc
  cached key' c hc := by
    obtain ⟨n, horigin, hle⟩ := hfresh.cached key' c hc
    exact ⟨n, Pool.origin_append_of_some horigin, hle⟩
  calls := by
    obtain ⟨key', lock', hin, hle⟩ := (hfresh.calls i).read connId hread
    obtain ⟨rfl, rfl⟩ : key = key' ∧ lock = lock' := by simpa [hinside] using hin
    refine forall_update (P := Dated _) ⟨?_, fun key' c hc => ?_, ?_⟩ fun j _ =>
      ⟨(hfresh.calls j).read, fun key' c hc => ?_, (hfresh.calls j).evicted⟩
    · rw [hgrip, hsame]
      exact (hfresh.calls i).read
    · rw [hbuilt] at hc
      cases hc
      exact ⟨⟨lock, hgrip.trans hinside⟩, s.readAt i,
        by rw [Pool.origin_append, if_pos rfl], hle⟩
    · rw [hevicted]
      exact (hfresh.calls i).evicted
    · obtain ⟨hin', n, horigin, hle'⟩ := (hfresh.calls j).built key' c hc
      exact ⟨hin', n, Pool.origin_append_of_some horigin, hle'⟩

theorem GoneSince.construct {config : ClientConfig} (hgone : GoneSince connId v s h)
    (hread : (h i).read = some key.2) (hsame : g.read = (h i).read) :
    GoneSince connId v
      { s with objects := s.objects ++ [{ key, config, readAt := s.readAt i }] }
      (Function.update h i g) where
  absent := hgone.absent
  origin c key' n hc hk := by
    rw [Pool.origin_append] at hc
    split at hc
    · cases hc
      exact hgone.read i (hk ▸ hread)
    · exact hgone.origin c key' n hc hk
  read := forall_update (P := fun j g => g.read = some connId → s.readAt j < v)
    (fun hc => hgone.read i (hsame ▸ hc)) fun j _ => hgone.read j

/-- A connection that is not there comes back only if it is created. -/
theorem absent_exec {rt : Runtime} {t : Tables} {r : DbOp} (hr : Sight.Needs (.db r) g)
    (h : t.connections.find? connId = none) : (r.exec rt t).2.connections.find? connId = none := by
  cases r with
  | createConnection conn nonce => exact hr.elim
  | updateConnection connId' data now nonce =>
    rcases Services.exec_updateConnection rt t connId' data now nonce with
      heq | ⟨row, existing, conn, -, -, -, heq⟩
    · rwa [heq]
    · rw [heq, Tables.assignConnection, Table.find?_update]
      split
      next hc => rw [← hc, h, Option.map_none]
      next => exact h
  | deleteConnection connId' =>
    refine Table.find?_eq_none.2 fun row hrow => ?_
    exact Table.find?_eq_none.1 h row (Table.mem_delete.1 hrow).1
  | createWorkspace ws =>
    rcases Services.exec_createWorkspace rt t ws with heq | ⟨_, -, heq⟩
    · rwa [heq]
    · rwa [heq]
  | updateWorkspace workspaceId data now =>
    rcases Services.exec_updateWorkspace rt t workspaceId data now with
      heq | ⟨_, _, _, -, -, -, heq⟩
    · rwa [heq]
    · rwa [heq]
  | deleteWorkspace workspaceId =>
    rcases Services.exec_deleteWorkspace rt t workspaceId with heq | ⟨-, heq⟩
    · rwa [heq]
    · rwa [heq]
  | _ => exact h

/-- A profile that is read is there. -/
theorem profileRead_absent {rt : Runtime} {t : Tables} {r : DbOp}
    (h : t.connections.find? connId = none) :
    Sight.profileRead r (r.exec rt t).1 ≠ some connId := by
  cases r with
  | getConnection connId' =>
    simp only [DbOp.exec, reading, Db.getConnection]
    cases hrow : t.connections.find? connId' with
    | none => simp [Sight.profileRead]
    | some row =>
      have hne : connId' ≠ connId := by
        rintro rfl
        rw [h] at hrow
        cases hrow
      dsimp only
      cases hp : decryptedProfile rt row with
      | ok p => simpa [Sight.profileRead, Except.map] using hne
      | error e => simp [Sight.profileRead, Except.map]
  | _ => simp [Sight.profileRead]

/-- A call writes a profile. -/
theorem Fresh.write {tables : Tables} (hfresh : Fresh s h) (hgrip : g.grip = (h i).grip)
    (hread : g.read = none) (hbuilt : g.built = (h i).built) (hevicted : g.evicted = none) :
    Fresh { s with tables, writes := s.writes + 1,
                   wroteAt := Function.update s.wroteAt i (s.writes + 1) }
      (Function.update h i g) where
  locks := hfresh.locks_same hgrip
  floor_le key := Nat.le_succ_of_le (hfresh.floor_le key)
  readAt_le j := Nat.le_succ_of_le (hfresh.readAt_le j)
  wroteAt_le j := by
    by_cases hj : j = i
    · simp [hj]
    · simpa [hj] using Nat.le_succ_of_le (hfresh.wroteAt_le j)
  origin_le client key n hc := Nat.le_succ_of_le (hfresh.origin_le client key n hc)
  cached := hfresh.cached
  calls := by
    refine forall_update (P := Dated _) ⟨by simp [hread], ?_, by simp [hevicted]⟩ fun j hj =>
      ⟨(hfresh.calls j).read, (hfresh.calls j).built, fun key hc => ?_⟩
    · rw [hbuilt, hgrip]
      exact (hfresh.calls i).built
    · simpa [hj] using (hfresh.calls j).evicted key hc

/-- A call reads a profile. -/
theorem Fresh.readDb {tables : Tables} (hfresh : Fresh s h) (hgrip : g.grip = (h i).grip)
    (hread : ∀ connId, g.read = some connId → ∃ key lock, (h i).grip = .inside key lock)
    (hbuilt : g.built = (h i).built) (hevicted : g.evicted = (h i).evicted) :
    Fresh { s with tables, readAt := Function.update s.readAt i s.writes }
      (Function.update h i g) where
  locks := hfresh.locks_same hgrip
  floor_le := hfresh.floor_le
  readAt_le j := by
    by_cases hj : j = i
    · simp [hj]
    · simpa [hj] using hfresh.readAt_le j
  wroteAt_le := hfresh.wroteAt_le
  origin_le := hfresh.origin_le
  cached := hfresh.cached
  calls := by
    refine forall_update (P := Dated _) ⟨fun connId hc => ?_, ?_, ?_⟩ fun j hj =>
      ⟨fun connId hc => ?_, (hfresh.calls j).built, (hfresh.calls j).evicted⟩
    · obtain ⟨key, lock, hinside⟩ := hread connId hc
      exact ⟨key, lock, hgrip.trans hinside, by simpa using hfresh.floor_le key⟩
    · rw [hbuilt, hgrip]
      exact (hfresh.calls i).built
    · rw [hevicted]
      exact (hfresh.calls i).evicted
    · simpa [hj] using (hfresh.calls j).read connId hc

/-- A profile that is gone stays gone when a call has not read it. -/
theorem GoneSince.step (hgone : GoneSince connId v s h)
    (habsent : s'.tables.connections.find? connId = none) (horigin : s'.origin = s.origin)
    (hreadAt : ∀ j, j ≠ i → s'.readAt j = s.readAt j) (hread : g.read ≠ some connId) :
    GoneSince connId v s' (Function.update h i g) where
  absent := habsent
  origin := horigin ▸ hgone.origin
  read := forall_update (P := fun j g => g.read = some connId → s'.readAt j < v)
    (fun hc => absurd hc hread) fun j hj hc => (hreadAt j hj).trans_lt (hgone.read j hc)

theorem GoneSince.mono {v' : ℕ} (hgone : GoneSince connId v s h) (hv : v ≤ v') :
    GoneSince connId v' s h where
  absent := hgone.absent
  origin client key n hc hk := (hgone.origin client key n hc hk).trans_le hv
  read i hc := (hgone.read i hc).trans_le hv

/-- What a statement of the `i`-th call does: nothing that is dated gets older, what is gone stays
gone, and what the call is given for a slot is no older than its last eviction. -/
structure Moves (s : Pool) (h : ℕ → Sight) (i : ℕ) (g : Sight) (s' : Pool) : Prop where
  fresh : Fresh s' (Function.update h i g)
  gone : ∀ connId v, GoneSince connId v s h → GoneSince connId v s' (Function.update h i g)
  deleted : ∀ connId, g.deleted = some connId → (h i).deleted = some connId ∨
    GoneSince connId (s'.wroteAt i) s' (Function.update h i g)
  floor : ∀ key, s.floor key ≤ s'.floor key
  wroteAt : ∀ j, s.wroteAt j ≤ s'.wroteAt j
  origin : ∀ client key n, s.origin client = some (key, n) → s'.origin client = some (key, n)
  seen : ∀ key client, (key, client) ∈ g.seen → (key, client) ∈ (h i).seen ∨
    ∃ n, s'.origin client = some (key, n) ∧ s.floor key ≤ n
  found : ∀ connId ∈ g.found, connId ∈ (h i).found ∨ s.tables.connections.find? connId ≠ none

/-- A statement that changes nothing that is dated. -/
theorem Fresh.moves_same (hfresh : Fresh s h) (halike : s.Alike s')
    (hlocks : s'.locks.Agrees (Sight.grip ∘ Function.update h i g)) (hkeeps : (h i).Keeps g)
    (hseen : g.seen = (h i).seen) (hfound : g.found = (h i).found) :
    Moves s h i g s' where
  fresh := hfresh.same halike hlocks hkeeps
  gone _ _ hgone := hgone.same halike hkeeps
  deleted _ hc := Or.inl (hkeeps.deleted ▸ hc)
  floor key := (congrFun halike.floor key).ge
  wroteAt j := (congrFun halike.wroteAt j).ge
  origin _ _ _ hc := halike.origin ▸ hc
  seen _ _ hc := Or.inl (hseen ▸ hc)
  found _ hc := Or.inl (hfound ▸ hc)

/-- A statement that changes nothing but whether the call has met an exception. -/
theorem Fresh.moves_raised {raised : Bool} (hfresh : Fresh s h) (halike : s.Alike s')
    (hlocks : s'.locks = s.locks) : Moves s h i { h i with raised } s' := by
  refine hfresh.moves_same halike ?_ ⟨rfl, rfl, Or.inr ⟨rfl, rfl⟩, Or.inr ⟨rfl, rfl⟩⟩ rfl rfl
  rw [hlocks]
  exact hfresh.locks_same rfl

/-- A call writes a profile. -/
theorem Fresh.moves_write {rt : Runtime} {r : DbOp} (hfresh : Fresh s h)
    (hr : Sight.Needs (.db r) (h i)) (hw : Pool.wrote r (r.exec rt s.tables).1 = true) :
    Moves s h i ((h i).updDb r (r.exec rt s.tables).1)
      { s with tables := (r.exec rt s.tables).2, writes := s.writes + 1,
               wroteAt := Function.update s.wroteAt i (s.writes + 1) } := by
  have hnone : Sight.profileRead r (r.exec rt s.tables).1 = none := by
    cases r <;> first | rfl | simp [Pool.wrote] at hw
  have hread : ((h i).updDb r (r.exec rt s.tables).1).read = none := by
    simp only [Sight.updDb, hnone]
    split <;> rfl
  refine ⟨hfresh.write rfl hread rfl (if_pos hw), fun connId v hgone => ?_,
    fun connId hdeleted => ?_,
    fun key => le_rfl, fun j => ?_, fun _ _ _ hc => hc, fun _ _ hc => Or.inl hc,
    fun connId hmem => Or.inl ?_⟩
  · exact hgone.step (absent_exec hr hgone.absent) rfl (fun _ _ => rfl) (by simp [hread])
  · cases hdel : Sight.profileDeleted r (r.exec rt s.tables).1 with
    | none => exact Or.inl (by simpa [Sight.updDb, hdel] using hdeleted)
    | some connId' =>
      obtain rfl : connId' = connId := by simpa [Sight.updDb, hdel] using hdeleted
      refine Or.inr ⟨?_, fun client key n hc _ => ?_, fun j _ => ?_⟩
      · cases r with
        | deleteConnection connId'' =>
          obtain rfl : connId'' = connId' := Option.some.inj hdel
          exact Table.find?_eq_none.2 fun row hrow =>
            of_decide_eq_false (Table.mem_delete.1 hrow).2
        | _ => cases hdel
      · simpa using Nat.lt_succ_of_le (hfresh.origin_le client key n hc)
      · simpa using Nat.lt_succ_of_le (hfresh.readAt_le j)
  · by_cases hj : j = i
    · subst hj
      simpa using Nat.le_succ_of_le (hfresh.wroteAt_le j)
    · simp [hj]
  · simpa [Sight.updDb, hnone] using hmem

/-- A call reads from the tables, or its write is refused. -/
theorem Fresh.moves_read {rt : Runtime} {r : DbOp} (hfresh : Fresh s h)
    (hr : Sight.Needs (.db r) (h i)) (hw : Pool.wrote r (r.exec rt s.tables).1 = false) :
    Moves s h i ((h i).updDb r (r.exec rt s.tables).1)
      { s with tables := (r.exec rt s.tables).2,
               readAt := Function.update s.readAt i s.writes } := by
  have hevicted : ((h i).updDb r (r.exec rt s.tables).1).evicted = (h i).evicted := by
    simp [Sight.updDb, hw]
  have hdeleted : Sight.profileDeleted r (r.exec rt s.tables).1 = none := by
    cases r with
    | deleteConnection connId => cases hw
    | _ => rfl
  have hread : ∀ connId, ((h i).updDb r (r.exec rt s.tables).1).read = some connId →
      (∃ key lock, (h i).grip = .inside key lock) ∧
        Sight.profileRead r (r.exec rt s.tables).1 = some connId := by
    intro connId hc
    simp only [Sight.updDb] at hc
    split at hc
    next key lock hgrip => exact ⟨⟨key, lock, hgrip⟩, hc⟩
    next => cases hc
  refine ⟨hfresh.readDb rfl (fun connId hc => (hread connId hc).1) rfl hevicted,
    fun connId v hgone => ?_, fun connId hc => Or.inl ?_, fun key => le_rfl, fun j => le_rfl,
    fun _ _ _ hc => hc, fun _ _ hc => Or.inl hc, fun connId hmem => ?_⟩
  · exact hgone.step (absent_exec hr hgone.absent) rfl (fun j hj => Function.update_of_ne hj _ _)
      fun hc => profileRead_absent hgone.absent (hread connId hc).2
  · simpa [Sight.updDb, hdeleted] using hc
  · rcases List.mem_append.1 hmem with hfound | hmem
    · exact Or.inr fun habsent => profileRead_absent habsent (Option.mem_toList.1 hfound)
    · exact Or.inl hmem

/-- Whether the call has met an exception does not matter here. -/
theorem Moves.raised (hmoves : Moves s h i g s') (raised : Bool) :
    Moves s h i { g with raised } s' := by
  have hself : Function.update h i g i = g := Function.update_self i g h
  have hkeeps : (Function.update h i g i).Keeps { g with raised } := by
    rw [hself]
    exact ⟨rfl, rfl, Or.inr ⟨rfl, rfl⟩, Or.inr ⟨rfl, rfl⟩⟩
  have halike : s'.Alike s' := ⟨rfl, rfl, rfl, rfl, rfl, rfl, rfl⟩
  have hupdate : Function.update (Function.update h i g) i { g with raised } =
      Function.update h i { g with raised } := Function.update_idem _ _ _
  have hgone : ∀ connId v, GoneSince connId v s' (Function.update h i g) →
      GoneSince connId v s' (Function.update h i { g with raised }) :=
    fun connId v hgone => hupdate ▸ hgone.same halike hkeeps
  refine ⟨hupdate ▸ hmoves.fresh.same halike ?_ hkeeps,
    fun connId v h => hgone connId v (hmoves.gone connId v h),
    fun connId hc => (hmoves.deleted connId hc).imp_right (hgone connId _),
    hmoves.floor, hmoves.wroteAt, hmoves.origin, hmoves.seen, hmoves.found⟩
  exact hmoves.fresh.locks_same (by rw [hself])

/-- A call is given what is cached in a slot. -/
theorem Fresh.moves_cached (hfresh : Fresh s h) :
    Moves s h i { h i with
      seen := (s.clients.get? key).toList.map (fun c => (key, c)) ++ (h i).seen } s := by
  have hkeeps : (h i).Keeps { h i with
      seen := (s.clients.get? key).toList.map (fun c => (key, c)) ++ (h i).seen } :=
    ⟨rfl, rfl, Or.inr ⟨rfl, rfl⟩, Or.inr ⟨rfl, rfl⟩⟩
  have halike : s.Alike s := ⟨rfl, rfl, rfl, rfl, rfl, rfl, rfl⟩
  refine ⟨hfresh.same halike (hfresh.locks_same rfl) hkeeps,
    fun _ _ hgone => hgone.same halike hkeeps,
    fun _ hc => Or.inl hc, fun _ => le_rfl, fun _ => le_rfl, fun _ _ _ hc => hc,
    fun key' client hmem => ?_, fun _ hc => Or.inl hc⟩
  rcases List.mem_append.1 hmem with hcached | hmem
  · obtain ⟨c, hc, heq⟩ := List.mem_map.1 hcached
    cases heq
    exact Or.inr (hfresh.cached key client (Option.mem_toList.1 hc))
  · exact Or.inl hmem

/-- A call constructs a client for the slot it is inside for. -/
theorem Fresh.moves_construct {config : ClientConfig} (hfresh : Fresh s h)
    (hinside : (h i).grip = .inside key lock) (hread : (h i).read = some key.2) :
    Moves s h i { h i with built := some (key, s.objects.length),
                           seen := (key, s.objects.length) :: (h i).seen }
      { s with objects := s.objects ++ [{ key, config, readAt := s.readAt i }] } := by
  refine ⟨hfresh.construct hinside hread rfl rfl rfl rfl,
    fun _ _ hgone => hgone.construct hread rfl,
    fun _ hc => Or.inl hc, fun _ => le_rfl, fun _ => le_rfl,
    fun _ _ _ hc => Pool.origin_append_of_some hc, fun key' client hmem => ?_,
    fun _ hc => Or.inl hc⟩
  rcases List.mem_cons.1 hmem with heq | hmem
  · cases heq
    obtain ⟨key', lock', hin, hle⟩ := (hfresh.calls i).read _ hread
    obtain ⟨rfl, rfl⟩ : key = key' ∧ lock = lock' := by simpa [hinside] using hin
    exact Or.inr ⟨s.readAt i, by rw [Pool.origin_append, if_pos rfl], hle⟩
  · exact Or.inl hmem

theorem Fresh.moves_publish (hfresh : Fresh s h) (hbuilt : (h i).built = some (key, client)) :
    Moves s h i (h i) { s with clients := s.clients.set key client } := by
  have hself : Function.update h i (h i) = h := Function.update_eq_self i h
  refine ⟨hself.symm ▸ hfresh.publish hbuilt, fun _ _ hgone => hself.symm ▸ { hgone with },
    fun _ hc => Or.inl hc, fun _ => le_rfl, fun _ => le_rfl, fun _ _ _ hc => hc,
    fun _ _ hc => Or.inl hc, fun _ hc => Or.inl hc⟩

theorem Fresh.moves_popClient (hfresh : Fresh s h) (hinside : (h i).grip = .inside key lock) :
    Moves s h i { h i with evicted := some key, read := none, built := none }
      { s with clients := s.clients.erase key
               floor := Function.update s.floor key s.writes } := by
  refine ⟨hfresh.popClient hinside rfl rfl rfl rfl, fun connId v hgone => ?_, fun _ hc => Or.inl hc,
    fun key' => ?_, fun _ => le_rfl, fun _ _ _ hc => hc, fun _ _ hc => Or.inl hc,
    fun _ hc => Or.inl hc⟩
  · exact hgone.step hgone.absent rfl (fun _ _ => rfl) (by simp)
  · by_cases hk : key' = key
    · subst hk
      simpa using hfresh.floor_le key'
    · simp [hk]

/-- Every statement made with the hand for it moves the calls on. -/
theorem Fresh.moves_answer {rt : Runtime} {r : PoolOp} {connected : Bool} {a : Except Exc r.Resp}
    (hfresh : Fresh s h) (hneeds : Sight.Needs r (h i))
    (hx : s.answer rt i r connected = some (a, s')) :
    Sight.Possible r a (h i) ∧ Moves s h i ((h i).updSeen ⟨r, a⟩) s' := by
  have hsame : ∀ s' : Pool, s.Alike s' → s'.locks = s.locks → Moves s h i (h i) s' :=
    fun s' halike hlocks => hfresh.moves_raised halike hlocks
  cases r with
  | acquireGlobal =>
    simp only [Pool.answer] at hx
    split at hx <;> cases hx
    exact ⟨trivial, hsame _ ⟨rfl, rfl, rfl, rfl, rfl, rfl, rfl⟩ rfl⟩
  | lockOf key =>
    cases hx
    have hfree : (h i).grip = .free := hneeds
    have hout := (hfresh.calls i).outside (by simp [hfree])
    refine ⟨trivial, hfresh.moves_same ⟨rfl, rfl, rfl, rfl, rfl, rfl, rfl⟩ ?_
      ⟨rfl, rfl, Or.inl hout.1, Or.inl hout.2⟩ rfl rfl⟩
    rw [Function.comp_update]
    exact hfresh.locks.obtain hfree
  | acquire lock =>
    obtain ⟨key, hkey⟩ := hneeds
    obtain ⟨locks, hlocks, heq⟩ := Option.map_eq_some_iff.1 hx
    cases heq
    have hout := (hfresh.calls i).outside (by simp [hkey])
    refine ⟨trivial, hfresh.moves_same ⟨rfl, rfl, rfl, rfl, rfl, rfl, rfl⟩ ?_
      ⟨rfl, rfl, Or.inl hout.1, Or.inl hout.2⟩ rfl rfl⟩
    rw [Function.comp_update, Sight.updSeen, hkey]
    exact hfresh.locks.acquire hkey hlocks
  | release lock =>
    obtain ⟨key, hkey⟩ := hneeds
    cases hx
    refine ⟨trivial, hfresh.moves_same ⟨rfl, rfl, rfl, rfl, rfl, rfl, rfl⟩ ?_
      ⟨rfl, rfl, Or.inl rfl, Or.inl rfl⟩ rfl rfl⟩
    rw [Function.comp_update]
    exact hfresh.locks.release hkey
  | cached key =>
    cases hx
    exact ⟨trivial, hfresh.moves_cached⟩
  | db r =>
    cases hx
    refine ⟨trivial, ?_⟩
    simp only [Sight.updSeen]
    -- a write makes a new version of the profile, a read takes the latest one
    split
    next hw => exact hfresh.moves_write hneeds hw
    next hw => exact hfresh.moves_read hneeds (Bool.of_not_eq_true hw)
  | construct key config =>
    obtain ⟨⟨lock, hinside⟩, hread⟩ := hneeds
    cases hx
    exact ⟨trivial, hfresh.moves_construct hinside hread⟩
  | close client reason =>
    cases hx
    exact ⟨trivial, hsame _ Pool.alike_closed rfl⟩
  | publish key client =>
    obtain ⟨-, hbuilt⟩ := hneeds
    cases hx
    exact ⟨trivial, hfresh.moves_publish hbuilt⟩
  | popClient key =>
    obtain ⟨lock, hinside⟩ := hneeds
    cases hx
    exact ⟨trivial, hfresh.moves_popClient hinside⟩
  | popSession sessionId => exact hneeds.elim
  | popAll => exact hneeds.elim
  | _ =>
    cases hx
    exact ⟨trivial, hsame _ ⟨rfl, rfl, rfl, rfl, rfl, rfl, rfl⟩ rfl⟩

/-- So does a statement that raises. -/
theorem Fresh.moves_raise {r : PoolOp} {e : Exc} (hfresh : Fresh s h)
    (hneeds : Sight.Needs r (h i)) (hx : s.raise i r e = some s') :
    Sight.Possible r (.error e) (h i) ∧ Moves s h i ((h i).updSeen ⟨r, .error e⟩) s' := by
  have hsame : ∀ s' : Pool, s.Alike s' → s'.locks = s.locks → Moves s h i (h i) s' :=
    fun s' halike hlocks => hfresh.moves_raised halike hlocks
  cases r with
  | acquire lock =>
    simp only [Pool.raise] at hx
    split at hx <;> cases hx
    obtain ⟨key, hkey⟩ := hneeds
    have hout := (hfresh.calls i).outside (by simp [hkey])
    refine ⟨trivial, hfresh.moves_same ⟨rfl, rfl, rfl, rfl, rfl, rfl, rfl⟩ ?_
      ⟨rfl, rfl, Or.inl hout.1, Or.inl hout.2⟩ rfl rfl⟩
    rw [Function.comp_update]
    exact hfresh.locks.giveUp hkey
  | acquireGlobal =>
    simp only [Pool.raise] at hx
    split at hx <;> cases hx
    exact ⟨trivial, hsame _ ⟨rfl, rfl, rfl, rfl, rfl, rfl, rfl⟩ rfl⟩
  | clearInfo =>
    simp only [Pool.raise] at hx
    split at hx <;> cases hx
    exact ⟨trivial, hsame _ ⟨rfl, rfl, rfl, rfl, rfl, rfl, rfl⟩ rfl⟩
  | invalidateInfo connId =>
    simp only [Pool.raise] at hx
    split at hx <;> cases hx
    exact ⟨trivial, hsame _ ⟨rfl, rfl, rfl, rfl, rfl, rfl, rfl⟩ rfl⟩
  | db r =>
    cases hx
    have hread : ((h i).updDb r (.error e)).read = none := by
      simp only [Sight.updDb]
      split
      · cases r <;> rfl
      · rfl
    have hevicted : ((h i).updDb r (.error e)).evicted = (h i).evicted := by cases r <;> rfl
    have hdeleted : ((h i).updDb r (.error e)).deleted = (h i).deleted := by cases r <;> rfl
    have hfound : ((h i).updDb r (.error e)).found = (h i).found := by cases r <;> rfl
    exact ⟨trivial, hfresh.moves_same ⟨rfl, rfl, rfl, rfl, rfl, rfl, rfl⟩ (hfresh.locks_same rfl)
      ⟨hevicted, hdeleted, Or.inl hread, Or.inr ⟨rfl, rfl⟩⟩ rfl hfound⟩
  | construct key config =>
    cases hx
    exact ⟨trivial, hsame _ ⟨rfl, rfl, rfl, rfl, rfl, rfl, rfl⟩ rfl⟩
  | connect client =>
    cases hx
    exact ⟨trivial, hsame _ ⟨rfl, rfl, rfl, rfl, rfl, rfl, rfl⟩ rfl⟩
  | close client reason =>
    cases hx
    exact ⟨trivial, hsame _ Pool.alike_closed rfl⟩
  | _ => cases hx

end Exec

/-! ### Runs -/

section Runs

variable {rt : Runtime} {settings : Settings} {session : Option String} {tables : Tables}
  {calls : List SlotCall} {c c' : Config PoolOp PoolOp.Resp Exc (Option ℕ) Pool}
  {es : List (Event Outcome Empty)} {connId : String} {key : CacheKey} {v j : ℕ}

theorem Fresh.moves {s s' : Pool} {h : ℕ → Sight} {i : ℕ} {r : PoolOp} {x : Outcome}
    {a : Except Exc r.Resp} (hfresh : Fresh s h) (hneeds : Sight.Needs r (h i))
    (hx : s.exec rt i r x = some (a, s')) :
    Sight.Possible r a (h i) ∧ Moves s h i ((h i).upd ⟨r, a⟩) s' := by
  cases x with
  | returns connected =>
    obtain ⟨hpossible, hmoves⟩ := hfresh.moves_answer hneeds hx
    exact ⟨hpossible, hmoves.raised _⟩
  | raises e =>
    obtain ⟨s₁, hs₁, heq⟩ := Option.map_eq_some_iff.1 hx
    cases heq
    obtain ⟨hpossible, hmoves⟩ := hfresh.moves_raise hneeds hs₁
    exact ⟨hpossible, hmoves.raised _⟩

/-- Every call in flight is judged by what it has seen, and the invariant holds. -/
def Watched (session : Option String) (calls : List SlotCall)
    (Inv : Pool → (ℕ → Sight) → Prop) (c : Config PoolOp PoolOp.Resp Exc (Option ℕ) Pool) : Prop :=
  Follows Sight.Possible Sight.upd {} (fun _ => Sight.Needs)
    (fun i result g => ∀ call, calls[i]? = some call → call.Ends session result g)
    (fun i e g => ∀ call, calls[i]? = some call → call.Raises e g) c ∧
    Inv c.shared (hands Sight.upd {} c)

/-- Nothing is older than the last eviction, and what was deleted is gone. -/
def Kempt (s : Pool) (h : ℕ → Sight) : Prop := Fresh s h ∧ Gone s h

theorem watched_start :
    Watched session calls Kempt (slotStart settings session tables calls) := by
  refine ⟨follows_start fun i p hp => ?_, ?_⟩
  · rw [List.getElem?_map] at hp
    obtain ⟨call, hcall, rfl⟩ := Option.map_eq_some_iff.1 hp
    refine (Sight.safe_program call).mono (fun result g hends call' hcall' => ?_)
      fun e g hraises call' hcall' => ?_
    · rw [hcall] at hcall'
      exact Option.some.inj hcall' ▸ hends
    · rw [hcall] at hcall'
      exact Option.some.inj hcall' ▸ hraises
  · rw [slotStart, hands_start]
    refine ⟨⟨KeyedLocks.agrees_start, fun _ => le_rfl, fun _ => le_rfl, fun _ => le_rfl,
      ?_, ?_, ?_⟩, ?_⟩
    · simp [Config.start, Pool.origin]
    · simp [Config.start]
    · exact fun _ => ⟨by simp, by simp, by simp⟩
    · exact fun _ _ h => by cases h

theorem watched_always (h : Watched session calls Kempt c) :
    Always (slotWorld rt) (Watched session calls Kempt) c es := by
  refine always_of_follows (G := fun _ _ _ _ _ => True) Kempt
    (fun i r x past s a s' h hinv hneeds _ _ hx => ?_) (fun e => e.elim) h.1 h.2
    (guarded_of_forall fun _ _ _ _ _ => trivial)
  obtain ⟨hpossible, hmoves⟩ := hinv.1.moves hneeds hx
  refine ⟨hpossible, hmoves.fresh, fun j connId hdeleted => ?_⟩
  by_cases hj : j = i
  · subst hj
    rw [Function.update_self] at hdeleted
    rcases hmoves.deleted connId hdeleted with hold | hnew
    · exact (hmoves.gone _ _ (hinv.2 j connId hold)).mono (hmoves.wroteAt j)
    · exact hnew
  · rw [Function.update_of_ne hj] at hdeleted
    exact (hmoves.gone _ _ (hinv.2 j connId hdeleted)).mono (hmoves.wroteAt j)

/-- After the slot was evicted behind the `v`-th write: nothing older is cached or given to the
`j`-th call, and if that write deleted the profile, nothing is. -/
structure After (key : CacheKey) (v : ℕ) (deleted : Prop) (j : ℕ) (s : Pool) (h : ℕ → Sight) :
    Prop where
  fresh : Fresh s h
  floor : v ≤ s.floor key
  seen : ∀ client, (key, client) ∈ (h j).seen → ∃ n, s.origin client = some (key, n) ∧ v ≤ n
  gone : deleted → GoneSince key.2 v s h ∧ key.2 ∉ (h j).found

theorem After.moves {deleted : Prop} {s s' : Pool} {h : ℕ → Sight} {i : ℕ} {g : Sight}
    (hafter : After key v deleted j s h) (hmoves : Moves s h i g s') :
    After key v deleted j s' (Function.update h i g) where
  fresh := hmoves.fresh
  floor := hafter.floor.trans (hmoves.floor key)
  seen client hmem := by
    have hold : (key, client) ∈ (h j).seen → ∃ n, s'.origin client = some (key, n) ∧ v ≤ n :=
      fun hmem => (hafter.seen client hmem).imp fun n hn => ⟨hmoves.origin client key n hn.1, hn.2⟩
    by_cases hj : j = i
    · subst hj
      rw [Function.update_self] at hmem
      rcases hmoves.seen key client hmem with hmem | ⟨n, horigin, hle⟩
      · exact hold hmem
      · exact ⟨n, horigin, hafter.floor.trans hle⟩
    · rw [Function.update_of_ne hj] at hmem
      exact hold hmem
  gone hdeleted := by
    obtain ⟨hgone, hfound⟩ := hafter.gone hdeleted
    refine ⟨hmoves.gone key.2 v hgone, fun hmem => ?_⟩
    by_cases hj : j = i
    · subst hj
      rw [Function.update_self] at hmem
      exact (hmoves.found key.2 hmem).elim hfound fun hthere => hthere hgone.absent
    · rw [Function.update_of_ne hj] at hmem
      exact hfound hmem

/-- A client as new as the delete would have been built from what was gone. -/
theorem After.not_deleted {deleted : Prop} {s : Pool} {h : ℕ → Sight} {client n : ℕ}
    (hafter : After key v deleted j s h) (horigin : s.origin client = some (key, n)) (hv : v ≤ n) :
    ¬ deleted := by
  intro hdeleted
  have := (hafter.gone hdeleted).1.origin client key n horigin rfl
  omega

theorem after_always {deleted : Prop} (h : Watched session calls (After key v deleted j) c) :
    Always (slotWorld rt) (Watched session calls (After key v deleted j)) c es := by
  refine always_of_follows (G := fun _ _ _ _ _ => True) (After key v deleted j)
    (fun i r x past s a s' h hinv hneeds _ _ hx => ?_) (fun e => e.elim) h.1 h.2
    (guarded_of_forall fun _ _ _ _ _ => trivial)
  obtain ⟨hpossible, hmoves⟩ := hinv.fresh.moves hneeds hx
  exact ⟨hpossible, hinv.moves hmoves⟩

/-- A call that has met an exception has had one for an answer. -/
theorem exists_error_of_raised {past : List (Answer PoolOp PoolOp.Resp Exc)}
    (h : (hand Sight.upd {} past).raised = true) : ∃ a ∈ past, ∃ e, a.2 = .error e := by
  induction past using List.reverseRecOn with
  | nil => cases h
  | append_singleton past a ih =>
    obtain ⟨r, x⟩ := a
    rw [hand_append] at h
    cases x with
    | error e => exact ⟨_, List.mem_append_right _ (List.mem_singleton_self _), e, rfl⟩
    | ok x =>
      have hseen : (Sight.updSeen (hand Sight.upd {} past) ⟨r, .ok x⟩).raised =
          (hand Sight.upd {} past).raised := by cases r <;> rfl
      obtain ⟨a, ha, he⟩ := ih h
      exact ⟨a, List.mem_append_left _ ha, he⟩

/-- A call that changed where a client connects has evicted the slot when it returns. -/
theorem SlotCall.Ends.evicted {call : SlotCall} {result : Option ℕ} {g : Sight}
    (hends : call.Ends session result g) (hchanges : call.changes connId = true) :
    g.evicted = some (session, connId) := by
  cases call with
  | updateConnection connId' data callerOwnerId now nonce =>
    obtain ⟨hid, hdata⟩ := Bool.and_eq_true_iff.1 hchanges
    exact of_decide_eq_true hid ▸ hends hdata
  | deleteConnection connId' callerOwnerId => exact of_decide_eq_true hchanges ▸ hends.1
  | _ => cases hchanges

theorem SlotCall.Ends.deleted {call : SlotCall} {result : Option ℕ} {g : Sight}
    (hends : call.Ends session result g) (hdeletes : call.deletes connId = true) :
    g.deleted = some connId := by
  cases call with
  | deleteConnection connId' callerOwnerId => exact of_decide_eq_true hdeletes ▸ hends.2
  | _ => cases hdeletes

/-- Behind a change that has returned, nothing older is cached or given to a call that has not
begun. -/
theorem after_returned {u : ℕ} {call : SlotCall} {result : Option ℕ}
    {past : List (Answer PoolOp PoolOp.Resp Exc)} (hc : Watched session calls Kempt c)
    (hcall : calls[u]? = some call) (hchanges : call.changes connId = true)
    (hreturned : c.tasks[u]? = some ⟨.pure result, past⟩) (hj : hands Sight.upd {} c j = {}) :
    Watched session calls
      (After (session, connId) (c.shared.wroteAt u) (call.deletes connId = true) j) c := by
  have hends : call.Ends session result (hands Sight.upd {} c u) := by
    rw [hands_of_task hreturned]
    exact hc.1 u _ hreturned call hcall
  refine ⟨hc.1, hc.2.1, (hc.2.1.calls u).evicted _ (hends.evicted hchanges), ?_, fun hdeletes => ?_⟩
  · simp [hj]
  · exact ⟨hc.2.2 u connId (hends.deleted hdeletes), by simp [hj]⟩

end Runs

/-- **No stale client after a change of the profile.** Let an update of what a client connects to,
or a delete, have returned at `c`. From there on no client is cached in the slot whose profile was
read before the change, and a `get_client` that has not begun at `c` is given none; after a delete
it is given no client at all, and unless one of its statements raises it raises that the profile was
not found. -/
theorem no_stale_client (rt : Runtime) (settings : Settings) (session : Option String)
    (tables : Tables) (calls : List SlotCall) (es es' : List (Event Outcome Empty))
    (c c' : Config PoolOp PoolOp.Resp Exc (Option ℕ) Pool)
    (hrun : run (slotWorld rt) (slotStart settings session tables calls) es = some c)
    (hrun' : run (slotWorld rt) c es' = some c') (connId : String) (u : ℕ) (call : SlotCall)
    (hcall : calls[u]? = some call) (hchanges : call.changes connId = true) (result : Option ℕ)
    (past : List (Answer PoolOp PoolOp.Resp Exc))
    (hreturned : c.tasks[u]? = some ⟨.pure result, past⟩) :
    (∀ client, c'.shared.clients.get? (session, connId) = some client →
      call.deletes connId = false ∧
        ∃ n, c'.shared.origin client = some ((session, connId), n) ∧ c.shared.wroteAt u ≤ n) ∧
    ∀ (j : ℕ) p past', calls[j]? = some (.getClient connId) → c.tasks[j]? = some ⟨p, []⟩ →
      (∀ client, c'.tasks[j]? = some ⟨.pure (some client), past'⟩ →
        call.deletes connId = false ∧
          ∃ n, c'.shared.origin client = some ((session, connId), n) ∧ c.shared.wroteAt u ≤ n) ∧
      ∀ e, call.deletes connId = true → c'.tasks[j]? = some ⟨.throw e, past'⟩ →
        (∀ a ∈ past', ∀ e, a.2 ≠ .error e) → e = profileNotFound connId := by
  have hc : Watched session calls Kempt c := (watched_always watched_start).run hrun
  have hafter : ∀ j, hands Sight.upd {} c j = {} → Watched session calls
      (After (session, connId) (c.shared.wroteAt u) (call.deletes connId = true) j) c' :=
    fun j hj => (after_always (after_returned hc hcall hchanges hreturned hj)).run hrun'
  refine ⟨fun client hget => ?_, fun j p past' hj ht => ?_⟩
  · have hnone : hands Sight.upd {} c c.tasks.length = {} := by simp [hands]
    have hc' := (hafter c.tasks.length hnone).2
    obtain ⟨n, horigin, hle⟩ := hc'.fresh.cached (session, connId) client hget
    have hv : c.shared.wroteAt u ≤ n := hc'.floor.trans hle
    exact ⟨Bool.of_not_eq_true (hc'.not_deleted horigin hv), n, horigin, hv⟩
  · have hbegun : hands Sight.upd {} c j = {} := by rw [hands_of_task ht, hand_nil]
    obtain ⟨hfollows, hc'⟩ := hafter j hbegun
    refine ⟨fun client ht' => ?_, fun e hdeletes ht' hok => ?_⟩
    · obtain ⟨client', heq, hseen⟩ := hfollows j _ ht' _ hj
      cases heq
      rw [← hands_of_task ht'] at hseen
      obtain ⟨n, horigin, hv⟩ := hc'.seen client hseen
      exact ⟨Bool.of_not_eq_true (hc'.not_deleted horigin hv), n, horigin, hv⟩
    · have hraises : SlotCall.Raises (.getClient connId) e (hand Sight.upd {} past') :=
        hfollows j _ ht' _ hj
      rcases hraises with hraised | hfound | hnotFound
      · obtain ⟨a, ha, e', he'⟩ := exists_error_of_raised hraised
        exact absurd he' (hok a ha e')
      · rw [← hands_of_task ht'] at hfound
        exact absurd hfound (hc'.gone hdeletes).2
      · exact hnotFound

/-- A `get_client` reads the profile before it is moved to another port and caches its client after
that; the one that begins when the update has returned builds another client. -/
theorem no_stale_client_moved :
    ∃ c c', run (slotWorld plainRuntime)
        (slotStart openSettings none oneConnection [.getClient "c",
          .updateConnection "c" { port := some (some 4000) } none "1" 0, .getClient "c"])
        (returns 0 7 ++ returns 1 4 ++ returns 0 5 ++ returns 1 6) = some c ∧
      run (slotWorld plainRuntime) c (returns 2 12) = some c' ∧ c.shared.wroteAt 1 = 1 ∧
      ∃ n, c'.shared.origin 1 = some (restKey, n) ∧ 1 ≤ n := by
  refine ⟨_, _, rfl, rfl, rfl, ?_⟩
  exact (((no_stale_client plainRuntime openSettings none oneConnection [.getClient "c",
    .updateConnection "c" { port := some (some 4000) } none "1" 0, .getClient "c"]
    (returns 0 7 ++ returns 1 4 ++ returns 0 5 ++ returns 1 6) (returns 2 12) _ _ rfl rfl "c" 1 _
    rfl rfl none _ rfl).2 2 _ _ rfl rfl).1 1 rfl).2

end ClusterManager.Clients
