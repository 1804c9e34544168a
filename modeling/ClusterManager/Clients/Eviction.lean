import ClusterManager.Clients.Cancellation

/-!
# Bulk evictions

`close_session` and `close_all` forget locks under the global lock alone, whoever has obtained or
is inside them. `exclusive_where_idle` says when the locks of the keys still exclude and every
client is closed once: when a bulk eviction meets no lock in use. `eviction_breaks_exclusion` has
runs in which one does.
-/

namespace ClusterManager.Clients

open Db Interleaving

/-- Nothing is cancelled, and `close()` fails only in the way `_logged_close` expects. -/
def Uncancelled : Guard PoolOp PoolOp.Resp Exc Outcome Pool :=
  fun _ r x _ _ =>
    x ≠ .raises .cancelled ∧
      match r with
      | .close _ _ => ∀ e, x = .raises e → isCloseFailure e = true
      | _ => True

/-- A call is inside the critical section of a key. -/
def Inside (t : Task PoolOp PoolOp.Resp Exc (Option ℕ)) (key : CacheKey) : Prop :=
  ∃ lock, (hand Hand.upd {} t.past).grip = .inside key lock

/-- At most one call is inside the critical section of a key. -/
def Exclusive (c : Config PoolOp PoolOp.Resp Exc (Option ℕ) Pool) : Prop :=
  ∀ (i j : ℕ) t u key, c.tasks[i]? = some t → c.tasks[j]? = some u → Inside t key →
    Inside u key → i = j

/-- Every client that was constructed is cached or was closed exactly once, and the gauge is the
number of cached clients. -/
def ClosedOnce (s : Pool) : Prop :=
  (∀ client o, s.objects[client]? = some o →
    s.clients.get? o.key = some client ∨ o.closes = 1) ∧
    s.gauge = s.clients.length

theorem Kept.exclusive {bulk : Prop} {c : Config PoolOp PoolOp.Resp Exc (Option ℕ) Pool}
    (h : Kept bulk c) : Exclusive c := by
  rintro i j t u key ht hu ⟨lock, hlock⟩ ⟨lock', hlock'⟩
  rw [← hands_of_task ht] at hlock
  rw [← hands_of_task hu] at hlock'
  exact h.2.locks.exclusive hlock hlock'

theorem Uncancelled.notCutShort {i : ℕ} {r : PoolOp} {x : Outcome}
    {past : List (Answer PoolOp PoolOp.Resp Exc)} {s : Pool} (h : Uncancelled i r x past s) :
    NotCutShort i r x past s := by
  cases r with
  | invalidateInfo connId => exact fun hx => absurd hx h.1
  | close client reason => cases reason <;> first | trivial | exact h.2
  | _ => trivial

/-- **Mutual exclusion survives the bulk evictions that meet no lock in use.** In a run without
cancellations whose bulk evictions forget no lock that a call has obtained, at most one call is ever
inside for a key, and when all calls have ended every client constructed is cached or was closed
exactly once, and the gauge is right. -/
theorem exclusive_where_idle (rt : Runtime) (settings : Settings) (tables : Tables)
    (calls : List Call) (es : List (Event Outcome Tables))
    (hG : Guarded (world rt)
      (fun i r x past s => Uncancelled i r x past s ∧ EvictsIdle i r x past s)
      (start settings tables calls) es) :
    Always (world rt) Exclusive (start settings tables calls) es ∧
      ∀ c, run (world rt) (start settings tables calls) es = some c → Finished c →
        ClosedOnce c.shared := by
  have hkept : Always (world rt) (Kept True) (start settings tables calls) es :=
    owned_always (fun _ _ _ => trivial)
      (hG.imp fun i r x past s h => ⟨h.1.notCutShort, fun _ => h.2⟩)
  refine ⟨hkept.imp fun c h => h.exclusive, fun c hrun hfinished => ?_⟩
  have hc : Kept True c := hkept.run hrun
  obtain ⟨hclients, hgauge⟩ := hc.2.settled (hc.empty_hands hfinished)
  refine ⟨fun client o ho => ?_, hgauge⟩
  exact (hclients client o ho).imp And.left And.right

/-! ### A bulk eviction that meets a lock in use -/

/-- A schedule in which every statement returns cancels nothing. -/
theorem uncancelled_returns {rt : Runtime} {c : Config PoolOp PoolOp.Resp Exc (Option ℕ) Pool}
    {es : List (Event Outcome Tables)}
    (hes : ∀ e ∈ es, ∃ i connected, e = .task i (.returns connected)) :
    Guarded (world rt) Uncancelled c es := by
  induction es generalizing c with
  | nil => trivial
  | cons e es ih =>
    refine fun c' _ => ⟨?_, ih fun e he => hes e (List.mem_cons_of_mem _ he)⟩
    obtain ⟨i, connected, rfl⟩ := hes e List.mem_cons_self
    simp only [Permits]
    split
    next r k past ht => cases r <;> simp [Uncancelled]
    next => trivial

/-- `close_all` runs while a `get_client` connects, and another `get_client` comes. -/
def shutdownWhileConnecting : List (Event Outcome Tables) :=
  returns 0 7 ++ returns 1 4 ++ returns 2 4

/-- `close_all` runs while the second `get_client` is about to close the client of the first. -/
def shutdownWhileReplacing : List (Event Outcome Tables) :=
  returns 0 12 ++ returns 1 10 ++ returns 2 6 ++ returns 1 5

/-- Then two `get_client` are inside for one key; and a client is closed twice, and the gauge does
not count the one that is cached. -/
theorem eviction_breaks_exclusion :
    (Guarded (world plainRuntime) Uncancelled
        (start openSettings oneConnection [.getClient restKey, .closeAll, .getClient restKey])
        shutdownWhileConnecting ∧
      ¬ Always (world plainRuntime) Exclusive
        (start openSettings oneConnection [.getClient restKey, .closeAll, .getClient restKey])
        shutdownWhileConnecting) ∧
    Guarded (world plainRuntime) Uncancelled
        (start openSettings oneConnection [.getClient restKey, .getClient restKey, .closeAll])
        shutdownWhileReplacing ∧
      ∃ c, run (world plainRuntime)
          (start openSettings oneConnection [.getClient restKey, .getClient restKey, .closeAll])
          shutdownWhileReplacing = some c ∧
        Finished c ∧ c.shared.gauge ≠ c.shared.clients.length ∧
        ∃ o, c.shared.objects[0]? = some o ∧ c.shared.clients.get? o.key ≠ some 0 ∧
          o.closes = 2 := by
  refine ⟨⟨uncancelled_returns ?_, fun h => ?_⟩, uncancelled_returns ?_, _, rfl,
    by unfold Finished; decide, by decide, _, rfl, by decide, by decide⟩
  · simp [shutdownWhileConnecting, List.mem_replicate]
  · have := h.run rfl 0 2 _ _ restKey rfl rfl ⟨_, rfl⟩ ⟨_, rfl⟩
    cases this
  · simp [shutdownWhileReplacing, List.mem_replicate]

/-- A `close_all` after a `get_client` meets no lock in use. -/
theorem exclusive_where_idle_after :
    ∃ c, run (world plainRuntime) (start openSettings oneConnection [.getClient restKey, .closeAll])
        (returns 0 12 ++ returns 1 6) = some c ∧ ClosedOnce c.shared := by
  refine ⟨_, rfl, (exclusive_where_idle plainRuntime openSettings oneConnection
    [.getClient restKey, .closeAll] (returns 0 12 ++ returns 1 6) ?_).2 _ rfl
    (by unfold Finished; decide)⟩
  iterate 14
    rintro _ ⟨⟩
    refine ⟨⟨⟨Outcome.noConfusion, trivial⟩, trivial⟩, ?_⟩
  -- no call has obtained a lock
  rintro _ ⟨⟩
  refine ⟨⟨⟨Outcome.noConfusion, trivial⟩, fun key lock _ _ u hu => by cases hu⟩, ?_⟩
  rintro _ ⟨⟩
  refine ⟨⟨⟨Outcome.noConfusion, trivial⟩, trivial⟩, ?_⟩
  rintro _ ⟨⟩
  refine ⟨⟨⟨Outcome.noConfusion, fun e he => by cases he⟩, trivial⟩, ?_⟩
  rintro _ ⟨⟩
  exact ⟨⟨⟨Outcome.noConfusion, trivial⟩, trivial⟩, trivial⟩

end ClusterManager.Clients
