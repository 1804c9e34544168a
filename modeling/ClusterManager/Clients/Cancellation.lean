import ClusterManager.Clients.Ownership

/-!
# Cancelled calls

What is left when every `get_client` and `close_client` has ended, any of them possibly cancelled.
`none_leaked` says when nothing is leaked: when no call was cancelled while it would let go of a
client. `replacement_leaks` and `eviction_miscounts` are runs in which one was.
-/

namespace ClusterManager.Clients

open Db Interleaving

/-- Every client that was constructed is cached or had `close()` called on it, and the gauge is the
number of cached clients. -/
def NoneLeaked (s : Pool) : Prop :=
  (∀ client o, s.objects[client]? = some o →
    s.clients.get? o.key = some client ∨ 0 < o.closes) ∧
    s.gauge = s.clients.length

/-- **Nothing is leaked where no call is cut short.** When all `get_client` and `close_client` calls
of a run have ended, none of them cancelled at the close of a client it replaced or evicted, or at
the invalidation in between, every client constructed is cached or closed and the gauge is right. -/
theorem none_leaked (rt : Runtime) (settings : Settings) (tables : Tables) (calls : List Call)
    (hcalls : ∀ call ∈ calls, call.evictsInBulk = false) (es : List (Event Outcome Tables))
    (hG : Guarded (world rt) NotCutShort (start settings tables calls) es)
    (c : Config PoolOp PoolOp.Resp Exc (Option ℕ) Pool)
    (hrun : run (world rt) (start settings tables calls) es = some c) (hfinished : Finished c) :
    NoneLeaked c.shared := by
  have hkept : Kept False c :=
    (owned_always (fun call hcall h => by simp [hcalls call hcall] at h)
      (hG.imp fun i r x past s h => ⟨h, False.elim⟩)).run hrun
  obtain ⟨hclients, hgauge⟩ := hkept.2.settled (hkept.empty_hands hfinished)
  refine ⟨fun client o ho => ?_, hgauge⟩
  rcases hclients client o ho with ⟨hcached, -⟩ | ⟨-, hcloses⟩
  · exact Or.inl hcached
  · exact Or.inr (by omega)

/-! ### Calls that are cut short -/

/-- The second `get_client` finds the client of the first one stale, connects another and is
cancelled while it closes the stale one: the other is neither cached nor closed. -/
theorem replacement_leaks :
    ∃ c, run (world plainRuntime)
        (start openSettings oneConnection [.getClient restKey, .getClient restKey])
        (returns 0 12 ++ returns 1 10 ++ [.task 1 (.raises .cancelled)] ++ returns 1 1) = some c ∧
      Finished c ∧ ¬ NoneLeaked c.shared := by
  refine ⟨_, rfl, by unfold Finished; decide, fun h => ?_⟩
  exact absurd (h.1 1 _ rfl) (by decide)

/-- The `close_client` is cancelled while it closes the client: the gauge still counts it. -/
theorem eviction_miscounts :
    ∃ c, run (world plainRuntime)
        (start openSettings oneConnection [.getClient restKey, .closeClient restKey])
        (returns 0 12 ++ returns 1 6 ++ [.task 1 (.raises .cancelled)] ++ returns 1 1) = some c ∧
      Finished c ∧ ¬ NoneLeaked c.shared := by
  refine ⟨_, rfl, by unfold Finished; decide, fun h => ?_⟩
  exact absurd h.2 (by decide)

/-- A `get_client` that is cancelled while it connects closes what it constructed. -/
theorem none_leaked_connect :
    ∃ c, run (world plainRuntime) (start openSettings oneConnection [.getClient restKey])
        (returns 0 7 ++ [.task 0 (.raises .cancelled)] ++ returns 0 2) = some c ∧
      NoneLeaked c.shared := by
  refine ⟨_, rfl, none_leaked plainRuntime openSettings oneConnection [.getClient restKey]
    (by simp [Call.evictsInBulk])
    (returns 0 7 ++ [.task 0 (.raises .cancelled)] ++ returns 0 2) ?_ _ rfl
    (by unfold Finished; decide)⟩
  iterate 10
    rintro _ ⟨⟩
    refine ⟨trivial, ?_⟩
  trivial

end ClusterManager.Clients
