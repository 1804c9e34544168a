import ClusterManager.Ui.SharedFetch

/-!
# The list of connections

Every component that shows the connections has a `useConnections` of its own. Its effect fetches the
list through `createSharedFetch`, under a key that names the data revision, and every mutation made
in the tab bumps that revision. The `refetch` it hands out asks on its own, and nothing cancels it.

`shows_recent_iff` says along which runs no component is left with a list from before the last bump.
-/

namespace ClusterManager.Ui.UseConnections

open Machine
open SharedFetch (Request Shared getElem?_concat_eq_some getElem?_modify_eq_some step_read
  step_rejects step_resolves step_settled)

/-- The key of the shared fetch. -/
def revKey (rev : ℕ) : String := "rev:" ++ toString rev

/-- A run of the effect: the revision it ran for, the request whose promise it awaits, and whether
it has gone on from there. -/
structure Effect where
  rev : ℕ
  request : ℕ
  settled : Bool := false

/-- One `useConnections`: its state, and beside it what React keeps. An effect that is not the last
one is cancelled. -/
structure Hook (β ε : Type) where
  /-- The revision of the latest render. -/
  rev : ℕ
  data : Option β := none
  error : Option ε := none
  isLoading : Bool := true
  /-- `isMountedRef.current`. -/
  mounted : Bool := true
  effectsPending : Bool := true
  effect : Option Effect := none

/-- The `listConnections()` of a `refetch`: whose it is, and what the server read for it. -/
structure Refetch (β : Type) where
  hook : ℕ
  read : Option β := none

/-- A tab: the revision, the coalesced requests and those of `refetch`, and the hooks. Beside it the
list the server has, and those it has had since the last bump. -/
structure Tab (β ε : Type) where
  rev : ℕ := 0
  shared : Shared β ε
  refetches : List (Refetch β) := []
  hooks : List (Hook β ε) := []
  list : β
  since : List β

variable {β ε : Type}

namespace Hook

/-- The awaited promise resolves or rejects. -/
def delivered (h : Hook β ε) (effect : Effect) (outcome : Except ε β) : Hook β ε :=
  let h := { h with effect := some { effect with settled := true } }
  if h.mounted = false then h
  else
    match outcome with
    | .ok result => { h with data := some result, error := none, isLoading := false }
    | .error err => { h with error := some err, isLoading := false }

/-- The request of a `refetch` resolves. -/
def resolved (h : Hook β ε) (result : β) : Hook β ε :=
  if h.mounted then { h with data := some result, isLoading := false } else h

/-- The request of a `refetch` rejects. -/
def rejected (h : Hook β ε) (err : ε) : Hook β ε :=
  if h.mounted then { h with error := some err, isLoading := false } else h

end Hook

namespace Tab

/-- A tab without components yet. -/
def start (list : β) : Tab β ε where
  shared := .start fun _ => list
  list := list
  since := [list]

/-- The request whose promise `run` returns. -/
def promiseOf (t : Tab β ε) (key : String) : ℕ :=
  (t.shared.inFlight.get? key).getD t.shared.requests.length

/-- The effect of a hook runs, after the cleanup of the one that ran before. -/
def runEffect (t : Tab β ε) (i : ℕ) (h : Hook β ε) : Tab β ε :=
  { t with
    shared := (t.shared.run (revKey h.rev)).tick
    hooks := t.hooks.set i
      { h with
        effectsPending := false
        effect := some ⟨h.rev, t.promiseOf (revKey h.rev), false⟩ } }

end Tab

/-! ### Steps -/

/-- What can happen in the tab and on the server. -/
inductive Event (β ε : Type)
  | mount
  | unmount (i : ℕ)
  /-- A component renders with the latest revision. -/
  | render (i : ℕ)
  | effects (i : ℕ)
  /-- `bumpConnectionsRev`. -/
  | bump
  /-- A mutation on the server, from this tab or another client. -/
  | mutated (list : β)
  | fetch (e : SharedFetch.Event β ε)
  | delivered (i : ℕ)
  | refetch (i : ℕ)
  | refetchRead (j : ℕ)
  | refetchResolves (j : ℕ)
  | refetchRejects (j : ℕ) (err : ε)

/-- What becomes of a request that was started. -/
def isProgress : SharedFetch.Event β ε → Bool
  | .run _ | .reset | .mutated _ => false
  | .read _ | .resolves _ | .rejects _ _ | .settled _ => true

/-- One event. React runs the effects of a render before it renders again. -/
def step (t : Tab β ε) : Event β ε → Option (Tab β ε)
  | .mount => some { t with hooks := t.hooks ++ [{ rev := t.rev }] }
  | .unmount i => some { t with hooks := t.hooks.modify i fun h => { h with mounted := false } }
  | .render i =>
      match t.hooks[i]? with
      | none => none
      | some h =>
          if h.effectsPending ∨ h.rev = t.rev then none
          else
            some { t with hooks := t.hooks.set i { h with rev := t.rev, effectsPending := true } }
  | .effects i =>
      match t.hooks[i]? with
      | none => none
      | some h => if h.mounted ∧ h.effectsPending then some (t.runEffect i h) else none
  | .bump => some { t with rev := t.rev + 1, since := [t.list] }
  | .mutated list =>
      (SharedFetch.step t.shared (.mutated fun _ => list)).map fun shared =>
        { t with shared, list, since := t.since ++ [list] }
  | .fetch e =>
      if isProgress e then (SharedFetch.step t.shared e).map fun shared => { t with shared }
      else none
  | .delivered i =>
      match t.hooks[i]? with
      | some h =>
          match h.effect with
          | some ⟨rev, request, false⟩ =>
              match t.shared.requests[request]? with
              | some ⟨_, _, _, some outcome, true⟩ =>
                  some { t with hooks := t.hooks.set i (h.delivered ⟨rev, request, false⟩ outcome) }
              | _ => none
          | _ => none
      | none => none
  | .refetch i =>
      if i < t.hooks.length then
        some
          { t with
            hooks := t.hooks.modify i fun h => { h with isLoading := true, error := none }
            refetches := t.refetches ++ [⟨i, none⟩] }
      else none
  | .refetchRead j =>
      match t.refetches[j]? with
      | some ⟨i, none⟩ => some { t with refetches := t.refetches.set j ⟨i, some t.list⟩ }
      | _ => none
  | .refetchResolves j =>
      match t.refetches[j]? with
      | some ⟨i, some result⟩ =>
          some
            { t with
              hooks := t.hooks.modify i fun h => h.resolved result
              refetches := t.refetches.eraseIdx j }
      | _ => none
  | .refetchRejects j err =>
      match t.refetches[j]? with
      | some ⟨i, _⟩ =>
          some
            { t with
              hooks := t.hooks.modify i fun h => h.rejected err
              refetches := t.refetches.eraseIdx j }
      | none => none

/-! ### What is shown -/

/-- The effect of the revision has gone on from its promise, and no error is shown. -/
def Hook.Settled (h : Hook β ε) (rev : ℕ) : Prop :=
  h.mounted = true ∧ h.error = none ∧ ∃ request, h.effect = some ⟨rev, request, true⟩

/-- At rest, a hook shows a list that the server has had since the last bump. -/
def Hook.Recent (h : Hook β ε) (t : Tab β ε) : Prop :=
  h.Settled t.rev → h.isLoading = false → ∃ list ∈ t.since, h.data = some list

/-- So does every hook. -/
def Recent (t : Tab β ε) : Prop := ∀ h ∈ t.hooks, h.Recent t

/-- No `refetch` brings a list from before the last bump to a hook that has settled since. -/
def InTime (t : Tab β ε) : Event β ε → Prop
  | .refetchResolves j =>
      ∀ i result h, t.refetches[j]? = some ⟨i, some result⟩ → t.hooks[i]? = some h →
        h.Settled t.rev → result ∈ t.since
  | _ => True

/-! ### The invariant -/

/-- What is known of a request: its key names a revision, and under the key of the latest revision
the server reads what it has had since the bump. -/
structure Known (t : Tab β ε) (r : Request β ε) : Prop where
  key : ∃ rev ≤ t.rev, r.key = revKey rev
  read : r.key = revKey t.rev → ∀ readAt data, r.read = some (readAt, data) → data ∈ t.since
  outcome : ∀ data, r.outcome = some (.ok data) → ∃ readAt, r.read = some (readAt, data)

/-- A hook awaits a request of the revision its effect ran for. -/
structure Awaits (t : Tab β ε) (h : Hook β ε) : Prop where
  rev : h.rev ≤ t.rev
  effect : ∀ effect, h.effect = some effect → effect.rev ≤ t.rev ∧
    ∃ r, t.shared.requests[effect.request]? = some r ∧ r.key = revKey effect.rev

/-- The coalesced requests are in order, the server answers with its list, and every request and
every hook is as above. -/
structure Inv (t : Tab β ε) : Prop where
  shared : SharedFetch.Inv t.shared
  server : t.shared.server = fun _ => t.list
  list : t.list ∈ t.since
  known : ∀ (k : ℕ) (r : Request β ε), t.shared.requests[k]? = some r → Known t r
  awaits : ∀ h ∈ t.hooks, Awaits t h

variable {t t' : Tab β ε}

theorem revKey_inj {m n : ℕ} (h : revKey m = revKey n) : m = n := by
  have h := congrArg String.toList ((String.append_right_inj _).1 h)
  rw [Nat.toString_eq_repr, Nat.toString_eq_repr, Nat.toList_repr, Nat.toList_repr] at h
  rw [← Nat.ofDigitChars_ten_toDigits (n := m), h, Nat.ofDigitChars_ten_toDigits]

theorem mem_modify {h' : Hook β ε} {f : Hook β ε → Hook β ε} {hooks : List (Hook β ε)} {i : ℕ}
    (hmem : h' ∈ hooks.modify i f) : h' ∈ hooks ∨ ∃ h, hooks[i]? = some h ∧ h' = f h := by
  obtain ⟨k, hk⟩ := List.mem_iff_getElem?.1 hmem
  rw [List.getElem?_modify] at hk
  obtain ⟨h, hh, rfl⟩ := Option.map_eq_some_iff.1 hk
  by_cases hik : i = k
  · subst hik
    exact Or.inr ⟨h, hh, if_pos rfl⟩
  · rw [if_neg hik]
    exact Or.inl (List.mem_of_getElem? hh)

/-! ### Requests -/

/-- What becomes of a request changes that request alone: it keeps its key and what is known of it,
and the server stays as it is. -/
theorem exists_of_progress (hinv : Inv t) {e : SharedFetch.Event β ε} {shared : Shared β ε}
    (he : isProgress e = true) (hstep : SharedFetch.step t.shared e = some shared) :
    ∃ (i : ℕ) (f : Request β ε → Request β ε), shared.requests = t.shared.requests.modify i f ∧
      shared.server = t.shared.server ∧ (∀ r, (f r).key = r.key) ∧
        ∀ r, t.shared.requests[i]? = some r → Known t r → Known t (f r) := by
  cases e with
  | run key => cases he
  | reset => cases he
  | mutated server => cases he
  | read i =>
    obtain ⟨s, hs, houtcome, rfl⟩ := step_read hstep
    refine ⟨i, _, rfl, rfl, fun _ => rfl, fun r hr hknown => ?_⟩
    obtain rfl := Option.some.inj (hs.symm.trans hr)
    refine ⟨hknown.key, fun _ readAt data hread => ?_, fun data hdata => ?_⟩
    · -- the server reads the list it has
      obtain ⟨-, rfl⟩ := Prod.mk.inj (Option.some.inj hread)
      rw [hinv.server]
      exact hinv.list
    · rw [show s.outcome = some (.ok data) from hdata] at houtcome
      cases houtcome
  | resolves i =>
    obtain ⟨s, readAt, data, hs, hread, rfl⟩ := step_resolves hstep
    refine ⟨i, _, rfl, rfl, fun _ => rfl, fun r hr hknown => ?_⟩
    obtain rfl := Option.some.inj (hs.symm.trans hr)
    refine ⟨hknown.key, hknown.read, fun data' hdata => ?_⟩
    cases hdata
    exact ⟨readAt, hread⟩
  | rejects i err =>
    obtain rfl := step_rejects hstep
    refine ⟨i, _, rfl, rfl, fun _ => rfl, fun r _ hknown => ?_⟩
    exact ⟨hknown.key, hknown.read, fun _ hdata => by cases hdata⟩
  | settled i =>
    obtain ⟨s, -, rfl⟩ := step_settled hstep
    exact ⟨i, _, rfl, rfl, fun _ => rfl, fun r _ hknown =>
      ⟨hknown.key, hknown.read, hknown.outcome⟩⟩

/-! ### Hooks -/

/-- The requests that are awaited are still there. -/
theorem Awaits.mono {h : Hook β ε} (ha : Awaits t h) (hrev : t.rev ≤ t'.rev)
    (hrequests : ∀ (k : ℕ) (r : Request β ε), t.shared.requests[k]? = some r →
      ∃ r' : Request β ε, t'.shared.requests[k]? = some r' ∧ r'.key = r.key) : Awaits t' h := by
  refine ⟨Nat.le_trans ha.rev hrev, fun effect heffect => ?_⟩
  obtain ⟨hle, r, hr, hkey⟩ := ha.effect effect heffect
  obtain ⟨r', hr', hkey'⟩ := hrequests effect.request r hr
  exact ⟨Nat.le_trans hle hrev, r', hr', hkey'.trans hkey⟩

/-- A hook with the same revision and the same effect awaits the same. -/
theorem Awaits.congr {h h' : Hook β ε} (ha : Awaits t h) (hrev : h'.rev = h.rev)
    (heffect : h'.effect = h.effect) : Awaits t h' := by
  refine ⟨hrev ▸ ha.rev, fun effect he => ?_⟩
  rw [heffect] at he
  exact ha.effect effect he

theorem resolved_eq (h : Hook β ε) (result : β) :
    (h.resolved result).rev = h.rev ∧ (h.resolved result).effect = h.effect := by
  unfold Hook.resolved
  split <;> exact ⟨rfl, rfl⟩

theorem rejected_eq (h : Hook β ε) (err : ε) :
    (h.rejected err).rev = h.rev ∧ (h.rejected err).effect = h.effect := by
  unfold Hook.rejected
  split <;> exact ⟨rfl, rfl⟩

theorem delivered_eq (h : Hook β ε) (effect : Effect) (outcome : Except ε β) :
    (h.delivered effect outcome).rev = h.rev ∧
      (h.delivered effect outcome).effect = some { effect with settled := true } := by
  unfold Hook.delivered
  dsimp only
  split
  · exact ⟨rfl, rfl⟩
  · cases outcome <;> exact ⟨rfl, rfl⟩

/-- A change of the hooks alone. -/
theorem inv_hooks (hinv : Inv t) (hrev : t'.rev = t.rev) (hshared : t'.shared = t.shared)
    (hlist : t'.list = t.list) (hsince : t'.since = t.since)
    (hhooks : ∀ h ∈ t'.hooks, h ∈ t.hooks ∨ Awaits t h) : Inv t' := by
  have hknown : ∀ {r}, Known t r → Known t' r := fun h =>
    ⟨hrev ▸ h.key, by rw [hrev, hsince]; exact h.read, h.outcome⟩
  refine ⟨hshared ▸ hinv.shared, by rw [hshared, hlist]; exact hinv.server,
    by rw [hlist, hsince]; exact hinv.list, fun k r hr => ?_, fun h hmem => ?_⟩
  · rw [hshared] at hr
    exact hknown (hinv.known k r hr)
  · have ha : Awaits t h := (hhooks h hmem).elim (hinv.awaits h) id
    exact ha.mono (Nat.le_of_eq hrev.symm) fun k r hr => ⟨r, hshared ▸ hr, rfl⟩

/-- The effect of a hook starts a request or joins the one of its revision. -/
theorem inv_runEffect (hinv : Inv t) {i : ℕ} {h : Hook β ε} (hh : t.hooks[i]? = some h) :
    Inv (t.runEffect i h) := by
  have hrev : h.rev ≤ t.rev := (hinv.awaits h (List.mem_of_getElem? hh)).rev
  have hnew : Known t { key := revKey h.rev, epoch := t.shared.epoch } :=
    ⟨⟨h.rev, hrev, rfl⟩, fun _ _ _ hread => (by cases hread), fun _ hdata => (by cases hdata)⟩
  -- the requests that were there stay, and the promise is one of them or the new one
  have hkept : ∀ (k : ℕ) (r : Request β ε), t.shared.requests[k]? = some r →
      ∃ r' : Request β ε, (t.shared.run (revKey h.rev)).tick.requests[k]? = some r' ∧
        r'.key = r.key := by
    intro k r hr
    unfold Shared.run
    split
    · exact ⟨r, hr, rfl⟩
    · exact ⟨r, List.getElem?_append_left (List.getElem?_eq_some_iff.1 hr).1 ▸ hr, rfl⟩
  have hpromise : ∃ r : Request β ε,
      (t.shared.run (revKey h.rev)).tick.requests[t.promiseOf (revKey h.rev)]? = some r ∧
        r.key = revKey h.rev := by
    unfold Tab.promiseOf Shared.run
    split
    next existing hentry =>
      obtain ⟨r, hr, hkey⟩ := hinv.shared.entries _ _ hentry
      rw [hentry]
      exact ⟨r, hr.1, hkey⟩
    next hnone =>
      rw [hnone]
      exact ⟨_, List.getElem?_concat_length, rfl⟩
  refine ⟨SharedFetch.inv_run _ hinv.shared, ?_, hinv.list, fun k r hr => ?_, fun h' hmem => ?_⟩
  · show (t.shared.run (revKey h.rev)).server = fun _ => t.list
    unfold Shared.run
    split <;> exact hinv.server
  · have hr : (t.shared.run (revKey h.rev)).requests[k]? = some r := hr
    unfold Shared.run at hr
    split at hr
    · exact ⟨(hinv.known k r hr).key, (hinv.known k r hr).read, (hinv.known k r hr).outcome⟩
    · rcases getElem?_concat_eq_some hr with hr | ⟨-, rfl⟩
      · exact ⟨(hinv.known k r hr).key, (hinv.known k r hr).read, (hinv.known k r hr).outcome⟩
      · exact ⟨hnew.key, hnew.read, hnew.outcome⟩
  · rcases List.mem_or_eq_of_mem_set hmem with hmem | rfl
    · exact (hinv.awaits h' hmem).mono (Nat.le_refl _) hkept
    · refine ⟨hrev, fun effect heffect => ?_⟩
      obtain rfl := Option.some.inj heffect
      exact ⟨hrev, hpromise⟩

/-! ### Steps -/

theorem step_delivered {i : ℕ} (hs : step t (.delivered i) = some t') :
    ∃ h rev request r outcome, t.hooks[i]? = some h ∧ h.effect = some ⟨rev, request, false⟩ ∧
      t.shared.requests[request]? = some r ∧ r.outcome = some outcome ∧
      t' = { t with hooks := t.hooks.set i (h.delivered ⟨rev, request, false⟩ outcome) } := by
  simp only [step] at hs
  split at hs
  next h hh =>
    split at hs
    next rev request heffect =>
      split at hs
      next hr =>
        cases hs
        exact ⟨h, rev, request, _, _, hh, heffect, hr, rfl, rfl⟩
      next => cases hs
    next => cases hs
  next => cases hs

theorem step_refetchResolves {j : ℕ} (hs : step t (.refetchResolves j) = some t') :
    ∃ i result, t.refetches[j]? = some ⟨i, some result⟩ ∧
      t' = { t with
        hooks := t.hooks.modify i fun h => h.resolved result
        refetches := t.refetches.eraseIdx j } := by
  simp only [step] at hs
  split at hs
  next i result hr =>
    cases hs
    exact ⟨i, result, hr, rfl⟩
  next => cases hs

theorem step_refetchRejects {j : ℕ} {err : ε} (hs : step t (.refetchRejects j err) = some t') :
    ∃ i, t' = { t with
        hooks := t.hooks.modify i fun h => h.rejected err
        refetches := t.refetches.eraseIdx j } := by
  simp only [step] at hs
  split at hs
  next i _ hr =>
    cases hs
    exact ⟨i, rfl⟩
  next => cases hs

theorem step_render {i : ℕ} (hs : step t (.render i) = some t') :
    ∃ h, t.hooks[i]? = some h ∧
      t' = { t with hooks := t.hooks.set i { h with rev := t.rev, effectsPending := true } } := by
  simp only [step] at hs
  split at hs
  next => cases hs
  next h hh =>
    split at hs
    · cases hs
    · cases hs
      exact ⟨h, hh, rfl⟩

theorem step_effects {i : ℕ} (hs : step t (.effects i) = some t') :
    ∃ h, t.hooks[i]? = some h ∧ t' = t.runEffect i h := by
  simp only [step] at hs
  split at hs
  next => cases hs
  next h hh =>
    split at hs
    · cases hs
      exact ⟨h, hh, rfl⟩
    · cases hs

theorem step_fetch {e : SharedFetch.Event β ε} (hs : step t (.fetch e) = some t') :
    isProgress e = true ∧
      ∃ shared, SharedFetch.step t.shared e = some shared ∧ t' = { t with shared } := by
  simp only [step] at hs
  split at hs
  next he =>
    obtain ⟨shared, hstep, rfl⟩ := Option.map_eq_some_iff.1 hs
    exact ⟨he, shared, hstep, rfl⟩
  next => cases hs

theorem step_refetch {i : ℕ} (hs : step t (.refetch i) = some t') :
    t' = { t with
      hooks := t.hooks.modify i fun h => { h with isLoading := true, error := none }
      refetches := t.refetches ++ [⟨i, none⟩] } := by
  simp only [step] at hs
  split at hs
  · exact (Option.some.inj hs).symm
  · cases hs

theorem step_refetchRead {j : ℕ} (hs : step t (.refetchRead j) = some t') :
    ∃ refetches, t' = { t with refetches } := by
  simp only [step] at hs
  split at hs
  · exact ⟨_, (Option.some.inj hs).symm⟩
  · cases hs

/-- Every event keeps the invariant. -/
theorem inv_step (e : Event β ε) (hinv : Inv t) (hs : step t e = some t') : Inv t' := by
  -- what is awaited hangs on the revision and the effect of a hook only
  have hmodify : ∀ {i : ℕ} {f : Hook β ε → Hook β ε},
      (∀ h, (f h).rev = h.rev ∧ (f h).effect = h.effect) →
      ∀ h' ∈ t.hooks.modify i f, h' ∈ t.hooks ∨ Awaits t h' := by
    intro i f hf h' hmem
    rcases mem_modify hmem with hmem | ⟨h, hh, rfl⟩
    · exact Or.inl hmem
    · exact Or.inr ((hinv.awaits h (List.mem_of_getElem? hh)).congr (hf h).1 (hf h).2)
  cases e with
  | mount =>
    cases hs
    refine inv_hooks hinv rfl rfl rfl rfl fun h hmem => ?_
    rcases List.mem_append.1 hmem with hmem | hmem
    · exact Or.inl hmem
    · obtain rfl := List.mem_singleton.1 hmem
      exact Or.inr ⟨Nat.le_refl _, fun _ heffect => by cases heffect⟩
  | unmount i =>
    cases hs
    exact inv_hooks hinv rfl rfl rfl rfl (hmodify fun _ => ⟨rfl, rfl⟩)
  | render i =>
    obtain ⟨h, hh, rfl⟩ := step_render hs
    refine inv_hooks hinv rfl rfl rfl rfl fun h' hmem => ?_
    rcases List.mem_or_eq_of_mem_set hmem with hmem | rfl
    · exact Or.inl hmem
    · exact Or.inr ⟨Nat.le_refl _, (hinv.awaits h (List.mem_of_getElem? hh)).effect⟩
  | effects i =>
    obtain ⟨h, hh, rfl⟩ := step_effects hs
    exact inv_runEffect hinv hh
  | bump =>
    cases hs
    refine ⟨hinv.shared, hinv.server, List.mem_singleton.2 rfl, fun k r hr => ?_, fun h hmem => ?_⟩
    · obtain ⟨⟨rev, hrev, hkey⟩, -, houtcome⟩ := hinv.known k r hr
      refine ⟨⟨rev, Nat.le_succ_of_le hrev, hkey⟩, fun hnew => ?_, houtcome⟩
      -- no request has the key of the new revision yet
      have hrev' : rev = t.rev + 1 := revKey_inj (hkey.symm.trans hnew)
      omega
    · exact (hinv.awaits h hmem).mono (Nat.le_succ _) fun k r hr => ⟨r, hr, rfl⟩
  | mutated list =>
    simp only [step] at hs
    obtain ⟨shared, hstep, rfl⟩ := Option.map_eq_some_iff.1 hs
    have hshared := SharedFetch.inv_step _ hinv.shared hstep
    obtain rfl := Option.some.inj hstep
    refine ⟨hshared, rfl, List.mem_append_right _ (List.mem_singleton.2 rfl), fun k r hr => ?_,
      fun h hmem => ?_⟩
    · obtain ⟨hkey, hread, houtcome⟩ := hinv.known k r hr
      exact ⟨hkey, fun hrkey readAt data h => List.mem_append_left _ (hread hrkey readAt data h),
        houtcome⟩
    · exact (hinv.awaits h hmem).mono (Nat.le_refl _) fun k r hr => ⟨r, hr, rfl⟩
  | fetch e =>
    obtain ⟨he, shared, hstep, rfl⟩ := step_fetch hs
    -- an answer changes one request, and not its key
    obtain ⟨i, f, hrequests, hserver, hkey, hf⟩ := exists_of_progress hinv he hstep
    refine ⟨SharedFetch.inv_step e hinv.shared hstep, hserver.trans hinv.server, hinv.list,
      fun k r' hr' => ?_, fun h hmem => (hinv.awaits h hmem).mono (Nat.le_refl _) fun k r hr => ?_⟩
    · rw [hrequests] at hr'
      obtain ⟨r, hr, rfl⟩ := getElem?_modify_eq_some hr'
      have hknown : Known t (if i = k then f r else r) := by
        split
        · rename_i hik
          exact hf r (hik ▸ hr) (hinv.known k r hr)
        · exact hinv.known k r hr
      exact ⟨hknown.key, hknown.read, hknown.outcome⟩
    · -- the request that is awaited keeps its key
      refine ⟨if i = k then f r else r, ?_, ?_⟩
      · rw [hrequests, List.getElem?_modify, hr]
        split <;> rfl
      · split
        · exact hkey r
        · rfl
  | delivered i =>
    obtain ⟨h, rev, request, r, outcome, hh, heffect, hr, -, rfl⟩ := step_delivered hs
    refine inv_hooks hinv rfl rfl rfl rfl fun h' hmem => ?_
    rcases List.mem_or_eq_of_mem_set hmem with hmem | rfl
    · exact Or.inl hmem
    · have ha := hinv.awaits h (List.mem_of_getElem? hh)
      obtain ⟨hrev', heffect'⟩ := delivered_eq h ⟨rev, request, false⟩ outcome
      refine Or.inr ⟨hrev' ▸ ha.rev, fun effect he => ?_⟩
      rw [heffect'] at he
      obtain rfl := Option.some.inj he
      exact ha.effect ⟨rev, request, false⟩ heffect
  | refetch i =>
    obtain rfl := step_refetch hs
    exact inv_hooks hinv rfl rfl rfl rfl (hmodify fun _ => ⟨rfl, rfl⟩)
  | refetchRead j =>
    obtain ⟨refetches, rfl⟩ := step_refetchRead hs
    exact inv_hooks hinv rfl rfl rfl rfl fun h hmem => Or.inl hmem
  | refetchResolves j =>
    obtain ⟨i, result, -, rfl⟩ := step_refetchResolves hs
    exact inv_hooks hinv rfl rfl rfl rfl (hmodify fun h => resolved_eq h result)
  | refetchRejects j err =>
    obtain ⟨i, rfl⟩ := step_refetchRejects hs
    exact inv_hooks hinv rfl rfl rfl rfl (hmodify fun h => rejected_eq h err)

theorem inv_start (list : β) : Inv (.start list : Tab β ε) := by
  refine ⟨SharedFetch.inv_start _, rfl, List.mem_singleton.2 rfl, fun k r hr => ?_,
    fun h hmem => ?_⟩
  · cases hr
  · cases hmem

/-! ### What is shown, step by step -/

/-- What the awaited promise brings is recent, if it is that of the latest revision. -/
theorem recent_delivered (hinv : Inv t) {h : Hook β ε} {rev request : ℕ} {r : Request β ε}
    {outcome : Except ε β} (ha : Awaits t h) (heffect : h.effect = some ⟨rev, request, false⟩)
    (hr : t.shared.requests[request]? = some r) (houtcome : r.outcome = some outcome) :
    (h.delivered ⟨rev, request, false⟩ outcome).Recent t := by
  unfold Hook.delivered
  dsimp only
  split
  next hmounted =>
    rintro ⟨hmounted', -⟩
    rw [show h.mounted = true from hmounted'] at hmounted
    cases hmounted
  next =>
    cases outcome with
    | error err =>
      rintro ⟨-, herror, -⟩
      cases herror
    | ok result =>
      rintro ⟨-, -, request', hsettled⟩ -
      obtain ⟨rfl, -⟩ := Effect.mk.inj (Option.some.inj hsettled)
      obtain ⟨-, r', hr', hkey⟩ := ha.effect _ heffect
      obtain rfl := Option.some.inj (hr.symm.trans hr')
      have hknown := hinv.known request r hr
      obtain ⟨readAt, hread⟩ := hknown.outcome result houtcome
      exact ⟨result, hknown.read hkey readAt result hread, rfl⟩

/-- A refetch that fails leaves an error. -/
theorem recent_rejected {h : Hook β ε} {err : ε} (hrecent : h.Recent t) :
    (h.rejected err).Recent t := by
  unfold Hook.rejected
  split
  · rintro ⟨-, herror, -⟩
    cases herror
  · exact hrecent

/-- A refetch brings what is recent, exactly if it is in time. -/
theorem recent_resolved {h : Hook β ε} {result : β} (hrecent : h.Recent t) :
    (h.resolved result).Recent t ↔ (h.Settled t.rev → result ∈ t.since) := by
  unfold Hook.resolved
  split
  next =>
    constructor
    · intro hnew hsettled
      obtain ⟨list, hlist, hdata⟩ := hnew hsettled rfl
      rwa [Option.some.inj hdata]
    · exact fun hin hsettled _ => ⟨result, hin hsettled, rfl⟩
  next hmounted => exact iff_of_true hrecent fun hsettled => absurd hsettled.1 hmounted

/-- After a change of one hook, that hook decides. -/
theorem recent_modify {i : ℕ} {f : Hook β ε → Hook β ε} {refetches : List (Refetch β)}
    (hrecent : Recent t) : Recent { t with hooks := t.hooks.modify i f, refetches } ↔
      ∀ h, t.hooks[i]? = some h → (f h).Recent t := by
  constructor
  · intro hnew h hh
    refine hnew (f h) (List.mem_iff_getElem?.2 ⟨i, ?_⟩)
    show (t.hooks.modify i f)[i]? = some (f h)
    rw [List.getElem?_modify, hh]
    simp
  · intro hf h' hmem
    rcases mem_modify hmem with hmem | ⟨h, hh, rfl⟩
    · exact hrecent h' hmem
    · exact hf h hh

/-- After a change of one hook for which it is clear. -/
theorem recent_set {i : ℕ} {h' : Hook β ε} (hhooks : t'.hooks = t.hooks.set i h')
    (hrev : t'.rev = t.rev) (hsince : t'.since = t.since) (hrecent : Recent t)
    (hnew : h'.Recent t) : Recent t' := by
  intro h hmem hsettled hrest
  rw [hhooks] at hmem
  rw [hrev] at hsettled
  rw [hsince]
  rcases List.mem_or_eq_of_mem_set hmem with hmem | rfl
  · exact hrecent h hmem hsettled hrest
  · exact hnew hsettled hrest

/-- An event keeps every hook recent, exactly if it is in time. -/
theorem recent_step_iff (e : Event β ε) (hinv : Inv t) (hrecent : Recent t)
    (hs : step t e = some t') : Recent t' ↔ InTime t e := by
  cases e with
  | mount =>
    cases hs
    refine iff_of_true (fun h hmem => ?_) trivial
    rcases List.mem_append.1 hmem with hmem | hmem
    · exact hrecent h hmem
    · obtain rfl := List.mem_singleton.1 hmem
      rintro ⟨-, -, request, heffect⟩
      cases heffect
  | unmount i =>
    cases hs
    refine iff_of_true ((recent_modify hrecent).2 fun h _ => ?_) trivial
    rintro ⟨hmounted, -⟩
    cases hmounted
  | render i =>
    obtain ⟨h, hh, rfl⟩ := step_render hs
    exact iff_of_true
      (recent_set rfl rfl rfl hrecent (hrecent h (List.mem_of_getElem? hh))) trivial
  | effects i =>
    obtain ⟨h, hh, rfl⟩ := step_effects hs
    refine iff_of_true (recent_set rfl rfl rfl hrecent ?_) trivial
    -- the new effect has not gone on yet
    rintro ⟨-, -, request, heffect⟩
    exact absurd (congrArg Effect.settled (Option.some.inj heffect)) Bool.false_ne_true
  | bump =>
    cases hs
    refine iff_of_true (fun h hmem => ?_) trivial
    rintro ⟨-, -, request, heffect⟩
    have hle := ((hinv.awaits h hmem).effect _ heffect).1
    exact absurd hle (Nat.not_succ_le_self _)
  | mutated list =>
    simp only [step] at hs
    obtain ⟨shared, -, rfl⟩ := Option.map_eq_some_iff.1 hs
    refine iff_of_true (fun h hmem hsettled hrest => ?_) trivial
    obtain ⟨shown, hshown, hdata⟩ := hrecent h hmem hsettled hrest
    exact ⟨shown, List.mem_append_left _ hshown, hdata⟩
  | fetch e =>
    obtain ⟨-, shared, -, rfl⟩ := step_fetch hs
    exact iff_of_true hrecent trivial
  | delivered i =>
    obtain ⟨h, rev, request, r, outcome, hh, heffect, hr, houtcome, rfl⟩ := step_delivered hs
    have ha := hinv.awaits h (List.mem_of_getElem? hh)
    exact iff_of_true
      (recent_set rfl rfl rfl hrecent (recent_delivered hinv ha heffect hr houtcome)) trivial
  | refetch i =>
    obtain rfl := step_refetch hs
    refine iff_of_true ((recent_modify hrecent).2 fun h _ _ hrest => ?_) trivial
    cases hrest
  | refetchRead j =>
    obtain ⟨refetches, rfl⟩ := step_refetchRead hs
    exact iff_of_true hrecent trivial
  | refetchResolves j =>
    obtain ⟨i, result, hj, rfl⟩ := step_refetchResolves hs
    rw [recent_modify hrecent]
    constructor
    · intro hnew i' result' h hj' hh
      obtain ⟨rfl, hresult⟩ := Refetch.mk.inj (Option.some.inj (hj.symm.trans hj'))
      obtain rfl := Option.some.inj hresult
      exact (recent_resolved (hrecent h (List.mem_of_getElem? hh))).1 (hnew h hh)
    · intro hin h hh
      exact (recent_resolved (hrecent h (List.mem_of_getElem? hh))).2 (hin i result h hj hh)
  | refetchRejects j err =>
    obtain ⟨i, rfl⟩ := step_refetchRejects hs
    refine iff_of_true ((recent_modify hrecent).2 fun h hh => ?_) trivial
    exact recent_rejected (hrecent h (List.mem_of_getElem? hh))

/-- Whatever components are mounted, however mutations, renders, requests and answers are
interleaved: no component at rest shows a list from before the last bump, exactly if no `refetch`
that the server answered before the bump comes in after the component has settled again. -/
theorem shows_recent_iff (list : β) (es : List (Event β ε)) :
    Always step Recent (.start list) es ↔ Guarded step InTime (.start list) es :=
  always_iff_guarded (fun _ e _ hinv hs => inv_step e hinv hs)
    (fun _ e _ hinv hrecent hs => recent_step_iff e hinv hrecent hs) (inv_start list)
    fun _ hmem => absurd hmem List.not_mem_nil

end ClusterManager.Ui.UseConnections
