import Mathlib.Data.Int.Notation
import Mathlib.Data.Nat.Notation
import Mathlib.Logic.Function.Basic
import ClusterManager.Lib.Machine

/-!
# The cluster page's data

`useCluster` reads a cluster from three places: an effect when `connId` changes, a timer, and the
`refetch` it hands out. A `Hook` that stays mounted is its state together with what the browser
keeps for it: the effects that are still to run, the timer, and the requests without an answer.
Requests are answered in any order.

`shows_current_iff` says along which runs what is shown always comes from the cluster of the page:
an effect drops the answers that come after the switch, the timer and `refetch` do not.
-/

namespace ClusterManager.Ui.UseCluster

open Machine

/-- `CLUSTER_POLL_INTERVAL_MS`. -/
def clusterPollIntervalMs : ℤ := 5000

/-- Who asked, and for an effect or its timer the number of the effect. -/
inductive Kind
  | load (effect : ℕ)
  | poll (effect : ℕ)
  | refetch

/-- `getCluster(connId)` without an answer yet. -/
structure Request where
  connId : String
  kind : Kind

/-- A value and the cluster whose answer it came with. -/
structure Sourced (β : Type) where
  value : β
  connId : String

/-- The hook: its arguments and its state, and beside them what React and the browser keep. Each run
of the effects has its own `cancelled` and its own `inFlight`. -/
structure Hook (ι ε : Type) where
  pollIntervalMs : ℤ
  connId : Option String
  data : Option (Sourced ι) := none
  error : Option ε := none
  isLoading : Bool
  lastUpdatedAt : Option (Sourced ℕ) := none
  /-- The effects of the latest `connId` are still to run. -/
  effectsPending : Bool := true
  /-- How often the effects ran, and the `connId` of the last time. -/
  effect : ℕ := 0
  effectConnId : Option String := none
  cancelled : ℕ → Bool := fun _ => false
  inFlight : ℕ → Bool := fun _ => false
  /-- `document.hidden`. -/
  hidden : Bool
  requests : List Request := []

/-- A `connId` that passes `if (!connId) return`. -/
def given (connId : Option String) : Option String := connId.filter (· ≠ "")

namespace Hook

variable {ι ε : Type}

/-- The first render. -/
def mount (connId : Option String) (pollIntervalMs : ℤ) (hidden : Bool) : Hook ι ε where
  pollIntervalMs := pollIntervalMs
  connId := connId
  isLoading := (given connId).isSome
  hidden := hidden

/-- `getCluster` is called. -/
def getCluster (h : Hook ι ε) (connId : String) (kind : Kind) : Hook ι ε :=
  { h with requests := h.requests ++ [⟨connId, kind⟩] }

/-- `refetch`. -/
def refetch (h : Hook ι ε) : Hook ι ε :=
  match given h.connId with
  | none => h
  | some connId => { h with isLoading := true, error := none }.getCluster connId .refetch

/-! ### Effects -/

/-- What the load effect that ran last returned, if it returned anything. -/
def cleanup (h : Hook ι ε) : Hook ι ε :=
  match given h.effectConnId with
  | none => h
  | some _ => { h with cancelled := Function.update h.cancelled h.effect true }

/-- The load effect. -/
def loadEffect (h : Hook ι ε) : Hook ι ε :=
  match given h.connId with
  | none => { h with data := none, error := none, isLoading := false, lastUpdatedAt := none }
  | some connId =>
      { h with
        cancelled := Function.update h.cancelled h.effect false
        data := none
        error := none
        isLoading := true
        lastUpdatedAt := none }.getCluster connId (.load h.effect)

/-- The poll effect. Its timer and its listener are those of the effects that ran last. -/
def pollEffect (h : Hook ι ε) : Hook ι ε :=
  { h with inFlight := Function.update h.inFlight h.effect false }

/-- The effects run, after the cleanup of those that ran before. -/
def runEffects (h : Hook ι ε) : Hook ι ε :=
  let h := h.cleanup
  { h with
    effectsPending := false
    effect := h.effect + 1
    effectConnId := h.connId }.loadEffect.pollEffect

/-! ### Polling -/

/-- The `connId` that the timer and the listener ask for, if there are any. -/
def polling (h : Hook ι ε) : Option String :=
  if h.pollIntervalMs ≤ 0 then none else given h.effectConnId

/-- `tick`. -/
def tick (h : Hook ι ε) (connId : String) : Hook ι ε :=
  if h.inFlight h.effect then h
  else if h.hidden then h
  else { h with inFlight := Function.update h.inFlight h.effect true }.getCluster connId
    (.poll h.effect)

/-- `onVisible`. -/
def onVisible (h : Hook ι ε) (connId : String) : Hook ι ε :=
  if h.hidden then h else h.tick connId

/-! ### Answers -/

/-- `getCluster` resolves. -/
def resolved (h : Hook ι ε) (r : Request) (result : ι) (now : ℕ) : Hook ι ε :=
  match r.kind with
  | .load effect =>
      if h.cancelled effect then h
      else { h with
        data := some ⟨result, r.connId⟩
        error := none
        lastUpdatedAt := some ⟨now, r.connId⟩
        isLoading := false }
  -- Only `isMountedRef` is looked at here and below, and a switch does not change it.
  | .poll effect =>
      { h with
        data := some ⟨result, r.connId⟩
        lastUpdatedAt := some ⟨now, r.connId⟩
        inFlight := Function.update h.inFlight effect false }
  | .refetch =>
      { h with
        data := some ⟨result, r.connId⟩
        lastUpdatedAt := some ⟨now, r.connId⟩
        isLoading := false }

/-- `getCluster` rejects. -/
def rejected (h : Hook ι ε) (r : Request) (err : ε) : Hook ι ε :=
  match r.kind with
  | .load effect => if h.cancelled effect then h else { h with error := some err, isLoading := false }
  | .poll effect => { h with inFlight := Function.update h.inFlight effect false }
  | .refetch => { h with error := some err, isLoading := false }

/-- A request has its answer. -/
def answered (h : Hook ι ε) (i : ℕ) : Hook ι ε := { h with requests := h.requests.eraseIdx i }

end Hook

/-! ### Steps -/

/-- What can happen while the hook stays mounted. -/
inductive Event (ι ε : Type)
  /-- A render with another `connId`. -/
  | switch (connId : Option String)
  | effects
  | tick
  | visibilityChange (hidden : Bool)
  | refetch
  | succeeds (i : ℕ) (result : ι) (now : ℕ)
  | fails (i : ℕ) (err : ε)

variable {ι ε : Type}

/-- One event. React runs the effects of a render before it renders again. -/
def step (h : Hook ι ε) : Event ι ε → Option (Hook ι ε)
  | .switch connId =>
      if h.effectsPending ∨ h.connId = connId then none
      else some { h with connId := connId, effectsPending := true }
  | .effects => if h.effectsPending then some h.runEffects else none
  | .tick => h.polling.map h.tick
  | .visibilityChange hidden =>
      match h.polling with
      | none => some { h with hidden := hidden }
      | some connId => some ({ h with hidden := hidden }.onVisible connId)
  | .refetch => some h.refetch
  | .succeeds i result now => h.requests[i]?.map fun r => (h.answered i).resolved r result now
  | .fails i err => h.requests[i]?.map fun r => (h.answered i).rejected r err

/-! ### What is shown -/

/-- Once the effects ran, what is shown comes from the current cluster. -/
structure Shown (h : Hook ι ε) : Prop where
  data : h.effectsPending = false → ∀ d ∈ h.data, h.connId = some d.connId
  lastUpdatedAt : h.effectsPending = false → ∀ t ∈ h.lastUpdatedAt, h.connId = some t.connId

/-- The answer to a poll or a `refetch` comes before the effects of a switch ran, or it is from the
current cluster. -/
def Current (h : Hook ι ε) : Event ι ε → Prop
  | .succeeds i _ _ => ∀ r, h.requests[i]? = some r → (∀ effect, r.kind ≠ .load effect) →
      h.effectsPending = true ∨ h.connId = some r.connId
  | _ => True

/-- What is known of the requests of the load effects: one that is not cancelled is of the effects
that ran last, for their `connId`. -/
structure Inv (h : Hook ι ε) : Prop where
  current : h.effectsPending = false → h.effectConnId = h.connId
  load : ∀ r ∈ h.requests, ∀ k, r.kind = .load k → k ≤ h.effect ∧
    (h.cancelled k = false → k = h.effect ∧ given h.effectConnId = some r.connId)

variable {h h' : Hook ι ε}

theorem eq_some_of_given {connId : Option String} {c : String} (hc : given connId = some c) :
    connId = some c := (Option.filter_eq_some_iff.1 hc).1

/-- A step between two runs of the effects, as far as the load effects go. -/
structure Quiet (h h' : Hook ι ε) : Prop where
  effectsPending : h'.effectsPending = h.effectsPending
  connId : h'.connId = h.connId
  effect : h'.effect = h.effect
  effectConnId : h'.effectConnId = h.effectConnId
  cancelled : h'.cancelled = h.cancelled
  requests : ∀ r ∈ h'.requests, r ∈ h.requests ∨ ∀ k, r.kind ≠ .load k

theorem Quiet.inv (hq : Quiet h h') (hinv : Inv h) : Inv h' := by
  constructor
  · rw [hq.effectsPending, hq.effectConnId, hq.connId]
    exact hinv.current
  · intro r hr k hk
    rw [hq.effect, hq.effectConnId, hq.cancelled]
    rcases hq.requests r hr with hr | hkind
    · exact hinv.load r hr k hk
    · exact absurd hk (hkind k)

/-- A quiet step that leaves what is shown as it is. -/
structure Same (h h' : Hook ι ε) : Prop extends Quiet h h' where
  data : h'.data = h.data
  lastUpdatedAt : h'.lastUpdatedAt = h.lastUpdatedAt

theorem Same.shown (hsame : Same h h') (hshown : Shown h) : Shown h' := by
  constructor
  · rw [hsame.effectsPending, hsame.connId, hsame.data]
    exact hshown.data
  · rw [hsame.effectsPending, hsame.connId, hsame.lastUpdatedAt]
    exact hshown.lastUpdatedAt

/-! ### What each part of the hook does -/

theorem same_refl : Same h h := ⟨⟨rfl, rfl, rfl, rfl, rfl, fun _ => Or.inl⟩, rfl, rfl⟩

/-- A new request, not of a load effect. -/
theorem mem_getCluster {connId : String} {kind : Kind} (hkind : ∀ k, kind ≠ .load k) (r : Request)
    (hr : r ∈ (h.getCluster connId kind).requests) : r ∈ h.requests ∨ ∀ k, r.kind ≠ .load k := by
  rcases List.mem_append.1 hr with hr | hr
  · exact Or.inl hr
  · rw [List.mem_singleton.1 hr]
    exact Or.inr hkind

theorem same_refetch : Same h h.refetch := by
  unfold Hook.refetch
  split
  · exact same_refl
  · exact ⟨⟨rfl, rfl, rfl, rfl, rfl, mem_getCluster fun _ => nofun⟩, rfl, rfl⟩

theorem same_tick (connId : String) : Same h (h.tick connId) := by
  unfold Hook.tick
  split
  · exact same_refl
  · split
    · exact same_refl
    · exact ⟨⟨rfl, rfl, rfl, rfl, rfl, mem_getCluster fun _ => nofun⟩, rfl, rfl⟩

theorem same_onVisible (connId : String) : Same h (h.onVisible connId) := by
  unfold Hook.onVisible
  split
  · exact same_refl
  · exact same_tick connId

/-- An answer removes a request and makes none. -/
theorem mem_answered {i : ℕ} (r : Request) (hr : r ∈ (h.answered i).requests) :
    r ∈ h.requests ∨ ∀ k, r.kind ≠ .load k :=
  Or.inl (List.mem_of_mem_eraseIdx hr)

theorem quiet_resolved {i : ℕ} (r : Request) (result : ι) (now : ℕ) :
    Quiet h ((h.answered i).resolved r result now) := by
  unfold Hook.resolved
  split
  · split <;> exact ⟨rfl, rfl, rfl, rfl, rfl, mem_answered⟩
  · exact ⟨rfl, rfl, rfl, rfl, rfl, mem_answered⟩
  · exact ⟨rfl, rfl, rfl, rfl, rfl, mem_answered⟩

theorem same_rejected {i : ℕ} (r : Request) (err : ε) :
    Same h ((h.answered i).rejected r err) := by
  unfold Hook.rejected
  split
  · split <;> exact ⟨⟨rfl, rfl, rfl, rfl, rfl, mem_answered⟩, rfl, rfl⟩
  · exact ⟨⟨rfl, rfl, rfl, rfl, rfl, mem_answered⟩, rfl, rfl⟩
  · exact ⟨⟨rfl, rfl, rfl, rfl, rfl, mem_answered⟩, rfl, rfl⟩

/-- After the cleanup every load request is cancelled. -/
theorem cancelled_cleanup (hinv : Inv h) {r : Request} (hr : r ∈ h.requests) {k : ℕ}
    (hk : r.kind = .load k) : h.cleanup.cancelled k = true := by
  obtain ⟨-, hload⟩ := hinv.load r hr k hk
  unfold Hook.cleanup
  split
  next hgiven =>
    by_contra hcancelled
    have hconn := (hload (Bool.eq_false_iff.2 hcancelled)).2
    rw [hgiven] at hconn
    cases hconn
  next =>
    by_cases hlatest : k = h.effect
    · rw [hlatest]
      exact Function.update_self ..
    · show Function.update h.cancelled h.effect true k = true
      rw [Function.update_of_ne hlatest]
      by_contra hcancelled
      exact hlatest (hload (Bool.eq_false_iff.2 hcancelled)).1

theorem cleanup_eq : ∃ cancelled, h.cleanup = { h with cancelled := cancelled } := by
  unfold Hook.cleanup
  split
  · exact ⟨h.cancelled, rfl⟩
  · exact ⟨_, rfl⟩

/-- The load effect runs when all load requests before it are cancelled. -/
theorem inv_loadEffect (hcurrent : h.effectConnId = h.connId)
    (hload : ∀ r ∈ h.requests, ∀ k, r.kind = .load k → k < h.effect ∧ h.cancelled k = true) :
    Inv h.loadEffect := by
  unfold Hook.loadEffect
  split
  next =>
    refine ⟨fun _ => hcurrent, fun r hr k hk => ?_⟩
    obtain ⟨hlt, hcancelled⟩ := hload r hr k hk
    refine ⟨Nat.le_of_lt hlt, fun hlive => ?_⟩
    rw [show h.cancelled k = false from hlive] at hcancelled
    cases hcancelled
  next connId hgiven =>
    refine ⟨fun _ => hcurrent, fun r hr k hk => ?_⟩
    rcases List.mem_append.1 hr with hr | hr
    · obtain ⟨hlt, hcancelled⟩ := hload r hr k hk
      refine ⟨Nat.le_of_lt hlt, fun hlive => ?_⟩
      have hlive : Function.update h.cancelled h.effect false k = false := hlive
      rw [Function.update_of_ne (Nat.ne_of_lt hlt), hcancelled] at hlive
      cases hlive
    · obtain rfl := List.mem_singleton.1 hr
      cases hk
      exact ⟨Nat.le_refl _, fun _ => ⟨rfl, by rw [← hgiven]; exact congrArg given hcurrent⟩⟩

theorem quiet_pollEffect : Quiet h h.pollEffect := ⟨rfl, rfl, rfl, rfl, rfl, fun _ => Or.inl⟩

theorem inv_runEffects (hinv : Inv h) : Inv h.runEffects := by
  obtain ⟨cancelled, hcleanup⟩ := cleanup_eq (h := h)
  refine quiet_pollEffect.inv (inv_loadEffect rfl fun r hr k hk => ?_)
  have hr : r ∈ h.requests := by
    rw [hcleanup] at hr
    exact hr
  have heffect : h.cleanup.effect = h.effect := by rw [hcleanup]
  refine ⟨?_, cancelled_cleanup hinv hr hk⟩
  show k < h.cleanup.effect + 1
  have hle := (hinv.load r hr k hk).1
  omega

/-- The load effect leaves nothing of what was shown. -/
theorem loadEffect_empty : h.loadEffect.data = none ∧ h.loadEffect.lastUpdatedAt = none := by
  unfold Hook.loadEffect
  split <;> exact ⟨rfl, rfl⟩

theorem shown_runEffects : Shown h.runEffects := by
  obtain ⟨hdata, hupdated⟩ := loadEffect_empty (h := { h.cleanup with
    effectsPending := false
    effect := h.cleanup.effect + 1
    effectConnId := h.cleanup.connId })
  constructor
  · rw [show h.runEffects.data = none from hdata]
    exact fun _ => nofun
  · rw [show h.runEffects.lastUpdatedAt = none from hupdated]
    exact fun _ => nofun

/-- What an answer that is not dropped leaves to be shown. -/
theorem shown_of_sourced {connId : String} {result : ι} {now : ℕ}
    (hdata : h.data = some ⟨result, connId⟩) (hupdated : h.lastUpdatedAt = some ⟨now, connId⟩) :
    Shown h ↔ h.effectsPending = true ∨ h.connId = some connId := by
  constructor
  · intro hshown
    by_cases hpending : h.effectsPending = true
    · exact Or.inl hpending
    · exact Or.inr (hshown.data (Bool.eq_false_iff.2 hpending) _ hdata)
  · intro hcurrent
    have hconn : h.effectsPending = false → h.connId = some connId := by
      intro hran
      rcases hcurrent with hpending | hconn
      · rw [hran] at hpending
        cases hpending
      · exact hconn
    constructor
    · intro hran d hd
      rw [Option.mem_def, hdata] at hd
      cases hd
      exact hconn hran
    · intro hran t ht
      rw [Option.mem_def, hupdated] at ht
      cases ht
      exact hconn hran

/-- An answer keeps what is shown right exactly if it is current: one of the load effect is dropped
after a switch. -/
theorem shown_resolved {i : ℕ} {r : Request} {result : ι} {now : ℕ} (hinv : Inv h)
    (hshown : Shown h) (hr : h.requests[i]? = some r) :
    Shown ((h.answered i).resolved r result now) ↔ Current h (.succeeds i result now) := by
  have hcurrent : Current h (.succeeds i result now) ↔ ((∀ effect, r.kind ≠ .load effect) →
      h.effectsPending = true ∨ h.connId = some r.connId) := by
    simp only [Current, hr, Option.some.injEq, forall_eq']
  rw [hcurrent]
  unfold Hook.resolved
  split
  next effect hkind =>
    refine iff_of_true ?_ fun hother => absurd hkind (hother effect)
    split
    · exact ⟨hshown.data, hshown.lastUpdatedAt⟩
    -- An effect that is not cancelled is the latest, and it asked for the current `connId`.
    next hlive =>
      refine (shown_of_sourced rfl rfl).2 ?_
      by_cases hpending : h.effectsPending = true
      · exact Or.inl hpending
      · have hgiven := ((hinv.load r (List.mem_of_getElem? hr) effect hkind).2
          (Bool.eq_false_iff.2 hlive)).2
        rw [hinv.current (Bool.eq_false_iff.2 hpending)] at hgiven
        exact Or.inr (eq_some_of_given hgiven)
  next effect hkind =>
    have hother : ∀ k, r.kind ≠ .load k := by simp [hkind]
    rw [shown_of_sourced rfl rfl]
    exact ⟨fun hright _ => hright, fun hright => hright hother⟩
  next hkind =>
    have hother : ∀ k, r.kind ≠ .load k := by simp [hkind]
    rw [shown_of_sourced rfl rfl]
    exact ⟨fun hright _ => hright, fun hright => hright hother⟩

/-! ### Steps, one by one -/

theorem step_switch {connId : Option String} (hstep : step h (.switch connId) = some h') :
    h' = { h with connId := connId, effectsPending := true } := by
  simp only [step] at hstep
  split at hstep
  · cases hstep
  · cases hstep
    rfl

theorem step_effects (hstep : step h .effects = some h') : h' = h.runEffects := by
  simp only [step] at hstep
  split at hstep
  · cases hstep
    rfl
  · cases hstep

/-- The tab comes to the front or goes to the back: at most a tick follows. -/
theorem step_visibilityChange {hidden : Bool} (hstep : step h (.visibilityChange hidden) = some h') :
    Same { h with hidden := hidden } h' := by
  simp only [step] at hstep
  split at hstep
  · cases hstep
    exact same_refl
  next connId _ =>
    cases hstep
    exact same_onVisible connId

/-! ### Runs -/

theorem inv_step (e : Event ι ε) (hinv : Inv h) (hstep : step h e = some h') : Inv h' := by
  cases e with
  | switch connId =>
    obtain rfl := step_switch hstep
    exact ⟨nofun, hinv.load⟩
  | effects =>
    obtain rfl := step_effects hstep
    exact inv_runEffects hinv
  | tick =>
    obtain ⟨connId, -, rfl⟩ := Option.map_eq_some_iff.1 hstep
    exact (same_tick connId).inv hinv
  | visibilityChange hidden =>
    have hhidden : Inv { h with hidden := hidden } := ⟨hinv.current, hinv.load⟩
    exact (step_visibilityChange hstep).inv hhidden
  | refetch =>
    cases hstep
    exact same_refetch.inv hinv
  | succeeds i result now =>
    obtain ⟨r, -, rfl⟩ := Option.map_eq_some_iff.1 hstep
    exact (quiet_resolved r result now).inv hinv
  | fails i err =>
    obtain ⟨r, -, rfl⟩ := Option.map_eq_some_iff.1 hstep
    exact (same_rejected r err).inv hinv

/-- Only an answer changes what is shown to anything but nothing. -/
theorem shown_step (e : Event ι ε) (hinv : Inv h) (hshown : Shown h) (hstep : step h e = some h') :
    Shown h' ↔ Current h e := by
  cases e with
  | switch connId =>
    obtain rfl := step_switch hstep
    exact iff_of_true ⟨nofun, nofun⟩ trivial
  | effects =>
    obtain rfl := step_effects hstep
    exact iff_of_true shown_runEffects trivial
  | tick =>
    obtain ⟨connId, -, rfl⟩ := Option.map_eq_some_iff.1 hstep
    exact iff_of_true ((same_tick connId).shown hshown) trivial
  | visibilityChange hidden =>
    have hhidden : Shown { h with hidden := hidden } := ⟨hshown.data, hshown.lastUpdatedAt⟩
    exact iff_of_true ((step_visibilityChange hstep).shown hhidden) trivial
  | refetch =>
    cases hstep
    exact iff_of_true (same_refetch.shown hshown) trivial
  | succeeds i result now =>
    obtain ⟨r, hr, rfl⟩ := Option.map_eq_some_iff.1 hstep
    exact shown_resolved hinv hshown hr
  | fails i err =>
    obtain ⟨r, -, rfl⟩ := Option.map_eq_some_iff.1 hstep
    exact iff_of_true ((same_rejected r err).shown hshown) trivial

/-- What is shown is right all along a run exactly if every poll and every `refetch` of the run is
answered before the effects of a switch ran or from the current cluster. -/
theorem shows_current_iff (connId : Option String) (pollIntervalMs : ℤ) (hidden : Bool)
    (es : List (Event ι ε)) :
    Always step Shown (.mount connId pollIntervalMs hidden) es ↔
      Guarded step Current (.mount connId pollIntervalMs hidden) es :=
  always_iff_guarded (fun _ e _ hinv hstep => inv_step e hinv hstep)
    (fun _ e _ hinv hshown hstep => shown_step e hinv hshown hstep) ⟨nofun, nofun⟩
    ⟨fun _ => nofun, fun _ => nofun⟩

/-- A poll of the first cluster is answered after the switch to the second one. -/
theorem shows_other : ¬∀ (connId : Option String) (pollIntervalMs : ℤ) (hidden : Bool)
    (es : List (Event String String)),
    Always step Shown (.mount connId pollIntervalMs hidden) es := by
  intro h
  have hshown := (h (some "a") clusterPollIntervalMs false
    [.effects, .tick, .switch (some "b"), .effects, .succeeds 1 "nodes of a" 0]).run rfl
  exact absurd (hshown.data rfl _ rfl) (by decide)

end ClusterManager.Ui.UseCluster
