import Mathlib.Logic.Function.Basic
import ClusterManager.Json
import ClusterManager.Lib.Machine

/-!
# The cluster registry of the browser

`hydrateClusterRegistry` loads the registry, and every request to the API awaits
`getHydrationPromise` first. All hydrations share one pending promise and its resolver. A run is
any order of hydrations, of what becomes of their requests, and of calls of `getHydrationPromise`.

`waits_iff` says along which runs no request is let through while a hydration may still load the
registry: a hydration that fails settles the promise for the others too.
-/

namespace ClusterManager.Ui.Hydration

open Machine

/-- `REGISTRY_PATH`. -/
def registryPath : String := "/cluster-registry.json"

/-! ### The store -/

/-- `ClusterRegistry`. What is in `clusters` is not checked. -/
structure ClusterRegistry where
  defaultClusterId : String
  clusters : List Json

/-- The state of `useClusterSelectorStore`. -/
structure Store where
  registry : Option ClusterRegistry := none
  currentClusterId : Option String := none
  registryError : Option String := none

/-- The check of what `res.json()` gave. -/
def registryOf : Json → Option ClusterRegistry
  | .obj fields =>
      match Dict.get? fields "clusters", Dict.get? fields "defaultClusterId" with
      | some (.arr clusters), some (.str defaultClusterId) => some ⟨defaultClusterId, clusters⟩
      | _, _ => none
  | _ => none

/-- `c.id`, as far as it is a string. Of `null` it cannot be read. -/
def idOf : Json → Option (Option String)
  | .null => none
  | .obj fields =>
      match Dict.get? fields "id" with
      | some (.str id) => some (some id)
      | _ => some none
  | _ => some none

namespace Store

/-- `setRegistryError`. -/
def setRegistryError (s : Store) (error : String) : Store := { s with registryError := some error }

/-- The selected cluster, if the registry has it, or else the default. -/
def validId (currentClusterId : Option String) (ids : List (Option String))
    (defaultClusterId : String) : String :=
  match currentClusterId with
  | some id => if id ≠ "" ∧ ids.contains (some id) then id else defaultClusterId
  | none => defaultClusterId

/-- `setRegistry`, which throws on a cluster that is `null`. -/
def setRegistry (s : Store) (registry : ClusterRegistry) : Option Store :=
  (registry.clusters.mapM idOf).map fun ids =>
    { registry := some registry
      currentClusterId := some (validId s.currentClusterId ids registry.defaultClusterId)
      registryError := none }

end Store

/-! ### Promises -/

/-- What a hydration awaits. -/
inductive Stage
  | fetch
  | json

/-- The variables of the module, and beside them the promises made so far, the hydrations under way
and the promises handed out. -/
structure Tab where
  store : Store
  hydrationPromise : Option ℕ := none
  /-- The promise that `resolveHydration` resolves. -/
  resolveHydration : Option ℕ := none
  promises : ℕ := 0
  resolved : ℕ → Bool := fun _ => false
  hydrations : List Stage := []
  handedOut : List ℕ := []

namespace Tab

/-- The tab before the first hydration, with the cluster selected in an earlier visit. -/
def boot (currentClusterId : Option String) : Tab := { store := { currentClusterId } }

/-- `ensurePendingPromise`. -/
def ensurePendingPromise (t : Tab) : Tab :=
  match t.hydrationPromise with
  | some _ => t
  | none =>
      { t with
        hydrationPromise := some t.promises
        resolveHydration := some t.promises
        promises := t.promises + 1
        resolved := Function.update t.resolved t.promises false }

/-- `Promise.resolve()`. -/
def resolvedPromise (t : Tab) : ℕ × Tab :=
  (t.promises, { t with
    promises := t.promises + 1
    resolved := Function.update t.resolved t.promises true })

/-- `settleHydration`. -/
def settleHydration (t : Tab) : Tab :=
  match t.resolveHydration, t.hydrationPromise with
  | some r, _ => { t with resolveHydration := none, resolved := Function.update t.resolved r true }
  | none, some _ => t
  | none, none => { t.resolvedPromise.2 with hydrationPromise := some t.resolvedPromise.1 }

/-- `getHydrationPromise`. -/
def getHydrationPromise (t : Tab) : ℕ × Tab :=
  match t.hydrationPromise with
  | some p => (p, t)
  | none => t.resolvedPromise

/-- `hydrateClusterRegistry` up to its first await. -/
def hydrate (t : Tab) : Tab :=
  let t := t.ensurePendingPromise
  { t with hydrations := t.hydrations ++ [.fetch] }

/-- The `catch` of a hydration. -/
def fail (t : Tab) (i : ℕ) : Tab :=
  -- Settled first, so that those who wait go on, then dropped for the next hydration.
  { t.settleHydration with
    hydrationPromise := none
    resolveHydration := none
    hydrations := t.hydrations.eraseIdx i }

/-- A hydration has loaded the registry. -/
def succeed (t : Tab) (i : ℕ) (store : Store) : Tab :=
  { t.settleHydration with store := store, hydrations := t.hydrations.eraseIdx i }

end Tab

/-- What becomes of `fetcher(REGISTRY_PATH)`. -/
inductive Response
  | rejects
  | responds (status : ℕ) (statusText : String)

/-- The error of a response that is not `ok`. -/
def statusError (status : ℕ) (statusText : String) : String :=
  "Failed to load " ++ registryPath ++ ": " ++ toString status ++ " " ++ statusText

/-- The error of a registry that fails the check. -/
def shapeError : String := registryPath ++ " has invalid shape"

/-- `res.ok`. -/
def Response.ok : Response → Bool
  | rejects => false
  | responds status _ => 200 ≤ status ∧ status ≤ 299

/-- The fetch of a hydration ends. -/
def Tab.afterFetch (t : Tab) (i : ℕ) (response : Response) : Tab :=
  match response with
  | .rejects => t.fail i
  | .responds status statusText =>
      if response.ok then { t with hydrations := t.hydrations.set i .json }
      else { t with store := t.store.setRegistryError (statusError status statusText) }.fail i

/-- `res.json()` of a hydration ends, with a value unless it throws. -/
def Tab.afterJson (t : Tab) (i : ℕ) (data : Option Json) : Tab :=
  match data with
  | none => t.fail i
  | some data =>
      match registryOf data with
      | none => { t with store := t.store.setRegistryError shapeError }.fail i
      | some registry =>
          match t.store.setRegistry registry with
          | none => t.fail i
          | some store => t.succeed i store

/-! ### Steps -/

/-- What can happen. -/
inductive Event
  | hydrate
  | fetched (i : ℕ) (response : Response)
  | parsed (i : ℕ) (data : Option Json)
  | getHydrationPromise

/-- One event. -/
def step (t : Tab) : Event → Option Tab
  | .hydrate => some t.hydrate
  | .fetched i response =>
      match t.hydrations[i]? with
      | some .fetch => some (t.afterFetch i response)
      | _ => none
  | .parsed i data =>
      match t.hydrations[i]? with
      | some .json => some (t.afterJson i data)
      | _ => none
  | .getHydrationPromise =>
      some { t.getHydrationPromise.2 with handedOut := t.handedOut ++ [t.getHydrationPromise.1] }

/-! ### Waiting for the registry -/

/-- While a hydration may still load the registry, who asks has to wait; and no one waits when there
are no hydrations left. -/
structure Waits (t : Tab) : Prop where
  waiting : t.hydrations ≠ [] → t.store.registry = none →
    t.getHydrationPromise.2.resolved t.getHydrationPromise.1 = false
  drained : t.hydrations = [] → ∀ p ∈ t.handedOut, t.resolved p = true

/-- A hydration fails with this event. -/
def Fails (t : Tab) : Event → Prop
  | .fetched _ response => response.ok = false
  | .parsed _ data => (data.bind registryOf).bind t.store.setRegistry = none
  | _ => False

/-- A hydration that fails is the only one, or the registry is there. -/
def Alone (t : Tab) (e : Event) : Prop :=
  Fails t e → t.store.registry ≠ none ∨ t.hydrations.length = 1

/-- What is known of the promises: one that is not resolved is that of the resolver, which is there
for the hydrations under way. -/
structure Inv (t : Tab) : Prop where
  unresolved : ∀ p < t.promises, t.resolved p = false → t.resolveHydration = some p
  resolver : ∀ p, t.resolveHydration = some p →
    t.hydrationPromise = some p ∧ t.resolved p = false ∧ t.hydrations ≠ []
  pending : t.store.registry = none → t.hydrationPromise = t.resolveHydration
  made : ∀ p, t.hydrationPromise = some p → p < t.promises
  handedOut : ∀ p ∈ t.handedOut, p < t.promises

variable {t t' : Tab}

/-- Who asks waits for the promise of the module, if that is not resolved. -/
theorem resolved_getHydrationPromise :
    t.getHydrationPromise.2.resolved t.getHydrationPromise.1 = false ↔
      ∃ p, t.hydrationPromise = some p ∧ t.resolved p = false := by
  unfold Tab.getHydrationPromise
  split
  next p hp => simp [hp]
  next hnone => simp [hnone, Tab.resolvedPromise]

/-- A promise that is not that of the resolver is resolved. -/
theorem Inv.resolved_of_ne (h : Inv t) {p : ℕ} (hp : p < t.promises)
    (hne : t.resolveHydration ≠ some p) : t.resolved p = true := by
  by_contra hresolved
  exact hne (h.unresolved p hp (Bool.eq_false_iff.2 hresolved))

theorem Inv.drained (h : Inv t) (hnone : t.hydrations = []) :
    ∀ p ∈ t.handedOut, t.resolved p = true :=
  fun p hp => h.resolved_of_ne (h.handedOut p hp) fun hresolver => (h.resolver p hresolver).2.2 hnone

/-- Before the registry is there, the promise of the module is not resolved. -/
theorem Inv.waiting (h : Inv t) (hregistry : t.store.registry = none) {p : ℕ}
    (hp : t.hydrationPromise = some p) : t.resolved p = false :=
  (h.resolver p ((h.pending hregistry).symm.trans hp)).2.1

/-! ### Each function -/

theorem inv_hydrate (h : Inv t) : Inv t.hydrate := by
  unfold Tab.hydrate Tab.ensurePendingPromise
  split
  next p hp =>
    exact ⟨h.unresolved, fun p hp => ⟨(h.resolver p hp).1, (h.resolver p hp).2.1, by simp⟩,
      h.pending, h.made, h.handedOut⟩
  next hnone =>
    refine ⟨fun p hp hresolved => ?_, fun p hp => ?_, fun _ => rfl, fun p hp => ?_, fun p hp => ?_⟩
    · -- Without a promise of the module all promises are resolved.
      by_cases hnew : p = t.promises
      · exact hnew ▸ rfl
      · have hlt : p < t.promises := by
          have hle : p < t.promises + 1 := hp
          omega
        have hold : Function.update t.resolved t.promises false p = false := hresolved
        rw [Function.update_of_ne hnew] at hold
        rw [(h.resolver p (h.unresolved p hlt hold)).1] at hnone
        cases hnone
    · cases hp
      exact ⟨rfl, Function.update_self .., by simp⟩
    · cases hp
      exact Nat.lt_succ_self _
    · exact Nat.lt_succ_of_lt (h.handedOut p hp)

/-- A new hydration has a promise to wait for. -/
theorem hydrate_waiting (h : Inv t) (hregistry : t.store.registry = none) :
    ∃ p, t.hydrate.hydrationPromise = some p ∧ t.hydrate.resolved p = false := by
  unfold Tab.hydrate Tab.ensurePendingPromise
  split
  next p hp => exact ⟨p, hp, h.waiting hregistry hp⟩
  next => exact ⟨t.promises, rfl, Function.update_self ..⟩

/-- Settling resolves every promise there is. -/
structure Drained (t t' : Tab) : Prop where
  store : t'.store = t.store
  hydrations : t'.hydrations = t.hydrations
  handedOut : t'.handedOut = t.handedOut
  promises : t.promises ≤ t'.promises
  resolveHydration : t'.resolveHydration = none
  resolved : ∀ p < t'.promises, t'.resolved p = true
  made : ∀ p, t'.hydrationPromise = some p → p < t'.promises

theorem drained_settleHydration (h : Inv t) : Drained t t.settleHydration := by
  unfold Tab.settleHydration
  split
  next _ _ r hr =>
    refine ⟨rfl, rfl, rfl, Nat.le_refl _, rfl, fun p hp => ?_, h.made⟩
    by_cases hpr : p = r
    · rw [hpr]
      exact Function.update_self ..
    · show Function.update t.resolved r true p = true
      rw [Function.update_of_ne hpr]
      refine h.resolved_of_ne hp ?_
      rw [hr]
      exact fun heq => hpr (Option.some.inj heq).symm
  next q hr hq =>
    refine ⟨rfl, rfl, rfl, Nat.le_refl _, hr, fun p hp => h.resolved_of_ne hp ?_, h.made⟩
    rw [hr]
    nofun
  next hr hq =>
    refine ⟨rfl, rfl, rfl, Nat.le_succ _, hr, fun p hp => ?_, fun p hp => ?_⟩
    · by_cases hnew : p = t.promises
      · rw [hnew]
        exact Function.update_self ..
      · show Function.update t.resolved t.promises true p = true
        have hlt : p < t.promises := by
          have hle : p < t.promises + 1 := hp
          omega
        rw [Function.update_of_ne hnew]
        refine h.resolved_of_ne hlt ?_
        rw [hr]
        nofun
    · cases hp
      exact Nat.lt_succ_self _

theorem inv_fail (h : Inv t) (i : ℕ) : Inv (t.fail i) := by
  have hdrained := drained_settleHydration h
  refine ⟨fun p hp hresolved => ?_, fun _ => nofun, fun _ => rfl, fun _ => nofun, fun p hp => ?_⟩
  · rw [show (t.fail i).resolved p = true from hdrained.resolved p hp] at hresolved
    cases hresolved
  · have hp : p ∈ t.settleHydration.handedOut := hp
    rw [hdrained.handedOut] at hp
    exact Nat.lt_of_lt_of_le (h.handedOut p hp) hdrained.promises

theorem inv_succeed (h : Inv t) (i : ℕ) {store : Store} (hstore : store.registry ≠ none) :
    Inv (t.succeed i store) := by
  have hdrained := drained_settleHydration h
  refine ⟨fun p hp hresolved => ?_, fun p hp => ?_, fun hnone => absurd hnone hstore, hdrained.made,
    fun p hp => ?_⟩
  · rw [show (t.succeed i store).resolved p = true from hdrained.resolved p hp] at hresolved
    cases hresolved
  · rw [show (t.succeed i store).resolveHydration = none from hdrained.resolveHydration] at hp
    cases hp
  · have hp : p ∈ t.settleHydration.handedOut := hp
    rw [hdrained.handedOut] at hp
    exact Nat.lt_of_lt_of_le (h.handedOut p hp) hdrained.promises

/-- A hydration whose response is there goes on. -/
theorem inv_goesOn (h : Inv t) (i : ℕ) : Inv { t with hydrations := t.hydrations.set i .json } := by
  refine ⟨h.unresolved, fun p hp => ?_, h.pending, h.made, h.handedOut⟩
  obtain ⟨hpromise, hresolved, hsome⟩ := h.resolver p hp
  exact ⟨hpromise, hresolved, by simpa using hsome⟩

theorem inv_setRegistryError (h : Inv t) (error : String) :
    Inv { t with store := t.store.setRegistryError error } :=
  ⟨h.unresolved, h.resolver, h.pending, h.made, h.handedOut⟩

theorem inv_getHydrationPromise (h : Inv t) :
    Inv { t.getHydrationPromise.2 with
      handedOut := t.handedOut ++ [t.getHydrationPromise.1] } := by
  unfold Tab.getHydrationPromise
  split
  next p hp =>
    refine ⟨h.unresolved, h.resolver, h.pending, h.made, fun q hq => ?_⟩
    rcases List.mem_append.1 hq with hq | hq
    · exact h.handedOut q hq
    · rw [List.mem_singleton.1 hq]
      exact h.made p hp
  next hnone =>
    have hresolver : t.resolveHydration = none := by
      by_contra hsome
      obtain ⟨p, hp⟩ := Option.ne_none_iff_exists'.1 hsome
      rw [(h.resolver p hp).1] at hnone
      cases hnone
    refine ⟨fun q hq hresolved => ?_, fun q hq => ?_, h.pending, fun q hq => ?_, fun q hq => ?_⟩
    · have hresolved : Function.update t.resolved t.promises true q = false := hresolved
      by_cases hnew : q = t.promises
      · rw [hnew, Function.update_self] at hresolved
        cases hresolved
      · rw [Function.update_of_ne hnew] at hresolved
        have hle : q < t.promises + 1 := hq
        exact h.unresolved q (by omega) hresolved
    · rw [show t.resolveHydration = some q from hq] at hresolver
      cases hresolver
    · rw [show t.hydrationPromise = some q from hq] at hnone
      cases hnone
    · show q < t.promises + 1
      rcases List.mem_append.1 hq with hq | hq
      · exact Nat.lt_succ_of_lt (h.handedOut q hq)
      · rw [List.mem_singleton.1 hq]
        exact Nat.lt_succ_self _

/-! ### Who waits -/

theorem Inv.waits_iff_unresolved (h : Inv t) :
    Waits t ↔ (t.hydrations ≠ [] → t.store.registry = none →
      ∃ p, t.hydrationPromise = some p ∧ t.resolved p = false) := by
  simp only [← resolved_getHydrationPromise]
  exact ⟨Waits.waiting, fun hwaiting => ⟨hwaiting, h.drained⟩⟩

/-- A failure lets all others go on without the registry. -/
theorem waits_fail (h : Inv t) {i : ℕ} {stage : Stage} (hi : t.hydrations[i]? = some stage) :
    Waits (t.fail i) ↔ t.store.registry ≠ none ∨ t.hydrations.length = 1 := by
  have hregistry : (t.fail i).store.registry = t.store.registry :=
    congrArg Store.registry (drained_settleHydration h).store
  have hlt := (List.getElem?_eq_some_iff.1 hi).1
  have hlength : (t.fail i).hydrations = [] ↔ t.hydrations.length = 1 := by
    show t.hydrations.eraseIdx i = [] ↔ _
    rw [← List.length_eq_zero_iff, List.length_eraseIdx_of_lt hlt]
    omega
  rw [(inv_fail h i).waits_iff_unresolved, hregistry]
  constructor
  · intro hwaiting
    by_cases hone : t.hydrations.length = 1
    · exact Or.inr hone
    · refine Or.inl fun hnone => ?_
      obtain ⟨p, hp, -⟩ := hwaiting (fun hempty => hone (hlength.1 hempty)) hnone
      cases hp
  · rintro (hsome | hone) hother hnone
    · exact absurd hnone hsome
    · exact absurd (hlength.2 hone) hother

/-- The error that is noted first changes nothing for who waits. -/
theorem waits_fail_setRegistryError (h : Inv t) (error : String) {i : ℕ} {stage : Stage}
    (hi : t.hydrations[i]? = some stage) :
    Waits ({ t with store := t.store.setRegistryError error }.fail i) ↔
      t.store.registry ≠ none ∨ t.hydrations.length = 1 :=
  waits_fail (inv_setRegistryError h error) hi

theorem registry_of_setRegistry {s store : Store} {registry : ClusterRegistry}
    (h : s.setRegistry registry = some store) : store.registry ≠ none := by
  obtain ⟨ids, -, rfl⟩ := Option.map_eq_some_iff.1 h
  exact nofun

theorem inv_afterFetch (h : Inv t) (i : ℕ) (response : Response) :
    Inv (t.afterFetch i response) := by
  unfold Tab.afterFetch
  split
  · exact inv_fail h i
  · split
    · exact inv_goesOn h i
    · exact inv_fail (inv_setRegistryError h _) i

theorem inv_afterJson (h : Inv t) (i : ℕ) (data : Option Json) : Inv (t.afterJson i data) := by
  unfold Tab.afterJson
  split
  · exact inv_fail h i
  · split
    · exact inv_fail (inv_setRegistryError h _) i
    · split
      · exact inv_fail h i
      next hstore => exact inv_succeed h i (registry_of_setRegistry hstore)

theorem waits_hydrate (h : Inv t) : Waits t.hydrate := by
  have hstore : t.hydrate.store = t.store := by
    unfold Tab.hydrate Tab.ensurePendingPromise
    split <;> rfl
  rw [(inv_hydrate h).waits_iff_unresolved, hstore]
  exact fun _ hregistry => hydrate_waiting h hregistry

/-- To hand out a promise changes nothing for those who ask later. -/
theorem waits_getHydrationPromise (h : Inv t) (hwaits : Waits t) :
    Waits { t.getHydrationPromise.2 with
      handedOut := t.handedOut ++ [t.getHydrationPromise.1] } := by
  have hbefore := h.waits_iff_unresolved.1 hwaits
  rw [(inv_getHydrationPromise h).waits_iff_unresolved]
  unfold Tab.getHydrationPromise
  split
  · exact hbefore
  next hnone =>
    intro hother hregistry
    obtain ⟨p, hp, -⟩ := hbefore hother hregistry
    rw [hnone] at hp
    cases hp

/-- The fetch of a hydration ends: it goes on, or it fails. -/
theorem waits_afterFetch (h : Inv t) (hwaits : Waits t) {i : ℕ} {response : Response}
    (hi : t.hydrations[i]? = some .fetch) :
    Waits (t.afterFetch i response) ↔ Alone t (.fetched i response) := by
  have hgoesOn : Waits { t with hydrations := t.hydrations.set i .json } := by
    rw [(inv_goesOn h i).waits_iff_unresolved]
    intro hother
    exact h.waits_iff_unresolved.1 hwaits (by simpa using hother)
  unfold Tab.afterFetch Alone Fails
  split
  next => simp [Response.ok, waits_fail h hi]
  next status statusText =>
    split
    next hok => simp [hok, hgoesOn]
    next hok => simp [hok, waits_fail_setRegistryError h (statusError status statusText) hi]

/-- The registry is there, or the hydration fails. -/
theorem waits_afterJson (h : Inv t) {i : ℕ} {data : Option Json}
    (hi : t.hydrations[i]? = some .json) :
    Waits (t.afterJson i data) ↔ Alone t (.parsed i data) := by
  unfold Tab.afterJson Alone Fails
  split
  next => simp [waits_fail h hi]
  next data =>
    split
    next hshape => simp [hshape, waits_fail_setRegistryError h shapeError hi]
    next registry hshape =>
      split
      next hstore => simp [hshape, hstore, waits_fail h hi]
      next store hstore =>
        have hregistry := registry_of_setRegistry hstore
        have hwaits : Waits (t.succeed i store) :=
          (inv_succeed h i hregistry).waits_iff_unresolved.2 fun _ hnone => absurd hnone hregistry
        simp [hshape, hstore, hwaits]

/-! ### Runs -/

/-- What becomes of a fetch is met by a hydration that awaits one. -/
theorem step_fetched {i : ℕ} {response : Response} (hstep : step t (.fetched i response) = some t') :
    t.hydrations[i]? = some .fetch ∧ t' = t.afterFetch i response := by
  simp only [step] at hstep
  split at hstep
  next hi =>
    cases hstep
    exact ⟨hi, rfl⟩
  · cases hstep

theorem step_parsed {i : ℕ} {data : Option Json} (hstep : step t (.parsed i data) = some t') :
    t.hydrations[i]? = some .json ∧ t' = t.afterJson i data := by
  simp only [step] at hstep
  split at hstep
  next hi =>
    cases hstep
    exact ⟨hi, rfl⟩
  · cases hstep

theorem inv_step (e : Event) (h : Inv t) (hstep : step t e = some t') : Inv t' := by
  cases e with
  | hydrate =>
    cases hstep
    exact inv_hydrate h
  | fetched i response =>
    obtain ⟨-, rfl⟩ := step_fetched hstep
    exact inv_afterFetch h i response
  | parsed i data =>
    obtain ⟨-, rfl⟩ := step_parsed hstep
    exact inv_afterJson h i data
  | getHydrationPromise =>
    cases hstep
    exact inv_getHydrationPromise h

theorem waits_step (e : Event) (h : Inv t) (hwaits : Waits t) (hstep : step t e = some t') :
    Waits t' ↔ Alone t e := by
  cases e with
  | hydrate =>
    cases hstep
    exact iff_of_true (waits_hydrate h) nofun
  | fetched i response =>
    obtain ⟨hi, rfl⟩ := step_fetched hstep
    exact waits_afterFetch h hwaits hi
  | parsed i data =>
    obtain ⟨hi, rfl⟩ := step_parsed hstep
    exact waits_afterJson h hi
  | getHydrationPromise =>
    cases hstep
    exact iff_of_true (waits_getHydrationPromise h hwaits) nofun

theorem inv_boot (currentClusterId : Option String) : Inv (.boot currentClusterId) :=
  ⟨fun _ => nofun, fun _ => nofun, fun _ => rfl, fun _ => nofun, fun _ => nofun⟩

/-- In every run the promises that were handed out are resolved once no hydration is left. -/
theorem always_drained (currentClusterId : Option String) (es : List Event) :
    Always step (fun t => t.hydrations = [] → ∀ p ∈ t.handedOut, t.resolved p = true)
      (.boot currentClusterId) es :=
  (always_of_step (fun _ e _ h hstep => inv_step e h hstep) (inv_boot currentClusterId)).imp
    fun _ => Inv.drained

/-- All along a run requests wait for the registry, and none waits in vain, exactly if every
hydration of the run that fails is the only one under way or finds the registry loaded. -/
theorem waits_iff (currentClusterId : Option String) (es : List Event) :
    Always step Waits (.boot currentClusterId) es ↔
      Guarded step Alone (.boot currentClusterId) es :=
  always_iff_guarded (fun _ e _ h hstep => inv_step e h hstep)
    (fun _ e _ h hwaits hstep => waits_step e h hwaits hstep) (inv_boot currentClusterId)
    ⟨fun hother => absurd rfl hother, fun _ _ => nofun⟩

/-- Of two hydrations one fails: who asks then does not wait for the other one. -/
theorem not_waits : ¬∀ (currentClusterId : Option String) (es : List Event),
    Always step Waits (.boot currentClusterId) es := by
  intro h
  have hwaits := (h none [.hydrate, .hydrate, .fetched 0 .rejects]).run rfl
  exact absurd (hwaits.waiting (by decide) rfl) (by decide)

end ClusterManager.Ui.Hydration
