import ClusterManager.K8s.Patch

/-!
# What a patch can do under concurrent writes

A fetched version is either the current one or never the current one again, because the API
server gives out each resource version once (`Fetched`). A patch that carries the version it
fetched and verified is therefore applied to that version or refused
(`patch_safe_under_concurrent_writes`). A status patch carries none, and is applied to the object
that was verified exactly as long as no other client has relabelled it in between
(`status_patch_label_iff`).
-/

namespace ClusterManager.K8s

open Interleaving

/-- An answered call. -/
abbrev ApiAnswer : Type := Answer ApiCall ApiCall.Resp Exc

/-- What was fetched is an object of the API server. -/
def FromServer : (r : ApiCall) → Except Exc r.Resp → Prop
  | .get, .ok current => ∃ o : Versioned, current = o.json
  | _, _ => True

/-- The answer to a patch. -/
def patchAnswer : ApiAnswer → Option (Except Exc Json)
  | ⟨.patch _, x⟩ => some x
  | _ => none

/-- The answers to the patches of a past. -/
def patchAnswers (past : List ApiAnswer) : List (Except Exc Json) := past.filterMap patchAnswer

/-- All patches have failed so far, and there were `n` of them. -/
def Failures (past : List ApiAnswer) (n : ℕ) : Prop :=
  (∀ x ∈ patchAnswers past, ∃ e, x = .error e) ∧ (patchAnswers past).length = n

/-- An attempt of the loop up to its patch: what was fetched and verified, copied and stamped. -/
structure Attempt (verify : Json → Except Exc Unit) (body : ℕ) (past : List ApiAnswer)
    (current rv : Json) : Prop where
  failures : ∃ n < patchMaxAttempts, Failures past n
  verified : verify current = .ok ()
  version : crResourceVersion current = .ok rv

/-- The calls of the loop, by the past that leads to them. -/
def LoopCalls (verify : Json → Except Exc Unit) (body : ℕ) : ApiCall → List ApiAnswer → Prop
  | .get, past => ∃ n < patchMaxAttempts, Failures past n
  | .deepcopy dict, past => dict = body ∧
      ∃ before current rv, Attempt verify body before current rv ∧
        past = before ++ [⟨.get, .ok current⟩]
  | .setResourceVersion payload rv, past =>
      ∃ before current, Attempt verify body before current rv ∧
        past = before ++ [⟨.get, .ok current⟩, ⟨.deepcopy body, .ok payload⟩]
  | .patch payload, past =>
      ∃ before current rv, Attempt verify body before current rv ∧
        past = before ++ [⟨.get, .ok current⟩, ⟨.deepcopy body, .ok payload⟩,
          ⟨.setResourceVersion payload rv, .ok ()⟩]
  | .patchStatus _, _ => False

/-- What the past of the loop says when it has raised. -/
def LoopRaised (past : List ApiAnswer) : Prop := ∃ n ≤ patchMaxAttempts, Failures past n

section Loop

variable {verify : Json → Except Exc Unit} {body n : ℕ} {past : List ApiAnswer}

@[simp] theorem patchAnswers_append {past past' : List ApiAnswer} :
    patchAnswers (past ++ past') = patchAnswers past ++ patchAnswers past' :=
  List.filterMap_append

/-- Calls other than patches do not count. -/
theorem Failures.append (h : Failures past n) (past' : List ApiAnswer)
    (h' : patchAnswers past' = []) : Failures (past ++ past') n := by
  simpa [Failures, h'] using h

/-- A patch that fails is one more failure. -/
theorem Failures.fail (h : Failures past n) (payload : ℕ) (e : Exc) :
    Failures (past ++ [⟨.patch payload, .error e⟩]) (n + 1) := by
  simp only [Failures, patchAnswers_append, List.length_append, h.2]
  refine ⟨fun x hx => ?_, rfl⟩
  rcases List.mem_append.1 hx with hx | hx
  · exact h.1 x hx
  · exact ⟨e, List.mem_singleton.1 hx⟩

/-- Each attempt of the loop fetches, verifies, copies, stamps and patches, in this order. -/
theorem safe_patchAttempts {lastErr : Option Exc} (hn : n ≤ patchMaxAttempts)
    (h : Failures past (patchMaxAttempts - n)) :
    (patchAttempts verify body n lastErr).Safe (History FromServer) (LoopCalls verify body) past
      (fun _ _ => True) (fun _ => LoopRaised) := by
  induction n generalizing past lastErr with
  | zero => exact ⟨_, Nat.sub_le _ _, h⟩
  | succ n ih =>
    have hlt : patchMaxAttempts - (n + 1) < patchMaxAttempts := by omega
    -- what is raised before the patch has no effect; what the patch raises counts as an attempt
    have hraised : ∀ {past' : List ApiAnswer}, patchAnswers past' = [] →
        LoopRaised (past ++ past') := fun h' => ⟨_, Nat.le_of_lt hlt, h.append _ h'⟩
    simp only [patchAttempts, Coroutine.safe_bind, Coroutine.safe_lift]
    refine Coroutine.safe_call.2 ⟨⟨_, hlt, h⟩, ?_, ?_⟩
    swap
    · rintro e _ ⟨-, rfl⟩
      exact hraised rfl
    rintro current _ ⟨⟨o, rfl⟩, rfl⟩
    refine ⟨fun _ hverify => ⟨fun rv hrv => ?_, fun e _ => hraised rfl⟩,
      fun e _ => hraised rfl⟩
    have hattempt : Attempt verify body past o.json rv := ⟨⟨_, hlt, h⟩, hverify, hrv⟩
    refine Coroutine.safe_call.2 ⟨⟨rfl, past, o.json, rv, hattempt, rfl⟩, ?_, ?_⟩
    swap
    · rintro e _ ⟨-, rfl⟩
      rw [List.append_assoc]
      exact hraised rfl
    rintro payload _ ⟨-, rfl⟩
    have htruthy : rv.truthy = true := by
      rw [crResourceVersion_json] at hrv
      cases hrv
      simpa [Json.truthy] using o.rv_ne
    simp only [htruthy, if_true, Coroutine.safe_bind]
    refine Coroutine.safe_call.2
      ⟨⟨past, o.json, hattempt, by rw [List.append_assoc]; rfl⟩, ?_, ?_⟩
    swap
    · rintro e _ ⟨-, rfl⟩
      rw [List.append_assoc, List.append_assoc]
      exact hraised rfl
    rintro ⟨⟩ _ ⟨-, rfl⟩
    rw [Coroutine.safe_tryCatch]
    refine Coroutine.safe_call.2 ⟨⟨past, o.json, rv, hattempt, by
      rw [List.append_assoc, List.append_assoc]; rfl⟩, ?_, ?_⟩
    · rintro r _ ⟨-, rfl⟩
      trivial
    rintro e _ ⟨-, rfl⟩
    have hfail := (((h.append [⟨.get, .ok o.json⟩] rfl).append
      [⟨.deepcopy body, .ok payload⟩] rfl).append
      [⟨.setResourceVersion payload rv, .ok ()⟩] rfl).fail payload e
    have hraised' : LoopRaised
        (((past ++ [⟨.get, .ok o.json⟩]) ++ [⟨.deepcopy body, .ok payload⟩])
          ++ [⟨.setResourceVersion payload rv, .ok ()⟩] ++ [⟨.patch payload, .error e⟩]) :=
      ⟨_, hlt, hfail⟩
    cases e with
    | k8sApi status reason message =>
      dsimp only
      split
      next => exact hraised'
      next hretry => exact ih (by omega) (by
        rwa [show patchMaxAttempts - n = patchMaxAttempts - (n + 1) + 1 by omega])
    | _ => exact hraised'

end Loop

/-! ### What the server keeps -/

/-- A version the server has sent is the current one, or will never be again. -/
def Fetched (s : Server) (o : Versioned) : Prop :=
  o.rv ∈ s.used ∧ ∀ o', s.object = some o' → o'.rv = o.rv → o' = o

/-- All a write can do: its resource version is new. -/
theorem store_eq_some {s s' : Server} {rv : String} {body : Json} {o : Versioned}
    (h : s.store rv body = some (o, s')) :
    o.rv ∉ s.used ∧ s'.object = some o ∧ s'.used = o.rv :: s.used ∧ s'.applied = s.applied ∧
      s'.heap = s.heap := by
  unfold Server.store at h
  split at h
  next hrv =>
    obtain ⟨rfl, rfl⟩ := Prod.mk.inj (Option.some.inj h)
    exact ⟨hrv.2, rfl, rfl, rfl, rfl⟩
  next => cases h

theorem Fetched.store {s s' : Server} {rv : String} {body : Json} {o o' : Versioned}
    (h : Fetched s o) (hs : s.store rv body = some (o', s')) : Fetched s' o := by
  obtain ⟨hfresh, hobject, hused, -, -⟩ := store_eq_some hs
  refine ⟨hused ▸ List.mem_cons_of_mem _ h.1, fun o'' ho'' hrv => ?_⟩
  obtain rfl := Option.some.inj (hobject.symm.trans ho'')
  exact absurd h.1 (hrv ▸ hfresh)

theorem fetched_current {s : Server} {o : Versioned} (h : s.object = some o) : Fetched s o :=
  ⟨s.known o h, fun _ ho' _ => Option.some.inj (ho'.symm.trans h)⟩

/-- All another client's write can do. -/
theorem env_eq_some {s s' : Server} {e : EnvWrite} (h : world.env e s = some s') :
    s'.applied = s.applied ∧ s'.heap = s.heap ∧ ∀ o, Fetched s o → Fetched s' o := by
  cases e with
  | put rv body =>
    obtain ⟨⟨o, s''⟩, hs, rfl⟩ := Option.map_eq_some_iff.1 h
    obtain ⟨-, -, -, happlied, hheap⟩ := store_eq_some hs
    exact ⟨happlied, hheap, fun o ho => ho.store hs⟩
  | delete =>
    obtain rfl := Option.some.inj h
    exact ⟨rfl, rfl, fun o ho => ⟨ho.1, nofun⟩⟩

/-- All a merge patch can do: nothing, or one write. -/
theorem patch_eq_some {s s' : Server} {patch : Json} {rv : String} {x : Except Exc Json}
    (h : s.patch patch rv = some (x, s')) :
    (∃ e, x = .error e ∧ s' = s ∧ ∀ o, s.object = some o → conflicts patch o = true) ∨
      ∃ o o' s'', s.object = some o ∧ conflicts patch o = false ∧
        s.store rv (o.json.mergePatch patch) = some (o', s'') ∧ x = .ok o'.json ∧
        s' = { s'' with applied := s.applied ++ [⟨o, patch⟩] } := by
  unfold Server.patch at h
  split at h
  next hnone =>
    obtain ⟨rfl, rfl⟩ := Prod.mk.inj (Option.some.inj h)
    exact Or.inl ⟨_, rfl, rfl, fun o ho => nomatch hnone.symm.trans ho⟩
  next o ho =>
    split at h
    next hconflict =>
      obtain ⟨rfl, rfl⟩ := Prod.mk.inj (Option.some.inj h)
      refine Or.inl ⟨_, rfl, rfl, fun o' ho' => ?_⟩
      rwa [← Option.some.inj (ho.symm.trans ho')]
    next hconflict =>
      obtain ⟨⟨o', s''⟩, hs, heq⟩ := Option.map_eq_some_iff.1 h
      obtain ⟨rfl, rfl⟩ := Prod.mk.inj heq
      exact Or.inr ⟨o, o', s'', ho, Bool.eq_false_iff.2 hconflict, hs, rfl, rfl⟩

/-- All a fetch can do. -/
theorem get_eq_some {s s' : Server} {i : ℕ} {reply : Reply} {x : Except Exc Json}
    (h : world.exec i .get reply s = some (x, s')) :
    s' = s ∧ ∀ current, x = .ok current → ∃ o, current = o.json ∧ s.object = some o := by
  cases reply with
  | answer rv =>
    simp only [world] at h
    split at h <;> obtain ⟨rfl, rfl⟩ := Prod.mk.inj (Option.some.inj h)
    next o ho => exact ⟨rfl, fun current hc => ⟨o, (Except.ok.inj hc).symm, ho⟩⟩
    next => exact ⟨rfl, by simp⟩
  | fail status reason message =>
    obtain ⟨rfl, rfl⟩ := Prod.mk.inj (Option.some.inj h)
    exact ⟨rfl, by simp⟩

/-- A patch that carries a resource version is applied to no other version. -/
theorem rv_eq_of_not_conflicts {body value : Json} {o o' : Versioned}
    (h : K8s.setResourceVersion body (.str o.rv) = .ok value)
    (hconflict : conflicts value o' = false) : o'.rv = o.rv := by
  obtain ⟨⟨payload, metadata⟩, -, h⟩ := exists_of_bind_ok h
  obtain ⟨metadata', hmetadata, h⟩ := exists_of_bind_ok h
  cases metadata with
  | obj metadata =>
    cases payload with
    | obj payload =>
      obtain rfl := Except.ok.inj hmetadata
      obtain rfl := Except.ok.inj h
      have hrv : o.rv = o'.rv := by simpa [conflicts, Json.fields, o.rv_ne] using hconflict
      exact hrv.symm
    | _ => cases h
  | _ => cases hmetadata

/-! ### What the client's past says of the server -/

/-- An attempt that took effect, as the client saw it. -/
def attemptAnswers (body : ℕ) (current : Json) (payload : ℕ) (rv result : Json) :
    List ApiAnswer :=
  [⟨.get, .ok current⟩, ⟨.deepcopy body, .ok payload⟩,
    ⟨.setResourceVersion payload rv, .ok ()⟩, ⟨.patch payload, .ok result⟩]

/-- An effect on the server is that of an attempt: the patch is the caller's body under the
resource version of the version that the attempt fetched, which is the one it was applied to. -/
structure EffectOfAttempt (body : ℕ) (b : Json) (past : List ApiAnswer) (a : Applied) :
    Prop where
  patch : K8s.setResourceVersion b (.str a.version.rv) = .ok a.patch
  attempt : ∃ payload rv result,
    attemptAnswers body a.version.json payload rv result <:+: past

/-- What holds of the server after the past of the client, whose body `b` stands at `body`. -/
structure Patching (verify : Json → Except Exc Unit) (body : ℕ) (b : Json) (s : Server)
    (past : List ApiAnswer) : Prop where
  body_kept : s.heap[body]? = some b
  fetched : ∀ current, ⟨.get, .ok current⟩ ∈ past → ∃ o, current = o.json ∧ Fetched s o
  copied : ∀ payload, past.getLast? = some ⟨.deepcopy body, .ok payload⟩ →
    payload ≠ body ∧ s.heap[payload]? = some b
  stamped : ∀ payload rv, past.getLast? = some ⟨.setResourceVersion payload rv, .ok ()⟩ →
    ∃ value, s.heap[payload]? = some value ∧ K8s.setResourceVersion b rv = .ok value
  attempts : (patchAnswers past).length ≤ patchMaxAttempts
  no_effect : (∀ x ∈ patchAnswers past, ∃ e, x = .error e) → s.applied = []
  one_effect : s.applied.length ≤ 1
  effects : ∀ a ∈ s.applied, verify a.version.json = .ok () ∧ EffectOfAttempt body b past a

variable {verify : Json → Except Exc Unit} {body : ℕ} {b : Json} {s s' : Server}
  {past : List ApiAnswer}

/-- What other clients do keeps all of it. -/
theorem Patching.env (h : Patching verify body b s past) {e : EnvWrite}
    (he : world.env e s = some s') : Patching verify body b s' past := by
  obtain ⟨happlied, hheap, hfetched⟩ := env_eq_some he
  exact
    { body_kept := hheap ▸ h.body_kept
      fetched := fun current hmem =>
        let ⟨o, ho, hf⟩ := h.fetched current hmem
        ⟨o, ho, hfetched o hf⟩
      copied := hheap ▸ h.copied
      stamped := hheap ▸ h.stamped
      attempts := h.attempts
      no_effect := happlied ▸ h.no_effect
      one_effect := happlied ▸ h.one_effect
      effects := happlied ▸ h.effects }

theorem EffectOfAttempt.append {a : Applied} (h : EffectOfAttempt body b past a)
    (x : ApiAnswer) : EffectOfAttempt body b (past ++ [x]) a :=
  ⟨h.patch,
    let ⟨payload, rv, result, hinfix⟩ := h.attempt
    ⟨payload, rv, result, hinfix.trans (List.prefix_append _ _).isInfix⟩⟩

/-- An answer without an effect on the server. -/
theorem Patching.append (h : Patching verify body b s past) {x : ApiAnswer}
    (hkept : s'.heap[body]? = some b) (happlied : s'.applied = s.applied)
    (hfetched : ∀ o, Fetched s o → Fetched s' o)
    (hget : ∀ current, x = ⟨.get, .ok current⟩ → ∃ o, current = o.json ∧ Fetched s' o)
    (hcopied : ∀ payload, x = ⟨.deepcopy body, .ok payload⟩ →
      payload ≠ body ∧ s'.heap[payload]? = some b)
    (hstamped : ∀ payload rv, x = ⟨.setResourceVersion payload rv, .ok ()⟩ →
      ∃ value, s'.heap[payload]? = some value ∧ K8s.setResourceVersion b rv = .ok value)
    (hattempts : (patchAnswers (past ++ [x])).length ≤ patchMaxAttempts) :
    Patching verify body b s' (past ++ [x]) where
  body_kept := hkept
  fetched current hmem := by
    rcases List.mem_append.1 hmem with hmem | hmem
    · obtain ⟨o, ho, hf⟩ := h.fetched current hmem
      exact ⟨o, ho, hfetched o hf⟩
    · exact hget current (List.mem_singleton.1 hmem).symm
  copied payload hlast := hcopied payload (by simpa using hlast)
  stamped payload rv hlast := hstamped payload rv (by simpa using hlast)
  attempts := hattempts
  no_effect hfail := happlied ▸ h.no_effect fun y hy =>
    hfail y (patchAnswers_append ▸ List.mem_append_left _ hy)
  one_effect := happlied ▸ h.one_effect
  effects a ha := (h.effects a (happlied ▸ ha)).imp_right (·.append x)

/-- The calls of the loop that do not patch leave the number of attempts. -/
theorem Patching.attempts_append (h : Patching verify body b s past) {x : ApiAnswer}
    (hx : patchAnswer x = none) : (patchAnswers (past ++ [x])).length ≤ patchMaxAttempts := by
  simpa [patchAnswers, hx] using h.attempts

/-- An attempt that fails. -/
theorem Patching.fail (h : Patching verify body b s past) {payload n : ℕ} {e : Exc}
    (hn : n < patchMaxAttempts) (hfail : Failures past n) :
    Patching verify body b s (past ++ [⟨.patch payload, .error e⟩]) :=
  h.append h.body_kept rfl (fun _ => id) (by simp) (by simp) (by simp)
    ((hfail.fail payload e).2.symm ▸ hn)

/-- **One call of the loop.** -/
theorem Patching.step (h : Patching verify body b s past) {i : ℕ} {r : ApiCall} {reply : Reply}
    {x : Except Exc r.Resp} (hr : LoopCalls verify body r past)
    (hx : world.exec i r reply s = some (x, s')) :
    Patching verify body b s' (past ++ [⟨r, x⟩]) := by
  cases r with
  | get =>
    -- a new attempt: what it fetched is an object of the server, with the version of then
    obtain ⟨rfl, hcurrent⟩ := get_eq_some hx
    refine h.append h.body_kept rfl (fun _ => id) (fun current hc => ?_) (by simp) (by simp)
      (h.attempts_append rfl)
    obtain ⟨o, ho, hobject⟩ := hcurrent current (by cases hc; rfl)
    exact ⟨o, ho, fetched_current hobject⟩
  | deepcopy dict =>
    obtain ⟨rfl, -⟩ := hr
    obtain ⟨rfl, rfl⟩ := Prod.mk.inj (Option.some.inj hx)
    -- the copy goes to a new place of the heap, so that the body of the caller is kept
    have hlt : dict < s.heap.length := (List.getElem?_eq_some_iff.1 h.body_kept).1
    refine h.append ?_ rfl (fun _ => id) (by simp) (fun payload hp => ?_) (by simp)
      (h.attempts_append rfl)
    · rw [List.getElem?_append_left hlt, h.body_kept]
    · obtain rfl : s.heap.length = payload := by cases hp; rfl
      exact ⟨Nat.ne_of_gt hlt, by simp [h.body_kept]⟩
  | setResourceVersion payload rv =>
    obtain ⟨before, current, -, rfl⟩ := hr
    obtain ⟨hne, hcopy⟩ := h.copied payload (by simp)
    simp only [world, hcopy, Option.getD_some] at hx
    split at hx <;> obtain ⟨rfl, rfl⟩ := Prod.mk.inj (Option.some.inj hx)
    next value hvalue =>
      refine h.append ?_ rfl (fun _ => id) (by simp) (by simp) (fun payload' rv' hp => ?_)
        (h.attempts_append rfl)
      · simp only [List.getElem?_set_ne hne, h.body_kept]
      · cases hp
        exact ⟨value, List.getElem?_set_self (List.getElem?_eq_some_iff.1 hcopy).1, hvalue⟩
    next e he =>
      exact h.append h.body_kept rfl (fun _ => id) (by simp) (by simp) (by simp)
        (h.attempts_append rfl)
  | patch payload =>
    obtain ⟨before, current, rv, ⟨⟨n, hn, hfail⟩, hverify, hversion⟩, rfl⟩ := hr
    have hfail' := hfail.append [⟨.get, .ok current⟩, ⟨.deepcopy body, .ok payload⟩,
      ⟨.setResourceVersion payload rv, .ok ()⟩] rfl
    obtain ⟨value, hvalue, hset⟩ := h.stamped payload rv (by simp)
    obtain ⟨o, rfl, hfetched⟩ := h.fetched current (by simp)
    rw [crResourceVersion_json] at hversion
    obtain rfl := Except.ok.inj hversion
    cases reply with
    | fail status reason message =>
      obtain ⟨rfl, rfl⟩ := Prod.mk.inj (Option.some.inj hx)
      exact h.fail hn hfail'
    | answer rv =>
      simp only [world, hvalue, Option.getD_some] at hx
      rcases patch_eq_some hx with ⟨e, rfl, rfl, hconflict⟩ |
        ⟨o', o'', s'', hobject, hconflict, hstore, rfl, rfl⟩
      · exact h.fail hn hfail'
      -- The version fetched in this attempt is the one the server has now.
      obtain rfl := hfetched.2 o' hobject (rv_eq_of_not_conflicts hset hconflict)
      obtain ⟨-, -, -, -, hheap⟩ := store_eq_some hstore
      have hnone := h.no_effect hfail'.1
      exact
        { body_kept := hheap ▸ h.body_kept
          fetched := by
            intro current hmem
            obtain ⟨o₁, ho₁, hf⟩ := h.fetched current (by simpa using hmem)
            exact ⟨o₁, ho₁, (hf.store hstore).1, (hf.store hstore).2⟩
          copied := by simp
          stamped := by simp
          attempts := by
            rw [patchAnswers_append, List.length_append, hfail'.2]
            exact hn
          no_effect := by simp [patchAnswers, patchAnswer]
          one_effect := by simp [hnone]
          effects := by
            intro a ha
            obtain rfl : a = ⟨o', value⟩ := by simpa [hnone] using ha
            exact ⟨hverify, hset, payload, .str o'.rv, o''.json, before, [],
              by simp [attemptAnswers]⟩ }
  | patchStatus status => exact hr.elim

/-- What was fetched is an object of the server. -/
theorem fromServer_of_exec {i : ℕ} {r : ApiCall} {reply : Reply} {x : Except Exc r.Resp}
    (h : world.exec i r reply s = some (x, s')) : FromServer r x := by
  cases r with
  | get =>
    cases x with
    | ok current =>
      obtain ⟨o, ho, -⟩ := (get_eq_some h).2 current rfl
      exact ⟨o, ho⟩
    | error e => trivial
  | _ => trivial

/-! ### Spec patches -/

/-- A configuration of one patch under way. -/
abbrev PatchConfig : Type := Config ApiCall ApiCall.Resp Exc Json Server

/-- One loop is under way. -/
def LoopUnderway (verify : Json → Except Exc Unit) (body : ℕ) (b : Json) (c : PatchConfig) :
    Prop :=
  ∃ t, c.tasks = [t] ∧ Patching verify body b c.shared t.past ∧
    t.prog.Safe (History FromServer) (LoopCalls verify body) t.past (fun _ _ => True)
      fun _ => LoopRaised

theorem loopUnderway_start (hbody : s.heap[body]? = some b) (happlied : s.applied = []) :
    LoopUnderway verify body b (.start s [patchWithResourceVersion verify body]) := by
  refine ⟨_, rfl, ?_, safe_patchAttempts (Nat.le_refl _) ⟨by simp [patchAnswers], rfl⟩⟩
  exact
    { body_kept := hbody
      fetched := by simp
      copied := by simp
      stamped := by simp
      attempts := Nat.zero_le _
      no_effect := fun _ => happlied
      one_effect := happlied ▸ Nat.zero_le 1
      effects := fun a ha => nomatch happlied ▸ (show a ∈ s.applied from ha) }

theorem loopUnderway_step {c c' : PatchConfig} {e : Event Reply EnvWrite}
    (h : LoopUnderway verify body b c) (hstep : step world c e = some c') :
    LoopUnderway verify body b c' := by
  obtain ⟨t, ht, hpatching, hsafe⟩ := h
  cases e with
  | task i reply =>
    obtain ⟨r, k, past, x, s, hi, hx, rfl⟩ := step_task hstep
    obtain ⟨rfl, rfl⟩ : i = 0 ∧ t = ⟨.await r k, past⟩ := by
      simpa [ht, List.getElem?_singleton] using hi
    exact ⟨⟨k x, past ++ [⟨r, x⟩]⟩, by simp [ht], hpatching.step hsafe.1 hx,
      hsafe.2 x _ ⟨fromServer_of_exec hx, rfl⟩⟩
  | env w =>
    obtain ⟨s, hs, rfl⟩ := step_env hstep
    exact ⟨t, ht, hpatching.env hs, hsafe⟩

/-- What a patch for a workspace may have done, wherever it has got to. -/
structure PatchSafe (workspaceId : String) (body : ℕ) (b : Json) (c : PatchConfig) : Prop where
  at_most_once : c.shared.applied.length ≤ 1
  verified_version : ∀ a ∈ c.shared.applied, crLabel a.version.json = .ok (.str workspaceId) ∧
    ∃ t ∈ c.tasks, EffectOfAttempt body b t.past a
  raised_without_effect : ∀ t ∈ c.tasks, ∀ e, t.prog = .throw e → c.shared.applied = []
  attempts : ∀ t ∈ c.tasks, (patchAnswers t.past).length ≤ patchMaxAttempts
  body_kept : c.shared.heap[body]? = some b

/-- The label check passes the objects with the label. -/
theorem assertLabelUnchanged_eq_ok {message workspaceId : String} {current : Json} :
    assertLabelUnchanged message workspaceId current = .ok () ↔
      crLabel current = .ok (.str workspaceId) := by
  simp only [assertLabelUnchanged]
  cases hlabel : crLabel current with
  | error e => exact iff_of_false nofun nofun
  | ok label =>
    cases label with
    | str actual =>
      by_cases h : actual = workspaceId
      · simp [h, bind, Except.bind, pure, Except.pure]
      · simp [h, bind, Except.bind, throw, throwThe, MonadExceptOf.throw]
    | _ => exact iff_of_false nofun nofun

theorem LoopUnderway.patchSafe {object workspaceId : String} {c : PatchConfig}
    (h : LoopUnderway (verifyLabel object (some workspaceId)) body b c) :
    PatchSafe workspaceId body b c := by
  obtain ⟨t, ht, hpatching, hsafe⟩ := h
  refine ⟨hpatching.one_effect, fun a ha => ?_, ?_, ?_, hpatching.body_kept⟩
  · obtain ⟨hverify, heffect⟩ := hpatching.effects a ha
    exact ⟨assertLabelUnchanged_eq_ok.1 hverify, t, by simp [ht], heffect⟩
  · rintro t' ht' e he
    obtain rfl : t' = t := by simpa [ht] using ht'
    rw [he] at hsafe
    obtain ⟨n, -, hfail⟩ := hsafe
    exact hpatching.no_effect hfail.1
  · rintro t' ht'
    obtain rfl : t' = t := by simpa [ht] using ht'
    exact hpatching.attempts

/-- **A patch that carries its resource version is safe against every concurrent write.** -/
theorem patch_safe_under_concurrent_writes (workspaceId : String) (hbody : s.heap[body]? = some b)
    (happlied : s.applied = []) (es : List (Event Reply EnvWrite)) :
    (∀ namespace_ name, Always world (PatchSafe workspaceId body b)
      (.start s [patchCluster namespace_ name body (some workspaceId)]) es) ∧
    ∀ name, Always world (PatchSafe workspaceId body b)
      (.start s [patchTemplate name body (some workspaceId)]) es := by
  have hloop : ∀ object, Always world (PatchSafe workspaceId body b)
      (.start s [patchWithResourceVersion (verifyLabel object (some workspaceId)) body]) es :=
    fun object => (always_of_step (fun _ _ _ => loopUnderway_step)
      (loopUnderway_start hbody happlied)).imp fun _ => LoopUnderway.patchSafe
  exact ⟨fun _ _ => hloop _, fun _ => hloop _⟩

/-- A custom resource with a workspace label. -/
def labelled (workspaceId : String) : Json :=
  .obj [("metadata", .obj [("labels", .obj [(workspaceLabel, .str workspaceId)])])]

/-- An API server that holds one object, and a client whose heap holds one dictionary. -/
def serverOf (object : Versioned) (b : Json) : Server where
  object := some object
  used := [object.rv]
  known := by rintro o ⟨⟩; exact List.mem_singleton_self _
  heap := [b]

/-- The first attempt meets a concurrent write, the second one patches. -/
def conflictRun : List (Event Reply EnvWrite) :=
  [.task 0 (.answer ""), .task 0 (.answer ""), .task 0 (.answer ""),
    .env (.put "2" (labelled "ws-1")), .task 0 (.answer "3"), .task 0 (.answer ""),
    .task 0 (.answer ""), .task 0 (.answer ""), .task 0 (.answer "3")]

/-- The patch is applied once, to the version that the other client wrote. -/
theorem patch_safe_under_concurrent_writes_conflict :
    (∃ c, run world (.start (serverOf ⟨"1", by decide, labelled "ws-1"⟩ (.obj []))
        [patchCluster "ns" "n" 0 (some "ws-1")]) conflictRun = some c ∧
          c.shared.applied.map (·.version.rv) = ["2"]) ∧
      Always world (PatchSafe "ws-1" 0 (.obj []))
        (.start (serverOf ⟨"1", by decide, labelled "ws-1"⟩ (.obj []))
          [patchCluster "ns" "n" 0 (some "ws-1")]) conflictRun :=
  ⟨⟨_, rfl, by rfl⟩, (patch_safe_under_concurrent_writes "ws-1" rfl rfl _).1 "ns" "n"⟩

/-! ### Status patches -/

/-- The calls of a status patch, by the past that leads to them. -/
def StatusCalls (workspaceId : String) : ApiCall → List ApiAnswer → Prop
  | .get, past => past = []
  | .patchStatus _, past =>
      ∃ current, past = [⟨.get, .ok current⟩] ∧ crLabel current = .ok (.str workspaceId)
  | _, _ => False

/-- When a status patch is applied, the object has the workspace label it was fetched with. -/
def LabelUnchangedSinceFetch : Guard ApiCall ApiCall.Resp Exc Reply Server :=
  fun _ r reply past s => match r, reply with
    | .patchStatus _, .answer _ => ∀ current o, ⟨.get, .ok current⟩ ∈ past →
        s.object = some o → crLabel o.json = crLabel current
    | _, _ => True

/-- Every patch that took effect found the label. -/
def AppliedToLabel (workspaceId : String) (c : PatchConfig) : Prop :=
  ∀ a ∈ c.shared.applied, crLabel a.version.json = .ok (.str workspaceId)

theorem safe_patchClusterStatus {namespace_ name workspaceId : String} {statusPatch : Json} :
    (patchClusterStatus namespace_ name statusPatch (some workspaceId)).Safe (History FromServer)
      (StatusCalls workspaceId) [] (fun _ _ => True) (fun _ _ => True) := by
  simp only [patchClusterStatus, Coroutine.safe_tryCatch, Coroutine.safe_bind]
  refine Coroutine.safe_call.2 ⟨rfl, ?_, fun e _ _ => trivial⟩
  rintro current _ ⟨-, rfl⟩
  rw [Coroutine.safe_lift]
  refine ⟨fun _ hlabel => ?_, fun e _ => trivial⟩
  exact Coroutine.safe_call.2 ⟨⟨current, rfl, assertLabelUnchanged_eq_ok.1 hlabel⟩,
    fun _ _ _ => trivial, fun _ _ _ => trivial⟩

/-- A status patch is under way. -/
def StatusUnderway (workspaceId : String) (c : PatchConfig) : Prop :=
  ∃ t, c.tasks = [t] ∧ t.prog.Safe (History FromServer) (StatusCalls workspaceId) t.past
    (fun _ _ => True) fun _ _ => True

theorem statusUnderway_step {workspaceId : String} {c c' : PatchConfig}
    {e : Event Reply EnvWrite} (h : StatusUnderway workspaceId c)
    (hstep : step world c e = some c') : StatusUnderway workspaceId c' := by
  obtain ⟨t, ht, hsafe⟩ := h
  cases e with
  | task i reply =>
    obtain ⟨r, k, past, x, s, hi, hx, rfl⟩ := step_task hstep
    obtain ⟨rfl, rfl⟩ : i = 0 ∧ t = ⟨.await r k, past⟩ := by
      simpa [ht, List.getElem?_singleton] using hi
    exact ⟨⟨k x, past ++ [⟨r, x⟩]⟩, by simp [ht], hsafe.2 x _ ⟨fromServer_of_exec hx, rfl⟩⟩
  | env w =>
    obtain ⟨s, -, rfl⟩ := step_env hstep
    exact ⟨t, ht, hsafe⟩

/-- One call of a status patch finds the label exactly if it is unchanged since the fetch. -/
theorem appliedToLabel_exec_iff {workspaceId : String} {i : ℕ} {r : ApiCall} {reply : Reply}
    {x : Except Exc r.Resp} (hr : StatusCalls workspaceId r past)
    (happlied : ∀ a ∈ s.applied, crLabel a.version.json = .ok (.str workspaceId))
    (hx : world.exec i r reply s = some (x, s')) :
    (∀ a ∈ s'.applied, crLabel a.version.json = .ok (.str workspaceId)) ↔
      LabelUnchangedSinceFetch i r reply past s := by
  cases r with
  | get =>
    obtain ⟨rfl, -⟩ := get_eq_some hx
    exact iff_of_true happlied trivial
  | patchStatus body =>
    obtain ⟨current, rfl, hlabel⟩ := hr
    cases reply with
    | fail status reason message =>
      obtain ⟨rfl, rfl⟩ := Prod.mk.inj (Option.some.inj hx)
      exact iff_of_true happlied trivial
    | answer rv =>
      rcases patch_eq_some hx with ⟨e, rfl, rfl, hconflict⟩ |
        ⟨o, o', s'', hobject, -, hstore, rfl, rfl⟩
      · -- A status patch names no resource version, so only a missing object refuses it.
        exact iff_of_true happlied fun _ o _ ho => nomatch hconflict o ho
      · simp only [LabelUnchangedSinceFetch, List.mem_append, List.mem_singleton, hobject]
        constructor
        · rintro h current' o₁ hcurrent ⟨⟩
          cases hcurrent
          exact (h ⟨o, _⟩ (Or.inr rfl)).trans hlabel.symm
        · rintro h a (ha | rfl)
          · exact happlied a ha
          · exact (h current o rfl rfl).trans hlabel
  | _ => exact hr.elim

/-- **A status patch lands on the label it was verified for exactly as long as no one relabels
the object between its fetch and its application.** -/
theorem status_patch_label_iff (workspaceId : String) (happlied : s.applied = [])
    (namespace_ name : String) (statusPatch : Json) (es : List (Event Reply EnvWrite)) :
    Always world (AppliedToLabel workspaceId)
      (.start s [patchClusterStatus namespace_ name statusPatch (some workspaceId)]) es ↔
    Guarded world LabelUnchangedSinceFetch
      (.start s [patchClusterStatus namespace_ name statusPatch (some workspaceId)]) es := by
  refine always_iff_guarded (J := StatusUnderway workspaceId)
    (fun _ _ _ => statusUnderway_step) (fun c e c' h hlabel hstep => ?_)
    ⟨_, rfl, safe_patchClusterStatus⟩ fun a ha => nomatch happlied ▸ (show a ∈ s.applied from ha)
  obtain ⟨t, ht, hsafe⟩ := h
  cases e with
  | task i reply =>
    obtain ⟨r, k, past, x, s, hi, hx, rfl⟩ := step_task hstep
    obtain ⟨rfl, rfl⟩ : i = 0 ∧ t = ⟨.await r k, past⟩ := by
      simpa [ht, List.getElem?_singleton] using hi
    rw [permits_task hi]
    exact appliedToLabel_exec_iff hsafe.1 hlabel hx
  | env w =>
    obtain ⟨s, hs, rfl⟩ := step_env hstep
    refine iff_of_true (fun a ha => hlabel a ?_) trivial
    rwa [← (env_eq_some hs).1]

theorem status_patch_label_iff_unchanged :
    Always world (AppliedToLabel "ws-1")
      (.start (serverOf ⟨"1", by decide, labelled "ws-1"⟩ .null)
        [patchClusterStatus "ns" "n" (.obj []) (some "ws-1")])
      [.task 0 (.answer ""), .task 0 (.answer "2")] := by
  refine (status_patch_label_iff "ws-1" rfl "ns" "n" (.obj []) _).2 ?_
  rintro _ ⟨⟩
  refine ⟨trivial, ?_⟩
  rintro _ ⟨⟩
  refine ⟨?_, trivial⟩
  rintro _ _ hcurrent ⟨⟩
  obtain ⟨⟩ := List.mem_singleton.1 hcurrent
  rfl

/-- The object is relabelled between the fetch and the patch, and the patch is applied. -/
theorem status_patch_applied_after_relabel :
    ¬ Always world (AppliedToLabel "ws-1")
      (.start (serverOf ⟨"1", by decide, labelled "ws-1"⟩ .null)
        [patchClusterStatus "ns" "n" (.obj []) (some "ws-1")])
      [.task 0 (.answer ""), .env (.put "2" (labelled "ws-2")), .task 0 (.answer "3")] := by
  intro h
  have hlabel : (.ok (.str "ws-2") : Except Exc Json) = .ok (.str "ws-1") :=
    h.run rfl _ List.mem_cons_self
  exact absurd (Json.str.inj (Except.ok.inj hlabel)) (by decide)

end ClusterManager.K8s
