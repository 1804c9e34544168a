import Mathlib.Algebra.Order.Ring.Rat
import Mathlib.Tactic.Linarith
import ClusterManager.Lib.Trace
import ClusterManager.Oidc.JwksCache

/-!
# How stale a signing key can be

`answers_lawful_of_run` says of the trace of a run which key a call may return, and when a call may
send a request to the issuer. The invariant ties the four timers of the cache to what happened: the
expiry is that of the latest fetch, and the two cool-downs bound the times of the refetches of a
fresh set and of the failures beside a stale one.
-/

namespace ClusterManager.Oidc

open Trace

/-! ### The law -/

/-- The key set that an event fetches, and its expiry. -/
def Event.keySet : Event → Option (KeySet × ℚ)
  | .fetched keys expiresAt => some (keys, expiresAt)
  | _ => none

/-- The key set of the latest successful fetch, and its expiry. -/
def latestFetch (past : List Event) : Option (KeySet × ℚ) :=
  (past.filterMap Event.keySet).getLast?

/-- The latest key set has not expired. -/
def Fresh (past : List Event) (now : ℚ) : Prop :=
  ∃ keys expiresAt, latestFetch past = some (keys, expiresAt) ∧ now < expiresAt

/-- The latest key set has expired, and may still be served. -/
def Stale (past : List Event) (now : ℚ) : Prop :=
  ∃ keys expiresAt, latestFetch past = some (keys, expiresAt) ∧ keys ≠ [] ∧ expiresAt ≤ now ∧
    now ≤ expiresAt + staleJwksGraceSeconds

/-- A refetch of a fresh set began by `limit`. -/
def FreshRefetchBy (limit : ℚ) (past : List Event) : Event → Prop
  | .asked _ time => Fresh past time → time ≤ limit
  | _ => True

/-- A refetch that failed beside a stale set began by `limit`. -/
def StaleFailureBy (limit : ℚ) (past : List Event) : Event → Prop
  | .failed time (.authError _) => Stale past time → time ≤ limit
  | _ => True

/-- What each event must be, after what happened before it. A fresh set is refetched for an
unknown key only, a cool-down after the last such refetch; a stale one a cool-down after the last
failure; and a key that is returned is of the latest set, not longer than the grace period after
its expiry. -/
def Lawful (past : List Event) : Event → Prop
  | .asked kid now =>
      (Fresh past now →
        (∀ keys expiresAt, latestFetch past = some (keys, expiresAt) → keys.get? kid = none) ∧
          Always (FreshRefetchBy (now - kidMissBackoffSeconds)) past) ∧
      (Stale past now → Always (StaleFailureBy (now - staleRefreshBackoffSeconds)) past)
  | .answered kid now result => ∀ jwk, result = .ok (some jwk) →
      ∃ keys expiresAt, latestFetch past = some (keys, expiresAt) ∧ keys.get? kid = some jwk ∧
        now ≤ expiresAt + staleJwksGraceSeconds
  | _ => True

/-- Before a fetch has succeeded, no call returns a key. -/
def FailsClosed (past : List Event) : Event → Prop
  | .answered _ _ result => latestFetch past = none → ∀ jwk, result ≠ .ok (some jwk)
  | _ => True

theorem Lawful.failsClosed {past : List Event} {e : Event} (h : Lawful past e) :
    FailsClosed past e := by
  cases e with
  | answered kid now result =>
    intro hnone jwk hresult
    obtain ⟨keys, expiresAt, hlatest, -⟩ := h jwk hresult
    rw [hnone] at hlatest
    cases hlatest
  | asked kid now => trivial
  | fetched keys expiresAt => trivial
  | failed now error => trivial

theorem latestFetch_concat {past : List Event} {e : Event} :
    latestFetch (past ++ [e]) = e.keySet.or (latestFetch past) := by
  cases h : e.keySet <;> simp [latestFetch, h]

theorem FreshRefetchBy.mono {limit limit' : ℚ} (hle : limit ≤ limit') (past : List Event)
    (e : Event) (h : FreshRefetchBy limit past e) : FreshRefetchBy limit' past e := by
  cases e with
  | asked kid time => exact fun hfresh => (h hfresh).trans hle
  | fetched keys expiresAt => trivial
  | failed now error => trivial
  | answered kid now result => trivial

theorem StaleFailureBy.mono {limit limit' : ℚ} (hle : limit ≤ limit') (past : List Event)
    (e : Event) (h : StaleFailureBy limit past e) : StaleFailureBy limit' past e := by
  cases e with
  | failed now error =>
    cases error with
    | authError detail => exact fun hstale => (h hstale).trans hle
    | uncaught => trivial
  | asked kid time => trivial
  | fetched keys expiresAt => trivial
  | answered kid now result => trivial

/-! ### The invariant -/

/-- What is known of a refetch under way. -/
structure Refresh.Holds (r : Refresh) (m : Middleware) : Prop where
  now_le : r.now ≤ m.clock
  expired : r.ttlExpired = true → m.cache.jwksExpiresAt ≤ r.now
  fresh : r.ttlExpired = false → r.now < m.cache.jwksExpiresAt
  backoff : r.ttlExpired = true → m.cache.canServeStale r.now = true →
    m.cache.lastFailedRefreshAt + staleRefreshBackoffSeconds ≤ r.now

namespace Middleware

/-- What holds in every state of a run. -/
structure Kept (m : Middleware) : Prop where
  jwksByKid : m.cache.jwksByKid = ((latestFetch m.trace).map Prod.fst).getD []
  expiresAt : ∀ p ∈ latestFetch m.trace, m.cache.jwksExpiresAt = p.2
  refetches : Always (FreshRefetchBy m.cache.lastKidMissRefreshAt) m.trace
  failures : Always (StaleFailureBy m.cache.lastFailedRefreshAt) m.trace
  refresh : ∀ r ∈ m.refresh, r.Holds m
  lawful : Always Lawful m.trace

variable {m m' : Middleware} {kid : String} {now : ℚ} {r : Refresh} {e : Event}

theorem kept_initial {ttl : ℕ} {clock : ℚ} : Kept (initial ttl clock) where
  jwksByKid := rfl
  expiresAt := by simp [initial, latestFetch]
  refetches := always_nil
  failures := always_nil
  refresh := by simp [initial]
  lawful := always_nil

/-- The clock goes on. -/
theorem Kept.later (h : Kept m) (hnow : m.clock ≤ now) : Kept { m with clock := now } :=
  { h with refresh := fun r hr => { h.refresh r hr with
      now_le := (h.refresh r hr).now_le.trans hnow } }

/-- The set in the cache is the latest one, where it has a key. -/
theorem Kept.latest (h : Kept m) (hne : m.cache.jwksByKid ≠ []) :
    latestFetch m.trace = some (m.cache.jwksByKid, m.cache.jwksExpiresAt) := by
  cases hlatest : latestFetch m.trace with
  | none => exact absurd (by rw [h.jwksByKid, hlatest]; rfl) hne
  | some p =>
    have hkeys := h.jwksByKid
    rw [hlatest] at hkeys
    rw [h.expiresAt p hlatest, hkeys]
    rfl

theorem Kept.fresh_iff (h : Kept m) :
    Fresh m.trace now ↔ (latestFetch m.trace).isSome ∧ now < m.cache.jwksExpiresAt := by
  constructor
  · rintro ⟨keys, expiresAt, hlatest, hlt⟩
    rw [h.expiresAt _ hlatest, hlatest]
    exact ⟨rfl, hlt⟩
  · rintro ⟨hsome, hlt⟩
    obtain ⟨⟨keys, expiresAt⟩, hlatest⟩ := Option.isSome_iff_exists.1 hsome
    exact ⟨keys, expiresAt, hlatest, by rwa [h.expiresAt _ hlatest] at hlt⟩

theorem Kept.stale_iff (h : Kept m) : Stale m.trace now ↔
    m.cache.jwksExpiresAt ≤ now ∧ m.cache.canServeStale now = true := by
  constructor
  · rintro ⟨keys, expiresAt, hlatest, hne, hexpired, hgrace⟩
    have hkeys := h.jwksByKid
    rw [hlatest] at hkeys
    refine ⟨h.expiresAt _ hlatest ▸ hexpired, ?_⟩
    rw [JwksCache.canServeStale, h.expiresAt _ hlatest, hkeys]
    simpa [hne, sub_le_iff_le_add, add_comm] using hgrace
  · rintro ⟨hexpired, hserve⟩
    rw [JwksCache.canServeStale, Bool.and_eq_true, decide_eq_true_iff] at hserve
    have hne : m.cache.jwksByKid ≠ [] := by simpa using hserve.1
    exact ⟨_, _, h.latest hne, hne, hexpired, sub_le_iff_le_add'.1 hserve.2⟩

/-- An event that fetches nothing. -/
theorem Kept.note (h : Kept m) (hkeySet : e.keySet = none) (hlawful : Lawful m.trace e)
    (hrefetch : FreshRefetchBy m.cache.lastKidMissRefreshAt m.trace e)
    (hfailure : StaleFailureBy m.cache.lastFailedRefreshAt m.trace e) : Kept (m.note e) where
  jwksByKid := by
    dsimp only [Middleware.note]
    rw [latestFetch_concat, hkeySet]
    exact h.jwksByKid
  expiresAt := by
    dsimp only [Middleware.note]
    rw [latestFetch_concat, hkeySet]
    exact h.expiresAt
  refetches := always_concat.2 ⟨h.refetches, hrefetch⟩
  failures := always_concat.2 ⟨h.failures, hfailure⟩
  refresh := fun r hr => { h.refresh r hr with }
  lawful := always_concat.2 ⟨h.lawful, hlawful⟩

/-- The lock is released. -/
theorem Kept.released (h : Kept m) : Kept { m with refresh := none } :=
  { h with refresh := by simp }

theorem Kept.answer {result : Except RefreshError (Option Json)} (h : Kept m)
    (hlawful : Lawful m.trace (.answered kid now result)) : Kept (m.answer kid now result) :=
  h.released.note rfl hlawful trivial trivial

/-- A key from the cache is lawful up to the grace period after the expiry. -/
theorem Kept.answered_lawful (h : Kept m)
    (hgrace : m.cache.jwksByKid ≠ [] → now ≤ m.cache.jwksExpiresAt + staleJwksGraceSeconds) :
    Lawful m.trace (.answered kid now (.ok (m.cache.jwksByKid.get? kid))) := by
  intro jwk hresult
  have hget : m.cache.jwksByKid.get? kid = some jwk := Except.ok.inj hresult
  have hne : m.cache.jwksByKid ≠ [] := by
    rintro hnil
    rw [hnil] at hget
    cases hget
  exact ⟨_, _, h.latest hne, hget, hgrace hne⟩

theorem Kept.answerFromCache (h : Kept m)
    (hgrace : m.cache.jwksByKid ≠ [] → now ≤ m.cache.jwksExpiresAt + staleJwksGraceSeconds) :
    Kept (m.answerFromCache kid now) :=
  h.answer (h.answered_lawful hgrace)

theorem staleJwksGraceSeconds_nonneg : 0 ≤ staleJwksGraceSeconds := by
  norm_num [staleJwksGraceSeconds]

/-- A set is fresh: it can be answered from. -/
theorem within_grace (hlt : now < m.cache.jwksExpiresAt) :
    now ≤ m.cache.jwksExpiresAt + staleJwksGraceSeconds :=
  hlt.le.trans (le_add_of_nonneg_right staleJwksGraceSeconds_nonneg)

/-- A set that can be served stale is within its grace period. -/
theorem within_grace_of_canServeStale (hserve : m.cache.canServeStale now = true) :
    now ≤ m.cache.jwksExpiresAt + staleJwksGraceSeconds := by
  rw [JwksCache.canServeStale, Bool.and_eq_true, decide_eq_true_iff] at hserve
  exact sub_le_iff_le_add'.1 hserve.2

/-! ### The stretches of a call -/

theorem Kept.keyForKid (h : Kept m) : Kept (m.keyForKid kid now) := by
  unfold Middleware.keyForKid
  cases hget : m.cache.jwksByKid.get? kid with
  | none => exact { h with refresh := fun r hr => { h.refresh r hr with } }
  | some jwk =>
    dsimp only
    split_ifs with hlt
    · refine h.note rfl ?_ trivial trivial
      rw [← hget]
      exact h.answered_lawful fun _ => within_grace hlt
    · exact { h with refresh := fun r hr => { h.refresh r hr with } }

/-- A refetch of an expired set. -/
theorem Kept.refetch_expired (h : Kept m) (hnow : now ≤ m.clock)
    (hexpired : m.cache.jwksExpiresAt ≤ now) (hbackoff : m.cache.inRefreshBackoff now = false) :
    Kept (m.beginRefresh kid now true) := by
  have hcool : m.cache.canServeStale now = true →
      m.cache.lastFailedRefreshAt + staleRefreshBackoffSeconds ≤ now := by
    intro hserve
    rw [JwksCache.inRefreshBackoff, hserve, Bool.true_and, decide_eq_false_iff_not,
      not_lt] at hbackoff
    linarith
  have hnotfresh : ¬ Fresh m.trace now := fun hfresh =>
    absurd (h.fresh_iff.1 hfresh).2 (not_lt.2 hexpired)
  have hheld : Kept { m with refresh := some ⟨kid, now, true, m.cache.jwksUri⟩ } :=
    { h with
      refresh := by
        rintro r ⟨⟩
        exact ⟨hnow, fun _ => hexpired, by simp, fun _ => hcool⟩ }
  refine hheld.note rfl ⟨fun hfresh => absurd hfresh hnotfresh, fun hstale => ?_⟩
    (fun hfresh => absurd hfresh hnotfresh) trivial
  have := hcool (h.stale_iff.1 hstale).2
  exact h.failures.mono (StaleFailureBy.mono (by linarith))

/-- A refetch of a fresh set, for a key that it does not have. -/
theorem Kept.refetch_fresh (h : Kept m) (hnow : now ≤ m.clock)
    (hfresh : now < m.cache.jwksExpiresAt) (hmiss : m.cache.jwksByKid.get? kid = none)
    (hcool : kidMissBackoffSeconds ≤ now - m.cache.lastKidMissRefreshAt) :
    Kept ({ m with cache := { m.cache with lastKidMissRefreshAt := now } }.beginRefresh
      kid now false) := by
  have hle : m.cache.lastKidMissRefreshAt ≤ now := by
    have : (0 : ℚ) ≤ kidMissBackoffSeconds := by norm_num [kidMissBackoffSeconds]
    linarith
  have hheld : Kept { m with
      cache := { m.cache with lastKidMissRefreshAt := now }
      refresh := some ⟨kid, now, false, m.cache.jwksUri⟩ } :=
    { h with
      refetches := h.refetches.mono (FreshRefetchBy.mono hle)
      refresh := by
        rintro r ⟨⟩
        exact ⟨hnow, by simp, fun _ => hfresh, by simp⟩ }
  refine hheld.note rfl ⟨fun _ => ⟨?_, ?_⟩, fun hstale => ?_⟩ (fun _ => le_rfl) trivial
  · intro keys expiresAt hlatest
    have hkeys := h.jwksByKid
    rw [show latestFetch m.trace = some (keys, expiresAt) from hlatest] at hkeys
    rwa [hkeys] at hmiss
  · exact h.refetches.mono (FreshRefetchBy.mono (by linarith))
  · exact absurd (h.stale_iff.1 hstale).1 (not_le.2 hfresh)

theorem Kept.keyForKidLocked (h : Kept m) (hnow : now ≤ m.clock) :
    Kept (m.keyForKidLocked kid now) := by
  unfold Middleware.keyForKidLocked
  split_ifs with hexpired hbackoff hmiss
  · have hserve : m.cache.canServeStale now = true := by
      rw [JwksCache.inRefreshBackoff, Bool.and_eq_true] at hbackoff
      exact hbackoff.1
    exact h.answerFromCache fun _ => within_grace_of_canServeStale hserve
  · exact h.refetch_expired hnow hexpired (by simpa using hbackoff)
  · exact h.refetch_fresh hnow (not_le.1 hexpired) hmiss.1 hmiss.2
  · exact h.answerFromCache fun _ => within_grace (not_le.1 hexpired)

/-- A failure beside a set that cannot be served stale is not one that the cool-down counts. -/
theorem Kept.note_failed {error : RefreshError} (h : Kept m) (hr : r.Holds m)
    (hserve : (r.ttlExpired && m.cache.canServeStale r.now) = false) :
    Kept (m.note (.failed r.now error)) := by
  refine h.note rfl trivial trivial ?_
  cases error with
  | uncaught => trivial
  | authError detail =>
    intro hstale
    obtain ⟨hexpired, hstale⟩ := h.stale_iff.1 hstale
    cases httl : r.ttlExpired with
    | false => exact absurd (hr.fresh httl) (not_lt.2 hexpired)
    | true => simp [httl, hstale] at hserve

theorem Kept.refreshRaised {error : RefreshError} (h : Kept m) (hr : r.Holds m) :
    Kept (m.refreshRaised r error) := by
  have hraised : ∀ m : Middleware, Kept m → Kept (m.answer r.kid r.now (.error error)) :=
    fun m hm => hm.answer (by rintro jwk ⟨⟩)
  cases error with
  | uncaught =>
    exact hraised _ (h.note rfl trivial trivial trivial)
  | authError detail =>
    cases hserve : (r.ttlExpired && m.cache.canServeStale r.now) with
    | false =>
      have heq : m.refreshRaised r (.authError detail) =
          (m.note (.failed r.now (.authError detail))).answer r.kid r.now
            (.error (.authError detail)) := by
        simp only [Middleware.refreshRaised, Middleware.note, hserve]
        rfl
      rw [heq]
      exact hraised _ (h.note_failed hr hserve)
    | true =>
      have heq : m.refreshRaised r (.authError detail) =
          (({ m with cache := { m.cache with lastFailedRefreshAt := r.now } }).note
            (.failed r.now (.authError detail))).answerFromCache r.kid r.now := by
        simp only [Middleware.refreshRaised, Middleware.note, hserve]
        rfl
      rw [Bool.and_eq_true] at hserve
      have hcool := hr.backoff hserve.1 hserve.2
      have hle : m.cache.lastFailedRefreshAt ≤ r.now := by
        have : (0 : ℚ) ≤ staleRefreshBackoffSeconds := by norm_num [staleRefreshBackoffSeconds]
        linarith
      have hfailed : Kept { m with
          cache := { m.cache with lastFailedRefreshAt := r.now }, refresh := none } :=
        { h with
          failures := h.failures.mono (StaleFailureBy.mono hle)
          refresh := by simp }
      rw [heq]
      have hnoted := hfailed.note (e := .failed r.now (.authError detail)) rfl trivial trivial
        fun _ => le_rfl
      exact hnoted.answerFromCache fun _ => within_grace_of_canServeStale (m := m) hserve.2

theorem Kept.refreshed {time : ℚ} {keys : KeySet} (h : Kept m) (hr : r.Holds m)
    (htime : m.clock ≤ time) : Kept (m.refreshed r time keys) := by
  have hfetched : Kept { m with
      cache := { m.cache with jwksByKid := keys, jwksExpiresAt := time + m.jwksCacheTtlSeconds }
      refresh := none
      trace := m.trace ++ [.fetched keys (time + m.jwksCacheTtlSeconds)] } :=
    { jwksByKid := by
        dsimp only
        rw [latestFetch_concat]
        rfl
      expiresAt := by
        dsimp only
        rw [latestFetch_concat]
        rintro p ⟨⟩
        rfl
      refetches := always_concat.2 ⟨h.refetches, trivial⟩
      failures := always_concat.2 ⟨h.failures, trivial⟩
      refresh := by simp
      lawful := always_concat.2 ⟨h.lawful, trivial⟩ }
  have httl : (0 : ℚ) ≤ m.jwksCacheTtlSeconds := Nat.cast_nonneg _
  refine hfetched.answerFromCache fun _ => ?_
  have := hr.now_le
  have := staleJwksGraceSeconds_nonneg
  dsimp only
  linarith

theorem Kept.replied {reply : Reply} (h : Kept m) (hr : m.refresh = some r)
    (htime : m.clock ≤ now) : Kept (m.replied r now reply) := by
  have hholds := h.refresh r hr
  unfold Middleware.replied
  cases r.asking with
  | none =>
    cases jwksUriOf reply with
    | error error => exact h.refreshRaised hholds
    | ok uri =>
      exact { h with
        refresh := by
          rintro r' ⟨⟩
          exact { hholds with } }
  | some uri =>
    cases keySetOf reply with
    | error error => exact h.refreshRaised hholds
    | ok keys => exact h.refreshed hholds htime

theorem kept_step {action : Action} (h : Kept m) (hstep : m.step now action = some m') :
    Kept m' := by
  unfold step at hstep
  split at hstep
  next => cases hstep
  next hnow =>
    have hlater := h.later (not_lt.1 hnow)
    cases action with
    | enter kid =>
      obtain rfl := Option.some.inj hstep
      exact hlater.keyForKid
    | acquire kid =>
      cases hrefresh : m.refresh with
      | some r => simp [hrefresh] at hstep
      | none =>
        simp only [hrefresh] at hstep
        split at hstep
        next =>
          obtain rfl := Option.some.inj hstep
          exact Kept.keyForKidLocked { hlater with refresh := by simp } le_rfl
        next => cases hstep
    | reply reply =>
      cases hrefresh : m.refresh with
      | none => simp [hrefresh] at hstep
      | some r =>
        simp only [hrefresh] at hstep
        obtain rfl := Option.some.inj hstep
        exact hlater.replied hrefresh le_rfl

theorem kept_run {actions : List (ℚ × Action)} (h : Kept m) (hrun : m.run actions = some m') :
    Kept m' := by
  induction actions generalizing m with
  | nil => exact Option.some.inj hrun ▸ h
  | cons action actions ih =>
    obtain ⟨now, action⟩ := action
    obtain ⟨s, hstep, hrun⟩ := Option.bind_eq_some_iff.1 hrun
    exact ih (kept_step h hstep) hrun

/-- In every run of one instance each event is lawful, and no key is returned before a fetch has
succeeded. -/
theorem answers_lawful_of_run {ttl : ℕ} {clock : ℚ} {actions : List (ℚ × Action)}
    (hrun : (initial ttl clock).run actions = some m) :
    Always Lawful m.trace ∧ Always FailsClosed m.trace :=
  let h := kept_run kept_initial hrun
  ⟨h.lawful, h.lawful.mono fun _ _ => Lawful.failsClosed⟩

/-- A key set is fetched, asked for a key that it does not have, and served after its expiry while
the issuer is down. -/
def outage : List (ℚ × Action) :=
  let keys := Reply.body (some (.obj [("keys", .arr [.obj [("kid", .str "k")]])]))
  [(100, .enter "k"), (100, .acquire "k"),
    (101, .reply (.body (some (.obj [("jwks_uri", .str "https://issuer/certs")])))),
    (101, .reply keys), (102, .enter "x"), (102, .acquire "x"), (103, .reply keys),
    (104, .enter "x"), (104, .acquire "x"), (800, .enter "k"), (800, .acquire "k"),
    (801, .reply (.httpError "503")), (810, .enter "k"), (810, .acquire "k")]

/-- The key id and the clock of a call that returned a key. -/
def served : Event → Option (String × ℚ)
  | .answered kid now (.ok (some _)) => some (kid, now)
  | _ => none

/-- The key set ends at 703. The key is returned before, and twice in the grace period. -/
theorem lawful_outage :
    ∃ m, (initial 600 0).run outage = some m ∧
      m.trace.filterMap served = [("k", 100), ("k", 800), ("k", 810)] ∧
      (latestFetch m.trace).map Prod.snd = some 703 ∧ m.trace.length = 11 ∧
      m.cache.lastKidMissRefreshAt = 102 ∧ m.cache.lastFailedRefreshAt = 800 ∧
      Always Lawful m.trace ∧ Always FailsClosed m.trace := by
  have htimers : ((initial 600 0).run outage).map (fun m =>
      (m.trace.filterMap served, (latestFetch m.trace).map Prod.snd, m.trace.length,
        m.cache.lastKidMissRefreshAt, m.cache.lastFailedRefreshAt)) =
      some ([("k", 100), ("k", 800), ("k", 810)], some 703, 11, 102, 800) := by decide +kernel
  cases hrun : (initial 600 0).run outage with
  | none => rw [hrun] at htimers; cases htimers
  | some m =>
    rw [hrun] at htimers
    simp only [Option.map_some, Option.some.injEq, Prod.mk.injEq] at htimers
    obtain ⟨hserved, hends, hlength, hmiss, hfailed⟩ := htimers
    exact ⟨m, rfl, hserved, hends, hlength, hmiss, hfailed, answers_lawful_of_run hrun⟩

end Middleware

end ClusterManager.Oidc
