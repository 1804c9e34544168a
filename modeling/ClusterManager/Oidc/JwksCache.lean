import Mathlib.Data.Rat.Defs
import ClusterManager.Json

/-!
# The signing keys of the issuer

`OIDCAuthMiddleware` verifies a token with a key of the issuer's key set, which it keeps
(`JwksCache`). A call of `_key_for_kid` answers from a fresh set at once; otherwise it waits for
the lock and, under it, decides whether to refetch the set. Between two awaits nothing else runs,
so a run is any order of the stretches between them (`Middleware.step`), each of which reads the
clock once.
-/

namespace ClusterManager.Oidc

/-- `_KID_MISS_BACKOFF_SECONDS`. -/
def kidMissBackoffSeconds : ℚ := 30

/-- `_STALE_JWKS_GRACE_SECONDS`. -/
def staleJwksGraceSeconds : ℚ := 3600

/-- `_STALE_REFRESH_BACKOFF_SECONDS`. -/
def staleRefreshBackoffSeconds : ℚ := 30

/-- The key sets, by key id. -/
abbrev KeySet : Type := Dict String Json

/-! ### Fetching a key set -/

/-- What a GET comes to: an `httpx.HTTPError`, of the transport or of `raise_for_status`, or a
body, which is `none` where it is not JSON. -/
inductive Reply
  | httpError (message : String)
  | body (json : Option Json)

/-- What a refetch raises: `_AuthError`, or an exception that nothing catches. -/
inductive RefreshError
  | authError (detail : String)
  | uncaught

/-- The `jwks_uri` of the discovery document. -/
def jwksUriOf : Reply → Except RefreshError String
  | .httpError message => .error (.authError ("OIDC JWKS fetch failed: " ++ message))
  | .body (some (.obj doc)) =>
      match Dict.get? doc "jwks_uri" with
      | some (.str uri) =>
          if uri = "" then .error (.authError "OIDC discovery document is missing jwks_uri")
          else .ok uri
      | _ => .error (.authError "OIDC discovery document is missing jwks_uri")
  | .body _ => .error .uncaught

/-- `new_index`: a later key of the same id replaces an earlier one. -/
def newIndex (keys : List Json) : KeySet :=
  keys.foldl (fun (index : KeySet) k =>
    match Dict.get? k.fields "kid" with
    | some (Json.str kid) => index.set kid k
    | _ => index) []

/-- The key set of the answer to the second request. -/
def keySetOf : Reply → Except RefreshError KeySet
  | .httpError message => .error (.authError ("OIDC JWKS fetch failed: " ++ message))
  | .body none => .error .uncaught
  | .body (some payload) =>
      match Dict.get? payload.fields "keys" with
      | some (.arr keys) => .ok (newIndex keys)
      | _ => .error (.authError "JWKS response missing 'keys' array")

/-! ### The cache -/

/-- The cache of the middleware. -/
structure JwksCache where
  jwksByKid : KeySet := []
  jwksExpiresAt : ℚ := 0
  lastKidMissRefreshAt : ℚ := 0
  lastFailedRefreshAt : ℚ := 0
  jwksUri : Option String := none

namespace JwksCache

/-- `_can_serve_stale`. -/
def canServeStale (c : JwksCache) (now : ℚ) : Bool :=
  !c.jwksByKid.isEmpty && decide (now - c.jwksExpiresAt ≤ staleJwksGraceSeconds)

/-- `in_refresh_backoff`. -/
def inRefreshBackoff (c : JwksCache) (now : ℚ) : Bool :=
  c.canServeStale now && decide (now - c.lastFailedRefreshAt < staleRefreshBackoffSeconds)

end JwksCache

/-! ### Runs -/

/-- A call that holds the lock while it refetches: the clock it read after acquiring it, whether
it found the set expired, and the address it asks, `none` for the discovery document. -/
structure Refresh where
  kid : String
  now : ℚ
  ttlExpired : Bool
  asking : Option String

/-- What happened. A refetch and its failure carry the clock its call read under the lock, an
answer the clock its call read on entry or under the lock. -/
inductive Event
  | asked (kid : String) (now : ℚ)
  | fetched (keys : KeySet) (expiresAt : ℚ)
  | failed (now : ℚ) (error : RefreshError)
  | answered (kid : String) (now : ℚ) (result : Except RefreshError (Option Json))

/-- One instance of the middleware: its cache, the key ids of the calls that wait for the lock,
the refetch of the call that holds it, the last reading of the clock, and what happened so far. -/
structure Middleware where
  jwksCacheTtlSeconds : ℕ
  cache : JwksCache := {}
  waiting : List String := []
  refresh : Option Refresh := none
  clock : ℚ
  trace : List Event := []

/-- What can happen next. -/
inductive Action
  /-- `_key_for_kid` is called. -/
  | enter (kid : String)
  /-- A call that waits for the lock acquires it. -/
  | acquire (kid : String)
  /-- The request under way is answered. -/
  | reply (r : Reply)

namespace Middleware

/-- An event happens. -/
def note (m : Middleware) (e : Event) : Middleware := { m with trace := m.trace ++ [e] }

/-- The lock is released and the call returns or raises. -/
def answer (m : Middleware) (kid : String) (now : ℚ)
    (result : Except RefreshError (Option Json)) : Middleware :=
  { m with refresh := none }.note (.answered kid now result)

/-- `return self._jwks_by_kid.get(kid)`. -/
def answerFromCache (m : Middleware) (kid : String) (now : ℚ) : Middleware :=
  m.answer kid now (.ok (m.cache.jwksByKid.get? kid))

/-- `_refresh_jwks` up to its first request. -/
def beginRefresh (m : Middleware) (kid : String) (now : ℚ) (ttlExpired : Bool) : Middleware :=
  { m with refresh := some { kid, now, ttlExpired, asking := m.cache.jwksUri } }.note
    (.asked kid now)

/-- `_key_for_kid` up to the lock. -/
def keyForKid (m : Middleware) (kid : String) (now : ℚ) : Middleware :=
  match m.cache.jwksByKid.get? kid with
  | some jwk =>
      if now < m.cache.jwksExpiresAt then m.note (.answered kid now (.ok (some jwk)))
      else { m with waiting := m.waiting ++ [kid] }
  | none => { m with waiting := m.waiting ++ [kid] }

/-- `_key_for_kid` from the lock on, up to a refetch if there is one. -/
def keyForKidLocked (m : Middleware) (kid : String) (now : ℚ) : Middleware :=
  if m.cache.jwksExpiresAt ≤ now then
    if m.cache.inRefreshBackoff now then m.answerFromCache kid now
    else m.beginRefresh kid now true
  else if m.cache.jwksByKid.get? kid = none ∧
      kidMissBackoffSeconds ≤ now - m.cache.lastKidMissRefreshAt then
    { m with cache := { m.cache with lastKidMissRefreshAt := now } }.beginRefresh kid now false
  else m.answerFromCache kid now

/-- The end of a refetch that raised. -/
def refreshRaised (m : Middleware) (r : Refresh) (error : RefreshError) : Middleware :=
  let m := m.note (.failed r.now error)
  match error with
  | .authError _ =>
      if r.ttlExpired && m.cache.canServeStale r.now then
        let m := { m with cache := { m.cache with lastFailedRefreshAt := r.now } }
        m.answerFromCache r.kid r.now
      else m.answer r.kid r.now (.error error)
  | .uncaught => m.answer r.kid r.now (.error error)

/-- The end of a refetch that gave a key set, at `time`. -/
def refreshed (m : Middleware) (r : Refresh) (time : ℚ) (keys : KeySet) : Middleware :=
  let expiresAt := time + m.jwksCacheTtlSeconds
  let m := { m with cache := { m.cache with jwksByKid := keys, jwksExpiresAt := expiresAt } }
  (m.note (.fetched keys expiresAt)).answerFromCache r.kid r.now

/-- `_refresh_jwks` from the answer to a request on. -/
def replied (m : Middleware) (r : Refresh) (time : ℚ) (reply : Reply) : Middleware :=
  match r.asking with
  | none =>
      match jwksUriOf reply with
      | .ok uri => { m with
          cache := { m.cache with jwksUri := some uri }
          refresh := some { r with asking := some uri } }
      | .error error => m.refreshRaised r error
  | some _ =>
      match keySetOf reply with
      | .ok keys => m.refreshed r time keys
      | .error error => m.refreshRaised r error

/-- One stretch, at the time that the clock shows; `none` is one that cannot be: the clock does
not go back, and the lock has one holder. -/
def step (m : Middleware) (now : ℚ) (action : Action) : Option Middleware :=
  if now < m.clock then none
  else
    let m := { m with clock := now }
    match action, m.refresh with
    | .enter kid, _ => some (m.keyForKid kid now)
    | .acquire kid, none =>
        if kid ∈ m.waiting then
          some ({ m with waiting := m.waiting.erase kid }.keyForKidLocked kid now)
        else none
    | .reply reply, some r => some (m.replied r now reply)
    | _, _ => none

/-- A run. -/
def run (m : Middleware) : List (ℚ × Action) → Option Middleware
  | [] => some m
  | (now, action) :: actions => (m.step now action).bind fun m => run m actions

/-- A new instance. -/
def initial (jwksCacheTtlSeconds : ℕ) (clock : ℚ) : Middleware := { jwksCacheTtlSeconds, clock }

end Middleware

end ClusterManager.Oidc
