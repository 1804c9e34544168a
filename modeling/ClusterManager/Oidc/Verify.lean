import Mathlib.Tactic.SplitIfs
import ClusterManager.Oidc.JwksCache

/-!
# Verifying a token

`_verify` reads the header of a token, finds the signing key of its `kid` (`_key_for_kid`, which may
refetch the key set), turns the key into one of the cryptography library and has PyJWT check the
token. The caller catches `_AuthError` and nothing else. PyJWT and `httpx` are parameters
(`Libraries`), and may raise what they like.
-/

namespace ClusterManager.Oidc

/-! ### The libraries -/

/-- What `jwt.get_unverified_header` raises: a `PyJWTError`, or anything else. -/
inductive HeaderError
  | pyJwtError (message : String)
  | other

/-- What `jwt.decode` raises: the classes of `InvalidTokenError` that are told apart, another one of
them, or anything else. -/
inductive JwtError
  | expiredSignature
  | invalidAudience (message : String)
  | invalidIssuer (message : String)
  | decode (message : String)
  | invalidToken (message : String)
  | other

/-- The header of a token. PyJWT refuses a `kid` that is no string. -/
structure Header where
  kid : Option String
  alg : Json

/-- The key types that are read. -/
inductive KeyType
  | rsa
  | ec
  deriving DecidableEq

/-- PyJWT, `httpx` and the texts of values. `fromJwk` is `none` where `from_jwk` raises. -/
structure Libraries (Key Claims : Type) where
  isUrl : String → Bool
  statusMessage : ℕ → String → String
  getUnverifiedHeader : String → Except HeaderError Header
  fromJwk : KeyType → Json → Option Key
  decode : String → Key → String → String → String → Except JwtError Claims
  repr : Json → String
  str : Json → String

/-- The settings of the middleware. -/
structure Settings where
  issuerUrl : String
  audience : String
  jwksCacheTtlSeconds : ℕ

/-- What a GET comes to: a failure of the transport, or a response, with a body that is JSON or is
not. -/
inductive Fetched
  | httpError (message : String)
  | response (status : ℕ) (body : Option Json)

variable {Key Claims : Type} (lib : Libraries Key Claims) (settings : Settings)

/-- The answer to a GET, after `raise_for_status`. An address `httpx` does not read raises
`InvalidURL`, which is no `HTTPError`: it ends like a body that is not JSON. -/
def Fetched.reply (uri : String) (fetched : Fetched) : Reply :=
  if lib.isUrl uri then
    match fetched with
    | .httpError message => .httpError message
    | .response status body =>
        if 200 ≤ status ∧ status < 300 then .body body
        else .httpError (lib.statusMessage status uri)
  else .body none

/-! ### The key of a token -/

/-- The state in which a call of `_verify` finds the cache, and what the issuer answers. The cache
is read on entry and again under the lock; `time` is the clock after a refetch. -/
structure Call where
  entry : JwksCache
  entryNow : ℚ
  cache : JwksCache
  now : ℚ
  time : ℚ
  discovery : Fetched
  jwks : Fetched

/-- The address of the discovery document. -/
def Settings.wellKnown (settings : Settings) : String :=
  settings.issuerUrl ++ "/.well-known/openid-configuration"

/-- The address of the key set: the cached one, or the one the discovery document names. -/
def Call.jwksUri (call : Call) : Except RefreshError String :=
  match call.cache.jwksUri with
  | some uri => .ok uri
  | none => jwksUriOf (call.discovery.reply lib settings.wellKnown)

/-- The key set a refetch comes to. -/
def Call.keySet (call : Call) : Except RefreshError KeySet :=
  (call.jwksUri lib settings).bind fun uri => keySetOf (call.jwks.reply lib uri)

/-- `_refresh_jwks`. The address of the key set is kept also where the key set is not read. -/
def refreshJwks (call : Call) (c : JwksCache) : JwksCache × Except RefreshError Unit :=
  match call.jwksUri lib settings with
  | .error e => (c, .error e)
  | .ok uri =>
      match call.keySet lib settings with
      | .error e => ({ c with jwksUri := some uri }, .error e)
      | .ok keys =>
          ({ c with
              jwksByKid := keys
              jwksExpiresAt := call.time + settings.jwksCacheTtlSeconds
              jwksUri := some uri }, .ok ())

/-- `_key_for_kid`: the cache after it, and the key. -/
def keyForKid (call : Call) (kid : String) : JwksCache × Except RefreshError (Option Json) :=
  let c := call.cache
  if (call.entry.jwksByKid.get? kid).isSome ∧ call.entryNow < call.entry.jwksExpiresAt then
    (call.entry, .ok (call.entry.jwksByKid.get? kid))
  else if c.jwksExpiresAt ≤ call.now then
    if c.inRefreshBackoff call.now then (c, .ok (c.jwksByKid.get? kid))
    else
      match refreshJwks lib settings call c with
      | (c, .ok ()) => (c, .ok (c.jwksByKid.get? kid))
      | (c, .error (.authError detail)) =>
          if c.canServeStale call.now then
            ({ c with lastFailedRefreshAt := call.now }, .ok (c.jwksByKid.get? kid))
          else (c, .error (.authError detail))
      | (c, .error .uncaught) => (c, .error .uncaught)
  else if c.jwksByKid.get? kid = none ∧
      kidMissBackoffSeconds ≤ call.now - c.lastKidMissRefreshAt then
    match refreshJwks lib settings call { c with lastKidMissRefreshAt := call.now } with
    | (c, .ok ()) => (c, .ok (c.jwksByKid.get? kid))
    | (c, .error e) => (c, .error e)
  else (c, .ok (c.jwksByKid.get? kid))

/-! ### The verification -/

/-- `_ALLOWED_ALGS`. -/
def allowedAlgs : List String := ["RS256", "RS384", "RS512", "ES256", "ES384", "ES512"]

/-- `value in a_frozenset` raises for a list and for an object. -/
def isHashable : Json → Bool
  | .arr _ => false
  | .obj _ => false
  | _ => true

/-- The member of an object, null where it has none. -/
def member (value : Json) (key : String) : Json := (Dict.get? value.fields key).getD .null

/-- The key type of a JWK, where it is one that is read. -/
def keyTypeOf (jwk : Json) : Option KeyType :=
  match member jwk "kty" with
  | .str "RSA" => some .rsa
  | .str "EC" => some .ec
  | _ => none

/-- `_public_key_from_jwk`. -/
def publicKeyFromJwk (jwk : Json) : Except RefreshError Key :=
  match keyTypeOf jwk with
  | some keyType =>
      match lib.fromJwk keyType jwk with
      | some key => .ok key
      | none => .error .uncaught
  | none =>
      .error (.authError ("Unsupported JWK key type: " ++ lib.repr (member jwk "kty")))

/-- What a failure of `jwt.decode` is raised as. -/
def raisedAs : JwtError → RefreshError
  | .expiredSignature => .authError "Token expired"
  | .invalidAudience message => .authError ("Invalid audience: " ++ message)
  | .invalidIssuer message => .authError ("Invalid issuer: " ++ message)
  | .decode message => .authError ("Invalid token: " ++ message)
  | .invalidToken message => .authError ("Invalid token: " ++ message)
  | .other => .uncaught

/-- The algorithm a token is checked by: that of the key, else that of the header. -/
def algorithmOf (header : Header) (jwk : Json) : Json := (member jwk "alg").or header.alg

/-- `_verify` from the key on. -/
def verifyWith (token : String) (header : Header) (jwk : Json) : Except RefreshError Claims :=
  let algorithm := algorithmOf header jwk
  if !algorithm.truthy then .error (.authError "Cannot determine signing algorithm")
  else if !isHashable algorithm then .error .uncaught
  else
    match algorithm with
    | .str alg =>
        if alg ∈ allowedAlgs then
          (publicKeyFromJwk lib jwk).bind fun key =>
            (lib.decode token key alg settings.audience settings.issuerUrl).mapError raisedAs
        else .error (.authError ("Unsupported signing algorithm: " ++ alg))
    | _ => .error (.authError ("Unsupported signing algorithm: " ++ lib.str algorithm))

/-- `_verify`. -/
def verify (call : Call) (token : String) : Except RefreshError Claims :=
  match lib.getUnverifiedHeader token with
  | .error (.pyJwtError message) => .error (.authError ("Malformed token header: " ++ message))
  | .error .other => .error .uncaught
  | .ok header =>
      match header.kid.filter (· ≠ "") with
      | none => .error (.authError "Token header missing 'kid'")
      | some kid =>
          match (keyForKid lib settings call kid).2 with
          | .error e => .error e
          | .ok none =>
              .error (.authError ("Unknown signing key id (kid=" ++ lib.repr (.str kid) ++ ")"))
          | .ok (some jwk) => verifyWith lib settings token header jwk

/-! ### Calls in a run -/

section Runs

variable {lib settings} {call : Call} {kid : String} {m : Middleware} {r : Refresh}

/-- The requests a call under the lock makes are answered. -/
def Middleware.settle (m : Middleware) (lib : Libraries Key Claims) (settings : Settings)
    (call : Call) : Middleware :=
  match m.refresh with
  | none => m
  | some r =>
      match call.jwksUri lib settings with
      | .error _ => m.replied r call.time (call.discovery.reply lib settings.wellKnown)
      | .ok uri =>
          let m := match r.asking with
            | none => m.replied r call.time (call.discovery.reply lib settings.wellKnown)
            | some _ => m
          m.replied { r with asking := some uri } call.time (call.jwks.reply lib uri)

/-- A call has left the cache so, and has answered. -/
def Middleware.Answers (m : Middleware) (kid : String) (now : ℚ)
    (p : JwksCache × Except RefreshError (Option Json)) : Prop :=
  m.cache = p.1 ∧ m.trace.getLast? = some (.answered kid now p.2)

/-- What a call comes to whose refetch raised. -/
def raised (c : JwksCache) (r : Refresh) (e : RefreshError) :
    JwksCache × Except RefreshError (Option Json) :=
  match e with
  | .authError detail =>
      if r.ttlExpired && c.canServeStale r.now then
        ({ c with lastFailedRefreshAt := r.now }, .ok (c.jwksByKid.get? r.kid))
      else (c, .error (.authError detail))
  | .uncaught => (c, .error .uncaught)

theorem answers_answer {result : Except RefreshError (Option Json)} {now : ℚ} :
    (m.answer kid now result).Answers kid now (m.cache, result) := by
  simp [Middleware.Answers, Middleware.answer, Middleware.note]

theorem answers_refreshRaised {e : RefreshError} :
    (m.refreshRaised r e).Answers r.kid r.now (raised m.cache r e) := by
  unfold Middleware.refreshRaised raised
  cases e with
  | uncaught => exact answers_answer
  | authError detail =>
    dsimp only [Middleware.note]
    split_ifs
    · exact answers_answer
    · exact answers_answer

theorem jwksUri_cold (h : call.cache.jwksUri = none) :
    call.jwksUri lib settings = jwksUriOf (call.discovery.reply lib settings.wellKnown) := by
  rw [Call.jwksUri, h]

theorem answers_settle {ttlExpired : Bool} (huri : m.cache.jwksUri = call.cache.jwksUri)
    (httl : m.jwksCacheTtlSeconds = settings.jwksCacheTtlSeconds) :
    ((m.beginRefresh kid call.now ttlExpired).settle lib settings call).Answers kid call.now
      (match refreshJwks lib settings call m.cache with
      | (c, .ok ()) => (c, .ok (c.jwksByKid.get? kid))
      | (c, .error e) => raised c ⟨kid, call.now, ttlExpired, none⟩ e) := by
  unfold refreshJwks Middleware.settle Middleware.beginRefresh Call.keySet
  dsimp only [Middleware.note]
  rw [huri, ← httl]
  cases hcold : call.cache.jwksUri with
  | none =>
    rw [jwksUri_cold hcold]
    unfold Middleware.replied
    dsimp only
    cases jwksUriOf (call.discovery.reply lib settings.wellKnown) with
    | error e => exact answers_refreshRaised
    | ok uri =>
      dsimp only [Except.bind]
      cases keySetOf (call.jwks.reply lib uri) with
      | ok keys => exact answers_answer
      | error e => exact answers_refreshRaised
  | some uri =>
    have hasked : call.jwksUri lib settings = .ok uri := by rw [Call.jwksUri, hcold]
    have hcache : { m.cache with jwksUri := some uri } = m.cache := by rw [← hcold, ← huri]
    rw [hasked]
    unfold Middleware.replied
    dsimp only [Except.bind]
    cases keySetOf (call.jwks.reply lib uri) with
    | ok keys =>
      have hkept : ({ m.cache with
          jwksByKid := keys
          jwksExpiresAt := call.time + m.jwksCacheTtlSeconds
          jwksUri := some uri } : JwksCache) =
          { m.cache with
            jwksByKid := keys
            jwksExpiresAt := call.time + m.jwksCacheTtlSeconds } := by rw [← hcold, ← huri]
      dsimp only
      rw [hkept]
      exact answers_answer
    | error e =>
      dsimp only
      rw [hcache]
      exact answers_refreshRaised

/-- A call under the lock, once its requests are answered, has come to what `keyForKid` says. -/
theorem answers_keyForKid (hcache : m.cache = call.cache)
    (httl : m.jwksCacheTtlSeconds = settings.jwksCacheTtlSeconds)
    (hentry : ¬((call.entry.jwksByKid.get? kid).isSome ∧
      call.entryNow < call.entry.jwksExpiresAt)) :
    ((m.keyForKidLocked kid call.now).settle lib settings call).Answers kid call.now
      (keyForKid lib settings call kid) := by
  have hkept : (m.answerFromCache kid call.now).settle lib settings call =
      m.answerFromCache kid call.now := by
    rw [Middleware.settle, Middleware.answerFromCache, Middleware.answer, Middleware.note]
  have hanswer : (m.answerFromCache kid call.now).Answers kid call.now
      (call.cache, .ok (call.cache.jwksByKid.get? kid)) := by
    rw [← hcache]
    exact answers_answer
  unfold keyForKid Middleware.keyForKidLocked
  simp only [if_neg hentry, hcache]
  split_ifs with hexpired hbackoff hmissing
  · rw [hkept]
    exact hanswer
  · have h := @answers_settle _ _ lib settings call kid m true (by rw [hcache]) httl
    rw [hcache] at h
    rcases hrefreshed : refreshJwks lib settings call call.cache with ⟨c, e | _⟩
    · rw [hrefreshed] at h
      cases e with
      | uncaught => exact h
      | authError detail =>
        cases hstale : c.canServeStale call.now
        · simpa [raised, hstale] using h
        · simpa [raised, hstale] using h
    · rw [hrefreshed] at h
      exact h
  · have h := @answers_settle _ _ lib settings call kid
      { m with cache := { call.cache with lastKidMissRefreshAt := call.now } } false rfl httl
    rcases hrefreshed : refreshJwks lib settings call
      { call.cache with lastKidMissRefreshAt := call.now } with ⟨c, e | _⟩
    · rw [hrefreshed] at h
      dsimp only at h ⊢
      have hraised : raised c ⟨kid, call.now, false, none⟩ e = (c, .error e) := by
        cases e <;> rfl
      rw [hraised] at h
      exact h
    · rw [hrefreshed] at h
      exact h
  · rw [hkept]
    exact hanswer
end Runs

end ClusterManager.Oidc
