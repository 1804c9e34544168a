import Mathlib.Algebra.Order.Ring.Rat
import Mathlib.Tactic.Linarith
import Mathlib.Tactic.SplitIfs
import ClusterManager.Oidc.Verify

/-!
# Which failures of a verification are authentication errors

`_AuthError` is all that the middleware turns into a 401. A refetch raises something else where a
response of the issuer is not the JSON it should be, and the check of a token where its key is
malformed; and then the keys that are cached are not served either.
-/

namespace ClusterManager.Oidc

variable {Key Claims : Type} (lib : Libraries Key Claims) (settings : Settings)

/-! ### Responses of the issuer -/

/-- A response that `raise_for_status` lets pass. -/
def Fetched.IsSuccess (fetched : Fetched) (body : Option Json) : Prop :=
  ∃ status, 200 ≤ status ∧ status < 300 ∧ fetched = .response status body

/-- What a refetch does not expect: an address that is none, a discovery document that is no JSON
object, and a key set that is not JSON. -/
inductive Call.Garbled (call : Call) : Prop
  | wellKnown : call.cache.jwksUri = none → lib.isUrl settings.wellKnown = false → Garbled call
  | discovery (body : Option Json) : call.cache.jwksUri = none →
      call.discovery.IsSuccess body → (∀ doc, body ≠ some (.obj doc)) → Garbled call
  | jwksUri (uri : String) : call.jwksUri lib settings = .ok uri → lib.isUrl uri = false →
      Garbled call
  | jwks (uri : String) : call.jwksUri lib settings = .ok uri → call.jwks.IsSuccess none →
      Garbled call

/-- A call finds no fresh key, and refetches the key set: it has expired, and no refetch failed
lately, or it lacks the key, and was not refetched for that lately. -/
def Call.Refetches (call : Call) (kid : String) : Prop :=
  ¬((call.entry.jwksByKid.get? kid).isSome ∧ call.entryNow < call.entry.jwksExpiresAt) ∧
    (call.cache.jwksExpiresAt ≤ call.now ∧ call.cache.inRefreshBackoff call.now = false ∨
      call.now < call.cache.jwksExpiresAt ∧ call.cache.jwksByKid.get? kid = none ∧
        kidMissBackoffSeconds ≤ call.now - call.cache.lastKidMissRefreshAt)

/-- The key a call has for a key id: of the set it finds on entry, of the set it finds under the
lock, of the set it fetches, or of a stale set beside an issuer that fails. -/
inductive Call.HasKey (call : Call) (kid : String) (jwk : Json) : Prop
  | fresh : call.entry.jwksByKid.get? kid = some jwk →
      call.entryNow < call.entry.jwksExpiresAt → HasKey call kid jwk
  | kept : ¬((call.entry.jwksByKid.get? kid).isSome ∧
        call.entryNow < call.entry.jwksExpiresAt) →
      ¬call.Refetches kid → call.cache.jwksByKid.get? kid = some jwk → HasKey call kid jwk
  | fetched (keys : KeySet) : call.Refetches kid → call.keySet lib settings = .ok keys →
      keys.get? kid = some jwk → HasKey call kid jwk
  | stale (detail : String) : call.Refetches kid →
      call.keySet lib settings = .error (.authError detail) →
      call.cache.jwksExpiresAt ≤ call.now → call.cache.canServeStale call.now = true →
      call.cache.jwksByKid.get? kid = some jwk → HasKey call kid jwk

/-- A key that a token can be checked with: its algorithm is no list and no object, PyJWT reads it,
and refuses the token as an invalid one if it refuses it. -/
structure IsUsable (token : String) (header : Header) (jwk : Json) : Prop where
  algorithm : (algorithmOf header jwk).truthy = true → isHashable (algorithmOf header jwk) = true
  key : ∀ alg keyType, algorithmOf header jwk = .str alg → alg ∈ allowedAlgs →
    keyTypeOf jwk = some keyType → ∃ key, lib.fromJwk keyType jwk = some key ∧
      lib.decode token key alg settings.audience settings.issuerUrl ≠ .error .other

/-- A call in which nothing is raised outside the classes that are caught. -/
structure Call.IsClean (call : Call) (token : String) : Prop where
  header : lib.getUnverifiedHeader token ≠ .error .other
  refetch : ∀ header kid, lib.getUnverifiedHeader token = .ok header → header.kid = some kid →
    kid ≠ "" → call.Refetches kid → ¬call.Garbled lib settings
  key : ∀ header kid jwk, lib.getUnverifiedHeader token = .ok header → header.kid = some kid →
    kid ≠ "" → call.HasKey lib settings kid jwk → IsUsable lib settings token header jwk

variable {lib settings} {call : Call} {kid : String} {jwk : Json}

/-! ### A refetch -/

theorem jwksUriOf_eq_uncaught {reply : Reply} :
    jwksUriOf reply = .error .uncaught ↔
      ∃ body, reply = .body body ∧ ∀ doc, body ≠ some (.obj doc) := by
  unfold jwksUriOf
  split
  · simp
  · rename_i doc
    refine iff_of_false ?_ ?_
    · split
      · split_ifs <;> simp
      · simp
    · rintro ⟨body, hbody, hno⟩
      cases hbody
      exact hno doc rfl
  · rename_i body hno
    refine iff_of_true rfl ⟨body, rfl, ?_⟩
    rintro doc rfl
    exact hno doc rfl

theorem keySetOf_eq_uncaught {reply : Reply} :
    keySetOf reply = .error .uncaught ↔ reply = .body none := by
  unfold keySetOf
  split
  · simp
  · simp
  · split <;> simp

/-- What the answer to a GET can be, where the body is not what is expected. -/
theorem reply_eq_body {uri : String} {fetched : Fetched} {body : Option Json} :
    fetched.reply lib uri = .body body ↔
      lib.isUrl uri = true ∧ fetched.IsSuccess body ∨ lib.isUrl uri = false ∧ body = none := by
  unfold Fetched.reply Fetched.IsSuccess
  cases lib.isUrl uri with
  | false => simp [eq_comm]
  | true =>
    cases fetched with
    | httpError message => simp
    | response status body' =>
      simp only [if_true]
      split_ifs with hstatus
      · simp [hstatus.1, hstatus.2]
      · simp only [true_and, false_and, or_false, false_iff]
        rintro ⟨status', hlow, hhigh, heq⟩
        cases heq
        exact hstatus ⟨hlow, hhigh⟩

/-- A refetch raises what nothing catches where a response is not what is expected. -/
theorem keySet_eq_uncaught :
    call.keySet lib settings = .error .uncaught ↔ call.Garbled lib settings := by
  constructor
  · intro h
    cases huri : call.jwksUri lib settings with
    | error e =>
      have he : e = .uncaught := by simpa [Call.keySet, huri, Except.bind] using h
      subst he
      have hcold : call.cache.jwksUri = none := by
        unfold Call.jwksUri at huri
        split at huri
        · cases huri
        · assumption
      rw [Call.jwksUri, hcold] at huri
      obtain ⟨body, hreply, hbody⟩ := jwksUriOf_eq_uncaught.1 huri
      rcases reply_eq_body.1 hreply with ⟨-, hsuccess⟩ | ⟨hurl, -⟩
      · exact .discovery body hcold hsuccess hbody
      · exact .wellKnown hcold hurl
    | ok uri =>
      have hkeys : keySetOf (call.jwks.reply lib uri) = .error .uncaught := by
        simpa [Call.keySet, huri, Except.bind] using h
      rcases reply_eq_body.1 (keySetOf_eq_uncaught.1 hkeys) with ⟨-, hsuccess⟩ | ⟨hurl, -⟩
      · exact .jwks uri huri hsuccess
      · exact .jwksUri uri huri hurl
  · have hdiscovery : ∀ body, call.cache.jwksUri = none →
        call.discovery.reply lib settings.wellKnown = .body body →
        (∀ doc, body ≠ some (.obj doc)) → call.keySet lib settings = .error .uncaught := by
      intro body hcold hreply hbody
      have huri : call.jwksUri lib settings = .error .uncaught := by
        rw [Call.jwksUri, hcold]
        exact jwksUriOf_eq_uncaught.2 ⟨body, hreply, hbody⟩
      rw [Call.keySet, huri]
      rfl
    have hjwks : ∀ uri, call.jwksUri lib settings = .ok uri →
        call.jwks.reply lib uri = .body none → call.keySet lib settings = .error .uncaught := by
      intro uri huri hreply
      rw [Call.keySet, huri]
      exact keySetOf_eq_uncaught.2 hreply
    intro h
    cases h with
    | wellKnown hcold hurl =>
      exact hdiscovery none hcold (reply_eq_body.2 (Or.inr ⟨hurl, rfl⟩)) (by simp)
    | discovery body hcold hsuccess hbody =>
      cases hurl : lib.isUrl settings.wellKnown with
      | true => exact hdiscovery body hcold (reply_eq_body.2 (Or.inl ⟨hurl, hsuccess⟩)) hbody
      | false => exact hdiscovery none hcold (reply_eq_body.2 (Or.inr ⟨hurl, rfl⟩)) (by simp)
    | jwksUri uri huri hurl => exact hjwks uri huri (reply_eq_body.2 (Or.inr ⟨hurl, rfl⟩))
    | jwks uri huri hsuccess =>
      cases hurl : lib.isUrl uri with
      | true => exact hjwks uri huri (reply_eq_body.2 (Or.inl ⟨hurl, hsuccess⟩))
      | false => exact hjwks uri huri (reply_eq_body.2 (Or.inr ⟨hurl, rfl⟩))

/-- A refetch raises what fetching the key set raises, and leaves the timers and the keys alone. -/
theorem refreshJwks_error {c : JwksCache} {e : RefreshError}
    (h : call.keySet lib settings = .error e) :
    ∃ uri, refreshJwks lib settings call c = ({ c with jwksUri := uri }, .error e) := by
  unfold refreshJwks
  cases huri : call.jwksUri lib settings with
  | error e' =>
    have he : e' = e := by simpa [Call.keySet, huri, Except.bind] using h
    exact ⟨c.jwksUri, by rw [he]⟩
  | ok uri => exact ⟨some uri, by rw [h]⟩

theorem refreshJwks_ok {c : JwksCache} {keys : KeySet}
    (h : call.keySet lib settings = .ok keys) :
    ∃ c', refreshJwks lib settings call c = (c', .ok ()) ∧ c'.jwksByKid = keys := by
  unfold refreshJwks
  cases huri : call.jwksUri lib settings with
  | error e => simp [Call.keySet, huri, Except.bind] at h
  | ok uri =>
    rw [h]
    exact ⟨_, rfl, rfl⟩

/-! ### The key -/

/-- What a call that refetches answers. -/
theorem keyForKid_of_refetches (h : call.Refetches kid) :
    (keyForKid lib settings call kid).2 =
      match call.keySet lib settings with
      | .ok keys => .ok (keys.get? kid)
      | .error (.authError detail) =>
          if call.cache.jwksExpiresAt ≤ call.now ∧ call.cache.canServeStale call.now = true then
            .ok (call.cache.jwksByKid.get? kid)
          else .error (.authError detail)
      | .error .uncaught => .error .uncaught := by
  obtain ⟨hentry, ⟨hexpired, hbackoff⟩ | ⟨hfresh, hmissing, hbackoff⟩⟩ := h
  · unfold keyForKid
    simp only [if_neg hentry, if_pos hexpired, hbackoff, Bool.false_eq_true, if_false]
    cases hkeys : call.keySet lib settings with
    | ok keys =>
      obtain ⟨c', hrefresh, hkept⟩ := refreshJwks_ok (c := call.cache) hkeys
      rw [hrefresh]
      simp only [hkept]
    | error e =>
      obtain ⟨uri, hrefresh⟩ := refreshJwks_error (c := call.cache) hkeys
      rw [hrefresh]
      cases e with
      | uncaught => rfl
      | authError detail =>
        simp only [hexpired, true_and]
        unfold JwksCache.canServeStale
        dsimp only
        split_ifs <;> rfl
  · unfold keyForKid
    simp only [if_neg hentry, if_neg hfresh.not_ge, if_pos (And.intro hmissing hbackoff)]
    cases hkeys : call.keySet lib settings with
    | ok keys =>
      obtain ⟨c', hrefresh, hkept⟩ := refreshJwks_ok
        (c := { call.cache with lastKidMissRefreshAt := call.now }) hkeys
      rw [hrefresh]
      simp only [hkept]
    | error e =>
      obtain ⟨uri, hrefresh⟩ := refreshJwks_error
        (c := { call.cache with lastKidMissRefreshAt := call.now }) hkeys
      rw [hrefresh]
      cases e with
      | uncaught => rfl
      | authError detail =>
        dsimp only
        rw [if_neg fun h => hfresh.not_ge h.1]

/-- What a call that does not refetch answers. -/
theorem keyForKid_of_not_refetches (h : ¬call.Refetches kid) :
    (keyForKid lib settings call kid).2 =
      if (call.entry.jwksByKid.get? kid).isSome ∧ call.entryNow < call.entry.jwksExpiresAt then
        .ok (call.entry.jwksByKid.get? kid)
      else .ok (call.cache.jwksByKid.get? kid) := by
  unfold keyForKid
  by_cases hentry : (call.entry.jwksByKid.get? kid).isSome ∧
      call.entryNow < call.entry.jwksExpiresAt
  · simp only [if_pos hentry]
  · simp only [if_neg hentry]
    by_cases hexpired : call.cache.jwksExpiresAt ≤ call.now
    · have hbackoff : call.cache.inRefreshBackoff call.now = true := by
        by_contra hno
        exact h ⟨hentry, Or.inl ⟨hexpired, by simpa using hno⟩⟩
      simp only [if_pos hexpired, hbackoff, if_true]
    · have hmissing : ¬(call.cache.jwksByKid.get? kid = none ∧
          kidMissBackoffSeconds ≤ call.now - call.cache.lastKidMissRefreshAt) :=
        fun hno => h ⟨hentry, Or.inr ⟨not_le.1 hexpired, hno⟩⟩
      simp only [if_neg hexpired, if_neg hmissing]

/-- Finding a key raises what nothing catches where a refetch does. -/
theorem keyForKid_eq_uncaught :
    (keyForKid lib settings call kid).2 = .error .uncaught ↔
      call.Refetches kid ∧ call.Garbled lib settings := by
  by_cases h : call.Refetches kid
  · rw [keyForKid_of_refetches h, ← keySet_eq_uncaught]
    split
    · rename_i hkeys
      simp [hkeys]
    · rename_i hkeys
      split_ifs <;> simp [hkeys]
    · rename_i hkeys
      simp [h, hkeys]
  · rw [keyForKid_of_not_refetches h]
    split_ifs <;> simp [h]

/-- The key that is found is the one the call has. -/
theorem keyForKid_eq_some :
    (keyForKid lib settings call kid).2 = .ok (some jwk) ↔ call.HasKey lib settings kid jwk := by
  by_cases h : call.Refetches kid
  · rw [keyForKid_of_refetches h]
    constructor
    · intro hkey
      split at hkey
      · rename_i keys hkeys
        exact .fetched keys h hkeys (by simpa using hkey)
      · rename_i detail hkeys
        split_ifs at hkey with hstale
        exact .stale detail h hkeys hstale.1 hstale.2 (by simpa using hkey)
      · cases hkey
    · intro hkey
      cases hkey with
      | fresh hget hfresh => exact (h.1 ⟨by simp [hget], hfresh⟩).elim
      | kept hentry hno hget => exact (hno h).elim
      | fetched keys _ hkeys hget => simp [hkeys, hget]
      | stale detail _ hkeys hexpired hstale hget => simp [hkeys, hexpired, hstale, hget]
  · rw [keyForKid_of_not_refetches h]
    split_ifs with hentry
    · constructor
      · intro hkey
        exact .fresh (by simpa using hkey) hentry.2
      · intro hkey
        cases hkey with
        | fresh hget hfresh => rw [hget]
        | kept hno _ hget => exact (hno hentry).elim
        | fetched keys hyes hkeys hget => exact (h hyes).elim
        | stale detail hyes hkeys hexpired hstale hget => exact (h hyes).elim
    · constructor
      · intro hkey
        exact .kept hentry h (by simpa using hkey)
      · intro hkey
        cases hkey with
        | fresh hget hfresh => exact (hentry ⟨by simp [hget], hfresh⟩).elim
        | kept _ _ hget => rw [hget]
        | fetched keys hyes hkeys hget => exact (h hyes).elim
        | stale detail hyes hkeys hexpired hstale hget => exact (h hyes).elim

/-! ### The verification -/

variable {token : String} {header : Header}

theorem raisedAs_eq_uncaught {e : JwtError} : raisedAs e = .uncaught ↔ e = .other := by
  cases e <;> simp [raisedAs]

/-- The check of a token raises what nothing catches where its key is malformed. -/
theorem verifyWith_ne_uncaught :
    verifyWith lib settings token header jwk ≠ .error .uncaught ↔
      IsUsable lib settings token header jwk := by
  unfold verifyWith
  dsimp only
  -- the checks in their order: an algorithm, one that a set can be asked for, allowed, a key of it
  cases htruthy : (algorithmOf header jwk).truthy with
  | false =>
    refine iff_of_true (by simp) ⟨fun h => ?_, fun alg keyType halg hallowed => ?_⟩
    · rw [htruthy] at h
      cases h
    · rw [halg] at htruthy
      have hempty : alg = "" := by simpa [Json.truthy] using htruthy
      subst hempty
      exact absurd hallowed (by decide)
  | true =>
    cases hhash : isHashable (algorithmOf header jwk) with
    | false =>
      refine iff_of_false (by simp) fun h => ?_
      rw [h.algorithm htruthy] at hhash
      cases hhash
    | true =>
      simp only [Bool.not_true, Bool.false_eq_true, if_false]
      split
      · rename_i alg halg
        split_ifs with hallowed
        · cases hkty : keyTypeOf jwk with
          | none =>
            simp only [publicKeyFromJwk, hkty, Except.bind]
            refine iff_of_true (by simp) ⟨fun _ => hhash, fun alg' keyType _ _ hkty' => ?_⟩
            rw [hkty] at hkty'
            cases hkty'
          | some keyType =>
            cases hkey : lib.fromJwk keyType jwk with
            | none =>
              simp only [publicKeyFromJwk, hkty, hkey, Except.bind]
              refine iff_of_false (by simp) fun h => ?_
              obtain ⟨key, hkey', -⟩ := h.key alg keyType halg hallowed hkty
              rw [hkey] at hkey'
              cases hkey'
            | some key =>
              simp only [publicKeyFromJwk, hkty, hkey, Except.bind]
              have hraised : ((lib.decode token key alg settings.audience
                  settings.issuerUrl).mapError raisedAs ≠ .error .uncaught) ↔
                  lib.decode token key alg settings.audience settings.issuerUrl ≠
                    .error .other := by
                cases lib.decode token key alg settings.audience settings.issuerUrl with
                | ok claims => simp [Except.mapError]
                | error e => simp [Except.mapError, raisedAs_eq_uncaught]
              rw [hraised]
              constructor
              · intro hdecode
                refine ⟨fun _ => hhash, fun alg' keyType' halg' _ hkty' => ⟨key, ?_, ?_⟩⟩
                · rw [hkty] at hkty'
                  cases hkty'
                  exact hkey
                · rw [halg] at halg'
                  cases halg'
                  exact hdecode
              · intro h
                obtain ⟨key', hkey', hdecode⟩ := h.key alg keyType halg hallowed hkty
                rw [hkey] at hkey'
                cases hkey'
                exact hdecode
        · refine iff_of_true (by simp) ⟨fun _ => hhash, fun alg' keyType halg' hin => ?_⟩
          rw [halg] at halg'
          cases halg'
          exact (hallowed hin).elim
      · rename_i hno
        exact iff_of_true (by simp) ⟨fun _ => hhash, fun alg keyType halg => (hno alg halg).elim⟩

/-- What `_verify` does once it has read the header. -/
theorem verify_of_header (hheader : lib.getUnverifiedHeader token = .ok header)
    (hkid : header.kid = some kid) (hne : kid ≠ "") :
    verify lib settings call token =
      match (keyForKid lib settings call kid).2 with
      | .error e => .error e
      | .ok none =>
          .error (.authError ("Unknown signing key id (kid=" ++ lib.repr (.str kid) ++ ")"))
      | .ok (some jwk) => verifyWith lib settings token header jwk := by
  have hfilter : header.kid.filter (· ≠ "") = some kid := by simp [hkid, hne]
  cases hfound : (keyForKid lib settings call kid).2 with
  | error e => simp only [verify, hheader, hfilter, hfound]
  | ok jwk => cases jwk <;> simp only [verify, hheader, hfilter, hfound]

/-- A token is refused by an authentication error, if it is, in the calls that are clean. -/
theorem verify_ne_uncaught :
    verify lib settings call token ≠ .error .uncaught ↔ call.IsClean lib settings token := by
  cases hheader : lib.getUnverifiedHeader token with
  | error e =>
    have hclean : e ≠ .other → call.IsClean lib settings token := by
      intro he
      refine ⟨?_, fun header kid hok => ?_, fun header kid jwk hok => ?_⟩
      · rw [hheader]
        simpa using he
      · rw [hheader] at hok
        cases hok
      · rw [hheader] at hok
        cases hok
    cases e with
    | pyJwtError message =>
      refine iff_of_true ?_ (hclean (by simp))
      simp [verify, hheader]
    | other =>
      refine iff_of_false ?_ fun h => h.header hheader
      simp [verify, hheader]
  | ok header =>
    cases hkid : header.kid.filter (· ≠ "") with
    | none =>
      have hno : ∀ header' kid, lib.getUnverifiedHeader token = .ok header' →
          header'.kid = some kid → kid ≠ "" → False := by
        intro header' kid hok hkid' hne
        rw [hheader] at hok
        cases hok
        simp [hkid', hne] at hkid
      refine iff_of_true ?_ ⟨?_, fun header' kid hok hkid' hne => ?_,
        fun header' kid jwk hok hkid' hne => ?_⟩
      · unfold verify
        rw [hheader]
        dsimp only
        rw [hkid]
        simp
      · simp [hheader]
      · exact (hno header' kid hok hkid' hne).elim
      · exact (hno header' kid hok hkid' hne).elim
    | some kid =>
      obtain ⟨hkid', hne⟩ : header.kid = some kid ∧ kid ≠ "" := by
        simpa [Option.filter_eq_some_iff] using hkid
      rw [verify_of_header hheader hkid' hne]
      constructor
      · intro h
        refine ⟨by simp [hheader], fun header' kid' hok hkid'' _ hrefetch hgarbled => ?_,
          fun header' kid' jwk hok hkid'' _ hkey => ?_⟩
        · rw [hheader] at hok
          cases hok
          rw [hkid'] at hkid''
          cases hkid''
          rw [keyForKid_eq_uncaught.2 ⟨hrefetch, hgarbled⟩] at h
          exact h rfl
        · rw [hheader] at hok
          cases hok
          rw [hkid'] at hkid''
          cases hkid''
          rw [keyForKid_eq_some.2 hkey] at h
          exact verifyWith_ne_uncaught.1 h
      · intro hclean
        split
        · rename_i e hraised
          intro he
          have he' : e = .uncaught := by simpa using he
          subst he'
          obtain ⟨hrefetch, hgarbled⟩ := keyForKid_eq_uncaught.1 hraised
          exact hclean.refetch header kid hheader hkid' hne hrefetch hgarbled
        · simp
        · rename_i jwk hjwk
          exact verifyWith_ne_uncaught.2
            (hclean.key header kid jwk hheader hkid' hne (keyForKid_eq_some.1 hjwk))

/-- Beside a stale set of keys, a refetch that fails leaves the key it holds, unless what it raises
is not caught. -/
theorem keyForKid_stale (hkey : call.cache.jwksByKid.get? kid = some jwk)
    (hrefetch : call.Refetches kid)
    (hfails : ∃ e, call.keySet lib settings = .error e)
    (hstale : call.cache.canServeStale call.now = true) :
    (keyForKid lib settings call kid).2 = .ok (some jwk) ↔ ¬call.Garbled lib settings := by
  have hexpired : call.cache.jwksExpiresAt ≤ call.now := by
    obtain ⟨-, ⟨hexpired, -⟩ | ⟨-, hmissing, -⟩⟩ := hrefetch
    · exact hexpired
    · rw [hkey] at hmissing
      cases hmissing
  obtain ⟨e, he⟩ := hfails
  rw [← keySet_eq_uncaught, keyForKid_of_refetches hrefetch, he]
  cases e with
  | uncaught => simp
  | authError detail => simp [hexpired, hstale, hkey]

/-- `_verify` raises nothing but authentication errors in exactly the calls that are clean; and a
token with a cached key is checked with it beside a refetch that fails in the grace period, exactly
where no response is garbled. -/
theorem verify_fails_as_auth_error (lib : Libraries Key Claims) (settings : Settings) :
    (∀ (call : Call) (token : String),
      verify lib settings call token ≠ .error .uncaught ↔ call.IsClean lib settings token) ∧
    (∀ (call : Call) (token : String) (header : Header) (kid : String) (jwk : Json),
      lib.getUnverifiedHeader token = .ok header → header.kid = some kid → kid ≠ "" →
      call.cache.jwksByKid.get? kid = some jwk → call.Refetches kid →
      (∃ e, call.keySet lib settings = .error e) →
      call.cache.canServeStale call.now = true →
      ((keyForKid lib settings call kid).2 = .ok (some jwk) ↔ ¬call.Garbled lib settings) ∧
      (¬call.Garbled lib settings →
        verify lib settings call token = verifyWith lib settings token header jwk)) := by
  refine ⟨fun call token => verify_ne_uncaught, ?_⟩
  intro call token header kid jwk hheader hkid hne hkey hrefetch hfails hstale
  have hiff := keyForKid_stale hkey hrefetch hfails hstale
  refine ⟨hiff, fun hclean => ?_⟩
  rw [verify_of_header hheader hkid hne, hiff.2 hclean]

/-! ### An issuer that fails -/

/-- Libraries that read any key and find any token in order. -/
def demoLibraries : Libraries Unit Unit where
  isUrl _ := true
  statusMessage _ _ := ""
  getUnverifiedHeader _ := .ok ⟨some "k", .str "RS256"⟩
  fromJwk _ _ := some ()
  decode _ _ _ _ _ := .ok ()
  repr _ := ""
  str _ := ""

/-- An issuer. -/
def demoSettings : Settings := ⟨"https://idp", "api", 600⟩

/-- A key. -/
def demoKey : Json := .obj [("kid", .str "k"), ("kty", .str "RSA")]

/-- A key set that has expired, with one key. -/
def demoCache : JwksCache where
  jwksByKid := [("k", demoKey)]
  jwksExpiresAt := 600
  jwksUri := some "https://idp/jwks"

/-- A call a minute after the key set has expired. -/
def demoCall (jwks : Fetched) : Call where
  entry := demoCache
  entryNow := 660
  cache := demoCache
  now := 660
  time := 660
  discovery := .httpError "unused"
  jwks

theorem demoCall_refetches (jwks : Fetched) : (demoCall jwks).Refetches "k" := by
  have hlate : ¬((660 : ℚ) - 0 < 30) := by norm_num
  have hbackoff : decide ((demoCall jwks).now - (demoCall jwks).cache.lastFailedRefreshAt <
      staleRefreshBackoffSeconds) = false := decide_eq_false hlate
  refine ⟨fun hfresh => absurd hfresh.2 (by decide : ¬(660 : ℚ) < 600), Or.inl ⟨?_, ?_⟩⟩
  · exact (by decide : (600 : ℚ) ≤ 660)
  · rw [JwksCache.inRefreshBackoff, hbackoff, Bool.and_false]

/-- The cached key is served beside an issuer that does not answer. -/
theorem verify_fails_as_auth_error_outage :
    (keyForKid demoLibraries demoSettings (demoCall (.httpError "timeout")) "k").2 =
      .ok (some demoKey) := by
  have hstale : demoCache.canServeStale 660 = true := by
    have hgrace : (660 : ℚ) - 600 ≤ 3600 := by norm_num
    exact decide_eq_true hgrace
  refine (((verify_fails_as_auth_error demoLibraries demoSettings).2
    (demoCall (.httpError "timeout")) "token" _ "k" demoKey rfl rfl (by decide) rfl
    (demoCall_refetches _) ⟨_, rfl⟩ hstale).1).2 fun hgarbled => ?_
  cases hgarbled with
  | wellKnown hcold hurl => cases hcold
  | discovery body hcold hsuccess hbody => cases hcold
  | jwksUri uri huri hurl => cases hurl
  | jwks uri huri hsuccess =>
    obtain ⟨status, -, -, hresponse⟩ := hsuccess
    cases hresponse

/-- A page that is not JSON is raised as it is, though the cached key could be served. -/
theorem not_verify_notJson :
    ¬((∀ (call : Call) (token : String),
        verify demoLibraries demoSettings call token ≠ .error .uncaught) ∧
      ∀ (call : Call) (kid : String) (jwk : Json),
        call.cache.jwksByKid.get? kid = some jwk → call.Refetches kid →
        (∃ e, call.keySet demoLibraries demoSettings = .error e) →
        call.cache.canServeStale call.now = true →
        (keyForKid demoLibraries demoSettings call kid).2 = .ok (some jwk)) := by
  rintro ⟨h, -⟩
  have hheader : demoLibraries.getUnverifiedHeader "token" = .ok ⟨some "k", .str "RS256"⟩ := rfl
  have hgarbled : (demoCall (.response 200 none)).Garbled demoLibraries demoSettings :=
    .jwks "https://idp/jwks" rfl ⟨200, le_rfl, by decide, rfl⟩
  refine h (demoCall (.response 200 none)) "token" ?_
  rw [verify_of_header hheader rfl (by decide),
    keyForKid_eq_uncaught.2 ⟨demoCall_refetches _, hgarbled⟩]

end ClusterManager.Oidc
