import ClusterManager.Lib.Table
import ClusterManager.RateLimit.ClientIp

/-!
# The proxy of the UI

`proxy.js` stands between the browsers and the API. `buildForwardedHeaders` replaces what a client
says about where it comes from by its socket address; `bucketBehindProxy` is what the API makes of
a request that came through it.
-/

namespace ClusterManager

open IpAddress

/-- A request at the proxy: its headers, each with its lines, and the address of its socket. -/
structure ProxyRequest where
  headers : Dict Str (List Str)
  remoteAddress : Option Str

/-- `name.toLowerCase()`. -/
def lowerName (name : Str) : Str := name.map Char.toLower

/-- `\d{1,3}(?:\.\d{1,3}){3}`. -/
def isDottedQuad (text : Str) : Bool :=
  let parts := text.splitOn '.'
  parts.length = 4 ∧ parts.all fun part => 1 ≤ part.length ∧ part.length ≤ 3 ∧ part.all isDigit

/-- The prefix of an address of version 4 in version 6. -/
def mappedPrefix : Str := "::ffff:".toList

/-- `normalizeAddress`. -/
def normalizeAddress (address : Option Str) : Option Str :=
  match address with
  | none => none
  | some address =>
      if address = [] then none
      else if lowerName (address.take mappedPrefix.length) = mappedPrefix ∧
          isDottedQuad (address.drop mappedPrefix.length) then
        some (address.drop mappedPrefix.length)
      else some address

/-- The names of the headers that say where a request comes from. -/
def forwardedForName : Str := "x-forwarded-for".toList
def realIpName : Str := "x-real-ip".toList

/-- The headers without what a client says about where it comes from. -/
def stripForwarding (headers : Dict Str (List Str)) : Dict Str (List Str) :=
  headers.filter fun p => lowerName p.1 ≠ forwardedForName ∧ lowerName p.1 ≠ realIpName

/-- `buildForwardedHeaders`. -/
def buildForwardedHeaders (req : ProxyRequest) (dropHost : Bool) : Dict Str (List Str) :=
  let headers := stripForwarding (if dropHost then req.headers.erase "host".toList else req.headers)
  match normalizeAddress req.remoteAddress with
  | some peer => Dict.set (Dict.set headers forwardedForName [peer]) realIpName [peer]
  | none => headers

/-- The `X-Forwarded-For` lines that the API receives. -/
def forwardedForLines (headers : Dict Str (List Str)) : List Str :=
  (headers.filter fun p => lowerName p.1 = forwardedForName).flatMap Prod.snd

/-- `_get_client_ip` of what `proxyToApi` sends for a request. -/
def bucketBehindProxy (get : List Str → Option Str) (trustedProxies : List Str)
    (proxyAddress : Str) (req : ProxyRequest) : Str :=
  getClientIp get trustedProxies (some proxyAddress)
    (forwardedForLines (buildForwardedHeaders req true))

/-- The text of a socket address has neither a comma nor white space. -/
structure IsAddressText (addr : Str) : Prop where
  noSpace : Str.NoSpace addr
  comma : ',' ∉ addr

section

variable {get : List Str → Option Str} {entries : List Str} {proxyAddress addr addr' : Str}
  {req req' : ProxyRequest}

theorem lowerName_forwardedForName : lowerName forwardedForName = forwardedForName := by decide

/-- The address of the socket is all that the API is told. -/
theorem forwardedForLines_build {dropHost : Bool} :
    forwardedForLines (buildForwardedHeaders req dropHost) =
      (normalizeAddress req.remoteAddress).toList := by
  unfold buildForwardedHeaders
  generalize (if dropHost = true then req.headers.erase "host".toList else req.headers) = headers
  have hnone : ∀ p ∈ stripForwarding headers,
      lowerName p.1 ≠ forwardedForName ∧ lowerName p.1 ≠ realIpName := fun p hp =>
    of_decide_eq_true (List.mem_filter.1 hp).2
  generalize stripForwarding headers = kept at hnone ⊢
  have hkept : kept.filter (fun p => lowerName p.1 = forwardedForName) = [] := by
    rw [List.filter_eq_nil_iff]
    intro p hp
    simpa using (hnone p hp).1
  cases normalizeAddress req.remoteAddress with
  | none => simp only [forwardedForLines, hkept, List.flatMap_nil, Option.toList_none]
  | some peer =>
    have hnew : forwardedForName ∉ kept.map Prod.fst := by
      intro hmem
      obtain ⟨p, hp, heq⟩ := List.mem_map.1 hmem
      exact (hnone p hp).1 (heq ▸ lowerName_forwardedForName)
    have hnew' : realIpName ∉ (kept ++ [(forwardedForName, [peer])]).map Prod.fst := by
      intro hmem
      obtain ⟨p, hp, heq⟩ := List.mem_map.1 hmem
      rcases List.mem_append.1 hp with hp | hp
      · exact (hnone p hp).2 (by rw [heq]; decide)
      · rw [List.mem_singleton.1 hp] at heq
        exact absurd heq (show forwardedForName ≠ realIpName by decide)
    dsimp only
    rw [Dict.set_of_not_mem hnew, Dict.set_of_not_mem hnew', forwardedForLines,
      List.filter_append, List.filter_append, hkept]
    simp [lowerName_forwardedForName, show lowerName realIpName ≠ forwardedForName by decide]

/-- A socket address is a hop as it stands, also after it was normalised. -/
theorem isHop_of_normalizeAddress (haddr : ∀ text ∈ req.remoteAddress, IsAddressText text)
    (h : normalizeAddress req.remoteAddress = some addr) : IsHop addr := by
  have htext : IsAddressText addr ∧ addr ≠ [] := by
    cases hremote : req.remoteAddress with
    | none => rw [hremote] at h; cases h
    | some text =>
      have htext := haddr text hremote
      rw [hremote] at h
      unfold normalizeAddress at h
      dsimp only at h
      split at h
      next => cases h
      next hne =>
        split at h
        next hmapped =>
          obtain rfl := Option.some.inj h
          refine ⟨⟨fun c hc => htext.noSpace c (List.mem_of_mem_drop hc), fun hc =>
            htext.comma (List.mem_of_mem_drop hc)⟩, ?_⟩
          rintro hnil
          rw [hnil] at hmapped
          exact absurd hmapped.2 (by decide)
        next =>
          obtain rfl := Option.some.inj h
          exact ⟨htext, hne⟩
  exact ⟨htext.2, Str.strip_of_noSpace htext.1.noSpace, htext.1.comma⟩

/-- What the API makes of a socket address that is no trusted proxy: the address. -/
theorem bucketBehindProxy_of_untrusted (hone : ∀ value, get [value] = some value)
    (htrusted : (parseTrustedProxies entries).isTrusted proxyAddress = true)
    (h : normalizeAddress req.remoteAddress = some addr) (hhop : IsHop addr)
    (hun : (parseTrustedProxies entries).isTrusted addr = false) :
    bucketBehindProxy get entries proxyAddress req = addr := by
  have hlines : get (forwardedForLines (buildForwardedHeaders req true)) = some addr := by
    rw [forwardedForLines_build, h]
    exact hone addr
  have hhops : hops addr = [addr] := by
    have hjoin : hops (joinHops [addr]) = [addr] := hops_joinHops (by simpa using hhop)
    rwa [joinHops, List.intercalate_singleton] at hjoin
  rw [bucketBehindProxy, getClientIp_of_trusted hlines htrusted, hhops,
    lastUntrusted_singleton hun]
  rfl

/-- Behind the proxy a client is its socket address: whatever headers it forges, the API sees a
value that this address determines, and two addresses that are no trusted proxies are told
apart. -/
theorem bucketBehindProxy_of_peer (hone : ∀ value, get [value] = some value)
    (htrusted : (parseTrustedProxies entries).isTrusted proxyAddress = true) :
    (∃ bucket : Option Str → Str,
      ∀ req, bucketBehindProxy get entries proxyAddress req = bucket req.remoteAddress) ∧
    ∀ req req' addr addr', (∀ text ∈ req.remoteAddress, IsAddressText text) →
      (∀ text ∈ req'.remoteAddress, IsAddressText text) →
      normalizeAddress req.remoteAddress = some addr →
      normalizeAddress req'.remoteAddress = some addr' → addr ≠ addr' →
      (parseTrustedProxies entries).isTrusted addr = false →
      (parseTrustedProxies entries).isTrusted addr' = false →
      bucketBehindProxy get entries proxyAddress req ≠
        bucketBehindProxy get entries proxyAddress req' := by
  constructor
  · refine ⟨fun remoteAddress => getClientIp get entries (some proxyAddress)
      (normalizeAddress remoteAddress).toList, fun req => ?_⟩
    rw [bucketBehindProxy, forwardedForLines_build]
  · intro req req' addr addr' haddr haddr' h h' hne hun hun'
    rw [bucketBehindProxy_of_untrusted hone htrusted h (isHop_of_normalizeAddress haddr h) hun,
      bucketBehindProxy_of_untrusted hone htrusted h' (isHop_of_normalizeAddress haddr' h') hun']
    exact hne

end

/-- A request with a forged header, from some socket address. -/
def forgedRequest (forged remoteAddress : String) : ProxyRequest where
  headers := [("X-Forwarded-For".toList, [forged.toList]), ("Forwarded".toList, [forged.toList])]
  remoteAddress := some remoteAddress.toList

/-- Forged headers move no client, and two clients are told apart. -/
theorem bucketBehindProxy_forged :
    bucketBehindProxy List.head? [proxyAddress] proxyAddress
        (forgedRequest "1.1.1.1" "::ffff:203.0.113.7") =
      bucketBehindProxy List.head? [proxyAddress] proxyAddress
        (forgedRequest "2.2.2.2" "::ffff:203.0.113.7") ∧
    bucketBehindProxy List.head? [proxyAddress] proxyAddress
        (forgedRequest "1.1.1.1" "::ffff:203.0.113.7") ≠
      bucketBehindProxy List.head? [proxyAddress] proxyAddress
        (forgedRequest "1.1.1.1" "203.0.113.8") := by
  have hpeer := bucketBehindProxy_of_peer (fun value => (rfl : List.head? [value] = some value))
    (show (parseTrustedProxies [proxyAddress]).isTrusted proxyAddress = true by decide)
  obtain ⟨⟨bucket, hbucket⟩, hne⟩ := hpeer
  constructor
  · rw [hbucket, hbucket]
    rfl
  · refine hne _ _ clientAddress "203.0.113.8".toList ?_ ?_ (by decide) (by decide) (by decide)
      (by decide) (by decide)
    · rintro text ⟨⟩
      exact ⟨Str.noSpace_iff_find?_none.1 (by decide), by decide⟩
    · rintro text ⟨⟩
      exact ⟨Str.noSpace_iff_find?_none.1 (by decide), by decide⟩

end ClusterManager
