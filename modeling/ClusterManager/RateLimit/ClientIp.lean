import ClusterManager.RateLimit.IpAddress

/-!
# The client a request is charged to

`getClientIp` derives the bucket of the rate limiter from the socket peer and, if the peer is a
trusted proxy, from the `X-Forwarded-For` header. The lines of a header are what the clients and
the proxies on the way have written; `get` stands for `request.headers.get`, which sees the first
of them.
-/

namespace ClusterManager

/-- The trusted proxies: networks, and addresses matched as texts. -/
structure TrustedProxies where
  networks : List IpNetwork
  literals : List Str

/-- `_parse_trusted_proxies`. -/
def parseTrustedProxies (entries : List Str) : TrustedProxies where
  networks := entries.filterMap fun raw => if '/' ∈ raw then ipNetwork raw else none
  literals := entries.filter fun raw => raw ≠ [] ∧ '/' ∉ raw

/-- `_is_trusted`. -/
def TrustedProxies.isTrusted (trusted : TrustedProxies) (addr : Str) : Bool :=
  trusted.literals.contains addr ||
    match ipAddress addr with
    | some ip => trusted.networks.any (·.contains ip)
    | none => false

/-- `[h.strip() for h in header.split(",") if h.strip()]`. -/
def hops (header : Str) : List Str := ((header.splitOn ',').map Str.strip).filter (· ≠ [])

/-- `_get_client_ip` of a request from a peer with some `X-Forwarded-For` lines. -/
def getClientIp (get : List Str → Option Str) (trustedProxies : List Str) (client : Option Str)
    (forwardedFor : List Str) : Str :=
  let clientHost := client.getD "127.0.0.1".toList
  match get forwardedFor with
  | none => clientHost
  | some header =>
      let trusted := parseTrustedProxies trustedProxies
      if header = [] then clientHost
      else if trusted.networks.isEmpty ∧ trusted.literals.isEmpty then clientHost
      else if trusted.isTrusted clientHost = false then clientHost
      else ((hops header).reverse.find? fun hop => !trusted.isTrusted hop).getD clientHost

/-- The rightmost address that is no trusted proxy. -/
def TrustedProxies.lastUntrusted (trusted : TrustedProxies) (addrs : List Str) : Option Str :=
  addrs.reverse.find? fun hop => !trusted.isTrusted hop

/-- The address of the socket peer. -/
def clientHost (client : Option Str) : Str := client.getD "127.0.0.1".toList

/-- An address as it stands in a header: not empty, without a comma or white space around it. -/
structure IsHop (addr : Str) : Prop where
  ne : addr ≠ []
  strip : addr.strip = addr
  comma : ',' ∉ addr

section

variable {get : List Str → Option Str} {entries : List Str} {client : Option Str}
  {trusted : TrustedProxies} {header addr : Str} {lines front back here later : List Str}

/-- Without an address to match nothing is trusted. -/
theorem isTrusted_of_isEmpty (hnetworks : trusted.networks.isEmpty = true)
    (hliterals : trusted.literals.isEmpty = true) : trusted.isTrusted addr = false := by
  rw [List.isEmpty_iff] at hnetworks hliterals
  rw [TrustedProxies.isTrusted, hnetworks, hliterals]
  cases ipAddress addr <;> rfl

/-- A peer that is no trusted proxy is the client, whatever the header says. -/
theorem getClientIp_of_untrusted
    (h : (parseTrustedProxies entries).isTrusted (clientHost client) = false) :
    getClientIp get entries client lines = clientHost client := by
  unfold getClientIp
  cases get lines with
  | none => rfl
  | some header =>
    dsimp only
    rw [← clientHost, h, if_pos rfl, ite_self, ite_self]

theorem hops_nil : hops [] = [] := rfl

/-- Behind a trusted proxy the client is the rightmost address of the header that is none. -/
theorem getClientIp_of_trusted (hheader : get lines = some header)
    (h : (parseTrustedProxies entries).isTrusted (clientHost client) = true) :
    getClientIp get entries client lines =
      ((parseTrustedProxies entries).lastUntrusted (hops header)).getD (clientHost client) := by
  have hsome : ¬ ((parseTrustedProxies entries).networks.isEmpty ∧
      (parseTrustedProxies entries).literals.isEmpty) := by
    rintro ⟨hnetworks, hliterals⟩
    rw [isTrusted_of_isEmpty hnetworks hliterals] at h
    cases h
  rw [getClientIp, hheader]
  dsimp only
  rw [← clientHost]
  by_cases hempty : header = []
  · rw [if_pos hempty, hempty, hops_nil]
    rfl
  · rw [if_neg hempty, if_neg hsome, h, if_neg (by decide)]
    rfl

/-- What was appended decides, if there is an untrusted address in it. -/
theorem lastUntrusted_append : trusted.lastUntrusted (front ++ back) =
    (trusted.lastUntrusted back).or (trusted.lastUntrusted front) := by
  rw [TrustedProxies.lastUntrusted, List.reverse_append, List.find?_append]
  rfl

theorem lastUntrusted_singleton (h : trusted.isTrusted addr = false) :
    trusted.lastUntrusted [addr] = some addr := by
  simp [TrustedProxies.lastUntrusted, h]

/-! ### Headers that carry given addresses -/

/-- The header of a list of addresses. -/
def joinHops (addrs : List Str) : Str := [','].intercalate addrs

theorem hops_joinHops (h : ∀ addr ∈ back, IsHop addr) : hops (joinHops back) = back := by
  by_cases hnil : back = []
  · subst hnil
    rfl
  · rw [hops, joinHops, List.splitOn_intercalate ',' (fun addr haddr => (h addr haddr).comma) hnil]
    have hstrip : back.map Str.strip = back :=
      (List.map_congr_left fun addr haddr => (h addr haddr).strip).trans (List.map_id _)
    rw [hstrip, List.filter_eq_self]
    intro addr haddr
    simpa using (h addr haddr).ne

/-- There are addresses that no list of trusted proxies trusts. -/
theorem exists_untrusted (trusted : TrustedProxies) : ∃ a b, a ≠ b ∧ IsHop a ∧ IsHop b ∧
    trusted.isTrusted a = false ∧ trusted.isTrusted b = false := by
  obtain ⟨n, hn⟩ : ∃ n, ∀ literal ∈ trusted.literals, literal.length < n := by
    generalize trusted.literals = literals
    induction literals with
    | nil => exact ⟨0, by simp⟩
    | cons literal literals ih =>
      obtain ⟨n, hn⟩ := ih
      refine ⟨n + literal.length + 1, ?_⟩
      intro other hother
      rcases List.mem_cons.1 hother with rfl | hother
      · omega
      · have := hn other hother
        omega
  have hname : ∀ k, IsHop (List.replicate (n + k + 1) 'x') ∧
      trusted.isTrusted (List.replicate (n + k + 1) 'x') = false := by
    intro k
    have hnot : ∀ c, c ≠ 'x' → c ∉ List.replicate (n + k + 1) 'x' := fun c hc hmem =>
      hc (List.eq_of_mem_replicate hmem)
    refine ⟨⟨by simp, Str.strip_of_noSpace fun c hc => ?_, hnot _ (by decide)⟩, ?_⟩
    · rw [List.eq_of_mem_replicate hc]
      decide
    · have hliteral : List.replicate (n + k + 1) 'x' ∉ trusted.literals := by
        intro hmem
        have := hn _ hmem
        rw [List.length_replicate] at this
        omega
      rw [TrustedProxies.isTrusted, ipAddress_eq_none (hnot _ (by decide)) (hnot _ (by decide))
        (hnot _ (by decide))]
      simpa using hliteral
  refine ⟨_, _, ?_, (hname 0).1, (hname 1).1, (hname 0).2, (hname 1).2⟩
  intro heq
  have := congrArg List.length heq
  simp at this

/-! ### What the client can change -/

/-- The lines of a request whose proxies appended the addresses `here` to the first line and
`later` to the others, after whatever the client wrote: into the first line, and, if the proxies
wrote nothing there, into the others. -/
def Laid (lines here later : List Str) : Prop :=
  ∃ line others front, lines = line :: others ∧ hops line = front ++ here ∧
    (others.flatMap hops = later ∨ here = [] ∧ ∃ mid, others.flatMap hops = mid ++ later)

/-- The lines of a request end in the addresses of the proxies just when these are laid out over
the lines in some way. -/
theorem exists_laid_iff {suffix : List Str} (hne : suffix ≠ []) :
    (∃ front, lines.flatMap hops = front ++ suffix) ↔
      ∃ here later, here ++ later = suffix ∧ Laid lines here later := by
  constructor
  · rintro ⟨front, h⟩
    cases lines with
    | nil => exact absurd (List.append_eq_nil_iff.1 h.symm).2 hne
    | cons line others =>
      rw [List.flatMap_cons] at h
      rcases List.append_eq_append_iff.1 h with ⟨mid, hfront, hothers⟩ | ⟨here, hline, hsuffix⟩
      · exact ⟨[], suffix, rfl, line, others, hops line, rfl, by simp, Or.inr ⟨rfl, mid, hothers⟩⟩
      · exact ⟨here, _, hsuffix.symm, line, others, front, rfl, hline, Or.inl rfl⟩
  · rintro ⟨here, later, rfl, line, others, front, rfl, hline, hothers | ⟨rfl, mid, hothers⟩⟩
    · exact ⟨front, by rw [List.flatMap_cons, hline, hothers, List.append_assoc]⟩
    · exact ⟨front ++ mid, by simp [hline, hothers]⟩

/-- A request with given addresses in front of those of the proxies. -/
theorem exists_laid (front : List Str) (hget : ∀ lines, get lines = lines.head?)
    (htrusted : (parseTrustedProxies entries).isTrusted (clientHost client) = true)
    (hfront : ∀ addr ∈ front, IsHop addr) (hhere : ∀ addr ∈ here, IsHop addr)
    (hlater : ∀ addr ∈ later, IsHop addr) :
    ∃ lines, Laid lines here later ∧ getClientIp get entries client lines =
      ((parseTrustedProxies entries).lastUntrusted (front ++ here)).getD (clientHost client) := by
  have hline : hops (joinHops (front ++ here)) = front ++ here :=
    hops_joinHops fun addr haddr => (List.mem_append.1 haddr).elim (hfront addr) (hhere addr)
  refine ⟨[joinHops (front ++ here), joinHops later],
    ⟨_, _, front, rfl, hline, Or.inl (by simp [hops_joinHops hlater])⟩, ?_⟩
  rw [getClientIp_of_trusted (hget _) htrusted, hline]

/-- A request is charged to what the proxies wrote into the first line, if there is an untrusted
address in it. -/
theorem getClientIp_of_laid (hget : ∀ lines, get lines = lines.head?)
    (htrusted : (parseTrustedProxies entries).isTrusted (clientHost client) = true)
    (hlaid : Laid lines here later)
    (hlast : (parseTrustedProxies entries).lastUntrusted here = some addr) :
    getClientIp get entries client lines = addr := by
  obtain ⟨line, others, front, rfl, hline, -⟩ := hlaid
  rw [getClientIp_of_trusted (hget _) htrusted, hline, lastUntrusted_append, hlast]
  rfl

/-- If the proxies wrote no untrusted address into the first line, the client chooses. -/
theorem exists_laid_ne (hget : ∀ lines, get lines = lines.head?)
    (htrusted : (parseTrustedProxies entries).isTrusted (clientHost client) = true)
    (hhere : ∀ addr ∈ here, IsHop addr) (hlater : ∀ addr ∈ later, IsHop addr)
    (hlast : (parseTrustedProxies entries).lastUntrusted here = none) (addr : Str) :
    ∃ lines, Laid lines here later ∧ getClientIp get entries client lines ≠ addr := by
  obtain ⟨a, b, hab, ha, hb, hua, hub⟩ := exists_untrusted (parseTrustedProxies entries)
  have hchosen : ∀ c, IsHop c → (parseTrustedProxies entries).isTrusted c = false →
      ∃ lines, Laid lines here later ∧ getClientIp get entries client lines = c := by
    intro c hc huc
    obtain ⟨lines, hlaid, hclient⟩ := exists_laid [c] hget htrusted
      (by simpa using hc) hhere hlater
    rw [lastUntrusted_append, hlast, lastUntrusted_singleton huc] at hclient
    exact ⟨lines, hlaid, hclient⟩
  by_cases hcase : a = addr
  · obtain ⟨lines, hlaid, hclient⟩ := hchosen b hb hub
    exact ⟨lines, hlaid, hclient ▸ fun h => hab (hcase.trans h.symm)⟩
  · obtain ⟨lines, hlaid, hclient⟩ := hchosen a ha hua
    exact ⟨lines, hlaid, hclient ▸ hcase⟩

/-- Two requests that end in the same addresses of the proxies are charged to the same client,
whatever their clients wrote, just when the proxies wrote the same last untrusted address into the
first line of each; and to their peer, if it is no proxy. -/
theorem getClientIp_eq_iff {here' later' : List Str} (hget : ∀ lines, get lines = lines.head?)
    (hsuffix : here ++ later = here' ++ later') (hhops : ∀ addr ∈ here ++ later, IsHop addr) :
    ((parseTrustedProxies entries).isTrusted (clientHost client) = false →
      ∀ lines, getClientIp get entries client lines = clientHost client) ∧
    ((parseTrustedProxies entries).isTrusted (clientHost client) = true →
      ((∀ lines lines', Laid lines here later → Laid lines' here' later' →
          getClientIp get entries client lines = getClientIp get entries client lines') ↔
        ∃ addr, (parseTrustedProxies entries).lastUntrusted here = some addr ∧
          (parseTrustedProxies entries).lastUntrusted here' = some addr)) := by
  refine ⟨fun h lines => getClientIp_of_untrusted h, fun htrusted => ?_⟩
  have hhere : ∀ addr ∈ here, IsHop addr := fun addr h => hhops addr (List.mem_append_left _ h)
  have hlater : ∀ addr ∈ later, IsHop addr := fun addr h => hhops addr (List.mem_append_right _ h)
  rw [hsuffix] at hhops
  have hhere' : ∀ addr ∈ here', IsHop addr := fun addr h => hhops addr (List.mem_append_left _ h)
  have hlater' : ∀ addr ∈ later', IsHop addr := fun addr h =>
    hhops addr (List.mem_append_right _ h)
  constructor
  · intro hsame
    obtain ⟨lines, hlaid, hclient⟩ := exists_laid [] hget htrusted (by simp) hhere hlater
    obtain ⟨lines', hlaid', hclient'⟩ :=
      exists_laid [] hget htrusted (by simp) hhere' hlater'
    cases hlast : (parseTrustedProxies entries).lastUntrusted here with
    | none =>
      obtain ⟨other, hother, hne⟩ := exists_laid_ne hget htrusted hhere hlater hlast
        (getClientIp get entries client lines')
      exact absurd (hsame other lines' hother hlaid') hne
    | some addr =>
      cases hlast' : (parseTrustedProxies entries).lastUntrusted here' with
      | none =>
        obtain ⟨other, hother, hne⟩ := exists_laid_ne hget htrusted hhere' hlater' hlast'
          (getClientIp get entries client lines)
        exact absurd (hsame lines other hlaid hother).symm hne
      | some addr' =>
        refine ⟨addr, rfl, ?_⟩
        rw [← getClientIp_of_laid hget htrusted hlaid hlast,
          ← getClientIp_of_laid hget htrusted hlaid' hlast', hsame lines lines' hlaid hlaid']
  · rintro ⟨addr, hlast, hlast'⟩ lines lines' hlaid hlaid'
    rw [getClientIp_of_laid hget htrusted hlaid hlast,
      getClientIp_of_laid hget htrusted hlaid' hlast']

end

/-! ### One line and two -/

/-- A trusted proxy, and the address of a client behind it. -/
def proxyAddress : Str := "10.0.0.9".toList
def clientAddress : Str := "203.0.113.7".toList

theorem isHop_clientAddress : IsHop clientAddress := ⟨by decide, by decide, by decide⟩

/-- What a client writes in front of its address in the same line does not count. -/
theorem getClientIp_one_line :
    getClientIp List.head? [proxyAddress] (some proxyAddress) ["1.1.1.1, 203.0.113.7".toList] =
      getClientIp List.head? [proxyAddress] (some proxyAddress)
        ["2.2.2.2, 203.0.113.7".toList] := by
  have hlaid : Laid ["1.1.1.1, 203.0.113.7".toList] [clientAddress] [] :=
    ⟨_, [], ["1.1.1.1".toList], rfl, by decide, Or.inl rfl⟩
  have hlaid' : Laid ["2.2.2.2, 203.0.113.7".toList] [clientAddress] [] :=
    ⟨_, [], ["2.2.2.2".toList], rfl, by decide, Or.inl rfl⟩
  have hhops : ∀ addr ∈ [clientAddress] ++ [], IsHop addr := by
    simpa using isHop_clientAddress
  exact ((getClientIp_eq_iff (fun _ => rfl) rfl hhops).2 (by decide)).2
    ⟨clientAddress, by decide, by decide⟩ _ _ hlaid hlaid'

/-- A proxy that adds a line of its own leaves the first line to the client, who is charged to
whatever it wrote there. -/
theorem getClientIp_two_lines :
    (["1.1.1.1".toList, clientAddress].flatMap hops = ["1.1.1.1".toList] ++ [clientAddress] ∧
      ["2.2.2.2".toList, clientAddress].flatMap hops = ["2.2.2.2".toList] ++ [clientAddress] ∧
      (parseTrustedProxies [proxyAddress]).isTrusted proxyAddress = true ∧
      (parseTrustedProxies [proxyAddress]).isTrusted clientAddress = false) ∧
    getClientIp List.head? [proxyAddress] (some proxyAddress)
        ["1.1.1.1".toList, clientAddress] = "1.1.1.1".toList ∧
      getClientIp List.head? [proxyAddress] (some proxyAddress)
        ["2.2.2.2".toList, clientAddress] = "2.2.2.2".toList := by
  decide

end ClusterManager
