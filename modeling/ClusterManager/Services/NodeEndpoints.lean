import ClusterManager.Clients.Manager
import ClusterManager.Services.Clusters
import ClusterManager.Targets.Texts

/-!
# The endpoints of the nodes

A node reports its service endpoints, separated by `;`. `get_nodes` splits the report at every `:`
and takes the first two pieces; `parse_host_port` knows brackets and a port that is missing.
`endpoint_agrees_iff` says for which reports the two readers agree.
-/

namespace ClusterManager.Services.Clusters

open Str Numerals Info Clients IpAddress

/-- The host of an endpoint: an IPv4 address or a hostname, or an IPv6 address in brackets. -/
inductive EndpointHost
  | name (text : Str)
  | bracketed (text : Str)

namespace EndpointHost

/-- The host as it is written. -/
def text : EndpointHost → Str
  | name text => text
  | bracketed text => '[' :: (text ++ [']'])

/-- A host without the characters that stand around hosts. Of two kinds, only that in brackets holds
a `:`. -/
def IsHost : EndpointHost → Prop
  | name text => text ≠ [] ∧ ∀ c ∈ text, isSpace c = false ∧ c ≠ ':' ∧ c ≠ ';' ∧ c ≠ '['
  | bracketed text => ':' ∈ text ∧
      ∀ c ∈ text, isSpace c = false ∧ c ≠ ']' ∧ c ≠ ';' ∧ c ≠ '['

/-- Whether the host stands in brackets. -/
def isBracketed : EndpointHost → Bool
  | name _ => false
  | bracketed _ => true

end EndpointHost

/-- An endpoint, with its port if it is written. -/
structure Endpoint where
  host : EndpointHost
  port : Option ℕ
  isHost : host.IsHost
  port_lt : ∀ p ∈ port, p < 65536

/-- A port as it is written behind a host. -/
def portText : Option ℕ → Str
  | none => []
  | some port => ':' :: Nat.toDigits 10 port

/-- An endpoint as it is written. -/
def Endpoint.text (e : Endpoint) : Str := e.host.text ++ portText e.port

/-- The report of a node. -/
def serviceText (first : Endpoint) (rest : List Endpoint) : Str :=
  [';'].intercalate ((first :: rest).map Endpoint.text)

/-! ### Addresses are hosts -/

/-- Every IPv4 address is a host. -/
theorem isHost_of_ipv4 {text : Str} {v : ℕ} (h : ipv4FromString text = some v) :
    (EndpointHost.name text).IsHost := by
  have hexact := inetAtonExact_of_ipv4FromString h
  refine ⟨?_, fun c hc => ?_⟩
  · rintro rfl
    cases h
  · have hnumeric := isNumeric_of_mem_inetAtonExact hexact c hc
    refine ⟨not_isSpace_of_isIpChar (Or.inr hnumeric), ?_, ?_,
      (ne_of_isIpChar (Or.inr hnumeric)).1⟩
    · rintro rfl
      exact not_isNumeric_colon hnumeric
    · rintro rfl
      revert hnumeric
      unfold IsNumeric
      decide

/-- Every IPv6 address is a host in brackets. -/
theorem isHost_of_ipv6 {text : Str} {v : ℕ} (h : ipv6FromString text = some v) :
    (EndpointHost.bracketed text).IsHost := by
  refine ⟨colon_mem_of_ipv6FromString h, fun c hc => ?_⟩
  have hchar := isIpChar_of_ipv6FromString h c hc
  refine ⟨not_isSpace_of_isIpChar hchar, (ne_of_isIpChar hchar).2.1, ?_, (ne_of_isIpChar hchar).1⟩
  rintro rfl
  revert hchar
  unfold IsIpChar IsNumeric
  decide

/-! ### Ports -/

theorem length_toDigits_port {p : ℕ} (h : p < 65536) : (Nat.toDigits 10 p).length ≤ 5 :=
  (Nat.length_toDigits_le_iff (by decide) (by decide)).2 (by omega)

theorem parseInt_port {p : ℕ} (h : p < 65536) : parseInt (Nat.toDigits 10 p) = some (p : ℤ) := by
  have hlen := length_toDigits_port h
  have hparse := parseInt_intText_of_le (n := (p : ℤ))
    (Nat.le_trans hlen (by decide : 5 ≤ maxStrDigits))
  rwa [intText, if_neg (by omega), Int.natAbs_natCast] at hparse

theorem safeInt_port {p : ℕ} (h : p < 65536) : safeInt (some (Nat.toDigits 10 p)) 3000 = p := by
  rw [safeInt, Option.bind_some, parseInt_port h, Option.getD_some]

theorem mem_dropWhile {p : Char → Bool} {s : Str} {c : Char} (h : c ∈ s) (hp : p c = false) :
    c ∈ s.dropWhile p := by
  rw [← List.takeWhile_append_dropWhile (p := p) (l := s), List.mem_append] at h
  refine h.resolve_left fun hmem => ?_
  rw [List.mem_takeWhile_imp hmem] at hp
  cases hp

/-- A run of digits holds no `;`. -/
theorem digitRun_of_semicolon {s : Str} (h : ';' ∈ s) : digitRun s = none := by
  have hdigit : digitValue ';' = none := by decide
  unfold digitRun
  dsimp only
  split
  next => rfl
  next =>
    cases hvalues : (s.splitOn '_').flatten.mapM digitValue with
    | none => rfl
    | some values =>
      have hsplit : ';' = '_' ∨ ∃ piece ∈ s.splitOn '_', ';' ∈ piece := exists_mem_splitOn h
      obtain ⟨piece, hpiece, hmem⟩ := hsplit.resolve_left (by decide)
      obtain ⟨d, hd⟩ := mapM_isSome_of_mem hvalues ';' (List.mem_flatten.2 ⟨piece, hpiece, hmem⟩)
      rw [hdigit] at hd
      cases hd

/-- A text with a `;` in it is no port. -/
theorem safeInt_of_semicolon {text : Str} (h : ';' ∈ text) : safeInt (some text) 3000 = 3000 := by
  have hstripped : ';' ∈ (text.dropWhile isIntSpace).rdropWhile isIntSpace := by
    rw [List.rdropWhile, List.mem_reverse]
    exact mem_dropWhile (List.mem_reverse.2 (mem_dropWhile h (by decide))) (by decide)
  have hnone : parseInt text = none := by
    simp only [parseInt]
    generalize (text.dropWhile isIntSpace).rdropWhile isIntSpace = numeral at hstripped
    have hsign : ';' ∈ (splitSign numeral).2 := by
      unfold splitSign
      split
      next => exact (List.mem_cons.1 hstripped).resolve_left (by decide)
      next => exact (List.mem_cons.1 hstripped).resolve_left (by decide)
      next => exact hstripped
    rw [digitRun_of_semicolon hsign]
    rfl
  rw [safeInt, Option.bind_some, hnone, Option.getD_none]

/-! ### The report split at its colons -/

theorem splitService_of_not_mem {service : Str} (h : ':' ∉ service) (hne : service ≠ []) :
    splitService service = (service, "3000".toList) := by
  rw [splitService, List.splitOn_eq_singleton h]
  exact if_neg hne

/-- The second piece ends at the next colon. -/
theorem splitService_append {a b : Str} (h : ':' ∉ a) :
    splitService (a ++ ':' :: b) = (a, b.takeWhile (· ≠ ':')) := by
  have hne : a ++ ':' :: b ≠ [] := by simp
  obtain ⟨rest, hrest⟩ : ∃ rest, b.splitOn ':' = b.takeWhile (· ≠ ':') :: rest := by
    by_cases hm : ':' ∈ b
    · obtain ⟨c, d, rfl, hc⟩ := eq_of_mem hm
      refine ⟨d.splitOn ':', ?_⟩
      rw [List.splitOn_append_cons_self_of_not_mem hc, ← partition_fst, partition_append hc]
    · refine ⟨[], ?_⟩
      rw [List.splitOn_eq_singleton hm, ← partition_fst, partition_of_not_mem hm]
  rw [splitService, List.splitOn_append_cons_self_of_not_mem h, hrest]
  exact if_neg hne

/-- The first piece ends at the first colon. -/
theorem splitService_fst {service : Str} (hne : service ≠ []) :
    (splitService service).1 = service.takeWhile (· ≠ ':') := by
  by_cases hm : ':' ∈ service
  · obtain ⟨a, b, rfl, ha⟩ := eq_of_mem hm
    rw [← partition_fst, partition_append ha, splitService_append ha]
  · rw [← partition_fst, partition_of_not_mem hm, splitService_of_not_mem hm hne]

/-- What `get_nodes` makes of a report. -/
def reported (service : Str) : Str × ℤ :=
  ((splitService service).1, safeInt (some (splitService service).2) 3000)

section Endpoints

variable {text : Str} {port : Option ℕ}

theorem not_mem_name (h : (EndpointHost.name text).IsHost) : ':' ∉ text ∧ ';' ∉ text :=
  ⟨fun hc => (h.2 _ hc).2.1 rfl, fun hc => (h.2 _ hc).2.2.1 rfl⟩

/-- An endpoint without brackets is read as its host and its port. -/
theorem parseHostPort_name (h : (EndpointHost.name text).IsHost) (hport : ∀ p ∈ port, p < 65536) :
    parseHostPort (text ++ portText port) 3000 = (text, ((port.getD 3000 : ℕ) : ℤ)) := by
  have hcolon := (not_mem_name h).1
  have hhead : ∀ rest, text ++ portText port ≠ '[' :: rest := by
    intro rest heq
    cases text with
    | nil => exact h.1 rfl
    | cons c text =>
      cases heq
      exact (h.2 '[' List.mem_cons_self).2.2.2 rfl
  unfold parseHostPort
  split
  next rest heq => exact absurd heq (hhead rest)
  next =>
    cases port with
    | none =>
      rw [portText, List.append_nil, if_neg (by rw [List.count_eq_zero.2 hcolon]; decide),
        partition_of_not_mem hcolon]
      rfl
    | some p =>
      have hp := hport p rfl
      have hdigits : ':' ∉ Nat.toDigits 10 p := fun hc =>
        absurd (isAsciiDigit_of_mem_toDigits hc) (by decide)
      have hcount : (text ++ ':' :: Nat.toDigits 10 p).count ':' = 1 := by
        rw [List.count_append, List.count_cons_self, List.count_eq_zero.2 hcolon,
          List.count_eq_zero.2 hdigits]
      rw [portText, if_neg (by rw [hcount]; decide), partition_append hcolon]
      simp only [parseInt_port hp, Option.getD_some]

/-- Of an endpoint in brackets the host is what stands in them. -/
theorem parseHostPort_bracketed (h : (EndpointHost.bracketed text).IsHost) (rest : Str) :
    (parseHostPort ('[' :: (text ++ ']' :: rest)) 3000).1 = text := by
  have hbracket : ']' ∉ text := fun hc => (h.2 _ hc).2.1 rfl
  simp only [parseHostPort, partition_append hbracket]
  split <;> rfl

/-- The report of one endpoint without brackets. -/
theorem reported_name (h : (EndpointHost.name text).IsHost) (hport : ∀ p ∈ port, p < 65536) :
    reported (text ++ portText port) = (text, ((port.getD 3000 : ℕ) : ℤ)) := by
  have hcolon := (not_mem_name h).1
  unfold reported
  cases port with
  | none =>
    rw [portText, List.append_nil, splitService_of_not_mem hcolon h.1]
    exact Prod.ext rfl (safeInt_port (p := 3000) (by decide))
  | some p =>
    have hp := hport p rfl
    have hdigits : (Nat.toDigits 10 p).takeWhile (· ≠ ':') = Nat.toDigits 10 p := by
      rw [List.takeWhile_eq_self_iff]
      intro c hc
      have hascii := isAsciiDigit_of_mem_toDigits hc
      simpa using fun heq : c = ':' => absurd (heq ▸ hascii) (by decide)
    rw [portText, splitService_append hcolon, hdigits]
    exact Prod.ext rfl (safeInt_port hp)

/-- In a list, the port of the first endpoint is read with the next endpoint behind it. -/
theorem reported_name_list (h : (EndpointHost.name text).IsHost) (more : Str) :
    ((reported (text ++ portText port ++ ';' :: more)).1 = text ↔ port ≠ none) ∧
      (port ≠ none → (reported (text ++ portText port ++ ';' :: more)).2 = 3000) := by
  have hcolon := not_mem_name h
  unfold reported
  cases port with
  | none =>
    have hne : text ++ ';' :: more ≠ [] := by simp
    have hname : ∀ c ∈ text, (decide (c ≠ ':')) = true := by
      intro c hc
      simpa using fun heq : c = ':' => hcolon.1 (heq ▸ hc)
    -- the first piece runs on behind the `;`
    have hpiece : ';' ∈ (splitService (text ++ ';' :: more)).1 := by
      rw [splitService_fst hne, List.takeWhile_append_of_pos hname,
        List.takeWhile_cons_of_pos (by decide)]
      simp
    rw [portText, List.append_nil]
    refine ⟨iff_of_false (fun heq => ?_) (by simp), fun hne => absurd rfl hne⟩
    rw [heq] at hpiece
    exact hcolon.2 hpiece
  | some p =>
    rw [portText, List.append_assoc, List.cons_append, splitService_append hcolon.1]
    refine ⟨iff_of_true rfl (by simp), fun _ => safeInt_of_semicolon ?_⟩
    have hdigits : ∀ c ∈ Nat.toDigits 10 p, (decide (c ≠ ':')) = true := by
      intro c hc
      have hascii := isAsciiDigit_of_mem_toDigits hc
      simpa using fun heq : c = ':' => absurd (heq ▸ hascii) (by decide)
    rw [List.takeWhile_append_of_pos hdigits, List.takeWhile_cons_of_pos (by decide)]
    simp

end Endpoints

/-! ### The two readers -/

theorem serviceText_nil (first : Endpoint) : serviceText first [] = first.text := by
  simp [serviceText, List.intercalate]

theorem serviceText_cons (first next : Endpoint) (rest : List Endpoint) :
    ∃ more, serviceText first (next :: rest) = first.text ++ ';' :: more :=
  ⟨[';'].intercalate ((next :: rest).map Endpoint.text),
    intercalate_cons_cons ';' first.text next.text (rest.map Endpoint.text)⟩

/-- The report of an endpoint in brackets is read with the bracket. -/
theorem reported_bracketed {first : Endpoint} {rest : List Endpoint}
    (h : first.host.isBracketed = true) :
    reported (serviceText first rest) ≠ parseHostPort first.text 3000 := by
  obtain ⟨host, port, hhost, hport⟩ := first
  cases host with
  | name text => cases h
  | bracketed text =>
    have htext : (Endpoint.mk (.bracketed text) port hhost hport).text =
        '[' :: (text ++ ']' :: portText port) := by
      simp [Endpoint.text, EndpointHost.text]
    have hservice : ∃ tail, serviceText (Endpoint.mk (.bracketed text) port hhost hport) rest =
        '[' :: tail := by
      cases rest with
      | nil => exact ⟨_, by rw [serviceText_nil, htext]⟩
      | cons next rest =>
        obtain ⟨more, hmore⟩ := serviceText_cons ⟨.bracketed text, port, hhost, hport⟩ next rest
        exact ⟨_, by rw [hmore, htext, List.cons_append]⟩
    obtain ⟨tail, htail⟩ := hservice
    intro heq
    have hfst := congrArg Prod.fst heq
    rw [htext, parseHostPort_bracketed hhost, htail, reported,
      splitService_fst (List.cons_ne_nil _ _), List.takeWhile_cons_of_pos (by decide)] at hfst
    exact (hhost.2 '[' (by rw [← hfst]; exact List.mem_cons_self)).2.2.2 rfl

/-- The readers agree on one endpoint without brackets; and on a list where the first one has none
and has the default port. -/
theorem reported_eq_iff (first : Endpoint) (rest : List Endpoint) :
    reported (serviceText first rest) = parseHostPort first.text 3000 ↔
      first.host.isBracketed = false ∧ (rest = [] ∨ first.port = some 3000) := by
  cases hbracket : first.host.isBracketed with
  | true => exact iff_of_false (reported_bracketed hbracket) (by simp)
  | false =>
    obtain ⟨host, port, hhost, hport⟩ := first
    cases host with
    | bracketed text => cases hbracket
    | name text =>
      have hparse := parseHostPort_name hhost hport
      cases rest with
      | nil =>
        rw [serviceText_nil]
        exact iff_of_true ((reported_name hhost hport).trans hparse.symm) (by simp)
      | cons next rest =>
        obtain ⟨more, hmore⟩ := serviceText_cons ⟨.name text, port, hhost, hport⟩ next rest
        have hlist : ((reported (text ++ portText port ++ ';' :: more)).1 = text ↔ port ≠ none) ∧
            (port ≠ none → (reported (text ++ portText port ++ ';' :: more)).2 = 3000) :=
          reported_name_list hhost more
        rw [hmore]
        show reported (text ++ portText port ++ ';' :: more) =
          parseHostPort (text ++ portText port) 3000 ↔ _
        rw [hparse, Prod.ext_iff, hlist.1]
        cases port with
        | none => simp
        | some p =>
          rw [hlist.2 (by simp)]
          simp only [ne_eq, reduceCtorEq, not_false_eq_true, true_and, Option.getD_some,
            Option.some.injEq, false_or]
          omega

/-- What is reported of a node is read from its last answer. -/
theorem endpoint_of_mem {client : InfoClient} {nodes : List ClusterNode}
    {rows : List InfoAllRow} {node : ClusterNode} (h : getNodes client = .ok nodes)
    (hrows : client.infoAll "service".toList = .ok rows) (hnode : node ∈ nodes) :
    (node.address, node.port) = reported (((lastResponse rows node.name).getD []).strip) := by
  unfold getNodes at h
  cases hstats : client.infoAll "statistics".toList with
  | error e => rw [hstats] at h; cases h
  | ok stats =>
    cases hbuild : client.cached "build".toList with
    | error e => rw [hstats, hbuild] at h; cases h
    | ok build =>
      cases hedition : client.cached "edition".toList with
      | error e => rw [hstats, hbuild, hedition] at h; cases h
      | ok edition =>
        rw [hstats, hbuild, hedition, hrows] at h
        cases h
        obtain ⟨name, -, rfl⟩ := List.mem_map.1 hnode
        simp only [reported]

/-- **The two readers of an endpoint.** Of a node that answers with a list of endpoints, `get_nodes`
reports what `parse_host_port` makes of the first one exactly where that one stands in no brackets,
and is the only one or has the default port. -/
theorem endpoint_agrees_iff {client : InfoClient} {nodes : List ClusterNode}
    {rows : List InfoAllRow} {node : ClusterNode} {resp : Str} {first : Endpoint}
    {rest : List Endpoint} (h : getNodes client = .ok nodes)
    (hrows : client.infoAll "service".toList = .ok rows) (hnode : node ∈ nodes)
    (hresp : lastResponse rows node.name = some resp)
    (hservice : resp.strip = serviceText first rest) :
    (node.address, node.port) = parseHostPort first.text 3000 ↔
      first.host.isBracketed = false ∧ (rest = [] ∨ first.port = some 3000) := by
  rw [endpoint_of_mem h hrows hnode, hresp, Option.getD_some, hservice]
  exact reported_eq_iff first rest

/-! ### Reports of one node -/

/-- A client of one node, which reports its endpoints so. -/
def oneNode (resp : Str) : InfoClient where
  nodeNames := [['n']]
  infoAll _ := .ok [⟨['n'], none, resp⟩]
  infoRandomNode _ := .ok []
  cached _ := .ok []

/-- The endpoint `10.0.0.1` with a port. -/
def firstEndpoint (port : ℕ) (h : port < 65536) : Endpoint where
  host := .name "10.0.0.1".toList
  port := some port
  isHost := isHost_of_ipv4 (v := 167772161) (by decide)
  port_lt := by simpa using h

/-- Of two endpoints the first one has the default port, and is reported as `parse_host_port` reads
it. -/
theorem endpoint_agrees_iff_list : ∃ nodes, ∃ node ∈ nodes,
    getNodes (oneNode "10.0.0.1:3000;10.0.0.1:3100".toList) = .ok nodes ∧
      (node.address, node.port) = parseHostPort (firstEndpoint 3000 (by decide)).text 3000 :=
  ⟨_, _, List.mem_cons_self, rfl,
    (@endpoint_agrees_iff (oneNode "10.0.0.1:3000;10.0.0.1:3100".toList) _ _ _ _
      (firstEndpoint 3000 (by decide)) [firstEndpoint 3100 (by decide)] rfl rfl List.mem_cons_self
      rfl (by decide)).2 ⟨rfl, Or.inr rfl⟩⟩

/-- Of two endpoints with the port 3100 the port 3000 is reported. -/
theorem endpoint_disagrees : ¬∀ (client : InfoClient) (nodes : List ClusterNode)
    (rows : List InfoAllRow) (node : ClusterNode) (resp : Str) (first : Endpoint)
    (rest : List Endpoint), getNodes client = .ok nodes →
    client.infoAll "service".toList = .ok rows → node ∈ nodes →
    lastResponse rows node.name = some resp → resp.strip = serviceText first rest →
    (node.address, node.port) = parseHostPort first.text 3000 := by
  intro h
  have hport := congrArg Prod.snd (h (oneNode "10.0.0.1:3100;10.0.0.1:3100".toList) _ _ _ _
    (firstEndpoint 3100 (by decide)) [firstEndpoint 3100 (by decide)] rfl rfl List.mem_cons_self rfl
    (by decide))
  exact absurd hport (by decide)

end ClusterManager.Services.Clusters
