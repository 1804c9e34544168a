import ClusterManager.Targets.Spellings

/-!
# What the target gate covers

The gate stands in front of the client manager, of the probe, and of both services that store a
profile. Whatever spelling of a denied address an entry holds, none of them goes on with it, unless
the scope of the address is cut off (`gate_covers_iff`).
-/

namespace ClusterManager.Targets

open Clients Db Interleaving IpAddress Services Str

/-- A scope is cut off: the address is of version 6, and its text ends in a blank scope. -/
def LosesScope (ip : IpAddress) (text : Str) : Prop := (∃ value, ip = .v6 value) ∧ ScopeIsBlank text

/-- An address is refused bare, in brackets and with what may follow them. Where it is one that
`inet_aton` reads, it is refused with what may follow a colon as well. -/
def RefusesAddress (a s : Str) : Prop :=
  Refuses a ∧ Refuses ('[' :: a ++ [']']) ∧
    Refuses ('[' :: a ++ ']' :: ':' :: s) ∧
      ((inetAton a).isSome → Refuses (a ++ ':' :: s))

/-- No host of a list is denied. -/
def NamesNoDenied (hosts : List String) : Prop := ∀ entry ∈ hosts, Passes (hostPart entry.toList)

/-! ### Spellings -/

/-- What is read as an address begins with a number, or is an address of version 6. -/
theorem parseIpLiteral_cases {text : Str} {ip : IpAddress}
    (h : parseIpLiteral text = .ok (some ip)) :
    (∃ v number rest, ip = .v4 v ∧ text = number ++ rest ∧ Spelling4 v number rest) ∨
      ∃ v, ip = .v6 v ∧ Spelling6 v text := by
  unfold parseIpLiteral at h
  split at h
  · rename_i ip' hread
    cases h
    rcases ipAddress_cases hread with ⟨v, rfl, hv⟩ | ⟨v, addr, rfl, haddr, htext⟩
    · exact Or.inl ⟨v, text, [], rfl, by simp, inetAtonExact_of_ipv4FromString hv, by simp⟩
    · rcases htext with rfl | ⟨scope, rfl, -, hpercent, hslash⟩
      · exact Or.inr ⟨v, rfl, .bare _ haddr⟩
      · exact Or.inr ⟨v, rfl, .withScope _ _ haddr hpercent hslash⟩
  · split_ifs at h
    obtain ⟨v, hv, rfl⟩ := Option.map_eq_some_iff.1 (Except.ok.inj h)
    obtain ⟨number, rest, rfl, hnumber, hrest⟩ := exists_of_inetAton hv
    exact Or.inl ⟨v, number, rest, rfl, rfl, hnumber, hrest⟩

/-- The host in brackets ends at the first of the closing ones. -/
theorem hostPart_bracketed (a s : Str) :
    hostPart ('[' :: a ++ ']' :: s) = a.takeWhile (· ≠ ']') := by
  rw [List.cons_append, hostPart]
  by_cases hm : ']' ∈ a
  · obtain ⟨b, c, rfl, hb⟩ := Str.eq_of_mem hm
    have hpos : ∀ x ∈ b, (decide (x ≠ ']')) = true := by
      intro x hx
      simpa using fun he : x = ']' => hb (he ▸ hx)
    rw [List.append_assoc, List.takeWhile_append_of_pos hpos, List.takeWhile_append_of_pos hpos]
    simp
  · have hpos : ∀ x ∈ a, (decide (x ≠ ']')) = true := by
      intro x hx
      simpa using fun he : x = ']' => hm (he ▸ hx)
    rw [List.takeWhile_append_of_pos hpos, List.takeWhile_eq_self_iff.2 hpos]
    simp

/-- The gate refuses whatever begins with a number of a denied address, bare or before a colon. -/
theorem Spelling4.refuses {v : ℕ} {number rest : Str} (h : Spelling4 v number rest)
    (hblocked : (IpAddress.v4 v).isBlocked = true) : Refuses (number ++ rest) := by
  have hhead : (number ++ rest).head? ≠ some '[' := by
    rw [List.head?_append_of_ne_nil _ h.ne_nil]
    intro hc
    exact (ne_of_isIpChar (h.isIpChar _ (List.mem_of_head? hc))).1 rfl
  have hpos : ∀ c ∈ number, (decide (c ≠ ':')) = true := by
    intro c hc
    simpa using fun he : c = ':' => h.colon (he ▸ hc)
  rw [refuses_iff, hostPart_of_head hhead]
  split_ifs
  · exact h.not_passes hblocked
  · rw [List.takeWhile_append_of_pos hpos]
    exact (h.cut (List.takeWhile_prefix _)).not_passes hblocked

theorem Spelling4.refuses_port {v : ℕ} {number s : Str} (h : Spelling4 v number [])
    (hblocked : (IpAddress.v4 v).isBlocked = true) (hs : ':' ∉ s) :
    Refuses (number ++ ':' :: s) := by
  have hhead : (number ++ ':' :: s).head? ≠ some '[' := by
    rw [List.head?_append_of_ne_nil _ h.ne_nil]
    intro hc
    exact (ne_of_isIpChar (h.isIpChar _ (List.mem_of_head? hc))).1 rfl
  have hcount : ¬2 ≤ (number ++ ':' :: s).count ':' := by
    rw [List.count_append, List.count_eq_zero.2 h.colon, List.count_cons_self,
      List.count_eq_zero.2 hs]
    decide
  have hpos : ∀ c ∈ number, (decide (c ≠ ':')) = true := by
    intro c hc
    simpa using fun he : c = ':' => h.colon (he ▸ hc)
  rw [refuses_iff, hostPart_of_head hhead, if_neg hcount, List.takeWhile_append_of_pos hpos]
  simpa using h.not_passes hblocked

theorem Spelling4.refusesAddress {v : ℕ} {number rest s : Str} (h : Spelling4 v number rest)
    (hblocked : (IpAddress.v4 v).isBlocked = true) (hs : ':' ∉ s) :
    RefusesAddress (number ++ rest) s := by
  have hpos : ∀ c ∈ number, (decide (c ≠ ']')) = true := by
    intro c hc
    simpa using (ne_of_isIpChar (h.isIpChar c hc)).2.1
  have hbracketed : ∀ t, Refuses ('[' :: (number ++ rest) ++ ']' :: t) := by
    intro t
    rw [refuses_iff, hostPart_bracketed, List.takeWhile_append_of_pos hpos]
    exact (h.cut (List.takeWhile_prefix _)).not_passes hblocked
  refine ⟨h.refuses hblocked, hbracketed _, hbracketed _, fun _ => ?_⟩
  cases rest with
  | nil =>
    rw [List.append_nil]
    exact h.refuses_port hblocked hs
  | cons c rest =>
    rw [List.append_assoc]
    have hlonger : Spelling4 v number (c :: rest ++ ':' :: s) := ⟨h.number, h.rest⟩
    exact hlonger.refuses hblocked

/-- The gate refuses an address of version 6 bare and in brackets, unless its scope is lost. -/
theorem Spelling6.refusesAddress_iff {v : ℕ} {a s : Str} (h : Spelling6 v a)
    (hblocked : (IpAddress.v6 v).isBlocked = true) :
    RefusesAddress a s ↔ ¬ScopeIsBlank a ∧ ¬ScopeIsBlank (a.takeWhile (· ≠ ']')) := by
  have hbare : Refuses a ↔ ¬ScopeIsBlank a := by
    rw [refuses_iff, hostPart_of_head h.head, if_pos h.two_le_count, h.passes_iff hblocked]
  have hbracketed : ∀ t, Refuses ('[' :: a ++ ']' :: t) ↔
      ¬ScopeIsBlank (a.takeWhile (· ≠ ']')) := by
    intro t
    rw [refuses_iff, hostPart_bracketed, h.takeWhile.passes_iff hblocked]
  have haton : inetAton a = none := by
    cases hv : inetAton a with
    | none => rfl
    | some w =>
      obtain ⟨number, rest, rfl, hnumber, hrest⟩ := exists_of_inetAton hv
      have hspelling : Spelling4 w number rest := ⟨hnumber, hrest⟩
      generalize htext : number ++ rest = text at h
      cases h with
      | bare _ haddr =>
        exact (hspelling.not_prefix haddr (htext.trans (List.append_nil _).symm)).elim
      | withScope addr scope haddr => exact (hspelling.not_prefix haddr htext).elim
  rw [RefusesAddress, hbare, hbracketed, hbracketed, haton]
  simp

theorem not_losesScope_v4 {v : ℕ} {text : Str} : ¬LosesScope (.v4 v) text := by
  rintro ⟨⟨_, hv⟩, -⟩
  cases hv

/-- The gate refuses every spelling of a denied address, unless its scope is lost. -/
theorem refusesAddress_iff {a s : Str} {ip : IpAddress} (h : parseIpLiteral a = .ok (some ip))
    (hblocked : ip.isBlocked = true) (hs : ':' ∉ s) :
    RefusesAddress a s ↔
      ¬LosesScope ip a ∧ ¬LosesScope ip (a.takeWhile (· ≠ ']')) := by
  rcases parseIpLiteral_cases h with ⟨v, number, rest, rfl, rfl, hspelling⟩ | ⟨v, rfl, hspelling⟩
  · exact iff_of_true (hspelling.refusesAddress hblocked hs)
      ⟨not_losesScope_v4, not_losesScope_v4⟩
  · rw [hspelling.refusesAddress_iff hblocked]
    simp [LosesScope]

/-! ### Clients -/

theorem namesNoDenied_of_gate {hosts : List String} {port : ℕ}
    (h : assertTargetsAllowed false hosts port = .ok ()) : NamesNoDenied hosts :=
  assertTargetsAllowed_iff.1 h

/-- The hosts of a configuration are those the gate decided on. -/
theorem passes_of_mem_hosts {hosts : List String} {port : ℤ} (h : NamesNoDenied hosts) :
    ∀ host ∈ hosts.map (fun entry =>
      (String.ofList (parseHostPort entry.toList port).1,
        (parseHostPort entry.toList port).2)), Passes host.1.toList := by
  intro host hhost
  obtain ⟨entry, hentry, rfl⟩ := List.mem_map.1 hhost
  rw [String.toList_ofList, parseHostPort_fst]
  exact h entry hentry

/-- No client is constructed with a denied host. -/
def Dials : PoolOp → Prop
  | .construct _ config => ∀ host ∈ config.hosts, Passes host.1.toList
  | _ => True

/-- No client of a probe is constructed with a denied host. -/
def Probes : ProbeOp → Prop
  | .construct config => ∀ host ∈ config.hosts, Passes host.1.toList
  | _ => True

theorem asks_loggedClose {client : ℕ} {reason : CloseReason} :
    (loggedClose client reason).Asks Dials := by
  refine (Coroutine.asks_call.2 trivial).tryCatch fun e => ?_
  split
  · exact Coroutine.asks_pure
  · exact Coroutine.asks_throw

/-- The stored hosts are judged before a client is built from them. -/
theorem asks_buildClient {settings : Settings} {key : CacheKey}
    (hgate : settings.assertTargetsAllowed = assertTargetsAllowed false) :
    (buildClient settings key).Asks Dials := by
  refine (Coroutine.asks_call.2 trivial).bind fun profile => ?_
  cases profile with
  | none => exact Coroutine.asks_throw
  | some profile =>
    refine Coroutine.asks_lift_bind fun _ hallowed => ?_
    rw [hgate] at hallowed
    have hhosts : Dials (.construct key (clientConfig settings profile)) :=
      passes_of_mem_hosts (namesNoDenied_of_gate hallowed)
    refine (Coroutine.asks_call.2 hhosts).bind fun client => ?_
    refine Coroutine.Asks.bind ?_ fun _ => Coroutine.asks_pure
    refine (Coroutine.asks_call.2 trivial).tryCatch fun e => ?_
    exact asks_loggedClose.bind fun _ => Coroutine.asks_throw

theorem asks_closeStale {key : CacheKey} : (closeStale key).Asks Dials := by
  refine (Coroutine.asks_call.2 trivial).bind fun old => ?_
  cases old with
  | none => exact Coroutine.asks_pure
  | some old => exact asks_loggedClose.bind fun _ => Coroutine.asks_call.2 trivial

theorem asks_getClient {settings : Settings} {key : CacheKey}
    (hgate : settings.assertTargetsAllowed = assertTargetsAllowed false) :
    (getClient settings key).Asks Dials := by
  have hbuild : (do
      let client ← buildClient settings key
      closeStale key
      op (.publish key client)
      op (.addGauge 1 (metricAttrs key))
      return client : PoolProgram ℕ).Asks Dials := by
    refine (asks_buildClient hgate).bind fun client => ?_
    refine asks_closeStale.bind fun _ => ?_
    refine (Coroutine.asks_call.2 trivial).bind fun _ => ?_
    exact (Coroutine.asks_call.2 trivial).bind fun _ => Coroutine.asks_pure
  have hlock : (getConnLock key).Asks Dials :=
    (Coroutine.asks_call.2 trivial).bind fun _ =>
      (Coroutine.asks_call.2 trivial).tryFinally (Coroutine.asks_call.2 trivial)
  refine hlock.bind fun lock => (Coroutine.asks_call.2 trivial).bind fun _ => ?_
  refine Coroutine.Asks.tryFinally ?_ (Coroutine.asks_call.2 trivial)
  refine (Coroutine.asks_call.2 trivial).bind fun cached => ?_
  cases cached with
  | none => exact hbuild
  | some client =>
    refine (Coroutine.asks_call.2 trivial).bind fun connected => ?_
    split
    · exact Coroutine.asks_pure
    · exact hbuild

theorem anyBlocked_iff {port : ℕ} {hosts : List String} :
    anyBlocked false port hosts = .ok false ↔ NamesNoDenied hosts := by
  induction hosts with
  | nil => exact iff_of_true rfl (by simp [NamesNoDenied])
  | cons entry hosts ih =>
    rw [NamesNoDenied, List.forall_mem_cons, ← NamesNoDenied, ← ih, anyBlocked,
      parseHostPort_fst, Passes]
    rcases isBlockedTarget false (hostPart entry.toList) with e | blocked
    · exact iff_of_false (fun h => by cases h) fun h => by cases h.1
    · cases blocked
      · exact ⟨fun h => ⟨rfl, h⟩, And.right⟩
      · exact iff_of_false (fun h => by cases h) fun h => by cases h.1

/-- The hosts of a probe are judged before its client is built. -/
theorem asks_testConnection {hasPing : Bool} {req : TestConnectionRequest} :
    (testConnection false hasPing req).Asks Probes := by
  refine Coroutine.asks_lift_bind fun blocked hblocked => ?_
  cases blocked with
  | true => exact Coroutine.asks_pure
  | false =>
    have hhosts : Probes (.construct (probeConfig req)) :=
      passes_of_mem_hosts (anyBlocked_iff.1 hblocked)
    refine Coroutine.Asks.tryCatch ?_ fun e => ?_
    · refine (Coroutine.asks_call.2 hhosts).bind fun client => ?_
      refine Coroutine.Asks.tryFinally ?_ ?_
      · refine (Coroutine.asks_call.2 trivial).bind fun _ => ?_
        refine (Coroutine.asks_call.2 trivial).bind fun connected => ?_
        dsimp only
        split
        · split
          · exact (Coroutine.asks_call.2 trivial).bind fun _ => Coroutine.asks_pure
          · exact Coroutine.asks_pure
        · exact Coroutine.asks_pure
      · refine (Coroutine.asks_call.2 trivial).tryCatch fun e => ?_
        split
        · exact Coroutine.asks_pure
        · exact Coroutine.asks_throw
    · split
      · exact Coroutine.asks_pure
      · exact Coroutine.asks_throw

/-! ### Stored profiles -/

/-- How a call into the `db` module moves the tables. -/
def Answers (rt : Runtime) (r : DbOp) (x : Except Exc r.Resp) (t t' : Tables) : Prop :=
  (x, t') = r.exec rt t

theorem answers_exec (rt : Runtime) (r : DbOp) (t : Tables) :
    Answers rt r (r.exec rt t).1 t (r.exec rt t).2 := rfl

variable {rt : Runtime} {t : Tables}

theorem safe_assertWorkspaceVisible {workspaceId : String} {callerOwnerId : Option String}
    {Q : Unit → Tables → Prop} {E : Exc → Tables → Prop} (hQ : Q () t) (hE : ∀ e, E e t) :
    (assertWorkspaceVisible workspaceId callerOwnerId).Safe (Answers rt) (fun _ _ => True) t
      Q E := by
  refine Coroutine.safe_bind.2 (Coroutine.safe_call.2 ⟨trivial, ?_, ?_⟩)
  · rintro ws t' hanswer
    obtain rfl : t' = t := congrArg Prod.snd hanswer
    split
    · exact hE _
    · split
      · exact hQ
      · split
        · exact hE _
        · exact hQ
  · rintro e t' hanswer
    obtain rfl : t' = t := congrArg Prod.snd hanswer
    exact hE e

/-- Only a profile that passed the gate is added by `create_connection`. -/
theorem createConnection_stores {payload : CreateConnectionRequest}
    {callerOwnerId : Option String} {uuid now : String} {nonce : ℕ} :
    ∀ row ∈ ((createConnection rt (assertTargetsAllowed false) payload callerOwnerId uuid
      now nonce).run (DbOp.exec rt) t).2.connections,
      row ∈ t.connections ∨ NamesNoDenied row.hosts := by
  have hsafe : (createConnection rt (assertTargetsAllowed false) payload callerOwnerId uuid
      now nonce).Safe (Answers rt) (fun _ _ => True) t
      (fun _ t' => ∀ row ∈ t'.connections, row ∈ t.connections ∨ NamesNoDenied row.hosts)
      fun _ t' => ∀ row ∈ t'.connections, row ∈ t.connections ∨ NamesNoDenied row.hosts := by
    refine Coroutine.safe_bind.2 (Coroutine.safe_lift.2 ⟨fun _ hallowed => ?_, ?_⟩)
    · refine Coroutine.safe_bind.2 (safe_assertWorkspaceVisible ?_ fun _ _ => Or.inl)
      refine Coroutine.safe_bind.2 (Coroutine.safe_lift.2 ⟨fun conn hconn => ?_,
        fun _ _ _ => Or.inl⟩)
      obtain ⟨-, rfl⟩ := ConnectionProfile.validated_eq_ok.1 hconn
      refine Coroutine.safe_bind.2 (Coroutine.safe_call.2 ⟨trivial, ?_, ?_⟩)
      · intro _ t' hanswer row hrow
        simp only [Answers, DbOp.exec, Db.createConnection, Dml.apply] at hanswer
        cases hinsert : t.connections.insert? (profileToRow rt nonce (newProfile rt payload
          (orDefault defaultWorkspaceId (payload.workspaceId.getD "")) uuid now)) with
        | none =>
          rw [hinsert] at hanswer
          cases hanswer
        | some connections =>
          rw [hinsert] at hanswer
          cases hanswer
          rcases (Table.mem_insert? hinsert).1 hrow with hrow | rfl
          · exact Or.inl hrow
          · exact Or.inr (namesNoDenied_of_gate hallowed)
      · intro _ t' hanswer row hrow
        simp only [Answers, DbOp.exec, writing] at hanswer
        split at hanswer
        · cases hanswer
        · cases hanswer
          exact Or.inl hrow
    · exact fun _ _ _ => Or.inl
  exact hsafe.run_state fun r t _ => answers_exec rt r t

/-- A merged profile has the hosts of the update, or those it had. -/
theorem buildMergedProfile_hosts {existing conn : ConnectionProfile} {data : UpdateData}
    {connId now : String} (h : buildMergedProfile rt existing data connId now = .ok conn) :
    data.hosts.getD (some existing.hosts) = some conn.hosts := by
  obtain ⟨name, hosts, port, color, -, hhosts, -, -, rfl⟩ := exists_of_buildMergedProfile h
  unfold required at hhosts
  split at hhosts
  · rename_i heq
    cases hhosts
    exact heq
  · cases hhosts

/-- What `update_connection` stores names no denied host, if the update names hosts, or else if
what was stored named none. -/
def KeepsHosts (connId : String) (data : UpdateData) (t t' : Tables) : Prop :=
  ∃ row row', t.connections.find? connId = some row ∧ t'.connections.find? connId = some row' ∧
    (NamesNoDenied row'.hosts ↔ data.hosts ≠ none ∨ NamesNoDenied row.hosts)

/-- Only the row of the connection is rewritten. -/
def KeepsOthers (connId : String) (t t' : Tables) : Prop :=
  ∀ id, id ≠ connId → t'.connections.find? id = t.connections.find? id

theorem updateConnection_keeps {connId : String} {data : UpdateData} {now : String} {nonce : ℕ}
    {conn : ConnectionProfile} {t' : Tables}
    (hgate : assertUpdateTargets (assertTargetsAllowed false) data = .ok ())
    (h : Db.updateConnection rt connId data now nonce t = .ok (some conn, t')) :
    KeepsHosts connId data t t' ∧ KeepsOthers connId t t' := by
  unfold Db.updateConnection at h
  split at h
  · cases h
  · rename_i row hrow
    obtain ⟨existing, hexisting, h⟩ := exists_of_bind_ok h
    obtain ⟨updated, hupdated, h⟩ := exists_of_bind_ok h
    cases h
    have hkept : existing.hosts = row.hosts := by
      obtain ⟨-, password, -, rfl⟩ := decryptedProfile_eq_ok.1 hexisting
      rfl
    have hhosts := buildMergedProfile_hosts hupdated
    have hfind : ∀ id,
        (t.assignConnection connId (profileToRow rt nonce conn)).connections.find? id =
        if id = connId then (t.connections.find? connId).map (profileToRow rt nonce conn).assign
        else t.connections.find? id :=
      fun id => Table.find?_update (profileToRow rt nonce conn).assign_id
    refine ⟨⟨row, (profileToRow rt nonce conn).assign row, hrow, ?_, ?_⟩, ?_⟩
    · rw [hfind, if_pos rfl, hrow, Option.map_some]
    · -- an empty list of hosts is not judged, and names none
      show NamesNoDenied conn.hosts ↔ _
      cases hdata : data.hosts with
      | none =>
        rw [hdata, Option.getD_none, hkept, Option.some.injEq] at hhosts
        simp [hhosts]
      | some hosts =>
        rw [hdata, Option.getD_some] at hhosts
        subst hhosts
        refine iff_of_true ?_ (Or.inl (by simp))
        unfold assertUpdateTargets at hgate
        rw [hdata] at hgate
        cases hnew : conn.hosts with
        | nil => simp [NamesNoDenied]
        | cons host hosts =>
          rw [hnew] at hgate
          exact namesNoDenied_of_gate hgate
    · intro id hid
      rw [hfind, if_neg hid]

/-- What `update_connection` does behind its checks. -/
theorem safe_storeUpdate {connId : String} {data : UpdateData} {now : String} {nonce : ℕ}
    {tail : Option ConnectionProfile → DbProgram ConnectionProfile}
    (hgate : assertUpdateTargets (assertTargetsAllowed false) data = .ok ())
    (hnone : tail none = throw (.connectionNotFound connId))
    (hsome : ∀ conn, tail (some conn) = return fromProfile conn) :
    (db (.updateConnection connId data now nonce) >>= tail).Safe (Answers rt) (fun _ _ => True) t
      (fun _ t' => KeepsHosts connId data t t' ∧ KeepsOthers connId t t') fun _ t' => t' = t := by
  refine Coroutine.safe_bind.2 (Coroutine.safe_call.2 ⟨trivial, ?_, ?_⟩)
  · intro result t' hanswer
    simp only [Answers, DbOp.exec, writing] at hanswer
    split at hanswer
    · rename_i hok
      cases hanswer
      cases result with
      | none =>
        rw [hnone]
        unfold Db.updateConnection at hok
        split at hok
        · cases hok
          exact rfl
        · obtain ⟨existing, -, hok⟩ := exists_of_bind_ok hok
          obtain ⟨updated, -, hok⟩ := exists_of_bind_ok hok
          cases hok
      | some conn =>
        rw [hsome]
        exact updateConnection_keeps hgate hok
    · cases hanswer
  · intro e t' hanswer
    simp only [Answers, DbOp.exec, writing] at hanswer
    split at hanswer
    · cases hanswer
    · cases hanswer
      rfl

/-- `update_connection` rewrites one row, and a call that raises none. -/
theorem updateConnection_stores {connId : String} {data : UpdateData}
    {callerOwnerId : Option String} {now : String} {nonce : ℕ} :
    (∀ conn t', (updateConnection (assertTargetsAllowed false) connId data callerOwnerId
        now nonce).run (DbOp.exec rt) t = (.ok conn, t') →
      KeepsHosts connId data t t' ∧ KeepsOthers connId t t') ∧
    ∀ e t', (updateConnection (assertTargetsAllowed false) connId data callerOwnerId
      now nonce).run (DbOp.exec rt) t = (.error e, t') → t' = t := by
  have hsafe : (updateConnection (assertTargetsAllowed false) connId data callerOwnerId
      now nonce).Safe (Answers rt) (fun _ _ => True) t
      (fun _ t' => KeepsHosts connId data t t' ∧ KeepsOthers connId t t') fun _ t' => t' = t := by
    refine Coroutine.safe_bind.2 (Coroutine.safe_lift.2 ⟨fun _ hgate => ?_, fun _ _ => rfl⟩)
    refine Coroutine.safe_bind.2 ?_
    unfold assertUpdateWorkspace
    split
    · exact safe_assertWorkspaceVisible (safe_storeUpdate hgate rfl fun _ => rfl)
        fun _ => rfl
    · exact safe_storeUpdate hgate rfl fun _ => rfl
  have hexec : ∀ r t, True → Answers rt r (DbOp.exec rt r t).1 t (DbOp.exec rt r t).2 :=
    fun r t _ => answers_exec rt r t
  exact ⟨fun conn t' => hsafe.run_ok hexec, fun e t' => hsafe.run_error hexec⟩

/-! ### The gate -/

/-- The claim of the gate for addresses: whatever is read as a denied address is refused. -/
def RefusesEverySpelling : Prop :=
  ∀ (a s : Str) (ip : IpAddress), parseIpLiteral a = .ok (some ip) → ip.isBlocked = true →
    ':' ∉ s → RefusesAddress a s

/-- The gate decides on the hosts that go to the driver. It refuses an address that is denied
exactly where neither the text nor what stands before its first bracket loses the scope. No client
is constructed with a host it denies, and what is stored names none, unless an update leaves the
hosts as they were. -/
theorem gate_covers_iff (a s : Str) :
    (∀ (hosts : List String) (port : ℕ),
      assertTargetsAllowed false hosts port = .ok () ↔ NamesNoDenied hosts) ∧
    (∀ (settings : Settings) (profile : ConnectionProfile),
      (clientConfig settings profile).hosts.map Prod.fst =
        profile.hosts.map fun entry => String.ofList (hostPart entry.toList)) ∧
    (∀ req : TestConnectionRequest, (probeConfig req).hosts.map Prod.fst =
      req.hosts.map fun entry => String.ofList (hostPart entry.toList)) ∧
    (∀ ip : IpAddress, parseIpLiteral a = .ok (some ip) → ip.isBlocked = true → ':' ∉ s →
      (RefusesAddress a s ↔ ¬LosesScope ip a ∧ ¬LosesScope ip (a.takeWhile (· ≠ ']')))) ∧
    (∀ (settings : Settings) (key key' : CacheKey) (config : ClientConfig)
      (past : List (Answer PoolOp PoolOp.Resp Exc)),
      settings.assertTargetsAllowed = assertTargetsAllowed false →
        (getClient settings key).Requests past (.construct key' config) →
          ∀ host ∈ config.hosts, Passes host.1.toList) ∧
    (∀ (hasPing : Bool) (req : TestConnectionRequest) (config : ProbeConfig)
      (past : List (Answer ProbeOp ProbeOp.Resp Exc)),
      (testConnection false hasPing req).Requests past (.construct config) →
        ∀ host ∈ config.hosts, Passes host.1.toList) ∧
    (∀ (rt : Runtime) (t : Tables) (payload : CreateConnectionRequest)
      (callerOwnerId : Option String) (uuid now : String) (nonce : ℕ),
      ∀ row ∈ ((createConnection rt (assertTargetsAllowed false) payload callerOwnerId uuid
        now nonce).run (DbOp.exec rt) t).2.connections,
        row ∈ t.connections ∨ NamesNoDenied row.hosts) ∧
    ∀ (rt : Runtime) (t : Tables) (connId : String) (data : UpdateData)
      (callerOwnerId : Option String) (now : String) (nonce : ℕ),
      match (updateConnection (assertTargetsAllowed false) connId data callerOwnerId
        now nonce).run (DbOp.exec rt) t with
      | (.ok _, t') => KeepsHosts connId data t t' ∧ KeepsOthers connId t t'
      | (.error _, t') => t' = t := by
  refine ⟨fun hosts port => assertTargetsAllowed_iff, ?_, ?_, ?_, ?_, ?_, ?_, ?_⟩
  · intro settings profile
    simp [clientConfig, parseHostPort_fst]
  · intro req
    simp [probeConfig, parseHostPort_fst]
  · intro ip h hblocked hs
    exact refusesAddress_iff h hblocked hs
  · intro settings key key' config past hgate hr
    exact (asks_getClient hgate).requests hr
  · intro hasPing req config past hr
    exact asks_testConnection.requests hr
  · intro rt t payload callerOwnerId uuid now nonce
    exact createConnection_stores
  · intro rt t connId data callerOwnerId now nonce
    have hstores := @updateConnection_stores rt t connId data callerOwnerId now nonce
    split
    next conn t' hrun => exact hstores.1 conn t' hrun
    next e t' hrun => exact hstores.2 e t' hrun

/-- The short form of a loopback address is refused. -/
theorem gate_covers_short_form :
    RefusesAddress ['1', '2', '7', '.', '1'] ['x'] :=
  ((gate_covers_iff _ _).2.2.2.1 (.v4 2130706433) (by decide) (by decide) (by decide)).2
    ⟨not_losesScope_v4, not_losesScope_v4⟩

/-- The loopback address with a scope of one blank passes, and so does a link-local one in
brackets with a scope that begins with the closing one. -/
theorem not_refusesEverySpelling :
    assertTargetsAllowed false ["::1% "] 3000 = .ok () ∧
      assertTargetsAllowed false ["[fe80::1%]]"] 3000 = .ok () ∧
        ¬RefusesEverySpelling := by
  have hpasses : assertTargetsAllowed false ["::1% "] 3000 = .ok () := by
    decide
  refine ⟨hpasses, by decide, fun h => ?_⟩
  obtain ⟨e, he⟩ := (h "::1% ".toList [] (.v6 1) (by decide) (by decide) (by decide)).1
    ["::1% "] 3000 (by simp)
  rw [hpasses] at he
  cases he

end ClusterManager.Targets
