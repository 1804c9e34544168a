import ClusterManager.Records.Queries

/-!
# What filtered reads return

Every record of a scan meets the criteria that were sent with it. A read by key, and a scan of a
request with an empty key, leave criteria out, and return what these would have refused as soon as
one record under the key fails them.
-/

namespace ClusterManager.Records

open Numerals Info

variable {F : Type} {py : Python F} {server : Server F} {r : StoredRecord F}

/-! ### Reads by key -/

theorem truthy_eq_some {text : Option Str} {s : Str} :
    truthy text = some s ↔ text = some s ∧ s ≠ [] := by
  simp [truthy, Option.filter_eq_some_iff]

theorem truthy_eq_none {text : Option Str} : truthy text = none ↔ ∀ s ∈ text, s = [] := by
  cases text <;> simp [truthy]

/-- A key that is looked up is one the text stands for. -/
theorem mem_exactKeys_of_mem_lookupKeys {text : Str} {pkType : PkType} {key : PrimaryKey}
    (h : key ∈ lookupKeys text pkType) : key ∈ exactKeys text pkType := by
  unfold lookupKeys at h
  split at h
  · split_ifs at h with hn
    · exact h
    · cases h
  · exact h

/-- A record that the driver returns is the one under the key. -/
theorem find_of_clientGet {store : Store (StoredRecord F)} {ns set : Str} {key : PrimaryKey}
    (h : clientGet store ns set key = .ok r) : store.find ns set key = some r := by
  unfold clientGet at h
  cases hfind : store.find ns set key with
  | none =>
    rw [hfind] at h
    dsimp only at h
    split at h
    · split_ifs at h
    · cases h
  | some r' =>
    rw [hfind] at h
    dsimp only at h
    split at h
    · split_ifs at h
      cases h
      rfl
    · cases h
      rfl

/-- No record is under an integer too wide. -/
theorem storable_of_find {store : Store (StoredRecord F)} {ns set : Str} {key : PrimaryKey}
    (h : store.find ns set key = some r) : key.Storable := by
  cases key with
  | int n =>
    by_contra hn
    rw [store.narrow ns set n hn] at h
    cases h
  | string text => trivial
  | bytes data => trivial

/-- The read by key finds a record under a key that is looked up. -/
theorem find_of_getWithPkFallback {store : Store (StoredRecord F)} {ns set text : Str}
    {pkType : PkType} {resolved : PrimaryKey} (hresolved : resolvePk text pkType = .ok resolved)
    (h : getWithPkFallback store ns set resolved text pkType = .ok r) :
    ∃ key ∈ lookupKeys text pkType, store.find ns set key = some r := by
  have hself : ∀ {r'}, clientGet store ns set resolved = .ok r' →
      ∃ key ∈ lookupKeys text pkType, store.find ns set key = some r' := by
    intro r' hget
    have hfind := find_of_clientGet hget
    refine ⟨resolved, ?_, hfind⟩
    cases resolved with
    | int n =>
      have hn : InInt64 n := storable_of_find hfind
      simp only [lookupKeys, exactKeys, hresolved, if_pos hn]
      split_ifs <;> simp
    | string key => simp [lookupKeys, exactKeys, hresolved]
    | bytes data => simp [lookupKeys, exactKeys, hresolved]
  unfold getWithPkFallback at h
  split at h
  · rename_i hmissing
    split_ifs at h with hauto
    split at h
    · rename_i n
      have hn : InInt64 n := by
        by_contra hn
        simp [clientGet, hn] at hmissing
      have hauto : pkType = .auto := not_not.1 hauto
      refine ⟨.string text, ?_, find_of_clientGet h⟩
      simp only [lookupKeys, exactKeys, hresolved, if_pos hn, if_pos hauto]
      simp
    · cases h
  · exact hself h

/-- A read by key returns records in scope, under keys that are looked up. -/
theorem of_mem_fetchExact {cluster : Cluster F} {ns : Str} {set : Option Str} {text : Str}
    {pkType : PkType} {found : List (Found F)}
    (h : fetchExact cluster ns set text pkType = .ok found) :
    truthy set ≠ none ∧ ∀ f ∈ found, cluster.Contains f.record ∧ f.record.key.Storable ∧
      InScope ns set f.record ∧ f.record.key ∈ lookupKeys text pkType := by
  unfold fetchExact at h
  split at h
  · cases h
  · rename_i s hset
    split at h
    · cases h
    · rename_i resolved hresolved
      refine ⟨by simp [hset], ?_⟩
      split at h
      · rename_i r hget
        cases h
        simp only [List.mem_singleton, forall_eq]
        obtain ⟨key, hkey, hfind⟩ := find_of_getWithPkFallback hresolved hget
        obtain ⟨hns, hs, rfl⟩ := cluster.keyed ns s key r hfind
        subst hns hs
        refine ⟨hfind, storable_of_find hfind, ⟨rfl, ?_⟩, hkey⟩
        rw [hset]
        rintro _ ⟨⟩
        rfl
      · cases h
        simp
      · cases h

/-! ### A cluster with one record -/

/-- The cluster with one record. -/
def Cluster.single (r : StoredRecord F) (h : r.key.Storable) : Cluster F where
  store :=
    { find := fun ns set key =>
        if r.namespace_ = ns ∧ r.set = set ∧ r.key = key then some r else none
      narrow := fun ns set n hn => if_neg fun hkey => hn (by rw [hkey.2.2] at h; exact h) }
  keyed := fun ns set key r' hfind => by
    dsimp only at hfind
    split_ifs at hfind with hkey
    cases hfind
    exact hkey

theorem Cluster.contains_single (h : r.key.Storable) : (Cluster.single r h).Contains r :=
  if_pos ⟨rfl, rfl, rfl⟩

theorem clientGet_single (h : r.key.Storable) :
    clientGet (Cluster.single r h).store r.namespace_ r.set r.key = .ok r := by
  have hfind : (Cluster.single r h).store.find r.namespace_ r.set r.key = some r :=
    Cluster.contains_single h
  unfold clientGet
  rw [hfind]
  dsimp only
  split
  · rename_i n hkey
    rw [hkey] at h
    exact if_pos h
  · rfl

/-- A record that is alone is found under every key that is looked up. -/
theorem getWithPkFallback_single (h : r.key.Storable) {text : Str} {pkType : PkType}
    {resolved : PrimaryKey} (hresolved : resolvePk text pkType = .ok resolved)
    (hkey : r.key ∈ lookupKeys text pkType) :
    getWithPkFallback (Cluster.single r h).store r.namespace_ r.set resolved text pkType =
      .ok r := by
  have hself : r.key = resolved →
      getWithPkFallback (Cluster.single r h).store r.namespace_ r.set resolved text pkType =
        .ok r := by
    rintro rfl
    unfold getWithPkFallback
    rw [clientGet_single h]
  by_cases heq : r.key = resolved
  · exact hself heq
  · unfold lookupKeys at hkey
    rw [hresolved] at hkey
    cases resolved with
    | string key =>
      simp only [exactKeys, hresolved, List.mem_singleton] at hkey
      exact absurd hkey heq
    | bytes data =>
      simp only [exactKeys, hresolved, List.mem_singleton] at hkey
      exact absurd hkey heq
    | int n =>
      dsimp only at hkey
      split_ifs at hkey with hn
      · simp only [exactKeys, hresolved] at hkey
        split_ifs at hkey with hauto
        · have htext : r.key = .string text := by simpa [heq] using hkey
          have hmissing : clientGet (Cluster.single r h).store r.namespace_ r.set (.int n) =
              .error .recordNotFound := by
            rw [clientGet_int _ _ _ hn]
            have hfind : (Cluster.single r h).store.find r.namespace_ r.set (.int n) = none :=
              if_neg fun hkey => heq hkey.2.2
            rw [hfind]
          have hget := clientGet_single h
          rw [htext] at hget
          simp [getWithPkFallback, hmissing, hauto, hget]
        · exact absurd (List.mem_singleton.1 hkey) heq
      · cases hkey

theorem fetchExact_single (h : r.key.Storable) {ns : Str} {set : Option Str} {text : Str}
    {pkType : PkType} (hscope : InScope ns set r) (hset : truthy set ≠ none)
    (hkey : r.key ∈ lookupKeys text pkType) :
    fetchExact (Cluster.single r h) ns set text pkType = .ok [⟨r, r.bins⟩] := by
  obtain ⟨s, hs⟩ := Option.ne_none_iff_exists'.1 hset
  obtain ⟨rfl, hin⟩ := hscope
  obtain rfl := hin s hs
  unfold fetchExact
  rw [hs]
  dsimp only
  cases hresolved : resolvePk text pkType with
  | error e =>
    have hempty : lookupKeys text pkType = [] := by simp [lookupKeys, exactKeys, hresolved]
    rw [hempty] at hkey
    cases hkey
  | ok resolved =>
    dsimp only
    rw [getWithPkFallback_single h hresolved hkey]

open Classical in
/-- The driver that returns the record where a query asks for it. -/
noncomputable def Driver.single (server : Server F) (r : StoredRecord F) (h : r.key.Storable) :
    Driver server (Cluster.single r h) where
  results q := .ok (if q.Admits server r then [⟨r, shownBins q.bins r⟩] else [])
  objectCount _ _ := .ok none
  sound q found hfound f hf := by
    cases hfound
    split_ifs at hf with hq
    · cases List.mem_singleton.1 hf
      exact ⟨Cluster.contains_single h, hq, rfl⟩
    · cases hf

theorem runQuery_single (h : r.key.Storable) {q : Query F} (hq : q.Admits server r) :
    runQuery (Driver.single server r h) q = .ok [⟨r, shownBins q.bins r⟩] := by
  have hresults : (Driver.single server r h).results q = .ok [⟨r, shownBins q.bins r⟩] := by
    simp [Driver.single, hq]
  rw [runQuery, hresults]

/-! ### Scans -/

/-- The predicate of a query selects where the predicate of the request holds. -/
theorem select_buildWhere {predicate : Option (QueryPredicate F)} {w : Option (Where F)}
    (h : buildWhere py predicate = .ok w) :
    (∀ w' ∈ w, server.select w' r = true) ↔ ∀ p ∈ predicate, p.Holds py server r := by
  cases predicate with
  | none =>
    cases h
    simp
  | some p =>
    obtain ⟨w, hw, rfl⟩ := map_eq_ok.1 h
    simp [select_buildPredicate (mapError_eq_ok.1 hw)]

/-- The namespace and the set of a query are those of the request. -/
theorem inScope_iff {ns : Str} {set : Option Str} :
    InScope ns set r ↔ r.namespace_ = ns ∧ (set.getD [] ≠ [] → r.set = set.getD []) := by
  unfold InScope
  cases set with
  | none => simp [truthy]
  | some s => simp [truthy]

/-- What a query returns is in the cluster, and asked for. -/
theorem of_mem_runQuery {cluster : Cluster F} {driver : Driver server cluster} {q : Query F}
    {found : List (Found F)} (h : runQuery driver q = .ok found) :
    ∀ f ∈ found, cluster.Contains f.record ∧ q.Admits server f.record ∧
      f.bins = shownBins q.bins f.record := by
  unfold runQuery at h
  split at h
  · rename_i found' hfound
    cases h
    exact driver.sound q found hfound
  · cases h
    simp
  · cases h

namespace QueryRequest

/-- A record a scan asks for meets the criteria that are sent. -/
theorem admits_iff {body : QueryRequest F} {w : Option (Where F)} {bins : Option (List Str)}
    {limit : ℕ} (h : buildWhere py body.predicate = .ok w) :
    Query.Admits server ⟨body.namespace_, body.set.getD [], w, bins, limit, none⟩ r ↔
      InScope body.namespace_ body.set r ∧ ∀ p ∈ body.predicate, p.Holds py server r := by
  rw [inScope_iff, ← select_buildWhere h]
  constructor
  · intro hq
    exact ⟨⟨hq.namespace_, hq.set⟩, hq.predicate⟩
  · rintro ⟨⟨hns, hset⟩, hp⟩
    exact ⟨hns, hset, hp, by simp⟩

/-- Every record `execute_query` returns meets the criteria that are looked at. -/
theorem of_mem_executeQuery {body : QueryRequest F} {cluster : Cluster F}
    {driver : Driver server cluster} {result : QueryResult F}
    (h : executeQuery py driver body = .ok result) {f : Found F} (hf : f ∈ result.records) :
    cluster.Contains f.record ∧ InScope body.namespace_ body.set f.record ∧
      match truthy body.primaryKey with
      | some text => truthy body.set ≠ none ∧ f.record.key ∈ lookupKeys text body.pkType
      | none => body.Built py ∧ ∀ p ∈ body.predicate, p.Holds py server f.record := by
  unfold executeQuery at h
  cases htext : truthy body.primaryKey with
  | some text =>
    simp only [htext] at h
    obtain ⟨found, hfound, rfl⟩ := map_eq_ok.1 h
    obtain ⟨hset, hall⟩ := of_mem_fetchExact hfound
    obtain ⟨hcontains, -, hscope, hkey⟩ := hall f hf
    exact ⟨hcontains, hscope, hset, hkey⟩
  | none =>
    simp only [htext] at h
    obtain ⟨w, hw, h⟩ := bind_eq_ok.1 h
    obtain ⟨found, hfound, rfl⟩ := map_eq_ok.1 h
    obtain ⟨hcontains, hadmits, -⟩ := of_mem_runQuery hfound f hf
    obtain ⟨hscope, hp⟩ := (admits_iff hw).1 hadmits
    exact ⟨hcontains, hscope, ⟨w, hw⟩, hp⟩

/-- A request that is sound is safe: a cluster with one record would show what is left out. -/
theorem isSafe_of_sound {body : QueryRequest F} (h : body.Sound py server) :
    body.IsSafe py server := by
  intro r hstore hscope
  cases htext : truthy body.primaryKey with
  | some text =>
    intro hset hkey
    have hresult : executeQuery py (Driver.single server r hstore) body =
        .ok (.of [⟨r, r.bins⟩]) := by
      unfold executeQuery
      rw [htext]
      dsimp only
      rw [fetchExact_single hstore hscope hset hkey]
      rfl
    obtain ⟨-, hcriteria⟩ := h _ _ _ hresult ⟨r, r.bins⟩ (List.mem_singleton_self _)
    exact ⟨hcriteria.predicate, hcriteria.expression⟩
  | none =>
    rintro ⟨w, hw⟩ hp
    have hresult : executeQuery py (Driver.single server r hstore) body =
        .ok (.of [⟨r, shownBins body.selectBins r⟩]) := by
      unfold executeQuery
      rw [htext]
      dsimp only
      rw [hw]
      dsimp only [Except.bind]
      rw [runQuery_single hstore ((admits_iff hw).2 ⟨hscope, hp⟩)]
      rfl
    obtain ⟨-, hcriteria⟩ := h _ _ _ hresult ⟨r, _⟩ (List.mem_singleton_self _)
    exact ⟨fun hempty => hcriteria.key [] hempty, hcriteria.expression⟩

/-- A request that is safe is sound. -/
theorem sound_of_isSafe {body : QueryRequest F} (h : body.IsSafe py server) :
    body.Sound py server := by
  intro cluster driver result hresult f hf
  obtain ⟨hcontains, hscope, hread⟩ := of_mem_executeQuery hresult hf
  have hsafe := h f.record (storable_of_find hcontains) hscope
  refine ⟨hcontains, ?_⟩
  cases htext : truthy body.primaryKey with
  | some text =>
    rw [htext] at hread hsafe
    obtain ⟨hset, hkey⟩ := hread
    obtain ⟨hp, hexpr⟩ := hsafe hset hkey
    refine ⟨hscope, fun text' htext' => ?_, hp, hexpr⟩
    rw [(truthy_eq_some.1 htext).1] at htext'
    cases htext'
    exact mem_exactKeys_of_mem_lookupKeys hkey
  | none =>
    rw [htext] at hread hsafe
    obtain ⟨hbuilt, hp⟩ := hread
    obtain ⟨hempty, hexpr⟩ := hsafe hbuilt hp
    refine ⟨hscope, fun text htext' => ?_, hp, hexpr⟩
    obtain rfl := truthy_eq_none.1 htext text htext'
    exact hempty htext'

end QueryRequest

namespace FilteredQueryRequest

variable {body : FilteredQueryRequest F}

/-- The key of a record matches the pattern of a scan. -/
def PatternHolds (server : Server F) (body : FilteredQueryRequest F) (r : StoredRecord F) : Prop :=
  ∀ mode, body.pkMatchMode = .pattern mode → ∀ target ∈ body.pkTarget,
    KeyMatches server r target mode

theorem eval_filterExpression {pkExpr binExpr : Option (Exp F)} :
    (∀ e ∈ filterExpression pkExpr binExpr, e.eval server r = some true) ↔
      (∀ e ∈ pkExpr, e.eval server r = some true) ∧
        ∀ e ∈ binExpr, e.eval server r = some true := by
  cases pkExpr with
  | none => simp [filterExpression]
  | some pkExpr =>
    cases binExpr with
    | none => simp [filterExpression]
    | some binExpr => simp [filterExpression, eval_and]

theorem eval_pkExpression {pkExpr : Option (Exp F)} (h : body.pkExpression py = .ok pkExpr) :
    (∀ e ∈ pkExpr, e.eval server r = some true) ↔ body.PatternHolds server r := by
  unfold pkExpression at h
  unfold PatternHolds
  split at h
  · rename_i target mode htarget hmode
    obtain ⟨e, he, rfl⟩ := map_eq_ok.1 h
    simp [htarget, hmode, eval_pkFilter (mapError_eq_ok.1 he)]
  · rename_i hno
    cases h
    refine iff_of_true (by simp) fun mode hmode target htarget => ?_
    exact (hno target mode htarget hmode).elim

theorem eval_binExpression {binExpr : Option (Exp F)} (h : body.binExpression py = .ok binExpr) :
    (∀ e ∈ binExpr, e.eval server r = some true) ↔
      ∀ group ∈ body.filters, group.Holds py server r := by
  unfold binExpression at h
  cases hfilters : body.filters with
  | none =>
    simp only [hfilters] at h
    cases h
    simp
  | some group =>
    simp only [hfilters] at h
    obtain ⟨e, he, rfl⟩ := map_eq_ok.1 h
    simp [eval_buildExpression (mapError_eq_ok.1 he)]

/-- A record a scan asks for meets the criteria that are sent. -/
theorem admits_iff {q : Query F} (h : body.query py = .ok q) :
    q.Admits server r ↔ InScope body.namespace_ body.set r ∧ body.BinsHold py server r ∧
      body.PatternHolds server r := by
  unfold query at h
  obtain ⟨pkExpr, hpk, h⟩ := bind_eq_ok.1 h
  obtain ⟨binExpr, hbin, h⟩ := bind_eq_ok.1 h
  obtain ⟨w, hw, rfl⟩ := map_eq_ok.1 h
  rw [inScope_iff, BinsHold, ← select_buildWhere hw, ← eval_pkExpression hpk,
    ← eval_binExpression hbin]
  constructor
  · intro hq
    obtain ⟨hpk, hbin⟩ := eval_filterExpression.1 hq.filterExpression
    exact ⟨⟨hq.namespace_, hq.set⟩, ⟨hbin, hq.predicate⟩, hpk⟩
  · rintro ⟨⟨hns, hset⟩, ⟨hbin, hp⟩, hpk⟩
    exact ⟨hns, hset, hp, eval_filterExpression.2 ⟨hpk, hbin⟩⟩

/-- The first page holds records that were found. -/
theorem of_mem_firstPage {cluster : Cluster F} {driver : Driver server cluster} {q : Query F}
    {found : List (Found F)} {result : FilterRecordsResult F}
    (h : body.firstPage driver q found = .ok result) : ∀ f ∈ result.records, f ∈ found := by
  have hpage : result.records =
      if body.pageSize < found.length then found.take body.pageSize else found := by
    unfold firstPage at h
    dsimp only at h
    generalize (body.filters.isSome || body.predicate.isSome || _ : Bool) = hasFilters at h
    cases hasFilters with
    | true =>
      cases h
      simp
    | false =>
      simp only [Bool.false_eq_true, if_false] at h
      split at h
      · cases h
      · cases h
        simp
  intro f hf
  rw [hpage] at hf
  split_ifs at hf
  · exact List.mem_of_mem_take hf
  · exact hf

/-- Every record `filter_records` returns meets the criteria that are looked at. -/
theorem of_mem_filterRecords {cluster : Cluster F} {driver : Driver server cluster}
    {result : FilterRecordsResult F} (h : filterRecords py driver body = .ok result) {f : Found F}
    (hf : f ∈ result.records) :
    body.page = 1 ∧ cluster.Contains f.record ∧ InScope body.namespace_ body.set f.record ∧
      match body.exactTarget with
      | some text => truthy body.set ≠ none ∧ f.record.key ∈ lookupKeys text body.pkType
      | none => body.Built py ∧ body.BinsHold py server f.record ∧
          body.PatternHolds server f.record := by
  unfold filterRecords at h
  split_ifs at h with hpage hset
  refine ⟨not_not.1 hpage, ?_⟩
  cases htext : body.exactTarget with
  | some text =>
    simp only [htext] at h
    obtain ⟨found, hfound, rfl⟩ := map_eq_ok.1 h
    obtain ⟨hset, hall⟩ := of_mem_fetchExact hfound
    obtain ⟨hcontains, -, hscope, hkey⟩ := hall f hf
    exact ⟨hcontains, hscope, hset, hkey⟩
  | none =>
    simp only [htext] at h
    obtain ⟨q, hq, h⟩ := bind_eq_ok.1 h
    obtain ⟨found, hfound, h⟩ := bind_eq_ok.1 h
    obtain ⟨hcontains, hadmits, -⟩ := of_mem_runQuery hfound f (of_mem_firstPage h f hf)
    obtain ⟨hscope, hbins, hpattern⟩ := (admits_iff hq).1 hadmits
    exact ⟨hcontains, hscope, ⟨q, hq⟩, hbins, hpattern⟩

/-- A key that is given and not empty is the one that is matched. -/
theorem pkTarget_eq_some {text : Str} (h : body.pkPattern.or body.primaryKey = some text)
    (htext : text ≠ []) : body.pkTarget = some text := by
  unfold pkTarget
  cases hp : body.pkPattern with
  | none =>
    rw [hp] at h
    simpa [truthy] using h
  | some pattern =>
    rw [hp] at h
    cases h
    simp [truthy, htext]

/-- The key of a request with a read by key is the one that is read. -/
theorem exactTarget_eq_some {text : Str} (h : body.pkPattern.or body.primaryKey = some text)
    (htext : text ≠ []) (hmode : body.pkMatchMode = .exact) : body.exactTarget = some text := by
  rw [exactTarget, if_pos hmode, pkTarget_eq_some h htext, truthy_eq_some]
  exact ⟨rfl, htext⟩

/-- An empty key is not matched. -/
theorem truthy_pkTarget (h : body.pkPattern.or body.primaryKey = some []) :
    truthy body.pkTarget = none := by
  unfold pkTarget
  cases hp : body.pkPattern with
  | none =>
    rw [hp, Option.none_or] at h
    simp [h, truthy]
  | some pattern =>
    rw [hp, Option.some_or, Option.some.injEq] at h
    have hprimary : body.primaryKey = none := body.one_key.resolve_left (by simp [hp])
    simp [h, hprimary, truthy]

/-- The pattern of a request that matches by one. -/
theorem pattern_ne_nil {mode : PatternMode} (h : body.pkMatchMode = .pattern mode) :
    ∃ text, body.pkPattern = some text ∧ text ≠ [] := by
  obtain ⟨text, htext, hstrip⟩ := body.pattern_given (by simp [h])
  refine ⟨text, htext, ?_⟩
  rintro rfl
  exact hstrip rfl

/-- Whether the key of a record matches, by what is read. -/
theorem keyHolds_iff :
    body.KeyHolds server r ↔
      (∀ text ∈ body.exactTarget, r.key ∈ exactKeys text body.pkType) ∧
        body.PatternHolds server r ∧
        (body.pkPattern.or body.primaryKey = some [] → r.key ∈ exactKeys [] body.pkType) := by
  unfold KeyHolds
  cases hmode : body.pkMatchMode with
  | exact =>
    constructor
    · intro hkey
      refine ⟨fun text htext => ?_, fun mode h => by simp [hmode] at h, fun h => hkey [] h⟩
      rw [exactTarget, if_pos hmode] at htext
      obtain ⟨htarget, hne⟩ := truthy_eq_some.1 htext
      refine hkey text ?_
      unfold pkTarget at htarget
      cases hp : body.pkPattern with
      | none => simpa [hp, truthy] using htarget
      | some pattern =>
        rw [hp] at htarget
        have hprimary : body.primaryKey = none := body.one_key.resolve_left (by simp [hp])
        rw [hprimary, Option.or_none] at htarget
        exact (truthy_eq_some.1 htarget).1
    · rintro ⟨hexact, -, hempty⟩ text htext
      by_cases hne : text = []
      · subst hne
        exact hempty htext
      · exact hexact text (exactTarget_eq_some htext hne hmode)
  | pattern mode =>
    obtain ⟨pattern, hpattern, hne⟩ := pattern_ne_nil hmode
    have htarget : body.pkTarget = some pattern := by
      refine pkTarget_eq_some ?_ hne
      simp [hpattern]
    simp [hpattern, exactTarget, hmode, PatternHolds, htarget, hne]

/-- A page holds at least one record. -/
theorem firstPage_single {q : Query F} {f : Found F} (hstore : r.key.Storable) :
    ∃ result, body.firstPage (Driver.single server r hstore) q [f] = .ok result ∧
      result.records = [f] := by
  have hfew : ¬body.pageSize < [f].length := by
    have := body.pageSize_valid.1
    simp only [List.length_singleton, not_lt]
    exact this
  have hcount : (Driver.single server r hstore).objectCount q.namespace_ q.set = .ok none := rfl
  unfold firstPage
  dsimp only
  rw [if_neg hfew, hcount]
  split_ifs
  · exact ⟨_, rfl, rfl⟩
  · exact ⟨_, rfl, rfl⟩

/-- A request that is sound is safe: a cluster with one record would show what is left out. -/
theorem isSafe_of_sound (h : body.Sound py server) : body.IsSafe py server := by
  intro hpage r hstore hscope
  cases htext : body.exactTarget with
  | some text =>
    intro hset hkey
    obtain ⟨result, hresult, hrecords⟩ : ∃ result,
        filterRecords py (Driver.single server r hstore) body = .ok result ∧
          result.records = [⟨r, r.bins⟩] := by
      unfold filterRecords
      rw [if_neg (not_not.2 hpage), if_neg (fun hno => hset hno.2), htext]
      dsimp only
      rw [fetchExact_single hstore hscope hset hkey]
      exact ⟨_, rfl, rfl⟩
    have hmem : (⟨r, r.bins⟩ : Found F) ∈ result.records := by simp [hrecords]
    obtain ⟨-, hcriteria⟩ := h _ _ result hresult _ hmem
    exact hcriteria.bins
  | none =>
    rintro ⟨q, hq⟩ hbins hempty
    have hpattern : body.PatternHolds server r := by
      intro mode hmode
      obtain ⟨pattern, hpattern, hne⟩ := pattern_ne_nil hmode
      rw [hpattern, Option.some_or, Option.some.injEq] at hempty
      exact (hne hempty).elim
    obtain ⟨result, hpageResult, hrecords⟩ :=
      @firstPage_single _ server r body q ⟨r, shownBins q.bins r⟩ hstore
    have hresult : filterRecords py (Driver.single server r hstore) body = .ok result := by
      unfold filterRecords
      rw [if_neg (not_not.2 hpage), if_neg (fun hno => by simp [truthy_pkTarget hempty] at hno),
        htext]
      dsimp only
      rw [hq]
      dsimp only [Except.bind]
      rw [runQuery_single hstore ((admits_iff hq).2 ⟨hscope, hbins, hpattern⟩)]
      exact hpageResult
    have hmem : (⟨r, shownBins q.bins r⟩ : Found F) ∈ result.records := by simp [hrecords]
    obtain ⟨-, hcriteria⟩ := h _ _ result hresult _ hmem
    exact (keyHolds_iff.1 hcriteria.key).2.2 hempty

/-- A request that is safe is sound. -/
theorem sound_of_isSafe (h : body.IsSafe py server) : body.Sound py server := by
  intro cluster driver result hresult f hf
  obtain ⟨hpage, hcontains, hscope, hread⟩ := of_mem_filterRecords hresult hf
  have hsafe := h hpage f.record (storable_of_find hcontains) hscope
  cases htext : body.exactTarget with
  | some text =>
    rw [htext] at hread hsafe
    obtain ⟨hset, hkey⟩ := hread
    refine ⟨hcontains, hscope, keyHolds_iff.2 ⟨fun text' htext' => ?_, fun mode hmode => ?_,
      fun hempty => ?_⟩, hsafe hset hkey⟩
    · rw [htext] at htext'
      cases htext'
      exact mem_exactKeys_of_mem_lookupKeys hkey
    · simp [exactTarget, hmode] at htext
    · simp [exactTarget, truthy_pkTarget hempty] at htext
  | none =>
    rw [htext] at hread hsafe
    obtain ⟨hbuilt, hbins, hpattern⟩ := hread
    refine ⟨hcontains, hscope, keyHolds_iff.2 ⟨fun text htext' => ?_, hpattern,
      hsafe hbuilt hbins⟩, hbins⟩
    rw [htext] at htext'
    cases htext'

end FilteredQueryRequest

/-- Both services return records that meet every criterion, on the requests that are safe. -/
theorem filtered_reads_sound (py : Python F) (server : Server F) :
    (∀ body : FilteredQueryRequest F, body.Sound py server ↔ body.IsSafe py server) ∧
    (∀ body : QueryRequest F, body.Sound py server ↔ body.IsSafe py server) :=
  ⟨fun _ => ⟨FilteredQueryRequest.isSafe_of_sound, FilteredQueryRequest.sound_of_isSafe⟩,
    fun _ => ⟨QueryRequest.isSafe_of_sound, QueryRequest.sound_of_isSafe⟩⟩

/-! ### A filter that is not looked at -/

/-- Conversions without floats. -/
def demoPython : Python Unit where
  floatOfInt _ := none
  parseFloat _ := none
  truncate _ := .error .overflow
  isZero _ := true
  str _ := []
  dumps _ := []
  compiles _ := .ok ()

/-- A server that finds nothing by a pattern, a value or an expression. -/
def demoServer : Server Unit where
  compare _ _ _ := some false
  regex _ _ _ := false
  geo _ _ := false
  select _ _ := false
  expression _ _ := false

/-- The bin must exist. -/
def demoCondition : FilterCondition Unit where
  bin := ['a', 'g', 'e']
  operator := .exists_
  value := none
  value2 := none
  binType := .integer
  bin_valid := by decide
  pk_paired := by decide
  pk_string := by simp [FilterOperator.isPk]

/-- The record under the key `7`, if it has the bin. -/
def demoRequest : FilteredQueryRequest Unit where
  namespace_ := ['t', 'e', 's', 't']
  set := some ['d', 'e', 'm', 'o']
  filters := some ⟨.and, [demoCondition], by simp⟩
  predicate := none
  selectBins := none
  maxRecords := none
  page := 1
  pageSize := 50
  primaryKey := some ['7']
  pkType := .auto
  pkPattern := none
  pkMatchMode := .exact
  namespace_valid := by decide
  set_valid := by simp
  selectBins_valid := by simp
  maxRecords_valid := by simp
  page_valid := by simp
  pageSize_valid := by simp
  primaryKey_valid := by simp
  pkPattern_valid := by simp
  one_key := by simp
  legacy_exact := by simp
  pattern_given := by simp

/-- The record under the key `7`, without bins. -/
def bareRecord : StoredRecord Unit where
  namespace_ := ['t', 'e', 's', 't']
  set := ['d', 'e', 'm', 'o']
  key := .int 7
  keySent := false
  bins := []

/-- A record without the bin is returned by a read by key that asks for it. -/
theorem not_sound_exact_filter :
    ¬∀ body : FilteredQueryRequest Unit, body.Sound demoPython demoServer := by
  intro h
  have hstore : bareRecord.key.Storable := by
    change InInt64 7
    decide
  have hscope : InScope demoRequest.namespace_ demoRequest.set bareRecord :=
    ⟨rfl, by simp [truthy, demoRequest, bareRecord]⟩
  have hkey : bareRecord.key ∈ lookupKeys ['7'] .auto := by decide
  have hbins := FilteredQueryRequest.isSafe_of_sound (h demoRequest) rfl bareRecord hstore hscope
  have htarget : demoRequest.exactTarget = some ['7'] := by decide
  rw [htarget] at hbins
  obtain ⟨hfilters, -⟩ := hbins (by decide) hkey
  have hexists := hfilters _ rfl demoCondition (List.mem_singleton_self _)
  simp [FilterCondition.Holds, demoCondition, bareRecord, StoredRecord.bin] at hexists

end ClusterManager.Records
