import ClusterManager.Records.Expressions

/-!
# Filtered reads

`execute_query` and `filter_records` read records by key or by a scan. A scan hands the criteria of
the request to the server, which returns the records that meet them; a read by key asks for one
record and looks at nothing else.
-/

namespace ClusterManager.Records

open Numerals Info

variable {F : Type}

/-! ### Predicates -/

/-- The operator of a `QueryPredicate`. -/
inductive PredicateOperator
  | equals
  | between
  | contains
  | geoWithinRegion
  | geoContainsPoint
  deriving DecidableEq

/-- A `QueryPredicate`. -/
structure QueryPredicate (F : Type) where
  bin : Str
  operator : PredicateOperator
  value : Option (BinValue F)
  value2 : Option (BinValue F)
  bin_valid : isBinName bin = true

/-- `InvalidPredicateValue`. -/
inductive PredicateError
  | missingValue (operator : PredicateOperator)
  | missingUpperBound
  | notGeoJson (operator : PredicateOperator)
  deriving DecidableEq

variable (py : Python F)

/-- The GeoJSON text of the value of a predicate. -/
def predicateGeo (p : QueryPredicate F) (value : BinValue F) : Except PredicateError Str :=
  match geoText py value with
  | some json => .ok json
  | none => .error (.notGeoJson p.operator)

/-- `build_predicate`. -/
def buildPredicate (p : QueryPredicate F) : Except PredicateError (Where F) :=
  match p.value with
  | none => .error (.missingValue p.operator)
  | some value =>
      match p.operator with
      | .equals => .ok (.equals p.bin value)
      | .between =>
          match p.value2 with
          | none => .error .missingUpperBound
          | some upper => .ok (.between p.bin value upper)
      | .contains => .ok (.contains p.bin value)
      | .geoWithinRegion => (predicateGeo py p value).map (.geoWithinRegion p.bin)
      | .geoContainsPoint => (predicateGeo py p value).map (.geoContainsPoint p.bin)

/-- The index selects a record by a predicate. -/
def QueryPredicate.Holds (server : Server F) (p : QueryPredicate F) (r : StoredRecord F) : Prop :=
  ∃ value, p.value = some value ∧
    match p.operator with
    | .equals => server.select (.equals p.bin value) r = true
    | .between => ∃ upper, p.value2 = some upper ∧
        server.select (.between p.bin value upper) r = true
    | .contains => server.select (.contains p.bin value) r = true
    | .geoWithinRegion => ∃ json, geoText py value = some json ∧
        server.select (.geoWithinRegion p.bin json) r = true
    | .geoContainsPoint => ∃ json, geoText py value = some json ∧
        server.select (.geoContainsPoint p.bin json) r = true

variable {py} {server : Server F} {r : StoredRecord F}

theorem predicateGeo_eq_ok {p : QueryPredicate F} {value : BinValue F} {json : Str} :
    predicateGeo py p value = .ok json ↔ geoText py value = some json := by
  unfold predicateGeo
  cases geoText py value <;> simp

/-- The predicate that is built selects the records the predicate of the request holds of. -/
theorem select_buildPredicate {p : QueryPredicate F} {w : Where F}
    (h : buildPredicate py p = .ok w) : server.select w r = true ↔ p.Holds py server r := by
  unfold buildPredicate at h
  unfold QueryPredicate.Holds
  cases hvalue : p.value with
  | none =>
    rw [hvalue] at h
    cases h
  | some value =>
    simp only [hvalue] at h
    cases hop : p.operator with
    | equals =>
      simp only [hop] at h
      cases h
      simp
    | between =>
      simp only [hop] at h
      split at h
      · cases h
      · rename_i upper hupper
        cases h
        simp [hupper]
    | contains =>
      simp only [hop] at h
      cases h
      simp
    | geoWithinRegion =>
      simp only [hop] at h
      obtain ⟨json, hjson, rfl⟩ := map_eq_ok.1 h
      simp [predicateGeo_eq_ok.1 hjson]
    | geoContainsPoint =>
      simp only [hop] at h
      obtain ⟨json, hjson, rfl⟩ := map_eq_ok.1 h
      simp [predicateGeo_eq_ok.1 hjson]

/-! ### The driver -/

/-- A store whose records are under their own keys. -/
structure Cluster (F : Type) where
  store : Store (StoredRecord F)
  keyed : ∀ ns set key r, store.find ns set key = some r →
    r.namespace_ = ns ∧ r.set = set ∧ r.key = key

/-- A record of the cluster. -/
def Cluster.Contains (cluster : Cluster F) (r : StoredRecord F) : Prop :=
  cluster.store.find r.namespace_ r.set r.key = some r

/-- A query as it is sent. An empty set is the whole namespace. -/
structure Query (F : Type) where
  namespace_ : Str
  set : Str
  predicate : Option (Where F)
  bins : Option (List Str)
  maxRecords : ℕ
  filterExpression : Option (Exp F)

/-- A record a query asks for. -/
structure Query.Admits (server : Server F) (q : Query F) (r : StoredRecord F) : Prop where
  namespace_ : r.namespace_ = q.namespace_
  set : q.set ≠ [] → r.set = q.set
  predicate : ∀ w ∈ q.predicate, server.select w r = true
  filterExpression : ∀ e ∈ q.filterExpression, e.eval server r = some true

/-- A record that was returned, with the bins that were sent of it. -/
structure Found (F : Type) where
  record : StoredRecord F
  bins : List (Str × Particle F)

/-- The bins of a record that are sent. -/
def shownBins (names : Option (List Str)) (r : StoredRecord F) : List (Str × Particle F) :=
  match names with
  | none => r.bins
  | some names => r.bins.filter (·.1 ∈ names)

/-- What a query raises: an `AerospikeError` of the infrastructure, another one, or anything
else. -/
inductive QueryError
  | infrastructure
  | narrow
  | other
  deriving DecidableEq

/-- The driver in front of a cluster. A query returns records it asks for; `objectCount` is what
`_get_set_object_count` makes of the answers to its info commands. -/
structure Driver (server : Server F) (cluster : Cluster F) where
  results : Query F → Except QueryError (List (Found F))
  objectCount : Str → Str → Except QueryError (Option ℤ)
  sound : ∀ q found, results q = .ok found → ∀ f ∈ found,
    cluster.Contains f.record ∧ q.Admits server f.record ∧ f.bins = shownBins q.bins f.record

/-! ### Requests -/

/-- `MAX_QUERY_RECORDS`. -/
def maxQueryRecords : ℕ := 10000

/-- A `QueryRequest`. -/
structure QueryRequest (F : Type) where
  namespace_ : Str
  set : Option Str
  predicate : Option (QueryPredicate F)
  selectBins : Option (List Str)
  expression : Option Str
  maxRecords : Option ℕ
  primaryKey : Option Str
  pkType : PkType
  namespace_valid : isName isNsChar 31 namespace_ = true
  set_valid : ∀ set_ ∈ set, set_.length ≤ 63
  selectBins_valid : ∀ names ∈ selectBins, names ≠ [] ∧ ∀ name ∈ names, isBinName name = true
  expression_valid : ∀ text ∈ expression, text.length ≤ 4096
  maxRecords_valid : ∀ n ∈ maxRecords, 1 ≤ n ∧ n ≤ 1000000
  primaryKey_valid : ∀ text ∈ primaryKey, text.length ≤ 1024

/-- How the key of a record is matched. -/
inductive PkMatchMode
  | exact
  | pattern (mode : PatternMode)
  deriving DecidableEq

/-- A `FilteredQueryRequest`. -/
structure FilteredQueryRequest (F : Type) where
  namespace_ : Str
  set : Option Str
  filters : Option (FilterGroup F)
  predicate : Option (QueryPredicate F)
  selectBins : Option (List Str)
  maxRecords : Option ℕ
  page : ℕ
  pageSize : ℕ
  primaryKey : Option Str
  pkType : PkType
  pkPattern : Option Str
  pkMatchMode : PkMatchMode
  namespace_valid : isName isNsChar 31 namespace_ = true
  set_valid : ∀ set_ ∈ set, set_.length ≤ 63
  selectBins_valid : ∀ names ∈ selectBins, names ≠ [] ∧ ∀ name ∈ names, isBinName name = true
  maxRecords_valid : ∀ n ∈ maxRecords, 1 ≤ n ∧ n ≤ 1000000
  page_valid : 1 ≤ page
  pageSize_valid : 1 ≤ pageSize ∧ pageSize ≤ 500
  primaryKey_valid : ∀ text ∈ primaryKey, text.length ≤ 1024
  pkPattern_valid : ∀ text ∈ pkPattern, text.length ≤ 4096
  one_key : pkPattern = none ∨ primaryKey = none
  legacy_exact : primaryKey ≠ none → pkMatchMode = .exact
  pattern_given : pkMatchMode ≠ .exact → ∃ text, pkPattern = some text ∧ text.strip ≠ []

/-! ### The services -/

/-- What the services raise. -/
inductive ReadFailure
  | unsupportedPage (page : ℕ)
  | setRequired
  | value (e : PkError)
  | driver (e : DriverError)
  | invalidPkPattern
  | filter (e : FilterError)
  | predicate (e : PredicateError)
  | query (e : QueryError)
  deriving DecidableEq

/-- A text that is given and not empty. -/
def truthy (text : Option Str) : Option Str := text.filter (· ≠ [])

variable (py) {cluster : Cluster F} (driver : Driver server cluster)

/-- The read by key of both services: no record where none is found. -/
def fetchExact (cluster : Cluster F) (ns : Str) (set : Option Str) (text : Str)
    (pkType : PkType) : Except ReadFailure (List (Found F)) :=
  match truthy set with
  | none => .error .setRequired
  | some set =>
      match resolvePk text pkType with
      | .error e => .error (.value e)
      | .ok resolved =>
          match getWithPkFallback cluster.store ns set resolved text pkType with
          | .ok r => .ok [⟨r, r.bins⟩]
          | .error .recordNotFound => .ok []
          | .error e => .error (.driver e)

/-- The records of a query. A failure that an empty namespace can cause is no record. -/
def runQuery (q : Query F) : Except ReadFailure (List (Found F)) :=
  match driver.results q with
  | .ok found => .ok found
  | .error .narrow => .ok []
  | .error e => .error (.query e)

/-- The predicate of a request as the driver takes it. -/
def buildWhere (predicate : Option (QueryPredicate F)) :
    Except ReadFailure (Option (Where F)) :=
  match predicate with
  | none => .ok none
  | some p => ((buildPredicate py p).mapError .predicate).map some

/-- A `QueryResult`, without the time it took. -/
structure QueryResult (F : Type) where
  records : List (Found F)
  scannedRecords : ℕ
  returnedRecords : ℕ

/-- A result that counts its records. -/
def QueryResult.of (records : List (Found F)) : QueryResult F :=
  ⟨records, records.length, records.length⟩

/-- `execute_query`. -/
def executeQuery (body : QueryRequest F) : Except ReadFailure (QueryResult F) :=
  match truthy body.primaryKey with
  | some text =>
      (fetchExact cluster body.namespace_ body.set text body.pkType).map QueryResult.of
  | none =>
      (buildWhere py body.predicate).bind fun predicate =>
        (runQuery driver
          { namespace_ := body.namespace_
            set := body.set.getD []
            predicate
            bins := body.selectBins
            maxRecords := min (body.maxRecords.getD maxQueryRecords) maxQueryRecords
            filterExpression := none }).map QueryResult.of

/-- A `FilterRecordsResult`, without the time it took. -/
structure FilterRecordsResult (F : Type) where
  records : List (Found F)
  total : Option ℤ
  page : ℕ
  pageSize : ℕ
  hasMore : Bool
  scannedRecords : ℤ
  returnedRecords : ℕ
  totalEstimated : Bool

namespace FilteredQueryRequest

/-- `body.pk_pattern or body.primary_key`. -/
def pkTarget (body : FilteredQueryRequest F) : Option Str :=
  (truthy body.pkPattern).or body.primaryKey

/-- The key of a read by key. -/
def exactTarget (body : FilteredQueryRequest F) : Option Str :=
  if body.pkMatchMode = .exact then truthy body.pkTarget else none

/-- `except InvalidPkPatternError`. -/
def pkFailure : FilterError → ReadFailure
  | .invalidPkPattern => .invalidPkPattern
  | e => .filter e

/-- The filter on the key. -/
def pkExpression (body : FilteredQueryRequest F) : Except ReadFailure (Option (Exp F)) :=
  match body.pkTarget, body.pkMatchMode with
  | some target, .pattern mode =>
      ((buildPkFilterExpression py target mode).mapError pkFailure).map some
  | _, _ => .ok none

/-- The filter on the bins. -/
def binExpression (body : FilteredQueryRequest F) : Except ReadFailure (Option (Exp F)) :=
  match body.filters with
  | some group => ((buildExpression py group).mapError .filter).map some
  | none => .ok none

/-- The filter on both. -/
def filterExpression (pkExpr binExpr : Option (Exp F)) : Option (Exp F) :=
  match pkExpr, binExpr with
  | some pkExpr, some binExpr => some (.and [pkExpr, binExpr])
  | some pkExpr, none => some pkExpr
  | none, binExpr => binExpr

/-- The query of a scan. -/
def query (body : FilteredQueryRequest F) : Except ReadFailure (Query F) :=
  (body.pkExpression py).bind fun pkExpr =>
    (body.binExpression py).bind fun binExpr =>
      (buildWhere py body.predicate).map fun predicate =>
        { namespace_ := body.namespace_
          set := body.set.getD []
          predicate
          bins := body.selectBins
          maxRecords := min (body.maxRecords.getD maxQueryRecords)
            (min maxQueryRecords (body.pageSize + 1))
          filterExpression := filterExpression pkExpr binExpr }

/-- The first page of what a scan found. -/
def firstPage (body : FilteredQueryRequest F) (q : Query F) (found : List (Found F)) :
    Except ReadFailure (FilterRecordsResult F) :=
  let hasMore := body.pageSize < found.length
  let records := if hasMore then found.take body.pageSize else found
  let hasFilters := body.filters.isSome || body.predicate.isSome ||
    (match body.pkTarget, body.pkMatchMode with
      | some _, .pattern _ => true
      | _, _ => false)
  let result (total : Option ℤ) (scanned : ℤ) : FilterRecordsResult F :=
    { records, total, page := 1, pageSize := body.pageSize, hasMore, scannedRecords := scanned,
      returnedRecords := records.length, totalEstimated := true }
  if hasFilters then
    .ok (result (some (records.length + if hasMore then 1 else 0)) records.length)
  else
    match driver.objectCount q.namespace_ q.set with
    | .error e => .error (.query e)
    | .ok total => .ok (result total (total.getD records.length))

end FilteredQueryRequest

/-- `filter_records`. -/
def filterRecords (body : FilteredQueryRequest F) :
    Except ReadFailure (FilterRecordsResult F) :=
  if body.page ≠ 1 then .error (.unsupportedPage body.page)
  else if (truthy body.pkTarget).isSome ∧ truthy body.set = none then .error .setRequired
  else
    match body.exactTarget with
    | some text =>
        (fetchExact cluster body.namespace_ body.set text body.pkType).map fun found =>
          { records := found
            total := some found.length
            page := 1
            pageSize := body.pageSize
            hasMore := false
            scannedRecords := found.length
            returnedRecords := found.length
            totalEstimated := false }
    | none =>
        (body.query py).bind fun q => (runQuery driver q).bind (body.firstPage driver q)

/-! ### What a request asks for -/

/-- The keys a text stands for. Under `auto` an integer may also be meant as its text. -/
def exactKeys (text : Str) (pkType : PkType) : List PrimaryKey :=
  match resolvePk text pkType with
  | .error _ => []
  | .ok (.int n) => if pkType = .auto then [.int n, .string text] else [.int n]
  | .ok key => [key]

/-- The keys that are looked up. The driver refuses an integer too wide before the text is tried. -/
def lookupKeys (text : Str) (pkType : PkType) : List PrimaryKey :=
  match resolvePk text pkType with
  | .ok (.int n) => if InInt64 n then exactKeys text pkType else []
  | _ => exactKeys text pkType

/-- A record lies in the namespace, and in the set where one is given. -/
def InScope (ns : Str) (set : Option Str) (r : StoredRecord F) : Prop :=
  r.namespace_ = ns ∧ ∀ s ∈ truthy set, r.set = s

variable (server)

namespace QueryRequest

/-- A record meets every criterion of a `QueryRequest`. -/
structure Criteria (body : QueryRequest F) (r : StoredRecord F) : Prop where
  scope : InScope body.namespace_ body.set r
  key : ∀ text ∈ body.primaryKey, r.key ∈ exactKeys text body.pkType
  predicate : ∀ p ∈ body.predicate, p.Holds py server r
  expression : ∀ text ∈ body.expression, server.expression text r = true

/-- Every record that is returned meets every criterion, whatever the cluster holds. -/
def Sound (body : QueryRequest F) : Prop :=
  ∀ (cluster : Cluster F) (driver : Driver server cluster) result,
    executeQuery py driver body = .ok result →
    ∀ f ∈ result.records, cluster.Contains f.record ∧ body.Criteria py server f.record

/-- The predicate of the request can be sent. -/
def Built (body : QueryRequest F) : Prop := ∃ w, buildWhere py body.predicate = .ok w

/-- No criterion that is not looked at can fail: a read by key does not look at the predicate, a
scan does not look at an empty key, and neither looks at the expression. -/
def IsSafe (body : QueryRequest F) : Prop :=
  ∀ r : StoredRecord F, r.key.Storable → InScope body.namespace_ body.set r →
    match truthy body.primaryKey with
    | some text => truthy body.set ≠ none → r.key ∈ lookupKeys text body.pkType →
        (∀ p ∈ body.predicate, p.Holds py server r) ∧
          ∀ text ∈ body.expression, server.expression text r = true
    | none => body.Built py → (∀ p ∈ body.predicate, p.Holds py server r) →
        (body.primaryKey = some [] → r.key ∈ exactKeys [] body.pkType) ∧
          ∀ text ∈ body.expression, server.expression text r = true

end QueryRequest

namespace FilteredQueryRequest

/-- The key of a record matches the key or the pattern of a request. -/
def KeyHolds (body : FilteredQueryRequest F) (r : StoredRecord F) : Prop :=
  ∀ text ∈ body.pkPattern.or body.primaryKey,
    match body.pkMatchMode with
    | .exact => r.key ∈ exactKeys text body.pkType
    | .pattern mode => KeyMatches server r text mode

/-- The bins of a record satisfy the filter group, and the index selects the record. -/
def BinsHold (body : FilteredQueryRequest F) (r : StoredRecord F) : Prop :=
  (∀ group ∈ body.filters, group.Holds py server r) ∧ ∀ p ∈ body.predicate, p.Holds py server r

/-- A record meets every criterion of a `FilteredQueryRequest`. -/
structure Criteria (body : FilteredQueryRequest F) (r : StoredRecord F) : Prop where
  scope : InScope body.namespace_ body.set r
  key : body.KeyHolds server r
  bins : body.BinsHold py server r

/-- Every record that is returned meets every criterion, whatever the cluster holds. -/
def Sound (body : FilteredQueryRequest F) : Prop :=
  ∀ (cluster : Cluster F) (driver : Driver server cluster) result,
    filterRecords py driver body = .ok result →
    ∀ f ∈ result.records, cluster.Contains f.record ∧ body.Criteria py server f.record

/-- The criteria of the request can be sent. -/
def Built (body : FilteredQueryRequest F) : Prop := ∃ q, body.query py = .ok q

/-- No criterion that is not looked at can fail: a read by key does not look at the filters and the
predicate, and a scan does not look at an empty key. -/
def IsSafe (body : FilteredQueryRequest F) : Prop :=
  body.page = 1 → ∀ r : StoredRecord F, r.key.Storable → InScope body.namespace_ body.set r →
    match body.exactTarget with
    | some text => truthy body.set ≠ none → r.key ∈ lookupKeys text body.pkType →
        body.BinsHold py server r
    | none => body.Built py → body.BinsHold py server r →
        body.pkPattern.or body.primaryKey = some [] → r.key ∈ exactKeys [] body.pkType

end FilteredQueryRequest

end ClusterManager.Records
