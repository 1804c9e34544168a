import ClusterManager.Records.FilteredReads

/-!
# Pages of filtered reads

The first page of a scan: how many records are fetched, how many of them are returned, and what is
said of the rest. `page_law` says when the four counters of a page fit the records that match.
-/

namespace ClusterManager.Records

open Numerals Info

variable {F : Type} {py : Python F} {server : Server F} {cluster : Cluster F}
  {driver : Driver server cluster}

namespace FilteredQueryRequest

variable (body : FilteredQueryRequest F)

/-- `has_filters`. -/
def hasFilters : Bool :=
  body.filters.isSome || body.predicate.isSome ||
    (match body.pkTarget, body.pkMatchMode with
      | some _, .pattern _ => true
      | _, _ => false)

/-- How many records a request may ask for in all. -/
def cap : ℕ := min (body.maxRecords.getD maxQueryRecords) maxQueryRecords

/-- A request that is scanned for: its first page, with a set where it names a key, and no read by
key. -/
structure Scans : Prop where
  first : body.page = 1
  set_given : (truthy body.pkTarget).isSome → truthy body.set ≠ none
  no_target : body.exactTarget = none

/-- The page of a request fits the records that match it, in the order they are found. -/
structure PageFits (matching : List (Found F)) (result : FilterRecordsResult F) : Prop where
  records : result.records = matching.take (min body.pageSize body.cap)
  hasMore : result.hasMore = true ↔ body.pageSize < min matching.length body.cap
  total : body.hasFilters = true → ∀ n ∈ result.total, n ≤ matching.length
  scanned : result.records.length ≤ result.scannedRecords

/-- The count of a set does not lag behind the page. -/
def CountCovers (matching : List (Found F)) (count : Option ℤ) : Prop :=
  body.hasFilters = true ∨ ∀ n ∈ count, (min matching.length (min body.pageSize body.cap) : ℕ) ≤ n

/-- The records of a page, out of those that were fetched. -/
def pageOf (found : List (Found F)) : List (Found F) :=
  if body.pageSize < found.length then found.take body.pageSize else found

variable {body}

/-- One record more than a page is fetched, unless the request asks for fewer. -/
theorem maxRecords_of_query {q : Query F} (h : body.query py = .ok q) :
    q.maxRecords = min body.cap (body.pageSize + 1) := by
  obtain ⟨pkExpr, -, h⟩ := bind_eq_ok.1 h
  obtain ⟨binExpr, -, h⟩ := bind_eq_ok.1 h
  obtain ⟨predicate, -, rfl⟩ := map_eq_ok.1 h
  simp only [cap]
  omega

/-- The page holds the first records that match. -/
theorem pageOf_take (matching : List (Found F)) :
    body.pageOf (matching.take (min body.cap (body.pageSize + 1))) =
      matching.take (min body.pageSize body.cap) := by
  unfold pageOf
  split
  next hmore =>
    rw [List.take_take]
    congr 1
    omega
  next hfew =>
    rw [List.length_take] at hfew
    by_cases hcap : body.cap ≤ body.pageSize
    · congr 1
      omega
    · rw [List.take_of_length_le (by omega), List.take_of_length_le (by omega)]

theorem more_iff (matching : List (Found F)) :
    body.pageSize < (matching.take (min body.cap (body.pageSize + 1))).length ↔
      body.pageSize < min matching.length body.cap := by
  rw [List.length_take]
  omega

/-- The result of a page with its total and its scanned count. -/
def pageResult (body : FilteredQueryRequest F) (found : List (Found F)) (total : Option ℤ)
    (scanned : ℤ) : FilterRecordsResult F where
  records := body.pageOf found
  total := total
  page := 1
  pageSize := body.pageSize
  hasMore := body.pageSize < found.length
  scannedRecords := scanned
  returnedRecords := (body.pageOf found).length
  totalEstimated := true

theorem firstPage_filtered {q : Query F} {found : List (Found F)} (h : body.hasFilters = true) :
    body.firstPage driver q found = .ok (body.pageResult found
      (some ((body.pageOf found).length + if body.pageSize < found.length then 1 else 0))
      (body.pageOf found).length) := by
  unfold firstPage
  refine (if_pos h).trans ?_
  simp only [pageResult, pageOf]

theorem firstPage_unfiltered {q : Query F} {found : List (Found F)} {count : Option ℤ}
    (h : body.hasFilters = false) (hcount : driver.objectCount q.namespace_ q.set = .ok count) :
    body.firstPage driver q found = .ok (body.pageResult found count
      (count.getD (body.pageOf found).length)) := by
  unfold firstPage
  refine (if_neg (Bool.eq_false_iff.1 h)).trans ?_
  simp only [hcount, pageResult, pageOf]

/-- A scan is answered with the first page of what was found. -/
theorem filterRecords_of_scans {q : Query F} {found : List (Found F)} (hscans : body.Scans)
    (hquery : body.query py = .ok q) (hfound : driver.results q = .ok found) :
    filterRecords py driver body = body.firstPage driver q found := by
  unfold filterRecords
  rw [if_neg (not_not.2 hscans.first), if_neg fun h => hscans.set_given h.1 h.2,
    hscans.no_target, hquery]
  simp only [Except.bind, runQuery, hfound]

variable {matching : List (Found F)}

theorem length_pageOf (matching : List (Found F)) :
    (body.pageOf (matching.take (min body.cap (body.pageSize + 1)))).length =
      min matching.length (min body.pageSize body.cap) := by
  rw [pageOf_take, List.length_take, Nat.min_comm]

/-- A page fits what matches exactly where it counts no fewer records than it shows. -/
theorem pageFits_pageResult_iff {total : Option ℤ} {scanned : ℤ}
    (htotal : body.hasFilters = true → ∀ n ∈ total, n ≤ matching.length) :
    body.PageFits matching
        (body.pageResult (matching.take (min body.cap (body.pageSize + 1))) total scanned) ↔
      (min matching.length (min body.pageSize body.cap) : ℕ) ≤ scanned := by
  rw [← length_pageOf]
  constructor
  · exact fun h => h.scanned
  · intro h
    refine ⟨pageOf_take matching, ?_, htotal, h⟩
    rw [pageResult, decide_eq_true_eq]
    exact more_iff matching

/-- A filtered page counts at most the records that match. -/
theorem total_le : ((body.pageOf (matching.take (min body.cap (body.pageSize + 1)))).length : ℤ) +
    (if body.pageSize < (matching.take (min body.cap (body.pageSize + 1))).length then 1 else 0) ≤
      matching.length := by
  rw [length_pageOf]
  split
  next hmore =>
    have := (more_iff matching).1 hmore
    omega
  next => omega

end FilteredQueryRequest

open FilteredQueryRequest

/-- **The pages of `filter_records` fit exactly where the count of the set does not lag.** -/
theorem page_law {body : FilteredQueryRequest F} {q : Query F} {matching : List (Found F)}
    {count : Option ℤ} (hscans : body.Scans) (hquery : body.query py = .ok q)
    (hfound : driver.results q = .ok (matching.take q.maxRecords))
    (hcount : body.hasFilters = false → driver.objectCount q.namespace_ q.set = .ok count) :
    (∃ result, filterRecords py driver body = .ok result ∧ body.PageFits matching result) ↔
      body.CountCovers matching count := by
  rw [maxRecords_of_query hquery] at hfound
  rw [filterRecords_of_scans hscans hquery hfound]
  cases hfilters : body.hasFilters with
  | true =>
    refine iff_of_true ⟨_, firstPage_filtered hfilters, ?_⟩ (Or.inl hfilters)
    refine (pageFits_pageResult_iff fun _ n hn => ?_).2 ?_
    · cases hn
      exact total_le
    · rw [length_pageOf]
  | false =>
    rw [firstPage_unfiltered hfilters (hcount hfilters)]
    have hno : ¬ body.hasFilters = true := by simp [hfilters]
    have hfits : (∃ result, Except.ok (body.pageResult
          (matching.take (min body.cap (body.pageSize + 1))) count
          (count.getD (body.pageOf
            (matching.take (min body.cap (body.pageSize + 1)))).length)) =
          (.ok result : Except ReadFailure (FilterRecordsResult F)) ∧
          body.PageFits matching result) ↔
        (min matching.length (min body.pageSize body.cap) : ℕ) ≤ count.getD (body.pageOf
          (matching.take (min body.cap (body.pageSize + 1)))).length := by
      rw [← pageFits_pageResult_iff fun h => absurd h hno]
      constructor
      · rintro ⟨result, h, hfits⟩
        cases h
        exact hfits
      · exact fun h => ⟨_, rfl, h⟩
    rw [hfits, CountCovers, or_iff_right hno, length_pageOf]
    cases count with
    | none => simp
    | some n => simp

/-! ### A count that lags -/

/-- The records of a set, one a page, with no filter. -/
def browseRequest : FilteredQueryRequest Unit :=
  { demoRequest with
    filters := none
    pageSize := 1
    primaryKey := none
    pageSize_valid := by decide
    primaryKey_valid := by simp
    one_key := by simp
    legacy_exact := by simp }

/-- The query of the request. -/
def browseQuery : Query Unit := ⟨bareRecord.namespace_, bareRecord.set, none, none, 2, none⟩

theorem storable_bareRecord : bareRecord.key.Storable := by
  change InInt64 7
  decide

/-- The driver of a cluster that holds one record, with a count of its set. -/
noncomputable def countingDriver (count : ℤ) :
    Driver demoServer (Cluster.single bareRecord storable_bareRecord) where
  results := (Driver.single demoServer bareRecord storable_bareRecord).results
  objectCount _ _ := .ok (some count)
  sound := (Driver.single demoServer bareRecord storable_bareRecord).sound

/-- What the request asks for. -/
def browsed : List (Found Unit) := [⟨bareRecord, []⟩]

theorem results_countingDriver (count : ℤ) :
    (countingDriver count).results browseQuery = .ok (browsed.take browseQuery.maxRecords) := by
  have hadmits : browseQuery.Admits demoServer bareRecord :=
    ⟨rfl, fun _ => rfl, by simp [browseQuery], by simp [browseQuery]⟩
  refine (congrArg Except.ok (if_pos hadmits)).trans ?_
  rfl

theorem scans_browseRequest : browseRequest.Scans := ⟨rfl, by decide, by decide⟩

/-- A count of `0` is reported as the number of records scanned, next to one record. -/
theorem page_law_lagging : browseRequest.Scans ∧
    browseRequest.query demoPython = .ok browseQuery ∧
    (countingDriver 0).results browseQuery = .ok (browsed.take browseQuery.maxRecords) ∧
    ¬ ∃ result, filterRecords demoPython (countingDriver 0) browseRequest = .ok result ∧
      browseRequest.PageFits browsed result := by
  refine ⟨scans_browseRequest, rfl, results_countingDriver 0, ?_⟩
  rintro ⟨result, hresult, hfits⟩
  have hfilters : browseRequest.hasFilters = false := by decide
  rw [filterRecords_of_scans scans_browseRequest (q := browseQuery) rfl
    (results_countingDriver 0), firstPage_unfiltered hfilters rfl] at hresult
  cases hresult
  exact absurd hfits.scanned (by decide)

/-- A record without bins under an integer. -/
def numbered (n : ℤ) : StoredRecord Unit := { bareRecord with key := .int n }

/-- A cluster that holds the records under `7` and `8`. -/
def pairCluster : Cluster Unit where
  store :=
    { find := fun ns set key =>
        if ns = bareRecord.namespace_ ∧ set = bareRecord.set ∧ (key = .int 7 ∨ key = .int 8) then
          some { bareRecord with key := key }
        else none
      narrow := fun ns set n hn => if_neg fun h => by
        rcases h.2.2 with hkey | hkey <;> cases hkey <;> exact hn (by decide) }
  keyed := fun ns set key r hfind => by
    dsimp only at hfind
    split_ifs at hfind with hkey
    cases hfind
    exact ⟨hkey.1.symm, hkey.2.1.symm, rfl⟩

/-- A query for all of the set. -/
abbrev BrowsesSet (q : Query Unit) : Prop :=
  (q.namespace_ = bareRecord.namespace_ ∧ q.set = bareRecord.set) ∧
    q.predicate.isNone ∧ q.filterExpression.isNone

theorem BrowsesSet.admits {q : Query Unit} (h : BrowsesSet q) (n : ℤ) :
    q.Admits demoServer (numbered n) where
  namespace_ := h.1.1.symm
  set _ := h.1.2.symm
  predicate w hw := by
    rw [Option.isNone_iff_eq_none.1 h.2.1] at hw
    cases hw
  filterExpression e he := by
    rw [Option.isNone_iff_eq_none.1 h.2.2] at he
    cases he

/-- What such a query finds. -/
def pairBrowsed : List (Found Unit) := [⟨numbered 7, []⟩, ⟨numbered 8, []⟩]

/-- The driver of the cluster, for the queries of the whole set. -/
def pairDriver : Driver demoServer pairCluster where
  results q := if BrowsesSet q then .ok pairBrowsed else .error .other
  objectCount _ _ := .ok (some 2)
  sound q found hfound f hf := by
    split_ifs at hfound with hq
    cases hfound
    have hbins : ([] : List (Str × Particle Unit)) = shownBins q.bins bareRecord := by
      unfold shownBins
      split <;> rfl
    rcases List.mem_pair.1 hf with rfl | rfl
    · exact ⟨rfl, hq.admits 7, hbins⟩
    · exact ⟨rfl, hq.admits 8, hbins⟩

/-- The page is full, there is more to come, and a count of `2` is not contradicted. -/
theorem page_law_more : ∃ result,
    filterRecords demoPython pairDriver browseRequest = .ok result ∧
      browseRequest.PageFits pairBrowsed result ∧ result.records = [⟨numbered 7, []⟩] ∧
        result.hasMore = true := by
  have hcovers : browseRequest.CountCovers pairBrowsed (some 2) :=
    Or.inr (by simp [pairBrowsed, browseRequest, FilteredQueryRequest.cap, maxQueryRecords])
  have hfound : pairDriver.results browseQuery =
      .ok (pairBrowsed.take browseQuery.maxRecords) := rfl
  obtain ⟨result, hresult, hfits⟩ := (page_law scans_browseRequest (q := browseQuery) rfl hfound
    fun _ => rfl).2 hcovers
  exact ⟨result, hresult, hfits, hfits.records, hfits.hasMore.2 (by decide)⟩

end ClusterManager.Records
