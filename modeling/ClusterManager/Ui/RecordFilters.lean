import ClusterManager.Records.FilterErrors
import ClusterManager.Records.FilteredReads
import ClusterManager.Ui.Validations

/-!
# The filters of the record browser

The toolbar of the record browser composes a draft: the text and the mode of a search for a key, and
conditions on bins that have an index. The page sends a draft to `filter_records`, where pydantic
reads the body and the filters are built.

`served_iff` says of which drafts the API can answer a request: `Sendable` is what the toolbar does
not see to.
-/

namespace ClusterManager.Ui.RecordFilters

open Records Info

/-- What the page uses of numbers and of regular expressions. -/
structure Builtins (ν F : Type) where
  /-- `parseInt(raw, 10)`, unless it is `NaN`. -/
  parseInt : Str → Option ν
  /-- `parseFloat(raw)`, unless it is `NaN`. -/
  parseFloat : Str → Option ν
  /-- A number of the body as the API reads it. JSON has `null` for an infinite one. -/
  sent : ν → Option (BinValue F)
  /-- `new RegExp(pk)`, or the message of what it throws. -/
  regExp : Str → Except String Unit

variable {ν F : Type} (js : Builtins ν F) (py : Python F)

/-! ### Drafts -/

/-- A value of a condition: never given, cleared, or what an input was read as. -/
inductive DraftValue (ν : Type)
  | undefined
  | null
  | num (n : ν)
  | str (text : Str)
  deriving DecidableEq

/-- `FilterDraftCondition`. -/
structure FilterDraftCondition (ν : Type) where
  id : ℕ
  bin : Str
  operator : FilterOperator
  value : DraftValue ν
  value2 : DraftValue ν
  binType : BinDataType

/-- `FilterDraft`. -/
structure FilterDraft (ν : Type) where
  pk : Str
  pkMatchMode : PkMatchMode
  logic : Logic
  conditions : List (FilterDraftCondition ν)

/-- `emptyFilterDraft`. -/
def emptyFilterDraft : FilterDraft ν := ⟨[], .exact, .and, []⟩

/-- `draftHasFilters`. -/
def draftHasFilters (draft : FilterDraft ν) : Bool :=
  0 < draft.conditions.length || 0 < (trim draft.pk).length

/-- `draftEquals`. -/
def draftEquals [DecidableEq ν] (a b : FilterDraft ν) : Bool :=
  decide (a.pk = b.pk) && decide (a.pkMatchMode = b.pkMatchMode) && decide (a.logic = b.logic) &&
    decide (a.conditions.length = b.conditions.length) &&
    (a.conditions.zip b.conditions).all fun (x, y) =>
      decide (x.bin = y.bin) && decide (x.operator = y.operator) &&
        decide (x.binType = y.binType) && decide (x.value = y.value) &&
        decide (x.value2 = y.value2)

/-- `FILTER_OPERATORS_BY_TYPE`, without the labels. -/
def filterOperatorsByType : BinDataType → List FilterOperator
  | .integer | .float =>
      [.cmp .eq, .cmp .ne, .cmp .gt, .cmp .ge, .cmp .lt, .cmp .le, .between, .exists_, .notExists]
  | .string => [.cmp .eq, .cmp .ne, .contains, .notContains, .regex, .exists_, .notExists]
  | .bool => [.isTrue, .isFalse, .exists_]
  | .geo => [.geoWithin, .geoContains, .exists_]
  | .list | .map => [.exists_, .notExists]

/-- `NO_VALUE_OPERATORS`. -/
def noValueOperators : List FilterOperator := [.exists_, .notExists, .isTrue, .isFalse]

/-- `DUAL_VALUE_OPERATORS`. -/
def dualValueOperators : List FilterOperator := [.between]

/-- `validatePkDraft`. -/
def validatePkDraft (pk : Str) : PkMatchMode → Option String
  | .exact => none
  | .pattern mode =>
      if trim pk = [] then
        some (match mode with
          | .pfx => "Enter a prefix to search."
          | .regex => "Enter a regex pattern.")
      else
        match mode with
        | .pfx => none
        | .regex =>
            match js.regExp pk with
            | .error message => some message
            | .ok _ => none

/-- `parseInputValue`. -/
def parseInputValue (raw : Str) : BinDataType → DraftValue ν
  | .integer => ((js.parseInt raw).map .num).getD (.str raw)
  | .float => ((js.parseFloat raw).map .num).getD (.str raw)
  | _ => .str raw

/-! ### The toolbar -/

/-- What the user does to a draft. The texts of `commit` are those of the two inputs. -/
inductive Edit
  | updatePk (pk : Str)
  | updatePkMatchMode (mode : PkMatchMode)
  | addCondition (bin : Str) (binType : BinDataType)
  | setOperator (id : ℕ) (operator : FilterOperator)
  | commit (id : ℕ) (val val2 : Str)
  | removeCondition (id : ℕ)
  | toggleLogic

/-- The condition that is added, with the first operator of its type. -/
def newCondition (id : ℕ) (bin : Str) (binType : BinDataType) : FilterDraftCondition ν where
  id := id
  bin := bin
  operator := (filterOperatorsByType binType).head?.getD (.cmp .eq)
  value := .undefined
  value2 := .undefined
  binType := binType

/-- `commit` of the editor of a condition. -/
def committed (val val2 : Str) (c : FilterDraftCondition ν) : FilterDraftCondition ν :=
  { c with
    value :=
      if c.operator ∈ noValueOperators then .null
      else if c.operator = .geoWithin ∨ c.operator = .geoContains then .str val
      else parseInputValue js val c.binType
    value2 :=
      if c.operator ∈ dualValueOperators then parseInputValue js val2 c.binType else .null }

/-- `updateCondition`. -/
def updateCondition (draft : FilterDraft ν) (id : ℕ)
    (update : FilterDraftCondition ν → FilterDraftCondition ν) : FilterDraft ν :=
  { draft with conditions := draft.conditions.map fun c => if c.id = id then update c else c }

/-- The chip of a condition. -/
def chip? (draft : FilterDraft ν) (id : ℕ) : Option (FilterDraftCondition ν) :=
  draft.conditions.find? (·.id = id)

/-- An edit, where the toolbar offers it. `available` are the bins of the picker, and `id` is the
id that `uuid` makes. -/
def edit (available : List (Str × BinDataType)) (id : ℕ) (draft : FilterDraft ν) :
    Edit → Option (FilterDraft ν)
  | .updatePk pk => some { draft with pk := pk }
  | .updatePkMatchMode mode => some { draft with pkMatchMode := mode }
  | .addCondition bin binType =>
      if (bin, binType) ∈ available then
        some { draft with conditions := draft.conditions ++ [newCondition id bin binType] }
      else none
  | .setOperator id operator =>
      (chip? draft id).bind fun c =>
        if operator ∈ filterOperatorsByType c.binType then
          some (updateCondition draft id fun c => { c with operator := operator })
        else none
  | .commit id val val2 =>
      (chip? draft id).map fun _ => updateCondition draft id (committed js val val2)
  | .removeCondition id =>
      (chip? draft id).map fun _ =>
        { draft with conditions := draft.conditions.filter (·.id ≠ id) }
  | .toggleLogic =>
      -- The switch stands in front of every chip but the first.
      if 2 ≤ draft.conditions.length then
        some { draft with logic := if draft.logic = .and then .or else .and }
      else none

/-! ### Requests -/

/-- A value in the body of a request. -/
def DraftValue.sent : DraftValue ν → Option (BinValue F)
  | .undefined | .null => none
  | .num n => js.sent n
  | .str text => some (.str text)

/-- A condition in the body of a request. -/
structure SentCondition (F : Type) where
  bin : Str
  operator : FilterOperator
  value : Option (BinValue F)
  value2 : Option (BinValue F)
  binType : BinDataType

/-- The body that the page gives to `filterRecords`. -/
structure SentRequest (F : Type) where
  namespace_ : Str
  set : Str
  pageSize : ℕ
  pkPattern : Option Str
  pkMatchMode : PkMatchMode
  filters : Option (Logic × List (SentCondition F))

/-- A condition without its `id`. -/
def FilterDraftCondition.toSent (c : FilterDraftCondition ν) : SentCondition F where
  bin := c.bin
  operator := c.operator
  value := c.value.sent js
  value2 := c.value2.sent js
  binType := c.binType

/-- `draftToFilterConditions`. -/
def draftToFilterConditions (draft : FilterDraft ν) : Option (Logic × List (SentCondition F)) :=
  if draft.conditions.length = 0 then none
  else some (draft.logic, draft.conditions.map (·.toSent js))

/-- The request of `runFetch`. -/
def requestOf (namespace_ set : Str) (target : FilterDraft ν) (size : ℕ) : SentRequest F where
  namespace_ := namespace_
  set := set
  pageSize := size
  pkPattern := if trim target.pk = [] then none else some (trim target.pk)
  pkMatchMode := target.pkMatchMode
  filters := draftToFilterConditions js target

/-- Drafts that `draftEquals` does not tell apart ask for the same. -/
theorem requestOf_of_draftEquals [DecidableEq ν] {namespace_ set : Str} {a b : FilterDraft ν}
    {size : ℕ} (h : draftEquals a b = true) :
    requestOf js namespace_ set a size = requestOf js namespace_ set b size := by
  simp only [draftEquals, Bool.and_eq_true, decide_eq_true_eq, List.all_eq_true] at h
  obtain ⟨⟨⟨⟨hpk, hmode⟩, hlogic⟩, hlength⟩, hall⟩ := h
  have hsent : a.conditions.map (·.toSent js) = b.conditions.map (·.toSent js) := by
    rw [← List.forall₂_eq_eq_eq, List.forall₂_map_left_iff, List.forall₂_map_right_iff]
    refine List.forall₂_iff_zip.2 ⟨hlength, fun {x y} hmem => ?_⟩
    have hsame := hall (x, y) hmem
    dsimp only at hsame
    obtain ⟨⟨⟨⟨hbin, hoperator⟩, htype⟩, hvalue⟩, hvalue2⟩ := hsame
    simp only [FilterDraftCondition.toSent, hbin, hoperator, htype, hvalue, hvalue2]
  simp only [requestOf, draftToFilterConditions, hpk, hmode, hlogic, hlength, hsent]

/-! ### The API -/

/-- `isinstance(value, str)`. -/
def isStr : Option (BinValue F) → Bool
  | some (.str _) => true
  | _ => false

/-- What the validators of `FilterCondition` ask for. -/
def SentCondition.Valid (c : SentCondition F) : Prop :=
  isBinName c.bin = true ∧ (c.operator.isPk = true ↔ c.bin = pkBinPlaceholder) ∧
    (c.operator.isPk = true → isStr c.value = true)

instance (c : SentCondition F) : Decidable c.Valid := inferInstanceAs (Decidable (_ ∧ _))

theorem exists_of_isStr {value : Option (BinValue F)} (h : isStr value = true) :
    ∃ text, value = some (.str text) := by
  unfold isStr at h
  split at h
  · exact ⟨_, rfl⟩
  · cases h

/-- `FilterCondition`, read from a body. -/
def readCondition (c : SentCondition F) : Option (FilterCondition F) :=
  if h : c.Valid then
    some
      { bin := c.bin
        operator := c.operator
        value := c.value
        value2 := c.value2
        binType := c.binType
        bin_valid := h.1
        pk_paired := h.2.1
        pk_string := fun hpk => exists_of_isStr (h.2.2 hpk) }
  else none

/-- `FilterGroup`, read from a body. -/
def readGroup (group : Logic × List (SentCondition F)) : Option (FilterGroup F) :=
  (group.2.mapM readCondition).bind fun conditions =>
    if h : 1 ≤ conditions.length ∧ conditions.length ≤ 20 then some ⟨group.1, conditions, h⟩
    else none

/-- The filters of a body, which may be `null`. -/
def readFilters : Option (Logic × List (SentCondition F)) → Option (Option (FilterGroup F))
  | none => some none
  | some group => (readGroup group).map some

/-- What `FilteredQueryRequest` asks for beside its filters. -/
structure SentRequest.Valid (body : SentRequest F) : Prop where
  namespace_ : isName isNsChar 31 body.namespace_ = true
  set : body.set.length ≤ 63
  pageSize : 1 ≤ body.pageSize ∧ body.pageSize ≤ 500
  pkPattern : ∀ text ∈ body.pkPattern, text.length ≤ 4096
  pattern : body.pkMatchMode ≠ .exact → body.pkPattern.any (·.strip ≠ []) = true

instance (body : SentRequest F) : Decidable body.Valid :=
  decidable_of_iff
    (isName isNsChar 31 body.namespace_ = true ∧ body.set.length ≤ 63 ∧
      (1 ≤ body.pageSize ∧ body.pageSize ≤ 500) ∧ (∀ text ∈ body.pkPattern, text.length ≤ 4096) ∧
      (body.pkMatchMode ≠ .exact → body.pkPattern.any (·.strip ≠ []) = true))
    ⟨fun h => ⟨h.1, h.2.1, h.2.2.1, h.2.2.2.1, h.2.2.2.2⟩,
      fun h => ⟨h.namespace_, h.set, h.pageSize, h.pkPattern, h.pattern⟩⟩

theorem selectBins_left_out :
    ∀ names ∈ (none : Option (List Str)), names ≠ [] ∧ ∀ name ∈ names, isBinName name = true :=
  fun _ h => absurd h (Option.not_mem_none _)

theorem maxRecords_left_out : ∀ n ∈ (none : Option ℕ), 1 ≤ n ∧ n ≤ 1000000 :=
  fun _ h => absurd h (Option.not_mem_none _)

theorem primaryKey_left_out : ∀ text ∈ (none : Option Str), text.length ≤ 1024 :=
  fun _ h => absurd h (Option.not_mem_none _)

/-- `FilteredQueryRequest`, read from the body of the page, with its defaults. -/
def readRequest (body : SentRequest F) : Option (FilteredQueryRequest F) :=
  (readFilters body.filters).bind fun filters =>
    if h : body.Valid then
      some
        { namespace_ := body.namespace_
          set := some body.set
          filters
          predicate := none
          selectBins := none
          maxRecords := none
          page := 1
          pageSize := body.pageSize
          primaryKey := none
          pkType := .auto
          pkPattern := body.pkPattern
          pkMatchMode := body.pkMatchMode
          namespace_valid := h.namespace_
          set_valid := fun _ hset => by
            cases hset
            exact h.set
          selectBins_valid := selectBins_left_out
          maxRecords_valid := maxRecords_left_out
          page_valid := le_refl 1
          pageSize_valid := h.pageSize
          primaryKey_valid := primaryKey_left_out
          pkPattern_valid := h.pkPattern
          one_key := Or.inr rfl
          legacy_exact := fun hkey => absurd rfl hkey
          pattern_given := fun hmode => by
            obtain ⟨text, htext, hstrip⟩ := (Option.any_eq_true _ _).1 (h.pattern hmode)
            exact ⟨text, htext, of_decide_eq_true hstrip⟩ }
    else none

/-- The cluster at one moment, and what the driver makes of it. -/
structure Moment (server : Server F) where
  cluster : Cluster F
  driver : Driver server cluster

variable {server : Server F}

/-- `get_filtered_records`. `none` stands for a response that is an error. -/
def serve (moment : Moment server) (body : SentRequest F) : Option (FilterRecordsResult F) :=
  (readRequest body).bind fun body => (filterRecords py moment.driver body).toOption

/-! ### What is read -/

theorem readCondition_eq_some {c : SentCondition F} {fc : FilterCondition F} :
    readCondition c = some fc ↔ c.Valid ∧ fc.bin = c.bin ∧ fc.operator = c.operator ∧
      fc.value = c.value ∧ fc.value2 = c.value2 ∧ fc.binType = c.binType := by
  unfold readCondition
  constructor
  · intro h
    split at h
    · rename_i hvalid
      cases h
      exact ⟨hvalid, rfl, rfl, rfl, rfl, rfl⟩
    · cases h
  · rintro ⟨hvalid, hbin, hoperator, hvalue, hvalue2, htype⟩
    obtain ⟨bin, operator, value, value2, binType, _, _, _⟩ := fc
    subst hbin hoperator hvalue hvalue2 htype
    exact dif_pos hvalid

theorem mapM_readCondition {cs : List (SentCondition F)} {fcs : List (FilterCondition F)} :
    cs.mapM readCondition = some fcs ↔
      List.Forall₂ (fun c fc => readCondition c = some fc) cs fcs := by
  induction cs generalizing fcs with
  | nil =>
    rw [List.mapM_nil, List.forall₂_nil_left_iff]
    exact Option.some_inj.trans eq_comm
  | cons c cs ih =>
    rw [List.mapM_cons, List.forall₂_cons_left_iff, Option.bind_eq_bind, Option.bind_eq_some_iff]
    refine exists_congr fun fc => ?_
    constructor
    · rintro ⟨hfc, h⟩
      obtain ⟨rest, hrest, h⟩ := Option.bind_eq_some_iff.1 h
      cases h
      exact ⟨rest, hfc, ih.1 hrest, rfl⟩
    · rintro ⟨rest, hfc, hrest, rfl⟩
      exact ⟨hfc, Option.bind_eq_some_iff.2 ⟨rest, ih.2 hrest, rfl⟩⟩

theorem readGroup_eq_some {group : Logic × List (SentCondition F)} {fg : FilterGroup F} :
    readGroup group = some fg ↔ fg.logic = group.1 ∧
      List.Forall₂ (fun c fc => readCondition c = some fc) group.2 fg.conditions := by
  unfold readGroup
  rw [Option.bind_eq_some_iff]
  constructor
  · rintro ⟨conditions, hconditions, h⟩
    split at h
    · cases h
      exact ⟨rfl, mapM_readCondition.1 hconditions⟩
    · cases h
  · rintro ⟨hlogic, hconditions⟩
    refine ⟨fg.conditions, mapM_readCondition.2 hconditions, ?_⟩
    rw [dif_pos fg.length_valid, ← hlogic]

/-- A request and what is read of its body. -/
structure Reads (body : SentRequest F) (r : FilteredQueryRequest F) : Prop where
  valid : body.Valid
  filters : readFilters body.filters = some r.filters
  namespace_ : r.namespace_ = body.namespace_
  set : r.set = some body.set
  pkPattern : r.pkPattern = body.pkPattern
  pkMatchMode : r.pkMatchMode = body.pkMatchMode
  primaryKey : r.primaryKey = none
  pkType : r.pkType = .auto
  predicate : r.predicate = none
  page : r.page = 1

theorem reads_of_readRequest {body : SentRequest F} {r : FilteredQueryRequest F}
    (h : readRequest body = some r) : Reads body r := by
  unfold readRequest at h
  obtain ⟨filters, hfilters, h⟩ := Option.bind_eq_some_iff.1 h
  split at h
  · rename_i hvalid
    cases h
    exact ⟨hvalid, hfilters, rfl, rfl, rfl, rfl, rfl, rfl, rfl, rfl⟩
  · cases h

theorem exists_readRequest {body : SentRequest F} {filters : Option (FilterGroup F)}
    (hvalid : body.Valid) (hfilters : readFilters body.filters = some filters) :
    ∃ r, readRequest body = some r := by
  unfold readRequest
  rw [hfilters, Option.bind_some, dif_pos hvalid]
  exact ⟨_, rfl⟩

section Target

variable {js} {namespace_ set : Str} {draft : FilterDraft ν} {size : ℕ}
  {r : FilteredQueryRequest F}

/-- The text that is sent is the one that is searched for. -/
theorem Reads.pkTarget (h : Reads (requestOf js namespace_ set draft size) r) :
    r.pkTarget = if trim draft.pk = [] then none else some (trim draft.pk) := by
  rw [FilteredQueryRequest.pkTarget, h.pkPattern, h.primaryKey, Option.or_none, requestOf]
  split
  · rfl
  · rename_i hpk
    exact truthy_eq_some.2 ⟨rfl, hpk⟩

theorem Reads.exactTarget (h : Reads (requestOf js namespace_ set draft size) r) :
    r.exactTarget =
      if draft.pkMatchMode = .exact ∧ trim draft.pk ≠ [] then some (trim draft.pk) else none := by
  have hmode : r.pkMatchMode = draft.pkMatchMode := h.pkMatchMode
  rw [FilteredQueryRequest.exactTarget, hmode, h.pkTarget]
  by_cases hexact : draft.pkMatchMode = .exact
  · by_cases hpk : trim draft.pk = []
    · simp [hexact, hpk, Records.truthy]
    · rw [if_pos hexact, if_neg hpk, if_pos ⟨hexact, hpk⟩]
      exact truthy_eq_some.2 ⟨rfl, hpk⟩
  · rw [if_neg hexact, if_neg fun h => hexact h.1]

end Target

/-! ### What is found -/

variable (server) in
/-- A record satisfies a condition as the API reads it. -/
def SentCondition.Holds (c : SentCondition F) (r : StoredRecord F) : Prop :=
  ∃ fc, readCondition c = some fc ∧ fc.Holds py server r

variable (server) in
/-- A record satisfies the conditions of a draft. -/
def FilterDraft.Holds (draft : FilterDraft ν) (r : StoredRecord F) : Prop :=
  match draft.logic with
  | .and => ∀ c ∈ draft.conditions, (c.toSent js).Holds py server r
  | .or => draft.conditions = [] ∨ ∃ c ∈ draft.conditions, (c.toSent js).Holds py server r

variable (server) in
/-- A record is what a draft searches for in a set. A search for an exact key looks at nothing
else. -/
structure Meets (namespace_ set : Str) (draft : FilterDraft ν) (r : StoredRecord F) : Prop where
  namespace_ : r.namespace_ = namespace_
  set : set ≠ [] → r.set = set
  found :
    match draft.pkMatchMode with
    | .exact =>
        if trim draft.pk = [] then draft.Holds js py server r
        else r.key ∈ lookupKeys (trim draft.pk) .auto
    | .pattern mode => KeyMatches server r (trim draft.pk) mode ∧ draft.Holds js py server r

section Found

variable {js py} {namespace_ set : Str} {draft : FilterDraft ν} {size : ℕ} {r : StoredRecord F}
  {moment : Moment server} {result : FilterRecordsResult F}

theorem holds_of_readCondition {c : SentCondition F} {fc : FilterCondition F}
    (h : readCondition c = some fc) : fc.Holds py server r ↔ c.Holds py server r := by
  constructor
  · intro hholds
    exact ⟨fc, h, hholds⟩
  · rintro ⟨fc', h', hholds⟩
    rw [h] at h'
    cases h'
    exact hholds

/-- The group that is read holds of the records that satisfy the conditions of the draft. -/
theorem holds_of_readFilters {filters : Option (FilterGroup F)}
    (h : readFilters (draftToFilterConditions js draft) = some filters) :
    (∀ group ∈ filters, group.Holds py server r) ↔ draft.Holds js py server r := by
  unfold draftToFilterConditions at h
  unfold FilterDraft.Holds
  by_cases hnone : draft.conditions = []
  · rw [if_pos (by rw [hnone, List.length_nil])] at h
    cases h
    rw [hnone]
    cases draft.logic <;> simp
  · rw [if_neg fun hlength => hnone (List.length_eq_zero_iff.1 hlength)] at h
    obtain ⟨group, hgroup, rfl⟩ := Option.map_eq_some_iff.1 h
    obtain ⟨hlogic, hconditions⟩ := readGroup_eq_some.1 hgroup
    have hpairs : List.Forall₂ (fun c fc => fc.Holds py server r ↔ c.Holds py server r)
        (draft.conditions.map (·.toSent js)) group.conditions :=
      hconditions.imp fun c fc hfc => holds_of_readCondition hfc
    obtain ⟨hall, hsome⟩ := forall_and_exists_iff hpairs
    simp only [Option.mem_def, Option.some.injEq, forall_eq', FilterGroup.Holds, hlogic]
    cases draft.logic with
    | and =>
      rw [hall]
      exact List.forall_mem_map
    | or =>
      rw [hsome, or_iff_right hnone]
      simp only [List.mem_map, exists_exists_and_eq_and]

/-- Every record of an answer is what the draft searches for. -/
theorem meets_of_serve (h : serve py moment (requestOf js namespace_ set draft size) = some result)
    {f : Found F} (hf : f ∈ result.records) :
    Meets js py server namespace_ set draft f.record := by
  obtain ⟨body, hbody, h⟩ := Option.bind_eq_some_iff.1 h
  have hreads := reads_of_readRequest hbody
  have hresult : filterRecords py moment.driver body = .ok result := by
    cases hserved : filterRecords py moment.driver body with
    | ok served =>
      rw [hserved] at h
      cases h
      rfl
    | error e =>
      rw [hserved] at h
      cases h
  obtain ⟨-, -, ⟨hnamespace, hset⟩, hread⟩ := FilteredQueryRequest.of_mem_filterRecords hresult hf
  refine ⟨hnamespace.trans hreads.namespace_, fun hne => ?_, ?_⟩
  · refine hset set ?_
    rw [hreads.set]
    exact truthy_eq_some.2 ⟨rfl, hne⟩
  · have hmode : body.pkMatchMode = draft.pkMatchMode := hreads.pkMatchMode
    rw [hreads.exactTarget] at hread
    cases hpk : draft.pkMatchMode with
    | exact =>
      dsimp only
      split
      · rename_i hblank
        rw [if_neg fun hexact => hexact.2 hblank] at hread
        exact (holds_of_readFilters hreads.filters).1 hread.2.1.1
      · rename_i hgiven
        rw [if_pos ⟨hpk, hgiven⟩] at hread
        rw [← hreads.pkType]
        exact hread.2
    | pattern mode =>
      rw [if_neg fun hexact => PkMatchMode.noConfusion (hpk.symm.trans hexact.1)] at hread
      obtain ⟨-, hbins, hpattern⟩ := hread
      refine ⟨hpattern mode (hmode.trans hpk) (trim draft.pk) ?_,
        (holds_of_readFilters hreads.filters).1 hbins.1⟩
      -- A pattern that is missing or blank is refused.
      have hgiven := hreads.valid.pattern (by rw [requestOf, hpk]; nofun)
      rw [hreads.pkTarget]
      split
      · rename_i hblank
        simp [requestOf, hblank] at hgiven
      · rfl

end Found

/-! ### What can be answered -/

/-- A condition as the toolbar makes it: a bin that is no number is compared with a text. -/
structure FilterDraftCondition.Offered (c : FilterDraftCondition ν) : Prop where
  operator : c.operator ∈ filterOperatorsByType c.binType
  text : c.binType ≠ .integer → c.binType ≠ .float → ∀ n, c.value ≠ .num n

/-- A value that the API converts to the type of the bin. -/
def DraftValue.Fits (v : DraftValue ν) : BinDataType → Prop
  | .integer => ∃ value, v.sent js = some value ∧ ∃ n, intOf py value = .ok n
  | .float => ∃ value, v.sent js = some value ∧ ∃ x, floatOf py value = .ok x
  | _ => ∃ text, v = .str text

/-- A condition that has what its operator asks for. -/
def FilterDraftCondition.Ready (c : FilterDraftCondition ν) : Prop :=
  match c.operator with
  | .cmp _ => c.value.Fits js py c.binType
  | .between => c.value.Fits js py c.binType ∧ c.value2.Fits js py c.binType
  | .contains | .notContains | .geoWithin | .geoContains => ∃ text, c.value = .str text
  | .regex => ∃ text, c.value = .str text ∧ validatePattern py text = .ok ()
  | _ => True

/-- What the toolbar does not see to before a draft is sent. -/
structure Sendable (namespace_ set : Str) (draft : FilterDraft ν) : Prop where
  namespace_ : isName isNsChar 31 namespace_ = true
  set : set.length ≤ 63 ∧ (trim draft.pk ≠ [] → set ≠ [])
  few : draft.conditions.length ≤ 20
  bins : ∀ c ∈ draft.conditions, isBinName c.bin = true ∧ c.bin ≠ pkBinPlaceholder
  short : (trim draft.pk).length ≤ 4096
  exact : draft.pkMatchMode = .exact → ¬IsWideIntText (trim draft.pk)
  pattern : draft.pkMatchMode ≠ .exact → (trim draft.pk).strip ≠ []
  regex : draft.pkMatchMode = .pattern .regex → validatePattern py (trim draft.pk) = .ok ()
  ready : draft.pkMatchMode ≠ .exact ∨ trim draft.pk = [] →
    ∀ c ∈ draft.conditions, c.Ready js py

section Answers

variable {js py} {namespace_ set : Str} {draft : FilterDraft ν} {size : ℕ}
  {c : FilterDraftCondition ν} {fc : FilterCondition F}

theorem isPk_of_mem_operators {type : BinDataType} {operator : FilterOperator}
    (h : operator ∈ filterOperatorsByType type) : operator.isPk = false := by
  revert operator
  cases type <;> decide

theorem valid_toSent (hoffered : c.Offered) :
    (c.toSent js).Valid ↔ isBinName c.bin = true ∧ c.bin ≠ pkBinPlaceholder := by
  have hpk : (c.toSent js).operator.isPk = false := isPk_of_mem_operators hoffered.operator
  simp only [SentCondition.Valid, hpk, Bool.false_eq_true, false_iff, false_implies, and_true]
  rfl

/-- The value of a bin that is no number reaches the API exactly if it is a text. -/
theorem sent_eq_some_iff {v : DraftValue ν} {value : BinValue F} (h : ∀ n, v ≠ .num n) :
    v.sent js = some value ↔ ∃ text, v = .str text ∧ value = .str text := by
  cases v with
  | num n => exact absurd rfl (h n)
  | str text =>
    simp only [DraftValue.sent, Option.some.injEq, DraftValue.str.injEq, exists_eq_left',
      eq_comm]
  | _ => simp [DraftValue.sent]

theorem fits_iff {v : DraftValue ν} {type : BinDataType}
    (htext : type ≠ .integer → type ≠ .float → ∀ n, v ≠ .num n)
    (htype : type = .integer ∨ type = .float ∨ type = .string) :
    (∃ p, valAccessor py (v.sent js) type = .ok p) ↔ v.Fits js py type := by
  rcases htype with rfl | rfl | rfl
  · cases hsent : v.sent js with
    | none => simp [valAccessor, DraftValue.Fits, hsent]
    | some value => simp [valAccessor, DraftValue.Fits, hsent, map_eq_ok]
  · cases hsent : v.sent js with
    | none => simp [valAccessor, DraftValue.Fits, hsent]
    | some value => simp [valAccessor, DraftValue.Fits, hsent, map_eq_ok]
  · have hiff := fun value => @sent_eq_some_iff _ _ js v value (htext (by decide) (by decide))
    cases hsent : v.sent js with
    | none =>
      refine iff_of_false ?_ ?_
      · rintro ⟨p, hp⟩
        cases hp
      · rintro ⟨text, ht⟩
        rw [ht, DraftValue.sent] at hsent
        cases hsent
    | some value =>
      obtain ⟨text, ht, -⟩ := (hiff value).1 hsent
      exact iff_of_true ⟨_, rfl⟩ ⟨text, ht⟩

theorem compared_of_mem_operators {type : BinDataType} {op : CmpOp}
    (h : .cmp op ∈ filterOperatorsByType type) :
    type = .integer ∨ type = .float ∨ type = .string := by
  cases type <;> simp_all [filterOperatorsByType]

theorem number_of_mem_operators {type : BinDataType}
    (h : .between ∈ filterOperatorsByType type) : type = .integer ∨ type = .float := by
  cases type <;> simp_all [filterOperatorsByType]

theorem text_of_mem_operators {type : BinDataType} {operator : FilterOperator}
    (h : operator ∈ filterOperatorsByType type)
    (hoperator : operator ∈ [.contains, .notContains, .regex, .geoWithin, .geoContains]) :
    type ≠ .integer ∧ type ≠ .float := by
  revert operator
  cases type <;> decide

theorem exists_unit {result : Except FilterError Unit} :
    (∃ u, result = .ok u) ↔ result = .ok () :=
  ⟨fun ⟨(), h⟩ => h, fun h => ⟨(), h⟩⟩

/-- A condition that is read is built exactly if it is ready. -/
theorem exists_buildCondition_iff (hoffered : c.Offered)
    (hread : readCondition (c.toSent js) = some fc) :
    (∃ e, buildCondition py fc = .ok e) ↔ c.Ready js py := by
  obtain ⟨-, -, hread⟩ := readCondition_eq_some.1 hread
  have hoperator : fc.operator = c.operator := hread.1
  have hvalue : fc.value = c.value.sent js := hread.2.1
  have hvalue2 : fc.value2 = c.value2.sent js := hread.2.2.1
  have htype : fc.binType = c.binType := hread.2.2.2
  have hmem := hoffered.operator
  -- The operators on texts and regions all need a value, which the toolbar makes a text.
  have hrequired : c.operator ∈ [.contains, .notContains, .regex, .geoWithin, .geoContains] →
      ∀ {P : BinValue F → Prop}, (∃ value, required fc.value = .ok value ∧ P value) ↔
        ∃ text, c.value = .str text ∧ P (.str text) := by
    intro htext P
    obtain ⟨hinteger, hfloat⟩ := text_of_mem_operators hmem htext
    simp only [required_eq_ok, hvalue]
    constructor
    · rintro ⟨value, hsent, hP⟩
      obtain ⟨text, hc, rfl⟩ := (sent_eq_some_iff (hoffered.text hinteger hfloat)).1 hsent
      exact ⟨text, hc, hP⟩
    · rintro ⟨text, hc, hP⟩
      exact ⟨_, (sent_eq_some_iff (hoffered.text hinteger hfloat)).2 ⟨text, hc, rfl⟩, hP⟩
  unfold buildCondition FilterDraftCondition.Ready
  rw [hoperator]
  cases hop : c.operator with
  | cmp op =>
    rw [hop] at hmem
    dsimp only
    rw [exists_comparison, hvalue, htype]
    exact fits_iff hoffered.text (compared_of_mem_operators hmem)
  | between =>
    rw [hop] at hmem
    have hnumber := number_of_mem_operators hmem
    -- both ends of the range have to fit, each for itself
    have hfits : ∀ v : DraftValue ν,
        (∃ p, valAccessor py (v.sent js) c.binType = .ok p) ↔ v.Fits js py c.binType :=
      fun v => fits_iff (fun hinteger hfloat => by rcases hnumber with h | h <;> contradiction)
        (hnumber.imp_right Or.inl)
    dsimp only
    rw [← hfits, ← hfits, ← hvalue, ← hvalue2, ← htype]
    cases hlower : fc.value with
    | none => simp [valAccessor]
    | some lower =>
      cases hupper : fc.value2 with
      | none => simp [valAccessor]
      | some upper =>
        simp only [comparison, bind_eq_ok, map_eq_ok]
        constructor
        · rintro ⟨e, ge, ⟨p, hp, -⟩, le, ⟨q, hq, -⟩, -⟩
          exact ⟨⟨p, hp⟩, q, hq⟩
        · rintro ⟨⟨p, hp⟩, q, hq⟩
          exact ⟨_, _, ⟨p, hp, rfl⟩, _, ⟨q, hq, rfl⟩, rfl⟩
  | contains =>
    simp only [map_eq_ok]
    rw [exists_comm]
    simp only [exists_and_left, exists_eq', and_true]
    simpa using @hrequired (by rw [hop]; decide) fun _ => True
  | notContains =>
    simp only [map_eq_ok]
    rw [exists_comm]
    simp only [exists_and_left, exists_eq', and_true]
    simpa using @hrequired (by rw [hop]; decide) fun _ => True
  | regex =>
    simp only [bind_eq_ok]
    rw [exists_comm]
    simp only [exists_and_left]
    rw [hrequired (by rw [hop]; decide)]
    refine exists_congr fun text => and_congr_right fun _ => ?_
    simp only [map_eq_ok]
    rw [exists_comm]
    simp only [exists_and_left, exists_eq', and_true]
    exact exists_unit
  | geoWithin =>
    simp only [bind_eq_ok]
    rw [exists_comm]
    simp only [exists_and_left]
    rw [hrequired (by rw [hop]; decide)]
    exact exists_congr fun text => and_iff_left ⟨_, rfl⟩
  | geoContains =>
    simp only [bind_eq_ok]
    rw [exists_comm]
    simp only [exists_and_left]
    rw [hrequired (by rw [hop]; decide)]
    exact exists_congr fun text => and_iff_left ⟨_, rfl⟩
  | pkPrefix => exact absurd (isPk_of_mem_operators (hop ▸ hmem)) (by decide)
  | pkRegex => exact absurd (isPk_of_mem_operators (hop ▸ hmem)) (by decide)
  | _ => simp

/-- Every entry of a list has a partner exactly if the whole list has one. -/
theorem exists_forall₂_iff {α β : Type} {R : α → β → Prop} {as : List α} :
    (∃ bs, List.Forall₂ R as bs) ↔ ∀ a ∈ as, ∃ b, R a b := by
  induction as with
  | nil => exact iff_of_true ⟨[], .nil⟩ nofun
  | cons a as ih =>
    rw [List.forall_mem_cons, ← ih]
    constructor
    · rintro ⟨bs, hbs⟩
      obtain ⟨b, rest, hb, hrest, -⟩ := List.forall₂_cons_left_iff.1 hbs
      exact ⟨⟨b, hb⟩, rest, hrest⟩
    · rintro ⟨⟨b, hb⟩, rest, hrest⟩
      exact ⟨b :: rest, .cons hb hrest⟩

theorem exists_readCondition_iff (hoffered : c.Offered) :
    (∃ fc : FilterCondition F, readCondition (c.toSent js) = some fc) ↔
      isBinName c.bin = true ∧ c.bin ≠ pkBinPlaceholder := by
  rw [← valid_toSent hoffered]
  exact ⟨fun ⟨fc, h⟩ => (readCondition_eq_some.1 h).1, fun h => ⟨_, dif_pos h⟩⟩

/-- The filters are read exactly if the conditions are few and on bins that can be named. -/
theorem exists_readFilters_iff (hoffered : ∀ c ∈ draft.conditions, c.Offered) :
    (∃ filters : Option (FilterGroup F),
        readFilters (draftToFilterConditions js draft) = some filters) ↔
      draft.conditions.length ≤ 20 ∧
        ∀ c ∈ draft.conditions, isBinName c.bin = true ∧ c.bin ≠ pkBinPlaceholder := by
  unfold draftToFilterConditions
  by_cases hnone : draft.conditions = []
  · rw [if_pos (by rw [hnone, List.length_nil])]
    exact iff_of_true ⟨none, rfl⟩ (by simp [hnone])
  rw [if_neg fun hlength => hnone (List.length_eq_zero_iff.1 hlength)]
  have hreadable : (∃ fcs : List (FilterCondition F),
      List.Forall₂ (fun c fc => readCondition c = some fc)
        (draft.conditions.map (·.toSent js)) fcs) ↔
      ∀ c ∈ draft.conditions, isBinName c.bin = true ∧ c.bin ≠ pkBinPlaceholder := by
    rw [exists_forall₂_iff, List.forall_mem_map]
    exact forall₂_congr fun c hc => exists_readCondition_iff (hoffered c hc)
  rw [← hreadable]
  constructor
  · rintro ⟨filters, h⟩
    obtain ⟨group, hgroup, -⟩ := Option.map_eq_some_iff.1 h
    have hconditions := (readGroup_eq_some.1 hgroup).2
    have hlength : draft.conditions.length = group.conditions.length := by
      simpa using hconditions.length_eq
    exact ⟨hlength ▸ group.length_valid.2, group.conditions, hconditions⟩
  · rintro ⟨hfew, fcs, hfcs⟩
    have hlength : draft.conditions.length = fcs.length := by simpa using hfcs.length_eq
    have hsome : 1 ≤ fcs.length := by
      have := List.length_pos_iff.2 hnone
      omega
    refine ⟨_, Option.map_eq_some_iff.2 ⟨⟨draft.logic, fcs, hsome, hlength ▸ hfew⟩, ?_, rfl⟩⟩
    exact readGroup_eq_some.2 ⟨rfl, hfcs⟩

/-- The expression of the filters that are read is built exactly if every condition is ready. -/
theorem exists_binExpression_iff (hoffered : ∀ c ∈ draft.conditions, c.Offered)
    {body : FilteredQueryRequest F}
    (hread : readFilters (draftToFilterConditions js draft) = some body.filters) :
    (∃ e, body.binExpression py = .ok e) ↔ ∀ c ∈ draft.conditions, c.Ready js py := by
  unfold draftToFilterConditions at hread
  unfold FilteredQueryRequest.binExpression
  by_cases hnone : draft.conditions = []
  · rw [if_pos (by rw [hnone, List.length_nil])] at hread
    rw [← Option.some.inj hread]
    exact iff_of_true ⟨none, rfl⟩ (by simp [hnone])
  rw [if_neg fun hlength => hnone (List.length_eq_zero_iff.1 hlength)] at hread
  obtain ⟨group, hgroup, hfilters⟩ := Option.map_eq_some_iff.1 hread
  have hconditions := List.forall₂_map_left_iff.1 (readGroup_eq_some.1 hgroup).2
  have hpairs : List.Forall₂
      (fun c fc => (∃ e, buildCondition py fc = .ok e) ↔ c.Ready js py)
      draft.conditions group.conditions := by
    refine List.forall₂_iff_zip.2 ⟨hconditions.length_eq, fun hmem => ?_⟩
    exact exists_buildCondition_iff (hoffered _ (List.of_mem_zip hmem).1)
      (List.forall₂_zip hconditions hmem)
  rw [← hfilters, ← (forall_and_exists_iff hpairs).1]
  simp only [map_eq_ok, mapError_eq_ok, buildExpression]
  constructor
  · rintro ⟨e, e', ⟨exprs, hexprs, -⟩, -⟩ fc hfc
    obtain ⟨e, -, he⟩ := (mem_mapM hexprs).2 fc hfc
    exact ⟨e, he⟩
  · intro hbuilt
    obtain ⟨exprs, hexprs⟩ := exists_mapM hbuilt
    exact ⟨_, _, ⟨exprs, hexprs, rfl⟩, rfl⟩

theorem valid_requestOf_iff (hsize : 1 ≤ size ∧ size ≤ 500) :
    (requestOf js namespace_ set draft size).Valid ↔
      isName isNsChar 31 namespace_ = true ∧ set.length ≤ 63 ∧ (trim draft.pk).length ≤ 4096 ∧
        (draft.pkMatchMode ≠ .exact → (trim draft.pk).strip ≠ []) := by
  have hpattern : (requestOf js namespace_ set draft size).pkPattern =
      if trim draft.pk = [] then none else some (trim draft.pk) := rfl
  constructor
  · intro h
    refine ⟨h.namespace_, h.set, ?_, fun hmode => ?_⟩
    · have hshort := h.pkPattern
      rw [hpattern] at hshort
      split at hshort
      · rename_i hblank
        simp [hblank]
      · exact hshort _ rfl
    · have hgiven := h.pattern hmode
      rw [hpattern] at hgiven
      split at hgiven
      · cases hgiven
      · simpa using hgiven
  · rintro ⟨hnamespace, hset, hshort, hgiven⟩
    refine ⟨hnamespace, hset, hsize, fun text htext => ?_, fun hmode => ?_⟩
    · rw [hpattern] at htext
      split at htext
      · cases htext
      · cases htext
        exact hshort
    · have hstrip := hgiven hmode
      rw [hpattern]
      split
      · rename_i hblank
        exact absurd (by rw [hblank]; rfl) hstrip
      · simpa using hstrip

/-- A cluster without records. -/
def emptyMoment : Moment server where
  cluster :=
    { store := { find := fun _ _ _ => none, narrow := fun _ _ _ _ => rfl }
      keyed := fun _ _ _ _ h => by cases h }
  driver :=
    { results := fun _ => .ok []
      objectCount := fun _ _ => .ok none
      sound := fun _ _ hfound f hf => by
        cases hfound
        cases hf }

/-- A text that is that of an integer too wide is not looked up. -/
theorem fetchExact_wide {cluster : Cluster F} {text : Str} (h : IsWideIntText text)
    (found : List (Found F)) : fetchExact cluster namespace_ (some set) text .auto ≠ .ok found := by
  obtain ⟨n, htext, hwide, hdigits⟩ := h
  have hget : getWithPkFallback cluster.store namespace_ set (.int n) text .auto =
      .error (.integerTooWide n) := by
    simp [getWithPkFallback, clientGet, hwide]
  unfold fetchExact
  split
  · intro hfound
    cases hfound
  · rename_i set' hset'
    obtain rfl : set = set' := (Option.some.inj (truthy_eq_some.1 hset').1)
    rw [resolvePk_auto_int htext hdigits]
    dsimp only
    rw [hget]
    intro hfound
    cases hfound

theorem fetchExact_empty {text : Str} (hset : set ≠ []) (h : ¬IsWideIntText text) :
    fetchExact (emptyMoment : Moment server).cluster namespace_ (some set) text .auto = .ok [] := by
  have hstring : ∀ text, clientGet (emptyMoment : Moment server).cluster.store namespace_ set
      (.string text) = .error .recordNotFound := fun _ => rfl
  unfold fetchExact
  rw [truthy_eq_some.2 ⟨rfl, hset⟩]
  dsimp only
  rcases resolvePk_auto_cases text with ⟨n, htext, hdigits, hresolve⟩ | ⟨-, hresolve⟩
  · have hn : InInt64 n := by
      by_contra hwide
      exact h ⟨n, htext, hwide, hdigits⟩
    have hint : clientGet (emptyMoment : Moment server).cluster.store namespace_ set (.int n) =
        .error .recordNotFound := by
      rw [clientGet_int _ _ _ hn]
      rfl
    rw [hresolve]
    dsimp only
    rw [getWithPkFallback, hint]
    rfl
  · rw [hresolve]
    rfl

theorem exists_query_iff {body : FilteredQueryRequest F} (hpredicate : body.predicate = none) :
    (∃ q, body.query py = .ok q) ↔
      (∃ e, body.pkExpression py = .ok e) ∧ ∃ e, body.binExpression py = .ok e := by
  have hwhere : buildWhere py body.predicate = .ok none := by rw [hpredicate]; rfl
  simp only [FilteredQueryRequest.query, hwhere, bind_eq_ok, map_eq_ok, Except.ok.injEq]
  constructor
  · rintro ⟨q, pkExpr, hpk, binExpr, hbin, -⟩
    exact ⟨⟨pkExpr, hpk⟩, binExpr, hbin⟩
  · rintro ⟨⟨pkExpr, hpk⟩, binExpr, hbin⟩
    exact ⟨_, pkExpr, hpk, binExpr, hbin, none, rfl, rfl⟩

/-- A page of no records. -/
theorem exists_firstPage_empty {body : FilteredQueryRequest F} (q : Query F) :
    ∃ result, body.firstPage (emptyMoment : Moment server).driver q [] = .ok result := by
  have hcount : ∀ ns set, (emptyMoment : Moment server).driver.objectCount ns set = .ok none :=
    fun _ _ => rfl
  unfold FilteredQueryRequest.firstPage
  dsimp only
  rw [hcount]
  split_ifs <;> exact ⟨_, rfl⟩

/-- What `filter_records` asks of a request that is read. -/
theorem exists_filterRecords_iff {body : FilteredQueryRequest F}
    (hreads : Reads (requestOf js namespace_ set draft size) body) :
    (∃ (moment : Moment server) (result : FilterRecordsResult F),
        filterRecords py moment.driver body = .ok result) ↔
      (trim draft.pk ≠ [] → set ≠ []) ∧
        if draft.pkMatchMode = .exact ∧ trim draft.pk ≠ [] then ¬IsWideIntText (trim draft.pk)
        else ∃ q, body.query py = .ok q := by
  have hset : body.set = some set := hreads.set
  have hguard : ((Records.truthy body.pkTarget).isSome = true ∧ Records.truthy body.set = none) ↔
      ¬(trim draft.pk ≠ [] → set ≠ []) := by
    rw [hreads.pkTarget, hset]
    by_cases hpk : trim draft.pk = []
    · simp [hpk, Records.truthy]
    · by_cases hnone : set = [] <;> simp [hpk, hnone, Records.truthy]
  constructor
  · rintro ⟨moment, result, h⟩
    unfold filterRecords at h
    rw [if_neg (not_not.2 hreads.page)] at h
    split at h
    · cases h
    · rename_i hno
      refine ⟨not_not.1 fun hgiven => hno (hguard.2 hgiven), ?_⟩
      rw [hreads.exactTarget, hset, hreads.pkType] at h
      split
      · rename_i hkey
        rw [if_pos hkey] at h
        obtain ⟨found, hfound, -⟩ := map_eq_ok.1 h
        exact fun hwide => fetchExact_wide hwide found hfound
      · rename_i hkey
        rw [if_neg hkey] at h
        obtain ⟨q, hq, -⟩ := bind_eq_ok.1 h
        exact ⟨q, hq⟩
  · rintro ⟨hgiven, h⟩
    unfold filterRecords
    refine ⟨emptyMoment, ?_⟩
    rw [if_neg (not_not.2 hreads.page), if_neg (by rw [hguard]; exact not_not.2 hgiven),
      hreads.exactTarget, hset, hreads.pkType]
    split at h
    · rename_i hkey
      rw [if_pos hkey]
      dsimp only
      rw [fetchExact_empty (hgiven hkey.2) h]
      exact ⟨_, rfl⟩
    · rename_i hkey
      rw [if_neg hkey]
      obtain ⟨q, hq⟩ := h
      obtain ⟨result, hresult⟩ := @exists_firstPage_empty F server body q
      exact ⟨result, bind_eq_ok.2 ⟨q, hq, bind_eq_ok.2 ⟨[], rfl, hresult⟩⟩⟩

theorem exists_pkExpression_iff {body : FilteredQueryRequest F}
    (hreads : Reads (requestOf js namespace_ set draft size) body) :
    (∃ e, body.pkExpression py = .ok e) ↔
      (draft.pkMatchMode = .pattern .regex → trim draft.pk ≠ [] →
        validatePattern py (trim draft.pk) = .ok ()) := by
  have hmode : body.pkMatchMode = draft.pkMatchMode := hreads.pkMatchMode
  unfold FilteredQueryRequest.pkExpression
  rw [hreads.pkTarget, hmode]
  by_cases hpk : trim draft.pk = []
  · rw [if_pos hpk]
    exact iff_of_true ⟨none, rfl⟩ fun _ hgiven => absurd hpk hgiven
  rw [if_neg hpk]
  cases draft.pkMatchMode with
  | exact => exact iff_of_true ⟨none, rfl⟩ nofun
  | pattern mode =>
    cases mode with
    | pfx => exact iff_of_true ⟨_, rfl⟩ nofun
    | regex =>
      simp only [map_eq_ok, mapError_eq_ok, buildPkFilterExpression, forall_const, hpk,
        not_false_eq_true, ne_eq]
      rw [← exists_unit]
      constructor
      · rintro ⟨e, e', ⟨u, hu, -⟩, -⟩
        exact ⟨u, hu⟩
      · rintro ⟨u, hu⟩
        exact ⟨_, _, ⟨u, hu, rfl⟩, rfl⟩

theorem exists_serve_iff : (∃ (moment : Moment server) (result : FilterRecordsResult F),
      serve py moment (requestOf js namespace_ set draft size) = some result) ↔
    ∃ body, readRequest (requestOf js namespace_ set draft size) = some body ∧
      ∃ (moment : Moment server) (result : FilterRecordsResult F),
        filterRecords py moment.driver body = .ok result := by
  simp only [serve, Option.bind_eq_some_iff]
  constructor
  · rintro ⟨moment, result, body, hbody, h⟩
    refine ⟨body, hbody, moment, ?_⟩
    cases hserved : filterRecords py moment.driver body with
    | ok served => exact ⟨served, rfl⟩
    | error e =>
      rw [hserved] at h
      cases h
  · rintro ⟨body, hbody, moment, result, h⟩
    exact ⟨moment, result, body, hbody, by rw [h]; rfl⟩

theorem not_isWideIntText_nil : ¬IsWideIntText [] := by
  rintro ⟨n, htext, -, hdigits⟩
  have hparse := Numerals.parseInt_intText_of_le hdigits
  rw [htext] at hparse
  cases hparse

/-- The API can answer the request for a draft exactly if it is sendable. -/
theorem served_iff (hoffered : ∀ c ∈ draft.conditions, c.Offered) (hsize : 1 ≤ size ∧ size ≤ 500) :
    (∃ (moment : Moment server) (result : FilterRecordsResult F),
        serve py moment (requestOf js namespace_ set draft size) = some result) ↔
      Sendable js py namespace_ set draft := by
  rw [exists_serve_iff]
  constructor
  · rintro ⟨body, hbody, hserved⟩
    have hreads := reads_of_readRequest hbody
    obtain ⟨hnamespace, hset, hshort, hpattern⟩ := (valid_requestOf_iff hsize).1 hreads.valid
    obtain ⟨hfew, hbins⟩ := (exists_readFilters_iff hoffered).1 ⟨_, hreads.filters⟩
    obtain ⟨hgiven, hrest⟩ := (exists_filterRecords_iff hreads).1 hserved
    by_cases hkey : draft.pkMatchMode = .exact ∧ trim draft.pk ≠ []
    · rw [if_pos hkey] at hrest
      refine ⟨hnamespace, ⟨hset, hgiven⟩, hfew, hbins, hshort, fun _ => hrest, hpattern,
        fun hmode => ?_, fun hother => ?_⟩
      · rw [hkey.1] at hmode
        cases hmode
      · exact absurd hother (not_or.2 ⟨not_not.2 hkey.1, hkey.2⟩)
    · rw [if_neg hkey, exists_query_iff hreads.predicate, exists_pkExpression_iff hreads,
        exists_binExpression_iff hoffered hreads.filters] at hrest
      obtain ⟨hregex, hready⟩ := hrest
      refine ⟨hnamespace, ⟨hset, hgiven⟩, hfew, hbins, hshort, fun hmode => ?_, hpattern,
        fun hmode => hregex hmode fun hblank => ?_, fun _ => hready⟩
      · have hblank : trim draft.pk = [] := not_not.1 fun hpk => hkey ⟨hmode, hpk⟩
        rw [hblank]
        exact not_isWideIntText_nil
      · refine hpattern (by rw [hmode]; nofun) ?_
        rw [hblank]
        rfl
  · intro h
    have hvalid : (requestOf js namespace_ set draft size).Valid :=
      (valid_requestOf_iff hsize).2 ⟨h.namespace_, h.set.1, h.short, h.pattern⟩
    obtain ⟨filters, hfilters⟩ : ∃ filters : Option (FilterGroup F),
        readFilters (draftToFilterConditions js draft) = some filters :=
      (exists_readFilters_iff hoffered).2 ⟨h.few, h.bins⟩
    obtain ⟨body, hbody⟩ := exists_readRequest hvalid hfilters
    have hreads := reads_of_readRequest hbody
    refine ⟨body, hbody, (exists_filterRecords_iff hreads).2 ⟨h.set.2, ?_⟩⟩
    split
    · rename_i hkey
      exact h.exact hkey.1
    · rename_i hkey
      rw [exists_query_iff hreads.predicate, exists_pkExpression_iff hreads,
        exists_binExpression_iff hoffered hreads.filters]
      refine ⟨fun hmode _ => h.regex hmode, h.ready ?_⟩
      by_cases hmode : draft.pkMatchMode = .exact
      · exact Or.inr (not_not.1 fun hpk => hkey ⟨hmode, hpk⟩)
      · exact Or.inl hmode

end Answers

/-! ### Edits -/

/-- A draft as edits make it. The ids of its conditions are told apart, and `id` is a new one. -/
structure Drafted (id : ℕ) (draft : FilterDraft ν) : Prop where
  offered : ∀ c ∈ draft.conditions, c.Offered
  fresh : ∀ c ∈ draft.conditions, c.id < id
  nodup : (draft.conditions.map (·.id)).Nodup

section Edits

variable {js} {id : ℕ} {draft draft' : FilterDraft ν} {available : List (Str × BinDataType)}
  {c : FilterDraftCondition ν}

theorem drafted_empty (id : ℕ) : Drafted id (emptyFilterDraft : FilterDraft ν) :=
  ⟨nofun, nofun, List.nodup_nil⟩

theorem Drafted.mono {id' : ℕ} (h : Drafted id draft) (hle : id ≤ id') : Drafted id' draft :=
  ⟨h.offered, fun c hc => (h.fresh c hc).trans_le hle, h.nodup⟩

theorem offered_newCondition (bin : Str) (binType : BinDataType) :
    (newCondition id bin binType : FilterDraftCondition ν).Offered := by
  constructor
  · show (filterOperatorsByType binType).head?.getD (.cmp .eq) ∈ filterOperatorsByType binType
    cases binType <;> decide
  · intro _ _ n h
    cases h

theorem offered_committed (h : c.Offered) (val val2 : Str) : (committed js val val2 c).Offered := by
  refine ⟨h.operator, fun hinteger hfloat n => ?_⟩
  have hread : parseInputValue js val c.binType = .str val := by
    unfold parseInputValue
    split <;> [exact absurd ‹_› hinteger; exact absurd ‹_› hfloat; rfl]
  show (if c.operator ∈ noValueOperators then DraftValue.null
    else if c.operator = .geoWithin ∨ c.operator = .geoContains then .str val
    else parseInputValue js val c.binType) ≠ .num n
  rw [hread]
  split_ifs <;> nofun

/-- An update of one condition that keeps its id. -/
theorem Drafted.update (h : Drafted id draft) {target : ℕ}
    {update : FilterDraftCondition ν → FilterDraftCondition ν} (hid : ∀ c, (update c).id = c.id)
    (hoffered : ∀ c ∈ draft.conditions, c.id = target → (update c).Offered) :
    Drafted id (updateCondition draft target update) := by
  have hids : ∀ c, (if c.id = target then update c else c).id = c.id := by
    intro c
    split
    · exact hid c
    · rfl
  refine ⟨fun c hc => ?_, fun c hc => ?_, ?_⟩
  · obtain ⟨d, hd, rfl⟩ := List.mem_map.1 hc
    split
    · exact hoffered d hd ‹_›
    · exact h.offered d hd
  · obtain ⟨d, hd, rfl⟩ := List.mem_map.1 hc
    rw [hids]
    exact h.fresh d hd
  · have hsame : (updateCondition draft target update).conditions.map (·.id) =
        draft.conditions.map (·.id) := by
      rw [updateCondition, List.map_map]
      exact List.map_congr_left fun c _ => hids c
    rw [hsame]
    exact h.nodup

/-- What the toolbar offers leads from drafts to drafts. -/
theorem Drafted.edit (h : Drafted id draft) {e : Edit}
    (hedit : edit js available id draft e = some draft') : Drafted (id + 1) draft' := by
  have hlater : Drafted (id + 1) draft := h.mono (Nat.le_succ id)
  cases e with
  | updatePk pk =>
    cases hedit
    exact ⟨hlater.offered, hlater.fresh, hlater.nodup⟩
  | updatePkMatchMode mode =>
    cases hedit
    exact ⟨hlater.offered, hlater.fresh, hlater.nodup⟩
  | addCondition bin binType =>
    simp only [RecordFilters.edit] at hedit
    split at hedit
    · cases hedit
      refine ⟨fun c hc => ?_, fun c hc => ?_, ?_⟩
      · rcases List.mem_append.1 hc with hc | hc
        · exact h.offered c hc
        · rw [List.mem_singleton.1 hc]
          exact offered_newCondition bin binType
      · rcases List.mem_append.1 hc with hc | hc
        · exact hlater.fresh c hc
        · rw [List.mem_singleton.1 hc]
          exact Nat.lt_succ_self id
      · rw [List.map_append, List.nodup_append]
        refine ⟨h.nodup, List.nodup_singleton _, fun i hi j hj hij => ?_⟩
        obtain ⟨c, hc, rfl⟩ := List.mem_map.1 hi
        rw [List.map_singleton, List.mem_singleton] at hj
        have hlt : c.id < id := h.fresh c hc
        have hj' : j = id := hj
        omega
    · cases hedit
  | setOperator target operator =>
    obtain ⟨chip, hchip, hedit⟩ := Option.bind_eq_some_iff.1 hedit
    split at hedit
    · rename_i hoperator
      cases hedit
      refine hlater.update (fun _ => rfl) fun c hc htarget => ?_
      have hsame : c = chip := by
        refine List.inj_on_of_nodup_map h.nodup hc (List.mem_of_find?_eq_some hchip) ?_
        have := List.find?_some hchip
        rw [htarget]
        exact (of_decide_eq_true this).symm
      subst hsame
      exact ⟨hoperator, (h.offered c hc).text⟩
    · cases hedit
  | commit target val val2 =>
    obtain ⟨chip, -, rfl⟩ := Option.map_eq_some_iff.1 hedit
    exact hlater.update (fun _ => rfl) fun c hc _ => offered_committed (h.offered c hc) val val2
  | removeCondition target =>
    obtain ⟨chip, -, rfl⟩ := Option.map_eq_some_iff.1 hedit
    exact ⟨fun c hc => h.offered c (List.mem_of_mem_filter hc),
      fun c hc => hlater.fresh c (List.mem_of_mem_filter hc),
      h.nodup.sublist (List.filter_sublist.map _)⟩
  | toggleLogic =>
    simp only [RecordFilters.edit] at hedit
    split at hedit
    · cases hedit
      exact ⟨hlater.offered, hlater.fresh, hlater.nodup⟩
    · cases hedit

end Edits

end ClusterManager.Ui.RecordFilters
