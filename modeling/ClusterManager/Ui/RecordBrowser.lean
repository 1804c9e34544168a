import ClusterManager.Lib.Machine
import ClusterManager.Ui.RecordFilters

/-!
# The record browser

The page of a set shows the records that `filter_records` answers with. The user edits a draft of
filters and applies it; every fetch takes a number, and an answer is dropped unless its fetch is the
latest one. The model assumes of the router that it keeps the page mounted when the user goes to
another set: the state stays, and the effects start over.

`shows_applied` says what is shown once the page has come to rest, and `answerable_iff` when it can
come to rest without an error, which the toolbar does not see to. The note of the set has no such
number: `of_page_iff` says along which runs everything that is shown belongs to the set of the page.
-/

namespace ClusterManager.Ui.RecordBrowser

open Records Machine RecordFilters

/-! ### The page -/

/-- `SecondaryIndexType`. -/
inductive SecondaryIndexType
  | numeric
  | string
  | geo2dsphere

/-- `SecondaryIndexState`. -/
inductive SecondaryIndexState
  | ready
  | building
  | error
  deriving DecidableEq

/-- `SecondaryIndex`, without its name. -/
structure SecondaryIndex where
  namespace_ : Str
  set : Str
  bin : Str
  type : SecondaryIndexType
  state : SecondaryIndexState

/-- `indexTypeToBinDataType`. -/
def indexTypeToBinDataType : SecondaryIndexType → BinDataType
  | .numeric => .integer
  | .geo2dsphere => .geo
  | .string => .string

/-- `QueryMeta`, without the time that a query took. -/
structure QueryMeta where
  total : Option ℤ := none
  totalEstimated : Bool := false
  hasMore : Bool := false

/-- What the route names. -/
structure Target where
  clusterId : Str
  namespace_ : Str
  set : Str
  deriving DecidableEq

/-- A value and the set that it was read for. -/
structure Sourced (β : Type) where
  value : β
  target : Target

/-- A fetch without an answer yet. -/
structure Fetch (F : Type) where
  seq : ℕ
  target : Target
  body : SentRequest F

/-- `SetNote`. -/
structure SetNote where
  setName : Str
  note : Str

/-- A write of a note goes on with a read of the notes. -/
inductive NoteStage
  | writing
  | reading

/-- A call for the note of a set, without an answer yet. -/
structure NoteTask where
  target : Target
  stage : NoteStage

/-- `DEFAULT_PAGE_SIZE`. -/
def defaultPageSize : ℕ := 50

/-- `PAGE_SIZE_OPTIONS`. -/
def pageSizeOptions : List ℕ := [25, 50, 100]

/-- The page: its state, and beside it what React and the browser keep. -/
structure Page (ν F : Type) where
  target : Target
  records : Option (Sourced (List (Found F))) := none
  loading : Bool := true
  error : Option String := none
  indexes : List SecondaryIndex := []
  pageSize : ℕ := defaultPageSize
  queryMeta : QueryMeta := {}
  draft : FilterDraft ν := emptyFilterDraft
  applied : FilterDraft ν := emptyFilterDraft
  setNote : Option (Sourced Str) := none
  /-- `fetchSeqRef.current`. -/
  fetchSeq : ℕ := 0
  /-- The effects of the latest route are still to run. -/
  effectsPending : Bool := true
  /-- How often the indexes were asked for, and for which cluster the last time. -/
  indexEffect : ℕ := 0
  indexCluster : Option Str := none
  /-- The next id that `uuid` makes. -/
  nextId : ℕ := 0
  fetches : List (Fetch F) := []
  indexReads : List ℕ := []
  noteTasks : List NoteTask := []

variable {ν F : Type} (js : Builtins ν F) (py : Python F) {server : Server F}

namespace Page

/-- The first render. -/
def mount (target : Target) : Page ν F where
  target := target

/-- `availableBins`, in the order of the indexes. -/
def availableBins (s : Page ν F) : List (Str × BinDataType) :=
  (s.indexes.filter fun index =>
    decide (index.namespace_ = s.target.namespace_) && decide (index.set = s.target.set) &&
      decide (index.state = .ready)).foldl
    (fun bins index => Dict.set bins index.bin (indexTypeToBinDataType index.type)) []

/-- The request that `runFetch` makes of what is applied. -/
def request (s : Page ν F) : SentRequest F :=
  requestOf js s.target.namespace_ s.target.set s.applied s.pageSize

/-- `runFetch`, up to the request. -/
def runFetch (s : Page ν F) (target : FilterDraft ν) (size : ℕ) : Page ν F :=
  { s with
    fetchSeq := s.fetchSeq + 1
    loading := true
    error := none
    fetches := s.fetches ++
      [⟨s.fetchSeq + 1, s.target, requestOf js s.target.namespace_ s.target.set target size⟩] }

/-- The response to a fetch. -/
def resolved (s : Page ν F) (fetch : Fetch F) (result : FilterRecordsResult F) : Page ν F :=
  if fetch.seq ≠ s.fetchSeq then s
  else
    { s with
      records := some ⟨result.records, fetch.target⟩
      queryMeta := ⟨result.total, result.totalEstimated, result.hasMore⟩
      loading := false }

/-- A fetch that failed, with the message of `mapApiError`. -/
def rejected (s : Page ν F) (fetch : Fetch F) (message : String) : Page ν F :=
  if fetch.seq ≠ s.fetchSeq then s
  else { s with error := some message, loading := false }

/-- The effect that starts over for another set. -/
def loadEffect (s : Page ν F) : Page ν F :=
  let s := runFetch js
    { s with
      draft := emptyFilterDraft
      applied := emptyFilterDraft
      records := none
      queryMeta := {}
      setNote := none } emptyFilterDraft s.pageSize
  { s with noteTasks := s.noteTasks ++ [⟨s.target, .reading⟩] }

/-- The effect that asks for the indexes of another cluster. -/
def indexEffects (s : Page ν F) : Page ν F :=
  if s.indexCluster = some s.target.clusterId then s
  else
    { s with
      indexEffect := s.indexEffect + 1
      indexCluster := some s.target.clusterId
      indexReads := s.indexReads ++ [s.indexEffect + 1] }

/-- The note that `reloadSetNote` finds. -/
def noteOf (target : Target) (notes : List SetNote) : Option (Sourced Str) :=
  (notes.find? (·.setName = target.set)).map fun match_ => ⟨match_.note, target⟩

end Page

/-- What can happen to the page: what the user does, what React does, and what the API answers. An
answer comes with the message that is shown if it is an error. -/
inductive Event (F : Type) (server : Server F)
  | edit (e : Edit)
  | apply
  | clear
  | refresh
  | setPageSize (next : ℕ)
  | changeNote
  | navigate (target : Target)
  | effects
  | answered (seq : ℕ) (moment : Moment server) (message : String)
  | failed (seq : ℕ) (message : String)
  | indexesRead (effect : ℕ) (indexes : Option (List SecondaryIndex))
  | noteWritten (i : ℕ) (ok : Bool)
  | notesRead (i : ℕ) (notes : Option (List SetNote))

open Page

/-- What an event does, where it can happen. React runs the effects before it hands on what the user
does. -/
def step (s : Page ν F) : Event F server → Option (Page ν F)
  | .edit e =>
      if s.effectsPending then none
      else
        (edit js s.availableBins s.nextId s.draft e).map fun draft =>
          { s with draft, nextId := s.nextId + 1 }
  | .apply =>
      -- The key handler of the input asks for nothing but a key that is valid.
      if s.effectsPending ∨ validatePkDraft js s.draft.pk s.draft.pkMatchMode ≠ none then none
      else some (runFetch js { s with applied := s.draft } s.draft s.pageSize)
  | .clear =>
      if s.effectsPending ∨ draftHasFilters s.draft = false then none
      else
        some (runFetch js { s with draft := emptyFilterDraft, applied := emptyFilterDraft }
          emptyFilterDraft s.pageSize)
  | .refresh =>
      if s.effectsPending ∨ s.loading then none else some (runFetch js s s.applied s.pageSize)
  | .setPageSize next =>
      if s.effectsPending ∨ s.loading ∨ next ∉ pageSizeOptions then none
      else some (runFetch js { s with pageSize := next } s.applied next)
  | .changeNote =>
      if s.effectsPending then none
      else some { s with noteTasks := s.noteTasks ++ [⟨s.target, .writing⟩] }
  | .navigate target =>
      if target = s.target then none else some { s with target, effectsPending := true }
  | .effects =>
      if s.effectsPending then
        some { (indexEffects (loadEffect js s)) with effectsPending := false }
      else none
  | .answered seq moment message =>
      (s.fetches.find? (·.seq = seq)).map fun fetch =>
        let s := { s with fetches := s.fetches.filter (·.seq ≠ seq) }
        match serve py moment fetch.body with
        | some result => s.resolved fetch result
        | none => s.rejected fetch message
  | .failed seq message =>
      (s.fetches.find? (·.seq = seq)).map fun fetch =>
        rejected { s with fetches := s.fetches.filter (·.seq ≠ seq) } fetch message
  | .indexesRead effect indexes =>
      if effect ∈ s.indexReads then
        let s := { s with indexReads := s.indexReads.erase effect }
        -- The cleanup of the effect cancels the reads for another cluster.
        some (if effect = s.indexEffect then { s with indexes := indexes.getD [] } else s)
      else none
  | .noteWritten i ok =>
      match s.noteTasks[i]? with
      | some ⟨target, .writing⟩ =>
          some { s with
            noteTasks :=
              if ok then s.noteTasks.set i ⟨target, .reading⟩ else s.noteTasks.eraseIdx i }
      | _ => none
  | .notesRead i notes =>
      match s.noteTasks[i]? with
      | some ⟨target, .reading⟩ =>
          let s := { s with noteTasks := s.noteTasks.eraseIdx i }
          match notes with
          | some notes => some { s with setNote := noteOf target notes }
          | none => some s
      | _ => none

/-! ### What every step keeps -/

variable (server) in
/-- The rows that are shown are those of an answer to what is applied. -/
def Answered (s : Page ν F) : Prop :=
  ∃ (moment : Moment server) (result : FilterRecordsResult F),
    serve py moment (s.request js) = some result ∧
      s.records = some ⟨result.records, s.target⟩ ∧
      s.queryMeta = ⟨result.total, result.totalEstimated, result.hasMore⟩

/-- What holds whether or not the effects have run. -/
structure Basic (s : Page ν F) : Prop where
  drafted : Drafted s.nextId s.draft
  applied : Drafted s.nextId s.applied
  searchable : validatePkDraft js s.applied.pk s.applied.pkMatchMode = none
  pageSize : s.pageSize ∈ pageSizeOptions
  bounded : ∀ f ∈ s.fetches, f.seq ≤ s.fetchSeq

variable (server) in
/-- What holds once the effects have run. -/
structure Current (s : Page ν F) : Prop where
  latest : ∀ f ∈ s.fetches, f.seq = s.fetchSeq → f.target = s.target ∧ f.body = s.request js
  loading : s.loading = true ↔ ∃ f ∈ s.fetches, f.seq = s.fetchSeq
  shown : s.loading = false → s.error = none → Answered js py server s
  rows : ∀ rows ∈ s.records, rows.target = s.target

variable (server) in
/-- The invariant of the page. -/
structure Inv (s : Page ν F) : Prop where
  basic : Basic js s
  current : s.effectsPending = false → Current js py server s

variable {js py} {s s' : Page ν F}

theorem basic_runFetch (h : Basic js s) (target : FilterDraft ν) (size : ℕ) :
    Basic js (runFetch js s target size) := by
  refine ⟨h.drafted, h.applied, h.searchable, h.pageSize, fun f hf => ?_⟩
  rcases List.mem_append.1 hf with hf | hf
  · exact (h.bounded f hf).trans (Nat.le_succ _)
  · rw [List.mem_singleton.1 hf]
    exact le_refl (s.fetchSeq + 1)

/-- A fetch of what is applied is the latest one, and the page waits for it. -/
theorem current_runFetch (h : Basic js s) (hrows : ∀ rows ∈ s.records, rows.target = s.target) :
    Current js py server (runFetch js s s.applied s.pageSize) := by
  refine ⟨fun f hf hseq => ?_, iff_of_true rfl ?_, nofun, hrows⟩
  · rcases List.mem_append.1 hf with hf | hf
    · have hle := h.bounded f hf
      have heq : f.seq = s.fetchSeq + 1 := hseq
      omega
    · rw [List.mem_singleton.1 hf]
      exact ⟨rfl, rfl⟩
  · exact ⟨_, List.mem_append_right _ (List.mem_singleton_self _), rfl⟩

theorem inv_runFetch (h : Basic js s) (hrows : ∀ rows ∈ s.records, rows.target = s.target) :
    Inv js py server (runFetch js s s.applied s.pageSize) :=
  ⟨basic_runFetch h _ _, fun _ => current_runFetch h hrows⟩

theorem inv_mount (target : Target) : Inv js py server (mount target : Page ν F) :=
  ⟨⟨drafted_empty 0, drafted_empty 0, rfl, (by decide : defaultPageSize ∈ pageSizeOptions), nofun⟩,
    nofun⟩

/-- A fetch that is not the latest one takes nothing with it. -/
theorem current_drop (h : Current js py server s) {seq : ℕ} (hseq : seq ≠ s.fetchSeq) :
    Current js py server { s with fetches := s.fetches.filter (·.seq ≠ seq) } := by
  refine ⟨fun f hf => h.latest f (List.mem_of_mem_filter hf), h.loading.trans ?_, h.shown, h.rows⟩
  constructor
  · rintro ⟨f, hf, hlatest⟩
    refine ⟨f, List.mem_filter.2 ⟨hf, ?_⟩, hlatest⟩
    rw [hlatest]
    exact decide_eq_true hseq.symm
  · rintro ⟨f, hf, hlatest⟩
    exact ⟨f, List.mem_of_mem_filter hf, hlatest⟩

/-- Nothing is in flight under the number of a fetch that was answered. -/
theorem not_exists_answered {seq : ℕ} :
    ¬∃ f ∈ s.fetches.filter (·.seq ≠ seq), f.seq = seq := by
  rintro ⟨f, hf, hseq⟩
  exact of_decide_eq_true (List.mem_filter.1 hf).2 hseq

theorem basic_drop (h : Basic js s) (seq : ℕ) :
    Basic js { s with fetches := s.fetches.filter (·.seq ≠ seq) } :=
  ⟨h.drafted, h.applied, h.searchable, h.pageSize,
    fun f hf => h.bounded f (List.mem_of_mem_filter hf)⟩

/-- What stands beside the records may change as it likes. -/
theorem Inv.beside (h : Inv js py server s) {draft : FilterDraft ν} {nextId : ℕ}
    (hdraft : Drafted nextId draft) (hnext : s.nextId ≤ nextId) (indexes : List SecondaryIndex)
    (indexEffect : ℕ) (indexCluster : Option Str) (indexReads : List ℕ)
    (setNote : Option (Sourced Str)) (noteTasks : List NoteTask) :
    Inv js py server
      { s with
        draft := draft
        nextId := nextId
        indexes := indexes
        indexEffect := indexEffect
        indexCluster := indexCluster
        indexReads := indexReads
        setNote := setNote
        noteTasks := noteTasks } := by
  obtain ⟨⟨-, happlied, hsearchable, hpageSize, hbounded⟩, hcurrent⟩ := h
  refine ⟨⟨hdraft, happlied.mono hnext, hsearchable, hpageSize, hbounded⟩, fun hran => ?_⟩
  obtain ⟨hlatest, hloading, hshown, hrows⟩ := hcurrent hran
  exact ⟨hlatest, hloading, hshown, hrows⟩

section Answers

variable {fetch : Fetch F} {seq : ℕ}

theorem seq_of_find? (h : s.fetches.find? (·.seq = seq) = some fetch) : fetch.seq = seq := by
  have hseq := List.find?_some h
  exact of_decide_eq_true hseq

theorem inv_rejected (h : Inv js py server s) (hfetch : s.fetches.find? (·.seq = seq) = some fetch)
    (message : String) : Inv js py server
      (rejected { s with fetches := s.fetches.filter (·.seq ≠ seq) } fetch message) := by
  obtain rfl := seq_of_find? hfetch
  unfold rejected
  split
  · exact ⟨basic_drop h.basic _, fun hran => current_drop (h.current hran) ‹_›⟩
  · rename_i hseq
    have hlatest : fetch.seq = s.fetchSeq := not_not.1 hseq
    obtain ⟨hdrafted, happlied, hsearchable, hpageSize, hbounded⟩ := basic_drop h.basic fetch.seq
    refine ⟨⟨hdrafted, happlied, hsearchable, hpageSize, hbounded⟩, fun hran => ?_⟩
    have hcurrent := h.current hran
    refine ⟨fun f hf hf' => ?_, iff_of_false Bool.false_ne_true ?_, fun _ herror => ?_,
      hcurrent.rows⟩
    · exact absurd ⟨f, hf, hf'.trans hlatest.symm⟩ not_exists_answered
    · show ¬∃ f ∈ s.fetches.filter (·.seq ≠ fetch.seq), f.seq = s.fetchSeq
      rw [← hlatest]
      exact not_exists_answered
    · cases herror

theorem inv_resolved (h : Inv js py server s) (hfetch : s.fetches.find? (·.seq = seq) = some fetch)
    {moment : Moment server} {result : FilterRecordsResult F}
    (hserve : serve py moment fetch.body = some result) : Inv js py server
      (Page.resolved { s with fetches := s.fetches.filter (·.seq ≠ seq) } fetch result) := by
  obtain rfl := seq_of_find? hfetch
  unfold Page.resolved
  split
  · exact ⟨basic_drop h.basic _, fun hran => current_drop (h.current hran) ‹_›⟩
  · rename_i hseq
    have hlatest : fetch.seq = s.fetchSeq := not_not.1 hseq
    obtain ⟨hdrafted, happlied, hsearchable, hpageSize, hbounded⟩ := basic_drop h.basic fetch.seq
    refine ⟨⟨hdrafted, happlied, hsearchable, hpageSize, hbounded⟩, fun hran => ?_⟩
    obtain ⟨htarget, hbody⟩ :=
      (h.current hran).latest fetch (List.mem_of_find?_eq_some hfetch) hlatest
    refine ⟨fun f hf hf' => ?_, iff_of_false Bool.false_ne_true ?_, fun _ _ => ?_, ?_⟩
    · exact absurd ⟨f, hf, hf'.trans hlatest.symm⟩ not_exists_answered
    · show ¬∃ f ∈ s.fetches.filter (·.seq ≠ fetch.seq), f.seq = s.fetchSeq
      rw [← hlatest]
      exact not_exists_answered
    · rw [hbody] at hserve
      refine ⟨moment, result, hserve, ?_, rfl⟩
      show some (⟨result.records, fetch.target⟩ : Sourced _) = some ⟨result.records, s.target⟩
      rw [htarget]
    · rintro rows hrows
      cases hrows
      exact htarget

end Answers

/-- The effects leave a page that waits for the records of its set. -/
theorem inv_effects (h : Inv js py server s) :
    Inv js py server { (indexEffects (loadEffect js s)) with effectsPending := false } := by
  have hblank : Basic js
      { s with
        draft := emptyFilterDraft
        applied := emptyFilterDraft
        records := none
        queryMeta := {}
        setNote := none
        effectsPending := false } :=
    ⟨drafted_empty _, drafted_empty _, rfl, h.basic.pageSize, h.basic.bounded⟩
  have hfetch := @inv_runFetch ν F js py server _ hblank nofun
  unfold indexEffects
  split
  · exact hfetch.beside (drafted_empty _) le_rfl _ _ _ _ _ _
  · exact hfetch.beside (drafted_empty _) le_rfl _ _ _ _ _ _

/-- Every step keeps the invariant. -/
theorem inv_step {e : Event F server} (h : Inv js py server s) (hs : step js py s e = some s') :
    Inv js py server s' := by
  have hsame := h
  obtain ⟨hbasic, hcurrent⟩ := h
  cases e with
  | edit e =>
    simp only [step] at hs
    split at hs
    · cases hs
    · obtain ⟨draft, hdraft, rfl⟩ := Option.map_eq_some_iff.1 hs
      exact hsame.beside (hbasic.drafted.edit hdraft) (Nat.le_succ _) _ _ _ _ _ _
  | apply =>
    simp only [step] at hs
    split at hs
    · cases hs
    · rename_i hno
      cases hs
      obtain ⟨hran, hkey⟩ := not_or.1 hno
      exact inv_runFetch ⟨hbasic.drafted, hbasic.drafted, not_not.1 hkey, hbasic.pageSize,
        hbasic.bounded⟩ (hcurrent (Bool.eq_false_iff.2 hran)).rows
  | clear =>
    simp only [step] at hs
    split at hs
    · cases hs
    · rename_i hno
      cases hs
      obtain ⟨hran, -⟩ := not_or.1 hno
      exact inv_runFetch ⟨drafted_empty _, drafted_empty _, rfl, hbasic.pageSize,
        hbasic.bounded⟩ (hcurrent (Bool.eq_false_iff.2 hran)).rows
  | refresh =>
    simp only [step] at hs
    split at hs
    · cases hs
    · rename_i hno
      cases hs
      obtain ⟨hran, -⟩ := not_or.1 hno
      exact inv_runFetch hbasic (hcurrent (Bool.eq_false_iff.2 hran)).rows
  | setPageSize next =>
    simp only [step] at hs
    split at hs
    · cases hs
    · rename_i hno
      cases hs
      obtain ⟨hran, hno⟩ := not_or.1 hno
      obtain ⟨-, hnext⟩ := not_or.1 hno
      exact inv_runFetch ⟨hbasic.drafted, hbasic.applied, hbasic.searchable, not_not.1 hnext,
        hbasic.bounded⟩ (hcurrent (Bool.eq_false_iff.2 hran)).rows
  | changeNote =>
    simp only [step] at hs
    split at hs
    · cases hs
    · cases hs
      exact hsame.beside hbasic.drafted le_rfl _ _ _ _ _ _
  | navigate target =>
    simp only [step] at hs
    -- the rest is only promised once the effects have run, which they have not
    split at hs
    · cases hs
    · cases hs
      exact ⟨⟨hbasic.drafted, hbasic.applied, hbasic.searchable, hbasic.pageSize,
        hbasic.bounded⟩, nofun⟩
  | effects =>
    simp only [step] at hs
    split at hs
    · cases hs
      exact inv_effects hsame
    · cases hs
  | answered seq moment message =>
    obtain ⟨fetch, hfetch, rfl⟩ := Option.map_eq_some_iff.1 hs
    dsimp only
    split
    · exact inv_resolved hsame hfetch ‹_›
    · exact inv_rejected hsame hfetch message
  | failed seq message =>
    obtain ⟨fetch, hfetch, rfl⟩ := Option.map_eq_some_iff.1 hs
    exact inv_rejected hsame hfetch message
  | indexesRead effect indexes =>
    simp only [step] at hs
    split at hs
    · cases hs
      split
      · exact hsame.beside hbasic.drafted le_rfl _ _ _ _ _ _
      · exact hsame.beside hbasic.drafted le_rfl _ _ _ _ _ _
    · cases hs
  | noteWritten i ok =>
    simp only [step] at hs
    split at hs
    · cases hs
      exact hsame.beside hbasic.drafted le_rfl _ _ _ _ _ _
    · cases hs
  | notesRead i notes =>
    simp only [step] at hs
    split at hs
    · cases notes with
      | some notes =>
        cases hs
        exact hsame.beside hbasic.drafted le_rfl _ _ _ _ _ _
      | none =>
        cases hs
        exact hsame.beside hbasic.drafted le_rfl _ _ _ _ _ _
    · cases hs

theorem always_inv_mounted (target : Target) (es : List (Event F server)) :
    Always (step js py) (Inv js py server) (mount target : Page ν F) es :=
  always_of_step (fun _ _ _ h hs => inv_step h hs) (inv_mount target)

/-! ### What is shown -/

variable (js py server) in
/-- The page has come to rest on the records that the API found for the filters it applies. Where
the toolbar has nothing to search for, they are what the draft asks for. -/
structure Shows [DecidableEq ν] (s : Page ν F) : Prop where
  answered : Answered js py server s
  meets : ∀ rows ∈ s.records, ∀ row ∈ rows.value,
    Meets js py server s.target.namespace_ s.target.set s.applied row.record
  clean : draftEquals s.draft s.applied = true →
    requestOf js s.target.namespace_ s.target.set s.draft s.pageSize = s.request js

/-- Whatever the order of the answers: a page waits exactly while its latest fetch is in flight,
and at rest it shows what it searches for, unless that failed. -/
theorem shows_applied [DecidableEq ν] (js : Builtins ν F) (py : Python F) (server : Server F)
    (target : Target) (es : List (Event F server)) :
    Always (step js py)
      (fun s : Page ν F => s.effectsPending = false →
        (s.loading = true ↔ ∃ f ∈ s.fetches, f.seq = s.fetchSeq) ∧
          (s.loading = false → s.error = none → Shows js py server s))
      (mount target) es := by
  refine (always_inv_mounted target es).imp fun s hinv hran => ?_
  obtain ⟨-, hloading, hshown, -⟩ := hinv.current hran
  refine ⟨hloading, fun hrest herror => ?_⟩
  obtain ⟨moment, result, hserve, hrecords, hmeta⟩ := hshown hrest herror
  refine ⟨⟨moment, result, hserve, hrecords, hmeta⟩, fun rows hrows row hrow => ?_,
    requestOf_of_draftEquals js⟩
  rw [hrecords] at hrows
  cases hrows
  exact meets_of_serve hserve hrow

/-- The user adds a condition on an integer bin and searches without giving it a value. -/
def bareCondition (target : Target) : List (Event F server) :=
  [.effects,
    .indexesRead 1 (some [⟨target.namespace_, target.set, "age".toList, .numeric, .ready⟩]),
    .edit (.addCondition "age".toList .integer), .apply]

theorem run_bareCondition (target : Target) :
    ∃ s : Page ν F, run (step js py) (mount target) (bareCondition target : List (Event F server)) =
      some s ∧ s.applied = ⟨[], .exact, .and, [newCondition 0 "age".toList .integer]⟩ := by
  simp [run, bareCondition, step, mount, indexEffects, loadEffect, runFetch, edit, availableBins,
    emptyFilterDraft, validatePkDraft, Dict.set, indexTypeToBinDataType]

/-- A condition that was never given a value. -/
theorem not_sendable_bare {namespace_ set bin : Str} {id : ℕ} :
    ¬Sendable js py namespace_ set ⟨[], .exact, .and, [newCondition id bin .integer]⟩ := by
  intro hsendable
  obtain ⟨value, hsent, -⟩ :=
    hsendable.ready (Or.inr rfl) (newCondition id bin .integer) (List.mem_singleton_self _)
  cases hsent

/-- A page can come to rest without an error exactly if what it applies is sendable, which it is not
all along every run: a condition on an integer bin can be applied without a value. -/
theorem answerable_iff (js : Builtins ν F) (py : Python F) (server : Server F) (target : Target) :
    (∀ es : List (Event F server), Always (step js py)
      (fun s : Page ν F =>
        (∃ (moment : Moment server) (result : FilterRecordsResult F),
            serve py moment (s.request js) = some result) ↔
          Sendable js py s.target.namespace_ s.target.set s.applied)
      (mount target) es) ∧
    ∃ (es : List (Event F server)) (s : Page ν F), run (step js py) (mount target) es = some s ∧
      s.applied.conditions = [newCondition 0 "age".toList .integer] ∧
      ∀ (moment : Moment server), serve py moment (s.request js) = none := by
  have hanswerable : ∀ es : List (Event F server), Always (step js py)
      (fun s : Page ν F =>
        (∃ (moment : Moment server) (result : FilterRecordsResult F),
            serve py moment (s.request js) = some result) ↔
          Sendable js py s.target.namespace_ s.target.set s.applied)
      (mount target) es := by
    intro es
    refine (always_inv_mounted target es).imp fun s hinv => ?_
    refine served_iff hinv.basic.applied.offered ?_
    have hsize := hinv.basic.pageSize
    simp only [pageSizeOptions, List.mem_cons, List.not_mem_nil, or_false] at hsize
    omega
  refine ⟨hanswerable, bareCondition target, ?_⟩
  obtain ⟨s, hrun, happlied⟩ : ∃ s : Page ν F,
      run (step js py) (mount target) (bareCondition target : List (Event F server)) = some s ∧
        s.applied = ⟨[], .exact, .and, [newCondition 0 "age".toList .integer]⟩ :=
    run_bareCondition target
  refine ⟨s, hrun, by rw [happlied], fun moment => ?_⟩
  by_contra hserved
  obtain ⟨result, hresult⟩ := Option.ne_none_iff_exists'.1 hserved
  have hsendable := ((hanswerable _).run hrun).1 ⟨moment, result, hresult⟩
  rw [happlied] at hsendable
  exact not_sendable_bare hsendable

/-! ### The note -/

/-- What is shown was read for the set of the page. -/
def OfPage (s : Page ν F) : Prop :=
  s.effectsPending = false → (∀ rows ∈ s.records, rows.target = s.target) ∧
    ∀ note ∈ s.setNote, note.target = s.target

/-- No note of another set comes in once the effects have run. -/
def NoteInTime (s : Page ν F) : Event F server → Prop
  | .notesRead i (some notes) => s.effectsPending = false → ∀ task ∈ s.noteTasks[i]?,
      (noteOf task.target notes).isSome → task.target = s.target
  | _ => True

/-- What an event does to the note. -/
def NoteStep (s s' : Page ν F) : Event F server → Prop
  | .navigate _ => s'.effectsPending = true
  | .effects => s'.setNote = none
  | .notesRead i (some notes) => ∃ target, s.noteTasks[i]? = some ⟨target, .reading⟩ ∧
      s'.setNote = noteOf target notes ∧ s'.target = s.target ∧
        s'.effectsPending = s.effectsPending
  | _ => s'.setNote = s.setNote ∧ s'.target = s.target ∧ s'.effectsPending = s.effectsPending

theorem target_of_noteOf {target : Target} {notes : List SetNote} {note : Sourced Str}
    (h : noteOf target notes = some note) : note.target = target := by
  obtain ⟨found, -, rfl⟩ := Option.map_eq_some_iff.1 h
  rfl

theorem note_resolved (s : Page ν F) (fetch : Fetch F) (result : FilterRecordsResult F) :
    (s.resolved fetch result).setNote = s.setNote ∧ (s.resolved fetch result).target = s.target ∧
      (s.resolved fetch result).effectsPending = s.effectsPending := by
  unfold Page.resolved
  split <;> exact ⟨rfl, rfl, rfl⟩

theorem note_rejected (s : Page ν F) (fetch : Fetch F) (message : String) :
    (s.rejected fetch message).setNote = s.setNote ∧ (s.rejected fetch message).target = s.target ∧
      (s.rejected fetch message).effectsPending = s.effectsPending := by
  unfold rejected
  split <;> exact ⟨rfl, rfl, rfl⟩

theorem noteStep_step {e : Event F server} (hs : step js py s e = some s') : NoteStep s s' e := by
  cases e with
  | edit e =>
    simp only [step] at hs
    split at hs
    · cases hs
    · obtain ⟨draft, -, rfl⟩ := Option.map_eq_some_iff.1 hs
      exact ⟨rfl, rfl, rfl⟩
  | navigate target =>
    simp only [step] at hs
    split at hs
    · cases hs
    · cases hs
      rfl
  | effects =>
    simp only [step] at hs
    split at hs
    · cases hs
      show (indexEffects (loadEffect js s)).setNote = none
      unfold indexEffects
      split <;> rfl
    · cases hs
  | answered seq moment message =>
    obtain ⟨fetch, -, rfl⟩ := Option.map_eq_some_iff.1 hs
    dsimp only
    split
    · exact note_resolved _ fetch _
    · exact note_rejected _ fetch message
  | failed seq message =>
    obtain ⟨fetch, -, rfl⟩ := Option.map_eq_some_iff.1 hs
    exact note_rejected _ fetch message
  | indexesRead effect indexes =>
    simp only [step] at hs
    split at hs
    · cases hs
      split <;> exact ⟨rfl, rfl, rfl⟩
    · cases hs
  | noteWritten i ok =>
    simp only [step] at hs
    split at hs
    · cases hs
      exact ⟨rfl, rfl, rfl⟩
    · cases hs
  | notesRead i notes =>
    simp only [step] at hs
    split at hs
    · rename_i target htask
      cases notes with
      | some notes =>
        cases hs
        exact ⟨target, htask, rfl, rfl, rfl⟩
      | none =>
        cases hs
        exact ⟨rfl, rfl, rfl⟩
    · cases hs
  | _ =>
    simp only [step] at hs
    split at hs
    · cases hs
    · cases hs
      exact ⟨rfl, rfl, rfl⟩

/-- The rows are always those of the page, so that only the note is left. -/
theorem ofPage_iff (hinv : Inv js py server s) : OfPage s ↔
    (s.effectsPending = false → ∀ note ∈ s.setNote, note.target = s.target) :=
  ⟨fun h hran => (h hran).2, fun h hran => ⟨(hinv.current hran).rows, h hran⟩⟩

theorem ofPage_step_iff {e : Event F server} (hinv : Inv js py server s) (h : OfPage s)
    (hs : step js py s e = some s') : OfPage s' ↔ NoteInTime s e := by
  rw [ofPage_iff (inv_step hinv hs)]
  have hnote := noteStep_step hs
  have hkeeps : s'.setNote = s.setNote ∧ s'.target = s.target ∧
      s'.effectsPending = s.effectsPending →
      s'.effectsPending = false → ∀ note ∈ s'.setNote, note.target = s'.target := by
    rintro ⟨hnote, htarget, hpending⟩ hran
    rw [hnote, htarget]
    exact (h (hpending ▸ hran)).2
  cases e with
  | navigate target =>
    have hpending : s'.effectsPending = true := hnote
    refine iff_of_true (fun hran => ?_) trivial
    rw [hpending] at hran
    cases hran
  | effects =>
    have hnone : s'.setNote = none := hnote
    rw [hnone]
    exact iff_of_true (fun _ => nofun) trivial
  | notesRead i notes =>
    cases notes with
    | none => exact iff_of_true (hkeeps hnote) trivial
    | some notes =>
      obtain ⟨target, htask, hfound, htarget, hpending⟩ := hnote
      simp only [NoteInTime, htask, hfound, htarget, hpending, Option.mem_def, Option.some.injEq,
        forall_eq']
      refine imp_congr_right fun _ => ?_
      cases hnotes : noteOf target notes with
      | none => exact iff_of_true nofun nofun
      | some note =>
        rw [← target_of_noteOf hnotes]
        simp
  | _ => exact iff_of_true (hkeeps hnote) trivial

/-- Along a run everything that is shown belongs to the set of the page exactly if no note of
another set comes in once the effects have run. -/
theorem of_page_iff (js : Builtins ν F) (py : Python F) (server : Server F) (target : Target)
    (es : List (Event F server)) :
    Always (step js py) (OfPage : Page ν F → Prop) (mount target) es ↔
      Guarded (step js py) NoteInTime (mount target : Page ν F) es :=
  always_iff_guarded (fun _ _ _ h hs => inv_step h hs)
    (fun _ _ _ hinv h hs => ofPage_step_iff hinv h hs) (inv_mount target) nofun

end ClusterManager.Ui.RecordBrowser
