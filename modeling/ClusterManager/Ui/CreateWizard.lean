import Mathlib.Data.List.MinMax
import ClusterManager.Lib.Machine
import ClusterManager.Ui.CreateForm

/-!
# The wizard for a new cluster

The wizard has one form, a step that is shown and the furthest step that was reached, and it may
wait for a template. A page of it writes only its own fields, but answers come at any time, and the
stepper goes to any step that was reached.

`checked_iff` says along which runs everything before the step that is shown has passed its checks,
`shown_iff` along which the form refers to the template that the review names.
-/

namespace ClusterManager.Ui.CreateWizard

open Machine

/-- `CreationMode`. -/
inductive CreationMode
  | scratch
  | template
  deriving DecidableEq

/-- `STEP_LABELS_SCRATCH` and `STEP_LABELS_TEMPLATE`. -/
def CreationMode.labels : CreationMode → List String
  | .scratch =>
      ["Creation Mode", "Basic & Resources", "Namespace & Storage", "Advanced", "Review"]
  | .template => ["Creation Mode", "Name & Namespace", "Namespace & Storage", "Review"]

/-- The component of a step. -/
inductive Page
  | creationMode
  | basic
  | namespaceStorage
  | advanced
  | review
  deriving DecidableEq

/-- The component that is rendered. -/
def page : CreationMode → ℕ → Page
  | .scratch, 0 => .creationMode
  | .scratch, 1 => .basic
  | .scratch, 2 => .namespaceStorage
  | .scratch, 3 => .advanced
  | .scratch, _ => .review
  | .template, 0 => .creationMode
  | .template, 1 => .basic
  | .template, 2 => .namespaceStorage
  | .template, _ => .review

/-! ### What the pages write -/

/-- `Number.parseInt(value, 10) || 1`; `none` is `NaN`. -/
def orOne (parsed : Option ℤ) : ℤ :=
  match parsed with
  | some n => if n = 0 then 1 else n
  | none => 1

/-- A change on `StepBasic`. -/
inductive BasicEdit
  | name (value : String)
  | namespace_ (value : String)
  | workspaceId (value : String)
  | autoConnect (checked : Bool)
  | size (parsed : Option ℤ)
  | image (value : String)
  | cpuRequest (value : String)
  | cpuLimit (value : String)
  | memoryRequest (value : String)
  | memoryLimit (value : String)

/-- What `StepBasic` still shows in `templateMode`. -/
def BasicEdit.inTemplateMode : BasicEdit → Bool
  | .name _ | .namespace_ _ | .workspaceId _ | .autoConnect _ => true
  | _ => false

/-- `updateForm` of `StepBasic`. -/
def basicEdit (form : CreateForm) (edit : BasicEdit) : CreateForm :=
  let requests := (form.resources.bind (·.requests)).getD ⟨some "500m", some "1Gi"⟩
  let limits := (form.resources.bind (·.limits)).getD ⟨some "2", some "4Gi"⟩
  match edit with
  | .name value => { form with name := value }
  | .namespace_ value => { form with namespace_ := value }
  | .workspaceId value => { form with workspaceId := some value }
  | .autoConnect checked => { form with autoConnect := checked }
  | .size parsed => { form with size := orOne parsed }
  | .image value => { form with image := value }
  | .cpuRequest value =>
      { form with resources := some ⟨some { requests with cpu := value }, some limits⟩ }
  | .cpuLimit value =>
      { form with resources := some ⟨some requests, some { limits with cpu := value }⟩ }
  | .memoryRequest value =>
      { form with resources := some ⟨some { requests with memory := value }, some limits⟩ }
  | .memoryLimit value =>
      { form with resources := some ⟨some requests, some { limits with memory := value }⟩ }

/-- `defaultMemoryNamespace`. -/
def defaultMemoryNamespace (clusterSize : ℤ) (index : ℕ) : AerospikeNamespaceConfig Json where
  name := if index = 0 then "test" else "ns-" ++ toString (index + 1)
  replicationFactor := some (min 2 (max 1 clusterSize))
  storageEngine := some (.obj [("type", .str "memory"), ("dataSize", .num 1073741824)])

/-- The `namespaces` of `StepNamespaceStorage`. -/
def namespaces (form : CreateForm) : List (AerospikeNamespaceConfig Json) :=
  if form.namespaces = [] then [defaultMemoryNamespace form.size 0] else form.namespaces

/-- `legacyStorage`. -/
def legacyStorage (form : CreateForm) : Json :=
  match form.storage with
  | some storage =>
      if (storage.fields.map Prod.fst).contains "volumes" then defaultStorage else storage
  | none => defaultStorage
where
  defaultStorage : Json := .obj [
    ("storageClass", .str "standard"), ("size", .str "10Gi"),
    ("mountPath", .str "/opt/aerospike/data")]

/-- A change on `StepNamespaceStorage`. -/
inductive NamespaceEdit
  | name (i : ℕ) (value : String)
  | replicationFactor (i : ℕ) (parsed : Option ℤ)
  | storageEngine (i : ℕ) (value : Json)
  | addNamespace
  | removeNamespace (i : ℕ)
  /-- One of the texts of the volume. -/
  | storage (key value : String)

/-- `updateForm` of `StepNamespaceStorage`. -/
def namespaceEdit (form : CreateForm) : NamespaceEdit → CreateForm
  | .name i value =>
      { form with namespaces := (namespaces form).modify i ({ · with name := value }) }
  | .replicationFactor i parsed =>
      { form with
        namespaces :=
          (namespaces form).modify i ({ · with replicationFactor := some (orOne parsed) }) }
  | .storageEngine i value =>
      { form with
        namespaces := (namespaces form).modify i ({ · with storageEngine := some value }) }
  | .addNamespace =>
      if maxCeNamespaces ≤ (namespaces form).length then form
      else { form with
        namespaces :=
          namespaces form ++ [defaultMemoryNamespace form.size (namespaces form).length] }
  | .removeNamespace i =>
      if (namespaces form).length ≤ 1 then form
      else { form with namespaces := (namespaces form).eraseIdx i }
  | .storage key value =>
      { form with storage := some (.obj (Dict.set (legacyStorage form).fields key (.str value))) }

/-! ### The wizard -/

/-- The state of the wizard, and the requests it waits for. -/
structure Wizard where
  mode : CreationMode := .scratch
  step : ℕ := 0
  maxReachedStep : ℕ := 0
  form : CreateForm
  templates : List String := []
  selectedTemplateName : Option String := none
  templateLoading : Bool := false
  templateError : Option String := none
  /-- `getK8sTemplate` without an answer. -/
  loads : List String := []
  /-- `listK8sNamespaces` and `listK8sTemplates` are without an answer. -/
  listingNamespaces : Bool := true
  listingTemplates : Bool := true

/-- The first render. -/
def mount (currentWorkspaceId : String) : Wizard where
  form := { workspaceId := some currentWorkspaceId }

/-- `stepError` of a step. -/
def errorOf (mode : CreationMode) (selectedTemplateName : Option String) (form : CreateForm)
    (step : ℕ) : Option String :=
  match mode, step with
  | .scratch, 1 => form.basicError
  | .scratch, 2 => form.namespacesError
  | .template, 0 => errorIf (selectedTemplateName.getD "" = "") "Select a template to continue"
  | .template, 1 => form.nameError
  | .template, 2 => form.namespacesError
  | _, _ => none

namespace Wizard

/-- The error of a step, whether it is shown or not. -/
def errorAt (w : Wizard) (step : ℕ) : Option String :=
  errorOf w.mode w.selectedTemplateName w.form step

/-- `stepError`. -/
def stepError (w : Wizard) : Option String := w.errorAt w.step

/-- `handleModeChange`. -/
def handleModeChange (w : Wizard) (next : CreationMode) : Wizard :=
  { w with
    mode := next
    selectedTemplateName := if next = .scratch then none else w.selectedTemplateName
    form :=
      if next = .scratch then { w.form with templateRef := none, templateOverrides := none }
      else w.form
    step := 0
    maxReachedStep := 0 }

/-- `handleSelectTemplate`, up to its `await`. -/
def handleSelectTemplate (w : Wizard) (name : String) : Wizard :=
  { w with
    selectedTemplateName := some name
    templateLoading := true
    templateError := none
    loads := w.loads ++ [name] }

/-- `handleSelectTemplate`, once the template is there. -/
def templateLoaded (w : Wizard) (name : String) (spec : Json) : Wizard :=
  { w with form := w.form.withTemplate spec name, templateLoading := false }

/-- `handleSelectTemplate`, once the request has failed. -/
def templateFailed (w : Wizard) (name message : String) : Wizard :=
  { w with
    templateError := some ("Failed to load template \"" ++ name ++ "\": " ++ message)
    templateLoading := false }

/-- `listK8sNamespaces` has its answer. -/
def namespacesListed (w : Wizard) (list : List String) : Wizard :=
  { w with
    listingNamespaces := false
    form :=
      if w.form.namespace_ ≠ "" then w.form
      else { w.form with
        namespace_ := if list.contains "default" then "default" else list.head?.getD "" } }

/-- `goNext`. -/
def goNext (w : Wizard) : Wizard :=
  { w with step := w.step + 1, maxReachedStep := max w.maxReachedStep (w.step + 1) }

/-- A load has its answer. -/
def answered (w : Wizard) (i : ℕ) : Wizard := { w with loads := w.loads.eraseIdx i }

/-- `isLastStep`. -/
def isLastStep (w : Wizard) : Bool := w.step = w.mode.labels.length - 1

end Wizard

/-- What can happen while the wizard is open. -/
inductive Event
  | modeChange (next : CreationMode)
  | selectTemplate (name : String)
  | basic (edit : BasicEdit)
  | namespaces (edit : NamespaceEdit)
  | advanced (key : String) (value : Json)
  | monitoring (value : Json)
  | goNext
  | goBack
  | goTo (i : ℕ)
  /-- The answers. -/
  | templateLoaded (i : ℕ) (spec : Json)
  | templateFailed (i : ℕ) (message : String)
  | namespacesListed (list : List String)
  | templatesListed (templates : List String)
  /-- The workspace is switched in the sidebar. -/
  | workspace (currentWorkspaceId : String)

/-- One event. `none`: the page that is shown does not offer it, or nothing waits for it. -/
def step (w : Wizard) : Event → Option Wizard
  | .modeChange next =>
      if page w.mode w.step = .creationMode then some (w.handleModeChange next) else none
  -- The list of templates is not shown while one is loading.
  | .selectTemplate name =>
      if page w.mode w.step = .creationMode ∧ w.mode = .template ∧ w.templateLoading = false ∧
          name ∈ w.templates then
        some (w.handleSelectTemplate name)
      else none
  | .basic edit =>
      if page w.mode w.step = .basic ∧ (w.mode = .scratch ∨ edit.inTemplateMode) then
        some { w with form := basicEdit w.form edit }
      else none
  | .namespaces edit =>
      if page w.mode w.step = .namespaceStorage then
        some { w with form := namespaceEdit w.form edit }
      else none
  | .advanced key value =>
      if page w.mode w.step = .advanced then
        some { w with form := { w.form with advanced := Dict.set w.form.advanced key value } }
      else none
  | .monitoring value =>
      if page w.mode w.step = .advanced then
        some { w with form := { w.form with monitoring := some value } }
      else none
  | .goNext => if !w.isLastStep ∧ w.stepError = none then some w.goNext else none
  -- At the first step `goBack` leaves the wizard.
  | .goBack => if w.step = 0 then none else some { w with step := w.step - 1 }
  | .goTo i => if i ≤ w.maxReachedStep then some { w with step := i } else none
  | .templateLoaded i spec => w.loads[i]?.map fun name => (w.answered i).templateLoaded name spec
  | .templateFailed i message =>
      w.loads[i]?.map fun name => (w.answered i).templateFailed name message
  | .namespacesListed list => if w.listingNamespaces then some (w.namespacesListed list) else none
  | .templatesListed templates =>
      if w.listingTemplates then some { w with templates := templates, listingTemplates := false }
      else none
  | .workspace currentWorkspaceId =>
      some { w with form := { w.form with workspaceId := some currentWorkspaceId } }

/-! ### What has to hold -/

/-- Every step before the one that is shown passes its check. -/
def Checked (w : Wizard) : Prop := ∀ i < w.step, w.errorAt i = none

/-- The stepper jumps over no step that fails. A template that comes late passes with the form it
makes: the check of the basics where scratch has left that step behind, and the replication factors
fit the size where the namespaces are left behind. -/
def InOrder (w : Wizard) : Event → Prop
  | .goTo i => ∀ j, w.step ≤ j → j < i → w.errorAt j = none
  | .templateLoaded i spec => ∀ name, w.loads[i]? = some name →
      (w.mode = .scratch → 1 < w.step → (w.form.withTemplate spec name).basicError = none) ∧
        (2 < w.step → ∀ ns ∈ w.form.namespaces, ns.rf ≤ (w.form.withTemplate spec name).size)
  | _ => True

/-- Where no answer is missing, the form refers to the template that the review names. -/
def Shown (w : Wizard) : Prop :=
  w.loads = [] → w.form.templateRef = w.selectedTemplateName

/-- A template comes while it is still selected. Where a request fails, for whichever template, the
form refers to the one that is selected, and to none where none is. -/
def Answered (w : Wizard) : Event → Prop
  | .templateLoaded i _ => ∀ name, w.loads[i]? = some name → w.selectedTemplateName = some name
  | .templateFailed _ _ => w.loads ≠ [] → w.form.templateRef = w.selectedTemplateName
  | _ => True

/-- What every run keeps: the steps that were reached, a template before the second step of its mode
and none in the other mode, one load at a time, and one or two namespaces. -/
structure Inv (w : Wizard) : Prop where
  step_le : w.step ≤ w.maxReachedStep
  reached : w.maxReachedStep < w.mode.labels.length
  scratch : w.mode = .scratch → w.selectedTemplateName = none
  selected : w.mode = .template → 0 < w.maxReachedStep → w.selectedTemplateName ≠ none
  loads : w.loads.length ≤ 1
  loading : w.templateLoading = !w.loads.isEmpty
  namespaces : 1 ≤ w.form.namespaces.length ∧ w.form.namespaces.length ≤ maxCeNamespaces

variable {w w' : Wizard}

/-! ### What the pages change -/

theorem page_eq_creationMode {mode : CreationMode} {i : ℕ} (h : page mode i = .creationMode) :
    i = 0 := by
  unfold page at h
  split at h <;> first | rfl | cases h

theorem page_eq_basic {mode : CreationMode} {i : ℕ} (h : page mode i = .basic) : i = 1 := by
  unfold page at h
  split at h <;> first | rfl | cases h

theorem page_eq_namespaceStorage {mode : CreationMode} {i : ℕ}
    (h : page mode i = .namespaceStorage) : i = 2 := by
  unfold page at h
  split at h <;> first | rfl | cases h

/-- `StepBasic` leaves the namespaces and the template alone. -/
theorem basicEdit_frame (form : CreateForm) (edit : BasicEdit) :
    (basicEdit form edit).namespaces = form.namespaces ∧
      (basicEdit form edit).templateRef = form.templateRef := by
  cases edit <;> exact ⟨rfl, rfl⟩

/-- `StepNamespaceStorage` writes the namespaces and the storage. -/
theorem namespaceEdit_eq (form : CreateForm) (edit : NamespaceEdit) : ∃ namespaces storage,
    namespaceEdit form edit = { form with namespaces := namespaces, storage := storage } := by
  cases edit with
  | addNamespace =>
    simp only [namespaceEdit]
    split <;> exact ⟨_, _, rfl⟩
  | removeNamespace i =>
    simp only [namespaceEdit]
    split <;> exact ⟨_, _, rfl⟩
  | _ => exact ⟨_, _, rfl⟩

theorem namespaces_of_pos {form : CreateForm} (h : 1 ≤ form.namespaces.length) :
    namespaces form = form.namespaces := by
  unfold namespaces
  rw [if_neg (List.length_pos_iff.1 h)]

/-- There are always one or two namespaces. -/
theorem namespaceEdit_length {form : CreateForm} (edit : NamespaceEdit)
    (h : 1 ≤ form.namespaces.length ∧ form.namespaces.length ≤ maxCeNamespaces) :
    1 ≤ (namespaceEdit form edit).namespaces.length ∧
      (namespaceEdit form edit).namespaces.length ≤ maxCeNamespaces := by
  have hsame := namespaces_of_pos h.1
  cases edit with
  | addNamespace =>
    simp only [namespaceEdit]
    split
    · exact h
    next hfull =>
      rw [hsame] at hfull ⊢
      simp only [List.length_append, List.length_singleton]
      omega
  | removeNamespace i =>
    simp only [namespaceEdit]
    split
    · exact h
    next hlast =>
      rw [hsame] at hlast ⊢
      have hle := List.length_eraseIdx_le form.namespaces i
      have hge := List.le_length_eraseIdx form.namespaces i
      dsimp only
      omega
  | storage key value => exact h
  | _ => simpa only [namespaceEdit, List.length_modify, hsame] using h

/-- An answer about the namespaces changes nothing once there is one. -/
theorem namespacesListed_of_given (list : List String) (h : w.form.namespace_ ≠ "") :
    (w.namespacesListed list).form = w.form := by
  unfold Wizard.namespacesListed
  rw [if_pos h]

theorem namespacesListed_frame {list : List String} :
    (w.namespacesListed list).form.namespaces = w.form.namespaces ∧
      (w.namespacesListed list).form.templateRef = w.form.templateRef := by
  unfold Wizard.namespacesListed
  dsimp only
  split <;> exact ⟨rfl, rfl⟩

/-! ### Steps, one by one -/

/-- `some` of an `if` that holds. -/
theorem of_guard {p : Prop} [Decidable p] {x : Wizard}
    (h : (if p then some x else none) = some w') :
    p ∧ w' = x := by
  split at h
  next hp =>
    cases h
    exact ⟨hp, rfl⟩
  next => cases h

section Errors

variable {mode : CreationMode} {selected : Option String} {form form' : CreateForm}

/-- The first step does not look at the form. -/
theorem errorOf_zero : errorOf mode selected form 0 = errorOf mode selected form' 0 := by
  cases mode <;> rfl

theorem errorOf_one_scratch : errorOf .scratch selected form 1 = form.basicError := rfl

theorem errorOf_two : errorOf mode selected form 2 = form.namespacesError := by
  cases mode <;> rfl

theorem errorOf_three (i : ℕ) : errorOf mode selected form (i + 3) = none := by
  cases mode <;> rfl

/-- Both modes ask for a namespace in the second step. -/
theorem namespace_of_errorOf_one (h : errorOf mode selected form 1 = none) :
    form.namespace_ ≠ "" := by
  have hname : form.nameError = none := by
    cases mode with
    | scratch =>
      rw [errorOf_one_scratch, CreateForm.basicError] at h
      simp only [Option.or_eq_none_iff] at h
      tauto
    | template => exact h
  rw [CreateForm.nameError, Option.or_eq_none_iff, errorIf_eq_none] at hname
  exact of_decide_eq_false hname.2

end Errors

/-- A form that is changed within the bounds of the invariant. -/
theorem Inv.withForm (hinv : Inv w) {form : CreateForm}
    (hnamespaces : 1 ≤ form.namespaces.length ∧ form.namespaces.length ≤ maxCeNamespaces) :
    Inv { w with form := form } :=
  ⟨hinv.step_le, hinv.reached, hinv.scratch, hinv.selected, hinv.loads, hinv.loading, hnamespaces⟩

theorem inv_goNext (hinv : Inv w) (hlast : w.isLastStep = false) (herror : w.stepError = none) :
    Inv w.goNext := by
  have hlast : w.step ≠ w.mode.labels.length - 1 := by simpa [Wizard.isLastStep] using hlast
  have hstep := hinv.step_le
  have hreached := hinv.reached
  refine ⟨le_max_right _ _, ?_, hinv.scratch, fun hmode _ => ?_, hinv.loads, hinv.loading,
    hinv.namespaces⟩
  · show max w.maxReachedStep (w.step + 1) < w.mode.labels.length
    omega
  · by_cases hzero : w.step = 0
    · intro hnone
      have hnone : w.selectedTemplateName = none := hnone
      rw [Wizard.stepError, Wizard.errorAt, hzero, show w.mode = .template from hmode,
        hnone] at herror
      cases herror
    · exact hinv.selected hmode (by omega)

theorem inv_handleModeChange (hinv : Inv w) (next : CreationMode) :
    Inv (w.handleModeChange next) := by
  refine ⟨Nat.le_refl 0, ?_, fun hmode => ?_, nofun, hinv.loads, hinv.loading, ?_⟩
  · show 0 < next.labels.length
    cases next <;> decide
  · exact if_pos hmode
  · have hsame : (w.handleModeChange next).form.namespaces = w.form.namespaces := by
      unfold Wizard.handleModeChange
      dsimp only
      split <;> rfl
    rw [hsame]
    exact hinv.namespaces

/-- The only load is answered. -/
theorem answered_loads (hinv : Inv w) {i : ℕ} {name : String} (hload : w.loads[i]? = some name) :
    w.loads = [name] ∧ (w.answered i).loads = [] := by
  obtain ⟨hlt, hname⟩ := List.getElem?_eq_some_iff.1 hload
  have hone : w.loads.length = 1 := by have := hinv.loads; omega
  obtain ⟨a, ha⟩ := List.length_eq_one_iff.1 hone
  have hzero : i = 0 := by omega
  subst hzero
  simp only [ha, List.getElem_cons_zero] at hname
  exact ⟨by rw [ha, hname], by simp [Wizard.answered, ha]⟩

theorem inv_answered (hinv : Inv w) {i : ℕ} {name : String} (hload : w.loads[i]? = some name) :
    Inv { w.answered i with templateLoading := false } := by
  obtain ⟨-, hnone⟩ := answered_loads hinv hload
  refine ⟨hinv.step_le, hinv.reached, hinv.scratch, hinv.selected, ?_, ?_, hinv.namespaces⟩
  · show (w.answered i).loads.length ≤ 1
    rw [hnone]
    exact Nat.zero_le 1
  · show false = !(w.answered i).loads.isEmpty
    rw [hnone]
    rfl

theorem inv_step (e : Event) (hinv : Inv w) (hstep : step w e = some w') : Inv w' := by
  cases e with
  | modeChange next =>
    obtain ⟨-, rfl⟩ := of_guard hstep
    exact inv_handleModeChange hinv next
  | selectTemplate name =>
    obtain ⟨⟨hpage, hmode, hloading, -⟩, rfl⟩ := of_guard hstep
    have hnone : w.loads = [] := by simpa [hloading] using hinv.loading
    refine ⟨hinv.step_le, hinv.reached, fun h => ?_, fun _ hreached => ?_, ?_, ?_, hinv.namespaces⟩
    · exact absurd (hmode.symm.trans h) nofun
    · exact nofun
    · simp [Wizard.handleSelectTemplate, hnone]
    · simp [Wizard.handleSelectTemplate]
  | basic edit =>
    obtain ⟨-, rfl⟩ := of_guard hstep
    refine hinv.withForm ?_
    rw [(basicEdit_frame w.form edit).1]
    exact hinv.namespaces
  | namespaces edit =>
    obtain ⟨-, rfl⟩ := of_guard hstep
    exact hinv.withForm (namespaceEdit_length edit hinv.namespaces)
  | advanced key value =>
    obtain ⟨-, rfl⟩ := of_guard hstep
    exact hinv.withForm hinv.namespaces
  | monitoring value =>
    obtain ⟨-, rfl⟩ := of_guard hstep
    exact hinv.withForm hinv.namespaces
  | goNext =>
    obtain ⟨⟨hlast, herror⟩, rfl⟩ := of_guard hstep
    exact inv_goNext hinv (by simpa using hlast) herror
  | goBack =>
    simp only [step] at hstep
    split at hstep
    · cases hstep
    · cases hstep
      exact ⟨(Nat.sub_le _ _).trans hinv.step_le, hinv.reached, hinv.scratch, hinv.selected,
        hinv.loads, hinv.loading, hinv.namespaces⟩
  | goTo i =>
    obtain ⟨hle, rfl⟩ := of_guard hstep
    exact ⟨hle, hinv.reached, hinv.scratch, hinv.selected, hinv.loads, hinv.loading,
      hinv.namespaces⟩
  | templateLoaded i spec =>
    obtain ⟨name, hload, rfl⟩ := Option.map_eq_some_iff.1 hstep
    exact (inv_answered hinv hload).withForm hinv.namespaces
  | templateFailed i message =>
    obtain ⟨name, hload, rfl⟩ := Option.map_eq_some_iff.1 hstep
    have hanswered := inv_answered hinv hload
    exact ⟨hinv.step_le, hinv.reached, hinv.scratch, hinv.selected, hanswered.loads,
      hanswered.loading, hinv.namespaces⟩
  | namespacesListed list =>
    obtain ⟨-, rfl⟩ := of_guard hstep
    refine ⟨hinv.step_le, hinv.reached, hinv.scratch, hinv.selected, hinv.loads, hinv.loading, ?_⟩
    rw [namespacesListed_frame.1]
    exact hinv.namespaces
  | templatesListed templates =>
    obtain ⟨-, rfl⟩ := of_guard hstep
    exact ⟨hinv.step_le, hinv.reached, hinv.scratch, hinv.selected, hinv.loads, hinv.loading,
      hinv.namespaces⟩
  | workspace currentWorkspaceId =>
    cases hstep
    exact hinv.withForm hinv.namespaces

/-! ### Checks and answers -/

/-- The check of the namespaces after a change of the size. -/
theorem validateNamespaces_size {l : List (AerospikeNamespaceConfig Json)} {a b : ℤ}
    (h : validateNamespaces l a = none) : validateNamespaces l b = none ↔ ∀ ns ∈ l, ns.rf ≤ b := by
  unfold validateNamespaces at h ⊢
  dsimp only at h ⊢
  split at h
  · cases h
  next hzero =>
    rw [if_neg hzero]
    split at h
    · cases h
    next hcount =>
      rw [if_neg hcount]
      split at h
      · cases h
      next hnames =>
        rw [if_neg hnames]
        split at h
        · cases h
        next hunique =>
          rw [if_neg hunique, List.findSome?_eq_none_iff]
          refine forall₂_congr fun ns _ => ?_
          constructor
          · intro hnone
            by_contra hrf
            rw [if_pos (not_le.1 hrf)] at hnone
            cases hnone
          · intro hrf
            rw [if_neg (not_lt.2 hrf)]

theorem Checked.goNext (h : Checked w) (herror : w.stepError = none) : Checked w.goNext := by
  intro i hi
  have hi : i < w.step + 1 := hi
  by_cases hlt : i < w.step
  · exact h i hlt
  · have : i = w.step := by omega
    rw [this]
    exact herror

/-- Going to another step keeps the checks exactly if no step in between fails. -/
theorem Checked.goTo_iff (h : Checked w) {i : ℕ} :
    Checked { w with step := i } ↔ InOrder w (.goTo i) := by
  constructor
  · intro hto j _ hj
    exact hto j hj
  · intro hbetween j hj
    by_cases hlt : j < w.step
    · exact h j hlt
    · exact hbetween j (by omega) hj

/-- A template keeps the checks exactly if it passes the steps that were left behind. -/
theorem Checked.templateLoaded_iff (h : Checked w) {i : ℕ} {name : String} {spec : Json}
    (hload : w.loads[i]? = some name) :
    Checked ((w.answered i).templateLoaded name spec) ↔ InOrder w (.templateLoaded i spec) := by
  have hguard : InOrder w (.templateLoaded i spec) ↔
      (w.mode = .scratch → 1 < w.step → (w.form.withTemplate spec name).basicError = none) ∧
        (2 < w.step → ∀ ns ∈ w.form.namespaces, ns.rf ≤ (w.form.withTemplate spec name).size) := by
    simp only [InOrder, hload, Option.some.injEq, forall_eq']
  rw [hguard]
  have hnamespaces : 2 < w.step → (((w.answered i).templateLoaded name spec).errorAt 2 = none ↔
      ∀ ns ∈ w.form.namespaces, ns.rf ≤ (w.form.withTemplate spec name).size) := by
    intro hpassed
    have hbefore : w.form.namespacesError = none := errorOf_two.symm.trans (h 2 hpassed)
    rw [Wizard.errorAt, errorOf_two]
    exact validateNamespaces_size hbefore
  constructor
  · intro hchecked
    refine ⟨fun hmode hpassed => ?_, fun hpassed => (hnamespaces hpassed).1 (hchecked 2 hpassed)⟩
    have hone := hchecked 1 hpassed
    rwa [Wizard.errorAt, show ((w.answered i).templateLoaded name spec).mode = _ from hmode] at hone
  · rintro ⟨hbasic, hrf⟩ j hj
    match j with
    | 0 => exact errorOf_zero.trans (h 0 hj)
    | 1 =>
      show errorOf w.mode w.selectedTemplateName _ 1 = none
      cases hmode : w.mode with
      | scratch => exact hbasic hmode hj
      -- With a template only the name and the namespace count here, and a template brings neither.
      | template =>
        have hone := h 1 hj
        rwa [Wizard.errorAt, hmode] at hone
    | 2 => exact (hnamespaces hj).2 (hrf hj)
    | j + 3 => exact errorOf_three j

/-- `StepBasic` is the second step, and only the first is before it. -/
theorem Checked.basic (h : Checked w) {form : CreateForm} (hstep : w.step = 1) :
    Checked { w with form := form } := by
  intro i (hi : i < w.step)
  obtain rfl : i = 0 := by omega
  exact errorOf_zero.trans (h 0 hi)

/-- What the first two steps check is not on the page after them. -/
theorem Checked.namespaceStorage (h : Checked w) {form : CreateForm} (hstep : w.step = 2)
    (hname : form.nameError = w.form.nameError) (hbasic : form.basicError = w.form.basicError) :
    Checked { w with form := form } := by
  intro i (hi : i < w.step)
  rw [hstep] at hi
  match i with
  | 0 => exact errorOf_zero.trans (h 0 (by omega))
  | 1 =>
    have hone := h 1 (by omega)
    show errorOf w.mode w.selectedTemplateName form 1 = none
    rw [Wizard.errorAt] at hone
    cases hmode : w.mode with
    | scratch =>
      rw [hmode] at hone
      exact hbasic.trans hone
    | template =>
      rw [hmode] at hone
      exact hname.trans hone

/-- A change that no check looks at. -/
theorem Checked.same (h : Checked w) (hmode : w'.mode = w.mode) (hstep : w'.step = w.step)
    (hselected : w'.selectedTemplateName = w.selectedTemplateName)
    (hname : w'.form.nameError = w.form.nameError) (hbasic : w'.form.basicError = w.form.basicError)
    (hnamespaces : w'.form.namespacesError = w.form.namespacesError) : Checked w' := by
  intro i hi
  have hbefore := h i (hstep ▸ hi)
  unfold Wizard.errorAt errorOf at hbefore ⊢
  rw [hmode, hselected, hname, hbasic, hnamespaces]
  exact hbefore

theorem Checked.namespacesListed (h : Checked w) {list : List String} :
    Checked (w.namespacesListed list) := by
  by_cases hgiven : w.form.namespace_ ≠ ""
  · have hform := namespacesListed_of_given list hgiven
    exact h.same rfl rfl rfl (by rw [hform]) (by rw [hform]) (by rw [hform])
  -- Without a namespace the second step was not passed.
  · have hstep : w.step ≤ 1 := by
      by_contra hpassed
      exact hgiven (namespace_of_errorOf_one (h 1 (by omega)))
    intro i (hi : i < w.step)
    obtain rfl : i = 0 := by omega
    exact errorOf_zero.trans (h 0 hi)

/-- Only the stepper and a late template can leave a failed step behind. -/
theorem checked_step (e : Event) (h : Checked w) (hstep : step w e = some w') :
    Checked w' ↔ InOrder w e := by
  cases e with
  | modeChange next =>
    obtain ⟨-, rfl⟩ := of_guard hstep
    exact iff_of_true (fun i hi => absurd hi (Nat.not_lt_zero i)) trivial
  | selectTemplate name =>
    obtain ⟨⟨hpage, -⟩, rfl⟩ := of_guard hstep
    have hzero := page_eq_creationMode hpage
    refine iff_of_true (fun i (hi : i < w.step) => ?_) trivial
    omega
  | basic edit =>
    obtain ⟨⟨hpage, -⟩, rfl⟩ := of_guard hstep
    exact iff_of_true (h.basic (page_eq_basic hpage)) trivial
  | namespaces edit =>
    obtain ⟨hpage, rfl⟩ := of_guard hstep
    obtain ⟨namespaces, storage, hform⟩ := namespaceEdit_eq w.form edit
    rw [hform]
    exact iff_of_true (h.namespaceStorage (page_eq_namespaceStorage hpage) rfl rfl) trivial
  | advanced key value =>
    obtain ⟨-, rfl⟩ := of_guard hstep
    exact iff_of_true (h.same rfl rfl rfl rfl rfl rfl) trivial
  | monitoring value =>
    obtain ⟨-, rfl⟩ := of_guard hstep
    exact iff_of_true (h.same rfl rfl rfl rfl rfl rfl) trivial
  | goNext =>
    obtain ⟨⟨-, herror⟩, rfl⟩ := of_guard hstep
    exact iff_of_true (h.goNext herror) trivial
  | goBack =>
    simp only [step] at hstep
    split at hstep
    · cases hstep
    · cases hstep
      refine iff_of_true (fun i (hi : i < w.step - 1) => ?_) trivial
      exact h i (by omega)
  | goTo i =>
    obtain ⟨-, rfl⟩ := of_guard hstep
    exact h.goTo_iff
  | templateLoaded i spec =>
    obtain ⟨name, hload, rfl⟩ := Option.map_eq_some_iff.1 hstep
    exact h.templateLoaded_iff hload
  | templateFailed i message =>
    obtain ⟨name, -, rfl⟩ := Option.map_eq_some_iff.1 hstep
    exact iff_of_true (h.same rfl rfl rfl rfl rfl rfl) trivial
  | namespacesListed list =>
    obtain ⟨-, rfl⟩ := of_guard hstep
    exact iff_of_true h.namespacesListed trivial
  | templatesListed templates =>
    obtain ⟨-, rfl⟩ := of_guard hstep
    exact iff_of_true (h.same rfl rfl rfl rfl rfl rfl) trivial
  | workspace currentWorkspaceId =>
    cases hstep
    exact iff_of_true (h.same rfl rfl rfl rfl rfl rfl) trivial

/-- A change that leaves the template alone. -/
theorem Shown.same (h : Shown w) (hloads : w'.loads = w.loads)
    (href : w'.form.templateRef = w.form.templateRef)
    (hselected : w'.selectedTemplateName = w.selectedTemplateName) : Shown w' := by
  intro hnone
  rw [href, hselected]
  exact h (hloads ▸ hnone)

theorem Shown.handleModeChange (h : Shown w) (next : CreationMode) :
    Shown (w.handleModeChange next) := by
  cases next with
  | scratch => exact fun _ => rfl
  | template => exact h.same rfl rfl rfl

/-- Only an answer that nobody waits for any more changes what the form refers to. -/
theorem shown_step (e : Event) (hinv : Inv w) (h : Shown w) (hstep : step w e = some w') :
    Shown w' ↔ Answered w e := by
  cases e with
  | modeChange next =>
    obtain ⟨-, rfl⟩ := of_guard hstep
    exact iff_of_true (h.handleModeChange next) trivial
  | selectTemplate name =>
    obtain ⟨-, rfl⟩ := of_guard hstep
    refine iff_of_true (fun hnone => ?_) trivial
    simp [Wizard.handleSelectTemplate] at hnone
  | basic edit =>
    obtain ⟨-, rfl⟩ := of_guard hstep
    exact iff_of_true (h.same rfl (basicEdit_frame w.form edit).2 rfl) trivial
  | namespaces edit =>
    obtain ⟨-, rfl⟩ := of_guard hstep
    obtain ⟨namespaces, storage, hform⟩ := namespaceEdit_eq w.form edit
    rw [hform]
    exact iff_of_true (h.same rfl rfl rfl) trivial
  | templateLoaded i spec =>
    obtain ⟨name, hload, rfl⟩ := Option.map_eq_some_iff.1 hstep
    obtain ⟨-, hnone⟩ := answered_loads hinv hload
    simp only [Answered, hload, Option.some.injEq, forall_eq']
    constructor
    · intro hshown
      exact (hshown hnone).symm
    · intro hselected _
      exact hselected.symm
  | templateFailed i message =>
    obtain ⟨name, hload, rfl⟩ := Option.map_eq_some_iff.1 hstep
    obtain ⟨hloads, hnone⟩ := answered_loads hinv hload
    constructor
    · intro hshown _
      exact hshown hnone
    · intro hanswered _
      exact hanswered (by simp [hloads])
  | namespacesListed list =>
    obtain ⟨-, rfl⟩ := of_guard hstep
    exact iff_of_true (h.same rfl namespacesListed_frame.2 rfl) trivial
  | goBack =>
    simp only [step] at hstep
    split at hstep
    · cases hstep
    · cases hstep
      exact iff_of_true (h.same rfl rfl rfl) trivial
  | workspace currentWorkspaceId =>
    cases hstep
    exact iff_of_true (h.same rfl rfl rfl) trivial
  | _ =>
    obtain ⟨-, rfl⟩ := of_guard hstep
    exact iff_of_true (h.same rfl rfl rfl) trivial

/-! ### Runs -/

theorem inv_mount (currentWorkspaceId : String) : Inv (mount currentWorkspaceId) :=
  ⟨Nat.le_refl 0, Nat.zero_lt_succ 4, fun _ => rfl, nofun, Nat.zero_le 1, rfl, Nat.le_refl 1,
    Nat.le_succ 1⟩

/-- In every run the step is one of its mode and was reached, in template mode no step after the
first is reached without a template selected and in scratch mode none is selected, one template
loads at a time, and there are one or two namespaces. -/
theorem always_inv_of_mount (currentWorkspaceId : String) (es : List Event) :
    Always step Inv (mount currentWorkspaceId) es :=
  always_of_step (fun _ e _ hinv hstep => inv_step e hinv hstep) (inv_mount currentWorkspaceId)

/-- What is behind the step that is shown has passed its checks all along a run exactly if no step
of the stepper jumps over one that fails and every template that comes late passes the steps already
left behind. -/
theorem checked_iff (currentWorkspaceId : String) (es : List Event) :
    Always step Checked (mount currentWorkspaceId) es ↔
      Guarded step InOrder (mount currentWorkspaceId) es :=
  always_iff_guarded (J := fun _ => True) (fun _ _ _ _ _ => trivial)
    (fun _ e _ _ h hstep => checked_step e h hstep) trivial
    (fun i hi => absurd hi (Nat.not_lt_zero i))

/-- Whenever no answer is missing, the form refers to the template that the review names, exactly if
every template comes while it is still selected and the form refers to the selected one wherever a
request fails. -/
theorem shown_iff (currentWorkspaceId : String) (es : List Event) :
    Always step Shown (mount currentWorkspaceId) es ↔
      Guarded step Answered (mount currentWorkspaceId) es :=
  always_iff_guarded (fun _ e _ hinv hstep => inv_step e hinv hstep)
    (fun _ e _ hinv h hstep => shown_step e hinv h hstep) (inv_mount currentWorkspaceId)
    (fun _ => rfl)

/-- Through the wizard with nothing but a name. -/
def plainRun : List Event :=
  [.namespacesListed ["default"], .goNext, .basic (.name "demo"), .goNext, .goNext, .goNext]

end ClusterManager.Ui.CreateWizard
