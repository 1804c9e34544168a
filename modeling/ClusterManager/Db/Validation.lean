import ClusterManager.Db.LostUpdate

/-!
# The update requests and the merges

What the two update requests accept. They allow `None` where the stored models do not; a merge
fails on such a `None` (`buildMergedProfile_of_nullsRequired`), and where there is none it goes
through (`exists_buildMergedProfile`): the values a request gives are within the constraints of the
model, and so are those it leaves.
-/

namespace ClusterManager.Db

open Sqlite (Field Normal Update)

/-- `UpdateConnectionRequest`, with the constraints on the values it is given. -/
structure UpdateConnectionRequest extends UpdateData where
  name_accepted : ∀ v, name = some (some v) → isName v = true
  hosts_accepted : ∀ v, hosts = some (some v) → v ≠ []
  port_accepted : ∀ v, port = some (some v) → isPort v = true
  color_accepted : ∀ v, color = some (some v) → isColor v = true

/-- `UpdateWorkspaceRequest`, with the constraints on the values it is given. -/
structure UpdateWorkspaceRequest extends WorkspaceUpdateData where
  name_accepted : ∀ v, name = some (some v) → isName v = true
  color_accepted : ∀ v, color = some (some v) → isColor v = true

/-- The request sets a field to `None` that `ConnectionProfile` requires. -/
def UpdateData.nullsRequired (data : UpdateData) : Bool :=
  data.name = some none || data.hosts = some none || data.port = some none ||
    data.color = some none

/-- The request sets a field to `None` that `Workspace` requires. -/
def WorkspaceUpdateData.nullsRequired (data : WorkspaceUpdateData) : Bool :=
  data.name = some none || data.color = some none

/-! ### The fields of a request -/

/-- What a request makes of a field it names. A `None` where a value is required makes nothing. -/
def Sqlite.Field.given (rt : Runtime) : (f : Field) → UpdateData → Option f.Value
  | .name, data => data.name.join
  | .hosts, data => data.hosts.join
  | .port, data => data.port.join
  | .clusterName, data => data.clusterName
  | .username, data => data.username
  | .password, data => data.password
  | .color, data => data.color.join
  | .note, data => data.note
  | .labels, data => data.labels.map fun labels => normalizeLabels rt (some (labels.getD []))
  | .workspaceId, data =>
      data.workspaceId.map fun workspaceId =>
        orDefault defaultWorkspaceId (workspaceId.getD "")

/-- The fields an update of a workspace can name. -/
inductive WorkspaceField
  | name | color | description

/-- The values of a field. -/
abbrev WorkspaceField.Value : WorkspaceField → Type
  | .name | .color => String
  | .description => Option String

/-- The value of a field in a workspace. -/
def WorkspaceField.get : (f : WorkspaceField) → Workspace → f.Value
  | .name, ws => ws.name
  | .color, ws => ws.color
  | .description, ws => ws.description

/-- Whether a request names a field. -/
def WorkspaceField.isSet : WorkspaceField → WorkspaceUpdateData → Bool
  | .name, data => data.name.isSome
  | .color, data => data.color.isSome
  | .description, data => data.description.isSome

/-- What a request makes of a field it names. -/
def WorkspaceField.given : (f : WorkspaceField) → WorkspaceUpdateData → Option f.Value
  | .name, data => data.name.join
  | .color, data => data.color.join
  | .description, data => data.description

/-! ### Required fields -/

section Required

variable {α : Type} {field : Option (Option α)} {a b v : α}

theorem required_eq_ok :
    required (field.getD (some a)) = .ok b ↔ field = none ∧ b = a ∨ field = some (some b) := by
  rcases field with _ | _ | v <;> simp [required, eq_comm]

theorem required_error {value : Option α} {e : Exc} (h : required value = .error e) :
    e = .validationError := by
  cases value with
  | none => exact (Except.error.inj h).symm
  | some v => cases h

/-- A required field that went through is not set to `None`. -/
theorem ne_null_of_required (h : required (field.getD (some a)) = .ok b) : field ≠ some none := by
  rintro rfl
  cases h

/-- What holds of the old value and of a given one holds of the one that is stored. -/
theorem required_ok (p : α → Prop) (h : required (field.getD (some a)) = .ok b) (ha : p a)
    (hgiven : ∀ v, field = some (some v) → p v) : p b := by
  rcases required_eq_ok.1 h with ⟨-, rfl⟩ | hv
  · exact ha
  · exact hgiven b hv

/-- A value that is given is the one that is stored. -/
theorem required_given (h : required (field.getD (some a)) = .ok b) (hfield : field.join = some v) :
    b = v := by
  obtain rfl := Option.join_eq_some_iff.1 hfield
  exact (Except.ok.inj h).symm

/-- A field that is not named keeps its value. -/
theorem required_kept (h : required (field.getD (some a)) = .ok b) (hfield : field.isSome = false) :
    b = a := by
  obtain rfl : field = none := by simpa using hfield
  exact (Except.ok.inj h).symm

/-- Without a `None` there is a value to store. -/
theorem exists_required (a : α) (h : field ≠ some none) :
    ∃ b, required (field.getD (some a)) = .ok b := by
  rcases field with _ | _ | v
  · exact ⟨a, rfl⟩
  · exact absurd rfl h
  · exact ⟨v, rfl⟩

end Required

/-! ### Merging into a profile -/

section Profile

variable {rt : Runtime} {existing conn : ConnectionProfile} {data : UpdateData}
  {connId now : String}

theorem nullsRequired_eq_false : data.nullsRequired = false ↔
    data.name ≠ some none ∧ data.hosts ≠ some none ∧ data.port ≠ some none ∧
      data.color ≠ some none := by
  simp [UpdateData.nullsRequired, and_assoc]

/-- Into a profile within the constraints a request without such a `None` merges. -/
theorem exists_buildMergedProfile (rt : Runtime) (payload : UpdateConnectionRequest)
    (connId now : String) (hvalid : existing.isValid = true)
    (h : payload.nullsRequired = false) :
    ∃ conn, buildMergedProfile rt existing payload.toUpdateData connId now = .ok conn := by
  obtain ⟨hname, hhosts, hport, hcolor⟩ := nullsRequired_eq_false.1 h
  simp only [ConnectionProfile.isValid, Bool.and_eq_true, decide_eq_true_eq] at hvalid
  obtain ⟨⟨hhosts', hport'⟩, hcolor'⟩ := hvalid
  obtain ⟨name, hname⟩ := exists_required existing.name hname
  obtain ⟨hosts, hhosts⟩ := exists_required existing.hosts hhosts
  obtain ⟨port, hport⟩ := exists_required existing.port hport
  obtain ⟨color, hcolor⟩ := exists_required existing.color hcolor
  have hne : hosts ≠ [] := required_ok (· ≠ []) hhosts hhosts' payload.hosts_accepted
  have hports : isPort port = true :=
    required_ok (isPort · = true) hport hport' payload.port_accepted
  have hcolors : isColor color = true :=
    required_ok (isColor · = true) hcolor hcolor' payload.color_accepted
  simp only [buildMergedProfile, hname, hhosts, hport, hcolor, ok_bind]
  refine ⟨_, ConnectionProfile.validated_eq_ok.2 ⟨?_, rfl⟩⟩
  simp [ConnectionProfile.isValid, hne, hports, hcolors]

/-- A merge that went through met no such `None`. -/
theorem nullsRequired_of_merged (h : buildMergedProfile rt existing data connId now = .ok conn) :
    data.nullsRequired = false := by
  obtain ⟨name, hosts, port, color, hname, hhosts, hport, hcolor, -⟩ :=
    exists_of_buildMergedProfile h
  exact nullsRequired_eq_false.2 ⟨ne_null_of_required hname, ne_null_of_required hhosts,
    ne_null_of_required hport, ne_null_of_required hcolor⟩

/-- All that a merge can raise is a `ValidationError`. -/
theorem buildMergedProfile_error {e : Exc}
    (h : buildMergedProfile rt existing data connId now = .error e) : e = .validationError := by
  rcases exists_of_bind_error h with h | ⟨name, -, h⟩
  · exact required_error h
  rcases exists_of_bind_error h with h | ⟨hosts, -, h⟩
  · exact required_error h
  rcases exists_of_bind_error h with h | ⟨port, -, h⟩
  · exact required_error h
  rcases exists_of_bind_error h with h | ⟨color, -, h⟩
  · exact required_error h
  exact ConnectionProfile.validated_error h

/-- A merge fails on such a `None`. -/
theorem buildMergedProfile_of_nullsRequired (rt : Runtime) (existing : ConnectionProfile)
    (connId now : String) (h : data.nullsRequired = true) :
    buildMergedProfile rt existing data connId now = .error .validationError := by
  cases hmerged : buildMergedProfile rt existing data connId now with
  | ok conn =>
    rw [nullsRequired_of_merged hmerged] at h
    cases h
  | error e => rw [buildMergedProfile_error hmerged]

/-- A merge keeps the fields the request does not name. -/
theorem get_of_merged (hnormal : Normal rt existing)
    (h : buildMergedProfile rt existing data connId now = .ok conn) {f : Field}
    (hf : f.isSet data = false) : f.get conn = f.get existing := by
  have hkept := Sqlite.get_merge (u := ⟨connId, data, now, 0⟩) hnormal hf
  rwa [Update.merge, h] at hkept

/-- A merge takes what the request gives. -/
theorem get_of_given (h : buildMergedProfile rt existing data connId now = .ok conn) {f : Field}
    {v : f.Value} (hf : f.given rt data = some v) : f.get conn = v := by
  obtain ⟨name, hosts, port, color, hname, hhosts, hport, hcolor, rfl⟩ :=
    exists_of_buildMergedProfile h
  cases f with
  | name => exact required_given hname hf
  | hosts => exact required_given hhosts hf
  | port => exact required_given hport hf
  | color => exact required_given hcolor hf
  | labels =>
    obtain ⟨labels, hlabels, rfl⟩ := Option.map_eq_some_iff.1 hf
    simp [Field.get, hlabels]
  | workspaceId =>
    obtain ⟨workspaceId, hworkspace, rfl⟩ := Option.map_eq_some_iff.1 hf
    simp [Field.get, hworkspace]
  | _ =>
    simp only [Field.given] at hf
    simp [Field.get, hf]

end Profile

/-! ### Merging into a workspace -/

section Workspace

variable {existing ws : Workspace} {data : WorkspaceUpdateData} {now : String}

/-- Into a workspace within the constraints a request without such a `None` merges. -/
theorem exists_buildMergedWorkspace (payload : UpdateWorkspaceRequest) (now : String)
    (hvalid : existing.isValid = true) (h : payload.nullsRequired = false) :
    ∃ ws, buildMergedWorkspace existing payload.toWorkspaceUpdateData now = .ok ws := by
  simp only [WorkspaceUpdateData.nullsRequired, Bool.or_eq_false_iff, decide_eq_false_iff_not] at h
  simp only [Workspace.isValid, Bool.and_eq_true] at hvalid
  obtain ⟨⟨hname', hcolor'⟩, howner⟩ := hvalid
  obtain ⟨name, hname⟩ := exists_required existing.name h.1
  obtain ⟨color, hcolor⟩ := exists_required existing.color h.2
  have hnames : isName name = true :=
    required_ok (isName · = true) hname hname' payload.name_accepted
  have hcolors : isColor color = true :=
    required_ok (isColor · = true) hcolor hcolor' payload.color_accepted
  simp only [buildMergedWorkspace, hname, hcolor, ok_bind]
  refine ⟨_, Workspace.validated_eq_ok.2 ⟨?_, rfl⟩⟩
  simp only [Workspace.isValid, hnames, hcolors, Bool.true_and]
  exact howner

/-- A merge fails on such a `None`. -/
theorem buildMergedWorkspace_of_nullsRequired (existing : Workspace) (now : String)
    (h : data.nullsRequired = true) :
    buildMergedWorkspace existing data now = .error .validationError := by
  cases hmerged : buildMergedWorkspace existing data now with
  | error e =>
    rcases exists_of_bind_error hmerged with hname | ⟨name, -, hmerged⟩
    · rw [required_error hname]
    rcases exists_of_bind_error hmerged with hcolor | ⟨color, -, hmerged⟩
    · rw [required_error hcolor]
    rw [Workspace.validated_error hmerged]
  | ok ws =>
    obtain ⟨name, color, hname, hcolor, -⟩ := exists_of_buildMergedWorkspace hmerged
    simp [WorkspaceUpdateData.nullsRequired, ne_null_of_required hname,
      ne_null_of_required hcolor] at h

theorem createdAt_of_mergedWorkspace (h : buildMergedWorkspace existing data now = .ok ws) :
    ws.createdAt = existing.createdAt := by
  obtain ⟨name, color, -, -, rfl⟩ := exists_of_buildMergedWorkspace h
  rfl

/-- A merge keeps the fields the request does not name. -/
theorem get_of_mergedWorkspace (h : buildMergedWorkspace existing data now = .ok ws)
    {f : WorkspaceField} (hf : f.isSet data = false) : f.get ws = f.get existing := by
  obtain ⟨name, color, hname, hcolor, rfl⟩ := exists_of_buildMergedWorkspace h
  cases f with
  | name => exact required_kept hname hf
  | color => exact required_kept hcolor hf
  | description =>
    simp only [WorkspaceField.isSet, Option.isSome_eq_false_iff, Option.isNone_iff_eq_none] at hf
    simp [WorkspaceField.get, hf]

/-- A merge takes what the request gives. -/
theorem get_of_givenWorkspace (h : buildMergedWorkspace existing data now = .ok ws)
    {f : WorkspaceField} {v : f.Value} (hf : f.given data = some v) : f.get ws = v := by
  obtain ⟨name, color, hname, hcolor, rfl⟩ := exists_of_buildMergedWorkspace h
  cases f with
  | name => exact required_given hname hf
  | color => exact required_given hcolor hf
  | description =>
    simp only [WorkspaceField.given] at hf
    simp [WorkspaceField.get, hf]

end Workspace

end ClusterManager.Db
