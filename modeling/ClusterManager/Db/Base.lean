import ClusterManager.Lib.Table
import ClusterManager.RateLimit.IpAddress
import ClusterManager.Secrets

/-!
# Models, rows and merges

The records the two database backends store and the pure functions they share: the labels a
profile is normalised to (`normalizeLabels`), what the models ask of their fields
(`ConnectionProfile.validated`, `Workspace.validated`), reading a row (`rowToProfile`,
`rowToWorkspace`), merging a partial update (`buildMergedProfile`, `buildMergedWorkspace`). The
JSON columns hold decoded values.
-/

namespace ClusterManager.Db

open IpAddress (hexDigit)

/-- `DEFAULT_WORKSPACE_ID`. -/
def defaultWorkspaceId : String := "ws-default"

/-- `SYSTEM_OWNER_ID`. -/
def systemOwnerId : String := "system"

/-- `s or default` of a string. -/
def orDefault (default : String) (s : String) : String := if s = "" then default else s

theorem orDefault_ne {default s : String} (h : default ≠ "") : orDefault default s ≠ "" := by
  unfold orDefault
  split <;> assumption

/-- What the code takes from outside the repository: the Fernet key, and the Unicode table
behind `str.lower`. -/
structure Runtime where
  fernet : Fernet
  lower : String → String

/-- The runtime of the examples: a key that encrypts nothing, and no case to fold. -/
def plainRuntime : Runtime := ⟨⟨fun _ plaintext => plaintext, some⟩, id⟩

/-- A connection profile, the password in plaintext. -/
structure ConnectionProfile where
  id : String
  name : String
  hosts : List String
  port : ℕ
  clusterName : Option String := none
  username : Option String := none
  password : Option String := none
  color : String
  note : Option String := none
  labels : Dict String String
  workspaceId : String := defaultWorkspaceId
  createdAt : String
  updatedAt : String
  deriving DecidableEq

/-- A row of `connections`, the password as it is stored. -/
structure ConnectionRow where
  id : String
  name : String
  hosts : List String
  port : ℕ
  clusterName : Option String
  username : Option String
  password : Option String
  color : String
  note : Option String
  labels : Option (Dict String String)
  workspaceId : Option String
  createdAt : String
  updatedAt : String
  deriving DecidableEq

/-- A row of `workspaces`. -/
structure Workspace where
  id : String
  name : String
  color : String := "#6366F1"
  description : Option String := none
  isDefault : Bool := false
  ownerId : String
  createdAt : String
  updatedAt : String
  deriving DecidableEq

/-- A row of `set_notes`. -/
structure SetNote where
  connectionId : String
  namespace_ : String
  setName : String
  note : String
  createdAt : String
  updatedAt : String
  updatedBy : Option String
  deriving DecidableEq

/-- The primary key of `set_notes`. -/
def SetNote.key (n : SetNote) : String × String × String :=
  (n.connectionId, n.namespace_, n.setName)

/-- A row of `record_notes`. -/
structure RecordNote where
  connectionId : String
  namespace_ : String
  setName : String
  pkText : String
  pkType : String
  digestHex : Option String
  note : String
  createdAt : String
  updatedAt : String
  updatedBy : Option String
  deriving DecidableEq

/-- The primary key of `record_notes`. -/
def RecordNote.key (n : RecordNote) : String × String × String × String × String :=
  (n.connectionId, n.namespace_, n.setName, n.pkText, n.pkType)

/-- A row of `guides`. -/
structure Guide where
  workspaceId : String
  guideType : String
  title : String
  content : String
  createdAt : String
  updatedAt : String
  updatedBy : Option String
  deriving DecidableEq

/-- The primary key of `guides`. -/
def Guide.key (g : Guide) : String × String := (g.workspaceId, g.guideType)

/-! ### Labels -/

/-- `str.strip` of a string. -/
def strip (s : String) : String := String.ofList (Str.strip s.toList)

/-- `_normalize_labels`: no empty key, and an `env` label in lower case. -/
def normalizeLabels (rt : Runtime) : Option (Dict String String) → Dict String String
  | none => [("env", "default")]
  | some v =>
      let labels : Dict String String := v.foldl (fun labels (key, val) =>
        let k := strip key
        if k = "" then labels else labels.set k val) []
      let env := rt.lower (strip ((labels.get? "env").getD ""))
      labels.set "env" (orDefault "default" env)

/-- What `_normalize_labels` relies on of `str.lower`: it is idempotent, turns nothing into
whitespace, and keeps the ASCII letters that are in lower case. -/
structure Runtime.LowerLawful (rt : Runtime) : Prop where
  idempotent : ∀ s, rt.lower (rt.lower s) = rt.lower s
  strip : ∀ s, strip s = s → strip (rt.lower s) = rt.lower s
  ascii : ∀ s : String, s.toList.all Char.isLower = true → rt.lower s = s

theorem strip_strip (s : String) : strip (strip s) = strip s := by
  rw [strip, strip, String.toList_ofList, Str.strip_strip]

/-- The loop of `_normalize_labels` keeps its keys distinct, stripped and not empty. -/
theorem keys_normalizeLabels_loop (v labels : Dict String String)
    (hnodup : (labels.map Prod.fst).Nodup)
    (hkeys : ∀ k ∈ labels.map Prod.fst, strip k = k ∧ k ≠ "") :
    let labels' : Dict String String := v.foldl (fun labels (key, val) =>
      let k := strip key
      if k = "" then labels else labels.set k val) labels
    (labels'.map Prod.fst).Nodup ∧ ∀ k ∈ labels'.map Prod.fst, strip k = k ∧ k ≠ "" := by
  induction v generalizing labels with
  | nil => exact ⟨hnodup, hkeys⟩
  | cons p v ih =>
    obtain ⟨key, val⟩ := p
    rw [List.foldl_cons]
    by_cases hk : strip key = ""
    · simp only [hk, if_true]
      exact ih _ hnodup hkeys
    · simp only [hk, if_false]
      refine ih _ (Dict.nodup_keys_set hnodup) fun k hmem => ?_
      rcases Dict.mem_keys_set.1 hmem with hmem | rfl
      · exact hkeys k hmem
      · exact ⟨strip_strip key, hk⟩

/-- Over such keys the loop copies the dictionary. -/
theorem normalizeLabels_loop_eq (v labels : Dict String String)
    (hnodup : ((labels ++ v).map Prod.fst).Nodup)
    (hkeys : ∀ k ∈ v.map Prod.fst, strip k = k ∧ k ≠ "") :
    v.foldl (fun labels (key, val) =>
      let k := strip key
      if k = "" then labels else labels.set k val) labels = labels ++ v := by
  induction v generalizing labels with
  | nil => simp
  | cons p v ih =>
    obtain ⟨key, val⟩ := p
    obtain ⟨hstrip, hne⟩ := hkeys key (by simp)
    have hfresh : key ∉ labels.map Prod.fst := by
      rw [List.map_append, List.map_cons, List.nodup_middle, List.nodup_cons] at hnodup
      exact fun h => hnodup.1 (List.mem_append_left _ h)
    simp only [List.foldl_cons, hstrip, hne, if_false]
    rw [Dict.set_of_not_mem hfresh, ih _ (by simpa using hnodup)
      fun k hk => hkeys k (by simp [hk])]
    simp

/-- Normalising twice is normalising once. -/
theorem normalizeLabels_idempotent {rt : Runtime} (h : rt.LowerLawful) (v : Dict String String) :
    normalizeLabels rt (some (normalizeLabels rt (some v))) = normalizeLabels rt (some v) := by
  obtain ⟨hnodup, hkeys⟩ := keys_normalizeLabels_loop v [] (by simp) (by simp)
  simp only [normalizeLabels]
  generalize v.foldl _ [] = labels at hnodup hkeys ⊢
  set env := orDefault "default" (rt.lower (strip ((Dict.get? labels "env").getD ""))) with henv
  have henv' : orDefault "default" (rt.lower (strip env)) = env := by
    by_cases hempty : rt.lower (strip ((Dict.get? labels "env").getD "")) = ""
    · have : env = "default" := by rw [henv, orDefault, if_pos hempty]
      rw [this, show strip "default" = "default" by decide, h.ascii "default" (by decide)]
      decide
    · have : env = rt.lower (strip ((Dict.get? labels "env").getD "")) := by
        rw [henv, orDefault, if_neg hempty]
      rw [this, h.strip _ (strip_strip _), h.idempotent, orDefault, if_neg hempty]
  have hloop := normalizeLabels_loop_eq (Dict.set labels "env" env) []
    (by simpa using Dict.nodup_keys_set hnodup) fun k hk => by
      rcases Dict.mem_keys_set.1 hk with hk | rfl
      · exact hkeys k hk
      · decide
  rw [hloop, List.nil_append, Dict.get?_set_self, Option.getD_some, henv']
  exact Dict.set_of_get? Dict.get?_set_self

/-! ### The constraints of the models -/

/-- `^#[0-9a-fA-F]{6}$`. -/
def isColor (s : String) : Bool :=
  match s.toList with
  | '#' :: digits => digits.length = 6 && digits.all fun c => (hexDigit c).isSome
  | _ => false

/-- `min_length=1, max_length=255`. -/
def isName (s : String) : Bool := 1 ≤ s.length && s.length ≤ 255

/-- `ge=1, le=65535`. -/
def isPort (port : ℕ) : Bool := 1 ≤ port && port ≤ 65535

/-- The constraints of `ConnectionProfile`. -/
def ConnectionProfile.isValid (conn : ConnectionProfile) : Bool :=
  conn.hosts ≠ [] && isPort conn.port && isColor conn.color

/-- The constraints of `Workspace`. -/
def Workspace.isValid (ws : Workspace) : Bool :=
  isName ws.name && isColor ws.color && ws.ownerId ≠ ""

/-- `ConnectionProfile(…)`: the model's own checks, once its arguments are put together. -/
def ConnectionProfile.validated (conn : ConnectionProfile) : Except Exc ConnectionProfile :=
  if conn.isValid then .ok conn else .error .validationError

/-- `Workspace(…)`. -/
def Workspace.validated (ws : Workspace) : Except Exc Workspace :=
  if ws.isValid then .ok ws else .error .validationError

theorem ConnectionProfile.validated_eq_ok {conn conn' : ConnectionProfile} :
    conn.validated = .ok conn' ↔ conn.isValid = true ∧ conn' = conn := by
  unfold ConnectionProfile.validated
  split
  next h => simp [h, eq_comm]
  next h => simp [h]

theorem Workspace.validated_eq_ok {ws ws' : Workspace} :
    ws.validated = .ok ws' ↔ ws.isValid = true ∧ ws' = ws := by
  unfold Workspace.validated
  split
  next h => simp [h, eq_comm]
  next h => simp [h]

/-- All that the checks raise is a `ValidationError`. -/
theorem ConnectionProfile.validated_error {conn : ConnectionProfile} {e : Exc}
    (h : conn.validated = .error e) : e = .validationError := by
  unfold ConnectionProfile.validated at h
  split at h
  · cases h
  · exact (Except.error.inj h).symm

@[inherit_doc ConnectionProfile.validated_error]
theorem Workspace.validated_error {ws : Workspace} {e : Exc} (h : ws.validated = .error e) :
    e = .validationError := by
  unfold Workspace.validated at h
  split at h
  · cases h
  · exact (Except.error.inj h).symm

/-! ### Reading rows -/

/-- The profile `row_to_profile` makes of a row, before the checks of the model. -/
def ConnectionRow.toProfile (rt : Runtime) (row : ConnectionRow) : ConnectionProfile where
  id := row.id
  name := row.name
  hosts := row.hosts
  port := row.port
  clusterName := row.clusterName
  username := row.username
  password := row.password
  color := row.color
  note := row.note
  labels := normalizeLabels rt (some (row.labels.getD []))
  workspaceId := orDefault defaultWorkspaceId (row.workspaceId.getD "")
  createdAt := row.createdAt
  updatedAt := row.updatedAt

/-- `row_to_profile`. -/
def rowToProfile (rt : Runtime) (row : ConnectionRow) : Except Exc ConnectionProfile :=
  (row.toProfile rt).validated

/-- `_row_to_profile`, of which each backend has a copy: the same with the password decrypted. -/
def decryptedProfile (rt : Runtime) (row : ConnectionRow) : Except Exc ConnectionProfile := do
  let profile ← rowToProfile rt row
  let password ← decryptPassword rt.fernet profile.password
  return { profile with password }

/-- A row is read when the model takes it and its password decrypts. -/
theorem decryptedProfile_eq_ok {rt : Runtime} {row : ConnectionRow} {conn : ConnectionProfile} :
    decryptedProfile rt row = .ok conn ↔ (row.toProfile rt).isValid = true ∧
      ∃ password, decryptPassword rt.fernet row.password = .ok password ∧
        conn = { row.toProfile rt with password } := by
  constructor
  · intro h
    obtain ⟨profile, hprofile, h⟩ := exists_of_bind_ok h
    obtain ⟨hvalid, rfl⟩ := ConnectionProfile.validated_eq_ok.1 hprofile
    obtain ⟨password, hpassword, h⟩ := exists_of_bind_ok h
    exact ⟨hvalid, password, hpassword, (Except.ok.inj h).symm⟩
  · rintro ⟨hvalid, password, hpassword, rfl⟩
    have hprofile : rowToProfile rt row = .ok (row.toProfile rt) :=
      ConnectionProfile.validated_eq_ok.2 ⟨hvalid, rfl⟩
    have hpassword' : decryptPassword rt.fernet (row.toProfile rt).password = .ok password :=
      hpassword
    rw [decryptedProfile, hprofile, ok_bind, hpassword']
    rfl

/-- What is read is within the constraints of the model. -/
theorem isValid_of_decrypted {rt : Runtime} {row : ConnectionRow} {conn : ConnectionProfile}
    (h : decryptedProfile rt row = .ok conn) : conn.isValid = true := by
  obtain ⟨hvalid, password, -, rfl⟩ := decryptedProfile_eq_ok.1 h
  exact hvalid

/-- The columns a writer stores for a profile. -/
def profileToRow (rt : Runtime) (nonce : ℕ) (conn : ConnectionProfile) : ConnectionRow where
  id := conn.id
  name := conn.name
  hosts := conn.hosts
  port := conn.port
  clusterName := conn.clusterName
  username := conn.username
  password := storedPassword rt.fernet nonce conn.password
  color := conn.color
  note := conn.note
  labels := some conn.labels
  workspaceId := some conn.workspaceId
  createdAt := conn.createdAt
  updatedAt := conn.updatedAt

/-- The workspace `row_to_workspace` makes of a row, before the checks of the model. -/
def Workspace.withOwner (row : Workspace) : Workspace :=
  { row with ownerId := orDefault systemOwnerId row.ownerId }

/-- `row_to_workspace`. -/
def rowToWorkspace (row : Workspace) : Except Exc Workspace := row.withOwner.validated

theorem rowToWorkspace_eq_ok {row ws : Workspace} :
    rowToWorkspace row = .ok ws ↔ row.withOwner.isValid = true ∧ ws = row.withOwner :=
  Workspace.validated_eq_ok

/-- What the model takes can be read back: only an empty owner is replaced. -/
theorem isValid_withOwner {ws : Workspace} (h : ws.isValid = true) :
    ws.withOwner.isValid = true := by
  simp only [Workspace.isValid, Workspace.withOwner, Bool.and_eq_true] at h ⊢
  exact ⟨h.1, decide_eq_true (orDefault_ne (by decide))⟩

/-- `RecordNote(…)`, which `_row_to_record_note` of each backend builds. -/
def rowToRecordNote (row : RecordNote) : Except Exc RecordNote :=
  if row.pkType ∈ ["string", "int", "bytes"] then .ok row else .error .validationError

/-- `row_to_guide`. -/
def rowToGuide (row : Guide) : Except Exc Guide :=
  if row.guideType ∈ ["data-plane", "control-plane"] then .ok row else .error .validationError

/-! ### Partial updates -/

/-- `UpdateConnectionRequest.model_dump(exclude_unset=True)`: a field is absent, or present with
a value that may be `None`. -/
structure UpdateData where
  name : Option (Option String) := none
  hosts : Option (Option (List String)) := none
  port : Option (Option ℕ) := none
  clusterName : Option (Option String) := none
  username : Option (Option String) := none
  password : Option (Option String) := none
  color : Option (Option String) := none
  note : Option (Option String) := none
  labels : Option (Option (Dict String String)) := none
  workspaceId : Option (Option String) := none
  deriving DecidableEq

/-- A field the model requires: `None` is a `ValidationError`. -/
def required {α : Type} : Option α → Except Exc α
  | some a => .ok a
  | none => .error .validationError

/-- `build_merged_profile`. -/
def buildMergedProfile (rt : Runtime) (existing : ConnectionProfile) (data : UpdateData)
    (connId now : String) : Except Exc ConnectionProfile := do
  let name ← required (data.name.getD existing.name)
  let hosts ← required (data.hosts.getD existing.hosts)
  let port ← required (data.port.getD existing.port)
  let color ← required (data.color.getD existing.color)
  ConnectionProfile.validated {
    id := connId
    name, hosts, port, color
    clusterName := data.clusterName.getD existing.clusterName
    username := data.username.getD existing.username
    password := data.password.getD existing.password
    note := data.note.getD existing.note
    labels := normalizeLabels rt (some ((data.labels.getD existing.labels).getD []))
    workspaceId := orDefault defaultWorkspaceId
      ((data.workspaceId.getD existing.workspaceId).getD "")
    createdAt := existing.createdAt
    updatedAt := now }

/-- `UpdateWorkspaceRequest.model_dump(exclude_unset=True)`. -/
structure WorkspaceUpdateData where
  name : Option (Option String) := none
  color : Option (Option String) := none
  description : Option (Option String) := none
  deriving DecidableEq

/-- `build_merged_workspace`: `isDefault` and `ownerId` stay. -/
def buildMergedWorkspace (existing : Workspace) (data : WorkspaceUpdateData) (now : String) :
    Except Exc Workspace := do
  let name ← required (data.name.getD existing.name)
  let color ← required (data.color.getD existing.color)
  Workspace.validated { existing with
    name, color
    description := data.description.getD existing.description
    updatedAt := now }

/-! ### What a merge keeps -/

/-- All that a merge has done when it went through. -/
theorem exists_of_buildMergedProfile {rt : Runtime} {existing conn : ConnectionProfile}
    {data : UpdateData} {connId now : String}
    (h : buildMergedProfile rt existing data connId now = .ok conn) :
    ∃ name hosts port color,
      required (data.name.getD existing.name) = .ok name ∧
      required (data.hosts.getD existing.hosts) = .ok hosts ∧
      required (data.port.getD existing.port) = .ok port ∧
      required (data.color.getD existing.color) = .ok color ∧
      conn = {
        id := connId
        name, hosts, port, color
        clusterName := data.clusterName.getD existing.clusterName
        username := data.username.getD existing.username
        password := data.password.getD existing.password
        note := data.note.getD existing.note
        labels := normalizeLabels rt (some ((data.labels.getD existing.labels).getD []))
        workspaceId := orDefault defaultWorkspaceId
          ((data.workspaceId.getD existing.workspaceId).getD "")
        createdAt := existing.createdAt
        updatedAt := now } := by
  obtain ⟨name, hname, h⟩ := exists_of_bind_ok h
  obtain ⟨hosts, hhosts, h⟩ := exists_of_bind_ok h
  obtain ⟨port, hport, h⟩ := exists_of_bind_ok h
  obtain ⟨color, hcolor, h⟩ := exists_of_bind_ok h
  exact ⟨name, hosts, port, color, hname, hhosts, hport, hcolor,
    (ConnectionProfile.validated_eq_ok.1 h).2⟩

/-- All that a merge has done when it went through. -/
theorem exists_of_buildMergedWorkspace {existing ws : Workspace} {data : WorkspaceUpdateData}
    {now : String} (h : buildMergedWorkspace existing data now = .ok ws) :
    ∃ name color,
      required (data.name.getD existing.name) = .ok name ∧
      required (data.color.getD existing.color) = .ok color ∧
      ws = { existing with
        name, color
        description := data.description.getD existing.description
        updatedAt := now } := by
  obtain ⟨name, hname, h⟩ := exists_of_bind_ok h
  obtain ⟨color, hcolor, h⟩ := exists_of_bind_ok h
  exact ⟨name, color, hname, hcolor, (Workspace.validated_eq_ok.1 h).2⟩

theorem buildMergedProfile_ok {rt : Runtime} {existing conn : ConnectionProfile}
    {data : UpdateData} {connId now : String}
    (h : buildMergedProfile rt existing data connId now = .ok conn) :
    conn.id = connId ∧
      conn.password = data.password.getD existing.password ∧
      conn.workspaceId = orDefault defaultWorkspaceId
        ((data.workspaceId.getD existing.workspaceId).getD "") := by
  obtain ⟨name, hosts, port, color, -, -, -, -, rfl⟩ := exists_of_buildMergedProfile h
  exact ⟨rfl, rfl, rfl⟩

theorem buildMergedWorkspace_ok {existing ws : Workspace} {data : WorkspaceUpdateData}
    {now : String} (h : buildMergedWorkspace existing data now = .ok ws) :
    ws.id = existing.id ∧ ws.isDefault = existing.isDefault ∧ ws.ownerId = existing.ownerId := by
  obtain ⟨name, color, -, -, rfl⟩ := exists_of_buildMergedWorkspace h
  exact ⟨rfl, rfl, rfl⟩

/-- A merged profile has passed the checks of the model. -/
theorem isValid_of_buildMergedProfile {rt : Runtime} {existing conn : ConnectionProfile}
    {data : UpdateData} {connId now : String}
    (h : buildMergedProfile rt existing data connId now = .ok conn) : conn.isValid = true := by
  obtain ⟨name, -, h⟩ := exists_of_bind_ok h
  obtain ⟨hosts, -, h⟩ := exists_of_bind_ok h
  obtain ⟨port, -, h⟩ := exists_of_bind_ok h
  obtain ⟨color, -, h⟩ := exists_of_bind_ok h
  obtain ⟨hvalid, rfl⟩ := ConnectionProfile.validated_eq_ok.1 h
  exact hvalid

/-- A merged workspace has passed the checks of the model. -/
theorem isValid_of_buildMergedWorkspace {existing ws : Workspace} {data : WorkspaceUpdateData}
    {now : String} (h : buildMergedWorkspace existing data now = .ok ws) : ws.isValid = true := by
  obtain ⟨name, -, h⟩ := exists_of_bind_ok h
  obtain ⟨color, -, h⟩ := exists_of_bind_ok h
  obtain ⟨hvalid, rfl⟩ := Workspace.validated_eq_ok.1 h
  exact hvalid

/-- Reading back what a writer stored gives the profile, labels normalised. -/
theorem decryptedProfile_profileToRow {rt : Runtime} (hf : rt.fernet.Lawful) (nonce : ℕ)
    {conn : ConnectionProfile} (hlabels : normalizeLabels rt (some conn.labels) = conn.labels)
    (hws : conn.workspaceId ≠ "") (hvalid : conn.isValid = true) :
    decryptedProfile rt (profileToRow rt nonce conn) = .ok conn := by
  refine decryptedProfile_eq_ok.2 ⟨hvalid, conn.password,
    decryptPassword_storedPassword hf nonce conn.password, ?_⟩
  simp only [profileToRow, ConnectionRow.toProfile, Option.getD_some, hlabels, orDefault, hws,
    ↓reduceIte]

end ClusterManager.Db
