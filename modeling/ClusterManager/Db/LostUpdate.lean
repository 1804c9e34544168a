import Mathlib.Data.List.Forall2
import ClusterManager.Db.SqliteSerial

/-!
# No update of a connection is lost

Concurrent calls of `update_connection` on SQLite. A schedule without faults is serial
(`writers_serial`), and one turn rewrites the row of its connection to what `build_merged_profile`
makes of it (`updated_turn`); so each row ends as the fold of the patches to it in the order of
the turns (`no_lost_update`).
-/

namespace ClusterManager.Db.Sqlite

open Interleaving

/-- A call of `update_connection`. -/
structure Update where
  connId : String
  data : UpdateData
  now : String
  nonce : ℕ

/-- The call as a writer. -/
def Update.writer (u : Update) : Writer := .updateConnection u.connId u.data u.now u.nonce

/-- One step of the fold. A merge that is refused leaves the profile as it is. -/
def Update.merge (rt : Runtime) (existing : ConnectionProfile) (u : Update) : ConnectionProfile :=
  match buildMergedProfile rt existing u.data u.connId u.now with
  | .ok updated => updated
  | .error _ => existing

/-- The fields a patch can name. -/
inductive Field
  | name | hosts | port | clusterName | username | password | color | note | labels | workspaceId

/-- The values of a field. -/
abbrev Field.Value : Field → Type
  | .name | .color | .workspaceId => String
  | .hosts => List String
  | .port => ℕ
  | .clusterName | .username | .password | .note => Option String
  | .labels => Dict String String

/-- The value of a field in a profile. -/
def Field.get : (f : Field) → ConnectionProfile → f.Value
  | .name, p => p.name
  | .hosts, p => p.hosts
  | .port, p => p.port
  | .clusterName, p => p.clusterName
  | .username, p => p.username
  | .password, p => p.password
  | .color, p => p.color
  | .note, p => p.note
  | .labels, p => p.labels
  | .workspaceId, p => p.workspaceId

/-- Whether a patch names a field. -/
def Field.isSet : Field → UpdateData → Bool
  | .name, data => data.name.isSome
  | .hosts, data => data.hosts.isSome
  | .port, data => data.port.isSome
  | .clusterName, data => data.clusterName.isSome
  | .username, data => data.username.isSome
  | .password, data => data.password.isSome
  | .color, data => data.color.isSome
  | .note, data => data.note.isSome
  | .labels, data => data.labels.isSome
  | .workspaceId, data => data.workspaceId.isSome

/-! ### One merge -/

/-- What reading a row makes sure of, and merging keeps. -/
structure Normal (rt : Runtime) (p : ConnectionProfile) : Prop where
  labels : normalizeLabels rt (some p.labels) = p.labels
  workspaceId : p.workspaceId ≠ ""

section Merge

variable {rt : Runtime} {p updated : ConnectionProfile}

theorem normal_of_decrypted (hlower : rt.LowerLawful) {row : ConnectionRow}
    (h : decryptedProfile rt row = .ok p) : Normal rt p := by
  obtain ⟨-, password, -, rfl⟩ := decryptedProfile_eq_ok.1 h
  exact ⟨normalizeLabels_idempotent hlower _, orDefault_ne (by decide)⟩

theorem normal_of_merged (hlower : rt.LowerLawful) {data : UpdateData} {connId now : String}
    (h : buildMergedProfile rt p data connId now = .ok updated) : Normal rt updated := by
  obtain ⟨name, hosts, port, color, -, -, -, -, rfl⟩ := exists_of_buildMergedProfile h
  exact ⟨normalizeLabels_idempotent hlower _, orDefault_ne (by decide)⟩

theorem Normal.merge (hlower : rt.LowerLawful) (h : Normal rt p) (u : Update) :
    Normal rt (u.merge rt p) := by
  unfold Update.merge
  split
  next updated hmerged => exact normal_of_merged hlower hmerged
  next => exact h

/-- A merge keeps what its patch does not name. -/
theorem get_merge (h : Normal rt p) {u : Update} {f : Field} (hf : f.isSet u.data = false) :
    f.get (u.merge rt p) = f.get p := by
  unfold Update.merge
  split
  next updated hmerged =>
    obtain ⟨name, hosts, port, color, hname, hhosts, hport, hcolor, rfl⟩ :=
      exists_of_buildMergedProfile hmerged
    cases f <;>
      simp only [Field.isSet, Option.isSome_eq_false_iff, Option.isNone_iff_eq_none] at hf <;>
      simp_all [Field.get, required, h.labels, orDefault, h.workspaceId]
  next => rfl

theorem get_foldl_merge (hlower : rt.LowerLawful) {us : List Update} (h : Normal rt p) {f : Field}
    (hf : ∀ u ∈ us, f.isSet u.data = false) : f.get (us.foldl (Update.merge rt) p) = f.get p := by
  induction us generalizing p with
  | nil => rfl
  | cons u us ih =>
    rw [List.foldl_cons, ih (h.merge hlower u) fun v hv => hf v (List.mem_cons_of_mem _ hv),
      get_merge h (hf u List.mem_cons_self)]

end Merge

/-! ### One row -/

/-- What the patches to a connection make of its row. -/
structure Updated (rt : Runtime) (us : List Update) (row row' : ConnectionRow) : Prop where
  id : row'.id = row.id
  createdAt : row'.createdAt = row.createdAt
  fold : ∀ p, decryptedProfile rt row = .ok p →
    decryptedProfile rt row' = .ok (us.foldl (Update.merge rt) p)
  kept : ∀ p p', decryptedProfile rt row = .ok p → decryptedProfile rt row' = .ok p' →
    ∀ f : Field, (∀ u ∈ us, f.isSet u.data = false) → f.get p' = f.get p
  unreadable : ∀ e, decryptedProfile rt row = .error e → row' = row
  untouched : us = [] → row' = row

/-- The row of a connection after one update. -/
def Update.row (rt : Runtime) (row : ConnectionRow) (u : Update) : ConnectionRow :=
  if row.id = u.connId then
    match decryptedProfile rt row with
    | .ok existing =>
        match buildMergedProfile rt existing u.data u.connId u.now with
        | .ok updated => (profileToRow rt u.nonce updated).assign row
        | .error _ => row
    | .error _ => row
  else row

section Rows

variable {rt : Runtime} {row : ConnectionRow}

theorem Update.row_id (u : Update) : (u.row rt row).id = row.id := by
  unfold Update.row
  split
  · split
    · split <;> rfl
    · rfl
  · rfl

theorem Update.row_of_ne {u : Update} (h : row.id ≠ u.connId) : u.row rt row = row := if_neg h

/-- Merges keep the identity of a profile. -/
theorem buildMergedProfile_identity {existing updated : ConnectionProfile} {data : UpdateData}
    {connId now : String} (h : buildMergedProfile rt existing data connId now = .ok updated) :
    updated.id = connId ∧ updated.createdAt = existing.createdAt := by
  obtain ⟨name, hosts, port, color, -, -, -, -, rfl⟩ := exists_of_buildMergedProfile h
  exact ⟨rfl, rfl⟩

/-- The row a merge stores reads as the merged profile. -/
theorem decryptedProfile_assign (hf : rt.fernet.Lawful) {p updated : ConnectionProfile} {nonce : ℕ}
    (hp : decryptedProfile rt row = .ok p) (hnormal : Normal rt updated)
    (hvalid : updated.isValid = true) (hid : updated.id = row.id)
    (hcreated : updated.createdAt = p.createdAt) :
    decryptedProfile rt ((profileToRow rt nonce updated).assign row) = .ok updated := by
  have hrow : row.createdAt = p.createdAt := by
    obtain ⟨-, password, -, rfl⟩ := decryptedProfile_eq_ok.1 hp
    rfl
  have hassign : (profileToRow rt nonce updated).assign row = profileToRow rt nonce updated := by
    rw [ConnectionRow.assign, ← hid, hrow, ← hcreated]
    rfl
  rw [hassign]
  exact decryptedProfile_profileToRow hf nonce hnormal.labels hnormal.workspaceId hvalid

/-- One update merges its patch into the row of its connection. -/
theorem decryptedProfile_row (hf : rt.fernet.Lawful) (hlower : rt.LowerLawful)
    {p : ConnectionProfile} (hp : decryptedProfile rt row = .ok p) (u : Update)
    (hid : row.id = u.connId) :
    decryptedProfile rt (u.row rt row) = .ok (u.merge rt p) := by
  rw [Update.row, if_pos hid, hp]
  dsimp only [Update.merge]
  split
  next updated hmerged =>
    obtain ⟨hid', hcreated⟩ := buildMergedProfile_identity hmerged
    exact decryptedProfile_assign hf hp (normal_of_merged hlower hmerged)
      (isValid_of_buildMergedProfile hmerged) (hid'.trans hid.symm) hcreated
  next => exact hp

theorem Update.row_of_error {e : Exc} (h : decryptedProfile rt row = .error e) (u : Update) :
    u.row rt row = row := by
  rw [Update.row, h]
  split <;> rfl

theorem Update.row_createdAt (u : Update) : (u.row rt row).createdAt = row.createdAt := by
  unfold Update.row
  split
  · split
    · split <;> rfl
    · rfl
  · rfl

/-- The updates of a run, applied to one row in order. -/
theorem updated_foldl (hf : rt.fernet.Lawful) (hlower : rt.LowerLawful) (us : List Update) :
    Updated rt (us.filter (·.connId = row.id)) row (us.foldl (Update.row rt) row) := by
  have hid : (us.foldl (Update.row rt) row).id = row.id ∧
      (us.foldl (Update.row rt) row).createdAt = row.createdAt := by
    induction us generalizing row with
    | nil => exact ⟨rfl, rfl⟩
    | cons u us ih =>
      rw [List.foldl_cons, ih.1, ih.2]
      exact ⟨u.row_id, u.row_createdAt⟩
  have hfold : ∀ p, decryptedProfile rt row = .ok p →
      decryptedProfile rt (us.foldl (Update.row rt) row) =
        .ok ((us.filter (·.connId = row.id)).foldl (Update.merge rt) p) := by
    clear hid
    induction us generalizing row with
    | nil => exact fun p hp => hp
    | cons u us ih =>
      intro p hp
      by_cases hu : u.connId = row.id
      · have := ih _ (decryptedProfile_row hf hlower hp u hu.symm)
        rw [u.row_id] at this
        rw [List.foldl_cons, this, List.filter_cons_of_pos (by simpa using hu), List.foldl_cons]
      · rw [List.foldl_cons, Update.row_of_ne (Ne.symm hu),
          List.filter_cons_of_neg (by simpa using hu)]
        exact ih p hp
  refine ⟨hid.1, hid.2, hfold, ?_, ?_, ?_⟩
  · intro p p' hp hp' f hset
    rw [hfold p hp, Except.ok.injEq] at hp'
    rw [← hp', get_foldl_merge hlower (normal_of_decrypted hlower hp) hset]
  · intro e he
    clear hid hfold
    induction us with
    | nil => rfl
    | cons u us ih => rw [List.foldl_cons, u.row_of_error he, ih]
  · intro hnone
    clear hid hfold
    induction us with
    | nil => rfl
    | cons u us ih =>
      rw [List.filter_eq_nil_iff, List.forall_mem_cons] at hnone
      have hne : row.id ≠ u.connId := fun h => hnone.1 (by simpa using h.symm)
      rw [List.foldl_cons, Update.row_of_ne hne]
      exact ih (List.filter_eq_nil_iff.2 hnone.2)

end Rows

/-! ### The run -/

/-- The calls of a list of turns. -/
def inOrder (updates : List Update) (turns : List ℕ) : List Update :=
  turns.filterMap (updates[·]?)

section Run

variable {rt : Runtime}

theorem map_row_of_unchanged {t : Tables} {u : Update}
    (h : ∀ row ∈ t.connections, row.id = u.connId → u.row rt row = row) :
    t.connections.rows.map (Update.row rt · u) = t.connections.rows := by
  refine (List.map_congr_left fun row hrow => ?_).trans (List.map_id _)
  by_cases hid : row.id = u.connId
  · exact h row hrow hid
  · exact Update.row_of_ne hid

/-- One turn rewrites the row of its connection, and nothing else. -/
theorem settled_update (rt : Runtime) (u : Update) (t : Tables) :
    u.writer.settled rt t = { t with connections := (u.writer.settled rt t).connections } ∧
      (u.writer.settled rt t).connections.rows = t.connections.rows.map (Update.row rt · u) := by
  rw [Writer.settled, Update.writer, Writer.complete, Db.updateConnection]
  cases hfind : t.connections.find? u.connId with
  | none =>
    exact ⟨rfl, (map_row_of_unchanged fun row hrow hid =>
      absurd hid (Table.find?_eq_none.1 hfind row hrow)).symm⟩
  | some found =>
    obtain ⟨hmem, hkey⟩ := Table.find?_eq_some.1 hfind
    have hsame : ∀ row ∈ t.connections, row.id = u.connId → row = found :=
      fun row hrow hid => Table.eq_of_key hrow hmem (hid.trans hkey.symm)
    dsimp only
    cases hexisting : decryptedProfile rt found with
    | error e =>
      exact ⟨rfl, (map_row_of_unchanged fun row hrow hid =>
        Update.row_of_error ((hsame row hrow hid).symm ▸ hexisting) u).symm⟩
    | ok existing =>
      rw [ok_bind]
      cases hupdated : buildMergedProfile rt existing u.data u.connId u.now with
      | error e =>
        refine ⟨rfl, (map_row_of_unchanged fun row hrow hid => ?_).symm⟩
        rw [hsame row hrow hid, Update.row, if_pos hkey, hexisting]
        dsimp only
        rw [hupdated]
      | ok updated =>
        refine ⟨rfl, List.map_congr_left fun row hrow => ?_⟩
        by_cases hid : row.id = u.connId
        · rw [hsame row hrow hid, Update.row, if_pos hkey, if_pos hkey, hexisting]
          dsimp only
          rw [hupdated]
        · rw [if_neg hid, Update.row_of_ne hid]

/-- The turns rewrite each row, one after the other. -/
theorem settledAll_updates (rt : Runtime) (updates : List Update) (t : Tables) (turns : List ℕ) :
    settledAll rt (updates.map Update.writer) t turns =
        { t with connections :=
            (settledAll rt (updates.map Update.writer) t turns).connections } ∧
      (settledAll rt (updates.map Update.writer) t turns).connections.rows =
        t.connections.rows.map fun row =>
          (inOrder updates turns).foldl (Update.row rt) row := by
  induction turns generalizing t with
  | nil => exact ⟨rfl, (List.map_id _).symm⟩
  | cons i turns ih =>
    rw [settledAll, List.foldl_cons, ← settledAll, inOrder, List.filterMap_cons,
      List.getElem?_map]
    cases hu : updates[i]? with
    | none => exact ih t
    | some u =>
      obtain ⟨hother, hrows⟩ := settled_update rt u t
      obtain ⟨hother', hrows'⟩ := ih (u.writer.settled rt t)
      refine ⟨?_, ?_⟩
      · rw [Option.map_some, Option.map_some, Option.getD_some, hother', hother]
      · rw [Option.map_some, Option.map_some, Option.getD_some, hrows', hrows, List.map_map]
        rfl

/-- **No update of a connection is lost.** In a schedule without faults of any number of updates,
once all of them are done, each has had its turn, each row is what the patches to it in the order
of the turns make of it, and nothing else has changed. -/
theorem no_lost_update (rt : Runtime) (hf : rt.fernet.Lawful) (hlower : rt.LowerLawful)
    (updates : List Update) (t₀ : Tables) (es : List (Event (Option Fault) Empty))
    (hes : FaultFree es) (c : Config Stmt Stmt.Resp Exc Unit Connection)
    (hrun : run world (.start { committed := t₀ }
      (updates.map fun u => u.writer.program rt)) es = some c)
    (hdone : ∀ t ∈ c.tasks, t.prog.isDone = true) :
    c.shared.tx = none ∧ c.shared.turns.Perm (List.range updates.length) ∧
      c.shared.committed = { t₀ with connections := c.shared.committed.connections } ∧
      List.Forall₂
        (fun row row' =>
          Updated rt ((inOrder updates c.shared.turns).filter (·.connId = row.id)) row row')
        t₀.connections.rows c.shared.committed.connections.rows := by
  have hmap : (updates.map fun u => u.writer.program rt) =
      (updates.map Update.writer).map (Writer.program rt) := by rw [List.map_map]; rfl
  rw [hmap] at hrun
  obtain ⟨-, htx, hperm, hcommitted⟩ := writers_serial rt _ t₀ es hes hrun hdone
  obtain ⟨hother, hrows⟩ := settledAll_updates rt updates t₀ c.shared.turns
  rw [List.length_map] at hperm
  rw [← hcommitted] at hother hrows
  refine ⟨htx, hperm, hother, ?_⟩
  rw [hrows, List.forall₂_map_right_iff, List.forall₂_same]
  exact fun row _ => updated_foldl hf hlower _

/-- Two patches to one connection: its name, and its password. -/
def twoUpdates : List Update :=
  [{ connId := "c1", data := { name := some (some "Two") }, now := "1", nonce := 0 },
    { connId := "c1", data := { password := some (some "secret") }, now := "2", nonce := 1 }]

/-- The first update takes the lock, and the second one has its turn after it. -/
def twoTurns : List (Event (Option Fault) Empty) :=
  List.replicate 8 (.task 0 none) ++ List.replicate 8 (.task 1 none)

/-- Both patches are in the row. -/
theorem no_lost_update_twoUpdates :
    ∃ c, run world (.start { committed := oneConnection }
        (twoUpdates.map fun u => u.writer.program plainRuntime)) twoTurns = some c ∧
      c.shared.turns.Perm (List.range 2) ∧
      c.shared.committed.connections.rows.map (fun row => (row.name, row.password)) =
        [("Two", some "enc:v1:secret")] := by
  refine ⟨_, rfl, ?_, rfl⟩
  have hlower : plainRuntime.LowerLawful := ⟨fun _ => rfl, fun _ h => h, fun _ _ => rfl⟩
  refine (no_lost_update plainRuntime (fun _ _ => rfl) hlower twoUpdates oneConnection twoTurns
    ?_ _ rfl ?_).2.1
  · intro i x hx
    simp only [twoTurns, List.mem_append, List.mem_replicate, Event.task.injEq] at hx
    rcases hx with ⟨-, -, rfl⟩ | ⟨-, -, rfl⟩ <;> rfl
  · rw [← List.all_eq_true]
    rfl

end Run

end ClusterManager.Db.Sqlite
