import Mathlib.Data.List.Forall2
import Mathlib.Data.List.Perm.Basic
import ClusterManager.Db.SqliteSchema

/-!
# The migration of an old database

`AgedDatabase` is a database whose two migrated tables have one of their layouts. Every statement
of `init_db` leads from one to another that keeps its rows (`Kept`), so wherever a start is killed
the next one finds such a database, and decides by what it finds. `restartable` says what the
first start that is not killed makes of it.
-/

namespace ClusterManager.Db.SqliteSchema

open Schema Coroutine

/-! ### Layouts -/

/-- Whether a connection has its note under `note`, under `description`, or has none. -/
inductive NoteLayout
  | note
  | description
  | neither
  deriving DecidableEq

/-- The columns that an old database may lack. -/
structure Layout where
  notes : NoteLayout
  labels : Bool
  workspaceId : Bool
  ownerId : Bool
  deriving DecidableEq

/-- A column, where it is there. -/
def whereThere (there : Bool) (c : Column) : List Column := if there then [c] else []

/-- The column of the notes. -/
def NoteLayout.columns : NoteLayout → List Column
  | .note => [noteColumn]
  | .description => [descriptionColumn]
  | .neither => []

namespace Layout

/-- The columns of `connections`, up to their order. -/
def connections (l : Layout) : List Column :=
  connectionsColumns.filter (fun c => c.name ≠ "note" ∧ c.name ≠ "labels") ++
    (l.notes.columns ++ (whereThere l.labels labelsColumn ++
      whereThere l.workspaceId workspaceIdColumn))

/-- The columns of `workspaces`, up to their order. -/
def workspaces (l : Layout) : List Column :=
  workspacesColumns.filter (fun c => c.name ≠ "owner_id") ++ whereThere l.ownerId ownerIdColumn

/-- The layout of today. -/
def current : Layout := ⟨.note, true, true, true⟩

variable {l : Layout}

theorem note_mem : "note" ∈ l.connections.map Column.name ↔ l.notes = .note := by
  rcases l with ⟨_ | _ | _, _ | _, _ | _, _ | _⟩ <;> decide

theorem description_mem : "description" ∈ l.connections.map Column.name ↔
    l.notes = .description := by
  rcases l with ⟨_ | _ | _, _ | _, _ | _, _ | _⟩ <;> decide

theorem labels_mem : "labels" ∈ l.connections.map Column.name ↔ l.labels = true := by
  rcases l with ⟨_ | _ | _, _ | _, _ | _, _ | _⟩ <;> decide

theorem workspaceId_mem : "workspace_id" ∈ l.connections.map Column.name ↔
    l.workspaceId = true := by
  rcases l with ⟨_ | _ | _, _ | _, _ | _, _ | _⟩ <;> decide

theorem ownerId_mem : "owner_id" ∈ l.workspaces.map Column.name ↔ l.ownerId = true := by
  rcases l with ⟨_ | _ | _, _ | _, _ | _, _ | _⟩ <;> decide

end Layout

/-! ### Databases of some age -/

/-- The tables that have had one layout only. -/
def noteTables : List TableDefinition := [setNotesTable, recordNotesTable, guidesTable]

theorem setNotesTable_mem : setNotesTable ∈ noteTables := by simp [noteTables]

theorem recordNotesTable_mem : recordNotesTable ∈ noteTables := by simp [noteTables]

theorem guidesTable_mem : guidesTable ∈ noteTables := by simp [noteTables]

/-- A database whose tables `connections` and `workspaces` have one of their layouts, and whose
other tables, where they are there, the layout of today. -/
@[ext] structure AgedDatabase where
  db : Database
  layout : Layout
  connections : Schema.Table
  connections_eq : db.tables "connections" = some connections
  connections_columns : connections.columns.Perm layout.connections
  connections_key : connections.primaryKey = ["id"]
  workspaces : Schema.Table
  workspaces_eq : db.tables "workspaces" = some workspaces
  workspaces_columns : workspaces.columns.Perm layout.workspaces
  workspaces_key : workspaces.primaryKey = ["id"]
  notes : ∀ d ∈ noteTables, ∀ t, db.tables d.name = some t →
    t.columns.Perm d.columns ∧ t.primaryKey = d.primaryKey

/-- A connection as it was: no value is lost, a description is found under its new name, and a
workspace is filled only where there was none. -/
structure ConnectionKept (original cur : AgedDatabase) (row₀ row : Row) : Prop where
  value : ∀ name ∈ original.connections.names, name ≠ "description" → name ≠ "workspace_id" →
    row.get? name = row₀.get? name
  note : original.layout.notes = .description →
    row.get? (if cur.layout.notes = .description then "description" else "note") =
      row₀.get? "description"
  workspaceId : ∀ v, row₀.get? "workspace_id" = some v → v ≠ .null →
    row.get? "workspace_id" = some v
  filled : row₀.get? "workspace_id" = none ∨ row₀.get? "workspace_id" = some .null →
    row.get? "workspace_id" = none ∨ row.get? "workspace_id" = some .null ∨
      row.get? "workspace_id" = some (.text defaultWorkspaceId)

/-- A workspace as it was, with an owner where there was no such column. -/
structure WorkspaceKept (original cur : AgedDatabase) (row₀ row : Row) : Prop where
  value : ∀ name ∈ original.workspaces.names, row.get? name = row₀.get? name
  ownerId : original.layout.ownerId = false → cur.layout.ownerId = true →
    row.get? "owner_id" = some (.text systemOwnerId)

/-- The rows of a database are those of an older one, and more workspaces. -/
structure Kept (original cur : AgedDatabase) : Prop where
  connections : List.Forall₂ (ConnectionKept original cur) original.connections.rows
    cur.connections.rows
  workspaces : ∃ kept added, cur.workspaces.rows = kept ++ added ∧
    List.Forall₂ (WorkspaceKept original cur) original.workspaces.rows kept

/-- The other tables and the indexes are there. -/
def Created (cur : AgedDatabase) : Prop :=
  (∀ d ∈ noteTables, ∃ t, cur.db.tables d.name = some t) ∧
    "idx_set_notes_conn_ns" ∈ cur.db.indexes ∧ "idx_record_notes_conn_ns_set" ∈ cur.db.indexes

/-- The default workspace is there, and no connection is without a workspace. -/
def Seeded (cur : AgedDatabase) : Prop :=
  (∃ row ∈ cur.workspaces.rows, row.get? "id" = some (.text defaultWorkspaceId)) ∧
    ∀ row ∈ cur.connections.rows, row.get? "workspace_id" ≠ some .null

/-- A database that a start leaves. -/
structure Current (cur : AgedDatabase) : Prop where
  layout : cur.layout = .current
  created : Created cur
  seeded : Seeded cur

section Names

variable {cur original : AgedDatabase} {name : String}

theorem mem_connections_names :
    name ∈ cur.connections.names ↔ name ∈ cur.layout.connections.map Column.name :=
  (cur.connections_columns.map Column.name).mem_iff

theorem mem_workspaces_names :
    name ∈ cur.workspaces.names ↔ name ∈ cur.layout.workspaces.map Column.name :=
  (cur.workspaces_columns.map Column.name).mem_iff

theorem kept_refl (original : AgedDatabase) : Kept original original where
  connections := by
    refine List.forall₂_same.2 fun row _ => ⟨fun _ _ _ _ => rfl, ?_, fun _ h _ => h, ?_⟩
    · intro h
      rw [if_pos h]
    · exact fun h => h.imp_right Or.inl
  workspaces := by
    refine ⟨_, [], (List.append_nil _).symm, List.forall₂_same.2 fun row _ => ⟨?_, ?_⟩⟩
    · exact fun _ _ => rfl
    · intro hfalse htrue
      rw [hfalse] at htrue
      cases htrue

/-- Rows that are related one by one, after a change of the second ones. -/
theorem forall₂_map_of_mem {α β γ : Type} {R : α → β → Prop} {S : α → γ → Prop} {f : β → γ}
    {l : List α} {l' : List β} (h : List.Forall₂ R l l')
    (hf : ∀ a ∈ l, ∀ b ∈ l', R a b → S a (f b)) : List.Forall₂ S l (l'.map f) := by
  induction h with
  | nil => exact .nil
  | cons hab _ ih =>
    refine .cons (hf _ List.mem_cons_self _ List.mem_cons_self hab) (ih fun a ha b hb => ?_)
    exact hf a (List.mem_cons_of_mem _ ha) b (List.mem_cons_of_mem _ hb)

/-- A value that was there is under a name of the table it is in now. -/
theorem mem_names_of_get?_eq {t₀ t : Schema.Table} {row₀ row : Row} (hrow₀ : row₀ ∈ t₀.rows)
    (hrow : row ∈ t.rows) {name' : String} (hname : name ∈ t₀.names)
    (h : row.get? name' = row₀.get? name) : name' ∈ t.names := by
  rw [← Table.get?_isSome hrow, h, Table.get?_isSome hrow₀]
  exact hname

end Names

/-! ### Another table in the place of one of the two -/

namespace AgedDatabase

theorem notes_put {cur : AgedDatabase} {name : String} {t : Schema.Table}
    (hname : ∀ d ∈ noteTables, d.name ≠ name) : ∀ d ∈ noteTables, ∀ t',
      (cur.db.put name t).tables d.name = some t' →
        t'.columns.Perm d.columns ∧ t'.primaryKey = d.primaryKey := by
  intro d hd t' ht'
  rw [Database.tables_put_of_ne (hname d hd)] at ht'
  exact cur.notes d hd t' ht'

theorem noteTables_ne_connections : ∀ d ∈ noteTables, d.name ≠ "connections" := by decide

theorem noteTables_ne_workspaces : ∀ d ∈ noteTables, d.name ≠ "workspaces" := by decide

/-- Another table `connections`, in a layout with the same columns of `workspaces`. -/
def putConnections (cur : AgedDatabase) (t : Schema.Table) (l : Layout)
    (hcolumns : t.columns.Perm l.connections) (hkey : t.primaryKey = ["id"])
    (howner : l.workspaces = cur.layout.workspaces) : AgedDatabase where
  db := cur.db.put "connections" t
  layout := l
  connections := t
  connections_eq := Database.tables_put_self
  connections_columns := hcolumns
  connections_key := hkey
  workspaces := cur.workspaces
  workspaces_eq := (Database.tables_put_of_ne (by decide)).trans cur.workspaces_eq
  workspaces_columns := howner ▸ cur.workspaces_columns
  workspaces_key := cur.workspaces_key
  notes := notes_put noteTables_ne_connections

/-- Another table `workspaces`, in a layout with the same columns of `connections`. -/
def putWorkspaces (cur : AgedDatabase) (t : Schema.Table) (l : Layout)
    (hcolumns : t.columns.Perm l.workspaces) (hkey : t.primaryKey = ["id"])
    (hconnections : l.connections = cur.layout.connections) : AgedDatabase where
  db := cur.db.put "workspaces" t
  layout := l
  connections := cur.connections
  connections_eq := (Database.tables_put_of_ne (by decide)).trans cur.connections_eq
  connections_columns := hconnections ▸ cur.connections_columns
  connections_key := cur.connections_key
  workspaces := t
  workspaces_eq := Database.tables_put_self
  workspaces_columns := hcolumns
  workspaces_key := hkey
  notes := notes_put noteTables_ne_workspaces

end AgedDatabase

open AgedDatabase

section Put

variable {original cur : AgedDatabase} {t : Schema.Table} {l : Layout} {f : Row → Row}

/-- The rows of the new table are those of the old one, changed one by one. -/
theorem Kept.putConnections (h : Kept original cur) (hcolumns : t.columns.Perm l.connections)
    (hkey : t.primaryKey = ["id"]) (howner : l.workspaces = cur.layout.workspaces)
    (hrows : t.rows = cur.connections.rows.map f)
    (hl : l.ownerId = cur.layout.ownerId)
    (hf : ∀ row₀ ∈ original.connections.rows, ∀ row ∈ cur.connections.rows,
      ConnectionKept original cur row₀ row →
        ConnectionKept original (cur.putConnections t l hcolumns hkey howner) row₀ (f row)) :
    Kept original (cur.putConnections t l hcolumns hkey howner) where
  connections := by
    change List.Forall₂ _ _ t.rows
    rw [hrows]
    exact forall₂_map_of_mem h.connections hf
  workspaces := by
    obtain ⟨kept, added, heq, hkept⟩ := h.workspaces
    refine ⟨kept, added, heq, hkept.imp fun row₀ row hrow => ⟨hrow.value, ?_⟩⟩
    exact fun hfalse htrue => hrow.ownerId hfalse (hl ▸ htrue)

/-- The rows of the new table are those of the old one, changed one by one, and more. -/
theorem Kept.putWorkspaces {more : List Row} (h : Kept original cur)
    (hcolumns : t.columns.Perm l.workspaces) (hkey : t.primaryKey = ["id"])
    (hconnections : l.connections = cur.layout.connections)
    (hrows : t.rows = cur.workspaces.rows.map f ++ more)
    (hl : l.notes = cur.layout.notes)
    (hf : ∀ row₀ ∈ original.workspaces.rows, ∀ row ∈ cur.workspaces.rows,
      WorkspaceKept original cur row₀ row →
        WorkspaceKept original (cur.putWorkspaces t l hcolumns hkey hconnections) row₀ (f row)) :
    Kept original (cur.putWorkspaces t l hcolumns hkey hconnections) where
  connections := by
    refine h.connections.imp fun row₀ row hrow => ⟨hrow.value, fun hdescription => ?_,
      hrow.workspaceId, hrow.filled⟩
    change row.get? (if l.notes = .description then "description" else "note") = _
    rw [hl]
    exact hrow.note hdescription
  workspaces := by
    obtain ⟨kept, added, heq, hkept⟩ := h.workspaces
    refine ⟨kept.map f, added.map f ++ more, ?_, ?_⟩
    · change t.rows = _
      rw [hrows, heq, List.map_append, List.append_assoc]
    · refine forall₂_map_of_mem hkept fun row₀ hrow₀ row hrow => hf row₀ hrow₀ row ?_
      rw [heq]
      exact List.mem_append_left _ hrow

end Put

/-! ### Judging the program -/

/-- A statement is executed. -/
def Executes (r : SchemaStatement) (x : Except Exc r.Resp) (s s' : SchemaSession) : Prop :=
  SchemaSession.exec r s = (x, s')

/-- A database that keeps the rows of an older one. -/
def OnTheWay (original : AgedDatabase) (d : Database) : Prop :=
  ∃ cur : AgedDatabase, Kept original cur ∧ cur.db = d

/-- Between transactions a program leads from one database to another with `post`, and is never
refused; what is committed keeps the rows of the original at each of its statements. -/
def Leads (original : AgedDatabase) (p : SchemaProgram Unit) (cur : AgedDatabase)
    (post : AgedDatabase → Prop) : Prop :=
  p.Safe Executes (fun _ s => OnTheWay original s.committed) ⟨cur.db, none⟩
    (fun _ s => ∃ cur', s = ⟨cur'.db, none⟩ ∧ Kept original cur' ∧ post cur') fun _ _ => False

section Rules

variable {original cur : AgedDatabase} {post post' : AgedDatabase → Prop}

theorem safe_schema {r : SchemaStatement} {Φ : SchemaStatement → SchemaSession → Prop}
    {s s' : SchemaSession} {a : r.Resp} {Q : r.Resp → SchemaSession → Prop}
    {E : Exc → SchemaSession → Prop} (hexec : SchemaSession.exec r s = (.ok a, s')) (hΦ : Φ r s)
    (hQ : Q a s') : (schema r).Safe Executes Φ s Q E := by
  refine safe_call.2 ⟨hΦ, fun b s'' h => ?_, fun e s'' h => ?_⟩
  · obtain ⟨hb, rfl⟩ := Prod.mk.inj (hexec.symm.trans h)
    exact Except.ok.inj hb ▸ hQ
  · exact absurd (Prod.mk.inj (hexec.symm.trans h)).1 (by simp)

theorem Leads.bind {p q : SchemaProgram Unit} (hp : Leads original p cur post)
    (hq : ∀ cur', Kept original cur' → post cur' → Leads original q cur' post') :
    Leads original (p >>= fun _ => q) cur post' := by
  refine safe_bind.2 (Safe.mono hp ?_ fun _ _ h => h)
  rintro _ s ⟨cur', rfl, hkept, hpost⟩
  exact hq cur' hkept hpost

theorem Leads.mono {p : SchemaProgram Unit} (hp : Leads original p cur post)
    (h : ∀ cur', post cur' → post' cur') : Leads original p cur post' := by
  refine Safe.mono hp ?_ fun _ _ h => h
  rintro _ s ⟨cur', rfl, hkept, hpost⟩
  exact ⟨cur', rfl, hkept, h cur' hpost⟩

/-- A program that does nothing. -/
theorem leads_pure (h : Kept original cur) (hpost : post cur) :
    Leads original (Pure.pure ()) cur post := ⟨cur, rfl, h, hpost⟩

/-- A commit where nothing waits for one. -/
theorem leads_commit (h : Kept original cur) (hpost : post cur) :
    Leads original (schema .commit) cur post :=
  safe_schema rfl ⟨cur, h, rfl⟩ ⟨cur, rfl, h, hpost⟩

end Rules

/-! ### The steps -/

section Steps

variable {original cur : AgedDatabase} {l : Layout} {c : Column} {row₀ row : Row}

/-- A step leads to a layout, and a database of that layout stays as it is. -/
structure Reaches (cur : AgedDatabase) (l : Layout) (cur' : AgedDatabase) : Prop where
  layout : cur'.layout = l
  created : Created cur → Created cur'
  same : cur.layout = l → cur' = cur

theorem reaches_refl : Reaches cur cur.layout cur := ⟨rfl, id, fun _ => rfl⟩

theorem created_put {cur' : AgedDatabase} {name : String} {t : Schema.Table}
    (hdb : cur'.db = cur.db.put name t) (hname : ∀ d ∈ noteTables, d.name ≠ name)
    (h : Created cur) : Created cur' := by
  obtain ⟨htables, hindexes⟩ := h
  unfold Created
  rw [hdb]
  refine ⟨fun d hd => ?_, hindexes⟩
  rw [Database.tables_put_of_ne (hname d hd)]
  exact htables d hd

theorem exec_tableInfo {name : String} {t : Schema.Table} (ht : cur.db.tables name = some t) :
    SchemaSession.exec (.tableInfo name) ⟨cur.db, none⟩ = (.ok t.names, ⟨cur.db, none⟩) := by
  simp [SchemaSession.exec, SchemaSession.view, ht]

/-- A change of one of the two tables takes effect at once. -/
theorem ddl_alter {name : String} {t t' : Schema.Table} {f : Schema.Table → Option Schema.Table}
    (ht : cur.db.tables name = some t) (hf : f t = some t') :
    SchemaSession.ddl ⟨cur.db, none⟩ (cur.db.alter name f) =
      (.ok (), ⟨cur.db.put name t', none⟩) := by
  rw [Database.alter_eq_some ht hf]
  rfl

/-- A change of the rows of a table waits for the commit. -/
theorem dml_alter {s : SchemaSession} {name : String} {t t' : Schema.Table}
    {f : Schema.Table → Option Schema.Table} (ht : s.view.tables name = some t)
    (hf : f t = some t') : SchemaSession.dml s (s.view.alter name f) =
      (.ok (), ⟨s.committed, some (s.view.put name t')⟩) := by
  rw [Database.alter_eq_some ht hf]
  rfl

/-- A new column that is null leaves a connection as it was. -/
theorem ConnectionKept.addColumn {cur' : AgedDatabase} (h : ConnectionKept original cur row₀ row)
    (hrow₀ : row₀ ∈ original.connections.rows) (hrow : row ∈ cur.connections.rows)
    (hc : c.name ∉ cur.connections.names) (hdefault : c.default = .null)
    (hnotes : cur'.layout.notes = .description ↔ cur.layout.notes = .description) :
    ConnectionKept original cur' row₀ (row.set c.name c.default) := by
  have hother : ∀ name, name ∈ cur.connections.names →
      (row.set c.name c.default).get? name = row.get? name := by
    rintro name hname
    exact Dict.get?_set_of_ne (by rintro rfl; exact hc hname)
  refine ⟨fun name hname h₁ h₂ => ?_, fun hdescription => ?_, fun v hv hne => ?_, fun hnull => ?_⟩
  · have heq := h.value name hname h₁ h₂
    rw [hother name (mem_names_of_get?_eq hrow₀ hrow hname heq), heq]
  · have heq := h.note hdescription
    have hmem : "description" ∈ original.connections.names :=
      mem_connections_names.2 (Layout.description_mem.2 hdescription)
    simp only [hnotes]
    rw [hother _ (mem_names_of_get?_eq hrow₀ hrow hmem heq), heq]
  · have heq := h.workspaceId v hv hne
    rw [hother _ ((Table.get?_isSome hrow).1 (by rw [heq]; rfl)), heq]
  · by_cases hname : c.name = "workspace_id"
    · rw [← hname, Dict.get?_set_self, hdefault]
      exact Or.inr (Or.inl rfl)
    · rw [Dict.get?_set_of_ne (Ne.symm hname)]
      exact h.filled hnull

/-- A description that is renamed leaves a connection as it was. -/
theorem ConnectionKept.rename {cur' : AgedDatabase} (h : ConnectionKept original cur row₀ row)
    (hrow₀ : row₀ ∈ original.connections.rows) (hrow : row ∈ cur.connections.rows)
    (hcur : cur.layout.notes = .description) (hcur' : cur'.layout.notes = .note) :
    ConnectionKept original cur' row₀
      (row.map fun p => (renamed "description" "note" p.1, p.2)) := by
  have hnote : "note" ∉ cur.connections.names := by
    rw [mem_connections_names, Layout.note_mem, hcur]
    decide
  have hws : Dict.get? (row.map fun p => (renamed "description" "note" p.1, p.2)) "workspace_id" =
      row.get? "workspace_id" := Table.get?_renamed_of_ne (by decide) (by decide)
  refine ⟨fun name hname h₁ h₂ => ?_, fun hdescription => ?_, fun v hv hne => ?_, fun hnull => ?_⟩
  · have heq := h.value name hname h₁ h₂
    have hmem := mem_names_of_get?_eq hrow₀ hrow hname heq
    rw [Table.get?_renamed_of_ne h₁ (by rintro rfl; exact hnote hmem), heq]
  · have heq := h.note hdescription
    rw [if_pos hcur] at heq
    rw [if_neg (by rw [hcur']; decide), Table.get?_renamed_new ?_, heq]
    rw [cur.connections.keys_eq row hrow]
    exact hnote
  · rw [hws]
    exact h.workspaceId v hv hne
  · rw [hws]
    exact h.filled hnull

/-- A connection that is put into the default workspace where it was in none. -/
theorem ConnectionKept.fill {cur' : AgedDatabase} (h : ConnectionKept original cur row₀ row)
    (hnotes : cur'.layout.notes = cur.layout.notes) : ConnectionKept original cur' row₀
      (Table.fill "workspace_id" (.text defaultWorkspaceId) row) := by
  refine ⟨fun name hname h₁ h₂ => ?_, fun hdescription => ?_, fun v hv hne => ?_, fun hnull => ?_⟩
  · rw [Table.get?_fill_of_ne h₂]
    exact h.value name hname h₁ h₂
  · rw [hnotes, Table.get?_fill_of_ne (by split <;> decide)]
    exact h.note hdescription
  · rw [Table.get?_fill_self, h.workspaceId v hv hne, Option.map_some, if_neg hne]
  · rw [Table.get?_fill_self]
    rcases h.filled hnull with h | h | h <;> simp [h]

/-- `connections` gets a column that is null. -/
theorem leads_addColumn_connections (h : Kept original cur) (hc : c.name ∉ cur.connections.names)
    (hdefault : ¬ (c.notNull ∧ c.default = .null)) (hnull : c.default = .null)
    (hcolumns : (cur.layout.connections ++ [c]).Perm l.connections)
    (hnotes : l.notes = .description ↔ cur.layout.notes = .description)
    (howner : l.ownerId = cur.layout.ownerId) (hne : cur.layout ≠ l) :
    Leads original (do
      schema (.addColumn "connections" c)
      schema .commit) cur (Reaches cur l) := by
  obtain ⟨t', ht', hcols, hkey, hrows⟩ := Table.exists_addColumn hc hdefault
  have hperm : t'.columns.Perm l.connections := by
    rw [hcols]
    exact (cur.connections_columns.append_right [c]).trans hcolumns
  have hw : l.workspaces = cur.layout.workspaces := by rw [Layout.workspaces, howner]; rfl
  have hkept := h.putConnections hperm (hkey.trans cur.connections_key) hw hrows howner
    fun row₀ hrow₀ row hrow hrow' => hrow'.addColumn hrow₀ hrow hc hnull hnotes
  refine safe_bind.2 (safe_schema (ddl_alter cur.connections_eq ht') ⟨cur, h, rfl⟩ ?_)
  refine leads_commit hkept ⟨rfl, ?_, fun heq => absurd heq hne⟩
  exact created_put rfl noteTables_ne_connections

theorem leads_migrateNote (h : Kept original cur) :
    Leads original migrateNote cur (Reaches cur { cur.layout with notes := .note }) := by
  refine safe_bind.2 (safe_schema (exec_tableInfo cur.connections_eq) ⟨cur, h, rfl⟩ ?_)
  have hnote : "note" ∈ cur.connections.names ↔ cur.layout.notes = .note :=
    mem_connections_names.trans Layout.note_mem
  have hdescription : "description" ∈ cur.connections.names ↔ cur.layout.notes = .description :=
    mem_connections_names.trans Layout.description_mem
  cases hl : cur.layout.notes with
  | note =>
    rw [if_pos (hnote.2 hl)]
    have hsame : { cur.layout with notes := .note } = cur.layout := by rw [← hl]
    rw [hsame]
    exact leads_pure h reaches_refl
  | description =>
    rw [if_neg (by rw [hnote, hl]; decide), if_pos (hdescription.2 hl)]
    obtain ⟨t', ht', hcols, hkey, hrows⟩ := Table.exists_renameColumn (hdescription.2 hl)
      (show "note" ∉ cur.connections.names by rw [hnote, hl]; decide)
    have hperm : t'.columns.Perm { cur.layout with notes := .note }.connections := by
      rw [hcols]
      refine (cur.connections_columns.map _).trans (List.Perm.of_eq ?_)
      generalize cur.layout = l at hl
      rcases l with ⟨_ | _ | _, _ | _, _ | _, _⟩ <;> first | rfl | cases hl
    have hkept := h.putConnections hperm (hkey.trans cur.connections_key) rfl hrows rfl
      fun row₀ hrow₀ row hrow hrow' => hrow'.rename hrow₀ hrow hl rfl
    refine safe_bind.2 (safe_schema (ddl_alter cur.connections_eq ht') ⟨cur, h, rfl⟩ ?_)
    refine leads_commit hkept ⟨rfl, ?_, fun heq => ?_⟩
    · exact created_put rfl noteTables_ne_connections
    · rw [heq] at hl
      cases hl
  | neither =>
    have hmissing : "note" ∉ cur.connections.names := by
      rw [hnote, hl]
      decide
    rw [if_neg hmissing, if_neg (by rw [hdescription, hl]; decide)]
    refine leads_addColumn_connections h hmissing (by decide) rfl ?_ (by simp [hl]) rfl ?_
    · simp only [Layout.connections, hl, NoteLayout.columns, List.nil_append, List.append_assoc]
      refine List.Perm.append_left _ ?_
      rw [← List.append_assoc]
      exact List.perm_append_comm
    · intro heq
      rw [heq] at hl
      cases hl

/-- A column that may be missing in `connections`. -/
theorem leads_addMissing_connections (h : Kept original cur)
    (hmem : c.name ∈ cur.connections.names ↔ cur.layout = l)
    (hdefault : ¬ (c.notNull ∧ c.default = .null)) (hnull : c.default = .null)
    (hcolumns : cur.layout ≠ l → (cur.layout.connections ++ [c]).Perm l.connections)
    (hnotes : l.notes = cur.layout.notes) (howner : l.ownerId = cur.layout.ownerId) :
    Leads original (addMissingColumn "connections" c) cur (Reaches cur l) := by
  refine safe_bind.2 (safe_schema (exec_tableInfo cur.connections_eq) ⟨cur, h, rfl⟩ ?_)
  split
  next hthere =>
    obtain rfl := hmem.1 hthere
    exact leads_pure h reaches_refl
  next hmissing =>
    have hne : cur.layout ≠ l := fun heq => hmissing (hmem.2 heq)
    exact leads_addColumn_connections h hmissing hdefault hnull (hcolumns hne) (by rw [hnotes])
      howner hne

theorem leads_labels (h : Kept original cur) :
    Leads original (addMissingColumn "connections" labelsColumn) cur
      (Reaches cur { cur.layout with labels := true }) := by
  refine leads_addMissing_connections h ?_ (by decide) rfl (fun hne => ?_) rfl rfl
  · rw [show labelsColumn.name = "labels" from rfl, mem_connections_names, Layout.labels_mem]
    generalize cur.layout = l
    rcases l with ⟨_, _ | _, _, _⟩ <;> simp
  · have hfalse : cur.layout.labels = false := by
      rw [Bool.eq_false_iff]
      intro htrue
      exact hne (by rw [← htrue])
    simp only [Layout.connections, hfalse, whereThere, Bool.false_eq_true, if_false, if_true,
      List.nil_append, List.append_assoc]
    refine List.Perm.append_left _ (List.Perm.append_left _ ?_)
    exact List.perm_append_comm

theorem leads_workspaceId (h : Kept original cur) :
    Leads original (addMissingColumn "connections" workspaceIdColumn) cur
      (Reaches cur { cur.layout with workspaceId := true }) := by
  refine leads_addMissing_connections h ?_ (by decide) rfl (fun hne => ?_) rfl rfl
  · rw [show workspaceIdColumn.name = "workspace_id" from rfl, mem_connections_names,
      Layout.workspaceId_mem]
    generalize cur.layout = l
    rcases l with ⟨_, _, _ | _, _⟩ <;> simp
  · have hfalse : cur.layout.workspaceId = false := by
      rw [Bool.eq_false_iff]
      intro htrue
      exact hne (by rw [← htrue])
    simp only [Layout.connections, hfalse, whereThere, Bool.false_eq_true, if_false, if_true,
      List.append_nil, List.append_assoc]
    exact List.Perm.refl _

/-- A new column of the owners leaves a workspace as it was. -/
theorem WorkspaceKept.addOwnerId {cur' : AgedDatabase} (h : WorkspaceKept original cur row₀ row)
    (hrow₀ : row₀ ∈ original.workspaces.rows) (hrow : row ∈ cur.workspaces.rows)
    (hc : "owner_id" ∉ cur.workspaces.names) :
    WorkspaceKept original cur' row₀ (row.set "owner_id" (.text systemOwnerId)) := by
  refine ⟨fun name hname => ?_, fun _ _ => Dict.get?_set_self⟩
  have heq := h.value name hname
  have hmem := mem_names_of_get?_eq hrow₀ hrow hname heq
  rw [Dict.get?_set_of_ne (by rintro rfl; exact hc hmem), heq]

theorem leads_ownerId (h : Kept original cur) :
    Leads original (addMissingColumn "workspaces" ownerIdColumn) cur
      (Reaches cur { cur.layout with ownerId := true }) := by
  refine safe_bind.2 (safe_schema (exec_tableInfo cur.workspaces_eq) ⟨cur, h, rfl⟩ ?_)
  have howner : ownerIdColumn.name ∈ cur.workspaces.names ↔ cur.layout.ownerId = true :=
    mem_workspaces_names.trans Layout.ownerId_mem
  cases hl : cur.layout.ownerId with
  | true =>
    have hsame : { cur.layout with ownerId := true } = cur.layout := by rw [← hl]
    rw [if_pos (howner.2 hl), hsame]
    exact leads_pure h reaches_refl
  | false =>
    have hmissing : ownerIdColumn.name ∉ cur.workspaces.names := by simp [howner, hl]
    rw [if_neg hmissing]
    obtain ⟨t', ht', hcols, hkey, hrows⟩ := Table.exists_addColumn hmissing (by decide)
    have hperm : t'.columns.Perm { cur.layout with ownerId := true }.workspaces := by
      rw [hcols]
      refine (cur.workspaces_columns.append_right [ownerIdColumn]).trans (List.Perm.of_eq ?_)
      simp [Layout.workspaces, hl, whereThere]
    have hkept := h.putWorkspaces hperm (hkey.trans cur.workspaces_key) rfl
      (hrows.trans (List.append_nil _).symm) rfl
      fun row₀ hrow₀ row hrow hrow' => hrow'.addOwnerId hrow₀ hrow hmissing
    refine safe_bind.2 (safe_schema (ddl_alter cur.workspaces_eq ht') ⟨cur, h, rfl⟩ ?_)
    refine leads_commit hkept ⟨rfl, ?_, fun heq => ?_⟩
    · exact created_put rfl noteTables_ne_workspaces
    · rw [heq] at hl
      cases hl

/-! #### The seed -/

theorem defaultWorkspaceRow_names (now : String) (hl : cur.layout = .current) :
    ∀ k ∈ (defaultWorkspaceRow now).map Prod.fst, k ∈ cur.workspaces.names := by
  intro k hk
  rw [mem_workspaces_names, hl]
  have hall : ∀ k ∈ ["id", "name", "color", "description", "is_default", "owner_id", "created_at",
      "updated_at"], k ∈ Layout.current.workspaces.map Column.name := by decide
  exact hall k hk

/-- The row of the default workspace has no null. -/
theorem defaultWorkspaceRow_ne_null {now : String} (hl : cur.layout = .current)
    (hc : c ∈ cur.workspaces.columns) :
    (cur.workspaces.newRow (defaultWorkspaceRow now)).get? c.name ≠ some .null := by
  rw [Table.get?_newRow hc]
  have hmem : c ∈ Layout.current.workspaces := hl ▸ cur.workspaces_columns.mem_iff.1 hc
  have hall : ∀ c ∈ Layout.current.workspaces,
      ((defaultWorkspaceRow now).get? c.name).getD c.default ≠ .null := by
    simp [Layout.workspaces, Layout.current, workspacesColumns, whereThere, textColumn,
      requiredColumn, ownerIdColumn, defaultWorkspaceRow, Dict.get?]
  exact fun h => hall c hmem (Option.some.inj h)

theorem defaultWorkspaceRow_id (now : String) (hl : cur.layout = .current) :
    (cur.workspaces.newRow (defaultWorkspaceRow now)).get? "id" =
      some (.text defaultWorkspaceId) := by
  have hmem : textColumn "id" ∈ cur.workspaces.columns := by
    rw [cur.workspaces_columns.mem_iff, hl]
    decide
  exact Table.get?_newRow hmem

/-- The seed puts the default workspace there, or finds it. -/
theorem exists_seed (now : String) (hl : cur.layout = .current) :
    ∃ t' more, cur.workspaces.insertOrIgnore (defaultWorkspaceRow now) = some t' ∧
      t'.columns = cur.workspaces.columns ∧ t'.primaryKey = cur.workspaces.primaryKey ∧
      t'.rows = cur.workspaces.rows ++ more ∧
      (∃ row ∈ t'.rows, row.get? "id" = some (.text defaultWorkspaceId)) ∧
      ((∃ row ∈ cur.workspaces.rows, row.get? "id" = some (.text defaultWorkspaceId)) →
        t' = cur.workspaces) := by
  have hid := defaultWorkspaceRow_id now hl
  obtain ⟨t', ht', hcols, hkey, ⟨hignored, rfl⟩ | ⟨hnew, hrows⟩⟩ :=
    Table.insertOrIgnore_eq_some (defaultWorkspaceRow_names now hl)
  · refine ⟨_, [], ht', hcols, hkey, (List.append_nil _).symm, ?_, fun _ => rfl⟩
    rw [Table.ignores, Bool.or_eq_true, List.any_eq_true, List.any_eq_true] at hignored
    rcases hignored with ⟨row, hrow, htaken⟩ | ⟨c, hc, hnull⟩
    · rw [cur.workspaces_key] at htaken
      refine ⟨row, hrow, ?_⟩
      rw [← hid]
      simpa using htaken
    · rw [Bool.and_eq_true, decide_eq_true_iff] at hnull
      exact absurd hnull.2 (defaultWorkspaceRow_ne_null hl hc)
  · refine ⟨_, _, ht', hcols, hkey, hrows, ⟨_, ?_, hid⟩, fun hthere => ?_⟩
    · rw [hrows]
      exact List.mem_append_right _ List.mem_cons_self
    · -- the key is taken, so the row is ignored
      obtain ⟨row, hrow, htaken⟩ := hthere
      have hignored : cur.workspaces.ignores
          (cur.workspaces.newRow (defaultWorkspaceRow now)) = true := by
        rw [Table.ignores, Bool.or_eq_true, List.any_eq_true]
        refine Or.inl ⟨row, hrow, ?_⟩
        rw [cur.workspaces_key]
        simp [htaken, hid]
      rw [hignored] at hnew
      cases hnew

theorem leads_seed (now : String) (h : Kept original cur) (hl : cur.layout = .current) :
    Leads original (seedDefaultWorkspace now) cur fun cur' => cur'.layout = .current ∧
      Seeded cur' ∧ (Created cur → Created cur') ∧ (Seeded cur → cur'.db = cur.db) := by
  obtain ⟨w, more, hw, hwcols, hwkey, hwrows, hdefault, hwsame⟩ := exists_seed now hl
  have hws : "workspace_id" ∈ cur.connections.names := by
    rw [mem_connections_names, Layout.workspaceId_mem, hl]
    rfl
  obtain ⟨t, ht, htcols, htkey, htrows⟩ :=
    Table.updateNull_eq_some (v := .text defaultWorkspaceId) hws
  have hwperm : w.columns.Perm cur.layout.workspaces := hwcols ▸ cur.workspaces_columns
  have hseeded := h.putWorkspaces (f := id) hwperm (hwkey.trans cur.workspaces_key) rfl
    (by rw [hwrows, List.map_id]) rfl fun row₀ _ row _ hrow => ⟨hrow.value, hrow.ownerId⟩
  have htperm : t.columns.Perm cur.layout.connections := htcols ▸ cur.connections_columns
  have hfilled := hseeded.putConnections htperm (htkey.trans cur.connections_key) rfl htrows rfl
    fun row₀ _ row _ hrow => hrow.fill rfl
  have htables : (cur.db.put "workspaces" w).tables "connections" = some cur.connections :=
    (Database.tables_put_of_ne (by decide)).trans cur.connections_eq
  refine safe_bind.2 (safe_schema (dml_alter cur.workspaces_eq hw) ⟨cur, h, rfl⟩ ?_)
  refine safe_bind.2 (safe_schema (dml_alter htables ht) ⟨cur, h, rfl⟩ ?_)
  refine safe_schema rfl ⟨cur, h, rfl⟩ ⟨_, rfl, hfilled, hl, ⟨hdefault, ?_⟩, fun hcreated => ?_, ?_⟩
  · intro row' hrow' hnull
    change row' ∈ t.rows at hrow'
    rw [htrows] at hrow'
    obtain ⟨row, -, rfl⟩ := List.mem_map.1 hrow'
    rw [Table.get?_fill_self] at hnull
    obtain ⟨v, -, hv⟩ := Option.map_eq_some_iff.1 hnull
    split at hv
    next => cases hv
    next hne => exact hne hv
  · have hmid : Created (cur.putWorkspaces w cur.layout hwperm
        (hwkey.trans cur.workspaces_key) rfl) := created_put rfl noteTables_ne_workspaces hcreated
    exact created_put rfl noteTables_ne_connections hmid
  · rintro ⟨hthere, hnone⟩
    obtain rfl := hwsame hthere
    have hsame : t = cur.connections := by
      refine Schema.Table.ext htcols htkey ?_
      rw [htrows, Table.map_fill hnone]
    change (cur.db.put "workspaces" cur.workspaces).put "connections" t = cur.db
    rw [Database.put_self cur.workspaces_eq, hsame, Database.put_self cur.connections_eq]

end Steps

/-! ### The tables and the indexes -/

namespace AgedDatabase

/-- One of the other tables is created where it is missing. -/
def withTable (cur : AgedDatabase) (d : TableDefinition) (hd : d ∈ noteTables) : AgedDatabase where
  db := cur.db.createTable d.name d.empty
  layout := cur.layout
  connections := cur.connections
  connections_eq := (Database.tables_createTable_of_ne
    (noteTables_ne_connections d hd).symm).trans cur.connections_eq
  connections_columns := cur.connections_columns
  connections_key := cur.connections_key
  workspaces := cur.workspaces
  workspaces_eq := (Database.tables_createTable_of_ne
    (noteTables_ne_workspaces d hd).symm).trans cur.workspaces_eq
  workspaces_columns := cur.workspaces_columns
  workspaces_key := cur.workspaces_key
  notes := by
    intro d' hd' t ht
    by_cases hname : d'.name = d.name
    · have hsame : d' = d := by
        have hinj : ∀ d ∈ noteTables, ∀ d' ∈ noteTables, d'.name = d.name → d' = d := by
          simp [noteTables, setNotesTable, recordNotesTable, guidesTable]
        exact hinj d hd d' hd' hname
      subst hsame
      rw [Database.tables_createTable_self, Option.some.injEq] at ht
      cases hold : cur.db.tables d'.name with
      | none =>
        rw [hold, Option.getD_none] at ht
        exact ht ▸ ⟨List.Perm.refl _, rfl⟩
      | some t' =>
        rw [hold, Option.getD_some] at ht
        exact cur.notes d' hd t (ht ▸ hold)
    · rw [Database.tables_createTable_of_ne hname] at ht
      exact cur.notes d' hd' t ht

/-- An index is created where it is missing. -/
def withIndex (cur : AgedDatabase) (index : String) : AgedDatabase :=
  { cur with
    db :=
      { cur.db with
        indexes := if index ∈ cur.db.indexes then cur.db.indexes else cur.db.indexes ++ [index] } }

end AgedDatabase

section Creation

variable {original cur : AgedDatabase} {d : TableDefinition} {hd : d ∈ noteTables}
  {index : String}

/-- What is kept is read off the two older tables. -/
theorem Kept.of_eq {cur' : AgedDatabase} (h : Kept original cur)
    (hlayout : cur'.layout = cur.layout)
    (hconnections : cur'.connections = cur.connections)
    (hworkspaces : cur'.workspaces = cur.workspaces) : Kept original cur' where
  connections := by
    rw [hconnections]
    refine h.connections.imp fun _ _ hrow => ⟨hrow.value, ?_, hrow.workspaceId, hrow.filled⟩
    rw [hlayout]
    exact hrow.note
  workspaces := by
    obtain ⟨kept, added, heq, hkept⟩ := h.workspaces
    refine ⟨kept, added, hworkspaces ▸ heq, hkept.imp fun _ _ hrow => ⟨hrow.value, ?_⟩⟩
    rw [hlayout]
    exact hrow.ownerId

theorem Kept.withTable (h : Kept original cur) (hd : d ∈ noteTables) :
    Kept original (cur.withTable d hd) := h.of_eq rfl rfl rfl

theorem Kept.withIndex (h : Kept original cur) (index : String) :
    Kept original (cur.withIndex index) := h.of_eq rfl rfl rfl

/-- An index on columns that the table has is not refused. -/
theorem createIndex_eq {columns : List String} (hd : d ∈ noteTables)
    (hthere : ∃ t, cur.db.tables d.name = some t)
    (hcolumns : ∀ c ∈ columns, c ∈ d.columns.map Column.name) :
    cur.db.createIndex index d.name columns = some (cur.withIndex index).db := by
  obtain ⟨t, ht⟩ := hthere
  have hnames : ∀ c ∈ columns, c ∈ t.names := by
    intro c hc
    exact ((cur.notes d hd t ht).1.map Column.name).mem_iff.2 (hcolumns c hc)
  unfold Database.createIndex AgedDatabase.withIndex
  split
  next hin => rfl
  next hout => rw [ht, Option.bind_some, if_pos hnames]

/-- A table that is there stays as it is. -/
theorem leads_createTable_there {q : SchemaProgram Unit} {post : AgedDatabase → Prop}
    {t : Schema.Table} (h : Kept original cur) (ht : cur.db.tables d.name = some t)
    (hq : Leads original q cur post) :
    Leads original (schema (.createTable d) >>= fun _ => q) cur post := by
  have hexec : SchemaSession.exec (.createTable d) ⟨cur.db, none⟩ = (.ok (), ⟨cur.db, none⟩) := by
    change (Except.ok (), (⟨cur.db.createTable d.name d.empty, none⟩ : SchemaSession)) = _
    rw [Database.createTable_of_some ht]
  exact safe_bind.2 (safe_schema hexec ⟨cur, h, rfl⟩ hq)

theorem leads_createTable {q : SchemaProgram Unit} {post : AgedDatabase → Prop}
    (h : Kept original cur) (hd : d ∈ noteTables)
    (hq : Leads original q (cur.withTable d hd) post) :
    Leads original (schema (.createTable d) >>= fun _ => q) cur post :=
  safe_bind.2 (safe_schema rfl ⟨cur, h, rfl⟩ hq)

theorem leads_createIndex {q : SchemaProgram Unit} {post : AgedDatabase → Prop}
    {columns : List String} (h : Kept original cur) (hd : d ∈ noteTables)
    (hthere : ∃ t, cur.db.tables d.name = some t)
    (hcolumns : ∀ c ∈ columns, c ∈ d.columns.map Column.name)
    (hq : Leads original q (cur.withIndex index) post) :
    Leads original (schema (.createIndex index d.name columns) >>= fun _ => q) cur post := by
  have hexec : SchemaSession.exec (.createIndex index d.name columns) ⟨cur.db, none⟩ =
      (.ok (), ⟨(cur.withIndex index).db, none⟩) := by
    change SchemaSession.ddl _ (cur.db.createIndex index d.name columns) = _
    rw [createIndex_eq hd hthere hcolumns]
    rfl
  exact safe_bind.2 (safe_schema hexec ⟨cur, h, rfl⟩ hq)

/-- A table is there after its creation, and stays there. -/
theorem there_withTable {name : String}
    (h : name = d.name ∨ ∃ t, cur.db.tables name = some t) :
    ∃ t, (cur.withTable d hd).db.tables name = some t := by
  by_cases hname : name = d.name
  · rw [hname]
    exact ⟨_, Database.tables_createTable_self⟩
  · obtain ⟨t, ht⟩ := h.resolve_left hname
    exact ⟨t, (Database.tables_createTable_of_ne hname).trans ht⟩

theorem mem_indexes_withIndex {name : String} (h : name = index ∨ name ∈ cur.db.indexes) :
    name ∈ (cur.withIndex index).db.indexes := by
  unfold AgedDatabase.withIndex
  dsimp only
  split
  next hin => exact h.elim (fun heq => heq ▸ hin) id
  next => exact h.elim (fun heq => by simp [heq]) (List.mem_append_left _)

/-- The other tables and the indexes, in the order in which `init_db` creates them. -/
def allCreated (cur : AgedDatabase) : AgedDatabase :=
  ((((cur.withTable setNotesTable setNotesTable_mem).withIndex "idx_set_notes_conn_ns").withTable
    recordNotesTable recordNotesTable_mem).withIndex "idx_record_notes_conn_ns_set").withTable
    guidesTable guidesTable_mem

theorem created_allCreated : Created (allCreated cur) := by
  refine ⟨?_, ?_, ?_⟩
  · intro d hd
    refine there_withTable ?_
    simp only [noteTables, List.mem_cons, List.not_mem_nil, or_false] at hd
    rcases hd with rfl | rfl | rfl
    · exact Or.inr (there_withTable (Or.inr (there_withTable (Or.inl rfl))))
    · exact Or.inr (there_withTable (Or.inl rfl))
    · exact Or.inl rfl
  · refine (congrArg (_ ∈ ·) Database.indexes_createTable).mpr (mem_indexes_withIndex (Or.inr ?_))
    refine (congrArg (_ ∈ ·) Database.indexes_createTable).mpr (mem_indexes_withIndex (Or.inl rfl))
  · exact (congrArg (_ ∈ ·) Database.indexes_createTable).mpr (mem_indexes_withIndex (Or.inl rfl))

theorem allCreated_eq (h : Created cur) : allCreated cur = cur := by
  have htable : ∀ cur : AgedDatabase, Created cur → ∀ d hd, cur.withTable d hd = cur := by
    intro cur h d hd
    obtain ⟨t, ht⟩ := h.1 d hd
    exact AgedDatabase.ext (Database.createTable_of_some ht) rfl rfl rfl
  have hindex : ∀ cur : AgedDatabase, ∀ index ∈ cur.db.indexes, cur.withIndex index = cur := by
    intro cur index hin
    refine AgedDatabase.ext ?_ rfl rfl rfl
    unfold AgedDatabase.withIndex
    rw [if_pos hin]
  unfold allCreated
  rw [htable cur h, hindex cur _ h.2.1, htable cur h, hindex cur _ h.2.2, htable cur h]

theorem leads_createTables (h : Kept original cur) :
    Leads original createTables cur fun cur' => cur' = allCreated cur := by
  have h₁ := h.withTable setNotesTable_mem
  have h₂ := h₁.withIndex "idx_set_notes_conn_ns"
  have h₃ := h₂.withTable recordNotesTable_mem
  have h₄ := h₃.withIndex "idx_record_notes_conn_ns_set"
  have h₅ := h₄.withTable guidesTable_mem
  refine leads_createTable_there h cur.connections_eq ?_
  refine leads_createTable_there h cur.workspaces_eq ?_
  refine leads_createTable h setNotesTable_mem ?_
  refine leads_createIndex h₁ setNotesTable_mem (there_withTable (Or.inl rfl)) (by decide) ?_
  refine leads_createTable h₂ recordNotesTable_mem ?_
  refine leads_createIndex h₃ recordNotesTable_mem (there_withTable (Or.inl rfl)) (by decide) ?_
  refine leads_createTable h₄ guidesTable_mem ?_
  exact leads_commit h₅ rfl

/-- A start leads to a database of today, and leaves one as it is. -/
theorem leads_initDb (now : String) (h : Kept original cur) :
    Leads original (initDb now) cur fun cur' =>
      Current cur' ∧ (Current cur → cur'.db = cur.db) := by
  refine safe_bind.2 (safe_schema rfl ⟨cur, h, rfl⟩ ?_)
  refine safe_bind.2 (safe_schema rfl ⟨cur, h, rfl⟩ ?_)
  refine (leads_createTables h).bind fun cur₁ h₁ hcur₁ => ?_
  refine (leads_migrateNote h₁).bind fun cur₂ h₂ hr₂ => ?_
  refine (leads_labels h₂).bind fun cur₃ h₃ hr₃ => ?_
  refine (leads_workspaceId h₃).bind fun cur₄ h₄ hr₄ => ?_
  refine (leads_ownerId h₄).bind fun cur₅ h₅ hr₅ => ?_
  have hl₅ : cur₅.layout = .current := by
    rw [hr₅.layout, hr₄.layout, hr₃.layout, hr₂.layout]
    rfl
  have hcreated : Created cur₅ :=
    hr₅.created (hr₄.created (hr₃.created (hr₂.created (hcur₁ ▸ created_allCreated))))
  refine (leads_seed now h₅ hl₅).mono fun cur' ⟨hl, hseeded, hkeeps, hsame⟩ => ?_
  refine ⟨⟨hl, hkeeps hcreated, hseeded⟩, fun hcurrent => ?_⟩
  have heq₁ : cur₁ = cur := hcur₁.trans (allCreated_eq hcurrent.created)
  subst heq₁
  have hl := hcurrent.layout
  obtain rfl := hr₂.same (by rw [hl]; rfl)
  obtain rfl := hr₃.same (by rw [hl]; rfl)
  obtain rfl := hr₄.same (by rw [hl]; rfl)
  obtain rfl := hr₅.same (by rw [hl]; rfl)
  exact hsame hcurrent.seeded

end Creation

/-! ### Starts -/

/-- A connection after its migration. -/
structure ConnectionMigrated (original : AgedDatabase) (row₀ row : Row) : Prop where
  value : ∀ name ∈ original.connections.names, name ≠ "description" → name ≠ "workspace_id" →
    row.get? name = row₀.get? name
  note : original.layout.notes = .description → row.get? "note" = row₀.get? "description"
  workspaceId : ∀ v, row₀.get? "workspace_id" = some v → v ≠ .null →
    row.get? "workspace_id" = some v
  filled : row₀.get? "workspace_id" = none ∨ row₀.get? "workspace_id" = some .null →
    row.get? "workspace_id" = some (.text defaultWorkspaceId)

/-- A workspace after its migration. -/
structure WorkspaceMigrated (original : AgedDatabase) (row₀ row : Row) : Prop where
  value : ∀ name ∈ original.workspaces.names, row.get? name = row₀.get? name
  ownerId : original.layout.ownerId = false → row.get? "owner_id" = some (.text systemOwnerId)

/-- The schema of today, with every row of the original and the default workspace. -/
structure Migrated (original : AgedDatabase) (final : Database) : Prop where
  connections : ∃ t, final.tables "connections" = some t ∧
    t.columns.Perm (connectionsColumns ++ [workspaceIdColumn]) ∧ t.primaryKey = ["id"] ∧
    List.Forall₂ (ConnectionMigrated original) original.connections.rows t.rows
  workspaces : ∃ t kept added, final.tables "workspaces" = some t ∧
    t.columns.Perm workspacesColumns ∧ t.primaryKey = ["id"] ∧ t.rows = kept ++ added ∧
    List.Forall₂ (WorkspaceMigrated original) original.workspaces.rows kept ∧
    ∃ row ∈ t.rows, row.get? "id" = some (.text defaultWorkspaceId)
  notes : ∀ d ∈ noteTables, ∃ t, final.tables d.name = some t ∧ t.columns.Perm d.columns ∧
    t.primaryKey = d.primaryKey
  indexes : "idx_set_notes_conn_ns" ∈ final.indexes ∧
    "idx_record_notes_conn_ns_set" ∈ final.indexes

section Starts

variable {original cur : AgedDatabase}

theorem Layout.current_connections :
    Layout.current.connections.Perm (connectionsColumns ++ [workspaceIdColumn]) := by decide

theorem Layout.current_workspaces : Layout.current.workspaces.Perm workspacesColumns := by decide

/-- The connection of a database of today is not in no workspace. -/
theorem ConnectionKept.migrated {row₀ row : Row} (h : ConnectionKept original cur row₀ row)
    (hcurrent : Current cur) (hrow : row ∈ cur.connections.rows) :
    ConnectionMigrated original row₀ row := by
  refine ⟨h.value, fun hdescription => ?_, h.workspaceId, fun hnull => ?_⟩
  · have hnote := h.note hdescription
    rwa [if_neg (by rw [hcurrent.layout]; decide)] at hnote
  · rcases h.filled hnull with hnone | hnull | hdefault
    · have hthere : "workspace_id" ∈ cur.connections.names := by
        rw [mem_connections_names, Layout.workspaceId_mem, hcurrent.layout]
        rfl
      rw [← Table.get?_isSome hrow, hnone] at hthere
      cases hthere
    · exact absurd hnull (hcurrent.seeded.2 row hrow)
    · exact hdefault

theorem Kept.migrated (h : Kept original cur) (hcurrent : Current cur) :
    Migrated original cur.db where
  connections := by
    refine ⟨cur.connections, cur.connections_eq, ?_, cur.connections_key, ?_⟩
    · exact (hcurrent.layout ▸ cur.connections_columns).trans Layout.current_connections
    · have hrows := forall₂_map_of_mem (f := id) h.connections
        fun row₀ _ row hrow hrow' => hrow'.migrated hcurrent hrow
      rwa [List.map_id] at hrows
  workspaces := by
    obtain ⟨kept, added, heq, hkept⟩ := h.workspaces
    refine ⟨cur.workspaces, kept, added, cur.workspaces_eq, ?_, cur.workspaces_key, heq, ?_,
      hcurrent.seeded.1⟩
    · exact (hcurrent.layout ▸ cur.workspaces_columns).trans Layout.current_workspaces
    · refine hkept.imp fun row₀ row hrow => ⟨hrow.value, fun hfalse => hrow.ownerId hfalse ?_⟩
      rw [hcurrent.layout]
      rfl
  notes := by
    intro d hd
    obtain ⟨t, ht⟩ := hcurrent.created.1 d hd
    exact ⟨t, ht, cur.notes d hd t ht⟩
  indexes := hcurrent.created.2

/-- A start that is not killed. -/
theorem start_eq (now : String) (h : Kept original cur) :
    ∃ cur', start now cur.db = (.ok (), cur'.db) ∧ Kept original cur' ∧ Current cur' ∧
      (Current cur → cur'.db = cur.db) := by
  have hexec : ∀ r s, Executes r (SchemaSession.exec r s).1 s (SchemaSession.exec r s).2 :=
    fun _ _ => rfl
  have hrun := Safe.run (leads_initDb now h) fun r s _ => hexec r s
  unfold start
  split at hrun
  next a s hend =>
    obtain ⟨cur', rfl, hkept, hcurrent, hsame⟩ := hrun
    exact ⟨cur', by rw [hend], hkept, hcurrent, hsame⟩
  next => exact hrun.elim

/-- A start that is killed leaves the rows where the next one finds them. -/
theorem onTheWay_killed (n : ℕ) (now : String) (h : Kept original cur) :
    OnTheWay original (killed n now cur.db) := by
  refine Safe.runFor (leads_initDb now h) (fun _ _ => rfl) (fun _ _ hs => hs) ?_
    (fun _ _ => False.elim) n
  rintro _ s ⟨cur', rfl, hkept, -⟩
  exact ⟨cur', hkept, rfl⟩

theorem onTheWay_afterKills (kills : List (ℕ × String)) (h : Kept original cur) :
    OnTheWay original (afterKills cur.db kills) := by
  induction kills generalizing cur with
  | nil => exact ⟨cur, h, rfl⟩
  | cons kill kills ih =>
    obtain ⟨cur', hkept, hdb⟩ := onTheWay_killed kill.1 kill.2 h
    unfold afterKills
    rw [List.foldl_cons, ← hdb]
    exact ih hkept

/-- However many starts are killed, and wherever, the next one that is not ends with every row of
the original in the schema of today, and one more start changes nothing. -/
theorem restartable (original : AgedDatabase) (kills : List (ℕ × String)) (now now' : String) :
    ∃ final, start now (afterKills original.db kills) = (.ok (), final) ∧
      Migrated original final ∧ start now' final = (.ok (), final) := by
  obtain ⟨cur, hkept, hdb⟩ := onTheWay_afterKills kills (kept_refl original)
  obtain ⟨cur', hstart, hkept', hcurrent, -⟩ := start_eq now hkept
  obtain ⟨cur'', hagain, -, -, hsame⟩ := start_eq now' hkept'
  rw [hdb] at hstart
  refine ⟨cur'.db, hstart, hkept'.migrated hcurrent, ?_⟩
  rw [hagain, hsame hcurrent]

end Starts

/-! ### An old database -/

/-- A connection has a description and nothing that came later, and a workspace has no owner. -/
def oldLayout : Layout := ⟨.description, false, false, false⟩

def oldConnections : Schema.Table where
  columns := oldLayout.connections
  primaryKey := ["id"]
  rows := [[("id", .text "c1"), ("name", .text "prod"), ("hosts", .text "[\"10.0.0.1\"]"),
    ("port", .integer 3000), ("cluster_name", .null), ("username", .null), ("password", .null),
    ("color", .text "#0097D3"), ("created_at", .text "2024"), ("updated_at", .text "2024"),
    ("description", .text "the old one")]]
  nodup := by decide
  keys_eq := by decide

def oldWorkspaces : Schema.Table where
  columns := oldLayout.workspaces
  primaryKey := ["id"]
  rows := [[("id", .text "ws-1"), ("name", .text "team"), ("color", .text "#6366F1"),
    ("description", .null), ("is_default", .integer 0), ("created_at", .text "2024"),
    ("updated_at", .text "2024")]]
  nodup := by decide
  keys_eq := by decide

def oldDatabase : AgedDatabase where
  db := ⟨fun name => if name = "connections" then some oldConnections
    else if name = "workspaces" then some oldWorkspaces else none, []⟩
  layout := oldLayout
  connections := oldConnections
  connections_eq := rfl
  connections_columns := List.Perm.refl _
  connections_key := rfl
  workspaces := oldWorkspaces
  workspaces_eq := rfl
  workspaces_columns := List.Perm.refl _
  workspaces_key := rfl
  notes := by decide

/-- The first start is killed between the renaming of the column and its commit, and the second one
before it gives the workspaces their owner. -/
theorem restartable_description : ∃ final t row,
    start "2026" (afterKills oldDatabase.db [(12, "2025"), (17, "2025")]) = (.ok (), final) ∧
      final.tables "connections" = some t ∧ t.rows = [row] ∧
      row.get? "note" = some (.text "the old one") ∧
      row.get? "workspace_id" = some (.text defaultWorkspaceId) ∧
      start "2027" final = (.ok (), final) := by
  obtain ⟨final, hstart, hmigrated, hagain⟩ :=
    restartable oldDatabase [(12, "2025"), (17, "2025")] "2026" "2027"
  obtain ⟨t, ht, -, -, hrows⟩ := hmigrated.connections
  obtain ⟨row, rest, hrow, hrest, hcons⟩ := List.forall₂_cons_left_iff.1 hrows
  rw [List.forall₂_nil_left_iff] at hrest
  subst hrest
  exact ⟨final, t, row, hstart, ht, hcons, hrow.note rfl, hrow.filled (Or.inl rfl), hagain⟩

end ClusterManager.Db.SqliteSchema
