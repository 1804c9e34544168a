import ClusterManager.Db.Agreement

/-!
# What a call leaves in the tables

`ApiCall.Effect` says of each call that writes what it answers and what the tables hold after it. A
row that is created, updated or upserted is then the row under its key and the others are as they
were (`Stores`). A delete answers whether there was a row, and the notes of a connection and the
guides of a workspace go with it. Both backends do just that (`sqlite_effect`, `postgres_effect`).
-/

namespace ClusterManager.Db.Backend

open JsonText (dumps loads ascii)
open PostgresApi (Server)

/-! ### Rows that are stored -/

section Tables

variable {α β ρ κ : Type} {key : α → κ} {t t' u : Table α key} {a b : α} {k : κ}

/-- A row is stored: the table has it, and the rows under other keys are as they were. -/
structure Stores (a : α) (t t' : Table α key) : Prop where
  mem : a ∈ t'
  others : ∀ b, key b ≠ key a → (b ∈ t' ↔ b ∈ t)

/-- A row that goes by `P` is added under a new key. Under a key that is taken nothing is. -/
def Inserts [DecidableEq κ] (k : κ) (P : α → Prop) (t t' : Table α key)
    (result : Except Exc Unit) : Prop :=
  match t.find? k with
  | some _ => (∃ e, result = .error e) ∧ t' = t
  | none => result = .ok () ∧ ∃ a, key a = k ∧ P a ∧ Stores a t t'

/-- What `merge` makes of the row under a key is answered and stored. Without a row the answer is
`None`, and where the merge raises nothing is stored. -/
def Updates [DecidableEq κ] (k : κ) (merge : α → Except Exc β) (P : β → α → Prop)
    (t t' : Table α key) (result : Except Exc (Option β)) : Prop :=
  match t.find? k with
  | none => result = .ok none ∧ t' = t
  | some a =>
    match merge a with
    | .error e => result = .error e ∧ t' = t
    | .ok b => result = .ok (some b) ∧ ∃ a', key a' = k ∧ P b a' ∧ Stores a' t t'

/-- A row is stored if what it refers to is there, and answered as `read` reads it. -/
def Upserts (referred : Option ρ) (a : α) (read : α → Except Exc β) (t t' : Table α key)
    (result : Except Exc β) : Prop :=
  match referred with
  | none => (∃ e, result = .error e) ∧ t' = t
  | some _ => result = read a ∧ Stores a t t'

/-- The row under a key is removed, and the answer is whether there was one. -/
def Deletes [DecidableEq κ] (k : κ) (t t' : Table α key) (result : Except Exc Bool) : Prop :=
  result = .ok (t.find? k).isSome ∧ t'.rows = t.rows.filter (key · ≠ k)

variable [DecidableEq κ]

theorem stores_insert (h : t.insert? a = some u) : Stores a t u where
  mem := (Table.mem_insert? h).2 (.inr rfl)
  others b hb := by
    rw [Table.mem_insert? h]
    exact or_iff_left fun hab => hb (congrArg key hab)

theorem stores_update {f : α → α} (hf : ∀ a, key (f a) = key a) (h : t.find? k = some a) :
    Stores (f a) t (t.update k f hf) := by
  obtain ⟨hmem, rfl⟩ := Table.find?_eq_some.1 h
  refine ⟨(Table.mem_update hf).2 ⟨a, hmem, (if_pos rfl).symm⟩, fun b hb => ?_⟩
  rw [hf] at hb
  rw [Table.mem_update hf]
  constructor
  · rintro ⟨c, hc, rfl⟩
    split at hb
    next hk => exact absurd ((hf c).trans hk) hb
    next hk => rwa [if_neg hk]
  · exact fun hmem => ⟨b, hmem, (if_neg hb).symm⟩

theorem stores_upsert {f : α → α} (hf : ∀ a, key (f a) = key a) :
    Stores (t.upsert a f hf).1 t (t.upsert a f hf).2 := by
  cases hfind : t.find? (key a) with
  | some b =>
    rw [Table.upsert_of_find?_eq_some hf hfind]
    exact stores_update hf hfind
  | none =>
    obtain ⟨u, hu, hupsert⟩ := Table.upsert_of_find?_eq_none hf hfind
    rw [hupsert]
    exact stores_insert hu

/-- The row an upsert stores: the new one, or the one that was there as it is rewritten. -/
theorem upsert_fst {f : α → α} (hf : ∀ a, key (f a) = key a) :
    (t.upsert a f hf).1 = ((t.find? (key a)).map f).getD a := by
  cases hfind : t.find? (key a) with
  | some b =>
    rw [Table.upsert_of_find?_eq_some hf hfind]
    rfl
  | none =>
    obtain ⟨u, -, hupsert⟩ := Table.upsert_of_find?_eq_none hf hfind
    rw [hupsert]
    rfl

theorem inserts_taken {P : α → Prop} {e : Exc} (h : t.insert? a = none) :
    Inserts (key a) P t t (.error e) := by
  obtain ⟨b, hb⟩ := Table.insert?_eq_none.1 h
  rw [Inserts, hb]
  exact ⟨⟨e, rfl⟩, rfl⟩

theorem inserts_fresh {P : α → Prop} (h : t.insert? a = some u) (ha : P a) :
    Inserts (key a) P t u (.ok ()) := by
  rw [Inserts, Table.find?_eq_none.2 (Table.insert?_eq_some.1 h).1]
  exact ⟨rfl, a, rfl, ha, stores_insert h⟩

/-- The rows a `DELETE` by the primary key counts and removes. -/
theorem deletes {q : α → Bool} (hq : ∀ a, q a = true ↔ key a = k) :
    Deletes k t (t.delete q) (.ok (t.rows.countP q == 1)) := by
  constructor
  · rw [List.countP_eq_length_filter, t.filter_key fun a _ => hq a]
    cases t.find? k <;> rfl
  · refine List.filter_congr fun a _ => ?_
    rw [Bool.eq_iff_iff, Bool.not_eq_true', Bool.eq_false_iff, ne_eq, hq, decide_eq_true_eq]

end Tables

/-! ### The effect of a call -/

section Effects

variable {J B : Type}

/-- How a backend reads its columns. -/
structure Reading (J B : Type) where
  text : J → String
  truth : B → Bool
  rowToProfile : ConnectionColumns J → Except Exc ConnectionProfile
  rowToWorkspace : WorkspaceColumns B → Except Exc Workspace

/-- Columns that hold a profile: its hosts and its labels as JSON, the labels in some order, and its
password as it decrypts. -/
def Holds (py : Python) (text : J → String) (conn : ConnectionProfile) (row : ConnectionColumns J) :
    Prop :=
  ∃ hosts labels password d, row = written hosts labels password conn.id conn.createdAt conn ∧
    loads (text hosts) = some (listJson conn.hosts) ∧
    loads (text labels) = some (dictJson d) ∧ conn.labels.Perm d ∧
    decryptPassword py.fernet password = .ok conn.password

/-- When the row under a key was created, or else now. -/
def createdOr {α κ : Type} {key : α → κ} [DecidableEq κ] (createdAt : α → String) (k : κ)
    (t : Table α key) (now : String) : String :=
  ((t.find? k).map createdAt).getD now

/-- What a delete of a connection does: its notes go with it, nothing else does. -/
def DeletesConnection (connId : String) (s s' : Store J B) (result : Except Exc Bool) : Prop :=
  match s.connections.find? connId with
  | none => result = .ok false ∧ s' = s
  | some _ =>
    result = .ok true ∧
      s'.connections.rows = s.connections.rows.filter (·.id ≠ connId) ∧
      s'.setNotes.rows = s.setNotes.rows.filter (·.connectionId ≠ connId) ∧
      s'.recordNotes.rows = s.recordNotes.rows.filter (·.connectionId ≠ connId) ∧
      s'.workspaces = s.workspaces ∧ s'.guides = s.guides

/-- What a delete of a workspace does: its guides go with it, nothing else does. The default
workspace stays. -/
def DeletesWorkspace (truth : B → Bool) (workspaceId : String) (s s' : Store J B)
    (result : Except Exc Bool) : Prop :=
  match (s.workspaces.find? workspaceId).filter fun row => !truth row.isDefault with
  | none => result = .ok false ∧ s' = s
  | some _ =>
    result = .ok true ∧
      s'.workspaces.rows = s.workspaces.rows.filter (·.id ≠ workspaceId) ∧
      s'.guides.rows = s.guides.rows.filter (·.workspaceId ≠ workspaceId) ∧
      s'.connections = s.connections ∧ s'.setNotes = s.setNotes ∧ s'.recordNotes = s.recordNotes

/-- What the calls that write answer and leave in the tables. -/
def ApiCall.Effect {py : Python} (reading : Reading J B) (s s' : Store J B) :
    (call : ApiCall py.toRuntime) → Except Exc call.Resp → Prop
  | .createConnection conn, result =>
      Inserts conn.profile.id (Holds py reading.text conn.profile) s.connections s'.connections
          result ∧
        s' = { s with connections := s'.connections }
  | .updateConnection connId data now, result =>
      Updates connId
          (fun row => do
            let existing ← reading.rowToProfile row
            buildMergedProfile py.toRuntime existing data connId now)
          (Holds py reading.text) s.connections s'.connections result ∧
        s' = { s with connections := s'.connections }
  | .deleteConnection connId, result => DeletesConnection connId s s' result
  | .createWorkspace ws, result =>
      Inserts ws.id (fun row => row.decoded reading.truth = ws) s.workspaces s'.workspaces result ∧
        s' = { s with workspaces := s'.workspaces }
  | .updateWorkspace workspaceId data now, result =>
      Updates workspaceId
          (fun row => do
            let existing ← reading.rowToWorkspace row
            buildMergedWorkspace existing data now)
          (fun ws row => (row.decoded reading.truth).withOwner = ws) s.workspaces s'.workspaces
          result ∧
        s' = { s with workspaces := s'.workspaces }
  | .deleteWorkspace workspaceId, result =>
      DeletesWorkspace reading.truth workspaceId s s' result
  | .upsertSetNote connectionId namespace_ setName note updatedBy now, result =>
      let createdAt := createdOr SetNote.createdAt (connectionId, namespace_, setName) s.setNotes now
      Upserts (s.connections.find? connectionId)
          { connectionId, namespace_, setName, note, createdAt, updatedAt := now, updatedBy }
          .ok s.setNotes s'.setNotes result ∧
        s' = { s with setNotes := s'.setNotes }
  | .deleteSetNote connectionId namespace_ setName, result =>
      Deletes (connectionId, namespace_, setName) s.setNotes s'.setNotes result ∧
        s' = { s with setNotes := s'.setNotes }
  | .upsertRecordNote connectionId namespace_ setName pkText pkType note digestHex updatedBy now,
      result =>
      let createdAt := createdOr RecordNote.createdAt
        (connectionId, namespace_, setName, pkText, pkType) s.recordNotes now
      Upserts (s.connections.find? connectionId)
          { connectionId, namespace_, setName, pkText, pkType, digestHex, note, createdAt
            updatedAt := now, updatedBy }
          rowToRecordNote s.recordNotes s'.recordNotes result ∧
        s' = { s with recordNotes := s'.recordNotes }
  | .deleteRecordNote connectionId namespace_ setName pkText pkType, result =>
      Deletes (connectionId, namespace_, setName, pkText, pkType) s.recordNotes s'.recordNotes
          result ∧
        s' = { s with recordNotes := s'.recordNotes }
  | .upsertGuide workspaceId guideType title content updatedBy now, result =>
      let createdAt := createdOr Guide.createdAt (workspaceId, guideType) s.guides now
      Upserts (s.workspaces.find? workspaceId)
          { workspaceId, guideType, title, content, createdAt, updatedAt := now, updatedBy }
          rowToGuide s.guides s'.guides result ∧
        s' = { s with guides := s'.guides }
  | .deleteGuide workspaceId guideType, result =>
      Deletes (workspaceId, guideType) s.guides s'.guides result ∧
        s' = { s with guides := s'.guides }
  | _, _ => True

end Effects

/-! ### What the statements do -/

section Statements

variable {J B α β ρ κ : Type} {key : α → κ} {s : Store J B}

/-- A program whose result is mapped. -/
theorem run_bind_pure {D : Type} {x : Sql D α} {l : Link D} {f : α → β} :
    (do let a ← x; return f a) l = ((x l).1.map f, (x l).2) := by
  rcases hx : x l with ⟨e | a, l'⟩
  · exact Sql.bind_error hx
  · exact Sql.bind_ok hx

/-- A program whose result is worked on without an await. -/
theorem run_bind_lift {D : Type} {x : Sql D α} {l : Link D} {f : α → Except Exc β} :
    (x >>= fun a => Sql.lift (f a)) l = ((x l).1 >>= f, (x l).2) := by
  rcases hx : x l with ⟨e | a, l'⟩
  · exact Sql.bind_error hx
  · exact Sql.bind_ok hx

section Puts

variable [DecidableEq κ] (get : Store J B → Table α key)
  (put : Store J B → Table α key → Store J B) (hget : ∀ t, get (put s t) = t)
  (hput : put s (get s) = s)
include hget hput

theorem inserts_settle (P : α → Prop) {a : α} (ha : P a) :
    let x := settle s ((unique ((get s).insert? a)).map fun t => ((), put s t))
    Inserts (key a) P (get s) (get x.2.committed) x.1 ∧
      x.2.committed = put s (get x.2.committed) := by
  cases hinsert : (get s).insert? a with
  | none => exact ⟨inserts_taken hinsert, hput.symm⟩
  | some u =>
    show Inserts (key a) P (get s) (get (put s u)) (.ok ()) ∧ put s u = put s (get (put s u))
    rw [hget]
    exact ⟨inserts_fresh hinsert ha, rfl⟩

theorem updates_settle {k : κ} {merge : α → Except Exc β} {P : β → α → Prop}
    {write : β → Store J B → Except Exc (Unit × Store J B)}
    (hwrite : ∀ a b, (get s).find? k = some a → merge a = .ok b →
      ∃ (f : α → α) (hf : ∀ a, key (f a) = key a),
        write b s = .ok ((), put s ((get s).update k f hf)) ∧ P b (f a)) :
    let x := settle s (findAndWrite (fun s => (get s).find? k) merge write s)
    Updates k merge P (get s) (get x.2.committed) x.1 ∧
      x.2.committed = put s (get x.2.committed) := by
  unfold Updates
  cases hfind : (get s).find? k with
  | none =>
    have hrun : findAndWrite (fun s => (get s).find? k) merge write s = .ok (none, s) := by
      rw [findAndWrite, hfind]
    rw [hrun]
    exact ⟨⟨rfl, rfl⟩, hput.symm⟩
  | some a =>
    have hrun : findAndWrite (fun s => (get s).find? k) merge write s =
        merge a >>= fun b => write b s >>= fun x => .ok (some b, x.2) := by
      rw [findAndWrite, hfind]
      rfl
    cases hmerge : merge a with
    | error e =>
      simp only [hrun, hmerge]
      exact ⟨⟨rfl, rfl⟩, hput.symm⟩
    | ok b =>
      obtain ⟨f, hf, hstmt, hP⟩ := hwrite a b hfind hmerge
      obtain ⟨-, hk⟩ := Table.find?_eq_some.1 hfind
      rw [hrun]
      simp only [hmerge, ok_bind, hstmt, settle, hget]
      exact ⟨⟨trivial, f a, (hf a).trans hk, hP, stores_update hf hfind⟩, trivial⟩

/-- The row that is upserted is `row` of the time it was created at. -/
theorem upserts_settle (read : α → Except Exc β) (createdAt : α → String) (row : String → α)
    {referred : Option ρ} {now : String} {f : α → α} (hf : ∀ a, key (f a) = key a)
    (hrow : ∀ old, key old = key (row now) → f old = row (createdAt old)) :
    let x := settle s (do
      referenced referred
      let (stored, t) := (get s).upsert (row now) f hf
      return (stored, put s t))
    Upserts referred (row (createdOr createdAt (key (row now)) (get s) now)) read (get s)
        (get x.2.committed) (x.1 >>= read) ∧
      x.2.committed = put s (get x.2.committed) := by
  have hstored : ((get s).upsert (row now) f hf).1 =
      row (createdOr createdAt (key (row now)) (get s) now) := by
    rw [upsert_fst, createdOr]
    cases hfind : (get s).find? (key (row now)) with
    | none => rfl
    | some old => exact hrow old (Table.find?_eq_some.1 hfind).2
  have hstores := stores_upsert (t := get s) (a := row now) hf
  rw [hstored] at hstores
  cases referred with
  | none => exact ⟨⟨⟨_, rfl⟩, rfl⟩, hput.symm⟩
  | some r =>
    show (read ((get s).upsert (row now) f hf).1 = _ ∧ Stores _ (get s) (get (put s _))) ∧
      put s ((get s).upsert (row now) f hf).2 = put s (get (put s _))
    rw [hget, hstored]
    exact ⟨⟨rfl, hstores⟩, rfl⟩

omit hput in
theorem deletes_settle {k : κ} {q : α → Bool} (hq : ∀ a, q a = true ↔ key a = k) {f : ℕ → Bool}
    (hf : ∀ n, f n = (n == 1)) :
    let x := settle s (.ok ((get s).rows.countP q, put s ((get s).delete q)))
    Deletes k (get s) (get x.2.committed) (x.1.map f) ∧
      x.2.committed = put s (get x.2.committed) := by
  show Deletes k (get s) (get (put s ((get s).delete q))) (.ok (f _)) ∧
    put s ((get s).delete q) = put s (get (put s ((get s).delete q)))
  rw [hget, hf]
  exact ⟨deletes hq, rfl⟩

end Puts

end Statements

section Effects

variable {J B : Type} {py : Python} {reading : Reading J B} {s : Store J B} {f : ℕ → Bool}

theorem effect_deleteConnection (hf : ∀ n, f n = (n == 1)) (connId : String) :
    let x := settle s (deleteConnection connId s)
    (.deleteConnection connId : ApiCall py.toRuntime).Effect reading s x.2.committed
      (x.1.map f) := by
  intro x
  show DeletesConnection connId s x.2.committed (x.1.map f)
  simp only [x]
  unfold deleteConnection DeletesConnection
  cases s.connections.find? connId with
  | none => exact ⟨congrArg Except.ok (hf 0), rfl⟩
  | some row =>
    refine ⟨congrArg Except.ok (hf 1), ?_⟩
    simp [settle, Table.delete]

theorem effect_deleteWorkspace (hf : ∀ n, f n = (n == 1)) (workspaceId : String)
    {isDefaultMatches : B → Bool} (htruth : ∀ b, isDefaultMatches b = !reading.truth b) :
    let x := settle s (deleteWorkspace workspaceId isDefaultMatches s)
    (.deleteWorkspace workspaceId : ApiCall py.toRuntime).Effect reading s x.2.committed
      (x.1.map f) := by
  intro x
  show DeletesWorkspace reading.truth workspaceId s x.2.committed (x.1.map f)
  simp only [x]
  unfold deleteWorkspace DeletesWorkspace
  simp only [htruth]
  cases (s.workspaces.find? workspaceId).filter fun row => !reading.truth row.isDefault with
  | none => exact ⟨congrArg Except.ok (hf 0), rfl⟩
  | some row =>
    refine ⟨congrArg Except.ok (hf 1), ?_⟩
    simp [settle, Table.delete]

theorem effect_upsertSetNote (connectionId namespace_ setName note : String)
    (updatedBy : Option String) (now : String) :
    let x := settle s (upsertSetNote
      { connectionId, namespace_, setName, note, createdAt := now, updatedAt := now, updatedBy }
      (fun row => { row with note, updatedAt := now, updatedBy })
      (setNote_key note now updatedBy) s)
    (.upsertSetNote connectionId namespace_ setName note updatedBy now :
      ApiCall py.toRuntime).Effect reading s x.2.committed x.1 := by
  intro x
  rw [← bind_pure x.1]
  exact upserts_settle Store.setNotes (fun s setNotes => { s with setNotes }) (fun _ => rfl) rfl
    .ok SetNote.createdAt
    (fun createdAt => ⟨connectionId, namespace_, setName, note, createdAt, now, updatedBy⟩)
    (setNote_key note now updatedBy) fun old hold => by
      cases old
      cases hold
      rfl

theorem effect_upsertRecordNote (connectionId namespace_ setName pkText pkType note : String)
    (digestHex updatedBy : Option String) (now : String) :
    let x := settle s (upsertRecordNote
      { connectionId, namespace_, setName, pkText, pkType, digestHex, note, createdAt := now
        updatedAt := now, updatedBy }
      (fun row => { row with digestHex, note, updatedAt := now, updatedBy })
      (recordNote_key digestHex note now updatedBy) s)
    (.upsertRecordNote connectionId namespace_ setName pkText pkType note digestHex updatedBy now :
      ApiCall py.toRuntime).Effect reading s x.2.committed (x.1 >>= rowToRecordNote) :=
  upserts_settle Store.recordNotes (fun s recordNotes => { s with recordNotes }) (fun _ => rfl) rfl
    rowToRecordNote RecordNote.createdAt
    (fun createdAt => ⟨connectionId, namespace_, setName, pkText, pkType, digestHex, note, createdAt,
      now, updatedBy⟩)
    (recordNote_key digestHex note now updatedBy) fun old hold => by
      cases old
      cases hold
      rfl

theorem effect_upsertGuide (workspaceId guideType title content : String)
    (updatedBy : Option String) (now : String) :
    let x := settle s (upsertGuide
      { workspaceId, guideType, title, content, createdAt := now, updatedAt := now, updatedBy }
      (fun row => { row with title, content, updatedAt := now, updatedBy })
      (guide_key title content now updatedBy) s)
    (.upsertGuide workspaceId guideType title content updatedBy now :
      ApiCall py.toRuntime).Effect reading s x.2.committed (x.1 >>= rowToGuide) :=
  upserts_settle Store.guides (fun s guides => { s with guides }) (fun _ => rfl) rfl rowToGuide
    Guide.createdAt
    (fun createdAt => ⟨workspaceId, guideType, title, content, createdAt, now, updatedBy⟩)
    (guide_key title content now updatedBy) fun old hold => by
      cases old
      cases hold
      rfl

theorem effect_deleteSetNote (hf : ∀ n, f n = (n == 1)) (connectionId namespace_ setName : String) :
    let x := settle s (deleteSetNotes (fun row =>
      row.connectionId = connectionId && row.namespace_ = namespace_ && row.setName = setName) s)
    (.deleteSetNote connectionId namespace_ setName : ApiCall py.toRuntime).Effect reading s
      x.2.committed (x.1.map f) :=
  deletes_settle Store.setNotes (fun s setNotes => { s with setNotes }) (fun _ => rfl)
    (fun row => by simp [SetNote.key, and_assoc]) hf

theorem effect_deleteRecordNote (hf : ∀ n, f n = (n == 1))
    (connectionId namespace_ setName pkText pkType : String) :
    let x := settle s (deleteRecordNotes (fun row =>
      row.connectionId = connectionId && row.namespace_ = namespace_ && row.setName = setName
        && row.pkText = pkText && row.pkType = pkType) s)
    (.deleteRecordNote connectionId namespace_ setName pkText pkType : ApiCall py.toRuntime).Effect
      reading s x.2.committed (x.1.map f) :=
  deletes_settle Store.recordNotes (fun s recordNotes => { s with recordNotes }) (fun _ => rfl)
    (fun row => by simp [RecordNote.key, and_assoc]) hf

theorem effect_deleteGuide (hf : ∀ n, f n = (n == 1)) (workspaceId guideType : String) :
    let x := settle s (deleteGuides (fun row =>
      row.workspaceId = workspaceId && row.guideType = guideType) s)
    (.deleteGuide workspaceId guideType : ApiCall py.toRuntime).Effect reading s x.2.committed
      (x.1.map f) :=
  deletes_settle Store.guides (fun s guides => { s with guides }) (fun _ => rfl)
    (fun row => by simp [Guide.key]) hf

/-- The row of a workspace that is created reads as it. -/
theorem effect_createWorkspace {ws : Workspace} {row : WorkspaceColumns B} (hid : row.id = ws.id)
    (hrow : row.decoded reading.truth = ws) :
    let x := settle s (insertWorkspace row s)
    (.createWorkspace ws : ApiCall py.toRuntime).Effect reading s x.2.committed x.1 := by
  have heffect := inserts_settle Store.workspaces (fun s workspaces => { s with workspaces })
    (fun _ => rfl) (rfl : _ = s) (fun row => row.decoded reading.truth = ws) hrow
  rwa [hid] at heffect

/-- The row of a connection that is created holds it. -/
theorem effect_createConnection {conn : BuiltProfile py.toRuntime} {row : ConnectionColumns J}
    (hid : row.id = conn.profile.id) (hrow : Holds py reading.text conn.profile row) :
    let x := settle s (insertConnection row s)
    (.createConnection conn : ApiCall py.toRuntime).Effect reading s x.2.committed x.1 := by
  have heffect := inserts_settle Store.connections (fun s connections => { s with connections })
    (fun _ => rfl) (rfl : _ = s) (Holds py reading.text conn.profile) hrow
  rwa [hid] at heffect

end Effects

/-! ### What the programs do -/

section Rows

variable {J : Type} {py : Python} {text : J → String} {conn existing : ConnectionProfile}

/-- What a writer stores for a profile holds it. -/
theorem holds_written (hpy : py.Lawful) (nonce : ℕ) {hosts labels : J} {d : Dict String String}
    {id createdAt : String} (hid : id = conn.id) (hcreated : createdAt = conn.createdAt)
    (hhosts : loads (text hosts) = some (listJson conn.hosts))
    (hlabels : loads (text labels) = some (dictJson d)) (hd : conn.labels.Perm d) :
    Holds py text conn
      (written hosts labels (storedPassword py.fernet nonce conn.password) id createdAt conn) := by
  subst hid hcreated
  exact ⟨hosts, labels, _, d, rfl, hhosts, hlabels, hd,
    decryptPassword_storedPassword hpy.fernet nonce conn.password⟩

/-- The port of a profile fits every integer column. -/
theorem port_lt (h : conn.isValid = true) : conn.port < 2147483648 := by
  simp only [ConnectionProfile.isValid, isPort, Bool.and_eq_true, decide_eq_true_eq] at h
  omega

theorem createdAt_of_read {row : ConnectionColumns J}
    (h : (do let row ← readColumns py text row; decryptedProfile py.toRuntime row) = .ok existing) :
    existing.createdAt = row.createdAt := by
  obtain ⟨row', hrow, h⟩ := exists_of_bind_ok h
  obtain ⟨hosts, labels, rfl⟩ := decoded_of_readColumns hrow
  obtain ⟨-, password, -, rfl⟩ := decryptedProfile_eq_ok.1 h
  rfl

/-- What an update stores of the profile it has merged. -/
theorem merged_columns {data : UpdateData} {connId now : String}
    (h : buildMergedProfile py.toRuntime existing data connId now = .ok conn) :
    conn.id = connId ∧ conn.createdAt = existing.createdAt ∧ Clean conn.labels := by
  obtain ⟨_, _, _, _, -, -, -, -, rfl⟩ := exists_of_buildMergedProfile h
  have hclean : Clean (normalizeLabels py.toRuntime
      (some ((data.labels.getD existing.labels).getD []))) := clean_normalizeLabels _
  exact ⟨rfl, rfl, hclean⟩

end Rows

section Calls

variable {J : Type} {py : Python} {pg : Server J} {scan : Scan} {nonce : ℕ}

/-- How SQLite's columns are read. -/
def sqliteReading (py : Python) : Reading String ℕ where
  text := id
  truth := (· ≠ 0)
  rowToProfile := SqliteApi.rowToProfile py
  rowToWorkspace := SqliteApi.rowToWorkspace

/-- How PostgreSQL's columns are read. -/
def postgresReading (pg : Server J) (py : Python) : Reading J Bool where
  text := pg.text
  truth := id
  rowToProfile := PostgresApi.rowToProfile pg py
  rowToWorkspace := PostgresApi.rowToWorkspace

theorem sqlite_effect (hpy : py.Lawful) (s : SqliteApi.Tables) (call : ApiCall py.toRuntime) :
    call.Effect (sqliteReading py) s
      (SqliteApi.program py scan nonce call ⟨s, none⟩).2.committed
      (SqliteApi.program py scan nonce call ⟨s, none⟩).1 := by
  have hwrite : ∀ {α : Type} {params : List Param} {stmt : Statement String ℕ α},
      (∀ q ∈ params, q.Fits) →
        SqliteApi.executeAndCommit params stmt ⟨s, none⟩ = settle s (stmt s) :=
    fun hfits => SqliteApi.executeAndCommit_eq (sqliteBind_ok hfits)
  cases call with
  | createConnection conn =>
    have hvalid := (ConnectionProfile.validated_eq_ok.1 conn.checked).1
    obtain ⟨v, hv⟩ := conn.labels
    have hclean : Clean conn.profile.labels := hv ▸ clean_normalizeLabels v
    have hrun : SqliteApi.createConnection py conn.profile nonce ⟨s, none⟩ = _ :=
      hwrite (by simpa [Param.Fits] using port_lt hvalid)
    simp only [SqliteApi.program, hrun]
    exact effect_createConnection rfl (holds_written hpy nonce rfl rfl (loads_listJson ascii)
      (loads_dictJson ascii hclean.nodup) (.refl _))
  | updateConnection connId data now =>
    have hrun : SqliteApi.updateConnection py connId data now nonce ⟨s, none⟩ = _ :=
      SqliteApi.readModifyWrite_eq (sqliteBind_ok (by simp [Param.Fits])) fun row conn _ hmerge =>
        sqliteBind_ok (by
          obtain ⟨existing, -, hmerge⟩ := exists_of_bind_ok hmerge
          simpa [SqliteApi.updateParams, Param.Fits] using
            port_lt (isValid_of_buildMergedProfile hmerge))
    simp only [SqliteApi.program, hrun]
    refine updates_settle Store.connections (fun s connections => { s with connections })
      (fun _ => rfl) rfl fun row conn hfind hmerge => ⟨_, _, rfl, ?_⟩
    obtain ⟨existing, hread, hmerge⟩ := exists_of_bind_ok hmerge
    obtain ⟨hid, hcreated, hclean⟩ := merged_columns hmerge
    obtain ⟨-, hkey⟩ := Table.find?_eq_some.1 hfind
    exact holds_written hpy nonce (hkey.trans hid.symm)
      ((hcreated.trans (createdAt_of_read hread)).symm) (loads_listJson ascii)
      (loads_dictJson ascii hclean.nodup) (.refl _)
  | createWorkspace ws =>
    have hrun : SqliteApi.createWorkspace ws ⟨s, none⟩ = _ :=
      hwrite (by cases ws.isDefault <;> simp [Param.Fits])
    simp only [SqliteApi.program, hrun]
    refine effect_createWorkspace rfl ?_
    cases ws with
    | mk _ _ _ _ isDefault => cases isDefault <;> rfl
  | updateWorkspace workspaceId data now =>
    have hrun : SqliteApi.updateWorkspace workspaceId data now ⟨s, none⟩ = _ :=
      SqliteApi.readModifyWrite_eq (sqliteBind_ok (by simp [Param.Fits])) fun _ _ _ _ =>
        sqliteBind_ok (by simp [SqliteApi.updateWorkspaceParams, Param.Fits])
    simp only [SqliteApi.program, hrun]
    refine updates_settle Store.workspaces (fun s workspaces => { s with workspaces })
      (fun _ => rfl) rfl fun row ws hfind hmerge => ⟨_, _, rfl, ?_⟩
    obtain ⟨existing, hread, hmerge⟩ := exists_of_bind_ok hmerge
    obtain ⟨-, rfl⟩ := rowToWorkspace_eq_ok.1 hread
    obtain ⟨name, color, -, -, rfl⟩ := exists_of_buildMergedWorkspace hmerge
    rfl
  | deleteConnection connId =>
    simp only [SqliteApi.program, SqliteApi.deleteConnection, run_bind_pure]
    rw [hwrite (by simp [Param.Fits])]
    exact effect_deleteConnection (fun _ => rfl) connId
  | deleteWorkspace workspaceId =>
    simp only [SqliteApi.program, SqliteApi.deleteWorkspace, run_bind_pure]
    rw [hwrite (by simp [Param.Fits])]
    exact effect_deleteWorkspace (fun _ => rfl) workspaceId fun b => by simp [sqliteReading]
  | upsertSetNote connectionId namespace_ setName note updatedBy now =>
    simp only [SqliteApi.program, SqliteApi.upsertSetNote]
    rw [hwrite (by simp [Param.Fits])]
    exact effect_upsertSetNote connectionId namespace_ setName note updatedBy now
  | deleteSetNote connectionId namespace_ setName =>
    simp only [SqliteApi.program, SqliteApi.deleteSetNote, run_bind_pure]
    rw [hwrite (by simp [Param.Fits])]
    exact effect_deleteSetNote (fun _ => rfl) connectionId namespace_ setName
  | upsertRecordNote connectionId namespace_ setName pkText pkType note digestHex updatedBy now =>
    simp only [SqliteApi.program, SqliteApi.upsertRecordNote, run_bind_lift]
    rw [hwrite (by simp [Param.Fits])]
    exact effect_upsertRecordNote connectionId namespace_ setName pkText pkType note digestHex
      updatedBy now
  | deleteRecordNote connectionId namespace_ setName pkText pkType =>
    simp only [SqliteApi.program, SqliteApi.deleteRecordNote, run_bind_pure]
    rw [hwrite (by simp [Param.Fits])]
    exact effect_deleteRecordNote (fun _ => rfl) connectionId namespace_ setName pkText pkType
  | upsertGuide workspaceId guideType title content updatedBy now =>
    simp only [SqliteApi.program, SqliteApi.upsertGuide, run_bind_lift]
    rw [hwrite (by simp [Param.Fits])]
    exact effect_upsertGuide workspaceId guideType title content updatedBy now
  | deleteGuide workspaceId guideType =>
    simp only [SqliteApi.program, SqliteApi.deleteGuide, run_bind_pure]
    rw [hwrite (by simp [Param.Fits])]
    exact effect_deleteGuide (fun _ => rfl) workspaceId guideType
  | _ => exact trivial

/-- What PostgreSQL merges can be stored, as what is there could be. -/
theorem storable_of_merged (hpy : py.Lawful) {times times' : List String} {s : SqliteApi.Tables}
    {p : Store J Bool} (h : Kept py pg times times' s p) {connId now : String} {data : UpdateData}
    (hid : NulFree connId) (hdata : PlainUpdate data) (hnow : NulFree now)
    {row : ConnectionColumns J} {conn : ConnectionProfile}
    (hfind : p.connections.find? connId = some row)
    (hmerge : (do let existing ← PostgresApi.rowToProfile pg py row
                  buildMergedProfile py.toRuntime existing data connId now) = .ok conn) :
    Storable conn := by
  have hrel := h.find_connection connId
  rw [hfind] at hrel
  generalize s.connections.find? connId = x at hrel
  cases hrel with
  | some htwin =>
    have hagrees := (agrees_rowToProfile htwin).bind fun _ _ hexisting =>
      agrees_buildMergedProfile hpy hexisting.1 hexisting.2 hdata hid hnow
    rw [hmerge] at hagrees
    obtain ⟨conn', -, hsame, hstorable⟩ := hagrees.of_ok_right
    exact hstorable.of_same hsame

@[inherit_doc storable_of_merged]
theorem plain_of_merged {times times' : List String} {s : SqliteApi.Tables} {p : Store J Bool}
    (h : Kept py pg times times' s p) {workspaceId now : String} {data : WorkspaceUpdateData}
    (hdata : PlainWorkspaceUpdate data) (hnow : NulFree now) {row : WorkspaceColumns Bool}
    {ws : Workspace} (hfind : p.workspaces.find? workspaceId = some row)
    (hmerge : (do let existing ← PostgresApi.rowToWorkspace row
                  buildMergedWorkspace existing data now) = .ok ws) :
    PlainWorkspace ws := by
  have hrel := h.find_workspace workspaceId
  rw [hfind] at hrel
  generalize s.workspaces.find? workspaceId = x at hrel
  cases hrel with
  | some htwin =>
    have hagrees := agrees_mergeWorkspace htwin hdata hnow
    rw [hmerge] at hagrees
    obtain ⟨ws', -, rfl, hplain⟩ := hagrees.of_ok_right
    exact hplain

theorem postgres_effect (hpy : py.Lawful) (hpg : LawfulServer pg) {times times' : List String}
    {s : SqliteApi.Tables} {p : Store J Bool} (h : Kept py pg times times' s p)
    {call : ApiCall py.toRuntime} (hplain : call.Plain) :
    call.Effect (postgresReading pg py) p
      (PostgresApi.program pg py scan nonce call ⟨p, none⟩).2.committed
      (PostgresApi.program pg py scan nonce call ⟨p, none⟩).1 := by
  have hwrite : ∀ {α : Type} {params : List Param} {stmt : Statement J Bool α},
      (∀ q ∈ params, q.Plain) →
        PostgresApi.poolExecute params stmt ⟨p, none⟩ = settle p (stmt p) :=
    fun hparams => PostgresApi.poolExecute_eq (postgresBind_ok hparams)
  have htag : ∀ n, (PostgresApi.deleteTag n == "DELETE 1") = (n == 1) := fun _ => deleteTag_eq
  cases call with
  | createConnection conn =>
    have hstorable := conn.storable hplain
    obtain ⟨hosts, hjhosts, hhosts⟩ := hpg.array conn.profile.hosts hstorable.hosts
    obtain ⟨labels, d, hjlabels, hlabels, hperm⟩ :=
      hpg.object conn.profile.labels hstorable.clean.nodup hstorable.labels
    simp only [PostgresApi.program, PostgresApi.createConnection]
    rw [hwrite (plain_newConnection hpy hstorable nonce), hjhosts, hjlabels]
    exact effect_createConnection rfl (holds_written hpy nonce rfl rfl hhosts hlabels hperm)
  | updateConnection connId data now =>
    have hrun : PostgresApi.updateConnection pg py connId data now nonce ⟨p, none⟩ = _ :=
      PostgresApi.readModifyWrite_eq
        (postgresBind_ok (by simpa [Param.Plain] using hplain.1)) fun row conn hfind hmerge =>
          postgresBind_ok (plain_updateParams hpy hplain.1
            (storable_of_merged hpy h hplain.1 hplain.2.1 hplain.2.2 hfind hmerge) nonce)
    simp only [PostgresApi.program, hrun]
    refine updates_settle Store.connections (fun s connections => { s with connections })
      (fun _ => rfl) rfl fun row conn hfind hmerge => ?_
    have hstorable := storable_of_merged hpy h hplain.1 hplain.2.1 hplain.2.2 hfind hmerge
    obtain ⟨hosts, hjhosts, hhosts⟩ := hpg.array conn.hosts hstorable.hosts
    obtain ⟨labels, d, hjlabels, hlabels, hperm⟩ :=
      hpg.object conn.labels hstorable.clean.nodup hstorable.labels
    obtain ⟨existing, hread, hmerge⟩ := exists_of_bind_ok hmerge
    obtain ⟨hid, hcreated, -⟩ := merged_columns hmerge
    obtain ⟨-, hkey⟩ := Table.find?_eq_some.1 hfind
    unfold PostgresApi.updateStatement
    rw [hjhosts, hjlabels]
    exact ⟨_, _, rfl, holds_written hpy nonce (hkey.trans hid.symm)
      ((hcreated.trans (createdAt_of_read hread)).symm) hhosts hlabels hperm⟩
  | createWorkspace ws =>
    simp only [PostgresApi.program, PostgresApi.createWorkspace]
    rw [hwrite (plain_newWorkspace hplain)]
    exact effect_createWorkspace rfl rfl
  | updateWorkspace workspaceId data now =>
    have hrun : PostgresApi.updateWorkspace workspaceId data now ⟨p, none⟩ = _ :=
      PostgresApi.readModifyWrite_eq
        (postgresBind_ok (by simpa [Param.Plain] using hplain.1)) fun row ws hfind hmerge =>
          postgresBind_ok (plain_updateWorkspaceParams hplain.1
            (plain_of_merged h hplain.2.1 hplain.2.2 hfind hmerge))
    simp only [PostgresApi.program, hrun]
    refine updates_settle Store.workspaces (fun s workspaces => { s with workspaces })
      (fun _ => rfl) rfl fun row ws hfind hmerge => ⟨_, _, rfl, ?_⟩
    obtain ⟨existing, hread, hmerge⟩ := exists_of_bind_ok hmerge
    obtain ⟨-, rfl⟩ := rowToWorkspace_eq_ok.1 hread
    obtain ⟨name, color, -, -, rfl⟩ := exists_of_buildMergedWorkspace hmerge
    rfl
  | deleteConnection connId =>
    simp only [PostgresApi.program, PostgresApi.deleteConnection, run_bind_pure]
    rw [hwrite (by simpa [Param.Plain, ApiCall.Plain] using hplain)]
    exact effect_deleteConnection htag connId
  | deleteWorkspace workspaceId =>
    simp only [PostgresApi.program, PostgresApi.deleteWorkspace, run_bind_pure]
    rw [hwrite (by simpa [Param.Plain, ApiCall.Plain] using hplain)]
    exact effect_deleteWorkspace htag workspaceId fun b => by cases b <;> rfl
  | upsertSetNote connectionId namespace_ setName note updatedBy now =>
    simp only [PostgresApi.program, PostgresApi.upsertSetNote]
    rw [hwrite (plain_setNote hplain.1 hplain.2)]
    exact effect_upsertSetNote connectionId namespace_ setName note updatedBy now
  | deleteSetNote connectionId namespace_ setName =>
    simp only [PostgresApi.program, PostgresApi.deleteSetNote, run_bind_pure]
    rw [hwrite (by simpa [Param.Plain, ApiCall.Plain] using hplain)]
    exact effect_deleteSetNote htag connectionId namespace_ setName
  | upsertRecordNote connectionId namespace_ setName pkText pkType note digestHex updatedBy now =>
    simp only [PostgresApi.program, PostgresApi.upsertRecordNote, run_bind_lift]
    rw [hwrite (plain_recordNote hplain.1 hplain.2.1 hplain.2.2)]
    exact effect_upsertRecordNote connectionId namespace_ setName pkText pkType note digestHex
      updatedBy now
  | deleteRecordNote connectionId namespace_ setName pkText pkType =>
    simp only [PostgresApi.program, PostgresApi.deleteRecordNote, run_bind_pure]
    rw [hwrite (by simpa [Param.Plain, ApiCall.Plain] using hplain)]
    exact effect_deleteRecordNote htag connectionId namespace_ setName pkText pkType
  | upsertGuide workspaceId guideType title content updatedBy now =>
    simp only [PostgresApi.program, PostgresApi.upsertGuide, run_bind_lift]
    rw [hwrite (plain_guide hplain.1 hplain.2)]
    exact effect_upsertGuide workspaceId guideType title content updatedBy now
  | deleteGuide workspaceId guideType =>
    simp only [PostgresApi.program, PostgresApi.deleteGuide, run_bind_pure]
    rw [hwrite (by simpa [Param.Plain, ApiCall.Plain] using hplain)]
    exact effect_deleteGuide htag workspaceId guideType
  | _ => exact trivial

end Calls

end ClusterManager.Db.Backend
