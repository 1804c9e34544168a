import Mathlib.Data.Prod.Lex
import Mathlib.Data.String.Basic
import ClusterManager.Db.SameRows

/-!
# The two backends agree call by call

Each call of the `db` API runs as a program on both sides. `Simulates` says that the two programs
return the same or both raise, that neither leaves a transaction open, and that the stores they
commit are kept (`Kept`); there is one such lemma for each call, and `simulates_program` for all of
them.
-/

namespace ClusterManager.Db.Backend

open JsonText (dumps loads ascii)
open PostgresApi (Server)

/-! ### One program against the other -/

section Programs

variable {S P α β α' β' : Type}

/-- Two programs that began with no transaction open agree: in what they return or raise, and in
the stores that are committed then. -/
structure Simulates (K : S → P → Prop) (R : α → β → Prop) (x : Except Exc α × Link S)
    (y : Except Exc β × Link P) : Prop where
  result : Agrees R x.1 y.1
  idle : x.2.tx = none
  idle' : y.2.tx = none
  kept : K x.2.committed y.2.committed

variable {K : S → P → Prop} {R : α → β → Prop} {R' : α' → β' → Prop} {s : S} {p : P}

theorem Simulates.settle {x : Except Exc (α × S)} {y : Except Exc (β × P)} (hkept : K s p)
    (h : Agrees (fun a b => R a.1 b.1 ∧ K a.2 b.2) x y) :
    Simulates K R (settle s x) (settle p y) := by
  cases h with
  | ok h => exact ⟨.ok h.1, rfl, rfl, h.2⟩
  | error e e' => exact ⟨.error e e', rfl, rfl, hkept⟩

/-- What is done with the results awaits nothing. -/
theorem Simulates.bind_lift {x : Sql S α} {y : Sql P β} {l : Link S} {m : Link P}
    {f : α → Except Exc α'} {g : β → Except Exc β'} (h : Simulates K R (x l) (y m))
    (hfg : ∀ a b, R a b → Agrees R' (f a) (g b)) :
    Simulates K R' ((x >>= fun a => Sql.lift (f a)) l) ((y >>= fun b => Sql.lift (g b)) m) := by
  obtain ⟨hresult, hs, hp, hkept⟩ := h
  -- the mixed cases contradict the agreement of the results
  rcases hx : x l with ⟨a | a, l'⟩ <;> rcases hy : y m with ⟨b | b, m'⟩ <;>
    rw [hx, hy] at hresult hkept <;> rw [hx] at hs <;> rw [hy] at hp
  · rw [Sql.bind_error hx, Sql.bind_error hy]
    exact ⟨.error _ _, hs, hp, hkept⟩
  · cases hresult
  · cases hresult
  · rw [Sql.bind_ok hx, Sql.bind_ok hy]
    cases hresult with
    | ok hab => exact ⟨hfg a b hab, hs, hp, hkept⟩

theorem Simulates.bind_pure {x : Sql S α} {y : Sql P β} {l : Link S} {m : Link P}
    {f : α → α'} {g : β → β'} (h : Simulates K R (x l) (y m))
    (hfg : ∀ a b, R a b → R' (f a) (g b)) :
    Simulates K R' ((do let a ← x; return f a) l) ((do let b ← y; return g b) m) :=
  h.bind_lift (f := fun a => .ok (f a)) (g := fun b => .ok (g b)) fun a b hab => .ok (hfg a b hab)

end Programs

section Statements

variable {J α β ρ σ : Type} {py : Python} {pg : Server J} {times times' : List String}
  {s : SqliteApi.Tables} {p : Store J Bool} {R : α → β → Prop} {T : ρ → σ → Prop}
  {params params' : List Param}

/-- More times of creation may be given. -/
theorem Simulates.more {x : Except Exc α × Link SqliteApi.Tables}
    {y : Except Exc β × Link (Store J Bool)} {later later' : List String}
    (h : Simulates (Kept py pg times times') R x y) :
    Simulates (Kept py pg (times ++ later) (times' ++ later')) R x y :=
  { h with kept := h.kept.mono _ _ }

/-- A query on both sides. -/
theorem simulates_read {query : SqliteApi.Tables → α} {query' : Store J Bool → β}
    (hkept : Kept py pg times times' s p) (hfits : ∀ q ∈ params, q.Fits)
    (hplain : ∀ q ∈ params', q.Plain) (h : R (query s) (query' p)) :
    Simulates (Kept py pg times times') R (SqliteApi.select params query ⟨s, none⟩)
      (PostgresApi.poolFetch params' query' ⟨p, none⟩) := by
  rw [SqliteApi.select_eq (sqliteBind_ok hfits), PostgresApi.poolFetch_eq (postgresBind_ok hplain)]
  exact ⟨.ok h, rfl, rfl, hkept⟩

/-- A data-changing statement on both sides, committed. -/
theorem simulates_write {stmt : Statement String ℕ α} {stmt' : Statement J Bool β}
    (hkept : Kept py pg times times' s p) (hfits : ∀ q ∈ params, q.Fits)
    (hplain : ∀ q ∈ params', q.Plain) (h : AgreeAfter py pg times times' R (stmt s) (stmt' p)) :
    Simulates (Kept py pg times times') R (SqliteApi.executeAndCommit params stmt ⟨s, none⟩)
      (PostgresApi.poolExecute params' stmt' ⟨p, none⟩) := by
  rw [SqliteApi.executeAndCommit_eq (sqliteBind_ok hfits),
    PostgresApi.poolExecute_eq (postgresBind_ok hplain)]
  exact .settle hkept h

/-- A row that is read, merged and written on both sides. -/
theorem simulates_readModifyWrite {find : SqliteApi.Tables → Option ρ}
    {find' : Store J Bool → Option σ} {merge : ρ → Except Exc α} {merge' : σ → Except Exc β}
    {written : α → List Param} {written' : β → List Param}
    {stmt : α → Statement String ℕ Unit} {stmt' : β → Statement J Bool Unit}
    (hkept : Kept py pg times times' s p) (hfits : ∀ q ∈ params, q.Fits)
    (hplain : ∀ q ∈ params', q.Plain) (hfind : Option.Rel T (find s) (find' p))
    (hmerge : ∀ a b, T a b → Agrees R (merge a) (merge' b))
    (hwritten : ∀ a b, R a b → (∀ q ∈ written a, q.Fits) ∧ ∀ q ∈ written' b, q.Plain)
    (hstmt : ∀ a b, R a b → AgreeAfter py pg times times' Eq (stmt a s) (stmt' b p)) :
    Simulates (Kept py pg times times') (Option.Rel R)
      (SqliteApi.readModifyWrite params find merge written stmt ⟨s, none⟩)
      (PostgresApi.readModifyWrite params' find' merge' written' stmt' ⟨p, none⟩) := by
  have hbind : ∀ row updated, find s = some row → merge row = .ok updated →
      (written updated).forM SqliteApi.bindParam = .ok () := by
    intro row updated hrow hupdated
    rw [hrow] at hfind
    generalize find' p = y at hfind
    cases hfind with
    | some hab =>
      obtain ⟨b, -, hR⟩ := (hupdated ▸ hmerge _ _ hab).of_ok
      exact sqliteBind_ok (hwritten _ _ hR).1
  have hbind' : ∀ row updated, find' p = some row → merge' row = .ok updated →
      (written' updated).forM PostgresApi.bindParam = .ok () := by
    intro row updated hrow hupdated
    rw [hrow] at hfind
    generalize find s = x at hfind
    cases hfind with
    | some hab =>
      obtain ⟨a, -, hR⟩ := (hupdated ▸ hmerge _ _ hab).of_ok_right
      exact postgresBind_ok (hwritten _ _ hR).2
  rw [SqliteApi.readModifyWrite_eq (sqliteBind_ok hfits) hbind,
    PostgresApi.readModifyWrite_eq (postgresBind_ok hplain) hbind']
  refine .settle hkept ?_
  unfold findAndWrite
  generalize find s = x at hfind
  generalize find' p = y at hfind
  cases hfind with
  | none => exact .ok ⟨.none, hkept⟩
  | some hab =>
    refine (hmerge _ _ hab).bind fun a b hR => (hstmt a b hR).bind ?_
    rintro ⟨_, s'⟩ ⟨_, p'⟩ ⟨_, hkept'⟩
    exact .ok ⟨.some hR, hkept'⟩

end Statements

/-! ### Calls -/

/-- The same result in both backends. Profiles and dictionaries are compared without the order of
their entries, lists that are not ordered by the time of creation as multisets. -/
def SameResult {rt : Runtime} : (call : ApiCall rt) → call.Resp → call.Resp → Prop
  | .getAllConnections _ => List.Forall₂ SameProfile
  | .getConnection _ => Option.Rel SameProfile
  | .createConnection _ => Eq
  | .updateConnection _ _ _ => Option.Rel SameProfile
  | .deleteConnection _ => Eq
  | .getAllWorkspaces => Eq
  | .getWorkspace _ => Eq
  | .getWorkspacesOwnedBy _ => Eq
  | .createWorkspace _ => Eq
  | .updateWorkspace _ _ _ => Eq
  | .deleteWorkspace _ => Eq
  | .countConnectionsInWorkspace _ => Eq
  | .upsertSetNote _ _ _ _ _ _ => Eq
  | .deleteSetNote _ _ _ => Eq
  | .getSetNote _ _ _ => Eq
  | .listSetNotes _ _ => List.Perm
  | .batchGetSetNotes _ _ _ => List.Perm
  | .upsertRecordNote _ _ _ _ _ _ _ _ _ => Eq
  | .deleteRecordNote _ _ _ _ _ => Eq
  | .getRecordNote _ _ _ _ _ => Eq
  | .listRecordNotes _ _ _ => List.Perm
  | .batchGetRecordNotes _ _ _ _ => List.Perm
  | .upsertGuide _ _ _ _ _ _ => Eq
  | .getGuide _ _ => Eq
  | .listGuides _ => List.Perm
  | .deleteGuide _ _ => Eq

/-- What a call of `create_workspace` stores has no NUL. -/
structure PlainNewWorkspace (ws : Workspace) : Prop extends PlainWorkspace ws where
  id : NulFree ws.id
  ownerId : NulFree ws.ownerId
  createdAt : NulFree ws.createdAt

/-- The texts of a call have no NUL. -/
def ApiCall.Plain {rt : Runtime} : ApiCall rt → Prop
  | .getAllConnections workspaceId => ∀ s ∈ workspaceId, NulFree s
  | .getConnection connId => NulFree connId
  | .createConnection conn => PlainProfile conn.profile
  | .updateConnection connId data now => NulFree connId ∧ PlainUpdate data ∧ NulFree now
  | .deleteConnection connId => NulFree connId
  | .getAllWorkspaces => True
  | .getWorkspace workspaceId => NulFree workspaceId
  | .getWorkspacesOwnedBy ownerId => NulFree ownerId
  | .createWorkspace ws => PlainNewWorkspace ws
  | .updateWorkspace workspaceId data now =>
      NulFree workspaceId ∧ PlainWorkspaceUpdate data ∧ NulFree now
  | .deleteWorkspace workspaceId => NulFree workspaceId
  | .countConnectionsInWorkspace workspaceId => NulFree workspaceId
  | .upsertSetNote connectionId namespace_ setName note updatedBy now =>
      (∀ s ∈ [connectionId, namespace_, setName, note, now], NulFree s) ∧ ∀ s ∈ updatedBy, NulFree s
  | .deleteSetNote connectionId namespace_ setName =>
      ∀ s ∈ [connectionId, namespace_, setName], NulFree s
  | .getSetNote connectionId namespace_ setName =>
      ∀ s ∈ [connectionId, namespace_, setName], NulFree s
  | .listSetNotes connectionId namespace_ => NulFree connectionId ∧ ∀ s ∈ namespace_, NulFree s
  | .batchGetSetNotes connectionId namespace_ setNames =>
      ∀ s ∈ connectionId :: namespace_ :: setNames, NulFree s
  | .upsertRecordNote connectionId namespace_ setName pkText pkType note digestHex updatedBy now =>
      (∀ s ∈ [connectionId, namespace_, setName, pkText, pkType, note, now], NulFree s) ∧
        (∀ s ∈ digestHex, NulFree s) ∧ ∀ s ∈ updatedBy, NulFree s
  | .deleteRecordNote connectionId namespace_ setName pkText pkType =>
      ∀ s ∈ [connectionId, namespace_, setName, pkText, pkType], NulFree s
  | .getRecordNote connectionId namespace_ setName pkText pkType =>
      ∀ s ∈ [connectionId, namespace_, setName, pkText, pkType], NulFree s
  | .listRecordNotes connectionId namespace_ setName =>
      ∀ s ∈ [connectionId, namespace_, setName], NulFree s
  | .batchGetRecordNotes connectionId namespace_ setName pks =>
      (∀ s ∈ [connectionId, namespace_, setName], NulFree s) ∧
        ∀ pk ∈ pks, NulFree pk.1 ∧ NulFree pk.2
  | .upsertGuide workspaceId guideType title content updatedBy now =>
      (∀ s ∈ [workspaceId, guideType, title, content, now], NulFree s) ∧ ∀ s ∈ updatedBy, NulFree s
  | .getGuide workspaceId guideType => ∀ s ∈ [workspaceId, guideType], NulFree s
  | .listGuides workspaceId => NulFree workspaceId
  | .deleteGuide workspaceId guideType => ∀ s ∈ [workspaceId, guideType], NulFree s

/-- The time of creation of the connection that a call creates. -/
def ApiCall.connectionTimes {rt : Runtime} : ApiCall rt → List String
  | .createConnection conn => [conn.profile.createdAt]
  | _ => []

/-- The time of creation of the workspace that a call creates. -/
def ApiCall.workspaceTimes {rt : Runtime} : ApiCall rt → List String
  | .createWorkspace ws => [ws.createdAt]
  | _ => []

/-- Times that are pairwise distinct, and that the collation of the server orders as texts. -/
structure Ordered {J : Type} (pg : Server J) (times : List String) : Prop where
  distinct : times.Nodup
  collation : ∀ a ∈ times, ∀ b ∈ times, pg.le a b = true ↔ a ≤ b

section Calls

variable {J : Type} {py : Python} {pg : Server J} {scan scan' : Scan} {nonce nonce' : ℕ}
  {times times' : List String} {s : SqliteApi.Tables} {p : Store J Bool}

/-! ### Connections -/

theorem perm_found {α : Type} (scan : Scan) (rows : List α) (q : α → Bool) :
    (scan.found rows q).Perm (rows.filter q) := scan.perm _

theorem matched_found {α β : Type} {R : α → β → Prop} {l : List α} {m : List β} {q : α → Bool}
    {q' : β → Bool} (h : Matched R l m) (hq : ∀ a b, R a b → q a = q' b) :
    Matched R (scan.found l q) (scan'.found m q') :=
  (h.filter hq).of_perms (perm_found scan l q) (perm_found scan' m q').symm

/-- The rows of a `WHERE` clause come in one order, if they are sorted by what is the same on both
sides and no two rows share. -/
theorem forall₂_sorted {α β γ : Type} [LinearOrder γ] {R : α → β → Prop} {l : List α} {m : List β}
    {q : α → Bool} {q' : β → Bool} {f : α → γ} {g : β → γ} {r : α → α → Prop} {t : β → β → Prop}
    [DecidableRel r] [DecidableRel t] (h : Matched R l m) (hq : ∀ a b, R a b → q a = q' b)
    (hfg : ∀ a b, R a b → f a = g b) (hnodup : (l.map f).Nodup)
    (hr : ∀ a ∈ l, ∀ a' ∈ l, r a a' ↔ f a ≤ f a') (ht : ∀ b ∈ m, ∀ b' ∈ m, t b b' ↔ g b ≤ g b') :
    List.Forall₂ R ((scan.found l q).insertionSort r) ((scan'.found m q').insertionSort t) := by
  have hmem : ∀ a ∈ scan.found l q, a ∈ l := fun a ha =>
    (List.mem_filter.1 ((perm_found scan l q).mem_iff.1 ha)).1
  have hmem' : ∀ b ∈ scan'.found m q', b ∈ m := fun b hb =>
    (List.mem_filter.1 ((perm_found scan' m q').mem_iff.1 hb)).1
  have hfound : ((scan.found l q).map f).Nodup :=
    ((perm_found scan l q).map f).nodup_iff.2 (hnodup.sublist (List.filter_sublist.map f))
  exact (matched_found h hq).insertionSort hfg hfound
    (fun a ha a' ha' => hr a (hmem a ha) a' (hmem a' ha'))
    fun b hb b' hb' => ht b (hmem' b hb) b' (hmem' b' hb')

/-- The connections of a `WHERE` clause come in one order. -/
theorem forall₂_connections (h : Kept py pg times times' s p) (ht : Ordered pg times)
    {q : ConnectionColumns String → Bool} {q' : ConnectionColumns J → Bool}
    (hq : ∀ a b, Twin py pg a b → q a = q' b) :
    List.Forall₂ (Twin py pg)
      ((scan.found s.connections.rows q).insertionSort fun a b => a.createdAt ≤ b.createdAt)
      ((scan'.found p.connections.rows q').insertionSort
        fun a b => pg.le a.createdAt b.createdAt) := by
  have htimes : ∀ b ∈ p.connections.rows, b.createdAt ∈ times := by
    intro b hb
    obtain ⟨a, ha, hab⟩ := Matched.exists_left h.connections hb
    exact hab.same.columns.2.2 ▸ h.connectionTimes.subset (List.mem_map_of_mem ha)
  -- SQLite compares the characters, the server by its collation: the same order on these times
  exact forall₂_sorted h.connections hq (fun _ _ hab => hab.same.columns.2.2)
    (ht.distinct.sublist h.connectionTimes) (fun _ _ _ _ => Iff.rfl)
    fun b hb b' hb' => ht.collation _ (htimes b hb) _ (htimes b' hb')

theorem simulates_getAllConnections (h : Kept py pg times times' s p) (ht : Ordered pg times)
    {workspaceId : Option String} (hplain : ∀ s ∈ workspaceId, NulFree s) :
    Simulates (Kept py pg times times') (List.Forall₂ SameProfile)
      (SqliteApi.getAllConnections py scan workspaceId ⟨s, none⟩)
      (PostgresApi.getAllConnections pg py scan' workspaceId ⟨p, none⟩) := by
  have hread : ∀ l m, List.Forall₂ (Twin py pg) l m → Agrees (List.Forall₂ SameProfile)
      (l.mapM (SqliteApi.rowToProfile py)) (m.mapM (PostgresApi.rowToProfile pg py)) :=
    fun l m hlm => .mapM hlm fun a b hab => (agrees_rowToProfile hab).mono fun _ _ => And.left
  cases workspaceId with
  | none =>
    exact (simulates_read h (by simp) (by simp)
      (forall₂_connections h ht fun _ _ _ => rfl)).bind_lift hread
  | some workspaceId =>
    refine (simulates_read h (by simp [Param.Fits]) (by simpa [Param.Plain] using hplain)
      (forall₂_connections h ht fun a b hab => ?_)).bind_lift hread
    rw [hab.same.columns.2.1]

theorem simulates_getConnection (h : Kept py pg times times' s p) {connId : String}
    (hplain : NulFree connId) :
    Simulates (Kept py pg times times') (Option.Rel SameProfile)
      (SqliteApi.getConnection py connId ⟨s, none⟩)
      (PostgresApi.getConnection pg py connId ⟨p, none⟩) := by
  refine (simulates_read h (by simp [Param.Fits]) (by simpa [Param.Plain] using hplain)
    (h.find_connection connId)).bind_lift fun x y hxy => ?_
  cases hxy with
  | none => exact .ok .none
  | some hab => exact (agrees_rowToProfile hab).map fun _ _ hsame => .some hsame.1

/-- What `ConnectionProfile` has built can be stored. -/
theorem BuiltProfile.storable {rt : Runtime} (conn : BuiltProfile rt)
    (hplain : PlainProfile conn.profile) : Storable conn.profile := by
  obtain ⟨profile, hchecked, v, hv⟩ := conn
  refine { hplain with port := ?_, clean := hv ▸ clean_normalizeLabels v }
  have hvalid := (ConnectionProfile.validated_eq_ok.1 hchecked).1
  simp only [ConnectionProfile.isValid, isPort, Bool.and_eq_true, decide_eq_true_eq] at hvalid
  exact hvalid.1.2.2

theorem Storable.port_lt {conn : ConnectionProfile} (h : Storable conn) :
    conn.port < 2147483648 :=
  lt_of_le_of_lt h.port (by decide)

/-- What is bound to store a new connection. -/
theorem plain_newConnection (hpy : py.Lawful) {conn : ConnectionProfile} (h : Storable conn)
    (nonce : ℕ) :
    ∀ q ∈ [Param.text conn.id, .text conn.name, .int conn.port, .text? conn.clusterName,
      .text? conn.username, .text? (storedPassword py.fernet nonce conn.password),
      .text conn.color, .text? conn.note, .text conn.workspaceId, .text conn.createdAt,
      .text conn.updatedAt], q.Plain := by
  have hpassword := nulFree_storedPassword hpy nonce conn.password
  simp only [List.forall_mem_cons, Param.Plain]
  exact ⟨h.id, h.name, h.port_lt, h.clusterName, h.username, hpassword, h.color, h.note,
    h.workspaceId, h.createdAt, h.updatedAt, by simp⟩

/-- What is bound to store a connection again. -/
theorem plain_updateParams (hpy : py.Lawful) {connId : String} {updated : ConnectionProfile}
    (hid : NulFree connId) (h : Storable updated) (nonce : ℕ) :
    ∀ q ∈ PostgresApi.updateParams py connId updated nonce, q.Plain := by
  have hpassword := nulFree_storedPassword hpy nonce updated.password
  simp only [PostgresApi.updateParams, List.forall_mem_cons, Param.Plain]
  exact ⟨h.name, h.port_lt, h.clusterName, h.username, hpassword, h.color, h.note, h.workspaceId,
    h.updatedAt, hid, by simp⟩

theorem simulates_createConnection (hpy : py.Lawful) (hpg : LawfulServer pg)
    (h : Kept py pg times times' s p) {conn : ConnectionProfile} (hconn : Storable conn) :
    Simulates (Kept py pg (times ++ [conn.createdAt]) times') Eq
      (SqliteApi.createConnection py conn nonce ⟨s, none⟩)
      (PostgresApi.createConnection pg py conn nonce' ⟨p, none⟩) := by
  have hkept := h.mono [conn.createdAt] []
  rw [List.append_nil] at hkept
  unfold SqliteApi.createConnection PostgresApi.createConnection
  refine simulates_write hkept ?_ (plain_newConnection hpy hconn nonce') ?_
  · simpa [Param.Fits] using hconn.port_lt
  · obtain ⟨hosts, hjhosts, hhosts⟩ := hpg.array conn.hosts hconn.hosts
    obtain ⟨labels, d, hjlabels, hlabels, hperm⟩ :=
      hpg.object conn.labels hconn.clean.nodup hconn.labels
    rw [hjhosts, hjlabels]
    exact h.insertConnection (twin_written hpy (.refl conn) hconn hconn.id hconn.createdAt hhosts
      hlabels hperm nonce nonce')

theorem simulates_updateConnection (hpy : py.Lawful) (hpg : LawfulServer pg)
    (h : Kept py pg times times' s p) {connId now : String} {data : UpdateData}
    (hid : NulFree connId) (hdata : PlainUpdate data) (hnow : NulFree now) :
    Simulates (Kept py pg times times') (Option.Rel SameProfile)
      (SqliteApi.updateConnection py connId data now nonce ⟨s, none⟩)
      (PostgresApi.updateConnection pg py connId data now nonce' ⟨p, none⟩) := by
  -- what is written must be storable, which is more than what the call returns
  suffices hstep : Simulates (Kept py pg times times')
      (Option.Rel fun p q => SameProfile p q ∧ Storable p)
      (SqliteApi.updateConnection py connId data now nonce ⟨s, none⟩)
      (PostgresApi.updateConnection pg py connId data now nonce' ⟨p, none⟩) from
    { hstep with result := hstep.result.mono fun _ _ hxy => hxy.mono fun _ _ => And.left }
  unfold SqliteApi.updateConnection PostgresApi.updateConnection
  refine simulates_readModifyWrite h (by simp [Param.Fits]) (by simpa [Param.Plain] using hid)
    (h.find_connection connId) (fun a b hab => (agrees_rowToProfile hab).bind fun _ _ hexisting =>
      agrees_buildMergedProfile hpy hexisting.1 hexisting.2 hdata hid hnow) ?_ ?_
  · rintro updated _ ⟨⟨labels, rfl, hperm⟩, hstorable⟩
    exact ⟨by simpa [SqliteApi.updateParams, Param.Fits] using hstorable.port_lt,
      plain_updateParams hpy hid (hstorable.of_same ⟨labels, rfl, hperm⟩) nonce'⟩
  · rintro updated updated' ⟨hsame, hstorable⟩
    have hstorable' := hstorable.of_same hsame
    have hhosts_eq : updated'.hosts = updated.hosts := hsame.elim fun _ hlabels => hlabels.1 ▸ rfl
    obtain ⟨hosts, hjhosts, hhosts⟩ := hpg.array updated'.hosts hstorable'.hosts
    obtain ⟨labels, d, hjlabels, hlabels, hperm⟩ :=
      hpg.object updated'.labels hstorable'.clean.nodup hstorable'.labels
    unfold PostgresApi.updateStatement
    rw [hjhosts, hjlabels]
    refine h.updateConnection _ _ (fun a b hab ha => ?_) fun _ => rfl
    -- the row keeps its id and when it was created, in both tables
    have hcolumns := hab.same.columns
    have htwin := twin_written hpy hsame hstorable (ha ▸ hid) hab.nulFree_createdAt
      (hhosts_eq ▸ hhosts) hlabels hperm nonce nonce'
    show Twin py pg (written _ _ _ a.id a.createdAt updated)
      (written hosts labels _ b.id b.createdAt updated')
    rw [← hcolumns.1, ← hcolumns.2.2]
    exact htwin

/-- The delete-result tests of the two backends. -/
theorem deleteTag_eq {n : ℕ} : (PostgresApi.deleteTag n == "DELETE 1") = (n == 1) := by
  rw [Bool.eq_iff_iff, beq_iff_eq, beq_iff_eq]
  refine ⟨fun h => ?_, fun h => h ▸ rfl⟩
  have hone : PostgresApi.deleteTag 1 = "DELETE 1" := rfl
  have hrepr : n.repr = Nat.repr 1 := (String.append_right_inj "DELETE ").1 (h.trans hone.symm)
  have hdigits : Nat.toDigits 10 n = Nat.toDigits 10 1 := by
    rw [← Nat.toList_repr, ← Nat.toList_repr, hrepr]
  rw [← Nat.ofDigitChars_ten_toDigits (n := n), hdigits, Nat.ofDigitChars_ten_toDigits]

theorem simulates_deleteConnection (h : Kept py pg times times' s p) {connId : String}
    (hplain : NulFree connId) :
    Simulates (Kept py pg times times') Eq (SqliteApi.deleteConnection connId ⟨s, none⟩)
      (PostgresApi.deleteConnection connId ⟨p, none⟩) :=
  (simulates_write h (by simp [Param.Fits]) (by simpa [Param.Plain] using hplain)
    (h.deleteConnection connId)).bind_pure fun n _ hn => hn ▸ deleteTag_eq.symm

/-! ### Workspaces -/

/-- What the rows of `workspaces` are ordered by. -/
def WorkspaceColumns.rank {B : Type} (truth : B → Bool) (row : WorkspaceColumns B) :
    Bool ×ₗ String :=
  toLex (!truth row.isDefault, row.createdAt)

theorem before_iff {a a' : WorkspaceColumns ℕ} {b b' : WorkspaceColumns Bool}
    (hab : TwinWorkspace a b) (hab' : TwinWorkspace a' b') :
    SqliteApi.before a a' = true ↔ a.rank (· ≠ 0) ≤ a'.rank (· ≠ 0) := by
  rw [hab.stored, hab'.stored, SqliteApi.before, WorkspaceColumns.rank, WorkspaceColumns.rank,
    Prod.Lex.toLex_le_toLex]
  cases hb : b.isDefault <;> cases hb' : b'.isDefault <;>
    simp [WorkspaceColumns.stored, hb, hb']

theorem before_iff' {b b' : WorkspaceColumns Bool}
    (hle : pg.le b.createdAt b'.createdAt = true ↔ b.createdAt ≤ b'.createdAt) :
    PostgresApi.before pg b b' = true ↔ b.rank id ≤ b'.rank id := by
  rw [PostgresApi.before, WorkspaceColumns.rank, WorkspaceColumns.rank, Prod.Lex.toLex_le_toLex]
  cases b.isDefault <;> cases b'.isDefault <;> simp [hle]

/-- The workspaces of a `WHERE` clause come in one order. -/
theorem forall₂_workspaces (h : Kept py pg times times' s p) (ht : Ordered pg times')
    {q : WorkspaceColumns ℕ → Bool} {q' : WorkspaceColumns Bool → Bool}
    (hq : ∀ a b, TwinWorkspace a b → q a = q' b) :
    List.Forall₂ TwinWorkspace
      ((scan.found s.workspaces.rows q).insertionSort fun a b => SqliteApi.before a b)
      ((scan'.found p.workspaces.rows q').insertionSort
        fun a b => PostgresApi.before pg a b) := by
  have htimes : ∀ b ∈ p.workspaces.rows, b.createdAt ∈ times' := by
    intro b hb
    obtain ⟨a, ha, hab⟩ := Matched.exists_left h.workspaces hb
    have hcreated : a.createdAt = b.createdAt := hab.stored ▸ rfl
    exact hcreated ▸ h.workspaceTimes.subset (List.mem_map_of_mem ha)
  have hrank : ∀ a b, TwinWorkspace a b → a.rank (· ≠ 0) = b.rank id := by
    intro a b hab
    rw [hab.stored]
    cases hb : b.isDefault <;> simp [WorkspaceColumns.rank, WorkspaceColumns.stored, hb]
  have hnodup : (s.workspaces.rows.map (WorkspaceColumns.rank (· ≠ 0))).Nodup := by
    refine List.Nodup.of_map (fun k => (ofLex k).2) ?_
    rw [List.map_map]
    exact ht.distinct.sublist h.workspaceTimes
  refine forall₂_sorted h.workspaces hq hrank hnodup (fun a ha a' ha' => ?_)
    fun b hb b' hb' => before_iff' (ht.collation _ (htimes b hb) _ (htimes b' hb'))
  obtain ⟨b, -, hab⟩ := Matched.exists_right h.workspaces ha
  obtain ⟨b', -, hab'⟩ := Matched.exists_right h.workspaces ha'
  exact before_iff hab hab'

/-- The two backends read the same workspaces. -/
theorem agrees_rowToWorkspace {a : WorkspaceColumns ℕ} {b : WorkspaceColumns Bool}
    (hab : TwinWorkspace a b) :
    Agrees Eq (SqliteApi.rowToWorkspace a) (PostgresApi.rowToWorkspace b) := by
  rw [hab.stored, rowToWorkspace_stored]
  exact .refl fun _ _ => rfl

theorem agrees_mapM_rowToWorkspace {l : List (WorkspaceColumns ℕ)}
    {m : List (WorkspaceColumns Bool)} (h : List.Forall₂ TwinWorkspace l m) :
    Agrees Eq (l.mapM SqliteApi.rowToWorkspace) (m.mapM PostgresApi.rowToWorkspace) :=
  (Agrees.mapM h fun _ _ => agrees_rowToWorkspace).mono fun _ _ hF =>
    List.forall₂_eq_eq_eq ▸ hF

theorem simulates_getAllWorkspaces (h : Kept py pg times times' s p) (ht : Ordered pg times') :
    Simulates (Kept py pg times times') Eq (SqliteApi.getAllWorkspaces scan ⟨s, none⟩)
      (PostgresApi.getAllWorkspaces pg scan' ⟨p, none⟩) :=
  (simulates_read h (by simp) (by simp) (forall₂_workspaces h ht fun _ _ _ => rfl)).bind_lift
    fun _ _ => agrees_mapM_rowToWorkspace

theorem simulates_getWorkspacesOwnedBy (h : Kept py pg times times' s p)
    (ht : Ordered pg times') {ownerId : String} (hplain : NulFree ownerId) :
    Simulates (Kept py pg times times') Eq
      (SqliteApi.getWorkspacesOwnedBy scan ownerId ⟨s, none⟩)
      (PostgresApi.getWorkspacesOwnedBy pg scan' ownerId ⟨p, none⟩) := by
  refine (simulates_read h (by simp [Param.Fits]) ?_
    (forall₂_workspaces h ht fun a b hab => by rw [hab.stored]; rfl)).bind_lift
    fun _ _ => agrees_mapM_rowToWorkspace
  simp only [List.forall_mem_cons, Param.Plain]
  exact ⟨hplain, by decide, by simp⟩

theorem simulates_getWorkspace (h : Kept py pg times times' s p) {workspaceId : String}
    (hplain : NulFree workspaceId) :
    Simulates (Kept py pg times times') Eq (SqliteApi.getWorkspace workspaceId ⟨s, none⟩)
      (PostgresApi.getWorkspace workspaceId ⟨p, none⟩) := by
  refine (simulates_read h (by simp [Param.Fits]) (by simpa [Param.Plain] using hplain)
    (h.find_workspace workspaceId)).bind_lift fun x y hxy => ?_
  cases hxy with
  | none => exact .ok rfl
  | some hab => exact (agrees_rowToWorkspace hab).map fun _ _ => congrArg some

@[inherit_doc plain_newConnection]
theorem plain_newWorkspace {ws : Workspace} (h : PlainNewWorkspace ws) :
    ∀ q ∈ [Param.text ws.id, .text ws.name, .text ws.color, .text? ws.description,
      .bool ws.isDefault, .text ws.ownerId, .text ws.createdAt, .text ws.updatedAt], q.Plain := by
  simp only [List.forall_mem_cons, Param.Plain]
  exact ⟨h.id, h.name, h.color, h.description, trivial, h.ownerId, h.createdAt, h.updatedAt,
    by simp⟩

@[inherit_doc plain_updateParams]
theorem plain_updateWorkspaceParams {workspaceId : String} {ws : Workspace}
    (hid : NulFree workspaceId) (h : PlainWorkspace ws) :
    ∀ q ∈ PostgresApi.updateWorkspaceParams workspaceId ws, q.Plain := by
  simp only [PostgresApi.updateWorkspaceParams, List.forall_mem_cons, Param.Plain]
  exact ⟨h.name, h.color, h.description, h.updatedAt, hid, by simp⟩

theorem simulates_createWorkspace (h : Kept py pg times times' s p) {ws : Workspace}
    (hws : PlainNewWorkspace ws) :
    Simulates (Kept py pg times (times' ++ [ws.createdAt])) Eq
      (SqliteApi.createWorkspace ws ⟨s, none⟩) (PostgresApi.createWorkspace ws ⟨p, none⟩) := by
  have hkept := h.mono [] [ws.createdAt]
  rw [List.append_nil] at hkept
  unfold SqliteApi.createWorkspace PostgresApi.createWorkspace
  refine simulates_write hkept ?_ (plain_newWorkspace hws) ?_
  · cases ws.isDefault <;> simp [Param.Fits]
  · have hrow : TwinWorkspace
        ⟨ws.id, ws.name, ws.color, ws.description, if ws.isDefault then 1 else 0, ws.ownerId,
          ws.createdAt, ws.updatedAt⟩
        ⟨ws.id, ws.name, ws.color, ws.description, ws.isDefault, ws.ownerId, ws.createdAt,
          ws.updatedAt⟩ := ⟨rfl, hws.name, hws.color, hws.description⟩
    exact h.insertWorkspace hrow

theorem simulates_updateWorkspace (h : Kept py pg times times' s p) {workspaceId now : String}
    {data : WorkspaceUpdateData} (hid : NulFree workspaceId) (hdata : PlainWorkspaceUpdate data)
    (hnow : NulFree now) :
    Simulates (Kept py pg times times') Eq
      (SqliteApi.updateWorkspace workspaceId data now ⟨s, none⟩)
      (PostgresApi.updateWorkspace workspaceId data now ⟨p, none⟩) := by
  suffices hstep : Simulates (Kept py pg times times')
      (Option.Rel fun ws ws' => ws' = ws ∧ PlainWorkspace ws)
      (SqliteApi.updateWorkspace workspaceId data now ⟨s, none⟩)
      (PostgresApi.updateWorkspace workspaceId data now ⟨p, none⟩) from
    { hstep with result := hstep.result.mono fun _ _ hxy => hxy.eq fun _ _ hws => hws.1.symm }
  unfold SqliteApi.updateWorkspace PostgresApi.updateWorkspace
  refine simulates_readModifyWrite h (by simp [Param.Fits]) (by simpa [Param.Plain] using hid)
    (h.find_workspace workspaceId) (fun a b hab => agrees_mergeWorkspace hab hdata hnow) ?_ ?_
  · rintro ws _ ⟨rfl, hws⟩
    exact ⟨by simp [SqliteApi.updateWorkspaceParams, Param.Fits],
      plain_updateWorkspaceParams hid hws⟩
  · rintro ws _ ⟨rfl, hws⟩
    exact h.updateWorkspace _ _
      (fun a b hab => ⟨by rw [hab.stored]; rfl, hws.name, hws.color, hws.description⟩) fun _ => rfl

theorem simulates_deleteWorkspace (h : Kept py pg times times' s p) {workspaceId : String}
    (hplain : NulFree workspaceId) :
    Simulates (Kept py pg times times') Eq (SqliteApi.deleteWorkspace workspaceId ⟨s, none⟩)
      (PostgresApi.deleteWorkspace workspaceId ⟨p, none⟩) :=
  (simulates_write h (by simp [Param.Fits]) (by simpa [Param.Plain] using hplain)
    (h.deleteWorkspace workspaceId)).bind_pure fun n _ hn => hn ▸ deleteTag_eq.symm

theorem simulates_countConnectionsInWorkspace (h : Kept py pg times times' s p)
    {workspaceId : String} (hplain : NulFree workspaceId) :
    Simulates (Kept py pg times times') Eq
      (SqliteApi.countConnectionsInWorkspace workspaceId ⟨s, none⟩)
      (PostgresApi.countConnectionsInWorkspace workspaceId ⟨p, none⟩) :=
  simulates_read h (by simp [Param.Fits]) (by simpa [Param.Plain] using hplain)
    (Matched.countP_eq h.connections fun a b hab => by rw [hab.same.columns.2.1])

/-! ### Set notes -/

/-- The row that a primary key finds, in whatever order the rows are looked at. -/
theorem head?_found {α κ : Type} [DecidableEq κ] {key : α → κ} (t : Table α key) {q : α → Bool}
    {k : κ} (hq : ∀ a ∈ t, q a = true ↔ key a = k) :
    (scan.found t.rows q).head? = t.find? k := by
  have hperm := perm_found scan t.rows q
  rw [t.filter_key hq] at hperm
  cases hfind : t.find? k with
  | none =>
    rw [hfind] at hperm
    rw [List.Perm.eq_nil hperm]
    rfl
  | some a =>
    rw [hfind] at hperm
    rw [List.perm_singleton.1 hperm]
    rfl

/-- The rows of a `WHERE` clause, in whatever orders they are sorted. -/
theorem perm_sorted {α : Type} (rows : List α) (q : α → Bool) (r r' : α → α → Prop)
    [DecidableRel r] [DecidableRel r'] :
    ((scan.found rows q).insertionSort r).Perm ((scan'.found rows q).insertionSort r') :=
  ((List.perm_insertionSort r _).trans (perm_found scan rows q)).trans
    ((List.perm_insertionSort r' _).trans (perm_found scan' rows q)).symm

/-- What is bound to store a note. -/
theorem plain_setNote {connectionId namespace_ setName note now : String}
    {updatedBy : Option String}
    (hplain : ∀ s ∈ [connectionId, namespace_, setName, note, now], NulFree s)
    (hupdated : ∀ s ∈ updatedBy, NulFree s) :
    ∀ q ∈ [Param.text connectionId, .text namespace_, .text setName, .text note, .text now,
      .text now, .text? updatedBy], q.Plain := by
  simp only [List.forall_mem_cons] at hplain
  obtain ⟨hconnection, hnamespace, hset, hnote, hnow, -⟩ := hplain
  simp only [List.forall_mem_cons, Param.Plain]
  exact ⟨hconnection, hnamespace, hset, hnote, hnow, hnow, hupdated, by simp⟩

theorem simulates_upsertSetNote (h : Kept py pg times times' s p)
    {connectionId namespace_ setName note now : String} {updatedBy : Option String}
    (hplain : ∀ s ∈ [connectionId, namespace_, setName, note, now], NulFree s)
    (hupdated : ∀ s ∈ updatedBy, NulFree s) :
    Simulates (Kept py pg times times') Eq
      (SqliteApi.upsertSetNote connectionId namespace_ setName note updatedBy now ⟨s, none⟩)
      (PostgresApi.upsertSetNote connectionId namespace_ setName note updatedBy now ⟨p, none⟩) := by
  unfold SqliteApi.upsertSetNote PostgresApi.upsertSetNote
  exact simulates_write h (by simp [Param.Fits]) (plain_setNote hplain hupdated) h.upsertSetNote

theorem simulates_deleteSetNote (h : Kept py pg times times' s p)
    {connectionId namespace_ setName : String}
    (hplain : ∀ s ∈ [connectionId, namespace_, setName], NulFree s) :
    Simulates (Kept py pg times times') Eq
      (SqliteApi.deleteSetNote connectionId namespace_ setName ⟨s, none⟩)
      (PostgresApi.deleteSetNote connectionId namespace_ setName ⟨p, none⟩) :=
  (simulates_write h (by simp [Param.Fits]) (by simpa [Param.Plain] using hplain)
    (h.deleteSetNotes _)).bind_pure fun n _ hn => hn ▸ deleteTag_eq.symm

theorem simulates_getSetNote (h : Kept py pg times times' s p)
    {connectionId namespace_ setName : String}
    (hplain : ∀ s ∈ [connectionId, namespace_, setName], NulFree s) :
    Simulates (Kept py pg times times') Eq
      (SqliteApi.getSetNote scan connectionId namespace_ setName ⟨s, none⟩)
      (PostgresApi.getSetNote scan' connectionId namespace_ setName ⟨p, none⟩) := by
  have hq : ∀ row ∈ p.setNotes, (row.connectionId = connectionId && row.namespace_ = namespace_
      && row.setName = setName : Bool) = true ↔
        SetNote.key row = (connectionId, namespace_, setName) := by
    intro row _
    simp [SetNote.key, and_assoc]
  refine simulates_read h (by simp [Param.Fits]) (by simpa [Param.Plain] using hplain) ?_
  rw [h.setNotes, head?_found _ hq, head?_found _ hq]

theorem simulates_listSetNotes (h : Kept py pg times times' s p) {connectionId : String}
    {namespace_ : Option String} (hplain : NulFree connectionId)
    (hnamespace : ∀ s ∈ namespace_, NulFree s) :
    Simulates (Kept py pg times times') List.Perm
      (SqliteApi.listSetNotes scan connectionId namespace_ ⟨s, none⟩)
      (PostgresApi.listSetNotes pg scan' connectionId namespace_ ⟨p, none⟩) := by
  unfold SqliteApi.listSetNotes PostgresApi.listSetNotes
  cases namespace_ with
  | none =>
    refine simulates_read h ?_ ?_ ?_
    · simp [Param.Fits]
    · simpa [Param.Plain] using hplain
    · rw [h.setNotes]
      exact perm_sorted _ _ _ _
  | some namespace_ =>
    refine simulates_read h ?_ ?_ ?_
    · simp [Param.Fits]
    · simpa [Param.Plain] using And.intro hplain (hnamespace namespace_ rfl)
    · rw [h.setNotes]
      exact perm_sorted _ _ _ _

theorem simulates_batchGetSetNotes (h : Kept py pg times times' s p)
    {connectionId namespace_ : String} {setNames : List String}
    (hplain : ∀ s ∈ connectionId :: namespace_ :: setNames, NulFree s) :
    Simulates (Kept py pg times times') List.Perm
      (SqliteApi.batchGetSetNotes scan connectionId namespace_ setNames ⟨s, none⟩)
      (PostgresApi.batchGetSetNotes scan' connectionId namespace_ setNames ⟨p, none⟩) := by
  unfold SqliteApi.batchGetSetNotes PostgresApi.batchGetSetNotes
  split
  · exact ⟨.ok (.refl _), rfl, rfl, h⟩
  · have hquery : (fun row : SetNote => row.connectionId = connectionId
        && row.namespace_ = namespace_ && setNames.contains row.setName : SetNote → Bool) =
        fun row => row.connectionId = connectionId && row.namespace_ = namespace_
          && setNames.any fun setName => row.setName = setName := by
      funext row
      rw [Bool.eq_iff_iff]
      simp
    refine (simulates_read (R := fun l m => l.Perm m ∧ ∀ row ∈ l, row ∈ p.setNotes ∧
      row.connectionId = connectionId ∧ row.namespace_ = namespace_) h ?_ ?_ ?_).bind_pure ?_
    · simp [Param.Fits]
    · simp only [List.forall_mem_cons] at hplain
      simp only [List.forall_mem_cons, Param.Plain]
      exact ⟨hplain.1, hplain.2.1, hplain.2.2, by simp⟩
    · rw [h.setNotes, hquery]
      refine ⟨(perm_found scan _ _).trans (perm_found scan' _ _).symm, fun row hrow => ?_⟩
      have hmem := (perm_found scan _ _).mem_iff.1 hrow
      simp only [List.mem_filter, Bool.and_eq_true, decide_eq_true_eq] at hmem
      exact ⟨hmem.1, hmem.2.1.1, hmem.2.1.2⟩
    -- a name has one note here: the rest of the primary key is that of the call
    · rintro l m ⟨hperm, hmem⟩
      refine Dict.ofPairs_perm ?_ fun _ => (hperm.map _).mem_iff
      intro pair hpair pair' hpair' hkey
      obtain ⟨row, hrow, rfl⟩ := List.mem_map.1 hpair
      obtain ⟨row', hrow', rfl⟩ := List.mem_map.1 hpair'
      obtain ⟨hrow, hconnection, hnamespace⟩ := hmem row hrow
      obtain ⟨hrow', hconnection', hnamespace'⟩ := hmem row' hrow'
      have hname : row.setName = row'.setName := hkey
      have heq : row = row' := Table.eq_of_key hrow hrow' <| by
        simp only [SetNote.key, hconnection, hconnection', hnamespace, hnamespace', hname]
      rw [heq]

/-! ### Record notes -/

@[inherit_doc plain_setNote]
theorem plain_recordNote {connectionId namespace_ setName pkText pkType note now : String}
    {digestHex updatedBy : Option String}
    (hplain : ∀ s ∈ [connectionId, namespace_, setName, pkText, pkType, note, now], NulFree s)
    (hdigest : ∀ s ∈ digestHex, NulFree s) (hupdated : ∀ s ∈ updatedBy, NulFree s) :
    ∀ q ∈ [Param.text connectionId, .text namespace_, .text setName, .text pkText, .text pkType,
      .text? digestHex, .text note, .text now, .text now, .text? updatedBy], q.Plain := by
  simp only [List.forall_mem_cons] at hplain
  obtain ⟨hconnection, hnamespace, hset, htext, htype, hnote, hnow, -⟩ := hplain
  simp only [List.forall_mem_cons, Param.Plain]
  exact ⟨hconnection, hnamespace, hset, htext, htype, hdigest, hnote, hnow, hnow, hupdated,
    by simp⟩

theorem simulates_upsertRecordNote (h : Kept py pg times times' s p)
    {connectionId namespace_ setName pkText pkType note now : String}
    {digestHex updatedBy : Option String}
    (hplain : ∀ s ∈ [connectionId, namespace_, setName, pkText, pkType, note, now], NulFree s)
    (hdigest : ∀ s ∈ digestHex, NulFree s) (hupdated : ∀ s ∈ updatedBy, NulFree s) :
    Simulates (Kept py pg times times') Eq
      (SqliteApi.upsertRecordNote connectionId namespace_ setName pkText pkType note digestHex
        updatedBy now ⟨s, none⟩)
      (PostgresApi.upsertRecordNote connectionId namespace_ setName pkText pkType note digestHex
        updatedBy now ⟨p, none⟩) := by
  unfold SqliteApi.upsertRecordNote PostgresApi.upsertRecordNote
  refine (simulates_write h (by simp [Param.Fits]) (plain_recordNote hplain hdigest hupdated)
    h.upsertRecordNote).bind_lift ?_
  rintro row _ rfl
  exact .refl fun _ _ => rfl

theorem simulates_deleteRecordNote (h : Kept py pg times times' s p)
    {connectionId namespace_ setName pkText pkType : String}
    (hplain : ∀ s ∈ [connectionId, namespace_, setName, pkText, pkType], NulFree s) :
    Simulates (Kept py pg times times') Eq
      (SqliteApi.deleteRecordNote connectionId namespace_ setName pkText pkType ⟨s, none⟩)
      (PostgresApi.deleteRecordNote connectionId namespace_ setName pkText pkType ⟨p, none⟩) :=
  (simulates_write h (by simp [Param.Fits]) (by simpa [Param.Plain] using hplain)
    (h.deleteRecordNotes _)).bind_pure fun n _ hn => hn ▸ deleteTag_eq.symm

theorem simulates_getRecordNote (h : Kept py pg times times' s p)
    {connectionId namespace_ setName pkText pkType : String}
    (hplain : ∀ s ∈ [connectionId, namespace_, setName, pkText, pkType], NulFree s) :
    Simulates (Kept py pg times times') Eq
      (SqliteApi.getRecordNote scan connectionId namespace_ setName pkText pkType ⟨s, none⟩)
      (PostgresApi.getRecordNote scan' connectionId namespace_ setName pkText pkType
        ⟨p, none⟩) := by
  have hq : ∀ row ∈ p.recordNotes, (row.connectionId = connectionId && row.namespace_ = namespace_
      && row.setName = setName && row.pkText = pkText && row.pkType = pkType : Bool) = true ↔
        RecordNote.key row = (connectionId, namespace_, setName, pkText, pkType) := by
    intro row _
    simp [RecordNote.key, and_assoc]
  refine (simulates_read (R := Eq) h (by simp [Param.Fits]) (by simpa [Param.Plain] using hplain)
    ?_).bind_lift ?_
  · rw [h.recordNotes, head?_found _ hq, head?_found _ hq]
  · rintro row _ rfl
    exact .refl fun _ _ => rfl

theorem simulates_listRecordNotes (h : Kept py pg times times' s p)
    {connectionId namespace_ setName : String}
    (hplain : ∀ s ∈ [connectionId, namespace_, setName], NulFree s) :
    Simulates (Kept py pg times times') List.Perm
      (SqliteApi.listRecordNotes scan connectionId namespace_ setName ⟨s, none⟩)
      (PostgresApi.listRecordNotes pg scan' connectionId namespace_ setName ⟨p, none⟩) := by
  refine (simulates_read (R := List.Perm) h (by simp [Param.Fits])
    (by simpa [Param.Plain] using hplain) ?_).bind_lift fun _ _ => Agrees.mapM_perm
  rw [h.recordNotes]
  exact perm_sorted _ _ _ _

theorem simulates_batchGetRecordNotes (h : Kept py pg times times' s p)
    {connectionId namespace_ setName : String} {pks : List (String × String)}
    (hplain : ∀ s ∈ [connectionId, namespace_, setName], NulFree s)
    (hpks : ∀ pk ∈ pks, NulFree pk.1 ∧ NulFree pk.2) :
    Simulates (Kept py pg times times') List.Perm
      (SqliteApi.batchGetRecordNotes scan connectionId namespace_ setName pks ⟨s, none⟩)
      (PostgresApi.batchGetRecordNotes scan' connectionId namespace_ setName pks ⟨p, none⟩) := by
  unfold SqliteApi.batchGetRecordNotes PostgresApi.batchGetRecordNotes
  split
  · exact ⟨.ok (.refl _), rfl, rfl, h⟩
  · refine (simulates_read (R := fun l m => (∀ row, row ∈ l ↔ row ∈ m) ∧ ∀ row ∈ l,
      row ∈ p.recordNotes ∧ row.connectionId = connectionId ∧ row.namespace_ = namespace_ ∧
        row.setName = setName) h ?_ ?_ ?_).bind_pure ?_
    · simp only [List.forall_mem_cons, List.mem_flatMap]
      refine ⟨trivial, trivial, trivial, ?_⟩
      rintro _ ⟨pk, -, hq⟩
      simp only [List.mem_cons, List.not_mem_nil, or_false] at hq
      rcases hq with rfl | rfl <;> trivial
    · simp only [List.forall_mem_cons] at hplain
      simp only [List.forall_mem_cons, Param.Plain]
      exact ⟨hplain.1, hplain.2.1, hplain.2.2.1, by simpa using fun a b hab => (hpks _ hab).1,
        by simpa using fun a b hab => (hpks _ hab).2, by simp⟩
    -- the join repeats a row for each request of its key, so only the rows themselves agree
    · have hzip : (pks.map Prod.fst).zip (pks.map Prod.snd) = pks := by
        rw [List.zip_map', List.map_id'']
        exact fun _ => rfl
      rw [h.recordNotes, hzip]
      refine ⟨fun row => ?_, fun row hrow => ?_⟩
      · rw [(perm_found scan _ _).mem_iff, (perm_found scan' _ _).mem_iff]
        simp only [List.mem_filter, List.mem_flatMap, List.mem_map, Bool.and_eq_true,
          decide_eq_true_eq, List.any_eq_true]
        constructor
        · rintro ⟨hrow, hscope, pk, hpk, hkey⟩
          exact ⟨⟨row, hrow, pk, ⟨hpk, hkey⟩, rfl⟩, hscope⟩
        · rintro ⟨⟨_, hrow, pk, ⟨hpk, hkey⟩, rfl⟩, hscope⟩
          exact ⟨hrow, hscope, pk, hpk, hkey⟩
      · have hmem := (perm_found scan _ _).mem_iff.1 hrow
        simp only [List.mem_filter, Bool.and_eq_true, decide_eq_true_eq] at hmem
        exact ⟨hmem.1, hmem.2.1.1.1, hmem.2.1.1.2, hmem.2.1.2⟩
    · rintro l m ⟨hmem, hrows⟩
      refine Dict.ofPairs_perm ?_ fun pair => ?_
      · intro pair hpair pair' hpair' hkey
        obtain ⟨row, hrow, rfl⟩ := List.mem_map.1 hpair
        obtain ⟨row', hrow', rfl⟩ := List.mem_map.1 hpair'
        obtain ⟨hrow, hconnection, hnamespace, hset⟩ := hrows row hrow
        obtain ⟨hrow', hconnection', hnamespace', hset'⟩ := hrows row' hrow'
        obtain ⟨htext, htype⟩ := Prod.mk.inj hkey
        have heq : row = row' := Table.eq_of_key hrow hrow' <| by
          simp only [RecordNote.key, hconnection, hconnection', hnamespace, hnamespace', hset, hset',
            htext, htype]
        rw [heq]
      · simp only [List.mem_map, hmem]

/-! ### Guides -/

/-- What is bound to store a guide. -/
theorem plain_guide {workspaceId guideType title content now : String} {updatedBy : Option String}
    (hplain : ∀ s ∈ [workspaceId, guideType, title, content, now], NulFree s)
    (hupdated : ∀ s ∈ updatedBy, NulFree s) :
    ∀ q ∈ [Param.text workspaceId, .text guideType, .text title, .text content, .text now,
      .text now, .text? updatedBy], q.Plain := by
  simp only [List.forall_mem_cons] at hplain
  obtain ⟨hworkspace, htype, htitle, hcontent, hnow, -⟩ := hplain
  simp only [List.forall_mem_cons, Param.Plain]
  exact ⟨hworkspace, htype, htitle, hcontent, hnow, hnow, hupdated, by simp⟩

theorem simulates_upsertGuide (h : Kept py pg times times' s p)
    {workspaceId guideType title content now : String} {updatedBy : Option String}
    (hplain : ∀ s ∈ [workspaceId, guideType, title, content, now], NulFree s)
    (hupdated : ∀ s ∈ updatedBy, NulFree s) :
    Simulates (Kept py pg times times') Eq
      (SqliteApi.upsertGuide workspaceId guideType title content updatedBy now ⟨s, none⟩)
      (PostgresApi.upsertGuide workspaceId guideType title content updatedBy now ⟨p, none⟩) := by
  unfold SqliteApi.upsertGuide PostgresApi.upsertGuide
  refine (simulates_write h (by simp [Param.Fits]) (plain_guide hplain hupdated)
    h.upsertGuide).bind_lift ?_
  rintro row _ rfl
  exact .refl fun _ _ => rfl

theorem simulates_getGuide (h : Kept py pg times times' s p) {workspaceId guideType : String}
    (hplain : ∀ s ∈ [workspaceId, guideType], NulFree s) :
    Simulates (Kept py pg times times') Eq (SqliteApi.getGuide scan workspaceId guideType ⟨s, none⟩)
      (PostgresApi.getGuide scan' workspaceId guideType ⟨p, none⟩) := by
  have hq : ∀ row ∈ p.guides, (row.workspaceId = workspaceId && row.guideType = guideType : Bool) =
      true ↔ Guide.key row = (workspaceId, guideType) := by
    intro row _
    simp [Guide.key]
  refine (simulates_read (R := Eq) h (by simp [Param.Fits]) (by simpa [Param.Plain] using hplain)
    ?_).bind_lift ?_
  · rw [h.guides, head?_found _ hq, head?_found _ hq]
  · rintro row _ rfl
    exact .refl fun _ _ => rfl

theorem simulates_listGuides (h : Kept py pg times times' s p) {workspaceId : String}
    (hplain : NulFree workspaceId) :
    Simulates (Kept py pg times times') List.Perm (SqliteApi.listGuides scan workspaceId ⟨s, none⟩)
      (PostgresApi.listGuides pg scan' workspaceId ⟨p, none⟩) := by
  refine (simulates_read (R := List.Perm) h (by simp [Param.Fits])
    (by simpa [Param.Plain] using hplain) ?_).bind_lift fun _ _ => Agrees.mapM_perm
  rw [h.guides]
  exact perm_sorted _ _ _ _

theorem simulates_deleteGuide (h : Kept py pg times times' s p) {workspaceId guideType : String}
    (hplain : ∀ s ∈ [workspaceId, guideType], NulFree s) :
    Simulates (Kept py pg times times') Eq (SqliteApi.deleteGuide workspaceId guideType ⟨s, none⟩)
      (PostgresApi.deleteGuide workspaceId guideType ⟨p, none⟩) :=
  (simulates_write h (by simp [Param.Fits]) (by simpa [Param.Plain] using hplain)
    (h.deleteGuides _)).bind_pure fun n _ hn => hn ▸ deleteTag_eq.symm

/-! ### Every call -/

/-- What an engine and Fernet are free to choose during a call. -/
structure Chance where
  nonce : ℕ
  scan : Scan

/-- A call simulates itself on the two sides. -/
theorem simulates_program (hpy : py.Lawful) (hpg : LawfulServer pg)
    (h : Kept py pg times times' s p) (ht : Ordered pg times) (ht' : Ordered pg times')
    {call : ApiCall py.toRuntime} (hplain : call.Plain) (chance chance' : Chance) :
    Simulates (Kept py pg (times ++ call.connectionTimes) (times' ++ call.workspaceTimes))
      (SameResult call) (SqliteApi.program py chance.scan chance.nonce call ⟨s, none⟩)
      (PostgresApi.program pg py chance'.scan chance'.nonce call ⟨p, none⟩) := by
  cases call with
  | getAllConnections _ => exact (simulates_getAllConnections h ht hplain).more
  | getConnection _ => exact (simulates_getConnection h hplain).more
  | createConnection conn =>
    have htimes : times' ++ ApiCall.workspaceTimes (.createConnection conn) = times' :=
      List.append_nil _
    rw [htimes]
    exact simulates_createConnection hpy hpg h (conn.storable hplain)
  | updateConnection _ _ _ =>
    exact (simulates_updateConnection hpy hpg h hplain.1 hplain.2.1 hplain.2.2).more
  | deleteConnection _ => exact (simulates_deleteConnection h hplain).more
  | getAllWorkspaces => exact (simulates_getAllWorkspaces h ht').more
  | getWorkspace _ => exact (simulates_getWorkspace h hplain).more
  | getWorkspacesOwnedBy _ =>
    exact (simulates_getWorkspacesOwnedBy h ht' hplain).more
  | createWorkspace ws =>
    have htimes : times ++ (.createWorkspace ws : ApiCall py.toRuntime).connectionTimes = times :=
      List.append_nil _
    rw [htimes]
    exact simulates_createWorkspace h hplain
  | updateWorkspace _ _ _ =>
    exact (simulates_updateWorkspace h hplain.1 hplain.2.1 hplain.2.2).more
  | deleteWorkspace _ => exact (simulates_deleteWorkspace h hplain).more
  | countConnectionsInWorkspace _ =>
    exact (simulates_countConnectionsInWorkspace h hplain).more
  | upsertSetNote _ _ _ _ _ _ =>
    exact (simulates_upsertSetNote h hplain.1 hplain.2).more
  | deleteSetNote _ _ _ => exact (simulates_deleteSetNote h hplain).more
  | getSetNote _ _ _ => exact (simulates_getSetNote h hplain).more
  | listSetNotes _ _ =>
    exact (simulates_listSetNotes h hplain.1 hplain.2).more
  | batchGetSetNotes _ _ _ => exact (simulates_batchGetSetNotes h hplain).more
  | upsertRecordNote _ _ _ _ _ _ _ _ _ =>
    exact (simulates_upsertRecordNote h hplain.1 hplain.2.1 hplain.2.2).more
  | deleteRecordNote _ _ _ _ _ =>
    exact (simulates_deleteRecordNote h hplain).more
  | getRecordNote _ _ _ _ _ => exact (simulates_getRecordNote h hplain).more
  | listRecordNotes _ _ _ => exact (simulates_listRecordNotes h hplain).more
  | batchGetRecordNotes _ _ _ _ =>
    exact (simulates_batchGetRecordNotes h hplain.1 hplain.2).more
  | upsertGuide _ _ _ _ _ _ =>
    exact (simulates_upsertGuide h hplain.1 hplain.2).more
  | getGuide _ _ => exact (simulates_getGuide h hplain).more
  | listGuides _ => exact (simulates_listGuides h hplain).more
  | deleteGuide _ _ => exact (simulates_deleteGuide h hplain).more

end Calls

end ClusterManager.Db.Backend
