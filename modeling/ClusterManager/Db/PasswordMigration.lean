import Mathlib.Data.List.Forall2
import ClusterManager.Db.SqliteSerial

/-!
# The password migration preserves meaning

`migrate_passwords_to_encrypted` running alone on the shared connection. Its loop keeps the rows
it has passed rewritten and those before it as they were (`run_rewriteRows`), so that it commits
the table with every legacy password encrypted (`run_migrate_ok`) or nothing
(`run_migrate_error`).
-/

namespace ClusterManager.Db.Sqlite

variable {rt : Runtime} {draws : Draws}

/-- Whether the row stores a plaintext password. -/
def isLegacy (row : ConnectionRow) : Bool := (legacyPassword row).isSome

/-- The row after the migration, if the encryption of its password returns. -/
def migratedRow (rt : Runtime) (draws : Draws) (row : ConnectionRow) : Except Exc ConnectionRow :=
  match legacyPassword row with
  | none => .ok row
  | some password => (draws.draw row.id).map fun nonce =>
      { row with password := some (encryptPassword rt.fernet nonce password) }

/-- What the migration keeps of a row, and what it makes of its password. -/
structure Migrated (rt : Runtime) (row row' : ConnectionRow) : Prop where
  columns : row' = { row with password := row'.password }
  encrypted : ∀ password, row'.password = some password → password ≠ "" →
    hasPrefixV1 password = true
  untouched : row.password = none ∨ row.password = some "" → row'.password = row.password
  readable : ∀ profile, decryptedProfile rt row = .ok profile →
    decryptedProfile rt row' = .ok profile

/-! ### One row -/

theorem legacyPassword_eq_some {row : ConnectionRow} {password : String} :
    legacyPassword row = some password ↔
      row.password = some password ∧ password ≠ "" ∧ hasPrefixV1 password = false := by
  rw [legacyPassword, Option.filter_eq_some_iff]
  refine and_congr_right fun _ => ?_
  by_cases hempty : password = "" <;> simp [isEncrypted, hempty]

theorem legacyPassword_eq_none {row : ConnectionRow} :
    legacyPassword row = none ↔
      ∀ password, row.password = some password → password ≠ "" → hasPrefixV1 password = true := by
  rw [Option.eq_none_iff_forall_not_mem]
  simp only [Option.mem_def, legacyPassword_eq_some, not_and, Bool.not_eq_false]

/-- A row that stores no plaintext password is what the migration wants. -/
theorem migrated_refl {row : ConnectionRow} (h : legacyPassword row = none) :
    Migrated rt row row :=
  ⟨rfl, legacyPassword_eq_none.1 h, fun _ => rfl, fun _ h => h⟩

/-- Encrypting a plaintext password keeps what the row reads as. -/
theorem migrated_encrypt (hf : rt.fernet.Lawful) {row : ConnectionRow} {password : String}
    (h : legacyPassword row = some password) (nonce : ℕ) :
    Migrated rt row
      { row with password := some (encryptPassword rt.fernet nonce password) } := by
  obtain ⟨hpassword, hne, hprefix⟩ := legacyPassword_eq_some.1 h
  have hread : decryptPassword rt.fernet row.password = .ok (some password) := by
    simp [decryptPassword, hpassword, hne, hprefix]
  have hread' : decryptPassword rt.fernet (some (encryptPassword rt.fernet nonce password)) =
      .ok (some password) := by
    simpa [storedPassword, hne] using decryptPassword_storedPassword hf nonce (some password)
  refine ⟨rfl, ?_, ?_, ?_⟩
  · rintro _ ⟨⟩ -
    rw [encryptPassword, if_neg hne]
    exact hasPrefixV1_append _
  · rw [hpassword]
    rintro (h | h)
    · simp at h
    · exact absurd (Option.some.inj h) hne
  · intro profile hprofile
    obtain ⟨hvalid, password', hpassword', rfl⟩ := decryptedProfile_eq_ok.1 hprofile
    obtain rfl := Except.ok.inj (hread.symm.trans hpassword')
    exact decryptedProfile_eq_ok.2 ⟨hvalid, some password, hread', rfl⟩

theorem migrated_of_migratedRow (hf : rt.fernet.Lawful) {row row' : ConnectionRow}
    (h : migratedRow rt draws row = .ok row') : Migrated rt row row' := by
  unfold migratedRow at h
  cases hp : legacyPassword row with
  | none =>
    rw [hp] at h
    cases h
    exact migrated_refl hp
  | some password =>
    rw [hp] at h
    cases hn : draws.draw row.id with
    | error e => simp [hn, Except.map] at h
    | ok nonce =>
      simp only [hn, Except.map, Except.ok.injEq] at h
      exact h ▸ migrated_encrypt hf hp nonce

/-- A migrated row stores no plaintext password any more. -/
theorem Migrated.not_isLegacy {row row' : ConnectionRow} (h : Migrated rt row row') :
    isLegacy row' = false := by
  rw [isLegacy, legacyPassword_eq_none.2 h.encrypted]
  rfl

/-! ### All rows -/

theorem forall₂_of_mapM {l l' : List ConnectionRow} (hf : rt.fernet.Lawful)
    (h : l.mapM (migratedRow rt draws) = .ok l') : List.Forall₂ (Migrated rt) l l' := by
  induction l generalizing l' with
  | nil =>
    cases h
    exact .nil
  | cons row l ih =>
    rw [List.mapM_cons] at h
    obtain ⟨row', hrow, h⟩ := exists_of_bind_ok h
    obtain ⟨rest, hrest, h⟩ := exists_of_bind_ok h
    cases h
    exact .cons (migrated_of_migratedRow hf hrow) (ih hrest)

/-- The rows are migrated if the encryption of every plaintext password returns. -/
theorem exists_mapM_migratedRow {l : List ConnectionRow}
    (h : ∀ row ∈ l, isLegacy row = true → ∃ nonce, draws.draw row.id = .ok nonce) :
    ∃ l', l.mapM (migratedRow rt draws) = .ok l' := by
  refine exists_mapM fun row hrow => ?_
  unfold migratedRow
  cases hp : legacyPassword row with
  | none => exact ⟨row, rfl⟩
  | some password =>
    obtain ⟨nonce, hn⟩ := h row hrow (by rw [isLegacy, hp]; rfl)
    exact ⟨_, by rw [hn]; rfl⟩

/-- They are not if the encryption of one raises. -/
theorem mapM_migratedRow_error {l : List ConnectionRow}
    (h : ∃ row ∈ l, isLegacy row = true ∧ ∃ e, draws.draw row.id = .error e) :
    ∃ e, l.mapM (migratedRow rt draws) = .error e ∧ e.isException = true := by
  obtain ⟨row, hrow, hlegacy, e, he⟩ := h
  have hraise : ∀ row e, migratedRow rt draws row = .error e → e.isException = true := by
    intro row e h
    unfold migratedRow at h
    cases hp : legacyPassword row with
    | none => simp [hp] at h
    | some password =>
      cases hn : draws.draw row.id with
      | ok nonce => simp [hp, hn, Except.map] at h
      | error e' =>
        simp only [hp, hn, Except.map, Except.error.injEq] at h
        exact h ▸ draws.isException _ _ hn
  induction l with
  | nil => cases hrow
  | cons a l ih =>
    rw [List.mapM_cons]
    cases ha : migratedRow rt draws a with
    | error e' => exact ⟨e', rfl, hraise a e' ha⟩
    | ok a' =>
      rcases List.mem_cons.1 hrow with rfl | hrow
      · obtain ⟨password, hp⟩ := Option.isSome_iff_exists.1 hlegacy
        simp [migratedRow, hp, he, Except.map] at ha
      · obtain ⟨e', he', hexc⟩ := ih hrow
        exact ⟨e', by rw [he']; rfl, hexc⟩

theorem mapM_migratedRow_of_not_isLegacy {l : List ConnectionRow}
    (h : ∀ row ∈ l, isLegacy row = false) : l.mapM (migratedRow rt draws) = .ok l := by
  rw [mapM_eq_ok_map (g := id), List.map_id]
  intro row hrow
  have := h row hrow
  rw [isLegacy, Option.isSome_eq_false_iff, Option.isNone_iff_eq_none] at this
  rw [migratedRow, this, id]

theorem forall₂_not_isLegacy {l l' : List ConnectionRow} (h : List.Forall₂ (Migrated rt) l l') :
    ∀ row ∈ l', isLegacy row = false := by
  induction h with
  | nil => simp
  | cons hrow _ ih => exact List.forall_mem_cons.2 ⟨hrow.not_isLegacy, ih⟩

/-! ### The run -/

/-- The loop, with the rows before `rows` already rewritten in the open transaction. -/
theorem run_rewriteRows (rt : Runtime) (draws : Draws) {i : ℕ} {s : Connection} {t : Tables}
    (done : List ConnectionRow) {rows : List ConnectionRow} (htx : s.tx = some t)
    (ht : t.connections.rows = done ++ rows) :
    ∃ t', (rewriteRows rt draws rows).run (Stmt.run i) s =
        ((rows.mapM (migratedRow rt draws)).map fun _ => rows.countP isLegacy,
          { s with tx := some t' }) ∧
      ∀ rows', rows.mapM (migratedRow rt draws) = .ok rows' →
        t' = { t with connections := t'.connections } ∧ t'.connections.rows = done ++ rows' := by
  induction rows generalizing s t done with
  | nil =>
    refine ⟨t, by rw [← htx]; rfl, ?_⟩
    rintro _ ⟨⟩
    exact ⟨rfl, ht⟩
  | cons row rows ih =>
    unfold rewriteRows
    rw [List.mapM_cons, List.countP_cons, isLegacy]
    cases hp : legacyPassword row with
    | none =>
      have hrow : migratedRow rt draws row = .ok row := by rw [migratedRow, hp]
      obtain ⟨t', hrun, hrows⟩ := ih (done ++ [row]) htx (by rw [ht]; simp)
      refine ⟨t', ?_, ?_⟩
      · rw [hrun, hrow, ok_bind]
        cases rows.mapM (migratedRow rt draws) <;> rfl
      · intro rows' h
        rw [hrow, ok_bind] at h
        obtain ⟨rest, hrest, h⟩ := exists_of_bind_ok h
        cases h
        simpa using hrows rest hrest
    | some password =>
      cases hn : draws.draw row.id with
      -- the encryption raises, and the loop ends with the rows before it rewritten
      | error e =>
        have hrow : migratedRow rt draws row = .error e := by
          simp [migratedRow, hp, hn, Except.map]
        refine ⟨t, ?_, ?_⟩
        · rw [hrow, ← htx]
          rfl
        · intro rows' h
          rw [hrow] at h
          cases h
      | ok nonce =>
        let f : ConnectionRow → ConnectionRow := fun row =>
          { row with password := some (encryptPassword rt.fernet nonce password) }
        have hrow : migratedRow rt draws row = .ok (f row) := by
          simp [migratedRow, hp, hn, Except.map, f]
        -- the row's own `UPDATE`
        let t₁ := t.assignPassword row.id (some (encryptPassword rt.fernet nonce password))
        have ht₁ : t₁.connections.rows = (done ++ [f row]) ++ rows := by
          have := Table.rows_update (f := f) (fun _ => rfl) ht
          simpa [t₁, Tables.assignPassword, f] using this
        have hview : s.view = t := by rw [Connection.view, htx]; rfl
        have hexec : (Stmt.execute (.updatePassword row.id
            (some (encryptPassword rt.fernet nonce password)))).run i s =
            (.ok (t.connections.find? row.id).toList.length, { s with tx := some t₁ }) := by
          simp [Stmt.run, hview, Dml.apply, t₁]
        obtain ⟨t', hrun, hrows⟩ := ih (s := { s with tx := some t₁ }) _ rfl ht₁
        refine ⟨t', ?_, ?_⟩
        · rw [Coroutine.run_bind, Coroutine.run_lift]
          simp only [Coroutine.run_bind, Coroutine.run_call, hexec, hrun, hrow, ok_bind]
          cases rows.mapM (migratedRow rt draws) <;> rfl
        · intro rows' h
          rw [hrow, ok_bind] at h
          obtain ⟨rest, hrest, h⟩ := exists_of_bind_ok h
          cases h
          obtain ⟨hother, hconn⟩ := hrows rest hrest
          exact ⟨by rw [hother]; rfl, by simpa using hconn⟩

section Run

variable {i : ℕ} {s : Connection}

/-- Where every encryption returns, the migration commits the migrated rows. -/
theorem run_migrate_ok (htx : s.tx = none) {rows' : List ConnectionRow}
    (h : s.committed.connections.rows.mapM (migratedRow rt draws) = .ok rows') :
    ∃ s', (migratePasswordsToEncrypted rt draws).run (Stmt.run i) s =
        (.ok (s.committed.connections.rows.countP isLegacy), s') ∧
      s'.tx = none ∧ s'.lock = none ∧
      s'.committed = { s.committed with connections := s'.committed.connections } ∧
      s'.committed.connections.rows = rows' := by
  obtain ⟨t', hrun, hrows⟩ := run_rewriteRows rt draws (i := i) (s := s.opened i) []
    rfl (List.nil_append s.committed.connections.rows).symm
  obtain ⟨hother, hconn⟩ := hrows rows' h
  have hbody : (migrateBody rt draws).run (Stmt.run i) (s.opened i) =
      (.ok (s.committed.connections.rows.countP isLegacy),
        { s.opened i with committed := t', tx := none }) := by
    rw [migrateBody, Coroutine.run_bind, run_cursor]
    change Coroutine.run _ (rewriteRows rt draws s.committed.connections.rows >>= _) _ = _
    rw [Coroutine.run_bind, hrun, h]
    rfl
  exact ⟨_, run_transaction_ok htx hbody, rfl, rfl, hother, hconn⟩

/-- Where no row stores a plaintext password, the migration rewrites nothing. -/
theorem run_migrate_nothing (htx : s.tx = none)
    (h : ∀ row ∈ s.committed.connections.rows, isLegacy row = false) :
    ∃ s', (migratePasswordsToEncrypted rt draws).run (Stmt.run i) s = (.ok 0, s') ∧
      s'.tx = none ∧ s'.lock = none ∧ s'.committed = s.committed := by
  have hrows : s.committed.connections.rows.mapM (migratedRow rt draws) =
      .ok s.committed.connections.rows := mapM_migratedRow_of_not_isLegacy h
  obtain ⟨s', hrun, htx', hlock, hother, hconn⟩ := run_migrate_ok htx hrows
  have hcount : s.committed.connections.rows.countP isLegacy = 0 := by simpa using h
  rw [hcount] at hrun
  refine ⟨s', hrun, htx', hlock, ?_⟩
  rw [hother, Table.ext hconn]

/-- Where one raises, it commits nothing. -/
theorem run_migrate_error (htx : s.tx = none) {e : Exc} (he : e.isException = true)
    (h : s.committed.connections.rows.mapM (migratedRow rt draws) = .error e) :
    ∃ s', (migratePasswordsToEncrypted rt draws).run (Stmt.run i) s = (.error e, s') ∧
      s'.tx = none ∧ s'.lock = none ∧ s'.committed = s.committed := by
  obtain ⟨t', hrun, -⟩ := run_rewriteRows rt draws (i := i) (s := s.opened i) []
    rfl (List.nil_append s.committed.connections.rows).symm
  have hbody : (migrateBody rt draws).run (Stmt.run i) (s.opened i) =
      (.error e, { s.opened i with tx := some t' }) := by
    rw [migrateBody, Coroutine.run_bind, run_cursor]
    change Coroutine.run _ (rewriteRows rt draws s.committed.connections.rows >>= _) _ = _
    rw [Coroutine.run_bind, hrun, h]
    rfl
  exact ⟨_, run_transaction_error htx he hbody, rfl, rfl, rfl⟩

end Run

/-! ### The migration -/

/-- **The password migration preserves meaning.** It leaves no transaction open. If every encryption
it needs returns, every row is migrated, nothing else of the database changes, the count is that
of the plaintext passwords, and a second run rewrites nothing; if one raises, it raises and the
tables stay as they were. -/
theorem migration_preserves_meaning (rt : Runtime) (hf : rt.fernet.Lawful) (draws : Draws)
    (t : Tables) :
    ∃ answer s', (migratePasswordsToEncrypted rt draws).run (Stmt.run 0) { committed := t } =
        (answer, s') ∧ s'.tx = none ∧ s'.lock = none ∧
      ((∀ row ∈ t.connections, isLegacy row = true → ∃ nonce, draws.draw row.id = .ok nonce) →
        answer = .ok (t.connections.rows.countP isLegacy) ∧
        List.Forall₂ (Migrated rt) t.connections.rows s'.committed.connections.rows ∧
        s'.committed = { t with connections := s'.committed.connections } ∧
        ∀ draws', ∃ s'', (migratePasswordsToEncrypted rt draws').run (Stmt.run 0) s' =
          (.ok 0, s'') ∧ s''.tx = none ∧ s''.lock = none ∧ s''.committed = s'.committed) ∧
      ((∃ row ∈ t.connections, isLegacy row = true ∧ ∃ e, draws.draw row.id = .error e) →
        (∃ e, answer = .error e) ∧ s'.committed = t) := by
  by_cases hdraws :
      ∃ row ∈ t.connections, isLegacy row = true ∧ ∃ e, draws.draw row.id = .error e
  · obtain ⟨e, he, hexc⟩ := mapM_migratedRow_error hdraws
    obtain ⟨s', hrun, htx, hlock, hcommitted⟩ :=
      run_migrate_error (i := 0) (s := { committed := t }) rfl hexc he
    refine ⟨_, s', hrun, htx, hlock, fun hall => ?_, fun _ => ⟨⟨e, rfl⟩, hcommitted⟩⟩
    obtain ⟨row, hrow, hlegacy, e', he'⟩ := hdraws
    obtain ⟨nonce, hnonce⟩ := hall row hrow hlegacy
    rw [he'] at hnonce
    cases hnonce
  · have hall : ∀ row ∈ t.connections, isLegacy row = true →
        ∃ nonce, draws.draw row.id = .ok nonce := by
      intro row hrow hlegacy
      cases hn : draws.draw row.id with
      | ok nonce => exact ⟨nonce, rfl⟩
      | error e => exact absurd ⟨row, hrow, hlegacy, e, hn⟩ hdraws
    obtain ⟨rows', hrows'⟩ := exists_mapM_migratedRow hall
    obtain ⟨s', hrun, htx, hlock, hother, hconn⟩ :=
      run_migrate_ok (i := 0) (s := { committed := t }) rfl hrows'
    have hmigrated :
        List.Forall₂ (Migrated rt) t.connections.rows s'.committed.connections.rows := by
      rw [hconn]
      exact forall₂_of_mapM hf hrows'
    refine ⟨_, s', hrun, htx, hlock, fun _ => ⟨rfl, hmigrated, hother, fun draws' => ?_⟩,
      fun h => absurd h hdraws⟩
    exact run_migrate_nothing htx (forall₂_not_isLegacy hmigrated)

/-- A connection with this password. -/
def withPassword (id : String) (password : Option String) : ConnectionRow where
  id := id
  name := "One"
  hosts := ["h"]
  port := 3000
  clusterName := none
  username := some "admin"
  password := password
  color := "#0097D3"
  note := none
  labels := none
  workspaceId := some "ws-default"
  createdAt := "0"
  updatedAt := "0"

/-- Passwords of every kind: two in plaintext, one token, an empty one and none. -/
def mixedPasswords : Tables where
  connections := ⟨[withPassword "c1" (some "secret"), withPassword "c2" (some "enc:v1:token"),
    withPassword "c3" (some ""), withPassword "c4" none, withPassword "c5" (some "hidden")],
    by decide⟩
  workspaces := .empty
  setNotes := .empty
  recordNotes := .empty
  guides := .empty

/-- The encryption of one row fails. -/
def failingAt (connId : String) : Draws where
  draw id := if id = connId then .error (.other "ValueError") else .ok 0
  isException id e h := by
    split at h
    · cases h
      rfl
    · cases h

/-- The two passwords in plaintext are rewritten, or none is where the second one fails. -/
theorem migration_preserves_meaning_mixed :
    (∃ s', (migratePasswordsToEncrypted plainRuntime (.succeeding fun _ => 0)).run (Stmt.run 0)
        { committed := mixedPasswords } = (.ok 2, s') ∧
      List.Forall₂ (Migrated plainRuntime) mixedPasswords.connections.rows
        s'.committed.connections.rows) ∧
      ∃ e s', (migratePasswordsToEncrypted plainRuntime (failingAt "c5")).run (Stmt.run 0)
        { committed := mixedPasswords } = (.error e, s') ∧ s'.committed = mixedPasswords := by
  constructor
  · obtain ⟨answer, s', hrun, -, -, hok, -⟩ := migration_preserves_meaning plainRuntime
      (fun _ _ => rfl) (.succeeding fun _ => 0) mixedPasswords
    obtain ⟨rfl, hmigrated, -⟩ := hok fun row _ _ => ⟨0, rfl⟩
    exact ⟨s', hrun, hmigrated⟩
  · obtain ⟨answer, s', hrun, -, -, -, herror⟩ := migration_preserves_meaning plainRuntime
      (fun _ _ => rfl) (failingAt "c5") mixedPasswords
    have hlast : withPassword "c5" (some "hidden") ∈ mixedPasswords.connections := by
      show _ ∈ mixedPasswords.connections.rows
      simp [mixedPasswords]
    obtain ⟨⟨e, rfl⟩, hsame⟩ := herror ⟨_, hlast, rfl, _, rfl⟩
    exact ⟨e, s', hrun, hsame⟩

end ClusterManager.Db.Sqlite
