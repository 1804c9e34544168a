import ClusterManager.Db.Postgres

/-!
# The password migration beside other replicas

The migration reads all rows first and writes each one back by its id. `passwordChanges` is what
the commits so far have done to the password of a row, and `PasswordsKept` says that each row
decodes to the last of these changes, or to its original password. It holds along every schedule
in which no row's password changes between the migration's `SELECT` and its `UPDATE` of that row
(`passwords_kept_of_unchanged_since_read`).
-/

namespace ClusterManager.Db.Postgres

open Interleaving

variable {rt : Runtime}

/-- An answered statement. -/
abbrev StmtAnswer : Type := Answer Stmt Stmt.Resp Exc

/-! ### What a call asks of the database -/

/-- The statements of a call, by the past that leads to them. -/
def Statements (rt : Runtime) (call : Call) : Stmt → List StmtAnswer → Prop
  | .begin, past => past = []
  | .insert row, past => past = [] ∧
      ∃ conn nonce, call = .createConnection conn nonce ∧ row = profileToRow rt nonce conn
  | .delete connId, past => past = [] ∧ call = .deleteConnection connId
  | .selectPasswords, past => past = [⟨.begin, .ok ()⟩]
  | .selectForUpdate _, past => past = [⟨.begin, .ok ()⟩]
  | .update connId row', past => ∃ data now nonce row existing updated,
      call = .updateConnection connId data now nonce ∧
      past.getLast? = some ⟨.selectForUpdate connId, .ok (some row)⟩ ∧
      decryptedProfile rt row = .ok existing ∧
      buildMergedProfile rt existing data connId now = .ok updated ∧
      row' = profileToRow rt nonce updated
  | .updatePassword connId password, past => ∃ nonces rows read,
      call = .migratePasswordsToEncrypted nonces ∧ ⟨.selectPasswords, .ok rows⟩ ∈ past ∧
      read ∈ rows ∧ passwordRewrite rt nonces read = some (connId, password)
  | .commit, past => past ≠ []
  | .rollback, past => past ≠ []

/-- Every answer is possible. -/
def AnyAnswer : (r : Stmt) → Except Exc r.Resp → Prop := fun _ _ => True

/-- A program of a call that is to make its statements. -/
abbrev Calls (rt : Runtime) (call : Call) {α : Type} (p : Program α) (past : List StmtAnswer)
    (Q : α → List StmtAnswer → Prop) (E : Exc → List StmtAnswer → Prop) : Prop :=
  p.Safe (History AnyAnswer) (Statements rt call) past Q E

section Statements

variable {α : Type} {call : Call} {past : List StmtAnswer}

theorem calls_rewriteRows {nonces : String → ℕ} {rows all : List ConnectionRow}
    (hall : ⟨.selectPasswords, .ok all⟩ ∈ past) (hrows : rows ⊆ all) :
    Calls rt (.migratePasswordsToEncrypted nonces) (rewriteRows rt nonces rows) past
      (fun _ past' => past' ≠ []) (fun _ past' => past' ≠ []) := by
  induction rows generalizing past with
  | nil => exact List.ne_nil_of_mem hall
  | cons row rows ih =>
    have ⟨hrow, hrows⟩ := List.cons_subset.1 hrows
    rw [rewriteRows]
    split
    next => exact ih hall hrows
    next connId password hrewrite =>
      rw [Calls, Coroutine.safe_bind]
      refine Coroutine.safe_call.2
        ⟨⟨nonces, all, row, rfl, hall, hrow, hrewrite⟩, ?_, ?_⟩
      · rintro _ _ ⟨-, rfl⟩
        rw [Coroutine.safe_bind]
        exact ih (List.mem_append_left _ hall) hrows
      · rintro _ _ ⟨-, rfl⟩
        simp

/-- A transaction is its body between `BEGIN` and `COMMIT` or `ROLLBACK`. -/
theorem calls_transaction {body : Program α}
    (h : Calls rt call body [⟨.begin, .ok ()⟩] (fun _ past => past ≠ [])
      (fun _ past => past ≠ [])) :
    Calls rt call (transaction body) [] (fun _ _ => True) (fun _ _ => True) := by
  rw [Calls, transaction, Coroutine.safe_bind]
  refine Coroutine.safe_call.2 ⟨rfl, ?_, fun _ _ _ => trivial⟩
  rintro _ _ ⟨-, rfl⟩
  simp only [Coroutine.safe_bind, Coroutine.safe_tryCatch]
  refine h.mono (fun a past hpast => ?_) fun e past hpast => ?_
  · exact Coroutine.safe_call.2 ⟨hpast, fun _ _ _ => trivial, fun _ _ _ => trivial⟩
  · exact Coroutine.safe_call.2 ⟨hpast, fun _ _ _ => trivial, fun _ _ _ => trivial⟩

/-- Each call makes its statements. -/
theorem calls_program (call : Call) :
    Calls rt call (call.program rt) [] (fun _ _ => True) (fun _ _ => True) := by
  cases call with
  | createConnection conn nonce =>
    exact Coroutine.safe_call.2 ⟨⟨rfl, conn, nonce, rfl, rfl⟩, fun _ _ _ => trivial,
      fun _ _ _ => trivial⟩
  | updateConnection connId data now nonce =>
    simp only [Calls, Call.program, Coroutine.safe_bind]
    refine calls_transaction ?_
    simp only [Calls, Coroutine.safe_bind]
    refine Coroutine.safe_call.2 ⟨rfl, ?_, ?_⟩
    swap
    · rintro _ _ ⟨-, rfl⟩
      simp
    rintro (_ | row) _ ⟨-, rfl⟩
    · simp
    simp only [Coroutine.safe_bind, Coroutine.safe_lift]
    refine ⟨fun existing hexisting => ⟨fun updated hupdated => ?_, by simp⟩, by simp⟩
    refine Coroutine.safe_call.2 ⟨⟨data, now, nonce, row, existing, updated, rfl, by simp,
      hexisting, hupdated, rfl⟩, ?_, ?_⟩
    · rintro _ _ ⟨-, rfl⟩
      simp
    · rintro _ _ ⟨-, rfl⟩
      simp
  | deleteConnection connId =>
    simp only [Calls, Call.program, deleteConnection, Coroutine.safe_bind]
    exact Coroutine.safe_call.2 ⟨⟨rfl, rfl⟩, fun _ _ _ => trivial, fun _ _ _ => trivial⟩
  | migratePasswordsToEncrypted nonces =>
    simp only [Calls, Call.program, Coroutine.safe_bind]
    refine calls_transaction ?_
    simp only [Calls, Coroutine.safe_bind]
    refine Coroutine.safe_call.2 ⟨rfl, ?_, ?_⟩
    · rintro rows _ ⟨-, rfl⟩
      exact calls_rewriteRows (List.mem_append_right _ List.mem_cons_self) (List.Subset.refl _)
    · rintro _ _ ⟨-, rfl⟩
      simp

end Statements

/-! ### What has become of a password -/

/-- The password a call gives a row it writes, if it gives it one. -/
def Call.newPassword : Call → Option (Option String)
  | .createConnection conn _ => some conn.password
  | .updateConnection _ data _ _ => data.password
  | _ => none

/-- The passwords that the commits so far have given a row. -/
def passwordChanges (calls : List Call) (connId : String) (log : List Commit) :
    List (Option String) :=
  log.filterMap fun commit =>
    if connId ∈ commit.wrote then calls[commit.writer]?.bind Call.newPassword else none

/-- The password a row has by right: the last one it was given, or its original one. -/
def expectedPassword (rt : Runtime) (calls : List Call) (original : Connections)
    (log : List Commit) (connId : String) : Except Exc (Option String) :=
  match (passwordChanges calls connId log).getLast? with
  | some password => .ok password
  | none => decryptPassword rt.fernet ((original.find? connId).bind (·.password))

/-- The columns of a row other than its password. -/
def columns (row : ConnectionRow) : ConnectionRow := { row with password := none }

/-- The stored password of a row decrypts to what is expected, and so the profile of the row, if it
is read, has that password. -/
structure DecodesTo (rt : Runtime) (row : ConnectionRow)
    (expected : Except Exc (Option String)) : Prop where
  stored : decryptPassword rt.fernet row.password = expected
  profile : ∀ profile, decryptedProfile rt row = .ok profile → expected = .ok profile.password

/-- Every row decodes to the password it has by right, and no migration has changed another
column. -/
structure PasswordsKept (rt : Runtime) (calls : List Call) (original : Connections)
    (s : Database) : Prop where
  passwords : ∀ row ∈ s.connections,
    DecodesTo rt row (expectedPassword rt calls original s.log row.id)
  migrated : ∀ commit ∈ s.log, ∀ nonces,
    calls[commit.writer]? = some (.migratePasswordsToEncrypted nonces) →
      commit.after.rows.map columns = commit.before.rows.map columns

/-- When the migration rewrites a row, the committed row still has the password it has read. -/
def PasswordUnchangedSinceRead (rt : Runtime) :
    Guard Stmt Stmt.Resp Exc (List ConnectionRow) Database :=
  fun _ r _ past s => match r with
    | .updatePassword connId _ => ∀ rows read current, ⟨.selectPasswords, .ok rows⟩ ∈ past →
        read ∈ rows → read.id = connId → s.connections.find? connId = some current →
          decryptPassword rt.fernet current.password = decryptPassword rt.fernet read.password
    | _ => True

section Passwords

variable {calls : List Call} {original : Connections} {log : List Commit} {commit : Commit}
  {connId : String} {row : ConnectionRow}

theorem password_of_decrypted {profile : ConnectionProfile}
    (h : decryptedProfile rt row = .ok profile) :
    decryptPassword rt.fernet row.password = .ok profile.password := by
  obtain ⟨-, password, hpassword, rfl⟩ := decryptedProfile_eq_ok.1 h
  exact hpassword

theorem decodesTo_of_stored {expected : Except Exc (Option String)}
    (h : decryptPassword rt.fernet row.password = expected) : DecodesTo rt row expected :=
  ⟨h, fun _ hprofile => h.symm.trans (password_of_decrypted hprofile)⟩

/-- What one more commit does to the expectation. -/
theorem expectedPassword_append :
    expectedPassword rt calls original (log ++ [commit]) connId =
      if connId ∈ commit.wrote then
        match calls[commit.writer]?.bind Call.newPassword with
        | some password => .ok password
        | none => expectedPassword rt calls original log connId
      else expectedPassword rt calls original log connId := by
  simp only [expectedPassword, passwordChanges, List.filterMap_append]
  by_cases hwrote : connId ∈ commit.wrote
  · cases hnew : calls[commit.writer]?.bind Call.newPassword <;> simp [hwrote, hnew]
  · simp [hwrote]

end Passwords

/-! ### What is known of each session -/

/-- A version that a transaction of `call` has written of a committed row. -/
structure Written (rt : Runtime) (call : Option Call) (row version : ConnectionRow) : Prop where
  id : version.id = row.id
  password : decryptPassword rt.fernet version.password =
    match call.bind Call.newPassword with
    | some password => .ok password
    | none => decryptPassword rt.fernet row.password
  migrated : ∀ nonces, call = some (.migratePasswordsToEncrypted nonces) →
    columns version = columns row

/-- What holds of the database for a session with a past. -/
structure Session (rt : Runtime) (call : Option Call) (i : ℕ) (s : Database)
    (past : List StmtAnswer) : Prop where
  fresh : past.length ≤ 1 → s.versions i = []
  selected : ∀ connId row, past.getLast? = some ⟨.selectForUpdate connId, .ok (some row)⟩ →
    s.versions i = [] ∧ s.locks connId = some i ∧ s.connections.find? connId = some row
  versions : ∀ connId version, (s.versions i).get? connId = some version →
    s.locks connId = some i ∧
      ∃ row, s.connections.find? connId = some row ∧ Written rt call row version

variable {s s' : Database} {i j : ℕ} {call : Option Call} {past : List StmtAnswer}

/-- A committed row that a transaction has not locked is as it sees it. -/
theorem Session.newest_of_not_locked (h : Session rt call i s past) {row : ConnectionRow}
    (hlock : s.locks row.id ≠ some i) : s.newest i row = row := by
  refine Database.newest_of_none ?_
  by_contra hsome
  obtain ⟨version, hversion⟩ := Option.ne_none_iff_exists'.1 hsome
  exact hlock (h.versions _ _ hversion).1

/-- A step of another session leaves the versions of this one, its locks and the rows under
them. -/
structure Frame (i : ℕ) (s s' : Database) : Prop where
  versions : s'.versions i = s.versions i
  locks : ∀ connId, s.locks connId = some i → s'.locks connId = some i
  rows : ∀ connId row, s.locks connId = some i → s.connections.find? connId = some row →
    s'.connections.find? connId = some row

theorem Frame.refl : Frame i s s := ⟨rfl, fun _ => id, fun _ _ _ => id⟩

theorem Session.frame (h : Session rt call i s past) (hframe : Frame i s s') :
    Session rt call i s' past where
  fresh hpast := hframe.versions.trans (h.fresh hpast)
  selected connId row hlast :=
    let ⟨hversions, hlock, hrow⟩ := h.selected connId row hlast
    ⟨hframe.versions.trans hversions, hframe.locks _ hlock, hframe.rows _ _ hlock hrow⟩
  versions connId version hversion := by
    obtain ⟨hlock, row, hrow, hwritten⟩ := h.versions connId version (hframe.versions ▸ hversion)
    exact ⟨hframe.locks _ hlock, row, hframe.rows _ _ hlock hrow, hwritten⟩

/-- A row that another session holds is not free. -/
theorem not_free_of_locked {connId : String} (hij : i ≠ j) (hlock : s.locks connId = some i) :
    s.free j connId = false := by
  simp [Database.free, hlock, hij]

theorem Frame.ended (hij : i ≠ j) : Frame i s (s.ended j) where
  versions := Function.update_of_ne hij _ _
  locks connId hlock := by simp [Database.ended, hlock, hij]
  rows _ _ _ := id

/-- All that writing a version of a row can do. -/
theorem write_eq_some {connId : String} {f : ConnectionRow → ConnectionRow} {x : Except Exc ℕ}
    (h : s.write i connId f = some (x, s')) :
    s.free i connId = true ∧ (s' = s ∧ s.connections.find? connId = none ∨
      ∃ row, s.connections.find? connId = some row ∧ s' = { s with
        versions := Function.update s.versions i ((s.versions i).set connId (f (s.newest i row)))
        locks := Function.update s.locks connId (some i) }) := by
  unfold Database.write at h
  split at h
  next hfree =>
    refine ⟨hfree, ?_⟩
    split at h
    next row hrow =>
      obtain ⟨row', hrow', rfl⟩ := Option.map_eq_some_iff.1 hrow
      obtain ⟨-, rfl⟩ := Prod.mk.inj (Option.some.inj h)
      exact Or.inr ⟨row', hrow', rfl⟩
    next hnone =>
      obtain ⟨-, rfl⟩ := Prod.mk.inj (Option.some.inj h)
      exact Or.inl ⟨rfl, Option.map_eq_none_iff.1 hnone⟩
  next => cases h

theorem Frame.lock {connId : String} {versions : ℕ → Dict String ConnectionRow} (hij : i ≠ j)
    (hfree : s.free j connId = true) (hversions : versions i = s.versions i) :
    Frame i s { s with versions, locks := Function.update s.locks connId (some j) } where
  versions := hversions
  locks connId' hlock := by
    by_cases hid : connId' = connId
    · subst hid
      rw [not_free_of_locked hij hlock] at hfree
      cases hfree
    · simpa [hid] using hlock
  rows _ _ _ := id

theorem Frame.write {connId : String} {f : ConnectionRow → ConnectionRow} {x : Except Exc ℕ}
    (hij : i ≠ j) (h : s.write j connId f = some (x, s')) : Frame i s s' := by
  obtain ⟨hfree, ⟨rfl, -⟩ | ⟨row, -, rfl⟩⟩ := write_eq_some h
  · exact Frame.refl
  · exact Frame.lock hij hfree (Function.update_of_ne hij _ _)

/-- What a step of a session leaves to the others. -/
theorem frame_exec {r : Stmt} {order : List ConnectionRow} {x : Except Exc r.Resp}
    (hj : Session rt call j s past) (hij : i ≠ j)
    (hx : world.exec j r order s = some (x, s')) : Frame i s s' := by
  cases r with
  | begin =>
    obtain ⟨-, rfl⟩ := Prod.mk.inj (Option.some.inj hx)
    exact Frame.refl
  | commit =>
    obtain ⟨-, rfl⟩ := Prod.mk.inj (Option.some.inj hx)
    have hended := Frame.ended (s := s) hij
    refine ⟨hended.versions, hended.locks, fun connId row hlock hrow => ?_⟩
    -- What this transaction installs are versions of rows that it has locked itself.
    have hother : s.locks row.id ≠ some j := by
      rw [(Table.find?_eq_some.1 hrow).2, hlock]
      simpa using hij
    simp only [Database.ended, Database.committed, Database.installed, Table.find?_map, hrow,
      Option.map_some, hj.newest_of_not_locked hother]
  | rollback =>
    obtain ⟨-, rfl⟩ := Prod.mk.inj (Option.some.inj hx)
    exact Frame.ended hij
  | selectPasswords =>
    simp only [world] at hx
    split at hx
    next =>
      obtain ⟨-, rfl⟩ := Prod.mk.inj (Option.some.inj hx)
      exact Frame.refl
    next => cases hx
  | selectForUpdate connId =>
    simp only [world] at hx
    split at hx
    next hfree =>
      split at hx <;> obtain ⟨-, rfl⟩ := Prod.mk.inj (Option.some.inj hx)
      · exact Frame.lock hij hfree rfl
      · exact Frame.refl
    next => cases hx
  | update connId row => exact Frame.write hij hx
  | updatePassword connId password => exact Frame.write hij hx
  | insert row =>
    simp only [world] at hx
    split at hx <;> obtain ⟨-, rfl⟩ := Prod.mk.inj (Option.some.inj hx)
    next connections hinsert =>
      refine ⟨rfl, fun _ => id, fun connId row' _ hrow => ?_⟩
      obtain ⟨hmem, hid⟩ := Table.find?_eq_some.1 hrow
      exact Table.find?_eq_some.2 ⟨(Table.mem_insert? hinsert).2 (Or.inl hmem), hid⟩
    next => exact Frame.refl
  | delete connId =>
    simp only [world] at hx
    split at hx
    next hfree =>
      obtain ⟨-, rfl⟩ := Prod.mk.inj (Option.some.inj hx)
      refine ⟨rfl, fun _ => id, fun connId' row hlock hrow => ?_⟩
      obtain ⟨hmem, rfl⟩ := Table.find?_eq_some.1 hrow
      refine Table.find?_eq_some.2 ⟨Table.mem_delete.2 ⟨hmem, ?_⟩, rfl⟩
      by_contra hid
      rw [← show row.id = connId by simpa using hid, not_free_of_locked hij hlock] at hfree
      cases hfree
    next => cases hx

/-- What the migration writes for a row decodes to what it has read. -/
theorem decryptPassword_passwordRewrite (hf : rt.fernet.Lawful) {nonces : String → ℕ}
    {row : ConnectionRow} {connId password : String}
    (h : passwordRewrite rt nonces row = some (connId, password)) :
    row.id = connId ∧
      decryptPassword rt.fernet (some password) = decryptPassword rt.fernet row.password := by
  unfold passwordRewrite at h
  split at h
  next => cases h
  next plaintext hplaintext =>
    split_ifs at h with hne hencrypted
    obtain ⟨rfl, rfl⟩ := Prod.mk.inj (Option.some.inj h)
    refine ⟨rfl, ?_⟩
    have hread := decryptPassword_storedPassword hf (nonces row.id) (some plaintext)
    simp only [storedPassword, hne, if_false] at hread
    have hprefix : hasPrefixV1 plaintext = false := by
      simpa [isEncrypted, hne] using hencrypted
    rw [hread, hplaintext]
    simp [decryptPassword, hne, hprefix]

/-- The row that an answer has selected for an update. -/
def selectedRow : StmtAnswer → Option (String × ConnectionRow)
  | ⟨.selectForUpdate connId, .ok (some row)⟩ => some (connId, row)
  | _ => none

/-- A session whose transaction has ended, or that has none, and does not select now. -/
theorem Session.of_versions_eq_nil {x : StmtAnswer} (hversions : s.versions i = [])
    (hx : selectedRow x = none) : Session rt call i s (past ++ [x]) where
  fresh _ := hversions
  selected connId row hlast := by
    obtain rfl : x = ⟨.selectForUpdate connId, .ok (some row)⟩ := by simpa using hlast
    cases hx
  versions connId version hversion := by simp [hversions] at hversion

/-- A session that has begun before and does not select now is known by its versions. -/
theorem Session.of_versions (hpast : past ≠ []) {x : StmtAnswer}
    (hx : selectedRow x = none)
    (hversions : ∀ connId version, (s.versions i).get? connId = some version →
      s.locks connId = some i ∧
        ∃ row, s.connections.find? connId = some row ∧ Written rt call row version) :
    Session rt call i s (past ++ [x]) where
  fresh hle := by
    have := List.length_pos_of_ne_nil hpast
    rw [List.length_append, List.length_singleton] at hle
    omega
  selected connId row hlast := by
    obtain rfl : x = ⟨.selectForUpdate connId, .ok (some row)⟩ := by simpa using hlast
    cases hx
  versions := hversions

/-- A version the session writes of a row that it may lock. -/
theorem Session.write (h : Session rt call i s past) (hpast : past ≠ []) {connId : String}
    {f : ConnectionRow → ConnectionRow} {y : Except Exc ℕ} {x : StmtAnswer}
    (hx : selectedRow x = none)
    (hwrite : s.write i connId f = some (y, s'))
    (hwritten : ∀ row, s.connections.find? connId = some row →
      Written rt call row (f (s.newest i row))) :
    Session rt call i s' (past ++ [x]) := by
  obtain ⟨-, ⟨rfl, -⟩ | ⟨row, hrow, rfl⟩⟩ := write_eq_some hwrite
  · exact Session.of_versions hpast hx h.versions
  refine Session.of_versions hpast hx fun connId' version hversion => ?_
  by_cases hid : connId' = connId
  · subst hid
    obtain rfl : f (s.newest i row) = version := by simpa using hversion
    exact ⟨by simp, row, hrow, hwritten row hrow⟩
  · obtain ⟨hlock, hrow'⟩ := h.versions connId' version (by simpa [hid] using hversion)
    exact ⟨by simpa [hid] using hlock, hrow'⟩

/-- What an update writes of the row it has selected. -/
theorem written_update (hf : rt.fernet.Lawful) {connId now : String} {data : UpdateData}
    {nonce : ℕ} {row : ConnectionRow} {existing updated : ConnectionProfile}
    (hexisting : decryptedProfile rt row = .ok existing)
    (hupdated : buildMergedProfile rt existing data connId now = .ok updated) :
    Written rt (some (.updateConnection connId data now nonce)) row
      ((profileToRow rt nonce updated).assign row) where
  id := rfl
  password := by
    have hstored : decryptPassword rt.fernet (profileToRow rt nonce updated).password =
        .ok (data.password.getD existing.password) := by
      rw [← (buildMergedProfile_ok hupdated).2.1]
      exact decryptPassword_storedPassword hf nonce updated.password
    have hread : decryptPassword rt.fernet row.password = .ok existing.password :=
      password_of_decrypted hexisting
    refine hstored.trans ?_
    cases hdata : data.password <;> simp [Call.newPassword, hdata, hread]
  migrated := nofun

/-- What the migration writes of a row whose password is the one it has read. -/
theorem written_rewrite {nonces : String → ℕ}
    (h : Session rt (some (.migratePasswordsToEncrypted nonces)) i s past) {row : ConnectionRow}
    (hrow : s.connections.find? row.id = some row) {password : String}
    (hpassword : decryptPassword rt.fernet (some password) =
      decryptPassword rt.fernet row.password) :
    Written rt (some (.migratePasswordsToEncrypted nonces)) row
      { s.newest i row with password := some password } where
  id := s.newest_id i row
  password := hpassword
  migrated _ _ := by
    have hcolumns : columns (s.newest i row) = columns row := by
      cases hversion : (s.versions i).get? row.id with
      | none => rw [Database.newest_of_none hversion]
      | some version =>
        obtain ⟨-, row', hrow', hwritten⟩ := h.versions _ _ hversion
        obtain rfl : row = row' := Option.some.inj (hrow.symm.trans hrow')
        rw [Database.newest_of_some hversion hwritten.id]
        exact hwritten.migrated nonces rfl
    exact hcolumns

theorem ne_nil_of_getLast? {x : StmtAnswer} (h : past.getLast? = some x) : past ≠ [] := by
  rintro rfl
  cases h

/-- **One statement of a session keeps what is known of it**, when the migration rewrites rows
whose password has not changed since it has read them. -/
theorem Session.step (hf : rt.fernet.Lawful) {call : Call} (h : Session rt (some call) i s past)
    {r : Stmt} {order : List ConnectionRow} {x : Except Exc r.Resp}
    (hr : Statements rt call r past) (hG : PasswordUnchangedSinceRead rt i r order past s)
    (hx : world.exec i r order s = some (x, s')) :
    Session rt (some call) i s' (past ++ [⟨r, x⟩]) := by
  cases r with
  | begin =>
    obtain ⟨-, rfl⟩ := Prod.mk.inj (Option.some.inj hx)
    obtain rfl : past = [] := hr
    exact Session.of_versions_eq_nil (h.fresh (Nat.zero_le _)) rfl
  | commit =>
    obtain ⟨-, rfl⟩ := Prod.mk.inj (Option.some.inj hx)
    exact Session.of_versions_eq_nil (Function.update_self ..) rfl
  | rollback =>
    obtain ⟨-, rfl⟩ := Prod.mk.inj (Option.some.inj hx)
    exact Session.of_versions_eq_nil (Function.update_self ..) rfl
  | selectPasswords =>
    obtain rfl : past = [⟨.begin, .ok ()⟩] := hr
    simp only [world] at hx
    split at hx
    next =>
      obtain ⟨-, rfl⟩ := Prod.mk.inj (Option.some.inj hx)
      exact Session.of_versions_eq_nil (h.fresh (Nat.le_refl _)) rfl
    next => cases hx
  | selectForUpdate connId =>
    obtain rfl : past = [⟨.begin, .ok ()⟩] := hr
    have hfresh := h.fresh (Nat.le_refl _)
    simp only [world] at hx
    split at hx
    next hfree =>
      split at hx <;> obtain ⟨rfl, rfl⟩ := Prod.mk.inj (Option.some.inj hx)
      next row hcurrent =>
        obtain ⟨row', hrow', rfl⟩ := Option.map_eq_some_iff.1 hcurrent
        have hnewest : s.newest i row' = row' := Database.newest_of_none (by rw [hfresh]; rfl)
        refine ⟨fun _ => hfresh, fun connId' row hlast => ?_, by simp [hfresh]⟩
        obtain ⟨rfl, rfl⟩ : connId = connId' ∧ s.newest i row' = row := by simpa using hlast
        exact ⟨hfresh, Function.update_self .., hrow'.trans (congrArg some hnewest.symm)⟩
      next => exact Session.of_versions_eq_nil hfresh rfl
    next => cases hx
  | update connId row' =>
    obtain ⟨data, now, nonce, row, existing, updated, rfl, hlast, hexisting, hupdated, rfl⟩ := hr
    -- the lock has been held since the row was selected, so that it is still that row
    obtain ⟨hversions, hlock, hrow⟩ := h.selected connId row hlast
    refine h.write (ne_nil_of_getLast? hlast) rfl hx fun row₁ hrow₁ => ?_
    obtain rfl : row = row₁ := Option.some.inj (hrow.symm.trans hrow₁)
    rw [Database.newest_of_none (by rw [hversions]; rfl)]
    exact written_update hf hexisting hupdated
  | updatePassword connId password =>
    obtain ⟨nonces, rows, read, rfl, hrows, hread, hrewrite⟩ := hr
    obtain ⟨hid, hpassword⟩ := decryptPassword_passwordRewrite hf hrewrite
    refine h.write (List.ne_nil_of_mem hrows) rfl hx fun row hrow => ?_
    -- the row that is rewritten is not the one that was read, but has its password
    have hsame := hG rows read row hrows hread hid hrow
    obtain ⟨-, rfl⟩ := Table.find?_eq_some.1 hrow
    exact written_rewrite h hrow (hpassword.trans hsame.symm)
  | insert row =>
    obtain ⟨rfl, -⟩ := hr
    simp only [world] at hx
    split at hx <;> obtain ⟨-, rfl⟩ := Prod.mk.inj (Option.some.inj hx) <;>
      exact Session.of_versions_eq_nil (h.fresh (Nat.zero_le _)) rfl
  | delete connId =>
    obtain ⟨rfl, -⟩ := hr
    simp only [world] at hx
    split at hx
    next =>
      obtain ⟨-, rfl⟩ := Prod.mk.inj (Option.some.inj hx)
      exact Session.of_versions_eq_nil (h.fresh (Nat.zero_le _)) rfl
    next => cases hx

/-! ### What a commit does to the passwords -/

/-- The statements that commit. -/
def Stmt.commits : Stmt → Bool
  | .commit | .insert _ | .delete _ => true
  | _ => false

/-- The other statements leave what is committed. -/
theorem committed_eq_of_not_commits {r : Stmt} {order : List ConnectionRow}
    {x : Except Exc r.Resp} (hr : r.commits = false)
    (hx : world.exec i r order s = some (x, s')) :
    s'.connections = s.connections ∧ s'.log = s.log := by
  have hwrite : ∀ {connId : String} {f : ConnectionRow → ConnectionRow} {y : Except Exc ℕ},
      s.write i connId f = some (y, s') →
        s'.connections = s.connections ∧ s'.log = s.log := by
    intro connId f y h
    obtain ⟨-, ⟨rfl, -⟩ | ⟨row, -, rfl⟩⟩ := write_eq_some h <;> exact ⟨rfl, rfl⟩
  cases r with
  | begin | rollback =>
    obtain ⟨-, rfl⟩ := Prod.mk.inj (Option.some.inj hx)
    exact ⟨rfl, rfl⟩
  | selectPasswords =>
    simp only [world] at hx
    split at hx
    next =>
      obtain ⟨-, rfl⟩ := Prod.mk.inj (Option.some.inj hx)
      exact ⟨rfl, rfl⟩
    next => cases hx
  | selectForUpdate connId =>
    simp only [world] at hx
    split at hx
    next =>
      split at hx <;> obtain ⟨-, rfl⟩ := Prod.mk.inj (Option.some.inj hx) <;> exact ⟨rfl, rfl⟩
    next => cases hx
  | update connId row => exact hwrite hx
  | updatePassword connId password => exact hwrite hx
  | commit | insert | delete => cases hr

variable {calls : List Call} {original : Connections}

/-- A commit keeps the passwords if each row decodes to what it decoded to before, or to what the
commit's call gives it. -/
theorem PasswordsKept.committed (h : PasswordsKept rt calls original s) {wrote : List String}
    {connections : Connections}
    (hpasswords : ∀ row ∈ connections, decryptPassword rt.fernet row.password =
      expectedPassword rt calls original (s.log ++ [⟨i, wrote, s.connections, connections⟩]) row.id)
    (hmigrated : ∀ nonces, calls[i]? = some (.migratePasswordsToEncrypted nonces) →
      connections.rows.map columns = s.connections.rows.map columns) :
    PasswordsKept rt calls original (s.committed i wrote connections) where
  passwords row hrow := decodesTo_of_stored (hpasswords row hrow)
  migrated commit hcommit nonces hcall := by
    rcases List.mem_append.1 hcommit with hcommit | hcommit
    · exact h.migrated commit hcommit nonces hcall
    · obtain rfl := List.mem_singleton.1 hcommit
      exact hmigrated nonces hcall

theorem PasswordsKept.password (h : PasswordsKept rt calls original s) {row : ConnectionRow}
    (hrow : row ∈ s.connections) : decryptPassword rt.fernet row.password =
      expectedPassword rt calls original s.log row.id :=
  (h.passwords row hrow).stored

/-- The rows a transaction installs decode to what its commit makes of them. -/
theorem Session.installed_password {call : Call} (hsession : Session rt (some call) i s past)
    (hcall : calls[i]? = some call) (h : PasswordsKept rt calls original s) :
    ∀ row ∈ s.installed i, decryptPassword rt.fernet row.password =
      expectedPassword rt calls original
        (s.log ++ [⟨i, (s.versions i).map Prod.fst, s.connections, s.installed i⟩]) row.id := by
  intro row hrow
  obtain ⟨row, hmem, rfl⟩ := (Table.mem_map _).1 hrow
  rw [expectedPassword_append, s.newest_id]
  cases hversion : (s.versions i).get? row.id with
  | none =>
    have hwrote : row.id ∉ (s.versions i).map Prod.fst := by
      simp [Dict.mem_keys_iff, hversion]
    rw [if_neg hwrote, Database.newest_of_none hversion, h.password hmem]
  | some version =>
    obtain ⟨-, row', hrow', hwritten⟩ := hsession.versions _ _ hversion
    obtain rfl : row = row' :=
      Option.some.inj ((Table.find?_eq_some.2 ⟨hmem, rfl⟩).symm.trans hrow')
    rw [if_pos (Dict.mem_keys_iff.2 ⟨version, hversion⟩), hcall,
      Database.newest_of_some hversion hwritten.id, hwritten.password, h.password hmem]

/-- The rows a migration installs differ in their passwords only. -/
theorem Session.installed_columns {call : Call} (hsession : Session rt (some call) i s past)
    {nonces : String → ℕ} (hcall : call = .migratePasswordsToEncrypted nonces) :
    (s.installed i).rows.map columns = s.connections.rows.map columns := by
  simp only [Database.installed, Table.map, List.map_map]
  refine List.map_congr_left fun row hmem => ?_
  simp only [Function.comp_apply]
  cases hversion : (s.versions i).get? row.id with
  | none => rw [Database.newest_of_none hversion]
  | some version =>
    obtain ⟨-, row', hrow', hwritten⟩ := hsession.versions _ _ hversion
    obtain rfl : row = row' :=
      Option.some.inj ((Table.find?_eq_some.2 ⟨hmem, rfl⟩).symm.trans hrow')
    rw [Database.newest_of_some hversion hwritten.id]
    exact hwritten.migrated nonces (congrArg some hcall)

/-- **One statement keeps the passwords.** -/
theorem PasswordsKept.step (hf : rt.fernet.Lawful) (h : PasswordsKept rt calls original s)
    {call : Call} (hcall : calls[i]? = some call) (hsession : Session rt (some call) i s past)
    {r : Stmt} {order : List ConnectionRow} {x : Except Exc r.Resp}
    (hr : Statements rt call r past) (hx : world.exec i r order s = some (x, s')) :
    PasswordsKept rt calls original s' := by
  by_cases hcommits : r.commits = false
  · obtain ⟨hconnections, hlog⟩ := committed_eq_of_not_commits hcommits hx
    exact ⟨by rw [hconnections, hlog]; exact h.passwords, by rw [hlog]; exact h.migrated⟩
  cases r with
  | commit =>
    obtain ⟨-, rfl⟩ := Prod.mk.inj (Option.some.inj hx)
    have hkept : PasswordsKept rt calls original
        (s.committed i ((s.versions i).map Prod.fst) (s.installed i)) :=
      h.committed (hsession.installed_password hcall h) fun nonces hcall' =>
        hsession.installed_columns (Option.some.inj (hcall.symm.trans hcall'))
    exact ⟨hkept.passwords, hkept.migrated⟩
  | insert row =>
    obtain ⟨rfl, conn, nonce, rfl, rfl⟩ := hr
    simp only [world] at hx
    split at hx <;> obtain ⟨-, rfl⟩ := Prod.mk.inj (Option.some.inj hx)
    next connections hinsert =>
      refine h.committed (fun row hrow => ?_) (by simp [hcall])
      rw [expectedPassword_append]
      rcases (Table.mem_insert? hinsert).1 hrow with hrow | rfl
      · have hne : row.id ≠ (profileToRow rt nonce conn).id :=
          (Table.insert?_eq_some.1 hinsert).1 row hrow
        rw [if_neg (by simpa using hne), h.password hrow]
      · rw [if_pos (List.mem_singleton_self _), hcall]
        exact decryptPassword_storedPassword hf nonce conn.password
    next => exact h
  | delete connId =>
    obtain ⟨rfl, rfl⟩ := hr
    simp only [world] at hx
    split at hx
    next =>
      obtain ⟨-, rfl⟩ := Prod.mk.inj (Option.some.inj hx)
      refine h.committed (fun row hrow => ?_) (by simp [hcall])
      obtain ⟨hrow, hne⟩ := Table.mem_delete.1 hrow
      rw [expectedPassword_append, if_neg (by simpa using hne), h.password hrow]
    next => cases hx
  | _ => exact absurd rfl hcommits

/-! ### Schedules -/

/-- A configuration of the calls of all replicas. -/
abbrev Replicas : Type := Config Stmt Stmt.Resp Exc Unit Database

/-- The calls are under way, and the passwords kept so far. -/
def Underway (rt : Runtime) (calls : List Call) (original : Connections) (c : Replicas) : Prop :=
  PasswordsKept rt calls original c.shared ∧
    ∀ (i : ℕ) (t : Task Stmt Stmt.Resp Exc Unit), c.tasks[i]? = some t →
      ∃ call, calls[i]? = some call ∧ Session rt (some call) i c.shared t.past ∧
        Calls rt call t.prog t.past (fun _ _ => True) (fun _ _ => True)

theorem underway_start :
    Underway rt calls original (.start (.start original) (calls.map (Call.program rt))) := by
  refine ⟨⟨fun row hrow => ?_, fun commit hcommit => nomatch hcommit⟩, fun i t ht => ?_⟩
  · refine decodesTo_of_stored ?_
    rw [expectedPassword,
      show original.find? row.id = some row from Table.find?_eq_some.2 ⟨hrow, rfl⟩]
    rfl
  · simp only [Config.start, List.map_map, List.getElem?_map, Option.map_eq_some_iff] at ht
    obtain ⟨call, hcall, rfl⟩ := ht
    refine ⟨call, hcall, ⟨fun _ => rfl, fun _ _ hlast => ?_, fun _ _ hversion => ?_⟩,
      calls_program call⟩
    · cases hlast
    · cases hversion

theorem underway_step (hf : rt.fernet.Lawful) {c c' : Replicas}
    {e : Event (List ConnectionRow) Empty} (h : Underway rt calls original c)
    (hG : Permits (PasswordUnchangedSinceRead rt) c e) (hstep : step world c e = some c') :
    Underway rt calls original c' := by
  cases e with
  | task i order =>
    obtain ⟨r, k, past, x, s', hi, hx, rfl⟩ := step_task hstep
    obtain ⟨call, hcall, hsession, hprog⟩ := h.2 i _ hi
    rw [permits_task hi] at hG
    refine ⟨h.1.step hf hcall hsession hprog.1 hx, fun j t hj => ?_⟩
    rcases getElem?_set_task hi hj with ⟨rfl, rfl⟩ | ⟨hji, hj⟩
    · exact ⟨call, hcall, hsession.step hf hprog.1 hG hx, hprog.2 x _ ⟨trivial, rfl⟩⟩
    · obtain ⟨call', hcall', hsession', hprog'⟩ := h.2 j t hj
      exact ⟨call', hcall', hsession'.frame (frame_exec hsession hji hx), hprog'⟩
  | env e => exact nomatch e

/-- **No password is lost as long as no row's password changes between the migration's `SELECT`
and its `UPDATE` of that row.** -/
theorem passwords_kept_of_unchanged_since_read (rt : Runtime) (hf : rt.fernet.Lawful)
    (calls : List Call) (original : Connections) (es : List (Event (List ConnectionRow) Empty))
    (hG : Guarded world (PasswordUnchangedSinceRead rt)
      (.start (.start original) (calls.map (Call.program rt))) es) :
    Always world (fun c => PasswordsKept rt calls original c.shared)
      (.start (.start original) (calls.map (Call.program rt))) es :=
  (always_of_guarded (P := Underway rt calls original) (fun _ _ _ => underway_step hf)
    underway_start hG).imp fun _ => And.left

/-- A connection whose password is in plaintext. -/
def plaintextRow : ConnectionRow where
  id := "c1"
  name := "One"
  hosts := ["10.0.0.1"]
  port := 3000
  clusterName := none
  username := some "admin"
  password := some "old"
  color := "#0097D3"
  note := none
  labels := none
  workspaceId := some defaultWorkspaceId
  createdAt := "0"
  updatedAt := "0"

/-- One replica migrates, another one rotates the password of a connection. -/
def migrateAndRotate : List Call :=
  [.migratePasswordsToEncrypted fun _ => 0,
    .updateConnection "c1" { password := some (some "new") } "1" 0]

/-- The database before both. -/
def oneConnection : Connections := .singleton plaintextRow

theorem lawful_plainRuntime : plainRuntime.fernet.Lawful := fun _ _ => rfl

/-- The rotation waits for the migration to commit. -/
theorem passwords_kept_of_unchanged_since_read_migrateAndRotate :
    Always world (fun c => PasswordsKept plainRuntime migrateAndRotate oneConnection c.shared)
      (.start (.start oneConnection)
        (migrateAndRotate.map (Call.program plainRuntime)))
      [.task 0 [], .task 0 [plaintextRow], .task 0 [], .task 0 [], .task 1 [], .task 1 [],
        .task 1 [], .task 1 []] := by
  refine passwords_kept_of_unchanged_since_read plainRuntime lawful_plainRuntime
    migrateAndRotate oneConnection _ ?_
  rintro _ ⟨⟩
  refine ⟨trivial, ?_⟩
  rintro _ ⟨⟩
  refine ⟨trivial, ?_⟩
  rintro _ ⟨⟩
  refine ⟨?_, ?_⟩
  · rintro rows read current hrows hread - hcurrent
    obtain ⟨⟩ : (⟨.selectPasswords, .ok rows⟩ : StmtAnswer) =
        ⟨.selectPasswords, .ok [plaintextRow]⟩ := by simpa using hrows
    obtain rfl := List.mem_singleton.1 hread
    cases hcurrent
    rfl
  rintro _ ⟨⟩
  refine ⟨trivial, ?_⟩
  rintro _ ⟨⟩
  refine ⟨trivial, ?_⟩
  rintro _ ⟨⟩
  refine ⟨trivial, ?_⟩
  rintro _ ⟨⟩
  refine ⟨trivial, ?_⟩
  rintro _ ⟨⟩
  exact ⟨trivial, trivial⟩

/-- The rotation commits between the migration's `SELECT` and its `UPDATE`, and is undone. -/
theorem rotated_password_lost :
    ∃ c, run world (.start (.start oneConnection)
        (migrateAndRotate.map (Call.program plainRuntime)))
      [.task 0 [], .task 0 [plaintextRow], .task 1 [], .task 1 [], .task 1 [], .task 1 [],
        .task 0 [], .task 0 []] = some c ∧
      (∀ t ∈ c.tasks, t.prog = .pure ()) ∧
      (c.shared.connections.rows.map fun row =>
        (decryptedProfile plainRuntime row).map (·.password)) = [.ok (some "old")] ∧
      ¬ PasswordsKept plainRuntime migrateAndRotate oneConnection c.shared := by
  refine ⟨_, rfl, ?_, rfl, fun h => ?_⟩
  · rintro t ht
    rcases List.mem_pair.1 ht with rfl | rfl <;> rfl
  · have hpassword : (.ok (some "old") : Except Exc (Option String)) = .ok (some "new") :=
      (h.passwords _ List.mem_cons_self).stored
    exact absurd (Option.some.inj (Except.ok.inj hpassword)) (by decide)

end ClusterManager.Db.Postgres
