import ClusterManager.Db.BackendEffects

/-!
# Runs of the two backends

A run creates both databases with the same seed and makes the same calls on both, one after the
other. `simulates_after` carries the agreement of one call along a run, and `backends_agree` says of
every call of a run what the two return and what they leave.
-/

namespace ClusterManager.Db.Backend

open JsonText (dumps loads ascii minimal)
open PostgresApi (Server)

/-! ### Runs -/

/-- The connection after a list of calls, made one after the other. -/
def after {D : Type} {rt : Runtime} (program : Chance → (call : ApiCall rt) → Sql D call.Resp) :
    (ℕ → Chance) → List (ApiCall rt) → Link D → Link D
  | _, [], l => l
  | chance, call :: calls, l =>
      after program (fun i => chance (i + 1)) calls (program (chance 0) call l).2

theorem eq_of_idle {D : Type} {l : Link D} (h : l.tx = none) : l = ⟨l.committed, none⟩ := by
  cases l
  exact congrArg (Link.mk _) h

section Runs

variable {J : Type} (pg : Server J) (py : Python) (chance : ℕ → Chance) (now : String)
  (calls : List (ApiCall py.toRuntime))

/-- The SQLite database after `init_db` and the calls. -/
def sqliteAfter : Link SqliteApi.Tables :=
  after (fun c => SqliteApi.program py c.scan c.nonce) chance calls
    (SqliteApi.initDb now ⟨.empty, none⟩).2

/-- The PostgreSQL database after `init_db` and the calls. -/
def postgresAfter : Link (Store J Bool) :=
  after (fun c => PostgresApi.program pg py c.scan c.nonce) chance calls
    (PostgresApi.initDb now ⟨.empty, none⟩).2

/-- The tables with the default workspace. -/
def seeded {J B : Type} (isDefault : B) (now : String) : Store J B :=
  { (Store.empty : Store J B) with
    workspaces := .singleton {
      id := defaultWorkspaceId
      name := "Default"
      color := "#6366F1"
      description := some "Default workspace"
      isDefault
      ownerId := systemOwnerId
      createdAt := now
      updatedAt := now } }

theorem sqlite_initDb : SqliteApi.initDb now ⟨.empty, none⟩ = (.ok (), ⟨seeded 1 now, none⟩) := rfl

variable {pg py chance now calls}

theorem postgres_initDb (hnow : NulFree now) :
    PostgresApi.initDb now (⟨.empty, none⟩ : Link (Store J Bool)) =
      (.ok (), ⟨seeded true now, none⟩) := by
  have hseed : ∀ q ∈ [Param.text defaultWorkspaceId, .text "Default", .text "#6366F1",
      .text "Default workspace", .text systemOwnerId, .text now, .text now], q.Plain := by
    simp only [List.forall_mem_cons, Param.Plain]
    exact ⟨by decide, by decide, by decide, by decide, by decide, hnow, hnow, by simp⟩
  have hfill : ∀ q ∈ [Param.text defaultWorkspaceId], q.Plain := by
    simp only [List.forall_mem_cons, Param.Plain]
    exact ⟨by decide, by simp⟩
  unfold PostgresApi.initDb
  rw [Sql.bind_ok (PostgresApi.poolExecute_eq (postgresBind_ok hseed)),
    PostgresApi.poolExecute_eq (postgresBind_ok hfill)]
  rfl

/-- The two databases as they are created. -/
theorem kept_seeded : Kept py pg [] [now] (seeded 1 now) (seeded true now) where
  connections := Matched.nil
  workspaces := Matched.singleton
    { stored := rfl
      name := (by decide : NulFree "Default")
      color := (by decide : NulFree "#6366F1")
      description := fun _ ht => Option.some.inj ht ▸ (by decide : NulFree "Default workspace") }
  setNotes := rfl
  recordNotes := rfl
  guides := rfl
  connectionTimes := .refl _
  workspaceTimes := .refl _

theorem Ordered.of_append {times later : List String} (h : Ordered pg (times ++ later)) :
    Ordered pg times where
  distinct := h.distinct.sublist (List.sublist_append_left _ _)
  collation a ha b hb :=
    h.collation a (List.mem_append_left _ ha) b (List.mem_append_left _ hb)

/-- Calls that are made on both sides keep the same rows. -/
theorem simulates_after (hpy : py.Lawful) (hpg : LawfulServer pg) (chance chance' : ℕ → Chance)
    {times times' : List String} {s : SqliteApi.Tables} {p : Store J Bool}
    (h : Kept py pg times times' s p) (hplain : ∀ call ∈ calls, call.Plain)
    (ht : Ordered pg (times ++ calls.flatMap ApiCall.connectionTimes))
    (ht' : Ordered pg (times' ++ calls.flatMap ApiCall.workspaceTimes)) :
    ∃ s' p', after (fun c => SqliteApi.program py c.scan c.nonce) chance calls ⟨s, none⟩ =
        ⟨s', none⟩ ∧
      after (fun c => PostgresApi.program pg py c.scan c.nonce) chance' calls ⟨p, none⟩ =
        ⟨p', none⟩ ∧
      Kept py pg (times ++ calls.flatMap ApiCall.connectionTimes)
        (times' ++ calls.flatMap ApiCall.workspaceTimes) s' p' := by
  -- the times of creation so far grow with the calls, so they are general in the induction
  induction calls generalizing times times' s p chance chance' with
  | nil =>
    refine ⟨s, p, rfl, rfl, ?_⟩
    simpa using h
  | cons call calls ih =>
    obtain ⟨hcall, hcalls⟩ := List.forall_mem_cons.1 hplain
    have hstep := simulates_program hpy hpg h ht.of_append ht'.of_append hcall (chance 0) (chance' 0)
    rw [List.flatMap_cons, ← List.append_assoc] at ht ht'
    rw [List.flatMap_cons, List.flatMap_cons, ← List.append_assoc, ← List.append_assoc, after, after,
      eq_of_idle hstep.idle, eq_of_idle hstep.idle']
    exact ih _ _ hstep.kept hcalls ht ht'

/-- A call that both backends make after the same calls: what it returns, the rows after it, and
what it stores and deletes on each side. -/
structure SameCall (py : Python) (pg : Server J) (call : ApiCall py.toRuntime)
    (s : SqliteApi.Tables) (p : Store J Bool) (x : Except Exc call.Resp × Link SqliteApi.Tables)
    (y : Except Exc call.Resp × Link (Store J Bool)) : Prop where
  result : Agrees (SameResult call) x.1 y.1
  rows : SameRows py pg x.2.committed y.2.committed
  effect : call.Effect (sqliteReading py) s x.2.committed x.1
  effect' : call.Effect (postgresReading pg py) p y.2.committed y.1

/-- The two backends agree on every call of every run. -/
theorem backends_agree (hpy : py.Lawful) (hpg : LawfulServer pg) (chance chance' : ℕ → Chance)
    (hnow : NulFree now) (hplain : ∀ call ∈ calls, call.Plain)
    (hconnections : Ordered pg (calls.flatMap ApiCall.connectionTimes))
    (hworkspaces : Ordered pg (now :: calls.flatMap ApiCall.workspaceTimes))
    {earlier later : List (ApiCall py.toRuntime)} {call : ApiCall py.toRuntime}
    (hcalls : calls = earlier ++ call :: later) :
    let l := sqliteAfter py chance now earlier
    let m := postgresAfter pg py chance' now earlier
    SameCall py pg call l.committed m.committed
      (SqliteApi.program py (chance earlier.length).scan (chance earlier.length).nonce call l)
      (PostgresApi.program pg py (chance' earlier.length).scan (chance' earlier.length).nonce call
        m) := by
  subst hcalls
  rw [List.flatMap_append, List.flatMap_cons, ← List.append_assoc] at hconnections hworkspaces
  have hconnections' : Ordered pg ([] ++ earlier.flatMap ApiCall.connectionTimes) :=
    hconnections.of_append.of_append
  have hseed : Ordered pg (([now] ++ earlier.flatMap ApiCall.workspaceTimes) ++
      call.workspaceTimes) := hworkspaces.of_append
  have hworkspaces' := hseed.of_append
  obtain ⟨s, p, hs, hp, hkept⟩ := simulates_after hpy hpg chance chance' kept_seeded
    (fun call hmem => hplain call (List.mem_append_left _ hmem)) hconnections' hworkspaces'
  have hsqlite : sqliteAfter py chance now earlier = ⟨s, none⟩ := by
    rw [sqliteAfter, sqlite_initDb]
    exact hs
  have hpostgres : postgresAfter pg py chance' now earlier = ⟨p, none⟩ := by
    rw [postgresAfter, postgres_initDb hnow]
    exact hp
  have hcall : call.Plain := hplain call (List.mem_append_right _ List.mem_cons_self)
  rw [hsqlite, hpostgres]
  have hstep := simulates_program hpy hpg hkept hconnections' hworkspaces' hcall
    (chance earlier.length) (chance' earlier.length)
  exact {
    result := hstep.result
    rows := hstep.kept.sameRows
    effect := sqlite_effect hpy s call
    effect' := postgres_effect hpy hpg hkept hcall }

end Runs

/-! ### A run of four calls -/

theorem nul_not_mem_unicodeEscape {u : ℕ} (h : u < 65536) :
    Char.ofNat 0 ∉ JsonText.unicodeEscape u := by
  have hdigit : ∀ {n : ℕ}, n < 16 → Char.ofNat 0 ≠ JsonText.hexDigit n := fun {n} hn =>
    (by decide : ∀ i : Fin 16, Char.ofNat 0 ≠ JsonText.hexDigit i) ⟨n, hn⟩
  simp only [JsonText.unicodeEscape, JsonText.hexUnit, List.mem_cons, List.not_mem_nil, or_false,
    not_or]
  exact ⟨by decide, by decide, hdigit (by omega), hdigit (by omega), hdigit (by omega),
    hdigit (by omega)⟩

theorem nul_not_mem_asciiEscape (c : Char) : Char.ofNat 0 ∉ JsonText.asciiEscape c := by
  have hbound := JsonText.toNat_lt_or c
  unfold JsonText.asciiEscape
  split
  next e he =>
    have hne : Char.ofNat 0 ≠ e := by
      rintro rfl
      simp only [JsonText.shortEscape] at he
      split_ifs at he with hself <;> simp_all
    simp only [List.mem_cons, List.not_mem_nil, or_false, not_or]
    exact ⟨by decide, hne⟩
  next =>
    split
    next hprint =>
      rw [List.mem_singleton]
      rintro rfl
      exact absurd hprint.1 (by decide)
    next =>
      split
      next hsmall => exact nul_not_mem_unicodeEscape hsmall
      next hlarge =>
        rw [List.mem_append, not_or]
        exact ⟨nul_not_mem_unicodeEscape (by omega), nul_not_mem_unicodeEscape (by omega)⟩

/-- A JSON text is printable. -/
theorem nulFree_dumps_str (s : String) : NulFree (dumps ascii (.str s)) := by
  have hquote : Char.ofNat 0 ≠ '"' := by decide
  simp only [NulFree, dumps, String.toList_ofList, JsonText.write, JsonText.writeString,
    List.mem_cons, List.mem_append, List.not_mem_nil, or_false, hquote, false_or,
    List.mem_flatMap, not_exists, not_and]
  exact fun c _ => nul_not_mem_asciiEscape c

/-- A key whose tokens are JSON texts, and no case to fold. -/
def jsonPython : Python where
  fernet := {
    encrypt := fun _ plaintext => dumps ascii (.str plaintext)
    decrypt := fun token =>
      match loads token with
      | some (.str plaintext) => some plaintext
      | _ => none }
  lower := id
  str := fun _ => ""

theorem jsonPython_lawful : jsonPython.Lawful where
  fernet nonce plaintext := by
    have hloads := JsonText.loads_dumps ascii (v := .str plaintext) trivial
    simp only [jsonPython, hloads]
  token nonce plaintext := nulFree_dumps_str plaintext
  lower s hs := hs

/-- A server that keeps JSON values and compares texts by their characters. -/
def valueServer : Server JsonText.Value where
  jsonb text :=
    match loads text with
    | some v => .ok v
    | none => .error (.databaseError "invalid input syntax for type json")
  text := dumps minimal
  le a b := a ≤ b

theorem valueServer_lawful : LawfulServer valueServer where
  array items _ := by
    refine ⟨listJson items, ?_, loads_listJson minimal⟩
    simp only [valueServer, loads_listJson]
  object d hd _ := by
    refine ⟨dictJson d, d, ?_, loads_dictJson minimal hd, .refl d⟩
    simp only [valueServer, loads_dictJson ascii hd]

/-- A connection with one host. -/
def builtConnection : BuiltProfile jsonPython.toRuntime where
  profile := {
    id := "conn-1"
    name := "Local"
    hosts := ["127.0.0.1"]
    port := 3000
    color := "#0097D3"
    labels := [("env", "default")]
    createdAt := "2026-01-01T00:00:01+00:00"
    updatedAt := "2026-01-01T00:00:01+00:00" }
  checked := by decide
  labels := ⟨none, rfl⟩

/-- The connection is created, a note is written, and the connections are listed. -/
def noteCalls : List (ApiCall jsonPython.toRuntime) := [
  .createConnection builtConnection,
  .upsertSetNote "conn-1" "test" "users" "hot" none "2026-01-01T00:00:02+00:00",
  .getAllConnections none]

/-- Rows are found in the order they were inserted. -/
def forwards : Chance := ⟨0, ⟨id, fun _ => .refl _⟩⟩

/-- Rows are found in the opposite order. -/
def backwards : Chance := ⟨1, ⟨List.reverse, List.reverse_perm⟩⟩

/-- The connection has a note, and its deletion is answered with true. -/
theorem backends_agree_deleteConnection :
    let l := sqliteAfter jsonPython (fun _ => forwards) "2026-01-01T00:00:00+00:00" noteCalls
    let m := postgresAfter valueServer jsonPython (fun _ => backwards) "2026-01-01T00:00:00+00:00"
      noteCalls
    let x := SqliteApi.program jsonPython forwards.scan forwards.nonce (.deleteConnection "conn-1") l
    SameCall jsonPython valueServer (.deleteConnection "conn-1") l.committed m.committed x
        (PostgresApi.program valueServer jsonPython backwards.scan backwards.nonce
          (.deleteConnection "conn-1") m) ∧
      l.committed.setNotes.rows.length = 1 ∧ x.1 = .ok true := by
  have hconnection : PlainProfile builtConnection.profile := by
    constructor <;> decide
  have hplain : ∀ call ∈ noteCalls ++ [.deleteConnection "conn-1"], call.Plain := by
    simp only [noteCalls, List.cons_append, List.nil_append, List.forall_mem_cons]
    exact ⟨hconnection, ⟨by decide, by decide⟩, fun _ h => (nomatch h),
      (by decide : NulFree "conn-1"), by simp⟩
  refine ⟨?_, by rfl, by rfl⟩
  exact backends_agree jsonPython_lawful valueServer_lawful (fun _ => forwards)
    (fun _ => backwards) (by decide) hplain ⟨by decide, fun a _ b _ => decide_eq_true_iff⟩
    ⟨by decide, fun a _ b _ => decide_eq_true_iff⟩ rfl

end ClusterManager.Db.Backend
