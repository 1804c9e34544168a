import ClusterManager.Lib.Matched
import ClusterManager.Db.PostgresApi
import ClusterManager.Db.SqliteApi

/-!
# The two backends hold the same rows

A row of one backend is the same as a row of the other if they read as the same: equal up to the
order of the labels, and with passwords that decrypt to the same (`SameConnection`). `Kept` relates
two stores of such rows, and every statement keeps it. What the backends rely on of the libraries
and of the server is in `Python.Lawful` and `LawfulServer`.
-/

namespace ClusterManager.Db.Backend

open JsonText (Value dumps loads ascii)
open PostgresApi (Server)

/-! ### Texts and parameters -/

/-- A text without NUL. -/
def NulFree (s : String) : Prop := Char.ofNat 0 ∉ s.toList

instance (s : String) : Decidable (NulFree s) := inferInstanceAs (Decidable (_ ∉ _))

/-- A parameter that both drivers take. -/
def Param.Plain : Param → Prop
  | .text s => NulFree s
  | .text? s => ∀ t ∈ s, NulFree t
  | .int n => n < 2147483648
  | .bool _ => True
  | .texts l => ∀ s ∈ l, NulFree s

/-- An integer that both drivers take. -/
def Param.Fits : Param → Prop
  | .int n => n < 2147483648
  | _ => True

theorem bindText_ok {s : String} (h : NulFree s) : PostgresApi.bindText s = .ok () := by
  have hcontains : s.toList.contains (Char.ofNat 0) = false := by
    rw [Bool.eq_false_iff]
    exact fun hmem => h (List.contains_iff_mem.1 hmem)
  rw [PostgresApi.bindText, hcontains]
  rfl

theorem forM_ok {α : Type} {f : α → Except Exc Unit} {l : List α} (h : ∀ a ∈ l, f a = .ok ()) :
    l.forM f = .ok () := by
  induction l with
  | nil => rfl
  | cons a l ih =>
    have hcons : (a :: l).forM f = f a >>= fun _ => l.forM f := rfl
    rw [hcons, h a List.mem_cons_self]
    exact ih fun b hb => h b (List.mem_cons_of_mem _ hb)

theorem postgresBind_ok {params : List Param} (h : ∀ p ∈ params, p.Plain) :
    params.forM PostgresApi.bindParam = .ok () := by
  refine forM_ok fun p hp => ?_
  have hplain := h p hp
  cases p with
  | text s => exact bindText_ok hplain
  | text? s => exact forM_ok fun t ht => bindText_ok (hplain t (Option.mem_toList.1 ht))
  | int n => exact if_pos hplain
  | bool b => rfl
  | texts l => exact forM_ok fun t ht => bindText_ok (hplain t ht)

theorem sqliteBind_ok {params : List Param} (h : ∀ p ∈ params, p.Fits) :
    params.forM SqliteApi.bindParam = .ok () := by
  refine forM_ok fun p hp => ?_
  have hfits := h p hp
  cases p with
  | int n => exact if_pos (lt_trans hfits (by decide))
  | text _ | text? _ | bool _ | texts _ => rfl

theorem NulFree.append {s t : String} (hs : NulFree s) (ht : NulFree t) : NulFree (s ++ t) := by
  rw [NulFree, String.toList_append, List.mem_append]
  exact fun h => h.elim hs ht

theorem NulFree.strip {s : String} (h : NulFree s) : NulFree (strip s) := by
  rw [NulFree, Db.strip, String.toList_ofList]
  exact fun hmem =>
    h ((List.dropWhile_sublist _).subset ((List.rdropWhile_prefix _ _).sublist.subset hmem))

theorem NulFree.orDefault {default s : String} (hdefault : NulFree default) (hs : NulFree s) :
    NulFree (orDefault default s) := by
  unfold Db.orDefault
  split
  · exact hdefault
  · exact hs

/-! ### What is taken from outside -/

/-- A Fernet token decrypts to what was encrypted and has no NUL, and there is none in a text in
lower case unless there was one before. -/
structure Python.Lawful (py : Python) : Prop where
  fernet : py.fernet.Lawful
  token : ∀ nonce plaintext, NulFree (py.fernet.encrypt nonce plaintext)
  lower : ∀ s, NulFree s → NulFree (py.lower s)

/-- `jsonb` takes every JSON text of strings without NUL. An array reads back as it was, and an
object up to the order of its keys. -/
structure LawfulServer {J : Type} (pg : Server J) : Prop where
  array : ∀ items : List String, (∀ s ∈ items, NulFree s) →
    ∃ j, pg.jsonb (dumps ascii (listJson items)) = .ok j ∧
      loads (pg.text j) = some (listJson items)
  object : ∀ d : Dict String String, (d.map Prod.fst).Nodup →
    (∀ p ∈ d, NulFree p.1 ∧ NulFree p.2) →
    ∃ j d', pg.jsonb (dumps ascii (dictJson d)) = .ok j ∧
      loads (pg.text j) = some (dictJson d') ∧ d.Perm d'

theorem nulFree_storedPassword {py : Python} (hpy : py.Lawful) (nonce : ℕ)
    (password : Option String) :
    ∀ t ∈ storedPassword py.fernet nonce password, NulFree t := by
  intro t ht
  cases password with
  | none => cases ht
  | some password =>
    simp only [storedPassword, encryptPassword, Option.mem_def, Option.some.injEq] at ht
    subst ht
    split
    next hempty => exact hempty ▸ by decide
    next => exact NulFree.append (by decide) (hpy.token nonce password)

/-! ### Labels -/

/-- Labels as `_normalize_labels` leaves them. -/
structure Clean (labels : Dict String String) : Prop where
  nodup : (labels.map Prod.fst).Nodup
  keys : ∀ k ∈ labels.map Prod.fst, strip k = k ∧ k ≠ ""

section Labels

variable {rt : Runtime} {v d d' : Dict String String}

theorem clean_normalizeLabels (v : Option (Dict String String)) : Clean (normalizeLabels rt v) := by
  cases v with
  | none => exact ⟨by simp [normalizeLabels], by simp [normalizeLabels]; decide⟩
  | some v =>
    obtain ⟨hnodup, hkeys⟩ := keys_normalizeLabels_loop v [] (by simp) (by simp)
    refine ⟨Dict.nodup_keys_set hnodup, fun k hk => ?_⟩
    rcases Dict.mem_keys_set.1 hk with hk | rfl
    · exact hkeys k hk
    · decide

/-- The order of such labels does not matter for normalising them. -/
theorem normalizeLabels_perm (h : d.Perm d') (hd : Clean d) :
    (normalizeLabels rt (some d)).Perm (normalizeLabels rt (some d')) := by
  have hd' : Clean d' := ⟨(h.map Prod.fst).nodup_iff.1 hd.nodup, fun k hk =>
    hd.keys k ((h.map Prod.fst).mem_iff.2 hk)⟩
  simp only [normalizeLabels]
  rw [normalizeLabels_loop_eq d [] hd.nodup hd.keys,
    normalizeLabels_loop_eq d' [] hd'.nodup hd'.keys, List.nil_append, List.nil_append,
    Dict.get?_perm h hd.nodup]
  exact Dict.set_perm h hd.nodup

theorem nulFree_normalizeLabels_loop (v labels : Dict String String)
    (hv : ∀ p ∈ v, NulFree p.1 ∧ NulFree p.2) (hlabels : ∀ p ∈ labels, NulFree p.1 ∧ NulFree p.2) :
    ∀ p ∈ (v.foldl (fun labels (key, val) =>
      let k := strip key
      if k = "" then labels else labels.set k val) labels : Dict String String),
      NulFree p.1 ∧ NulFree p.2 := by
  induction v generalizing labels with
  | nil => exact hlabels
  | cons p v ih =>
    obtain ⟨key, val⟩ := p
    rw [List.foldl_cons]
    have hv' := fun p hp => hv p (List.mem_cons_of_mem _ hp)
    obtain ⟨hkey, hval⟩ := hv _ List.mem_cons_self
    by_cases hk : strip key = ""
    · simp only [hk, if_true]
      exact ih _ hv' hlabels
    · simp only [hk, if_false]
      refine ih _ hv' fun p hp => ?_
      rcases Dict.mem_set hp with hp | rfl
      · exact hlabels p hp
      · exact ⟨hkey.strip, hval⟩

theorem nulFree_normalizeLabels (hlower : ∀ s, NulFree s → NulFree (rt.lower s))
    (hv : ∀ p ∈ v, NulFree p.1 ∧ NulFree p.2) :
    ∀ p ∈ normalizeLabels rt (some v), NulFree p.1 ∧ NulFree p.2 := by
  have hloop := nulFree_normalizeLabels_loop v [] hv (by simp)
  intro p hp
  rcases Dict.mem_set hp with hp | rfl
  · exact hloop p hp
  · have hkey : NulFree "env" := by decide
    refine ⟨hkey, NulFree.orDefault (by decide) (hlower _ (NulFree.strip ?_))⟩
    cases henv : Dict.get? (v.foldl (fun labels (key, val) =>
      let k := strip key
      if k = "" then labels else labels.set k val) ([] : Dict String String)) "env" with
    | none => exact (by decide : NulFree "")
    | some env => exact (hloop _ (Dict.mem_of_get?_eq_some henv)).2

end Labels

/-! ### Profiles -/

/-- Profiles that are equal up to the order of their labels. -/
def SameProfile (p q : ConnectionProfile) : Prop :=
  ∃ labels, q = { p with labels } ∧ p.labels.Perm labels

theorem SameProfile.refl (p : ConnectionProfile) : SameProfile p p := ⟨p.labels, rfl, .refl _⟩

/-- The texts of a profile have no NUL, but for the password, which is encrypted. -/
structure PlainProfile (p : ConnectionProfile) : Prop where
  id : NulFree p.id
  name : NulFree p.name
  hosts : ∀ s ∈ p.hosts, NulFree s
  clusterName : ∀ s ∈ p.clusterName, NulFree s
  username : ∀ s ∈ p.username, NulFree s
  color : NulFree p.color
  note : ∀ s ∈ p.note, NulFree s
  labels : ∀ e ∈ p.labels, NulFree e.1 ∧ NulFree e.2
  workspaceId : NulFree p.workspaceId
  createdAt : NulFree p.createdAt
  updatedAt : NulFree p.updatedAt

/-- A profile that both backends can store. -/
structure Storable (p : ConnectionProfile) : Prop extends PlainProfile p where
  port : p.port ≤ 65535
  clean : Clean p.labels

theorem Storable.of_same {p q : ConnectionProfile} (h : Storable p) (hsame : SameProfile p q) :
    Storable q := by
  obtain ⟨labels, rfl, hperm⟩ := hsame
  have hkeys := hperm.map Prod.fst
  exact { h with
    labels := fun e he => h.labels e (hperm.mem_iff.2 he)
    clean := ⟨hkeys.nodup_iff.1 h.clean.nodup, fun k hk => h.clean.keys k (hkeys.mem_iff.2 hk)⟩ }

/-- The labels and the password are not checked. -/
theorem agrees_validated {p q : ConnectionProfile} (hhosts : p.hosts = q.hosts)
    (hport : p.port = q.port) (hcolor : p.color = q.color) :
    Agrees (fun p' q' => p' = p ∧ q' = q ∧ p.port ≤ 65535) p.validated q.validated := by
  have hvalid : p.isValid = q.isValid := by
    simp only [ConnectionProfile.isValid, hhosts, hport, hcolor]
  unfold ConnectionProfile.validated
  rw [← hvalid]
  split
  next hfields =>
    simp only [ConnectionProfile.isValid, isPort, Bool.and_eq_true, decide_eq_true_eq] at hfields
    exact .ok ⟨rfl, rfl, hfields.1.2.2⟩
  next => exact .error _ _

/-! ### The JSON columns -/

section Columns

variable {J : Type} {py : Python} {text : J → String} {hosts : List String}
  {labels : Dict String String} {a : ConnectionColumns J}

theorem validateHosts_listJson : validateHosts (listJson hosts) = .ok hosts := by
  unfold validateHosts listJson
  induction hosts with
  | nil => rfl
  | cons host hosts ih =>
    simp only [List.map_cons, List.mapM_cons] at ih ⊢
    rw [ih]
    rfl

theorem loads_listJson (E : JsonText.Escaping) : loads (dumps E (listJson hosts)) =
    some (listJson hosts) := by
  have hdistinct : JsonText.DistinctItems (hosts.map .str) := by
    induction hosts with
    | nil => trivial
    | cons host hosts ih => exact ⟨trivial, ih⟩
  exact JsonText.loads_dumps E hdistinct

theorem loads_dictJson (E : JsonText.Escaping) (h : (labels.map Prod.fst).Nodup) :
    loads (dumps E (dictJson labels)) = some (dictJson labels) := by
  have hdistinct : ∀ labels : Dict String String,
      JsonText.DistinctFields (labels.map fun p => (p.1, .str p.2)) := by
    intro labels
    induction labels with
    | nil => trivial
    | cons p labels ih => exact ⟨trivial, ih⟩
  exact JsonText.loads_dumps E ⟨by simpa [Function.comp_def] using h, hdistinct labels⟩

theorem decodeJsonDict_eq {t : String} (h : loads t = some (dictJson labels)) :
    (decodeJsonDict (some t)).map (fun p => (p.1, labelText py p.2)) = labels := by
  have hne : t ≠ "" := by
    rintro rfl
    cases h
  simp only [decodeJsonDict, if_neg hne, h, dictJson, List.map_map]
  exact List.map_id labels

/-- Columns that hold hosts and labels read as them. -/
theorem readColumns_eq {j : J} (hhosts : loads (text a.hosts) = some (listJson hosts))
    (hj : a.labels = some j) (hlabels : loads (text j) = some (dictJson labels)) :
    readColumns py text a = .ok (a.decoded hosts labels) := by
  have hdecode : decodeHosts (text a.hosts) = .ok hosts := by
    rw [decodeHosts, hhosts]
    exact validateHosts_listJson
  rw [readColumns, hdecode, hj, Option.map_some, decodeJsonDict_eq hlabels]
  rfl

theorem decoded_of_readColumns {row : ConnectionRow} (h : readColumns py text a = .ok row) :
    ∃ hosts labels, row = a.decoded hosts labels := by
  obtain ⟨hosts, -, h⟩ := exists_of_bind_ok h
  cases h
  exact ⟨hosts, _, rfl⟩

end Columns

/-! ### Rows of the two backends -/

/-- Rows that are equal up to the order of the labels and the encryption of the password. -/
def SameRow (py : Python) (row row' : ConnectionRow) : Prop :=
  ∃ password labels labels',
    row' = { row with password, labels := some labels' } ∧ row.labels = some labels ∧
      labels.Perm labels' ∧
      decryptPassword py.fernet row.password = decryptPassword py.fernet password

section Rows

variable {J : Type} {py : Python} {pg : Server J} {a : ConnectionColumns String}
  {b : ConnectionColumns J}

/-- The columns read as the same row. -/
def SameConnection (py : Python) (pg : Server J) (a : ConnectionColumns String)
    (b : ConnectionColumns J) : Prop :=
  ∃ row row', readColumns py id a = .ok row ∧ readColumns py pg.text b = .ok row' ∧
    SameRow py row row'

/-- The columns read as the same row, and the profile of this row can be stored. -/
def Twin (py : Python) (pg : Server J) (a : ConnectionColumns String) (b : ConnectionColumns J) :
    Prop :=
  ∃ row row', readColumns py id a = .ok row ∧ readColumns py pg.text b = .ok row' ∧
    SameRow py row row' ∧ (∀ labels, row.labels = some labels → Clean labels) ∧
    Storable (row.toProfile py.toRuntime)

theorem Twin.same (h : Twin py pg a b) : SameConnection py pg a b := by
  obtain ⟨row, row', ha, hb, hsame, -⟩ := h
  exact ⟨row, row', ha, hb, hsame⟩

/-- The columns that are compared in a `WHERE` or an `ORDER BY`. -/
theorem SameConnection.columns (h : SameConnection py pg a b) :
    a.id = b.id ∧ a.workspaceId = b.workspaceId ∧ a.createdAt = b.createdAt := by
  obtain ⟨row, row', ha, hb, password, labels, labels', hrow', -⟩ := h
  obtain ⟨hosts, _, rfl⟩ := decoded_of_readColumns ha
  obtain ⟨hosts', _, rfl⟩ := decoded_of_readColumns hb
  have hid := congrArg ConnectionRow.id hrow'
  have hworkspace := congrArg ConnectionRow.workspaceId hrow'
  have hcreated := congrArg ConnectionRow.createdAt hrow'
  exact ⟨hid.symm, hworkspace.symm, hcreated.symm⟩

theorem Twin.nulFree_createdAt (h : Twin py pg a b) : NulFree a.createdAt := by
  obtain ⟨row, row', ha, -, -, -, hstorable⟩ := h
  obtain ⟨hosts, labels, rfl⟩ := decoded_of_readColumns ha
  exact hstorable.createdAt

/-- What a writer stores for a profile. -/
def written {J : Type} (hosts labels : J) (password : Option String) (id createdAt : String)
    (p : ConnectionProfile) : ConnectionColumns J where
  id := id
  name := p.name
  hosts := hosts
  port := p.port
  clusterName := p.clusterName
  username := p.username
  password := password
  color := p.color
  note := p.note
  labels := some labels
  workspaceId := some p.workspaceId
  createdAt := createdAt
  updatedAt := p.updatedAt

/-- The same profile is stored as the same row. -/
theorem twin_written (hpy : py.Lawful) {p q : ConnectionProfile} (hsame : SameProfile p q)
    (hp : Storable p) {id createdAt : String} (hid : NulFree id) (hcreated : NulFree createdAt)
    {hosts labels : J} {d : Dict String String}
    (hhosts : loads (pg.text hosts) = some (listJson p.hosts))
    (hlabels : loads (pg.text labels) = some (dictJson d)) (hd : q.labels.Perm d)
    (nonce nonce' : ℕ) :
    Twin py pg
      (written (dumps ascii (listJson p.hosts)) (dumps ascii (dictJson p.labels))
        (storedPassword py.fernet nonce p.password) id createdAt p)
      (written hosts labels (storedPassword py.fernet nonce' q.password) id createdAt q) := by
  obtain ⟨qlabels, rfl, hperm⟩ := hsame
  refine ⟨_, _, readColumns_eq (loads_listJson ascii) rfl (loads_dictJson ascii hp.clean.nodup),
    readColumns_eq hhosts rfl hlabels, ⟨_, p.labels, d, rfl, rfl, hperm.trans hd, ?_⟩, ?_, ?_⟩
  · have hread := decryptPassword_storedPassword hpy.fernet nonce p.password
    have hread' := decryptPassword_storedPassword hpy.fernet nonce' p.password
    exact hread.trans hread'.symm
  · intro labels' hlabels'
    cases hlabels'
    exact hp.clean
  · exact { hp with
      id := hid
      labels := nulFree_normalizeLabels hpy.lower hp.labels
      clean := show Clean (normalizeLabels py.toRuntime (some p.labels)) from
        clean_normalizeLabels _
      workspaceId := NulFree.orDefault (by decide) hp.workspaceId
      createdAt := hcreated }

/-- The two backends read the same profile. -/
theorem agrees_rowToProfile (h : Twin py pg a b) :
    Agrees (fun p q => SameProfile p q ∧ Storable p) (SqliteApi.rowToProfile py a)
      (PostgresApi.rowToProfile pg py b) := by
  obtain ⟨row, row', ha, hb, ⟨password, labels, labels', rfl, hlabels, hperm, hpassword⟩, hclean,
    hstorable⟩ := h
  have hread : SqliteApi.rowToProfile py a = decryptedProfile py.toRuntime row := by
    rw [SqliteApi.rowToProfile, ha]
    rfl
  have hread' : PostgresApi.rowToProfile pg py b =
      decryptedProfile py.toRuntime { row with password, labels := some labels' } := by
    rw [PostgresApi.rowToProfile, hb]
    rfl
  have hnormal : (normalizeLabels py.toRuntime (some (row.labels.getD []))).Perm
      (normalizeLabels py.toRuntime (some labels')) := by
    rw [hlabels]
    exact normalizeLabels_perm hperm (hclean labels hlabels)
  rw [hread, hread']
  refine Agrees.bind (agrees_validated rfl rfl rfl) ?_
  rintro _ _ ⟨rfl, rfl, -⟩
  refine Agrees.bind (R := Eq) (show Agrees Eq (decryptPassword py.fernet row.password)
    (decryptPassword py.fernet password) from hpassword ▸ .refl fun _ _ => rfl) ?_
  rintro plaintext _ rfl
  exact .ok ⟨⟨_, rfl, hnormal⟩, { hstorable with }⟩

end Rows

/-! ### Merging an update -/

/-- The texts of an update have no NUL. -/
structure PlainUpdate (data : UpdateData) : Prop where
  name : ∀ s, data.name = some (some s) → NulFree s
  hosts : ∀ hosts, data.hosts = some (some hosts) → ∀ s ∈ hosts, NulFree s
  clusterName : ∀ s, data.clusterName = some (some s) → NulFree s
  username : ∀ s, data.username = some (some s) → NulFree s
  color : ∀ s, data.color = some (some s) → NulFree s
  note : ∀ s, data.note = some (some s) → NulFree s
  labels : ∀ labels, data.labels = some (some labels) →
    ∀ e ∈ labels, NulFree e.1 ∧ NulFree e.2
  workspaceId : ∀ s, data.workspaceId = some (some s) → NulFree s

section Merge

variable {py : Python} {p q : ConnectionProfile} {data : UpdateData} {connId now : String}

/-- What a field is set to comes from the update or from what is there. -/
theorem mem_getD {α : Type} {P : α → Prop} {o : Option (Option α)} {d : Option α}
    (ho : ∀ a, o = some (some a) → P a) (hd : ∀ a ∈ d, P a) : ∀ a ∈ o.getD d, P a := by
  cases o with
  | none => exact hd
  | some value =>
    intro a ha
    exact ho a (congrArg some ha)

theorem agrees_required {α : Type} {P : α → Prop} {value : Option α} (h : ∀ a ∈ value, P a) :
    Agrees (fun a b => b = a ∧ P a) (required value) (required value) := by
  cases value with
  | none => exact .error _ _
  | some a => exact .ok ⟨rfl, h a rfl⟩

theorem agrees_buildMergedProfile (hpy : py.Lawful) (hsame : SameProfile p q) (hp : Storable p)
    (hdata : PlainUpdate data) (hid : NulFree connId) (hnow : NulFree now) :
    Agrees (fun p q => SameProfile p q ∧ Storable p) (buildMergedProfile py.toRuntime p data connId now)
      (buildMergedProfile py.toRuntime q data connId now) := by
  obtain ⟨labels, rfl, hperm⟩ := hsame
  -- the labels of the two sides come in two orders, and are in two orders when normalized
  have hnormal : (normalizeLabels py.toRuntime (some ((data.labels.getD p.labels).getD []))).Perm
      (normalizeLabels py.toRuntime (some ((data.labels.getD labels).getD []))) := by
    cases data.labels with
    | none => exact normalizeLabels_perm hperm hp.clean
    | some value => exact .refl _
  have hplain : ∀ e ∈ normalizeLabels py.toRuntime (some ((data.labels.getD p.labels).getD [])),
      NulFree e.1 ∧ NulFree e.2 := by
    refine nulFree_normalizeLabels hpy.lower ?_
    have hmem := mem_getD (P := fun labels : Dict String String =>
      ∀ e ∈ labels, NulFree e.1 ∧ NulFree e.2) (d := some p.labels) hdata.labels
      fun labels hlabels => Option.some.inj hlabels ▸ hp.labels
    cases hvalue : data.labels.getD (some p.labels) with
    | none => simp
    | some labels => exact hmem labels hvalue
  have hclean : Clean (normalizeLabels py.toRuntime (some ((data.labels.getD p.labels).getD []))) :=
    clean_normalizeLabels _
  have hworkspace : NulFree (orDefault defaultWorkspaceId
      ((data.workspaceId.getD p.workspaceId).getD "")) := by
    refine NulFree.orDefault (by decide) ?_
    have hmem := mem_getD (d := some p.workspaceId) hdata.workspaceId
      fun s hs => Option.some.inj hs ▸ hp.workspaceId
    cases hvalue : data.workspaceId.getD (some p.workspaceId) with
    | none => exact (by decide : NulFree "")
    | some s => exact hmem s hvalue
  refine Agrees.bind (agrees_required (mem_getD hdata.name
    fun s hs => Option.some.inj hs ▸ hp.name)) ?_
  rintro name _ ⟨rfl, hname⟩
  refine Agrees.bind (agrees_required (mem_getD hdata.hosts
    fun s hs => Option.some.inj hs ▸ hp.hosts)) ?_
  rintro hosts _ ⟨rfl, hhosts⟩
  refine Agrees.bind (R := Eq) (.refl fun _ _ => rfl) ?_
  rintro port _ rfl
  refine Agrees.bind (agrees_required (mem_getD hdata.color
    fun s hs => Option.some.inj hs ▸ hp.color)) ?_
  rintro color _ ⟨rfl, hcolor⟩
  apply Agrees.mono
  · exact agrees_validated rfl rfl rfl
  rintro _ _ ⟨rfl, rfl, hport⟩
  refine ⟨⟨_, rfl, hnormal⟩, ?_⟩
  exact {
    id := hid
    name := hname
    hosts := hhosts
    port := hport
    clusterName := mem_getD hdata.clusterName hp.clusterName
    username := mem_getD hdata.username hp.username
    color := hcolor
    note := mem_getD hdata.note hp.note
    labels := hplain
    clean := hclean
    workspaceId := hworkspace
    createdAt := hp.createdAt
    updatedAt := hnow }

end Merge

/-! ### Workspaces -/

/-- The row with its flag as an integer. -/
def WorkspaceColumns.stored (row : WorkspaceColumns Bool) : WorkspaceColumns ℕ where
  id := row.id
  name := row.name
  color := row.color
  description := row.description
  isDefault := if row.isDefault then 1 else 0
  ownerId := row.ownerId
  createdAt := row.createdAt
  updatedAt := row.updatedAt

/-- The same row, what an update writes of it without NUL. -/
structure TwinWorkspace (a : WorkspaceColumns ℕ) (b : WorkspaceColumns Bool) : Prop where
  stored : a = b.stored
  name : NulFree b.name
  color : NulFree b.color
  description : ∀ s ∈ b.description, NulFree s

/-- What an update of a workspace writes has no NUL. -/
structure PlainWorkspace (ws : Workspace) : Prop where
  name : NulFree ws.name
  color : NulFree ws.color
  description : ∀ s ∈ ws.description, NulFree s
  updatedAt : NulFree ws.updatedAt

/-- The texts of an update have no NUL. -/
structure PlainWorkspaceUpdate (data : WorkspaceUpdateData) : Prop where
  name : ∀ s, data.name = some (some s) → NulFree s
  color : ∀ s, data.color = some (some s) → NulFree s
  description : ∀ s, data.description = some (some s) → NulFree s

section Workspaces

variable {a : WorkspaceColumns ℕ} {b : WorkspaceColumns Bool} {data : WorkspaceUpdateData}
  {now : String}

/-- The two backends read the same workspace. -/
theorem rowToWorkspace_stored :
    SqliteApi.rowToWorkspace b.stored = PostgresApi.rowToWorkspace b := by
  have hdecoded : b.stored.decoded (fun flag => decide (flag ≠ 0)) = b.decoded id := by
    cases h : b.isDefault <;> simp [WorkspaceColumns.stored, WorkspaceColumns.decoded, h]
  rw [SqliteApi.rowToWorkspace, PostgresApi.rowToWorkspace, hdecoded]

theorem rowToWorkspace_ok {ws : Workspace} (h : PostgresApi.rowToWorkspace b = .ok ws) :
    ws.name = b.name ∧ ws.color = b.color ∧ ws.description = b.description := by
  obtain ⟨-, rfl⟩ := rowToWorkspace_eq_ok.1 h
  exact ⟨rfl, rfl, rfl⟩

theorem agrees_mergeWorkspace (h : TwinWorkspace a b) (hdata : PlainWorkspaceUpdate data)
    (hnow : NulFree now) : Agrees (fun ws ws' => ws' = ws ∧ PlainWorkspace ws)
      (do let existing ← SqliteApi.rowToWorkspace a; buildMergedWorkspace existing data now)
      (do let existing ← PostgresApi.rowToWorkspace b; buildMergedWorkspace existing data now) := by
  rw [h.stored, rowToWorkspace_stored]
  refine .refl fun ws hws => ⟨rfl, ?_⟩
  obtain ⟨existing, hexisting, hmerged⟩ := exists_of_bind_ok hws
  obtain ⟨name, color, hname, hcolor, rfl⟩ := exists_of_buildMergedWorkspace hmerged
  obtain ⟨hsame, hsame', hsame''⟩ := rowToWorkspace_ok hexisting
  have hplain {o : Option (Option String)} {d s : String} (ho : ∀ s, o = some (some s) → NulFree s)
      (hd : NulFree d) (hs : required (o.getD d) = .ok s) : NulFree s := by
    cases hvalue : o.getD (some d) with
    | none =>
      rw [hvalue] at hs
      cases hs
    | some s =>
      rw [hvalue] at hs
      cases hs
      exact mem_getD ho (fun s hs => Option.some.inj hs ▸ hd) s hvalue
  exact {
    name := hplain hdata.name (hsame ▸ h.name) hname
    color := hplain hdata.color (hsame' ▸ h.color) hcolor
    description := mem_getD hdata.description (hsame'' ▸ h.description)
    updatedAt := hnow }

end Workspaces

/-! ### The stores -/

/-- The two databases hold the same rows. -/
structure SameRows {J : Type} (py : Python) (pg : Server J) (s : SqliteApi.Tables)
    (p : Store J Bool) : Prop where
  connections : Matched (SameConnection py pg) s.connections.rows p.connections.rows
  workspaces : s.workspaces.rows.Perm (p.workspaces.rows.map WorkspaceColumns.stored)
  setNotes : s.setNotes.rows.Perm p.setNotes.rows
  recordNotes : s.recordNotes.rows.Perm p.recordNotes.rows
  guides : s.guides.rows.Perm p.guides.rows

/-- They do, what they hold can be stored again, and the times of creation are among those given. -/
structure Kept {J : Type} (py : Python) (pg : Server J) (connectionTimes workspaceTimes : List String)
    (s : SqliteApi.Tables) (p : Store J Bool) : Prop where
  connections : Table.Matches (Twin py pg) s.connections p.connections
  workspaces : Table.Matches TwinWorkspace s.workspaces p.workspaces
  setNotes : s.setNotes = p.setNotes
  recordNotes : s.recordNotes = p.recordNotes
  guides : s.guides = p.guides
  connectionTimes : (s.connections.rows.map ConnectionColumns.createdAt).Sublist connectionTimes
  workspaceTimes : (s.workspaces.rows.map WorkspaceColumns.createdAt).Sublist workspaceTimes

section Statements

variable {J : Type} {py : Python} {pg : Server J} {times times' : List String}
  {s : SqliteApi.Tables} {p : Store J Bool}

theorem Kept.sameRows (h : Kept py pg times times' s p) : SameRows py pg s p where
  connections := Matched.mono h.connections fun _ _ => Twin.same
  workspaces := by
    have := Matched.map_perm (f := id) h.workspaces fun a b (hab : TwinWorkspace a b) => hab.stored
    rwa [List.map_id] at this
  setNotes := h.setNotes ▸ .refl _
  recordNotes := h.recordNotes ▸ .refl _
  guides := h.guides ▸ .refl _

theorem Kept.mono (h : Kept py pg times times' s p) (more more' : List String) :
    Kept py pg (times ++ more) (times' ++ more') s p :=
  { h with
    connectionTimes := h.connectionTimes.trans (List.sublist_append_left _ _)
    workspaceTimes := h.workspaceTimes.trans (List.sublist_append_left _ _) }

theorem Kept.find_connection (h : Kept py pg times times' s p) (connId : String) :
    Option.Rel (Twin py pg) (s.connections.find? connId) (p.connections.find? connId) :=
  h.connections.find? fun _ _ hab => hab.same.columns.1

theorem twinWorkspace_id {a : WorkspaceColumns ℕ} {b : WorkspaceColumns Bool}
    (h : TwinWorkspace a b) : a.id = b.id := h.stored ▸ rfl

theorem Kept.find_workspace (h : Kept py pg times times' s p) (workspaceId : String) :
    Option.Rel TwinWorkspace (s.workspaces.find? workspaceId) (p.workspaces.find? workspaceId) :=
  h.workspaces.find? fun _ _ => twinWorkspace_id

/-- What a statement does on both sides. -/
def AgreeAfter {J α β : Type} (py : Python) (pg : Server J) (times times' : List String)
    (R : α → β → Prop) (x : Except Exc (α × SqliteApi.Tables)) (y : Except Exc (β × Store J Bool)) :
    Prop :=
  Agrees (fun a b => R a.1 b.1 ∧ Kept py pg times times' a.2 b.2) x y

theorem Kept.insertConnection (h : Kept py pg times times' s p) {a : ConnectionColumns String}
    {b : ConnectionColumns J} (hab : Twin py pg a b) :
    AgreeAfter py pg (times ++ [a.createdAt]) times' Eq (insertConnection a s)
      (insertConnection b p) := by
  have hinsert := h.connections.insert? (fun _ _ hab => hab.same.columns.1) hab
  unfold Backend.insertConnection
  cases hs : s.connections.insert? a with
  | none =>
    rw [hs] at hinsert
    generalize p.connections.insert? b = y at hinsert
    cases hinsert
    exact .error _ _
  | some connections =>
    rw [hs] at hinsert
    generalize p.connections.insert? b = y at hinsert
    cases hinsert with
    | some hmatches =>
      refine .ok ⟨rfl, { h with connections := hmatches, connectionTimes := ?_ }⟩
      rw [(Table.insert?_eq_some.1 hs).2, List.map_append, List.map_singleton]
      exact h.connectionTimes.append (.refl _)

theorem Kept.updateConnection (h : Kept py pg times times' s p) {connId : String}
    {f : ConnectionColumns String → ConnectionColumns String}
    {g : ConnectionColumns J → ConnectionColumns J} (hf : ∀ a, (f a).id = a.id)
    (hg : ∀ b, (g b).id = b.id)
    (hfg : ∀ a b, Twin py pg a b → a.id = connId → Twin py pg (f a) (g b))
    (hcreated : ∀ a, (f a).createdAt = a.createdAt) :
    AgreeAfter py pg times times' Eq (updateConnection connId f hf s)
      (updateConnection connId g hg p) := by
  refine .ok ⟨rfl, { h with
    connections := h.connections.update hf hg (fun _ _ hab => hab.same.columns.1) hfg
    connectionTimes := ?_ }⟩
  have htimes : (s.connections.update connId f hf).rows.map ConnectionColumns.createdAt =
      s.connections.rows.map ConnectionColumns.createdAt := by
    refine List.map_map.trans (List.map_congr_left fun a _ => ?_)
    by_cases hk : a.id = connId <;> simp [hk, hcreated]
  exact htimes ▸ h.connectionTimes

theorem times_delete {α κ : Type} {key : α → κ} (t : Table α key) (f : α → String) (q : α → Bool)
    {times : List String} (h : (t.rows.map f).Sublist times) :
    ((t.delete q).rows.map f).Sublist times :=
  (List.filter_sublist.map f).trans h

theorem Kept.deleteConnection (h : Kept py pg times times' s p) (connId : String) :
    AgreeAfter py pg times times' Eq (deleteConnection connId s) (deleteConnection connId p) := by
  have hfind := h.find_connection connId
  unfold Backend.deleteConnection
  cases hs : s.connections.find? connId with
  | none =>
    rw [hs] at hfind
    generalize p.connections.find? connId = y at hfind
    cases hfind
    exact .ok ⟨rfl, h⟩
  | some a =>
    rw [hs] at hfind
    generalize p.connections.find? connId = y at hfind
    cases hfind
    refine .ok ⟨rfl, { h with
      connections := h.connections.delete fun a b hab => by rw [hab.same.columns.1]
      setNotes := by rw [h.setNotes]
      recordNotes := by rw [h.recordNotes]
      connectionTimes := times_delete _ _ _ h.connectionTimes }⟩

theorem Kept.insertWorkspace (h : Kept py pg times times' s p) {a : WorkspaceColumns ℕ}
    {b : WorkspaceColumns Bool} (hab : TwinWorkspace a b) :
    AgreeAfter py pg times (times' ++ [a.createdAt]) Eq (insertWorkspace a s)
      (insertWorkspace b p) := by
  have hinsert := h.workspaces.insert? (fun _ _ => twinWorkspace_id) hab
  unfold Backend.insertWorkspace
  cases hs : s.workspaces.insert? a with
  | none =>
    rw [hs] at hinsert
    generalize p.workspaces.insert? b = y at hinsert
    cases hinsert
    exact .error _ _
  | some workspaces =>
    rw [hs] at hinsert
    generalize p.workspaces.insert? b = y at hinsert
    cases hinsert with
    | some hmatches =>
      refine .ok ⟨rfl, { h with workspaces := hmatches, workspaceTimes := ?_ }⟩
      rw [(Table.insert?_eq_some.1 hs).2, List.map_append, List.map_singleton]
      exact h.workspaceTimes.append (.refl _)

theorem Kept.updateWorkspace (h : Kept py pg times times' s p) {workspaceId : String}
    {f : WorkspaceColumns ℕ → WorkspaceColumns ℕ} {g : WorkspaceColumns Bool → WorkspaceColumns Bool}
    (hf : ∀ a, (f a).id = a.id) (hg : ∀ b, (g b).id = b.id)
    (hfg : ∀ a b, TwinWorkspace a b → TwinWorkspace (f a) (g b))
    (hcreated : ∀ a, (f a).createdAt = a.createdAt) :
    AgreeAfter py pg times times' Eq (updateWorkspace workspaceId f hf s)
      (updateWorkspace workspaceId g hg p) := by
  refine .ok ⟨rfl, { h with
    workspaces := h.workspaces.update hf hg (fun _ _ => twinWorkspace_id) fun a b hab _ => hfg a b hab
    workspaceTimes := ?_ }⟩
  have htimes : (s.workspaces.update workspaceId f hf).rows.map WorkspaceColumns.createdAt =
      s.workspaces.rows.map WorkspaceColumns.createdAt := by
    refine List.map_map.trans (List.map_congr_left fun a _ => ?_)
    by_cases hk : a.id = workspaceId <;> simp [hk, hcreated]
  exact htimes ▸ h.workspaceTimes

theorem Kept.deleteWorkspace (h : Kept py pg times times' s p) (workspaceId : String) :
    AgreeAfter py pg times times' Eq (deleteWorkspace workspaceId (· = 0) s)
      (deleteWorkspace workspaceId (· = false) p) := by
  have hfind : Option.Rel TwinWorkspace
      ((s.workspaces.find? workspaceId).filter fun row => row.isDefault = 0)
      ((p.workspaces.find? workspaceId).filter fun row => row.isDefault = false) := by
    have hrel := h.find_workspace workspaceId
    generalize s.workspaces.find? workspaceId = x at hrel ⊢
    generalize p.workspaces.find? workspaceId = y at hrel ⊢
    cases hrel with
    | none => exact .none
    | some hab =>
      rename_i a b
      have hflag : a.isDefault = 0 ↔ b.isDefault = false := by
        rw [hab.stored]
        cases hb : b.isDefault <;> simp [WorkspaceColumns.stored, hb]
      cases hb : b.isDefault with
      | true => simp [Option.filter, hflag, hb]
      | false => simpa [Option.filter, hflag, hb] using Option.Rel.some hab
  unfold Backend.deleteWorkspace
  cases hs : (s.workspaces.find? workspaceId).filter fun row => row.isDefault = 0 with
  | none =>
    rw [hs] at hfind
    generalize (p.workspaces.find? workspaceId).filter _ = y at hfind
    cases hfind
    exact .ok ⟨rfl, h⟩
  | some a =>
    rw [hs] at hfind
    generalize (p.workspaces.find? workspaceId).filter _ = y at hfind
    cases hfind
    refine .ok ⟨rfl, { h with
      workspaces := h.workspaces.delete fun a b hab => by rw [twinWorkspace_id hab]
      guides := by rw [h.guides]
      workspaceTimes := times_delete _ _ _ h.workspaceTimes }⟩

/-- Both engines find the row that a foreign key asks for, or neither. -/
theorem agrees_referenced {α β : Type} {R : α → β → Prop} {x : Option α} {y : Option β}
    (h : Option.Rel R x y) : Agrees Eq (referenced x) (referenced y) := by
  cases h with
  | none => exact .error _ _
  | some _ => exact .ok rfl

theorem Kept.upsertSetNote (h : Kept py pg times times' s p) {row : SetNote}
    {f : SetNote → SetNote} {hf : ∀ n, (f n).key = n.key} :
    AgreeAfter py pg times times' Eq (upsertSetNote row f hf s) (upsertSetNote row f hf p) := by
  refine Agrees.bind (agrees_referenced (h.find_connection row.connectionId)) fun _ _ _ => ?_
  rw [h.setNotes]
  exact .ok ⟨rfl, { h with setNotes := rfl }⟩

theorem Kept.deleteSetNotes (h : Kept py pg times times' s p) (q : SetNote → Bool) :
    AgreeAfter py pg times times' Eq (deleteSetNotes q s) (deleteSetNotes q p) :=
  .ok ⟨by rw [h.setNotes], { h with setNotes := by rw [h.setNotes] }⟩

theorem Kept.upsertRecordNote (h : Kept py pg times times' s p) {row : RecordNote}
    {f : RecordNote → RecordNote} {hf : ∀ n, (f n).key = n.key} :
    AgreeAfter py pg times times' Eq (upsertRecordNote row f hf s)
      (upsertRecordNote row f hf p) := by
  refine Agrees.bind (agrees_referenced (h.find_connection row.connectionId)) fun _ _ _ => ?_
  rw [h.recordNotes]
  exact .ok ⟨rfl, { h with recordNotes := rfl }⟩

theorem Kept.deleteRecordNotes (h : Kept py pg times times' s p) (q : RecordNote → Bool) :
    AgreeAfter py pg times times' Eq (deleteRecordNotes q s) (deleteRecordNotes q p) :=
  .ok ⟨by rw [h.recordNotes], { h with recordNotes := by rw [h.recordNotes] }⟩

theorem Kept.upsertGuide (h : Kept py pg times times' s p) {row : Guide} {f : Guide → Guide}
    {hf : ∀ g, (f g).key = g.key} :
    AgreeAfter py pg times times' Eq (upsertGuide row f hf s) (upsertGuide row f hf p) := by
  refine Agrees.bind (agrees_referenced (h.find_workspace row.workspaceId)) fun _ _ _ => ?_
  rw [h.guides]
  exact .ok ⟨rfl, { h with guides := rfl }⟩

theorem Kept.deleteGuides (h : Kept py pg times times' s p) (q : Guide → Bool) :
    AgreeAfter py pg times times' Eq (deleteGuides q s) (deleteGuides q p) :=
  .ok ⟨by rw [h.guides], { h with guides := by rw [h.guides] }⟩

end Statements

end ClusterManager.Db.Backend
