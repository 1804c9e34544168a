import ClusterManager.Lib.Machine
import ClusterManager.Lib.Table
import ClusterManager.Records.Pk

/-!
# Writing and deleting single records

The calls of `records_service` on one record, over a store whose records the server changes as the
driver's policies say. Only reads of type `auto` look under a second key.

`deletes_effective_iff` says along which runs of calls no read finds what a delete was asked to
remove: those that put no record under the text of an integer as a string. `put_then_get` is what
a write leaves to be read.
-/

namespace ClusterManager.Records

open Machine Numerals

/-! ### The server -/

/-- A record: what the server keeps about it, and its bins. -/
structure Stored (μ β : Type) where
  info : μ
  bins : Dict Str β

/-- The bins of a write. A bin of value `None` is removed. -/
abbrev Bins (β : Type) : Type := Dict Str (Option β)

variable {μ β R : Type}

/-- One bin of a write. -/
def writeBin (bins : Dict Str β) (bin : Str × Option β) : Dict Str β :=
  match bin.2 with
  | some value => Dict.set bins bin.1 value
  | none => Dict.erase bins bin.1

/-- Bins as they are after a write: those it does not name stay. -/
def writeBins (bins : Dict Str β) (written : Bins β) : Dict Str β := written.foldl writeBin bins

/-- The driver does not take an integer that is too wide as a key. -/
def keyError : PrimaryKey → Option DriverError
  | .int n => if InInt64 n then none else some (.integerTooWide n)
  | _ => none

/-- Another record under a key, or none. -/
def Store.alter (store : Store R) (ns set : Str) (key : PrimaryKey) (r : Option R) : Store R where
  find ns' set' key' :=
    if ns' = ns ∧ set' = set ∧ key' = key then if keyError key = none then r else none
    else store.find ns' set' key'
  narrow ns' set' n hn := by
    split
    next h =>
      obtain ⟨-, -, rfl⟩ := h
      rw [if_neg]
      simp [keyError, hn]
    next => exact store.narrow ns' set' n hn

/-- The `exists` of a write policy. -/
inductive ExistsPolicy
  | update
  | createOnly
  | updateOnly
  deriving DecidableEq

/-- What a write raises. -/
inductive WriteError
  | driver (e : DriverError)
  | recordExists

/-- What the server keeps about a record that is written, from what it kept before and the ttl of
the write. -/
abbrev Touch (μ : Type) : Type := Option μ → Option ℤ → μ

/-- The record after a write. One without bins is gone. -/
def written (touch : Touch μ) (old : Option (Stored μ β)) (bins : Dict Str β) (ttl : Option ℤ) :
    Option (Stored μ β) :=
  if bins.isEmpty then none else some ⟨touch (old.map (·.info)) ttl, bins⟩

variable (touch : Touch μ)

/-- `client.put(key, bins, meta, policy)`. -/
def clientPut (store : Store (Stored μ β)) (ns set : Str) (key : PrimaryKey) (bins : Bins β)
    (ttl : Option ℤ) (policy : ExistsPolicy) : Except WriteError (Store (Stored μ β)) :=
  match keyError key with
  | some e => .error (.driver e)
  | none =>
      match store.find ns set key, policy with
      | some _, .createOnly => .error .recordExists
      | none, .updateOnly => .error (.driver .recordNotFound)
      | old, _ =>
          .ok (store.alter ns set key
            (written touch old (writeBins ((old.map (·.bins)).getD []) bins) ttl))

/-- `client.remove(key)`. -/
def clientRemove (store : Store (Stored μ β)) (ns set : Str) (key : PrimaryKey) :
    Except DriverError (Store (Stored μ β)) :=
  (clientGet store ns set key).map fun _ => store.alter ns set key none

/-- `client.remove_bin(key, [name])`. -/
def clientRemoveBin (store : Store (Stored μ β)) (ns set : Str) (key : PrimaryKey) (name : Str) :
    Except DriverError (Store (Stored μ β)) :=
  (clientGet store ns set key).map fun r =>
    store.alter ns set key (written touch (some r) (Dict.erase r.bins name) none)

/-! ### The service -/

/-- What the calls raise. -/
inductive CrudError
  | primaryKeyMissing (field : String)
  | noBins
  | value (e : PkError)
  | driver (e : DriverError)
  | recordExists

/-- The store after a call, and its answer. -/
abbrev Outcome (μ β α : Type) : Type := Store (Stored μ β) × Except CrudError α

/-- An error of a write. -/
def WriteError.crud : WriteError → CrudError
  | .driver e => .driver e
  | .recordExists => .recordExists

/-- A call on the key that the text is resolved to. -/
def resolved {α : Type} (store : Store (Stored μ β)) (pk : Str) (pkType : PkType)
    (call : PrimaryKey → Outcome μ β α) : Outcome μ β α :=
  match resolvePk pk pkType with
  | .error e => (store, .error (.value e))
  | .ok key => call key

/-- The store a call of the driver leaves. One that raises changes nothing. -/
def settled {ε : Type} (store : Store (Stored μ β)) (wrap : ε → CrudError) :
    Except ε (Store (Stored μ β)) → Outcome μ β Unit
  | .ok store' => (store', .ok ())
  | .error e => (store, .error (wrap e))

/-- `put_record`. -/
def putRecord (store : Store (Stored μ β)) (ns set pk : Str) (pkType : PkType) (bins : Bins β)
    (ttl : Option ℤ) : Outcome μ β (Stored μ β) :=
  if ns = [] then (store, .error (.primaryKeyMissing "namespace"))
  else if set = [] then (store, .error (.primaryKeyMissing "set"))
  else if pk = [] then (store, .error (.primaryKeyMissing "pk"))
  else if bins.isEmpty then (store, .error .noBins)
  else resolved store pk pkType fun key =>
    match clientPut touch store ns set key bins ttl .update with
    | .error e => (store, .error e.crud)
    | .ok store' => (store', (clientGet store' ns set key).mapError .driver)

/-- `create_record`. -/
def createRecord (store : Store (Stored μ β)) (ns set pk : Str) (bins : Bins β)
    (pkType : PkType) : Outcome μ β Unit :=
  resolved store pk pkType fun key =>
    settled store WriteError.crud (clientPut touch store ns set key bins none .createOnly)

/-- `update_record`. -/
def updateRecord (store : Store (Stored μ β)) (ns set pk : Str) (bins : Bins β)
    (pkType : PkType) : Outcome μ β Unit :=
  resolved store pk pkType fun key =>
    settled store WriteError.crud (clientPut touch store ns set key bins none .updateOnly)

/-- `delete_record`. -/
def deleteRecord (store : Store (Stored μ β)) (ns set pk : Str) (pkType : PkType) :
    Outcome μ β Unit :=
  resolved store pk pkType fun key => settled store .driver (clientRemove store ns set key)

/-- `delete_bin`. -/
def deleteBin (store : Store (Stored μ β)) (ns set pk name : Str) (pkType : PkType) :
    Outcome μ β Unit :=
  resolved store pk pkType fun key =>
    settled store .driver (clientRemoveBin touch store ns set key name)

/-- The route answers 204: the record was deleted, or there was none. -/
def isNoContent : Except CrudError Unit → Bool
  | .ok () => true
  | .error (.driver .recordNotFound) => true
  | .error _ => false

/-- A call that may write. -/
inductive Call (β : Type)
  | put (ns set pk : Str) (pkType : PkType) (bins : Bins β) (ttl : Option ℤ)
  | create (ns set pk : Str) (bins : Bins β) (pkType : PkType)
  | update (ns set pk : Str) (bins : Bins β) (pkType : PkType)
  | delete (ns set pk : Str) (pkType : PkType)
  | deleteBin (ns set pk name : Str) (pkType : PkType)

/-- The store after a call. -/
def after (store : Store (Stored μ β)) : Call β → Store (Stored μ β)
  | .put ns set pk pkType bins ttl => (putRecord touch store ns set pk pkType bins ttl).1
  | .create ns set pk bins pkType => (createRecord touch store ns set pk bins pkType).1
  | .update ns set pk bins pkType => (updateRecord touch store ns set pk bins pkType).1
  | .delete ns set pk pkType => (deleteRecord store ns set pk pkType).1
  | .deleteBin ns set pk name pkType => (Records.deleteBin touch store ns set pk name pkType).1

/-- The calls as a machine. -/
def callStep (store : Store (Stored μ β)) (call : Call β) : Option (Store (Stored μ β)) :=
  some (after touch store call)

/-! ### What has to hold -/

/-- The text of an integer that can be a key. -/
def IsInt64Text (pk : Str) : Prop := ∃ n, intText n = pk ∧ InInt64 n

theorem intText_ne_nil (n : ℤ) : intText n ≠ [] := by
  unfold intText
  split
  · exact List.cons_ne_nil _ _
  · exact Nat.toDigits_ne_nil

/-- No record lies under the text of an integer as a string. -/
def NoTwin (store : Store (Stored μ β)) : Prop :=
  ∀ ns set pk, IsInt64Text pk → store.find ns set (.string pk) = none

/-- The call puts a record under the text of an integer as a string. -/
def Call.MakesTwin : Call β → Prop
  | .put ns set pk pkType bins _ => pkType = .string ∧ IsInt64Text pk ∧ ns ≠ [] ∧ set ≠ [] ∧
      writeBins [] bins ≠ []
  | .create _ _ pk bins pkType => pkType = .string ∧ IsInt64Text pk ∧ writeBins [] bins ≠ []
  | _ => False

/-- No delete that was answered leaves anything for a read of the same arguments. -/
def DeletesEffective (store : Store (Stored μ β)) : Prop :=
  ∀ ns set pk pkType, isNoContent (deleteRecord store ns set pk pkType).2 →
    getRecord (deleteRecord store ns set pk pkType).1 ns set pk pkType =
      .error (.driver .recordNotFound)

/-! ### The store -/

variable {touch} {store store' : Store (Stored μ β)} {ns set pk : Str} {pkType : PkType}
  {key : PrimaryKey}

theorem find_alter_self {r : Option (Stored μ β)} (h : keyError key = none) :
    (store.alter ns set key r).find ns set key = r := by
  simp [Store.alter, h]

theorem find_alter_of_ne {r : Option (Stored μ β)} {ns' set' : Str} {key' : PrimaryKey}
    (h : key' ≠ key) :
    (store.alter ns set key r).find ns' set' key' = store.find ns' set' key' := by
  simp [Store.alter, h]

theorem inInt64_of_keyError {n : ℤ} (h : keyError (.int n) = none) : InInt64 n := by
  by_contra hwide
  simp [keyError, hwide] at h

/-- A record under a key that the driver takes. -/
theorem clientGet_some {r : Stored μ β} (h : keyError key = none)
    (hfind : store.find ns set key = some r) : clientGet store ns set key = .ok r := by
  cases key with
  | int n => rw [clientGet_int store ns set (inInt64_of_keyError h), hfind]
  | string text => rw [clientGet_string, hfind]
  | bytes data => simp [clientGet, hfind]

theorem clientGet_none (h : keyError key = none) (hfind : store.find ns set key = none) :
    clientGet store ns set key = .error .recordNotFound := by
  cases key with
  | int n => rw [clientGet_int store ns set (inInt64_of_keyError h), hfind]
  | string text => rw [clientGet_string, hfind]
  | bytes data => simp [clientGet, hfind]

theorem eq_tooWide_of_keyError {e : DriverError} (h : keyError key = some e) :
    ∃ n, e = .integerTooWide n := by
  cases key with
  | int n =>
    simp only [keyError] at h
    split at h
    · cases h
    · exact ⟨n, (Option.some.inj h).symm⟩
  | _ => cases h

/-- A key that the driver does not take. -/
theorem clientGet_of_keyError {e : DriverError} (h : keyError key = some e) :
    clientGet store ns set key = .error e := by
  cases key with
  | int n =>
    simp only [keyError] at h
    split at h
    · cases h
    next hwide =>
      cases h
      simp [clientGet, hwide]
  | _ => cases h

/-- An integer that `auto` finds in a text is the integer the text writes. -/
theorem intText_of_resolvePk {n : ℤ} (h : resolvePk pk .auto = .ok (.int n)) : intText n = pk := by
  rcases resolvePk_auto_cases pk with ⟨m, htext, -, hresolve⟩ | ⟨-, hresolve⟩
  · rw [hresolve] at h
    cases h
    exact htext
  · rw [hresolve] at h
    cases h

/-- The text of an integer of 64 bits is that integer to `auto`. -/
theorem resolvePk_of_isInt64Text (h : IsInt64Text pk) : ∃ n, intText n = pk ∧ InInt64 n ∧
    resolvePk pk .auto = .ok (.int n) := by
  obtain ⟨n, htext, hn⟩ := h
  have hdigits := hn.length_le
  exact ⟨n, htext, hn, resolvePk_auto_int htext (by simp only [maxStrDigits]; omega)⟩

/-- A read finds nothing where nothing lies under its key, and for a read of type `auto` nothing
under the text either. -/
theorem getRecord_missing (hresolve : resolvePk pk pkType = .ok key) (hkey : keyError key = none)
    (hfind : store.find ns set key = none)
    (htwin : pkType = .auto → IsInt64Text pk → store.find ns set (.string pk) = none) :
    getRecord store ns set pk pkType = .error (.driver .recordNotFound) := by
  have hget := clientGet_none hkey hfind
  have hfallback : getWithPkFallback store ns set key pk pkType = .error .recordNotFound := by
    simp only [getWithPkFallback, hget]
    split
    · rfl
    next hauto =>
      have hauto : pkType = .auto := not_not.1 hauto
      subst hauto
      cases key with
      | int n =>
        have htext : IsInt64Text pk := ⟨n, intText_of_resolvePk hresolve, inInt64_of_keyError hkey⟩
        exact clientGet_none rfl (htwin rfl htext)
      | string text => rfl
      | bytes data => rfl
  rw [getRecord, hresolve]
  dsimp only
  rw [hfallback]
  rfl

/-! ### Deletes -/

/-- A delete that was answered: nothing is under its key any more, and nothing else changed. -/
theorem deleteRecord_answered (h : isNoContent (deleteRecord store ns set pk pkType).2) :
    ∃ key, resolvePk pk pkType = .ok key ∧ keyError key = none ∧
      (deleteRecord store ns set pk pkType).1.find ns set key = none ∧
      ∀ ns' set' key', key' ≠ key →
        (deleteRecord store ns set pk pkType).1.find ns' set' key' = store.find ns' set' key' := by
  unfold deleteRecord resolved at h ⊢
  split at h
  · cases h
  next key hresolve =>
    cases hkey : keyError key with
    | some e =>
      obtain ⟨n, rfl⟩ := eq_tooWide_of_keyError hkey
      simp only [clientRemove, clientGet_of_keyError hkey] at h
      cases h
    | none =>
      refine ⟨key, hresolve, hkey, ?_⟩
      cases hfind : store.find ns set key with
      | none =>
        simp only [clientRemove, clientGet_none hkey hfind]
        exact ⟨hfind, fun _ _ _ _ => rfl⟩
      | some r =>
        simp only [clientRemove, clientGet_some hkey hfind]
        exact ⟨find_alter_self hkey, fun _ _ _ hne => find_alter_of_ne hne⟩

/-- Deletes are effective exactly where there are no twins. -/
theorem deletesEffective_iff : DeletesEffective store ↔ NoTwin store := by
  constructor
  · intro heffective ns set pk hpk
    obtain ⟨n, htext, hn, hresolve⟩ := resolvePk_of_isInt64Text hpk
    have hkey : keyError (.int n) = none := by simp [keyError, hn]
    -- A delete of type `auto` is answered whether there is a record or not.
    have hanswered : isNoContent (deleteRecord store ns set pk .auto).2 := by
      unfold deleteRecord resolved
      rw [hresolve]
      cases hfind : store.find ns set (.int n) with
      | none =>
        simp only [clientRemove, clientGet_none hkey hfind]
        rfl
      | some r =>
        simp only [clientRemove, clientGet_some hkey hfind]
        rfl
    obtain ⟨key, hresolve', -, hgone, hframe⟩ := deleteRecord_answered hanswered
    rw [hresolve] at hresolve'
    cases hresolve'
    have hmissing := heffective ns set pk .auto hanswered
    have hlookup := (getRecord_auto_iff (deleteRecord store ns set pk .auto).1 ns set pk).2 (by
      rintro ⟨m, hm, hwide, -⟩
      rw [intText_injective (hm.trans htext.symm)] at hwide
      exact hwide hn)
    rw [← hframe ns set (.string pk) nofun]
    cases hfind : (deleteRecord store ns set pk .auto).1.find ns set (.string pk) with
    | none => rfl
    | some r =>
      have hfound := hlookup.string r (fun m hm => ?_) hfind
      · rw [hmissing] at hfound
        cases hfound
      · rw [intText_injective (hm.trans htext.symm)]
        exact hgone
  · intro htwin ns set pk pkType hanswered
    obtain ⟨key, hresolve, hkey, hgone, hframe⟩ := deleteRecord_answered hanswered
    refine getRecord_missing hresolve hkey hgone fun _ hpk => ?_
    by_cases hsame : PrimaryKey.string pk = key
    · rw [hsame]
      exact hgone
    · rw [hframe ns set _ hsame]
      exact htwin ns set pk hpk

/-! ### Writes -/

/-- A call changes what lies under one key at most, and only if the driver takes the key. -/
theorem resolved_frame {α : Type} {call : PrimaryKey → Outcome μ β α}
    {P : Store (Stored μ β) → Prop}
    (hsame : P store) (hcall : ∀ key, resolvePk pk pkType = .ok key → P (call key).1) :
    P (resolved store pk pkType call).1 := by
  unfold resolved
  split
  · exact hsame
  next key hresolve => exact hcall key hresolve

theorem settled_cases {ε : Type} {wrap : ε → CrudError} {result : Except ε (Store (Stored μ β))}
    {P : Store (Stored μ β) → Prop} (hsame : P store) (hok : ∀ s, result = .ok s → P s) :
    P (settled store wrap result).1 := by
  cases hresult : result with
  | error e => exact hsame
  | ok s => exact hok s hresult

/-- A write that the driver accepts. -/
theorem clientPut_ok {bins : Bins β} {ttl : Option ℤ} {policy : ExistsPolicy}
    (h : clientPut touch store ns set key bins ttl policy = .ok store') :
    keyError key = none ∧ (policy = .createOnly → store.find ns set key = none) ∧
      (policy = .updateOnly → store.find ns set key ≠ none) ∧
      store' = store.alter ns set key (written touch (store.find ns set key)
        (writeBins (((store.find ns set key).map (·.bins)).getD []) bins) ttl) := by
  unfold clientPut at h
  split at h
  · cases h
  next hkey =>
    refine ⟨hkey, ?_⟩
    cases hfind : store.find ns set key with
    | none =>
      cases policy with
      | updateOnly =>
        rw [hfind] at h
        cases h
      | _ =>
        rw [hfind] at h
        cases h
        exact ⟨fun _ => rfl, nofun, rfl⟩
    | some r =>
      cases policy with
      | createOnly =>
        rw [hfind] at h
        cases h
      | _ =>
        rw [hfind] at h
        cases h
        exact ⟨nofun, fun _ => nofun, rfl⟩

/-! ### Twins -/

/-- The text of an integer is a key of type string only where the request says so. -/
theorem string_of_resolvePk {t : Str} (h : resolvePk pk pkType = .ok (.string t))
    (ht : IsInt64Text t) : pkType = .string ∧ t = pk := by
  cases pkType with
  | string =>
    cases h
    exact ⟨rfl, rfl⟩
  | auto =>
    rcases resolvePk_auto_cases pk with ⟨n, -, -, hresolve⟩ | ⟨-, hresolve⟩
    · rw [hresolve] at h
      cases h
    · have hsame : t = pk := by
        rw [hresolve] at h
        cases h
        rfl
      obtain ⟨n, -, -, hint⟩ := resolvePk_of_isInt64Text (hsame ▸ ht)
      rw [hint] at h
      cases h
  | int =>
    simp only [resolvePk] at h
    split at h <;> cases h
  | bytes =>
    simp only [resolvePk] at h
    split at h <;> cases h

/-- A record under one key makes a twin only under the text of an integer. -/
theorem noTwin_alter {r : Option (Stored μ β)} (h : NoTwin store)
    (hr : ∀ t, key = .string t → IsInt64Text t → r = none) : NoTwin (store.alter ns set key r) := by
  intro ns' set' t ht
  by_cases hkey : PrimaryKey.string t = key
  · have hnone := hr t hkey.symm ht
    show (if _ then if _ then r else none else store.find ns' set' (.string t)) = none
    rw [hnone, h ns' set' t ht]
    split <;> simp
  · rw [find_alter_of_ne hkey]
    exact h ns' set' t ht

/-- What a write that the driver accepts leaves under a key without a record. -/
theorem find_of_clientPut {bins : Bins β} {ttl : Option ℤ} {policy : ExistsPolicy}
    (h : clientPut touch store ns set key bins ttl policy = .ok store')
    (hnone : store.find ns set key = none) :
    store'.find ns set key = none ↔ writeBins [] bins = [] := by
  obtain ⟨hkey, -, -, rfl⟩ := clientPut_ok h
  rw [find_alter_self hkey, hnone]
  simp [written]

/-- A write keeps the store free of twins if it leaves nothing under the text of an integer. -/
theorem noTwin_clientPut {bins : Bins β} {ttl : Option ℤ} {policy : ExistsPolicy}
    (hstore : NoTwin store) (h : clientPut touch store ns set key bins ttl policy = .ok store')
    (hleaves : ∀ t, key = .string t → IsInt64Text t → policy ≠ .updateOnly →
      writeBins [] bins = []) : NoTwin store' := by
  obtain ⟨-, -, hupdate, rfl⟩ := clientPut_ok h
  refine noTwin_alter hstore fun t hkey ht => ?_
  subst hkey
  have hnone := hstore ns set t ht
  by_cases hpolicy : policy = .updateOnly
  · exact absurd hnone (hupdate hpolicy)
  · rw [hnone]
    simp [written, hleaves t rfl ht hpolicy]

/-- A write of type string goes through where there is no record yet. -/
theorem clientPut_string (touch : Touch μ) (bins : Bins β) (ttl : Option ℤ) {policy : ExistsPolicy}
    (hpolicy : policy ≠ .updateOnly) (hnone : store.find ns set (.string pk) = none) :
    ∃ s, clientPut touch store ns set (.string pk) bins ttl policy = .ok s := by
  unfold clientPut
  rw [hnone]
  cases policy with
  | updateOnly => exact absurd rfl hpolicy
  | update => exact ⟨_, rfl⟩
  | createOnly => exact ⟨_, rfl⟩

theorem noTwin_put {bins : Bins β} {ttl : Option ℤ} (hstore : NoTwin store) :
    NoTwin (putRecord touch store ns set pk pkType bins ttl).1 ↔
      ¬(Call.put ns set pk pkType bins ttl).MakesTwin := by
  constructor
  · rintro htwin ⟨rfl, hpk, hns, hset, hleaves⟩
    obtain ⟨n, htext, -⟩ := id hpk
    have hpkNil : pk ≠ [] := by
      rintro rfl
      exact intText_ne_nil n htext
    have hbins : bins.isEmpty = false := by
      cases bins with
      | nil => exact absurd rfl hleaves
      | cons bin bins => rfl
    have hnone := hstore ns set pk hpk
    obtain ⟨s, hput⟩ :=
      clientPut_string touch bins ttl (show ExistsPolicy.update ≠ _ from nofun) hnone
    have hs : (putRecord touch store ns set pk .string bins ttl).1 = s := by
      simp only [putRecord, hns, hset, hpkNil, hbins, resolved, resolvePk, hput, if_false,
        Bool.false_eq_true]
    rw [hs] at htwin
    exact hleaves ((find_of_clientPut hput hnone).1 (htwin ns set pk hpk))
  · intro hmakes
    unfold putRecord
    split
    · exact hstore
    next hns =>
      split
      · exact hstore
      next hset =>
        split
        · exact hstore
        · split
          · exact hstore
          · refine resolved_frame hstore fun key hresolve => ?_
            cases hput : clientPut touch store ns set key bins ttl .update with
            | error e => exact hstore
            | ok s =>
              refine noTwin_clientPut hstore hput fun t hkey ht _ => ?_
              subst hkey
              obtain ⟨htype, rfl⟩ := string_of_resolvePk hresolve ht
              by_contra hleaves
              exact hmakes ⟨htype, ht, hns, hset, hleaves⟩

theorem noTwin_create {bins : Bins β} (hstore : NoTwin store) :
    NoTwin (createRecord touch store ns set pk bins pkType).1 ↔
      ¬(Call.create ns set pk bins pkType).MakesTwin := by
  constructor
  · rintro htwin ⟨rfl, hpk, hleaves⟩
    have hnone := hstore ns set pk hpk
    obtain ⟨s, hput⟩ :=
      clientPut_string touch bins none (show ExistsPolicy.createOnly ≠ _ from nofun)
      hnone
    have hs : (createRecord touch store ns set pk bins .string).1 = s := by
      simp only [createRecord, resolved, resolvePk, hput, settled]
    rw [hs] at htwin
    exact hleaves ((find_of_clientPut hput hnone).1 (htwin ns set pk hpk))
  · intro hmakes
    refine resolved_frame hstore fun key hresolve => ?_
    refine settled_cases hstore fun s hput => ?_
    refine noTwin_clientPut hstore hput fun t hkey ht _ => ?_
    subst hkey
    obtain ⟨htype, rfl⟩ := string_of_resolvePk hresolve ht
    by_contra hleaves
    exact hmakes ⟨htype, ht, hleaves⟩

/-- Only a record put under the text of an integer as a string makes a twin. -/
theorem noTwin_after (call : Call β) (hstore : NoTwin store) :
    NoTwin (after touch store call) ↔ ¬call.MakesTwin := by
  cases call with
  | put ns set pk pkType bins ttl => exact noTwin_put hstore
  | create ns set pk bins pkType => exact noTwin_create hstore
  | update ns set pk bins pkType =>
    refine iff_of_true ?_ id
    refine resolved_frame hstore fun key _ => settled_cases hstore fun s hput => ?_
    exact noTwin_clientPut hstore hput fun _ _ _ hpolicy => absurd rfl hpolicy
  | delete ns set pk pkType =>
    refine iff_of_true ?_ id
    refine resolved_frame hstore fun key _ => settled_cases hstore fun s hremove => ?_
    unfold clientRemove at hremove
    cases hget : clientGet store ns set key with
    | error e => rw [hget] at hremove; cases hremove
    | ok r =>
      rw [hget] at hremove
      cases hremove
      exact noTwin_alter hstore fun _ _ _ => rfl
  | deleteBin ns set pk name pkType =>
    refine iff_of_true ?_ id
    refine resolved_frame hstore fun key _ => settled_cases hstore fun s hremove => ?_
    unfold clientRemoveBin at hremove
    cases hget : clientGet store ns set key with
    | error e => rw [hget] at hremove; cases hremove
    | ok r =>
      rw [hget] at hremove
      cases hremove
      refine noTwin_alter hstore fun t hkey ht => ?_
      -- There is no record to take a bin from.
      subst hkey
      rw [clientGet_none rfl (hstore ns set t ht)] at hget
      cases hget

/-- Along a run of calls over a store without twins, every delete that was answered leaves nothing
for a read of the same arguments, exactly if no call puts a record under the text of an integer as a
string. -/
theorem deletes_effective_iff (touch : Touch μ) (store : Store (Stored μ β)) (hstore : NoTwin store)
    (calls : List (Call β)) :
    Always (callStep touch) DeletesEffective store calls ↔
      Guarded (callStep touch) (fun _ call => ¬call.MakesTwin) store calls := by
  refine always_iff_guarded (J := fun _ => True) (fun _ _ _ _ _ => trivial)
    (fun s call s' _ h hstep => ?_) trivial (deletesEffective_iff.2 hstore)
  cases hstep
  rw [deletesEffective_iff]
  exact noTwin_after call (deletesEffective_iff.1 h)

/-- A store without records. -/
def Store.empty : Store (Stored μ β) where
  find _ _ _ := none
  narrow _ _ _ _ := rfl

/-- A record is written and deleted. -/
theorem deletes_effective_empty : Always (callStep fun _ _ => ()) DeletesEffective
      (Store.empty : Store (Stored Unit ℕ))
      [.put ['n'] ['s'] ['4', '2'] .auto [(['b'], some 1)] none,
        .delete ['n'] ['s'] ['4', '2'] .auto] := by
  refine (deletes_effective_iff _ Store.empty (fun _ _ _ _ => rfl) _).2 fun _ _ => ⟨?_, ?_⟩
  · exact fun hmakes => nomatch hmakes.1
  · exact fun _ _ => ⟨id, trivial⟩

/-! ### What a write leaves to be read -/

theorem get?_writeBin {name : Str} (bins : Dict Str β) (bin : Str × Option β) :
    Dict.get? (writeBin bins bin) name = if bin.1 = name then bin.2 else Dict.get? bins name := by
  obtain ⟨name', value⟩ := bin
  by_cases hname : name' = name
  · subst hname
    cases value <;> simp [writeBin]
  · cases value <;> simp [writeBin, hname, Ne.symm hname]

/-- Each bin of a write takes its value, and the other bins stay. -/
theorem get?_writeBins {name : Str} (bins : Dict Str β) (w : Bins β)
    (hnodup : (w.map Prod.fst).Nodup) :
    Dict.get? (writeBins bins w) name = (Dict.get? w name).getD (Dict.get? bins name) := by
  induction w generalizing bins with
  | nil => rfl
  | cons bin w ih =>
    rw [List.map_cons, List.nodup_cons] at hnodup
    show Dict.get? (writeBins (writeBin bins bin) w) name = _
    rw [ih (writeBin bins bin) hnodup.2, get?_writeBin]
    obtain ⟨name', value⟩ := bin
    by_cases hname : name' = name
    · subst hname
      simp [Dict.get?, Dict.get?_eq_none hnodup.1]
    · simp [Dict.get?, hname]

/-- A write that succeeded: what it answers is what a read of the same arguments finds, each bin of
it is the written one or else the one from before, and nothing else in the store changed. -/
theorem put_then_get (touch : Touch μ) (store store' : Store (Stored μ β)) (ns set pk : Str)
    (pkType : PkType) (bins : Bins β) (ttl : Option ℤ) (r : Stored μ β)
    (hnodup : (bins.map Prod.fst).Nodup)
    (h : putRecord touch store ns set pk pkType bins ttl = (store', .ok r)) :
    ∃ key, resolvePk pk pkType = .ok key ∧ getRecord store' ns set pk pkType = .ok r ∧
      (∀ name, Dict.get? r.bins name =
        (Dict.get? bins name).getD ((store.find ns set key).bind (Dict.get? ·.bins name))) ∧
      ∀ ns' set' key', (ns', set', key') ≠ (ns, set, key) →
        store'.find ns' set' key' = store.find ns' set' key' := by
  unfold putRecord at h
  split at h
  · cases h
  split at h
  · cases h
  split at h
  · cases h
  split at h
  · cases h
  unfold resolved at h
  split at h
  · cases h
  next key hresolve =>
    cases hput : clientPut touch store ns set key bins ttl .update with
    | error e => simp [hput] at h
    | ok s =>
      simp only [hput] at h
      obtain ⟨rfl, hread⟩ := Prod.mk.inj h
      obtain ⟨hkey, -, -, hs⟩ := clientPut_ok hput
      have hget : clientGet s ns set key = .ok r := by
        cases hget : clientGet s ns set key with
        | error e => rw [hget] at hread; cases hread
        | ok r' => rw [hget] at hread; cases hread; rfl
      have hfind : s.find ns set key = some r := by
        cases hfind : s.find ns set key with
        | none => rw [clientGet_none hkey hfind] at hget; cases hget
        | some r' => rw [clientGet_some hkey hfind] at hget; cases hget; rfl
      refine ⟨key, hresolve, ?_, fun name => ?_, fun ns' set' key' hne => ?_⟩
      · rw [getRecord, hresolve]
        simp [getWithPkFallback, hget, Except.mapError]
      · rw [hs, find_alter_self hkey] at hfind
        obtain ⟨info, rbins⟩ := r
        have hbins : writeBins (((store.find ns set key).map (·.bins)).getD []) bins = rbins := by
          unfold written at hfind
          split at hfind
          · cases hfind
          · cases hfind
            rfl
        rw [← hbins, get?_writeBins _ _ hnodup]
        cases store.find ns set key <;> rfl
      · rw [hs]
        refine if_neg fun hsame => hne ?_
        obtain ⟨rfl, rfl, rfl⟩ := hsame
        rfl

end ClusterManager.Records
