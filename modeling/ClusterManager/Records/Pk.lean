import ClusterManager.Lib.Numerals

/-!
# Primary keys

`resolve_pk` turns the text of a key into the value the driver is asked for, and
`get_with_pk_fallback` reads a record under it, under the text itself where the guess of `auto`
found nothing.
-/

namespace ClusterManager.Records

open Numerals

/-- A `pk_type` of a request. -/
inductive PkType
  | auto
  | string
  | int
  | bytes
  deriving DecidableEq

/-- The value of a key, with its particle type. -/
inductive PrimaryKey
  | string (text : Str)
  | int (n : ℤ)
  | bytes (data : List UInt8)
  deriving DecidableEq

/-- The `ValueError`s of `resolve_pk`, with the text they quote. -/
inductive PkError
  | notAnInteger (pk : Str)
  | notHex (pk : Str)
  deriving DecidableEq

/-- `resolve_pk`. -/
def resolvePk (pk : Str) : PkType → Except PkError PrimaryKey
  | .string => .ok (.string pk)
  | .int =>
      match parseInt pk with
      | some n => .ok (.int n)
      | none => .error (.notAnInteger pk)
  | .bytes =>
      match parseHex pk with
      | some data => .ok (.bytes data)
      | none => .error (.notHex pk)
  | .auto =>
      match parseInt pk with
      | some asInt => if intText asInt = pk then .ok (.int asInt) else .ok (.string pk)
      | none => .ok (.string pk)

/-- A key of type `auto` is an integer where the text is as `str` writes it, and has few digits. -/
theorem resolvePk_auto_int {pk : Str} {n : ℤ} (h : intText n = pk)
    (hdigits : (Nat.toDigits 10 n.natAbs).length ≤ maxStrDigits) :
    resolvePk pk .auto = .ok (.int n) := by
  subst h
  simp [resolvePk, parseInt_intText_of_le hdigits]

/-- Every other key of type `auto` is its text. -/
theorem resolvePk_auto_string {pk : Str}
    (h : ∀ n, intText n = pk → maxStrDigits < (Nat.toDigits 10 n.natAbs).length) :
    resolvePk pk .auto = .ok (.string pk) := by
  unfold resolvePk
  dsimp only
  split
  · rename_i n hparse
    refine if_neg fun htext => ?_
    rw [← htext, parseInt_intText, if_pos (h n htext)] at hparse
    cases hparse
  · rfl

/-- The two cases of a key of type `auto`. -/
theorem resolvePk_auto_cases (pk : Str) :
    (∃ n, intText n = pk ∧ (Nat.toDigits 10 n.natAbs).length ≤ maxStrDigits ∧
      resolvePk pk .auto = .ok (.int n)) ∨
    ((∀ n, intText n = pk → maxStrDigits < (Nat.toDigits 10 n.natAbs).length) ∧
      resolvePk pk .auto = .ok (.string pk)) := by
  by_cases h : ∃ n, intText n = pk ∧ (Nat.toDigits 10 n.natAbs).length ≤ maxStrDigits
  · obtain ⟨n, htext, hdigits⟩ := h
    exact Or.inl ⟨n, htext, hdigits, resolvePk_auto_int htext hdigits⟩
  · have hlong : ∀ n, intText n = pk → maxStrDigits < (Nat.toDigits 10 n.natAbs).length :=
      fun n htext => not_le.1 fun hdigits => h ⟨n, htext, hdigits⟩
    exact Or.inr ⟨hlong, resolvePk_auto_string hlong⟩

/-! ### The store behind the driver -/

/-- The integers a key can be. -/
def InInt64 (n : ℤ) : Prop := -9223372036854775808 ≤ n ∧ n < 9223372036854775808

instance (n : ℤ) : Decidable (InInt64 n) := inferInstanceAs (Decidable (_ ∧ _))

/-- An integer of 64 bits has few digits. -/
theorem InInt64.length_le {n : ℤ} (h : InInt64 n) : (Nat.toDigits 10 n.natAbs).length ≤ 19 := by
  refine (Nat.length_toDigits_le_iff (by decide) (by decide)).2 ?_
  have := h.1
  have := h.2
  omega

/-- The records of a cluster, by namespace, set and key. No key is an integer too wide. -/
structure Store (R : Type) where
  find : Str → Str → PrimaryKey → Option R
  narrow : ∀ ns set n, ¬InInt64 n → find ns set (.int n) = none

/-- What the driver raises on a read. -/
inductive DriverError
  | recordNotFound
  | integerTooWide (n : ℤ)
  deriving DecidableEq

variable {R : Type}

/-- `client.get(key)`. -/
def clientGet (store : Store R) (ns set : Str) (key : PrimaryKey) : Except DriverError R :=
  let found : Except DriverError R := match store.find ns set key with
    | some r => .ok r
    | none => .error .recordNotFound
  match key with
  | .int n => if InInt64 n then found else .error (.integerTooWide n)
  | _ => found

/-- `get_with_pk_fallback`. -/
def getWithPkFallback (store : Store R) (ns set : Str) (key : PrimaryKey) (pkRaw : Str)
    (pkType : PkType) : Except DriverError R :=
  match clientGet store ns set key with
  | .error .recordNotFound =>
      if pkType ≠ .auto then .error .recordNotFound
      else
        match key with
        | .int _ => clientGet store ns set (.string pkRaw)
        | _ => .error .recordNotFound
  | result => result

/-- What `get_record` raises. -/
inductive GetError
  | value (e : PkError)
  | driver (e : DriverError)
  deriving DecidableEq

/-- `get_record`. -/
def getRecord (store : Store R) (ns set pk : Str) (pkType : PkType) : Except GetError R :=
  match resolvePk pk pkType with
  | .error e => .error (.value e)
  | .ok resolved => (getWithPkFallback store ns set resolved pk pkType).mapError .driver

theorem clientGet_string (store : Store R) (ns set text : Str) :
    clientGet store ns set (.string text) =
      match store.find ns set (.string text) with
      | some r => .ok r
      | none => .error .recordNotFound := rfl

theorem clientGet_int (store : Store R) (ns set : Str) {n : ℤ} (h : InInt64 n) :
    clientGet store ns set (.int n) =
      match store.find ns set (.int n) with
      | some r => .ok r
      | none => .error .recordNotFound := if_pos h

/-! ### The lookup of type `auto` -/

/-- The record under the integer the text is, else the one under the text, else none. -/
structure IsAutoLookup (store : Store R) (ns set pk : Str) (result : Except GetError R) :
    Prop where
  int : ∀ n r, intText n = pk → store.find ns set (.int n) = some r → result = .ok r
  string : ∀ r, (∀ n, intText n = pk → store.find ns set (.int n) = none) →
    store.find ns set (.string pk) = some r → result = .ok r
  missing : (∀ n, intText n = pk → store.find ns set (.int n) = none) →
    store.find ns set (.string pk) = none → result = .error (.driver .recordNotFound)

/-- The text of an integer too wide for a key, of as many digits as `int` reads. -/
def IsWideIntText (pk : Str) : Prop :=
  ∃ n, intText n = pk ∧ ¬InInt64 n ∧ (Nat.toDigits 10 n.natAbs).length ≤ maxStrDigits

/-- Where no integer of that text has a record, the text itself is looked up. -/
theorem isAutoLookup_string {store : Store R} {ns set pk : Str}
    (h : ∀ n, intText n = pk → store.find ns set (.int n) = none) :
    IsAutoLookup store ns set pk ((clientGet store ns set (.string pk)).mapError .driver) := by
  rw [clientGet_string]
  constructor
  · intro n r htext hfind
    rw [h n htext] at hfind
    cases hfind
  · intro r _ hfind
    rw [hfind]
    rfl
  · intro _ hfind
    rw [hfind]
    rfl

/-- A read of type `auto` under the integer of its text. -/
theorem getRecord_auto_int {store : Store R} {ns set pk : Str} {n : ℤ} (h : intText n = pk)
    (hdigits : (Nat.toDigits 10 n.natAbs).length ≤ maxStrDigits) :
    getRecord store ns set pk .auto =
      (getWithPkFallback store ns set (.int n) pk .auto).mapError .driver := by
  rw [getRecord, resolvePk_auto_int h hdigits]

/-- A read of type `auto` finds the record it should, unless the text is an integer too wide. -/
theorem getRecord_auto_iff (store : Store R) (ns set pk : Str) :
    IsAutoLookup store ns set pk (getRecord store ns set pk .auto) ↔ ¬IsWideIntText pk := by
  constructor
  · rintro hlookup ⟨n, htext, hwide, hdigits⟩
    have hresult : getRecord store ns set pk .auto = .error (.driver (.integerTooWide n)) := by
      simp [getRecord_auto_int htext hdigits, getWithPkFallback, clientGet, hwide,
        Except.mapError]
    have hint : ∀ m, intText m = pk → store.find ns set (.int m) = none := by
      intro m hm
      rw [intText_injective (hm.trans htext.symm)]
      exact store.narrow ns set n hwide
    rw [hresult] at hlookup
    cases hfind : store.find ns set (.string pk) with
    | some r => cases hlookup.string r hint hfind
    | none => cases hlookup.missing hint hfind
  · intro hnarrow
    rcases resolvePk_auto_cases pk with ⟨n, htext, hdigits, -⟩ | ⟨hlong, hresolve⟩
    · have hn : InInt64 n := by
        by_contra hwide
        exact hnarrow ⟨n, htext, hwide, hdigits⟩
      rw [getRecord_auto_int htext hdigits, getWithPkFallback, clientGet_int store ns set hn]
      cases hfind : store.find ns set (.int n) with
      | some r =>
        refine ⟨fun m r' hm hfind' => ?_, fun r' hnone => ?_, fun hnone => ?_⟩
        · rw [intText_injective (hm.trans htext.symm), hfind] at hfind'
          cases hfind'
          rfl
        · rw [hnone n htext] at hfind
          cases hfind
        · rw [hnone n htext] at hfind
          cases hfind
      | none =>
        refine isAutoLookup_string fun m hm => ?_
        rw [intText_injective (hm.trans htext.symm), hfind]
    · have hint : ∀ n, intText n = pk → store.find ns set (.int n) = none := by
        intro n htext
        refine store.narrow ns set n fun hn => ?_
        have hlt := hlong n htext
        have hdigits := hn.length_le
        simp only [maxStrDigits] at hlt
        omega
      have hresult : getRecord store ns set pk .auto =
          (clientGet store ns set (.string pk)).mapError .driver := by
        rw [getRecord, hresolve]
        cases hfind : store.find ns set (.string pk) with
        | some r => simp [getWithPkFallback, clientGet_string, hfind]
        | none => simp [getWithPkFallback, clientGet_string, hfind]
      rw [hresult]
      exact isAutoLookup_string hint

/-- Twenty ones. -/
def twentyOnes : Str := List.replicate 20 '1'

/-- The store with one record, under a string key of twenty digits. -/
def digitStore : Store Unit where
  find _ _ key := if key = .string twentyOnes then some () else none
  narrow _ _ _ _ := rfl

/-- A record under a string key of twenty digits is not found by a read of type `auto`. -/
theorem not_isAutoLookup_digits : ¬∀ (store : Store Unit) (ns set pk : Str),
    IsAutoLookup store ns set pk (getRecord store ns set pk .auto) := by
  intro h
  have hstring : digitStore.find [] [] (.string twentyOnes) = some () := rfl
  have hint : ∀ n, intText n = twentyOnes → digitStore.find [] [] (.int n) = none :=
    fun n _ => rfl
  have hfound := (h digitStore [] [] twentyOnes).string () hint hstring
  have hresult : getRecord digitStore [] [] twentyOnes .auto =
      .error (.driver (.integerTooWide 11111111111111111111)) := by decide
  rw [hresult] at hfound
  cases hfound

end ClusterManager.Records
