import ClusterManager.Records.Pk

/-!
# Records of the driver as records of the response

`record_to_model` writes the key of a record as a text, which is all a client has to ask for the
record again.
-/

namespace ClusterManager.Records

open Numerals

/-- The user key of a record of the driver. A record that stores only its digest has none. -/
inductive RawPk
  | none
  | bool (b : Bool)
  | key (k : PrimaryKey)
  deriving DecidableEq

/-- The metadata of a record of the driver: a tuple with attributes, a `dict`, or neither. -/
inductive RawMeta
  | attributes (gen ttl : ℤ) (lastUpdateTime lastUpdateMs : Option ℤ)
  | mapping (gen ttl lastUpdateTime lastUpdateMs : Option ℤ)
  | absent

/-- A record of the driver. A part its key tuple lacks is `none`. -/
structure Record (β : Type) where
  namespace_ : Option Str
  set : Option Str
  pk : RawPk
  digest : Option (List UInt8)
  meta_ : RawMeta
  bins : List (Str × β)

/-- A `RecordKey` of a response, with the bounds it is validated against. -/
structure RecordKey where
  namespace_ : Str
  set : Str
  pk : Str
  digest : Option Str
  namespace_length : 1 ≤ namespace_.length ∧ namespace_.length ≤ 31
  set_length : set.length ≤ 63
  pk_length : pk.length ≤ 1024

/-- A `RecordMeta` of a response. No number is negative. -/
structure RecordMeta where
  generation : ℕ
  ttl : ℕ
  lastUpdateMs : Option ℤ

/-- An `AerospikeRecord` of a response, before a note is attached to it. -/
structure AerospikeRecord (β : Type) where
  key : RecordKey
  meta_ : RecordMeta
  bins : List (Str × β)

/-- `str(pk) if pk is not None else ""`. -/
def RawPk.text : RawPk → Str
  | .none => []
  | .bool true => ['T', 'r', 'u', 'e']
  | .bool false => ['F', 'a', 'l', 's', 'e']
  | .key (.string text) => text
  | .key (.int n) => intText n
  | .key (.bytes data) => bytesRepr data

/-- The first time that is given and not zero, where it is positive. -/
def lastUpdate (lastUpdateTime lastUpdateMs : Option ℤ) : Option ℤ :=
  ((lastUpdateTime.filter (· ≠ 0)).or lastUpdateMs).filter (0 < ·)

/-- The metadata of a response. A negative number is written as zero. -/
def RawMeta.model : RawMeta → RecordMeta
  | .attributes gen ttl time ms => ⟨gen.toNat, ttl.toNat, lastUpdate time ms⟩
  | .mapping gen ttl time ms => ⟨(gen.getD 0).toNat, (ttl.getD 0).toNat, lastUpdate time ms⟩
  | .absent => ⟨0, 0, .none⟩

/-- The validation of a `RecordKey`. `none` is a `ValidationError`. -/
def validateKey (namespace_ set pk : Str) (digest : Option Str) : Option RecordKey :=
  if h : (1 ≤ namespace_.length ∧ namespace_.length ≤ 31) ∧ set.length ≤ 63 ∧ pk.length ≤ 1024 then
    some ⟨namespace_, set, pk, digest, h.1, h.2.1, h.2.2⟩
  else none

variable {β : Type}

/-- `record_to_model`. -/
def recordToModel (rec : Record β) : Option (AerospikeRecord β) :=
  (validateKey (rec.namespace_.getD []) (rec.set.getD []) rec.pk.text (rec.digest.map hexText)).map
    fun key => { key, meta_ := rec.meta_.model, bins := rec.bins }

/-- A record whose names the response accepts. -/
def Record.Named (rec : Record β) : Prop :=
  (1 ≤ (rec.namespace_.getD []).length ∧ (rec.namespace_.getD []).length ≤ 31) ∧
    (rec.set.getD []).length ≤ 63

/-- A record is converted where its names and the text of its key are short enough. -/
theorem recordToModel_isSome {rec : Record β} :
    (recordToModel rec).isSome ↔ rec.Named ∧ rec.pk.text.length ≤ 1024 := by
  simp [recordToModel, validateKey, Record.Named, and_assoc]

/-- The key of a response is the text of the key of the record. -/
theorem recordToModel_pk {rec : Record β} {model : AerospikeRecord β}
    (h : recordToModel rec = some model) : model.key.pk = rec.pk.text := by
  simp only [recordToModel, validateKey, Option.map_eq_some_iff] at h
  obtain ⟨key, hkey, rfl⟩ := h
  split at hkey
  · cases hkey
    rfl
  · cases hkey

/-- The types of keys. -/
def PrimaryKey.pkType : PrimaryKey → PkType
  | .string _ => .string
  | .int _ => .int
  | .bytes _ => .bytes

/-- A key the driver can store. -/
def PrimaryKey.Storable : PrimaryKey → Prop
  | .int n => InInt64 n
  | _ => True

/-- The text of a byte string is read as no byte string. -/
theorem resolvePk_bytesRepr (data : List UInt8) (t : PkType) (data' : List UInt8) :
    resolvePk (bytesRepr data) t ≠ .ok (.bytes data') := by
  cases t with
  | string => simp [resolvePk]
  | int =>
    unfold resolvePk
    dsimp only
    split <;> simp
  | bytes => simp [resolvePk, parseHex_bytesRepr]
  | auto =>
    unfold resolvePk
    dsimp only
    split
    · split <;> simp
    · simp

/-- A client can ask for the record a response lists. -/
def RoundTrips (rec : Record β) (k : PrimaryKey) : Prop :=
  ∃ model, recordToModel rec = some model ∧ ∃ t, resolvePk model.key.pk t = .ok k

/-- The records whose key is read back: no byte string, no long string, no name out of bounds. -/
def IsListable (rec : Record β) (k : PrimaryKey) : Prop :=
  rec.Named ∧
    match k with
    | .string text => text.length ≤ 1024
    | .int _ => True
    | .bytes _ => False

/-- Every key but a byte string is read back from its text. -/
theorem exists_resolvePk {k : PrimaryKey} (hstore : k.Storable) :
    (∃ t, resolvePk (RawPk.key k).text t = .ok k) ↔ k.pkType ≠ .bytes := by
  cases k with
  | string text => exact iff_of_true ⟨.string, rfl⟩ (by simp [PrimaryKey.pkType])
  | int n =>
    have hdigits : (Nat.toDigits 10 n.natAbs).length ≤ maxStrDigits :=
      (InInt64.length_le hstore).trans (by decide)
    exact iff_of_true ⟨.int, by simp [resolvePk, RawPk.text, parseInt_intText_of_le hdigits]⟩
      (by simp [PrimaryKey.pkType])
  | bytes data =>
    refine iff_of_false ?_ (by simp [PrimaryKey.pkType])
    rintro ⟨t, ht⟩
    exact resolvePk_bytesRepr data t data ht

/-- The text of an integer of 64 bits is short. -/
theorem length_intText_le {n : ℤ} (h : InInt64 n) : (intText n).length ≤ 20 := by
  have := h.length_le
  unfold intText
  split
  · rw [List.length_cons]
    omega
  · omega

/-- A record can be asked for again exactly where its key is listable. -/
theorem roundTrips_iff {rec : Record β} {k : PrimaryKey} (hstore : k.Storable)
    (hkey : rec.pk = .key k) : RoundTrips rec k ↔ IsListable rec k := by
  have hsome := @recordToModel_isSome _ rec
  rw [hkey] at hsome
  have hiff : RoundTrips rec k ↔
      (rec.Named ∧ (RawPk.key k).text.length ≤ 1024) ∧ k.pkType ≠ .bytes := by
    rw [← hsome, ← exists_resolvePk hstore, Option.isSome_iff_exists]
    constructor
    · rintro ⟨model, hmodel, t, ht⟩
      rw [recordToModel_pk hmodel, hkey] at ht
      exact ⟨⟨model, hmodel⟩, t, ht⟩
    · rintro ⟨⟨model, hmodel⟩, t, ht⟩
      rw [← hkey, ← recordToModel_pk hmodel] at ht
      exact ⟨model, hmodel, t, ht⟩
  rw [hiff]
  cases k with
  | string text => simp [IsListable, RawPk.text, PrimaryKey.pkType]
  | int n =>
    have : (intText n).length ≤ 1024 := (length_intText_le hstore).trans (by decide)
    simp [IsListable, RawPk.text, PrimaryKey.pkType, this]
  | bytes data => simp [IsListable, PrimaryKey.pkType]

/-- Keys of one type have distinct texts. -/
theorem text_injective {k k' : PrimaryKey} (htype : k.pkType = k'.pkType)
    (htext : (RawPk.key k).text = (RawPk.key k').text) : k = k' := by
  cases k <;> cases k' <;> cases htype
  · exact congrArg _ htext
  · exact congrArg _ (intText_injective htext)
  · exact congrArg _ (bytesRepr_injective htext)

/-- What the response says of the key of a record: which records can be asked for again, and that
keys of one type are told apart. -/
theorem record_key_round_trip :
    (∀ (rec : Record β) (k : PrimaryKey), k.Storable → rec.pk = .key k →
      (RoundTrips rec k ↔ IsListable rec k)) ∧
    (∀ (rec rec' : Record β) (k k' : PrimaryKey) (model model' : AerospikeRecord β),
      rec.pk = .key k → rec'.pk = .key k' →
      recordToModel rec = some model → recordToModel rec' = some model' →
      k.pkType = k'.pkType → k ≠ k' → model.key.pk ≠ model'.key.pk) := by
  refine ⟨fun rec k hstore hkey => roundTrips_iff hstore hkey, ?_⟩
  intro rec rec' k k' model model' hk hk' hmodel hmodel' htype hne htext
  rw [recordToModel_pk hmodel, recordToModel_pk hmodel', hk, hk'] at htext
  exact hne (text_injective htype htext)

/-- A record of the set `test.demo`. -/
def demoRecord (k : PrimaryKey) : Record Unit where
  namespace_ := some ['t', 'e', 's', 't']
  set := some ['d', 'e', 'm', 'o']
  pk := .key k
  digest := none
  meta_ := .absent
  bins := []

theorem demoRecord_named (k : PrimaryKey) : (demoRecord k).Named := by
  simp [Record.Named, demoRecord]

/-- The records `42` and `-7` can be asked for again, and their texts differ. -/
theorem record_key_round_trip_demo :
    RoundTrips (demoRecord (.int 42)) (.int 42) ∧
      ∀ model model', recordToModel (demoRecord (.int 42)) = some model →
        recordToModel (demoRecord (.int (-7))) = some model' → model.key.pk ≠ model'.key.pk :=
  ⟨(record_key_round_trip.1 (demoRecord (.int 42)) (.int 42) (by decide : InInt64 42) rfl).2
      ⟨demoRecord_named _, trivial⟩,
    fun model model' hmodel hmodel' =>
      record_key_round_trip.2 (demoRecord (.int 42)) (demoRecord (.int (-7))) (.int 42) (.int (-7))
        model model' rfl rfl hmodel hmodel' rfl (by decide)⟩

/-- A record under a byte string is listed under a text that asks for no record. -/
theorem not_roundTrips_bytes : ¬∀ (rec : Record Unit) (k : PrimaryKey),
    k.Storable → rec.pk = .key k → RoundTrips rec k := by
  intro h
  obtain ⟨model, hmodel, t, ht⟩ := h (demoRecord (.bytes [0xAB])) (.bytes [0xAB]) trivial rfl
  rw [recordToModel_pk hmodel] at ht
  exact resolvePk_bytesRepr [0xAB] t [0xAB] ht

end ClusterManager.Records
