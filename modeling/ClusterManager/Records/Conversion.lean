import ClusterManager.Records.Converters

/-!
# Records that lack a part

A record of the driver may come without a key, without bins, or with metadata that gives `None` for
a number. `record_to_model` puts a default in the place of each part it finds missing; the models it
builds have bounds of their own. `conversion_defined_iff` says which records they accept, one by one
and as a page.
-/

namespace ClusterManager.Records

/-- The metadata of a record, where a number may be `None`. A key that a `dict` lacks is `none`. -/
inductive DriverMeta
  | attributes (gen ttl lastUpdateTime lastUpdateMs : Option ℤ)
  | mapping (gen ttl : Option (Option ℤ)) (lastUpdateTime lastUpdateMs : Option ℤ)
  | absent

/-- A key tuple. A part that it lacks, or that is `None`, is `none`. -/
structure DriverKey where
  namespace_ : Option Str
  set : Option Str
  pk : RawPk
  digest : Option (List UInt8)

/-- A record of the driver. -/
structure DriverRecord (β : Type) where
  key : Option DriverKey
  meta_ : DriverMeta
  bins : Option (List (Str × β))

/-- The numbers of the metadata. `none` is a `ValidationError` of `RecordMeta`: a number is `None`,
and neither clamp applies to it. -/
def DriverMeta.numbers : DriverMeta → Option RawMeta
  | .attributes (some gen) (some ttl) time ms => some (.attributes gen ttl time ms)
  | .attributes _ _ _ _ => none
  | .mapping (some none) _ _ _ => none
  | .mapping _ (some none) _ _ => none
  | .mapping gen ttl time ms => some (.mapping gen.join ttl.join time ms)
  | .absent => some .absent

variable {β : Type}

namespace DriverRecord

/-- `record_to_model`, from the record with its defaults on. -/
def recordToModel (rec : DriverRecord β) : Option (AerospikeRecord β) :=
  let key := rec.key.getD ⟨none, none, .none, none⟩
  rec.meta_.numbers.bind fun meta_ => Records.recordToModel
    { namespace_ := key.namespace_
      set := key.set
      pk := key.pk
      digest := key.digest
      meta_ := meta_
      bins := rec.bins.getD [] }

/-- The records of a page, as the routes convert them. `none`: the whole page is an error. -/
def models (records : List (DriverRecord β)) : Option (List (AerospikeRecord β)) :=
  records.mapM recordToModel

/-- The metadata is `None`, or none of its numbers is. -/
def Numbered (rec : DriverRecord β) : Prop :=
  match rec.meta_ with
  | .attributes gen ttl _ _ => gen.isSome ∧ ttl.isSome
  | .mapping gen ttl _ _ => gen ≠ some none ∧ ttl ≠ some none
  | .absent => True

/-- The record has a key, and the names and the text of the key are within the bounds of
`RecordKey`. -/
def Fits (rec : DriverRecord β) : Prop :=
  ∃ key, rec.key = some key ∧
    (∃ ns, key.namespace_ = some ns ∧ 1 ≤ ns.length ∧ ns.length ≤ 31) ∧
    (∀ set, key.set = some set → set.length ≤ 63) ∧ key.pk.text.length ≤ 1024

end DriverRecord

theorem DriverRecord.numbers_isSome {rec : DriverRecord β} :
    rec.meta_.numbers.isSome ↔ rec.Numbered := by
  unfold Numbered
  rcases rec.meta_ with ⟨_ | gen, _ | ttl, _, _⟩ | ⟨_ | _ | gen, _ | _ | ttl, _, _⟩ | _ <;>
    simp [DriverMeta.numbers]

/-- The bounds of `RecordKey`, for the defaults of a key that is missing. -/
theorem DriverRecord.fits_iff {rec : DriverRecord β} :
    rec.Fits ↔
      let key := rec.key.getD ⟨none, none, .none, none⟩
      (1 ≤ (key.namespace_.getD []).length ∧ (key.namespace_.getD []).length ≤ 31) ∧
        (key.set.getD []).length ≤ 63 ∧ key.pk.text.length ≤ 1024 := by
  unfold Fits
  rcases rec.key with _ | ⟨_ | ns, _ | set, pk, digest⟩ <;> simp [and_assoc]

/-- A record whose metadata has its numbers is converted exactly where it fits. -/
theorem DriverRecord.recordToModel_isSome {rec : DriverRecord β} (hnum : rec.Numbered) :
    rec.recordToModel.isSome ↔ rec.Fits := by
  obtain ⟨meta_, hmeta⟩ := Option.isSome_iff_exists.1 (numbers_isSome.2 hnum)
  rw [recordToModel, hmeta, Option.bind_some, Records.recordToModel_isSome, fits_iff]
  exact and_assoc

/-- A page is converted where each of its records is. -/
theorem DriverRecord.models_isSome {records : List (DriverRecord β)} :
    (models records).isSome ↔ ∀ rec ∈ records, rec.recordToModel.isSome := by
  unfold models
  induction records with
  | nil => simp
  | cons rec records ih =>
    rw [List.forall_mem_cons, ← ih, List.mapM_cons]
    cases rec.recordToModel with
    | none => simp
    | some model => cases records.mapM recordToModel <;> simp

/-- One record that is not converted makes an error of the page. -/
theorem DriverRecord.models_eq_none {records : List (DriverRecord β)} {rec : DriverRecord β}
    (hrec : rec.recordToModel = none) (hmem : rec ∈ records) : models records = none := by
  rw [← Option.not_isSome_iff_eq_none, models_isSome]
  intro h
  have hsome := h rec hmem
  rw [hrec] at hsome
  cases hsome

/-- **Which records are converted.** A record whose metadata has its numbers is converted exactly
where it has a key within the bounds of the response, and a page exactly where all its records are:
one that does not fit turns it into an error. -/
theorem conversion_defined_iff :
    (∀ rec : DriverRecord β, rec.Numbered → (rec.recordToModel.isSome ↔ rec.Fits)) ∧
      ∀ records : List (DriverRecord β), (∀ rec ∈ records, rec.Numbered) →
        ((DriverRecord.models records).isSome ↔ ∀ rec ∈ records, rec.Fits) := by
  refine ⟨fun rec hnum => DriverRecord.recordToModel_isSome hnum, fun records hnum => ?_⟩
  rw [DriverRecord.models_isSome]
  exact forall₂_congr fun rec hrec => DriverRecord.recordToModel_isSome (hnum rec hrec)

/-- A record of the set `test.demo` without metadata and bins. -/
def plainRecord (pk : RawPk) : DriverRecord Unit where
  key := some ⟨some "test".toList, some "demo".toList, pk, none⟩
  meta_ := .absent
  bins := none

theorem fits_plainRecord {pk : RawPk} : (plainRecord pk).Fits ↔ pk.text.length ≤ 1024 := by
  rw [DriverRecord.fits_iff]
  simp [plainRecord]

/-- Records without a user key, under an integer and under a string. -/
def plainPage : List (DriverRecord Unit) :=
  [plainRecord .none, plainRecord (.key (.int 7)), plainRecord (.key (.string "k".toList))]

/-- The page is converted. -/
theorem conversion_defined_iff_page : (DriverRecord.models plainPage).isSome := by
  have hnum : ∀ rec ∈ plainPage, rec.Numbered := by
    simp only [plainPage, List.forall_mem_cons]
    exact ⟨trivial, trivial, trivial, List.forall_mem_nil _⟩
  refine (conversion_defined_iff.2 plainPage hnum).2 ?_
  simp only [plainPage, List.forall_mem_cons, fits_plainRecord]
  exact ⟨by decide, by decide, by decide, List.forall_mem_nil _⟩

/-- A record without a key. -/
def keylessRecord : DriverRecord Unit where
  key := none
  meta_ := .absent
  bins := none

/-- A record under a string that is longer than the response allows. -/
def longKeyRecord : DriverRecord Unit := plainRecord (.key (.string (List.replicate 1025 'a')))

theorem longKeyRecord_unconverted : longKeyRecord.recordToModel = none := by
  have hnum : longKeyRecord.Numbered := trivial
  have hfits : ¬longKeyRecord.Fits := by
    rw [longKeyRecord, fits_plainRecord, RawPk.text, List.length_replicate]
    decide
  rwa [← Option.not_isSome_iff_eq_none, DriverRecord.recordToModel_isSome hnum]

/-- A record without a key is not converted, nor is one under a long string, and either makes an
error of a page. -/
theorem conversion_undefined :
    ¬(∀ rec : DriverRecord Unit, rec.recordToModel.isSome) ∧
      DriverRecord.models [plainRecord .none, keylessRecord] = none ∧
      DriverRecord.models [plainRecord .none, longKeyRecord] = none := by
  have hkeyless : keylessRecord.recordToModel = none := rfl
  refine ⟨fun h => ?_, DriverRecord.models_eq_none hkeyless
    (List.mem_cons_of_mem _ List.mem_cons_self), DriverRecord.models_eq_none
    longKeyRecord_unconverted (List.mem_cons_of_mem _ List.mem_cons_self)⟩
  have hsome := h keylessRecord
  rw [hkeyless] at hsome
  cases hsome

end ClusterManager.Records
