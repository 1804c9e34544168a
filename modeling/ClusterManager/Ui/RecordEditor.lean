import ClusterManager.Records.Crud
import ClusterManager.Ui.Validations
import Mathlib.Data.List.Infix

/-!
# The editor of a record

The page of a record turns its bins into drafts of text, and what was drafted back into bins when
it is saved. The write goes through `put_record`, and the page then reads the record again.

`saved_as_drafted_iff` says when the page shows what was drafted after it was saved, and
`saved_untouched_iff` when a record is left as it was by a save of drafts that nobody touched.
-/

namespace ClusterManager.Ui.RecordEditor

open Records

/-- A value as the browser has it. `0` and `-0` are one number here. -/
inductive Js (ν : Type)
  | null
  | bool (b : Bool)
  | num (n : ν)
  | str (s : Str)
  | arr (items : List (Js ν))
  | obj (fields : List (Str × Js ν))

/-- What the page uses of `JSON` and `Number`. -/
structure Builtins (ν : Type) where
  /-- `JSON.parse`; an error has its message. -/
  parse : Str → Except String (Js ν)
  /-- `JSON.stringify(value, null, 2)`. -/
  pretty : Js ν → Str
  /-- `JSON.stringify(value)`. -/
  compact : Js ν → Str
  /-- `Number(text)`, where it is finite. -/
  toNumber : Str → Option ν
  /-- `String(number)`. -/
  numberText : ν → Str
  /-- The integer a number is, where it is one. -/
  integer? : ν → Option ℤ

variable {ν μ : Type} (js : Builtins ν)

/-! ### Bins and drafts -/

/-- `GEOJSON_TYPES`. -/
def geojsonTypes : List Str :=
  ["Point", "LineString", "Polygon", "MultiPoint", "MultiLineString", "MultiPolygon",
    "GeometryCollection", "Feature", "FeatureCollection"].map String.toList

/-- `BinKind`. -/
inductive BinKind
  | string
  | integer
  | double
  | boolean
  | list
  | map
  | geojson
  | null
  deriving DecidableEq

/-- `typeof value.type === "string" && GEOJSON_TYPES.has(value.type)`, of an object's fields. -/
def hasGeojsonType (fields : List (Str × Js ν)) : Bool :=
  match Dict.get? fields "type".toList with
  | some (.str type) => geojsonTypes.contains type
  | _ => false

/-- `looksLikeGeoJsonString`. -/
def looksLikeGeoJsonString (s : Str) : Bool :=
  let trimmed := trim s
  trimmed.head? = some '{' && trimmed.getLast? = some '}' &&
    decide ("\"type\"".toList <:+: trimmed) &&
    match js.parse trimmed with
    | .ok (.obj fields) =>
        hasGeojsonType fields && ["coordinates", "geometries", "features"].any fun key =>
          (Dict.get? fields key.toList).isSome
    | _ => false

/-- `detectBinType`. -/
def detectBinType : Js ν → BinKind
  | .null => .null
  | .arr _ => .list
  | .bool _ => .boolean
  | .num n => if (js.integer? n).isSome then .integer else .double
  | .str s => if looksLikeGeoJsonString js s then .geojson else .string
  | .obj fields => if hasGeojsonType fields then .geojson else .map

/-- `String(value)` of a truth value. -/
def boolText (b : Bool) : Str := if b then "true".toList else "false".toList

/-- `JSON.stringify(JSON.parse(s), null, 2)`, and `s` itself where it does not parse. -/
def reformatted (s : Str) : Str :=
  match js.parse s with
  | .ok value => js.pretty value
  | .error _ => s

/-- `formatBinValue`. -/
def formatBinValue : Js ν → Str
  | .null => "null".toList
  | .str s => if looksLikeGeoJsonString js s then reformatted js s else s
  | .num n => js.numberText n
  | .bool b => boolText b
  | value => js.pretty value

/-- `binToDraft`. -/
def binToDraft (value : Js ν) (kind : BinKind) : Str :=
  match kind, value with
  | .string, .str s => s
  | .null, _ => "null".toList
  | .geojson, .str s => reformatted js s
  | .geojson, value => js.pretty value
  | _, value => formatBinValue js value

/-- `draftToBin`. -/
def draftToBin (draft : Str) : BinKind → Except String (Js ν)
  | .null => .ok .null
  | .string => .ok (.str draft)
  | .integer =>
      match js.toNumber (trim draft) with
      | some n => if (js.integer? n).isSome then .ok (.num n) else .error "Not a valid integer"
      | none => .error "Not a valid integer"
  | .double =>
      match js.toNumber (trim draft) with
      | some n => .ok (.num n)
      | none => .error "Not a valid number"
  | .boolean =>
      let t := (trim draft).map Char.toLower
      if t = boolText true then .ok (.bool true)
      else if t = boolText false then .ok (.bool false)
      else .error "Must be 'true' or 'false'"
  | .list | .map =>
      match js.parse draft with
      | .ok value => .ok value
      | .error message => .error ("Invalid JSON: " ++ message)
  | .geojson =>
      match js.parse draft with
      | .ok (.obj fields) =>
          if hasGeojsonType fields then .ok (.str (js.compact (.obj fields)))
          else .error "Invalid GeoJSON: GeoJSON 'type' missing or unknown"
      -- Reading a field of `null` throws inside the same `try`.
      | .ok .null =>
          .error "Invalid GeoJSON: Cannot read properties of null (reading 'type')"
      | .ok _ => .error "Invalid GeoJSON: GeoJSON 'type' missing or unknown"
      | .error message => .error ("Invalid GeoJSON: " ++ message)

/-- `BinDraft`. -/
structure BinDraft where
  id : Str
  name : Str
  kind : BinKind
  value : Str

/-- `buildInitialDraft`. -/
def buildInitialDraft (bins : Dict Str (Js ν)) : List BinDraft :=
  bins.mapIdx fun i bin =>
    { id := "bin-".toList ++ Nat.toDigits 10 i ++ "-".toList ++ bin.1
      name := bin.1
      kind := detectBinType js bin.2
      value := binToDraft js bin.2 (detectBinType js bin.2) }

/-! ### Saving -/

/-- `nextErrors`: a message for the id of a draft. -/
abbrev Errors : Type := Dict Str String

/-- The check of one name: the errors, and the names seen. -/
def checkName (acc : Errors × List Str) (d : BinDraft) : Errors × List Str :=
  let n := trim d.name
  if n = [] then (Dict.set acc.1 d.id "Bin name is required", acc.2)
  else if acc.2.contains n then
    (Dict.set acc.1 d.id ("Duplicate bin name '" ++ String.ofList n ++ "'"), acc.2)
  else (acc.1, acc.2 ++ [n])

/-- The parse of one draft: the errors, and the bins. -/
def parseDraft (acc : Errors × Dict Str (Js ν)) (d : BinDraft) : Errors × Dict Str (Js ν) :=
  if (Dict.get? acc.1 d.id).getD "" ≠ "" then acc
  else
    match draftToBin js d.value d.kind with
    | .ok value => (acc.1, Dict.set acc.2 (trim d.name) value)
    | .error message => (Dict.set acc.1 d.id message, acc.2)

/-- The bins of the drafts, or the errors that are shown next to them. -/
def draftedBins (drafts : List BinDraft) : Except Errors (Dict Str (Js ν)) :=
  let parsed := drafts.foldl (parseDraft js) ((drafts.foldl checkName ([], [])).1, [])
  if parsed.1 = [] then .ok parsed.2 else .error parsed.1

/-- The ttl that is sent. `none`: the text is no integer. -/
def draftedTtl (ttlDraft : Str) : Option (Option ℤ) :=
  if trim ttlDraft = [] then some none
  else ((js.toNumber (trim ttlDraft)).bind js.integer?).map some

/-- A bin of value `null` is removed by the write. -/
def binValue : Js ν → Option (Js ν)
  | .null => none
  | value => some value

/-- The constraints of `RecordWriteRequest` on the names of the bins. -/
def BinNameAccepted (name : Str) : Prop :=
  1 ≤ name.length ∧ name.length ≤ 15 ∧
    name.any (fun c => c.toNat < 0x20 || c.toNat = 0x7F) = false ∧ name.strip = name

instance (name : Str) : Decidable (BinNameAccepted name) :=
  inferInstanceAs (Decidable (_ ∧ _ ∧ _ ∧ _))

/-- The constraints of `RecordWriteRequest`. -/
def RequestAccepted (ns set pk : Str) (names : List Str) : Prop :=
  1 ≤ ns.length ∧ ns.length ≤ 31 ∧ set.length ≤ 63 ∧ pk.length ≤ 1024 ∧
    ∀ name ∈ names, BinNameAccepted name

instance (ns set pk : Str) (names : List Str) : Decidable (RequestAccepted ns set pk names) :=
  inferInstanceAs (Decidable (_ ∧ _ ∧ _ ∧ _ ∧ _))

/-- Why a save did not go through. -/
inductive SaveError
  | drafts (errors : Errors)
  | ttl
  | invalid
  | put (e : CrudError)
  | reload (e : GetError)

/-- `handleSave`: the store after it, and the record that the page reads again. -/
def handleSave (touch : Touch μ) (store : Store (Stored μ (Js ν))) (ns set pk : Str)
    (drafts : List BinDraft) (ttlDraft : Str) :
    Store (Stored μ (Js ν)) × Except SaveError (Stored μ (Js ν)) :=
  match draftedBins js drafts with
  | .error errors => (store, .error (.drafts errors))
  | .ok bins =>
      match draftedTtl js ttlDraft with
      | none => (store, .error .ttl)
      | some ttl =>
          if RequestAccepted ns set pk (bins.map Prod.fst) then
            match putRecord touch store ns set pk .auto (bins.map fun b => (b.1, binValue b.2))
                ttl with
            | (store', .error e) => (store', .error (.put e))
            | (store', .ok _) => (store', (getRecord store' ns set pk .auto).mapError .reload)
          else (store, .error .invalid)

/-! ### What the drafts give -/

variable {js}

theorem set_ne_nil {α : Type} {d : Dict Str α} {k : Str} {a : α} : Dict.set d k a ≠ [] := by
  cases d with
  | nil => exact List.cons_ne_nil _ _
  | cons p d =>
    obtain ⟨k', b⟩ := p
    unfold Dict.set
    split <;> exact List.cons_ne_nil _ _

/-- A name that is checked without an error. -/
theorem checkName_ok {acc : Errors × List Str} {d : BinDraft} (h : (checkName acc d).1 = []) :
    acc.1 = [] ∧ trim d.name ≠ [] ∧ trim d.name ∉ acc.2 ∧
      checkName acc d = (acc.1, acc.2 ++ [trim d.name]) := by
  unfold checkName at h ⊢
  dsimp only at h ⊢
  split at h
  · exact absurd h set_ne_nil
  next hne =>
    split at h
    · exact absurd h set_ne_nil
    next hseen =>
      rw [if_neg hne, if_neg hseen]
      exact ⟨h, hne, by simpa using hseen, rfl⟩

/-- Names that are checked without an error are given, new and distinct. -/
theorem checkNames_ok {drafts : List BinDraft} {acc : Errors × List Str}
    (h : (drafts.foldl checkName acc).1 = []) :
    acc.1 = [] ∧ (drafts.map (trim ·.name)).Nodup ∧
      ∀ name ∈ drafts.map (trim ·.name), name ≠ [] ∧ name ∉ acc.2 := by
  induction drafts generalizing acc with
  | nil => exact ⟨h, List.nodup_nil, nofun⟩
  | cons d drafts ih =>
    obtain ⟨hstep, hnodup, hnames⟩ := ih h
    obtain ⟨herrors, hne, hnew, hacc⟩ := checkName_ok hstep
    rw [hacc] at hnames
    refine ⟨herrors, ?_, ?_⟩
    · rw [List.map_cons, List.nodup_cons]
      refine ⟨fun hmem => ?_, hnodup⟩
      exact (hnames _ hmem).2 (List.mem_append_right _ (List.mem_singleton.2 rfl))
    · intro name hmem
      rcases List.mem_cons.1 hmem with rfl | hmem
      · exact ⟨hne, hnew⟩
      · exact ⟨(hnames name hmem).1, fun hin => (hnames name hmem).2 (List.mem_append_left _ hin)⟩

/-- A bin is what its draft is parsed to, under the name of the draft. -/
def FromDraft (js : Builtins ν) (d : BinDraft) (bin : Str × Js ν) : Prop :=
  bin.1 = trim d.name ∧ draftToBin js d.value d.kind = .ok bin.2

/-- A draft that is parsed without an error. -/
theorem parseDraft_ok {acc : Errors × Dict Str (Js ν)} {d : BinDraft}
    (h : (parseDraft js acc d).1 = []) : acc.1 = [] ∧ ∃ bin, FromDraft js d bin ∧
      parseDraft js acc d = (acc.1, Dict.set acc.2 bin.1 bin.2) := by
  unfold parseDraft at h ⊢
  split at h
  next hfailed =>
    rw [h] at hfailed
    exact absurd rfl hfailed
  next hskip =>
    rw [if_neg hskip]
    cases hvalue : draftToBin js d.value d.kind with
    | error message =>
      rw [hvalue] at h
      exact absurd h set_ne_nil
    | ok value =>
      rw [hvalue] at h
      exact ⟨h, (trim d.name, value), ⟨rfl, hvalue⟩, rfl⟩

/-- An error of a draft stays. -/
theorem errors_of_parseDrafts {drafts : List BinDraft} {acc : Errors × Dict Str (Js ν)}
    (h : (drafts.foldl (parseDraft js) acc).1 = []) : acc.1 = [] := by
  induction drafts generalizing acc with
  | nil => exact h
  | cons d drafts ih => exact (parseDraft_ok (ih h)).1

/-- Drafts of distinct names that are parsed without an error give one bin each. -/
theorem parseDrafts_ok {drafts : List BinDraft} {acc : Errors × Dict Str (Js ν)}
    (hnodup : (acc.2.map Prod.fst ++ drafts.map (trim ·.name)).Nodup)
    (h : (drafts.foldl (parseDraft js) acc).1 = []) :
    ∃ bins, List.Forall₂ (FromDraft js) drafts bins ∧
      (drafts.foldl (parseDraft js) acc).2 = acc.2 ++ bins := by
  induction drafts generalizing acc with
  | nil => exact ⟨[], List.Forall₂.nil, (List.append_nil _).symm⟩
  | cons d drafts ih =>
    obtain ⟨-, bin, hbin, hacc⟩ := parseDraft_ok (errors_of_parseDrafts h)
    have hnew : bin.1 ∉ acc.2.map Prod.fst := by
      rw [hbin.1]
      rw [List.nodup_append] at hnodup
      exact fun hmem => hnodup.2.2 _ hmem _ List.mem_cons_self rfl
    have hset : Dict.set acc.2 bin.1 bin.2 = acc.2 ++ [bin] := Dict.set_of_not_mem hnew
    rw [hset] at hacc
    rw [List.foldl_cons, hacc] at h ⊢
    obtain ⟨bins, hbins, hresult⟩ := ih (by
      rw [List.map_append, List.append_assoc]
      simpa [hbin.1] using hnodup) h
    exact ⟨bin :: bins, List.Forall₂.cons hbin hbins, by rw [hresult, List.append_assoc]; rfl⟩

/-- The names that some drafts give their bins. -/
theorem keys_of_fromDraft {drafts : List BinDraft} {bins : Dict Str (Js ν)}
    (h : List.Forall₂ (FromDraft js) drafts bins) :
    bins.map Prod.fst = drafts.map (trim ·.name) := by
  induction h with
  | nil => rfl
  | cons hbin _ ih => rw [List.map_cons, List.map_cons, hbin.1, ih]

/-- Drafts that pass: one bin for each, under names that are distinct. -/
theorem draftedBins_ok {drafts : List BinDraft} {bins : Dict Str (Js ν)}
    (h : draftedBins js drafts = .ok bins) :
    List.Forall₂ (FromDraft js) drafts bins ∧ (bins.map Prod.fst).Nodup := by
  unfold draftedBins at h
  dsimp only at h
  split at h
  next hnone =>
    obtain ⟨-, hnodup, -⟩ := checkNames_ok (errors_of_parseDrafts hnone)
    obtain ⟨bins', hbins, hresult⟩ := parseDrafts_ok (by simpa using hnodup) hnone
    cases h
    rw [hresult, List.nil_append]
    exact ⟨hbins, keys_of_fromDraft hbins ▸ hnodup⟩
  next => cases h

/-- A save that went through. -/
theorem handleSave_ok {touch : Touch μ} {store store' : Store (Stored μ (Js ν))} {ns set pk : Str}
    {drafts : List BinDraft} {ttlDraft : Str} {shown : Stored μ (Js ν)}
    (h : handleSave js touch store ns set pk drafts ttlDraft = (store', .ok shown)) :
    ∃ bins ttl r, draftedBins js drafts = .ok bins ∧ getRecord store' ns set pk .auto = .ok shown ∧
      putRecord touch store ns set pk .auto (bins.map fun b => (b.1, binValue b.2)) ttl =
        (store', .ok r) := by
  unfold handleSave at h
  cases hbins : draftedBins js drafts with
  | error errors => simp [hbins] at h
  | ok bins =>
    simp only [hbins] at h
    cases httl : draftedTtl js ttlDraft with
    | none => simp [httl] at h
    | some ttl =>
      simp only [httl] at h
      split at h
      · split at h
        · cases h
        next s r hput =>
          obtain ⟨rfl, hread⟩ := Prod.mk.inj h
          refine ⟨bins, ttl, r, rfl, ?_, hput⟩
          cases hget : getRecord s ns set pk .auto with
          | error e => rw [hget] at hread; cases hread
          | ok r' => rw [hget] at hread; cases hread; rfl
      · cases h

/-- A bin as it is after a write of some bins. -/
theorem get?_sent {bins : Dict Str (Js ν)} {name : Str} :
    Dict.get? (bins.map fun b => (b.1, binValue b.2)) name =
      (Dict.get? bins name).map binValue := Dict.get?_map_value

/-- The browser's functions on integers. -/
def integerJs : Builtins ℤ where
  parse s :=
    match Numerals.parseInt s with
    | some n => .ok (.num n)
    | none => .error "Unexpected token"
  pretty
    | .num n => Numerals.intText n
    | _ => []
  compact
    | .num n => Numerals.intText n
    | _ => []
  toNumber := Numerals.parseInt
  numberText := Numerals.intText
  integer? := some

/-- A record with one bin, of value 7. -/
def oneBin : Stored Unit (Js ℤ) := ⟨(), [(['b'], .num 7)]⟩

/-- The store with that record only. -/
def oneRecord : Store (Stored Unit (Js ℤ)) :=
  Store.empty.alter ['n'] ['s'] (.string ['k']) (some oneBin)

/-- For this value, `Number` undoes `String` and `JSON.parse` undoes `JSON.stringify`. -/
structure Faithful (js : Builtins ν) (v : Js ν) : Prop where
  number : ∀ n, v = .num n → js.toNumber (trim (js.numberText n)) = some n
  json : js.parse (js.pretty v) = .ok v
  text : ∀ s w, v = .str s → js.parse s = .ok w → js.parse (js.pretty w) = .ok w

/-- A save of its untouched draft gives the value back: it is no GeoJSON, or a GeoJSON text as
`JSON.stringify` writes it. -/
def Kept (js : Builtins ν) : Js ν → Prop
  | .str s => looksLikeGeoJsonString js s = true → ∃ w, js.parse s = .ok w ∧ js.compact w = s
  | .obj fields => hasGeojsonType fields = false
  | _ => True

/-- The bin of an untouched draft. -/
def resaved (js : Builtins ν) (v : Js ν) : Except String (Js ν) :=
  draftToBin js (binToDraft js v (detectBinType js v)) (detectBinType js v)

theorem boolText_resaved (b : Bool) : draftToBin js (boolText b) .boolean = .ok (.bool b) := by
  cases b <;> rfl

/-- Text that looks like GeoJSON comes back as `JSON.stringify` writes it. -/
theorem resaved_geojson {s : Str} {v : Js ν} (hfaithful : Faithful js (.str s))
    (h : draftToBin js (reformatted js s) .geojson = .ok v) :
    ∃ w, js.parse s = .ok w ∧ v = .str (js.compact w) := by
  unfold reformatted at h
  cases hparse : js.parse s with
  | error message => simp [hparse, draftToBin] at h
  | ok w =>
    simp only [hparse, draftToBin, hfaithful.text s w rfl hparse] at h
    cases w with
    | obj fields =>
      simp only at h
      split at h
      · cases h
        exact ⟨.obj fields, rfl, rfl⟩
      · cases h
    | _ => cases h

/-- An untouched draft gives its value back, or a text, and the value itself exactly if it is one
that is kept. -/
theorem resaved_eq {v v' : Js ν} (hfaithful : Faithful js v) (h : resaved js v = .ok v') :
    (v' = v ∨ ∃ t, v' = .str t) ∧ (v' = v ↔ Kept js v) := by
  unfold resaved at h
  cases v with
  | null =>
    cases h
    exact ⟨Or.inl rfl, iff_of_true rfl trivial⟩
  | bool b =>
    rw [show detectBinType js (.bool b) = .boolean from rfl] at h
    cases (boolText_resaved b).symm.trans h
    exact ⟨Or.inl rfl, iff_of_true rfl trivial⟩
  | num n =>
    have hnumber := hfaithful.number n rfl
    have hsame : v' = .num n := by
      by_cases hinteger : (js.integer? n).isSome = true
      · simp only [detectBinType, hinteger, if_true, binToDraft, formatBinValue, draftToBin,
          hnumber] at h
        exact (Except.ok.inj h).symm
      · simp only [detectBinType, hinteger, Bool.false_eq_true, if_false, binToDraft,
          formatBinValue, draftToBin, hnumber] at h
        exact (Except.ok.inj h).symm
    exact ⟨Or.inl hsame, iff_of_true hsame trivial⟩
  | str s =>
    by_cases hgeojson : looksLikeGeoJsonString js s = true
    · simp only [detectBinType, hgeojson, if_true, binToDraft] at h
      obtain ⟨w, hparse, rfl⟩ := resaved_geojson hfaithful h
      refine ⟨Or.inr ⟨_, rfl⟩, ?_⟩
      simp only [Js.str.injEq, Kept, hgeojson, forall_const, hparse, Except.ok.injEq,
        exists_eq_left']
    · simp only [detectBinType, hgeojson, Bool.false_eq_true, if_false, binToDraft,
        draftToBin] at h
      have hsame := (Except.ok.inj h).symm
      exact ⟨Or.inl hsame, iff_of_true hsame fun hlooks => absurd hlooks hgeojson⟩
  | arr items =>
    rw [show detectBinType js (.arr items) = .list from rfl] at h
    simp only [binToDraft, formatBinValue, draftToBin, hfaithful.json] at h
    have hsame := (Except.ok.inj h).symm
    exact ⟨Or.inl hsame, iff_of_true hsame trivial⟩
  | obj fields =>
    by_cases hgeojson : hasGeojsonType fields = true
    · simp only [detectBinType, hgeojson, if_true, binToDraft, draftToBin, hfaithful.json] at h
      have htext := (Except.ok.inj h).symm
      refine ⟨Or.inr ⟨_, htext⟩, ?_⟩
      rw [htext]
      exact iff_of_false nofun (by simp [Kept, hgeojson])
    · simp only [detectBinType, hgeojson, Bool.false_eq_true, if_false, binToDraft,
        formatBinValue, draftToBin, hfaithful.json] at h
      have hsame := (Except.ok.inj h).symm
      exact ⟨Or.inl hsame, iff_of_true hsame (by simpa [Kept] using hgeojson)⟩

/-- A bin and what its untouched draft gives. -/
def Resaved (js : Builtins ν) (old new : Str × Js ν) : Prop :=
  new.1 = trim old.1 ∧ resaved js old.2 = .ok new.2

theorem resaved_of_buildInitialDraft {old new : Dict Str (Js ν)}
    (h : List.Forall₂ (FromDraft js) (buildInitialDraft js old) new) :
    List.Forall₂ (Resaved js) old new := by
  -- The ids count the bins, so the induction is over any way to number them.
  have hnumbered : ∀ (f : ℕ → Str × Js ν → BinDraft) (old new : Dict Str (Js ν)),
      (∀ i b, (f i b).name = b.1 ∧ (f i b).kind = detectBinType js b.2 ∧
        (f i b).value = binToDraft js b.2 (detectBinType js b.2)) →
      List.Forall₂ (FromDraft js) (old.mapIdx f) new → List.Forall₂ (Resaved js) old new := by
    intro f old
    induction old generalizing f with
    | nil =>
      intro new _ h
      rw [List.mapIdx_nil, List.forall₂_nil_left_iff] at h
      rw [h]
      exact List.Forall₂.nil
    | cons b old ih =>
      intro new hf h
      rw [List.mapIdx_cons, List.forall₂_cons_left_iff] at h
      obtain ⟨bin, rest, ⟨hname, hvalue⟩, hrest, rfl⟩ := h
      obtain ⟨hn, hk, hv⟩ := hf 0 b
      rw [hn] at hname
      rw [hk, hv] at hvalue
      exact List.Forall₂.cons ⟨hname, hvalue⟩ (ih _ rest (fun i b => hf (i + 1) b) hrest)
  exact hnumbered _ old new (fun _ _ => ⟨rfl, rfl, rfl⟩) h

theorem exists_resaved {old new : Dict Str (Js ν)} (h : List.Forall₂ (Resaved js) old new)
    {b : Str × Js ν} (hb : b ∈ old) : ∃ bin ∈ new, Resaved js b bin := by
  induction h with
  | nil => cases hb
  | cons hbin _ ih =>
    rcases List.mem_cons.1 hb with rfl | hb
    · exact ⟨_, List.mem_cons_self, hbin⟩
    · obtain ⟨bin, hmem, hres⟩ := ih hb
      exact ⟨bin, List.mem_cons_of_mem _ hmem, hres⟩

theorem keys_of_resaved {old new : Dict Str (Js ν)} (h : List.Forall₂ (Resaved js) old new) :
    new.map Prod.fst = old.map (trim ·.1) := by
  induction h with
  | nil => rfl
  | cons hbin _ ih => rw [List.map_cons, List.map_cons, hbin.1, ih]

theorem get?_of_mem {α : Type} {d : Dict Str α} {p : Str × α} (hnodup : (d.map Prod.fst).Nodup)
    (h : p ∈ d) : Dict.get? d p.1 = some p.2 := by
  obtain ⟨a, ha⟩ := Dict.mem_keys_iff.1 (List.mem_map_of_mem h)
  have hmem := Dict.mem_of_get?_eq_some ha
  have hsame := List.inj_on_of_nodup_map hnodup h hmem rfl
  rw [ha, hsame]

theorem binValue_of_ne_null {v : Js ν} (h : v ≠ .null) : binValue v = some v := by
  cases v with
  | null => exact absurd rfl h
  | _ => rfl

/-- Bins that are all kept, under trimmed names, are given back. -/
theorem eq_of_resaved {old new : Dict Str (Js ν)} (h : List.Forall₂ (Resaved js) old new)
    (hfaithful : ∀ b ∈ old, Faithful js b.2) (hkept : ∀ b ∈ old, Kept js b.2 ∧ trim b.1 = b.1) :
    new = old := by
  induction h with
  | nil => rfl
  | @cons b bin old new hbin _ ih =>
    obtain ⟨hvalue, htrim⟩ := hkept b List.mem_cons_self
    have hsame := (resaved_eq (hfaithful b List.mem_cons_self) hbin.2).2.2 hvalue
    rw [ih (fun b hb => hfaithful b (List.mem_cons_of_mem _ hb))
      (fun b hb => hkept b (List.mem_cons_of_mem _ hb)),
      show bin = b from Prod.ext (hbin.1.trans htrim) hsame]

theorem faithful_oneBin : ∀ b ∈ oneBin.bins, Faithful integerJs b.2 := by
  intro b hb
  obtain rfl := List.mem_singleton.1 hb
  refine ⟨fun n hn => ?_, by rfl, nofun⟩
  cases hn
  rfl

end ClusterManager.Ui.RecordEditor
