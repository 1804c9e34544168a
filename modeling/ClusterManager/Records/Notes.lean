import ClusterManager.Db.Tables
import ClusterManager.Records.Converters

/-!
# Notes on records

`upsert_record_note` stores a note under the text of the request. The list of records looks its
notes up under the keys the driver returns (`_raw_pk_to_stored`). A note is found again where the
two agree.
-/

namespace ClusterManager.Records

open Numerals Db

/-! ### The identity of a note -/

/-- The type of a stored note. It is never `auto`. -/
inductive StoredPkType
  | string
  | int
  | bytes
  deriving DecidableEq

/-- The text of the column. -/
def StoredPkType.name : StoredPkType → String
  | .string => "string"
  | .int => "int"
  | .bytes => "bytes"

theorem StoredPkType.name_injective : Function.Injective StoredPkType.name := by
  intro a b h
  cases a <;> cases b <;> first | rfl | exact absurd h (by decide)

/-- `_raw_pk_to_stored`. -/
def rawPkToStored : RawPk → Option (Str × StoredPkType)
  | .none => none
  | .bool _ => none
  | .key (.int n) => some (intText n, .int)
  | .key (.bytes data) => some (hexText data, .bytes)
  | .key (.string text) => if text = [] then none else some (text, .string)

/-- `_resolve_pk_type`. -/
def resolvePkType (pk : Str) : PkType → StoredPkType
  | .string => .string
  | .int => .int
  | .bytes => .bytes
  | .auto =>
      match resolvePk pk .auto with
      | .ok (.int _) => .int
      | .ok (.bytes _) => .bytes
      | _ => .string

/-- The spellings of a key under which the notes of its record are looked up. -/
def IsNoteSpelling (pk : Str) : PkType → Prop
  | .auto => True
  | .string => True
  | .int => isIntText pk = true
  | .bytes => pk.all isLowerHex = true

instance (pk : Str) (t : PkType) : Decidable (IsNoteSpelling pk t) :=
  match t with
  | .auto | .string => inferInstanceAs (Decidable True)
  | .int => inferInstanceAs (Decidable (isIntText pk = true))
  | .bytes => inferInstanceAs (Decidable (pk.all isLowerHex = true))

/-- The identity a note is stored under is the one its record has, in these spellings only. -/
theorem rawPkToStored_iff {pk : Str} {t : PkType} {k : PrimaryKey} (h : resolvePk pk t = .ok k)
    (hne : pk ≠ []) :
    rawPkToStored (.key k) = some (pk, resolvePkType pk t) ↔ IsNoteSpelling pk t := by
  cases t with
  | string =>
    cases h
    simp [rawPkToStored, resolvePkType, IsNoteSpelling, hne]
  | int =>
    rw [resolvePk] at h
    split at h
    · rename_i n hparse
      cases h
      have htext : intText n = pk ↔ isIntText pk = true := by
        rw [isIntText_iff]
        refine ⟨fun hn => ⟨n, hn⟩, ?_⟩
        rintro ⟨m, rfl⟩
        rw [parseInt_intText] at hparse
        split at hparse
        · cases hparse
        · cases hparse
          rfl
      simp [rawPkToStored, resolvePkType, IsNoteSpelling, htext]
    · cases h
  | bytes =>
    rw [resolvePk] at h
    split at h
    · rename_i data hparse
      cases h
      simp only [rawPkToStored, resolvePkType, IsNoteSpelling, Option.some.injEq, Prod.mk.injEq,
        and_true]
      exact hexText_eq_iff hparse
    · cases h
  | auto =>
    refine iff_of_true ?_ trivial
    rcases resolvePk_auto_cases pk with ⟨n, htext, -, hresolve⟩ | ⟨-, hresolve⟩
    · rw [hresolve] at h
      cases h
      simp [rawPkToStored, resolvePkType, hresolve, htext]
    · rw [hresolve] at h
      cases h
      simp [rawPkToStored, resolvePkType, hresolve, hne]

/-- The type of a request that reads a stored note. -/
def StoredPkType.pkType : StoredPkType → PkType
  | .string => .string
  | .int => .int
  | .bytes => .bytes

/-- The stored type is the type of the key. -/
theorem resolvePk_stored {pk : Str} {t : PkType} {k : PrimaryKey} (h : resolvePk pk t = .ok k) :
    resolvePk pk (resolvePkType pk t).pkType = .ok k := by
  cases t with
  | string => exact h
  | int => exact h
  | bytes => exact h
  | auto =>
    rcases resolvePk_auto_cases pk with ⟨n, htext, hdigits, hresolve⟩ | ⟨-, hresolve⟩
    · have htype : resolvePkType pk .auto = .int := by simp only [resolvePkType, hresolve]
      rw [hresolve] at h
      cases h
      subst htext
      rw [htype]
      simp [StoredPkType.pkType, resolvePk, parseInt_intText_of_le hdigits]
    · have htype : resolvePkType pk .auto = .string := by simp only [resolvePkType, hresolve]
      rw [hresolve] at h
      cases h
      rw [htype]
      rfl

/-- A stored identity is that of one key. -/
theorem resolvePk_unique {pk : Str} {t t' : PkType} {k k' : PrimaryKey}
    (h : resolvePk pk t = .ok k) (h' : resolvePk pk t' = .ok k')
    (htype : resolvePkType pk t = resolvePkType pk t') : k = k' := by
  have hk := resolvePk_stored h
  rw [htype, resolvePk_stored h'] at hk
  cases hk
  rfl

/-! ### Saving and showing notes -/

/-- The path of `PUT /notes/records/…`, with the bounds it is validated against. -/
structure RecordNotePath where
  namespace_ : Str
  setName : Str
  pk : Str
  namespace_length : 1 ≤ namespace_.length ∧ namespace_.length ≤ 31
  setName_length : 1 ≤ setName.length ∧ setName.length ≤ 63
  pk_length : 1 ≤ pk.length ∧ pk.length ≤ 1024

/-- An `UpsertRecordNoteRequest`. -/
structure UpsertRecordNoteRequest where
  note : String
  pkType : PkType
  note_length : 1 ≤ note.length ∧ note.length ≤ 8192

/-- `ON CONFLICT DO UPDATE SET …`: every column but the key and `created_at`. -/
def assignNote (n existing : RecordNote) : RecordNote :=
  { existing with
    digestHex := n.digestHex, note := n.note, updatedAt := n.updatedAt, updatedBy := n.updatedBy }

theorem assignNote_key (n existing : RecordNote) : (assignNote n existing).key = existing.key := rfl

/-- `db.upsert_record_note`: the row as it is stored, and the tables. -/
def upsertNote (n : RecordNote) (t : Tables) : Except Exc (RecordNote × Tables) :=
  match t.connections.find? n.connectionId with
  | none => .error .integrityError
  | some _ =>
      let stored := t.recordNotes.upsert n (assignNote n) (assignNote_key n)
      .ok (stored.1, { t with recordNotes := stored.2 })

/-- The key of the note of a record. -/
def noteKey (connId : String) (namespace_ setName : Str) (pair : Str × StoredPkType) :
    String × String × String × String × String :=
  (connId, .ofList namespace_, .ofList setName, .ofList pair.1, pair.2.name)

/-- `upsert_record_note`. -/
def upsertRecordNote (connId : String) (path : RecordNotePath) (body : UpsertRecordNoteRequest)
    (callerOwnerId : Option String) (now : String) (t : Tables) :
    Except Exc (RecordNote × Tables) :=
  upsertNote
    { connectionId := connId
      namespace_ := .ofList path.namespace_
      setName := .ofList path.setName
      pkText := .ofList path.pk
      pkType := (resolvePkType path.pk body.pkType).name
      digestHex := none
      note := body.note
      createdAt := now
      updatedAt := now
      updatedBy := callerOwnerId } t

/-- `batch_get_record_notes`. -/
def batchGetRecordNotes (connId : String) (namespace_ setName : Str)
    (pks : List (String × String)) (t : Tables) : Dict (String × String) String :=
  Dict.ofPairs <|
    (t.recordNotes.rows.filter fun n =>
        n.connectionId = connId ∧ n.namespace_ = .ofList namespace_ ∧ n.setName = .ofList setName ∧
          pks.contains (n.pkText, n.pkType)).map
      fun n => ((n.pkText, n.pkType), n.note)

/-- A pair as the database sees it. -/
def dbPair (pair : Str × StoredPkType) : String × String := (.ofList pair.1, pair.2.name)

/-- `_attach_record_notes`: the notes of a list of records, by their keys. -/
def attachRecordNotes (connId : String) (namespace_ setName : Str) (raws : List RawPk)
    (t : Tables) : List (Option String) :=
  if setName = [] then raws.map fun _ => none
  else
    let pairs := raws.filterMap rawPkToStored
    let notes := batchGetRecordNotes connId namespace_ setName (pairs.map dbPair) t
    raws.map fun raw => (rawPkToStored raw).bind fun pair => notes.get? (dbPair pair)

/-- The note of a record, by its key: what `get_record_detail` shows. -/
def recordNote (connId : String) (namespace_ setName : Str) (raw : RawPk) (t : Tables) :
    Option String :=
  (rawPkToStored raw).bind fun pair =>
    (t.recordNotes.find? (noteKey connId namespace_ setName pair)).map (·.note)

theorem dbPair_injective : Function.Injective dbPair := by
  intro a b h
  simp only [dbPair, Prod.mk.injEq] at h
  exact Prod.ext (String.ofList_injective h.1) (StoredPkType.name_injective h.2)

variable {connId : String} {namespace_ setName : Str} {t t' : Tables}

/-- The batch of notes holds the note of every key that was asked for. -/
theorem get?_batchGetRecordNotes {pks : List (String × String)} {pair : Str × StoredPkType}
    (hmem : dbPair pair ∈ pks) :
    (batchGetRecordNotes connId namespace_ setName pks t).get? (dbPair pair) =
      (t.recordNotes.find? (noteKey connId namespace_ setName pair)).map (·.note) := by
  have hnodup : (((t.recordNotes.rows.filter fun n =>
      n.connectionId = connId ∧ n.namespace_ = .ofList namespace_ ∧ n.setName = .ofList setName ∧
        pks.contains (n.pkText, n.pkType)).map fun n => ((n.pkText, n.pkType), n.note)).map
      Prod.fst).Nodup := by
    rw [List.map_map]
    refine List.Nodup.map_on ?_ (t.recordNotes.nodup.of_map.filter _)
    intro a ha b hb hab
    simp only [List.mem_filter, decide_eq_true_eq] at ha hb
    refine t.recordNotes.eq_of_key ha.1 hb.1 ?_
    simp only [Function.comp_apply, Prod.mk.injEq] at hab
    simp only [RecordNote.key, ha.2.1, hb.2.1, ha.2.2.1, hb.2.2.1, ha.2.2.2.1, hb.2.2.2.1, hab]
  ext note
  rw [batchGetRecordNotes, Dict.ofPairs_of_nodup hnodup, ← Dict.mem_iff_get? hnodup,
    Option.map_eq_some_iff]
  simp only [List.mem_map, List.mem_filter, decide_eq_true_eq, Table.find?_eq_some]
  constructor
  · rintro ⟨n, ⟨hn, hconn, hns, hset, -⟩, heq⟩
    simp only [dbPair, Prod.mk.injEq] at heq
    exact ⟨n, ⟨hn, by simp [RecordNote.key, noteKey, hconn, hns, hset, heq.1]⟩, heq.2⟩
  · rintro ⟨n, ⟨hn, hkey⟩, rfl⟩
    simp only [RecordNote.key, noteKey, Prod.mk.injEq] at hkey
    obtain ⟨hconn, hns, hset, htext, htype⟩ := hkey
    have hpair : (n.pkText, n.pkType) = dbPair pair := Prod.ext htext htype
    rw [← hpair, ← List.contains_iff_mem] at hmem
    exact ⟨n, ⟨hn, hconn, hns, hset, hmem⟩, by rw [hpair]⟩

/-- The list of records and the single record show the same notes. -/
theorem attachRecordNotes_eq (hset : setName ≠ []) (raws : List RawPk) :
    attachRecordNotes connId namespace_ setName raws t =
      raws.map fun raw => recordNote connId namespace_ setName raw t := by
  rw [attachRecordNotes, if_neg hset]
  refine List.map_congr_left fun raw hraw => ?_
  rw [recordNote]
  cases hpair : rawPkToStored raw with
  | none => rfl
  | some pair =>
    have hmem : dbPair pair ∈ (raws.filterMap rawPkToStored).map dbPair :=
      List.mem_map_of_mem (List.mem_filterMap.2 ⟨raw, hraw, hpair⟩)
    exact get?_batchGetRecordNotes hmem

variable {path : RecordNotePath} {body : UpsertRecordNoteRequest} {owner : Option String}
  {now : String} {row : RecordNote}

/-- The row of an upsert is found under its key, and no other row has changed. -/
theorem find?_upsertNote {n : RecordNote} (h : upsertNote n t = .ok (row, t'))
    (key : String × String × String × String × String) :
    t'.recordNotes.find? key = if key = n.key then some row else t.recordNotes.find? key := by
  rw [upsertNote] at h
  split at h
  · cases h
  · cases h
    exact Table.find?_upsert (assignNote_key n)

/-- The stored row has the text of the note. -/
theorem note_upsertNote {n : RecordNote} (h : upsertNote n t = .ok (row, t')) :
    row.note = n.note := by
  rw [upsertNote] at h
  split at h
  · cases h
  · cases h
    cases hfind : t.recordNotes.find? n.key with
    | some b =>
      rw [Table.upsert_of_find?_eq_some (assignNote_key n) hfind]
      rfl
    | none =>
      obtain ⟨u, -, hupsert⟩ := Table.upsert_of_find?_eq_none (assignNote_key n) hfind
      rw [hupsert]

/-- A note that was saved is shown with the record whose identity it has, and with no other. -/
theorem recordNote_upsertRecordNote
    (h : upsertRecordNote connId path body owner now t = .ok (row, t')) (raw : RawPk) :
    recordNote connId path.namespace_ path.setName raw t' =
      if rawPkToStored raw = some (path.pk, resolvePkType path.pk body.pkType) then some body.note
      else recordNote connId path.namespace_ path.setName raw t := by
  rw [recordNote, recordNote]
  cases hpair : rawPkToStored raw with
  | none => rfl
  | some pair =>
    rw [Option.bind_some, Option.bind_some, find?_upsertNote h]
    have hkey : noteKey connId path.namespace_ path.setName pair =
        noteKey connId path.namespace_ path.setName
          (path.pk, resolvePkType path.pk body.pkType) ↔
        pair = (path.pk, resolvePkType path.pk body.pkType) := by
      refine ⟨fun heq => dbPair_injective ?_, fun heq => by rw [heq]⟩
      simp only [noteKey, Prod.mk.injEq, true_and] at heq
      exact Prod.ext heq.1 heq.2
    by_cases heq : pair = (path.pk, resolvePkType path.pk body.pkType)
    · rw [if_pos (congrArg some heq)]
      refine (congrArg _ (if_pos (hkey.2 heq))).trans ?_
      rw [Option.map_some, note_upsertNote h]
    · rw [if_neg fun hsome => heq (Option.some.inj hsome)]
      exact congrArg _ (if_neg fun hk => heq (hkey.1 hk))

/-- Where a note on a record is found again: it has the identity of the record in these spellings
only, it is shown with the record there and changes nothing of it elsewhere, two such spellings
of a key share one note, and two keys never do. -/
theorem record_note_identity (pk : Str) (t : PkType) (k : PrimaryKey)
    (hresolve : resolvePk pk t = .ok k) :
    (pk ≠ [] → (rawPkToStored (.key k) = some (pk, resolvePkType pk t) ↔ IsNoteSpelling pk t)) ∧
    (∀ connId path body owner now tables row tables', path.pk = pk → body.pkType = t →
      upsertRecordNote connId path body owner now tables = .ok (row, tables') →
      ∀ raws (i : ℕ), raws[i]? = some (RawPk.key k) →
      (attachRecordNotes connId path.namespace_ path.setName raws tables')[i]? =
        if IsNoteSpelling pk t then some (some body.note)
        else (attachRecordNotes connId path.namespace_ path.setName raws tables)[i]?) ∧
    (∀ pk' t', resolvePk pk' t' = .ok k → pk ≠ [] → pk' ≠ [] →
      IsNoteSpelling pk t → IsNoteSpelling pk' t' →
      (pk, resolvePkType pk t) = (pk', resolvePkType pk' t')) ∧
    (∀ pk' t' k', resolvePk pk' t' = .ok k' → k ≠ k' →
      (pk, resolvePkType pk t) ≠ (pk', resolvePkType pk' t')) := by
  refine ⟨fun hne => rawPkToStored_iff hresolve hne, ?_, ?_, ?_⟩
  · rintro connId path body owner now tables row tables' rfl rfl hupsert raws i hraw
    have hset : path.setName ≠ [] := List.length_pos_iff.1 path.setName_length.1
    have hne : path.pk ≠ [] := List.length_pos_iff.1 path.pk_length.1
    rw [attachRecordNotes_eq hset, attachRecordNotes_eq hset, List.getElem?_map, List.getElem?_map,
      hraw, Option.map_some, Option.map_some, recordNote_upsertRecordNote hupsert]
    have hiff := rawPkToStored_iff hresolve hne
    split
    next h => rw [if_pos (hiff.1 h)]
    next h => rw [if_neg fun hs => h (hiff.2 hs)]
  · intro pk' t' hresolve' hne hne' hs hs'
    exact Option.some.inj
      (((rawPkToStored_iff hresolve hne).2 hs).symm.trans
        ((rawPkToStored_iff hresolve' hne').2 hs'))
  · intro pk' t' k' hresolve' hne heq
    rw [Prod.mk.injEq] at heq
    obtain ⟨rfl, htype⟩ := heq
    exact hne (resolvePk_unique hresolve hresolve' htype)

/-- A database with one connection. -/
def connectionTables : Tables where
  connections := .singleton
    { id := "c1", name := "c1", hosts := ["a"], port := 3000, clusterName := none, username := none,
      password := none, color := "#0097D3", note := none, labels := none, workspaceId := none,
      createdAt := "0", updatedAt := "0" }
  workspaces := .empty
  setNotes := .empty
  recordNotes := .empty
  guides := .empty

/-- A note on the record `7` of the set `test.demo`. -/
def sevenPath : RecordNotePath where
  namespace_ := ['t', 'e', 's', 't']
  setName := ['d', 'e', 'm', 'o']
  pk := ['7']
  namespace_length := by decide
  setName_length := by decide
  pk_length := by decide

/-- The note is saved under the type `auto`. -/
def sevenNote : UpsertRecordNoteRequest where
  note := "lucky"
  pkType := .auto
  note_length := by decide

/-- The note is shown with the record `7`. The explicit type shares it, another key does not. -/
theorem record_note_identity_seven :
    rawPkToStored (.key (.int 7)) = some (['7'], resolvePkType ['7'] .int) ∧
    (∃ row t', upsertRecordNote "c1" sevenPath sevenNote none "1" connectionTables =
        .ok (row, t') ∧
      (attachRecordNotes "c1" sevenPath.namespace_ sevenPath.setName
        [.key (.string ['7']), .key (.int 7)] t')[1]? = some (some "lucky")) ∧
    (['7'], resolvePkType ['7'] .auto) = (['7'], resolvePkType ['7'] .int) ∧
    (['7'], resolvePkType ['7'] .auto) ≠ (['7'], resolvePkType ['7'] .string) :=
  ⟨((record_note_identity ['7'] .int (.int 7) rfl).1 (by decide)).2 rfl,
    ⟨_, _, rfl, (record_note_identity ['7'] .auto (.int 7) rfl).2.1 "c1" sevenPath sevenNote none
      "1" connectionTables _ _ rfl rfl rfl _ 1 rfl⟩,
    (record_note_identity ['7'] .auto (.int 7) rfl).2.2.1 ['7'] .int rfl (by decide) (by decide)
      trivial rfl,
    (record_note_identity ['7'] .auto (.int 7) rfl).2.2.2 ['7'] .string (.string ['7']) rfl
      (by decide)⟩

/-- A note on the integer `007` is stored under a text no record has. -/
theorem not_rawPkToStored_leading_zero : ¬∀ pk t k, resolvePk pk t = .ok k → pk ≠ [] →
    rawPkToStored (.key k) = some (pk, resolvePkType pk t) := by
  intro h
  have h007 := h ['0', '0', '7'] .int (.int 7) rfl (by decide)
  exact absurd h007 (by decide)

end ClusterManager.Records
