import ClusterManager.Info.Parser
import ClusterManager.Lib.Delimited

/-!
# Records written and read back

Records are written as `key=value` fields with a separator between them, and a separator between the
records. `parse_records` reads them back, whatever the two separators are.
-/

namespace ClusterManager.Info

open Str Delimited

/-- A record as it is written. -/
def recordText (fieldSep : Char) (record : Dict Str Str) : Str :=
  [fieldSep].intercalate (record.map argText)

/-- Records as they are written. -/
def recordsText (recordSep fieldSep : Char) (records : List (Dict Str Str)) : Str :=
  [recordSep].intercalate (records.map (recordText fieldSep))

/-- No separator in a text and no whitespace around it. -/
structure IsPlain (recordSep fieldSep : Char) (text : Str) : Prop where
  record_not_mem : recordSep ∉ text
  field_not_mem : fieldSep ∉ text
  strip_eq : strip text = text

/-- A record that can be written: it has fields, with distinct keys. Values may hold a `=`. -/
structure IsWritable (recordSep fieldSep : Char) (record : Dict Str Str) : Prop where
  ne_nil : record ≠ []
  nodup : (record.map Prod.fst).Nodup
  keys : ∀ field ∈ record, IsPlain recordSep fieldSep field.1 ∧ '=' ∉ field.1
  values : ∀ field ∈ record, IsPlain recordSep fieldSep field.2

instance (recordSep fieldSep : Char) (text : Str) : Decidable (IsPlain recordSep fieldSep text) :=
  decidable_of_iff (recordSep ∉ text ∧ fieldSep ∉ text ∧ strip text = text)
    ⟨fun h => ⟨h.1, h.2.1, h.2.2⟩, fun h => ⟨h.record_not_mem, h.field_not_mem, h.strip_eq⟩⟩

instance (recordSep fieldSep : Char) (record : Dict Str Str) :
    Decidable (IsWritable recordSep fieldSep record) :=
  decidable_of_iff (record ≠ [] ∧ (record.map Prod.fst).Nodup ∧
      (∀ field ∈ record, IsPlain recordSep fieldSep field.1 ∧ '=' ∉ field.1) ∧
      ∀ field ∈ record, IsPlain recordSep fieldSep field.2)
    ⟨fun h => ⟨h.1, h.2.1, h.2.2.1, h.2.2.2⟩, fun h => ⟨h.ne_nil, h.nodup, h.keys, h.values⟩⟩

/-! ### Whitespace around a text -/

/-- Neither end of a text is whitespace. -/
def Trimmed (s : Str) : Prop :=
  (∀ c ∈ s.head?, isSpace c = false) ∧ ∀ c ∈ s.getLast?, isSpace c = false

theorem strip_of_trimmed {s : Str} (h : Trimmed s) : strip s = s := by
  have hhead : s.dropWhile isSpace = s := by
    cases s with
    | nil => rfl
    | cons c s => rw [List.dropWhile_cons_of_neg (by simp [h.1 c rfl])]
  rw [strip, hhead, List.rdropWhile_eq_self_iff]
  intro hne
  have := h.2 _ (List.getLast?_eq_some_getLast hne)
  simp [this]

theorem trimmed_of_strip {s : Str} (h : strip s = s) : Trimmed s := by
  constructor
  · intro c hc
    have hhead : s.dropWhile isSpace = s := by
      -- what is left of the left end is as long as the text
      have hlen : (strip s).length ≤ (s.dropWhile isSpace).length :=
        (List.rdropWhile_prefix isSpace _).length_le
      rw [h] at hlen
      exact (List.dropWhile_suffix isSpace).eq_of_length_le hlen
    have := List.head?_dropWhile_not isSpace s
    rw [hhead, Option.mem_def.1 hc] at this
    simpa using this
  · intro c hc
    have hlast : (s.dropWhile isSpace).rdropWhile isSpace = s := h
    have hne : s ≠ [] := by
      rintro rfl
      cases hc
    rw [List.getLast?_eq_some_getLast hne, Option.mem_some_iff] at hc
    subst hc
    have := List.rdropWhile_last_not isSpace (s.dropWhile isSpace) (by rwa [hlast])
    simpa [hlast] using this

/-- A whitespace character at the end is stripped. -/
theorem strip_concat_space {s : Str} {c : Char} (h : Trimmed s) (hc : isSpace c = true) :
    strip (s ++ [c]) = s := by
  have hs := strip_of_trimmed h
  cases s with
  | nil => simp [strip, hc]
  | cons d s =>
    have hd : isSpace d = false := h.1 d rfl
    rw [strip, List.dropWhile_cons_of_neg (by simp [hd])] at hs
    rw [strip, List.cons_append, List.dropWhile_cons_of_neg (by simp [hd]), ← List.cons_append,
      List.rdropWhile_concat_pos _ _ _ hc, hs]

theorem Trimmed.concat {s : Str} {c : Char} (h : Trimmed s) (hne : s ≠ [])
    (hc : isSpace c = false) : Trimmed (s ++ [c]) := by
  constructor
  · rw [List.head?_append_of_ne_nil _ hne]
    exact h.1
  · simpa using hc

/-- A field is not empty, and its ends are those of the key and the value, or the `=`. -/
theorem trimmed_argText {field : Str × Str} (hkey : Trimmed field.1) (hvalue : Trimmed field.2) :
    Trimmed (argText field) := by
  have heq : isSpace '=' = false := by decide
  obtain ⟨key, value⟩ := field
  constructor
  · intro c hc
    cases key with
    | nil =>
      cases hc
      exact heq
    | cons d key => exact hkey.1 c hc
  · intro c hc
    rw [argText, List.getLast?_append, List.getLast?_cons] at hc
    cases hlast : value.getLast? with
    | none =>
      rw [hlast] at hc
      cases hc
      exact heq
    | some d =>
      rw [hlast] at hc
      cases hc
      exact hvalue.2 d hlast

theorem argText_ne_nil (field : Str × Str) : argText field ≠ [] := by
  simp [argText]

/-- What is joined is trimmed where every piece is, and none is empty. -/
theorem trimmed_intercalate (sep : Char) {pieces : List Str}
    (h : ∀ piece ∈ pieces, piece ≠ [] ∧ Trimmed piece) :
    Trimmed ([sep].intercalate pieces) ∧ (pieces ≠ [] → [sep].intercalate pieces ≠ []) := by
  induction pieces with
  | nil => exact ⟨⟨by simp, by simp⟩, fun hne => absurd rfl hne⟩
  | cons a pieces ih =>
    obtain ⟨hane, hatrim⟩ := h a List.mem_cons_self
    cases pieces with
    | nil => simpa [List.intercalate] using ⟨hatrim, hane⟩
    | cons b pieces =>
      obtain ⟨ihtrim, ihne⟩ := ih fun piece hpiece => h piece (List.mem_cons_of_mem _ hpiece)
      have hrest := ihne (List.cons_ne_nil _ _)
      rw [intercalate_cons_cons]
      refine ⟨⟨?_, fun c hc => ?_⟩, fun _ hnil => hane (List.append_eq_nil_iff.1 hnil).1⟩
      · rw [List.head?_append_of_ne_nil _ hane]
        exact hatrim.1
      · rw [List.getLast?_append, List.getLast?_cons,
          List.getLast?_eq_some_getLast hrest] at hc
        exact ihtrim.2 c (by rw [List.getLast?_eq_some_getLast hrest]; exact hc)

/-! ### One record -/

section Record

variable {recordSep fieldSep : Char} {record : Dict Str Str}

/-- A field enters the dictionary as it was written. -/
theorem putPart_argText {result : Dict Str Str} {field : Str × Str}
    (hkey : strip field.1 = field.1) (heq : '=' ∉ field.1) (hvalue : strip field.2 = field.2) :
    putPart result (argText field) = result.set field.1 field.2 := by
  have hmem : (argText field).contains '=' = true := by simp [argText]
  rw [putPart, if_pos hmem, argText, partition_append heq]
  simp only [hkey, hvalue]

theorem IsWritable.trimmed (h : IsWritable recordSep fieldSep record) :
    Trimmed (recordText fieldSep record) ∧ recordText fieldSep record ≠ [] := by
  have hpieces : ∀ piece ∈ record.map argText, piece ≠ [] ∧ Trimmed piece := by
    intro piece hpiece
    obtain ⟨field, hfield, rfl⟩ := List.mem_map.1 hpiece
    exact ⟨argText_ne_nil field, trimmed_argText (trimmed_of_strip (h.keys field hfield).1.strip_eq)
      (trimmed_of_strip (h.values field hfield).strip_eq)⟩
  have hjoin := trimmed_intercalate fieldSep hpieces
  exact ⟨hjoin.1, hjoin.2 (by simpa using h.ne_nil)⟩

/-- A separator that is no `=` and stands in no field stands in no record. -/
theorem not_mem_argText {sep : Char} {field : Str × Str} (heq : sep ≠ '=') (hkey : sep ∉ field.1)
    (hvalue : sep ∉ field.2) : sep ∉ argText field := by
  simp [argText, heq, hkey, hvalue]

/-- A record is read back. -/
theorem parseRecord_recordText (h : IsWritable recordSep fieldSep record) (hsep : fieldSep ≠ '=') :
    parseRecord (recordText fieldSep record) fieldSep = record := by
  have hfold : ∀ (fields : List (Str × Str)) (result : Dict Str Str), (∀ field ∈ fields,
      strip field.1 = field.1 ∧ '=' ∉ field.1 ∧ strip field.2 = field.2) →
      (fields.map argText).foldl putPart result =
        fields.foldl (fun d p => d.set p.1 p.2) result := by
    intro fields
    induction fields with
    | nil => exact fun _ _ => rfl
    | cons field fields ih =>
      intro result hfields
      obtain ⟨hkey, heq, hvalue⟩ := hfields field List.mem_cons_self
      rw [List.map_cons, List.foldl_cons, List.foldl_cons, putPart_argText hkey heq hvalue]
      exact ih _ fun f hf => hfields f (List.mem_cons_of_mem _ hf)
  have hpieces : ∀ piece ∈ record.map argText, fieldSep ∉ piece := by
    intro piece hpiece
    obtain ⟨field, hfield, rfl⟩ := List.mem_map.1 hpiece
    exact not_mem_argText hsep (h.keys field hfield).1.field_not_mem
      (h.values field hfield).field_not_mem
  rw [parseRecord, strip_of_trimmed h.trimmed.1, recordText,
    List.splitOn_intercalate fieldSep hpieces (by simpa using h.ne_nil)]
  rw [hfold record [] fun field hfield => ⟨(h.keys field hfield).1.strip_eq,
    (h.keys field hfield).2, (h.values field hfield).strip_eq⟩]
  exact Dict.ofPairs_of_nodup h.nodup

end Record

/-! ### All records -/

variable {recordSep fieldSep : Char}

/-- What stands between the separators of a response, but for empty ends. -/
theorem filter_splitOn_recordsText {records : List (Dict Str Str)}
    (h : ∀ record ∈ records, IsWritable recordSep fieldSep record) (hne : recordSep ≠ fieldSep)
    (hrecord : recordSep ≠ '=') :
    ((recordsText recordSep fieldSep records).splitOn recordSep).filter (strip · ≠ []) =
      records.map (recordText fieldSep) := by
  have hpieces : ∀ piece ∈ records.map (recordText fieldSep), recordSep ∉ piece := by
    intro piece hpiece
    obtain ⟨record, hmem, rfl⟩ := List.mem_map.1 hpiece
    refine not_mem_intercalate hne fun field hfield => ?_
    obtain ⟨p, hp, rfl⟩ := List.mem_map.1 hfield
    exact not_mem_argText hrecord ((h record hmem).keys p hp).1.record_not_mem
      ((h record hmem).values p hp).record_not_mem
  by_cases hnil : records = []
  · subst hnil
    rfl
  · rw [recordsText, List.splitOn_intercalate recordSep hpieces (by simpa using hnil),
      List.filter_eq_self]
    intro piece hpiece
    obtain ⟨record, hmem, rfl⟩ := List.mem_map.1 hpiece
    have htrimmed := (h record hmem).trimmed
    simpa [strip_of_trimmed htrimmed.1] using htrimmed.2

/-- The pieces of a response are read one by one. -/
theorem parseRecords_of_pieces {response : Str} {records : List (Dict Str Str)}
    (h : ∀ record ∈ records, IsWritable recordSep fieldSep record) (hfield : fieldSep ≠ '=')
    (hpieces : ((strip response).splitOn recordSep).filter (strip · ≠ []) =
      records.map (recordText fieldSep)) :
    parseRecords response recordSep fieldSep = records := by
  unfold parseRecords
  split
  next hblank =>
    have hstrip : strip response = [] := by
      rcases hblank with rfl | hblank
      · rfl
      · exact hblank
    rw [hstrip] at hpieces
    cases records with
    | nil => rfl
    | cons record records => simp [strip] at hpieces
  next =>
    have hread : (records.map (recordText fieldSep)).map (parseRecord · fieldSep) = records := by
      rw [List.map_map]
      exact (List.map_congr_left fun record hmem =>
        parseRecord_recordText (h record hmem) hfield).trans (List.map_id _)
    rw [hpieces, hread, List.filter_eq_self]
    intro record hmem
    simpa using (h record hmem).ne_nil

/-- **Reading undoes writing.** Whatever was written, with a separator after the last record or
without one, is read back, in order. -/
theorem parseRecords_recordsText {records : List (Dict Str Str)}
    (h : ∀ record ∈ records, IsWritable recordSep fieldSep record) (hne : recordSep ≠ fieldSep)
    (hrecord : recordSep ≠ '=') (hfield : fieldSep ≠ '=') :
    parseRecords (recordsText recordSep fieldSep records) recordSep fieldSep = records ∧
      parseRecords (recordsText recordSep fieldSep records ++ [recordSep]) recordSep fieldSep =
        records := by
  have hsplit := filter_splitOn_recordsText h hne hrecord
  have hpieces : ∀ piece ∈ records.map (recordText fieldSep), piece ≠ [] ∧ Trimmed piece := by
    intro piece hpiece
    obtain ⟨record, hmem, rfl⟩ := List.mem_map.1 hpiece
    exact ⟨(h record hmem).trimmed.2, (h record hmem).trimmed.1⟩
  have htrimmed : Trimmed (recordsText recordSep fieldSep records) :=
    (trimmed_intercalate recordSep hpieces).1
  refine ⟨parseRecords_of_pieces h hfield (by rwa [strip_of_trimmed htrimmed]),
    parseRecords_of_pieces h hfield ?_⟩
  cases hspace : isSpace recordSep with
  | true => rwa [strip_concat_space htrimmed hspace]
  | false =>
    -- the separator stays, and what follows it is empty
    have hlast : Trimmed (recordsText recordSep fieldSep records ++ [recordSep]) := by
      by_cases hnil : recordsText recordSep fieldSep records = []
      · rw [hnil]
        exact ⟨by simpa using hspace, by simpa using hspace⟩
      · exact htrimmed.concat hnil hspace
    rw [strip_of_trimmed hlast, List.splitOn_append_cons_self, List.filter_append, hsplit]
    simp [strip]

/-- Two records with the default separators, the first with a `=` in a value. -/
theorem parseRecords_recordsText_twoRecords :
    parseRecords "ns=test:set=a=b;ns=bar;".toList ';' ':' =
      [[("ns".toList, "test".toList), ("set".toList, "a=b".toList)],
        [("ns".toList, "bar".toList)]] :=
  (@parseRecords_recordsText ';' ':'
    [[("ns".toList, "test".toList), ("set".toList, "a=b".toList)], [("ns".toList, "bar".toList)]]
    (by decide) (by decide) (by decide) (by decide)).2

end ClusterManager.Info
