import ClusterManager.Info.Names
import ClusterManager.Lib.Delimited
import ClusterManager.Lib.Numerals

/-!
# Info frames built from requests

Six endpoints build an info command from the fields of a request, and none of them asks the
info-command gate. Each field is checked where the request is validated and again in front of the
wire, so that what the server reads is what the request says.
-/

namespace ClusterManager.Info

open Delimited

/-! ### Requests -/

/-- The type of a secondary index. -/
inductive IndexType
  | numeric
  | string
  | geo2dsphere
  deriving DecidableEq

/-- The type as it is written. -/
def IndexType.text : IndexType → Str
  | .numeric => "numeric".toList
  | .string => "string".toList
  | .geo2dsphere => "geo2dsphere".toList

/-- `CreateIndexRequest`. -/
structure CreateIndexRequest where
  namespace_ : Str
  set : Str
  bin : Str
  name : Str
  type : IndexType
  namespace_valid : isName isNsChar 31 namespace_ = true
  set_valid : isName isInfoNameChar 63 set = true
  bin_valid : isBinName bin = true
  name_valid : isName isInfoNameChar 255 name = true

/-- The parameters of `delete_index`. -/
structure DeleteIndexRequest where
  ns : Str
  name : Str
  ns_valid : isName isNsChar 31 ns = true
  name_valid : isName isInfoNameChar 255 name = true

/-- The path and the body of `truncate_set`. -/
structure TruncateSetRequest where
  namespace_ : Str
  setName : Str
  beforeLut : Option ℤ
  namespace_valid : isName isNsChar 31 namespace_ = true
  setName_valid : isName isInfoNameChar 63 setName = true

/-- `CreateSampleDataRequest`, with the suffix the service draws for the names of its indexes. -/
structure SampleDataRequest where
  namespace_ : Str
  setName : Str
  createIndexes : Bool
  suffix : Str
  namespace_valid : isName isNsChar 31 namespace_ = true
  setName_valid : isName isInfoNameChar 63 setName = true
  suffix_hex : suffix.length = 6 ∧ suffix.all Numerals.isLowerHex = true

/-- The parameter of `delete_udf`. -/
structure DeleteUdfRequest where
  filename : Str
  filename_valid : isName isUdfChar 255 filename = true

/-- `CreateNamespaceRequest`. A parameter that is not supplied is `none`. -/
structure ConfigureNamespaceRequest where
  name : Str
  memorySize : Option ℤ
  replicationFactor : Option ℤ
  name_valid : isName isNsChar 63 name = true
  memorySize_valid : ∀ n ∈ memorySize, 1000000 ≤ n
  replicationFactor_valid : ∀ n ∈ replicationFactor, 1 ≤ n ∧ n ≤ 8

/-- A request of one of the six endpoints. `existing` are the namespaces the cluster lists. -/
inductive InfoRequest
  | createIndex (body : CreateIndexRequest)
  | deleteIndex (query : DeleteIndexRequest)
  | truncateSet (body : TruncateSetRequest)
  | createSampleData (body : SampleDataRequest)
  | deleteUdf (query : DeleteUdfRequest)
  | configureNamespace (body : ConfigureNamespaceRequest) (existing : List Str)

/-! ### What the driver writes -/

/-- The verbs and the names of arguments. -/
inductive Word
  | sindexCreate
  | sindexDelete
  | truncate
  | udfRemove
  | setConfig
  | namespace
  | set
  | indexname
  | indexdata
  | lut
  | filename
  | context
  | id
  | memorySize
  | replicationFactor
  deriving DecidableEq

/-- A word as it is written. -/
def Word.text : Word → Str
  | .sindexCreate => "sindex-create".toList
  | .sindexDelete => "sindex-delete".toList
  | .truncate => "truncate".toList
  | .udfRemove => "udf-remove".toList
  | .setConfig => "set-config".toList
  | .namespace => "namespace".toList
  | .set => "set".toList
  | .indexname => "indexname".toList
  | .indexdata => "indexdata".toList
  | .lut => "lut".toList
  | .filename => "filename".toList
  | .context => "context".toList
  | .id => "id".toList
  | .memorySize => "memory-size".toList
  | .replicationFactor => "replication-factor".toList

/-- A command of words and values. -/
def command (verb : Word) (args : List (Word × Str)) : Command where
  verb := verb.text
  args := args.map fun arg => (arg.1.text, arg.2)

/-- `sindex-create`. -/
def sindexCreate (ns set bin name : Str) (type : IndexType) : Command :=
  command .sindexCreate
    [(.namespace, ns), (.set, set), (.indexname, name), (.indexdata, bin ++ ',' :: type.text)]

/-- `sindex-delete`. -/
def sindexDelete (ns name : Str) : Command :=
  command .sindexDelete [(.namespace, ns), (.indexname, name)]

/-- `truncate`. A cutoff of zero is not written. -/
def truncate (ns set : Str) (nanos : ℤ) : Command :=
  command .truncate ([(.namespace, ns), (.set, set)] ++
    if nanos = 0 then [] else [(.lut, Numerals.intText nanos)])

/-- `udf-remove`. -/
def udfRemove (filename : Str) : Command := command .udfRemove [(.filename, filename)]

/-- `set-config` of a namespace. -/
def setConfig (name : Str) (params : List (Word × ℤ)) : Command :=
  command .setConfig ([(.context, Word.namespace.text), (.id, name)] ++
    params.map fun p => (p.1, Numerals.intText p.2))

/-! ### The handlers -/

/-- Why a handler sends no frame. -/
inductive InfoRefusal
  | invalidArgument (e : InvalidInfoArgument)
  | nonPositiveLut
  | noParameter
  | namespaceNotFound (name : Str)
  deriving DecidableEq

/-- A backstop in front of the wire. -/
def checked (check : Except InvalidInfoArgument Str) : Except InfoRefusal Str :=
  check.mapError .invalidArgument

/-- `create_index`, as far as the frame. -/
def createIndex (body : CreateIndexRequest) : Except InfoRefusal (List Str) := do
  let ns ← checked (checkedNs body.namespace_)
  let name ← checked (checkedInfoName body.name "index name")
  let set ← checked (checkedInfoName body.set "set name")
  return [(sindexCreate ns set body.bin name body.type).text]

/-- `delete_index`. -/
def deleteIndex (query : DeleteIndexRequest) : Except InfoRefusal (List Str) := do
  let ns ← checked (checkedNs query.ns)
  let name ← checked (checkedInfoName query.name "index name")
  return [(sindexDelete ns name).text]

/-- `truncate_set`. -/
def truncateSet (body : TruncateSetRequest) : Except InfoRefusal (List Str) := do
  let ns ← checked (checkedNs body.namespace_)
  let set ← checked (checkedInfoName body.setName "set name")
  if body.beforeLut.any (· ≤ 0) then .error .nonPositiveLut
  else return [(truncate ns set (body.beforeLut.getD 0)).text]

/-- `SAMPLE_INDEXES`. -/
def sampleIndexes : List (Str × Str × IndexType) :=
  [("idx_bin_int".toList, "bin_int".toList, .numeric),
    ("idx_bin_str".toList, "bin_str".toList, .string),
    ("idx_bin_double".toList, "bin_double".toList, .numeric),
    ("idx_bin_bool".toList, "bin_bool".toList, .numeric),
    ("idx_bin_geojson".toList, "bin_geojson".toList, .geo2dsphere)]

/-- The commands `create_sample_records` sends for its indexes. -/
def sampleCommands (ns set suffix : Str) : List Command :=
  sampleIndexes.map fun index => sindexCreate ns set index.2.1 (index.1 ++ '_' :: suffix) index.2.2

/-- `create_sample_records`, as far as the frames. -/
def createSampleRecords (body : SampleDataRequest) : Except InfoRefusal (List Str) := do
  let ns ← checked (checkedNs body.namespace_)
  let set ← checked (checkedInfoName body.setName "set name")
  return if body.createIndexes then (sampleCommands ns set body.suffix).map Command.text else []

/-- `delete_udf`. The frame ends with a `;`. -/
def deleteUdf (query : DeleteUdfRequest) : Except InfoRefusal (List Str) := do
  let filename ← checked (checkedUdfFilename query.filename)
  return [(udfRemove filename).text ++ [';']]

/-- `NS_CONFIG_PARAMS`, with what the request supplies for them. -/
def ConfigureNamespaceRequest.params (body : ConfigureNamespaceRequest) : List (Word × ℤ) :=
  (body.memorySize.toList.map fun n => (.memorySize, n)) ++
    body.replicationFactor.toList.map fun n => (.replicationFactor, n)

/-- `configure_namespace`. -/
def configureNamespace (body : ConfigureNamespaceRequest) (existing : List Str) :
    Except InfoRefusal (List Str) :=
  if body.params = [] then .error .noParameter
  else if body.name ∉ existing then .error (.namespaceNotFound body.name)
  else .ok [(setConfig body.name body.params).text]

namespace InfoRequest

/-- The frames a request makes the API send. -/
def frames : InfoRequest → Except InfoRefusal (List Str)
  | .createIndex body => Info.createIndex body
  | .deleteIndex query => Info.deleteIndex query
  | .truncateSet body => Info.truncateSet body
  | .createSampleData body => createSampleRecords body
  | .deleteUdf query => Info.deleteUdf query
  | .configureNamespace body existing => Info.configureNamespace body existing

/-- The commands a request asks for, with its own values. -/
def commands : InfoRequest → List Command
  | .createIndex body =>
      [sindexCreate body.namespace_ body.set body.bin body.name body.type]
  | .deleteIndex query => [sindexDelete query.ns query.name]
  | .truncateSet body => [truncate body.namespace_ body.setName (body.beforeLut.getD 0)]
  | .createSampleData body =>
      if body.createIndexes then sampleCommands body.namespace_ body.setName body.suffix else []
  | .deleteUdf query => [udfRemove query.filename]
  | .configureNamespace body _ => [setConfig body.name body.params]

/-- The bins and types of the indexes a request asks for. -/
def indexData : InfoRequest → List (Str × Str)
  | .createIndex body => [(body.bin, body.type.text)]
  | .createSampleData body =>
      if body.createIndexes then sampleIndexes.map fun index => (index.2.1, index.2.2.text) else []
  | _ => []

end InfoRequest

/-- The bin and the type of the index a command creates, as they are read. -/
def readIndexData (c : Command) : Option (Str × Str) :=
  (c.args.lookup Word.indexdata.text).map splitLastComma

/-- Every frame of a request is one command, and is read as the request says. -/
def Framed (r : InfoRequest) : Prop :=
  ∀ frames, r.frames = .ok frames →
    frames.map readFrame = r.commands.map ([·]) ∧
      (frames.flatMap readFrame).filterMap readIndexData = r.indexData

/-! ### Names and values -/

theorem Word.sound (w : Word) :
    '\n' ∉ w.text ∧ ';' ∉ w.text ∧ '=' ∉ w.text ∧ ':' ∉ w.text := by
  cases w <;> decide

/-- The names of a command of words are sound. -/
theorem named_command (verb : Word) (args : List (Word × Str)) : (command verb args).Named := by
  refine ⟨⟨verb.sound.1, verb.sound.2.2.2⟩, fun arg harg => ?_⟩
  obtain ⟨a, -, rfl⟩ := List.mem_map.1 harg
  exact ⟨a.1.sound.1, a.1.sound.2.1, a.1.sound.2.2.1⟩

/-- A value without separators. -/
def PlainValue (value : Str) : Prop := '\n' ∉ value ∧ ';' ∉ value

theorem plainValue_of_isName {p : Char → Bool} {max : ℕ} {name : Str} (h : isName p max name = true)
    (hline : p '\n' = false) (hsemi : p ';' = false) : PlainValue name :=
  ⟨not_mem_of_isName h hline, not_mem_of_isName h hsemi⟩

theorem plainValue_ns {max : ℕ} {name : Str} (h : isName isNsChar max name = true) :
    PlainValue name :=
  plainValue_of_isName h (by decide) (by decide)

theorem plainValue_infoName {max : ℕ} {name : Str} (h : isName isInfoNameChar max name = true) :
    PlainValue name :=
  plainValue_of_isName h (by decide) (by decide)

theorem plainValue_intText (n : ℤ) : PlainValue (Numerals.intText n) := by
  have hchar : ∀ c, c = '\n' ∨ c = ';' → c ∉ Numerals.intText n := by
    rintro c hc hm
    rcases Numerals.of_mem_intText hm with hd | rfl
    · rcases hc with rfl | rfl <;> exact absurd hd (by decide)
    · rcases hc with hc | hc <;> exact absurd hc (by decide)
  exact ⟨hchar _ (Or.inl rfl), hchar _ (Or.inr rfl)⟩

theorem plainValue_append {a b : Str} : PlainValue (a ++ b) ↔ PlainValue a ∧ PlainValue b := by
  simp only [PlainValue, List.mem_append, not_or]
  tauto

theorem plainValue_type (type : IndexType) : PlainValue (',' :: type.text) := by
  cases type <;> exact ⟨by decide, by decide⟩

/-- A command of words is plain where its values are. -/
theorem plain_command {verb : Word} {args : List (Word × Str)} :
    (command verb args).Plain ↔ ∀ arg ∈ args, PlainValue arg.2 := by
  simp only [Command.Plain, command, List.forall_mem_map, PlainValue]

/-- The values of an index are plain where the bin is. -/
theorem plain_sindexCreate {ns set bin name : Str} {type : IndexType} (hns : PlainValue ns)
    (hset : PlainValue set) (hname : PlainValue name) :
    (sindexCreate ns set bin name type).Plain ↔ PlainValue bin := by
  have hdata : PlainValue (bin ++ ',' :: type.text) ↔ PlainValue bin :=
    plainValue_append.trans (and_iff_left (plainValue_type type))
  rw [sindexCreate, plain_command]
  simp [hns, hset, hname, hdata]

theorem text_beq_indexdata (w : Word) :
    (Word.indexdata.text == w.text) = decide (w = .indexdata) := by
  cases w <;> decide

/-- The data of an index is looked up by its word. -/
theorem readIndexData_command (verb : Word) (args : List (Word × Str)) :
    readIndexData (command verb args) =
      ((args.find? (·.1 = .indexdata)).map Prod.snd).map splitLastComma := by
  rw [readIndexData, command]
  congr 1
  induction args with
  | nil => rfl
  | cons arg args ih =>
    rw [List.map_cons, List.lookup_cons, text_beq_indexdata, List.find?_cons]
    split
    · rfl
    · exact ih

/-- A command without index data has none to read. -/
theorem filterMap_readIndexData {verb : Word} {args : List (Word × Str)}
    (h : ∀ arg ∈ args, arg.1 ≠ .indexdata) : [command verb args].filterMap readIndexData = [] := by
  have hnone : args.find? (·.1 = .indexdata) = none :=
    List.find?_eq_none.2 fun arg harg => by simpa using h arg harg
  rw [List.filterMap_cons, readIndexData_command, hnone]
  rfl

/-- The data of an index is told apart again, whatever the bin is. -/
theorem readIndexData_sindexCreate (ns set bin name : Str) (type : IndexType) :
    readIndexData (sindexCreate ns set bin name type) = some (bin, type.text) := by
  have htype : ',' ∉ type.text := by cases type <;> decide
  rw [sindexCreate, readIndexData_command]
  exact congrArg some (splitLastComma_append htype)

/-! ### Framing -/

/-- Plain commands are framed, with nothing in front of the wire that refuses them. -/
theorem map_readFrame (commands : List Command) (h : ∀ c ∈ commands, c.Named ∧ c.Plain) :
    (commands.map Command.text).map readFrame = commands.map ([·]) := by
  rw [List.map_map]
  exact List.map_congr_left fun c hc => readFrame_text (h c hc).1 (h c hc).2

theorem flatMap_readFrame {frames : List Str} {commands : List Command}
    (h : frames.map readFrame = commands.map ([·])) : frames.flatMap readFrame = commands := by
  rw [List.flatMap_def, h, ← List.flatMap_def]
  exact List.flatMap_singleton' commands

/-- Where the frames are read as they should, so is the data of the indexes. -/
theorem framed_of_read {r : InfoRequest}
    (hread : ∀ frames, r.frames = .ok frames → frames.map readFrame = r.commands.map ([·]))
    (hdata : r.commands.filterMap readIndexData = r.indexData) : Framed r := by
  intro frames h
  exact ⟨hread frames h, by rw [flatMap_readFrame (hread frames h), hdata]⟩

/-- The frames of an accepted index request. -/
theorem frames_createIndex (body : CreateIndexRequest) : (InfoRequest.createIndex body).frames =
    .ok [(sindexCreate body.namespace_ body.set body.bin body.name body.type).text] := by
  have hns : checkedNs body.namespace_ = .ok body.namespace_ := if_pos body.namespace_valid
  simp only [InfoRequest.frames, createIndex, checked, hns,
    checkedInfoName_of_isName _ body.name_valid, checkedInfoName_of_isName _ body.set_valid]
  rfl

/-- An index request is framed exactly where its bin holds no `;`. -/
theorem framed_createIndex (body : CreateIndexRequest) :
    Framed (.createIndex body) ↔ ';' ∉ body.bin := by
  have hplain : (sindexCreate body.namespace_ body.set body.bin body.name body.type).Plain ↔
      ';' ∉ body.bin :=
    (plain_sindexCreate (plainValue_ns body.namespace_valid) (plainValue_infoName body.set_valid)
      (plainValue_infoName body.name_valid)).trans
        (and_iff_right (newline_not_mem_binName body.bin_valid))
  rw [← hplain, ← readFrame_text_iff (c := sindexCreate ..) (named_command _ _)]
  constructor
  · intro h
    have := (h _ (frames_createIndex body)).1
    simpa [InfoRequest.commands] using this
  · intro h
    refine framed_of_read (fun frames hframes => ?_) ?_
    · rw [frames_createIndex] at hframes
      cases hframes
      simpa [InfoRequest.commands] using h
    · simp [InfoRequest.commands, InfoRequest.indexData, readIndexData_sindexCreate]

/-- An index deletion is framed. -/
theorem framed_deleteIndex (query : DeleteIndexRequest) : Framed (.deleteIndex query) := by
  have hns : checkedNs query.ns = .ok query.ns := if_pos query.ns_valid
  have hplain : (sindexDelete query.ns query.name).Plain := by
    rw [sindexDelete, plain_command]
    simp [plainValue_ns query.ns_valid, plainValue_infoName query.name_valid]
  refine framed_of_read (fun frames h => ?_) ?_
  · simp only [InfoRequest.frames, deleteIndex, checked, hns,
      checkedInfoName_of_isName _ query.name_valid] at h
    cases h
    exact map_readFrame [_] (by simpa using ⟨named_command _ _, hplain⟩)
  · exact filterMap_readIndexData (by simp)

/-- A truncation is framed. -/
theorem framed_truncateSet (body : TruncateSetRequest) : Framed (.truncateSet body) := by
  have hns : checkedNs body.namespace_ = .ok body.namespace_ := if_pos body.namespace_valid
  have hplain : (truncate body.namespace_ body.setName (body.beforeLut.getD 0)).Plain := by
    rw [truncate, plain_command]
    split <;> simp [plainValue_ns body.namespace_valid, plainValue_infoName body.setName_valid,
      plainValue_intText]
  refine framed_of_read (fun frames h => ?_) ?_
  · simp only [InfoRequest.frames, truncateSet, checked, hns,
      checkedInfoName_of_isName _ body.setName_valid] at h
    by_cases hlut : body.beforeLut.any (· ≤ 0) = true
    · simp [hlut, Except.mapError, bind, Except.bind] at h
    · simp only [hlut] at h
      cases h
      exact map_readFrame [_] (by simpa using ⟨named_command _ _, hplain⟩)
  · refine filterMap_readIndexData ?_
    split <;> simp

/-- The indexes of the sample data are framed. -/
theorem framed_createSampleData (body : SampleDataRequest) : Framed (.createSampleData body) := by
  have hns : checkedNs body.namespace_ = .ok body.namespace_ := if_pos body.namespace_valid
  have hindex : ∀ index ∈ sampleIndexes, PlainValue index.1 ∧ PlainValue index.2.1 := by
    simp only [PlainValue]
    decide
  have hsuffix : PlainValue ('_' :: body.suffix) := by
    have hall := List.all_eq_true.1 body.suffix_hex.2
    have hchar : ∀ c, Numerals.isLowerHex c = false → c ≠ '_' → c ∉ '_' :: body.suffix := by
      intro c hc hne hm
      rcases List.mem_cons.1 hm with hm | hm
      · exact hne hm
      · rw [hall c hm] at hc
        cases hc
    exact ⟨hchar _ (by decide) (by decide), hchar _ (by decide) (by decide)⟩
  have hcommands : ∀ c ∈ sampleCommands body.namespace_ body.setName body.suffix,
      c.Named ∧ c.Plain := by
    intro c hc
    obtain ⟨index, hmem, rfl⟩ := List.mem_map.1 hc
    refine ⟨named_command _ _, ?_⟩
    exact (plain_sindexCreate (plainValue_ns body.namespace_valid)
      (plainValue_infoName body.setName_valid)
      (plainValue_append.2 ⟨(hindex index hmem).1, hsuffix⟩)).2 (hindex index hmem).2
  refine framed_of_read (fun frames h => ?_) ?_
  · simp only [InfoRequest.frames, createSampleRecords, checked, hns,
      checkedInfoName_of_isName _ body.setName_valid] at h
    cases h
    simp only [InfoRequest.commands]
    split
    · exact map_readFrame _ hcommands
    · rfl
  · simp only [InfoRequest.commands, InfoRequest.indexData]
    split
    · rw [sampleCommands, List.filterMap_map]
      refine (List.filterMap_congr fun index _ => readIndexData_sindexCreate _ _ _ _ _).trans ?_
      exact congrFun List.filterMap_eq_map' _
    · rfl

/-- A module removal is framed. -/
theorem framed_deleteUdf (query : DeleteUdfRequest) : Framed (.deleteUdf query) := by
  have hfile : checkedUdfFilename query.filename = .ok query.filename :=
    if_pos query.filename_valid
  have hplain : (udfRemove query.filename).Plain := by
    rw [udfRemove, plain_command]
    simp [plainValue_of_isName query.filename_valid (by decide) (by decide)]
  refine framed_of_read (fun frames h => ?_) ?_
  · simp only [InfoRequest.frames, deleteUdf, checked, hfile] at h
    cases h
    simp [InfoRequest.commands, readFrame_terminated (c := udfRemove ..) (named_command _ _) hplain]
  · exact filterMap_readIndexData (by simp)

/-- A configuration of a namespace is framed. -/
theorem framed_configureNamespace (body : ConfigureNamespaceRequest) (existing : List Str) :
    Framed (.configureNamespace body existing) := by
  have hplain : (setConfig body.name body.params).Plain := by
    rw [setConfig, plain_command]
    have hword : PlainValue Word.namespace.text :=
      ⟨Word.namespace.sound.1, Word.namespace.sound.2.1⟩
    intro arg harg
    rcases List.mem_append.1 harg with harg | harg
    · rcases List.mem_cons.1 harg with rfl | harg
      · exact hword
      · rw [List.mem_singleton.1 harg]
        exact plainValue_ns body.name_valid
    · obtain ⟨p, -, rfl⟩ := List.mem_map.1 harg
      exact plainValue_intText _
  refine framed_of_read (fun frames h => ?_) ?_
  · simp only [InfoRequest.frames, configureNamespace] at h
    split_ifs at h
    cases h
    exact map_readFrame [_] (by simpa using ⟨named_command _ _, hplain⟩)
  · refine filterMap_readIndexData fun arg harg => ?_
    rcases List.mem_append.1 harg with harg | harg
    · rcases List.mem_cons.1 harg with rfl | harg
      · simp
      · rw [List.mem_singleton.1 harg]
        simp
    · obtain ⟨p, hp, rfl⟩ := List.mem_map.1 harg
      rcases List.mem_append.1 hp with hp | hp
      · obtain ⟨n, -, rfl⟩ := List.mem_map.1 hp
        simp
      · obtain ⟨n, -, rfl⟩ := List.mem_map.1 hp
        simp

/-- The requests whose bin holds no `;`. Only an index request names a bin. -/
def BinHasNoSemicolon : InfoRequest → Prop
  | .createIndex body => ';' ∉ body.bin
  | _ => True

/-- A request is framed exactly where its bin holds no `;`. -/
theorem framed_iff (r : InfoRequest) : Framed r ↔ BinHasNoSemicolon r := by
  cases r with
  | createIndex body => exact framed_createIndex body
  | deleteIndex query => exact iff_of_true (framed_deleteIndex query) trivial
  | truncateSet body => exact iff_of_true (framed_truncateSet body) trivial
  | createSampleData body => exact iff_of_true (framed_createSampleData body) trivial
  | deleteUdf query => exact iff_of_true (framed_deleteUdf query) trivial
  | configureNamespace body existing =>
      exact iff_of_true (framed_configureNamespace body existing) trivial

/-- A gigabyte and two copies for the namespace `test`. -/
def testNamespace : ConfigureNamespaceRequest where
  name := "test".toList
  memorySize := some 1073741824
  replicationFactor := some 2
  name_valid := by decide
  memorySize_valid := by decide
  replicationFactor_valid := by decide

/-- The frame of a configuration is read as its one command, with both parameters. -/
theorem framed_iff_configureNamespace : ∃ frames,
    (InfoRequest.configureNamespace testNamespace ["test".toList]).frames = .ok frames ∧
      frames.map readFrame =
        [[setConfig "test".toList [(.memorySize, 1073741824), (.replicationFactor, 2)]]] := by
  refine ⟨_, rfl, ?_⟩
  exact ((framed_iff (.configureNamespace testNamespace ["test".toList])).2 trivial _ rfl).1

/-- An index on a bin named `a;type=x`. -/
def injectingRequest : CreateIndexRequest where
  namespace_ := "test".toList
  set := "demo".toList
  bin := "a;type=x".toList
  name := "idx".toList
  type := .numeric
  namespace_valid := by decide
  set_valid := by decide
  bin_valid := by decide
  name_valid := by decide

/-- A bin can add an argument of its own to the command that creates its index. -/
theorem not_framed_injection : ¬∀ r : InfoRequest, Framed r := by
  intro h
  have hread := (h (.createIndex injectingRequest) _ (frames_createIndex injectingRequest)).1
  exact absurd hread (by decide)

end ClusterManager.Info
