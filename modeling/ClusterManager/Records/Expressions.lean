import ClusterManager.Errors
import ClusterManager.Info.Names
import ClusterManager.Records.Converters

/-!
# Filter expressions

`build_expression` turns the filter group of a request into the expression the server evaluates on
every record of a scan. An expression is true, false or unknown of a record, and a record is
returned where it is true. What the server makes of regular expressions, of geo values and of
comparisons is a parameter (`Server`), as are the conversions of floating-point numbers (`Python`).
-/

namespace ClusterManager.Records

open Numerals Info

/-! ### Values -/

/-- A value of a request, as JSON decodes it. A missing value is an `Option`. -/
inductive BinValue (F : Type)
  | bool (b : Bool)
  | int (n : ℤ)
  | float (x : F)
  | str (text : Str)
  | list (items : List (BinValue F))
  | dict (entries : List (Str × BinValue F))

/-- What the builders raise: `InvalidFilterValueError`, `InvalidPkPatternError`, the
`OverflowError` of a conversion between floats and integers or of a repeat count, or a `ValueError`
of neither class. -/
inductive FilterError
  | invalidFilterValue
  | invalidPkPattern
  | overflow
  | valueError
  deriving DecidableEq

/-- What `re.compile` raises. -/
inductive CompileError
  | reError
  | overflow
  | valueError
  deriving DecidableEq

/-- The conversions of the standard library that involve floats, `repr`, JSON and `re`. -/
structure Python (F : Type) where
  floatOfInt : ℤ → Option F
  parseFloat : Str → Option F
  truncate : F → Except FilterError ℤ
  isZero : F → Bool
  str : BinValue F → Str
  dumps : BinValue F → Str
  compiles : Str → Except CompileError Unit

/-- `BinDataType`. -/
inductive BinDataType
  | integer
  | float
  | string
  | bool
  | list
  | map
  | geo
  deriving DecidableEq

/-- A value as the server stores it. -/
inductive Particle (F : Type)
  | integer (n : ℤ)
  | float (x : F)
  | string (text : Str)
  | bool (b : Bool)
  | list (items : List (Particle F))
  | map (entries : List (Particle F × Particle F))
  | geo (json : Str)

variable {F : Type}

/-- The type of a stored value. -/
def Particle.dataType : Particle F → BinDataType
  | .integer _ => .integer
  | .float _ => .float
  | .string _ => .string
  | .bool _ => .bool
  | .list _ => .list
  | .map _ => .map
  | .geo _ => .geo

/-- A record of the server, under its key. The key itself is kept only where it was sent. -/
structure StoredRecord (F : Type) where
  namespace_ : Str
  set : Str
  key : PrimaryKey
  keySent : Bool
  bins : List (Str × Particle F)

/-- The value of a bin. -/
def StoredRecord.bin (r : StoredRecord F) (name : Str) : Option (Particle F) := r.bins.lookup name

/-- The value of a bin, where it has a type. -/
def StoredRecord.typedBin (r : StoredRecord F) (type : BinDataType) (name : Str) :
    Option (Particle F) :=
  (r.bin name).filter (·.dataType = type)

/-! ### Expressions -/

/-- A comparison. -/
inductive CmpOp
  | eq
  | ne
  | gt
  | ge
  | lt
  | le
  deriving DecidableEq

/-- A typed bin or a constant. -/
inductive Operand (F : Type)
  | bin (type : BinDataType) (name : Str)
  | val (p : Particle F)

/-- What a regular expression is matched against: a string bin, or the key as a string. -/
inductive Subject
  | stringBin (name : Str)
  | key
  deriving DecidableEq

/-- The expressions of `aerospike_py.exp` the builder uses. -/
inductive Exp (F : Type)
  | compare (op : CmpOp) (left right : Operand F)
  | regexCompare (pattern : Str) (flags : ℕ) (subject : Subject)
  | binExists (name : Str)
  | geoCompare (left right : Operand F)
  | not (e : Exp F)
  | and (es : List (Exp F))
  | or (es : List (Exp F))

/-- A predicate of `aerospike_py.predicates`. `contains` looks into a list. -/
inductive Where (F : Type)
  | equals (bin : Str) (value : BinValue F)
  | between (bin : Str) (lower upper : BinValue F)
  | contains (bin : Str) (value : BinValue F)
  | geoWithinRegion (bin json : Str)
  | geoContainsPoint (bin json : Str)

/-- The server: comparisons of stored values, `regcomp` with flags, geo comparisons, what a
secondary-index predicate selects, and what a textual expression means. -/
structure Server (F : Type) where
  compare : CmpOp → Particle F → Particle F → Option Bool
  regex : Str → ℕ → Str → Bool
  geo : Particle F → Particle F → Bool
  select : Where F → StoredRecord F → Bool
  expression : Str → StoredRecord F → Bool

/-- `and` of truth values: false wins over unknown. -/
def allOf (values : List (Option Bool)) : Option Bool :=
  if some false ∈ values then some false else if none ∈ values then none else some true

/-- `or` of truth values: true wins over unknown. -/
def anyOf (values : List (Option Bool)) : Option Bool :=
  if some true ∈ values then some true else if none ∈ values then none else some false

/-- The value of an operand. A bin without it, or with another type, is unknown. -/
def Operand.eval (r : StoredRecord F) : Operand F → Option (Particle F)
  | .bin type name => r.typedBin type name
  | .val p => some p

/-- The text of a subject. A key that is no string, or was not sent, is unknown. -/
def Subject.eval (r : StoredRecord F) : Subject → Option Str
  | .stringBin name =>
      match r.bin name with
      | some (.string text) => some text
      | _ => none
  | .key =>
      match r.keySent, r.key with
      | true, .string text => some text
      | _, _ => none

mutual

/-- The truth value of an expression. -/
def Exp.eval (server : Server F) (r : StoredRecord F) : Exp F → Option Bool
  | .compare op left right =>
      (left.eval r).bind fun l => (right.eval r).bind fun v => server.compare op l v
  | .regexCompare pattern flags subject => (subject.eval r).map (server.regex pattern flags)
  | .binExists name => some (r.bin name).isSome
  | .geoCompare left right =>
      (left.eval r).bind fun l => (right.eval r).map fun v => server.geo l v
  | .not e => (e.eval server r).map (!·)
  | .and es => allOf (evalAll server r es)
  | .or es => anyOf (evalAll server r es)

/-- The truth values of expressions. -/
def evalAll (server : Server F) (r : StoredRecord F) : List (Exp F) → List (Option Bool)
  | [] => []
  | e :: es => e.eval server r :: evalAll server r es

end

theorem allOf_eq_true {values : List (Option Bool)} :
    allOf values = some true ↔ ∀ v ∈ values, v = some true := by
  unfold allOf
  split_ifs with hfalse hnone
  · simp only [Option.some.injEq, Bool.false_eq_true, false_iff, not_forall]
    exact ⟨some false, hfalse, by simp⟩
  · simp only [false_iff, not_forall]
    exact ⟨none, hnone, by simp⟩
  · refine iff_of_true rfl fun v hv => ?_
    rcases v with _ | _ | _
    · exact absurd hv hnone
    · exact absurd hv hfalse
    · rfl

theorem anyOf_eq_true {values : List (Option Bool)} :
    anyOf values = some true ↔ some true ∈ values := by
  unfold anyOf
  split_ifs <;> simp_all

theorem mem_evalAll {server : Server F} {r : StoredRecord F} {es : List (Exp F)}
    {v : Option Bool} : v ∈ evalAll server r es ↔ ∃ e ∈ es, e.eval server r = v := by
  induction es with
  | nil => simp [evalAll]
  | cons e es ih => simp [evalAll, ih, eq_comm]

/-- A conjunction holds where all its parts do. -/
theorem eval_and {server : Server F} {r : StoredRecord F} {es : List (Exp F)} :
    (Exp.and es).eval server r = some true ↔ ∀ e ∈ es, e.eval server r = some true := by
  rw [Exp.eval, allOf_eq_true]
  simp only [mem_evalAll, forall_exists_index, and_imp, forall_apply_eq_imp_iff₂]

/-- A disjunction holds where one of its parts does. -/
theorem eval_or {server : Server F} {r : StoredRecord F} {es : List (Exp F)} :
    (Exp.or es).eval server r = some true ↔ ∃ e ∈ es, e.eval server r = some true := by
  rw [Exp.eval, anyOf_eq_true, mem_evalAll]

/-! ### Conditions -/

/-- `FilterOperator`. The first six operators compare. -/
inductive FilterOperator
  | cmp (op : CmpOp)
  | between
  | contains
  | notContains
  | regex
  | exists_
  | notExists
  | isTrue
  | isFalse
  | geoWithin
  | geoContains
  | pkPrefix
  | pkRegex
  deriving DecidableEq

/-- `PK_OPERATORS`. -/
def FilterOperator.isPk (op : FilterOperator) : Bool := op = .pkPrefix || op = .pkRegex

/-- `PK_BIN_PLACEHOLDER`. -/
def pkBinPlaceholder : Str := ['_', '_', 'p', 'k', '_', '_']

/-- A `FilterCondition`, with what its validators ask for. -/
structure FilterCondition (F : Type) where
  bin : Str
  operator : FilterOperator
  value : Option (BinValue F)
  value2 : Option (BinValue F)
  binType : BinDataType
  bin_valid : isBinName bin = true
  pk_paired : operator.isPk = true ↔ bin = pkBinPlaceholder
  pk_string : operator.isPk = true → ∃ text, value = some (.str text)

/-- Whether all conditions must hold, or one of them. -/
inductive Logic
  | and
  | or
  deriving DecidableEq

/-- A `FilterGroup`. -/
structure FilterGroup (F : Type) where
  logic : Logic
  conditions : List (FilterCondition F)
  length_valid : 1 ≤ conditions.length ∧ conditions.length ≤ 20

/-- `REGEX_FLAG_ICASE`. -/
def regexFlagIcase : ℕ := 2

/-- `_MAX_REGEX_PATTERN_LENGTH`. -/
def maxRegexPatternLength : ℕ := 256

/-- The characters `re.escape` puts a backslash in front of. -/
def reSpecials : Str :=
  backslash :: "()[]\x7b\x7d?*+-|^$.&~# \t\n\r".toList ++ [Char.ofNat 0x0B, Char.ofNat 0x0C]

/-- `re.escape`. -/
def reEscape (text : Str) : Str :=
  text.flatMap fun c => if c ∈ reSpecials then [backslash, c] else [c]

/-- `_REDOS_NESTED_QUANTIFIER_RE.search` at one position. -/
def isNestedQuantifier : Str → Bool
  | '(' :: rest =>
      let body := rest.takeWhile fun c => c ≠ '(' && c ≠ ')'
      match rest.dropWhile (fun c => c ≠ '(' && c ≠ ')') with
      | ')' :: tail =>
          body.any (fun c => c = '+' || c = '*' || c = '?') &&
            ((tail.dropWhile Str.isSpace).head?.any
              fun c => c = '+' || c = '*' || c = '?' || c = Char.ofNat 0x7B)
      | _ => false
  | _ => false

variable (py : Python F)

/-- `except re.error`. -/
def CompileError.caught : CompileError → FilterError
  | .reError => .invalidPkPattern
  | .overflow => .overflow
  | .valueError => .valueError

/-- `_validate_pattern`. -/
def validatePattern (pattern : Str) : Except FilterError Unit :=
  if maxRegexPatternLength < pattern.length then .error .invalidPkPattern
  else if pattern.tails.any isNestedQuantifier then .error .invalidPkPattern
  else (py.compiles pattern).mapError CompileError.caught

/-- `str(value)`. -/
def strOf : BinValue F → Str
  | .str text => text
  | value => py.str value

/-- `int(value)`. -/
def intOf : BinValue F → Except FilterError ℤ
  | .bool b => .ok (if b then 1 else 0)
  | .int n => .ok n
  | .float x => py.truncate x
  | .str text => ((parseInt text).map .ok).getD (.error .invalidFilterValue)
  | _ => .error .invalidFilterValue

/-- `float(value)`: a wide integer overflows, and that is not caught. -/
def floatOf : BinValue F → Except FilterError F
  | .bool b => ((py.floatOfInt (if b then 1 else 0)).map .ok).getD (.error .overflow)
  | .int n => ((py.floatOfInt n).map .ok).getD (.error .overflow)
  | .float x => .ok x
  | .str text => ((py.parseFloat text).map .ok).getD (.error .invalidFilterValue)
  | _ => .error .invalidFilterValue

/-- `_BOOL_TRUE_STRINGS`. -/
def boolTrueStrings : List Str := [['t', 'r', 'u', 'e'], ['1'], ['y', 'e', 's'], ['o', 'n']]

/-- `_BOOL_FALSE_STRINGS`. -/
def boolFalseStrings : List Str :=
  [['f', 'a', 'l', 's', 'e'], ['0'], ['n', 'o'], ['o', 'f', 'f']]

/-- `_coerce_bool`. -/
def coerceBool : BinValue F → Except FilterError Bool
  | .bool b => .ok b
  | .int n => .ok (n ≠ 0)
  | .float x => .ok (!py.isZero x)
  | .str text =>
      let token := text.strip.map Char.toLower
      if token ∈ boolTrueStrings then .ok true
      else if token ∈ boolFalseStrings then .ok false
      else .error .invalidFilterValue
  | _ => .error .invalidFilterValue

/-- The GeoJSON text of a value: a text, or an object or a list that is written as one. -/
def geoText : BinValue F → Option Str
  | .str text => some text
  | .list items => some (py.dumps (.list items))
  | .dict entries => some (py.dumps (.dict entries))
  | _ => none

/-- `_geo_val`. -/
def geoVal (value : BinValue F) : Except FilterError (Particle F) :=
  match geoText py value with
  | some json => .ok (.geo json)
  | none => .error .invalidFilterValue

/-- `_val_accessor`: the value of a condition, in the type of its bin. -/
def valAccessor (value : Option (BinValue F)) (type : BinDataType) :
    Except FilterError (Particle F) :=
  match value with
  | none => .error .invalidFilterValue
  | some value =>
      match type with
      | .integer => (intOf py value).map .integer
      | .float => (floatOf py value).map .float
      | .string | .list | .map => .ok (.string (strOf py value))
      | .bool => (coerceBool py value).map .bool
      | .geo => geoVal py value

/-- The two ways to match a key by a pattern. -/
inductive PatternMode
  | pfx
  | regex
  deriving DecidableEq

/-- The regular expression of a key pattern. A prefix is taken literally. -/
def pkRegexPattern (pattern : Str) : PatternMode → Str
  | .pfx => '^' :: (reEscape pattern ++ ['.', '*'])
  | .regex => pattern

/-- `build_pk_filter_expression`. -/
def buildPkFilterExpression (pattern : Str) (mode : PatternMode) : Except FilterError (Exp F) :=
  let expression : Exp F := .regexCompare (pkRegexPattern pattern mode) regexFlagIcase .key
  match mode with
  | .pfx => .ok expression
  | .regex => (validatePattern py pattern).map fun _ => expression

/-- The regular expression of `CONTAINS`. -/
def containsPattern (value : BinValue F) : Str :=
  ['.', '*'] ++ reEscape (strOf py value) ++ ['.', '*']

/-- The value an operator cannot do without. -/
def required (value : Option (BinValue F)) : Except FilterError (BinValue F) :=
  match value with
  | some value => .ok value
  | none => .error .invalidFilterValue

/-- The comparison of a bin with a value. -/
def comparison (c : FilterCondition F) (op : CmpOp) (value : Option (BinValue F)) :
    Except FilterError (Exp F) :=
  (valAccessor py value c.binType).map fun v => .compare op (.bin c.binType c.bin) (.val v)

/-- `_build_condition`. -/
def buildCondition (c : FilterCondition F) : Except FilterError (Exp F) :=
  match c.operator with
  | .cmp op => comparison py c op c.value
  | .between =>
      match c.value, c.value2 with
      | some lower, some upper =>
          (comparison py c .ge (some lower)).bind fun ge =>
            (comparison py c .le (some upper)).map fun le => .and [ge, le]
      | _, _ => .error .invalidFilterValue
  | .contains =>
      (required c.value).map fun value =>
        .regexCompare (containsPattern py value) regexFlagIcase (.stringBin c.bin)
  | .notContains =>
      (required c.value).map fun value =>
        .not (.regexCompare (containsPattern py value) regexFlagIcase (.stringBin c.bin))
  | .regex =>
      (required c.value).bind fun value =>
        (validatePattern py (strOf py value)).map fun _ =>
          .regexCompare (strOf py value) regexFlagIcase (.stringBin c.bin)
  | .pkPrefix =>
      (required c.value).bind fun value => buildPkFilterExpression py (strOf py value) .pfx
  | .pkRegex =>
      (required c.value).bind fun value => buildPkFilterExpression py (strOf py value) .regex
  | .exists_ => .ok (.binExists c.bin)
  | .notExists => .ok (.not (.binExists c.bin))
  | .isTrue => .ok (.compare .eq (.bin .bool c.bin) (.val (.bool true)))
  | .isFalse => .ok (.compare .eq (.bin .bool c.bin) (.val (.bool false)))
  | .geoWithin | .geoContains =>
      (required c.value).bind fun value =>
        (geoVal py value).map fun v => .geoCompare (.bin .geo c.bin) (.val v)

/-- `build_expression`. One condition stands for itself. -/
def buildExpression (group : FilterGroup F) : Except FilterError (Exp F) :=
  (group.conditions.mapM (buildCondition py)).map fun exprs =>
    match exprs with
    | [e] => e
    | _ =>
      match group.logic with
      | .and => .and exprs
      | .or => .or exprs

/-! ### What conditions mean -/

variable (server : Server F)

/-- A bin compares with a value of its type. -/
def BinCompares (c : FilterCondition F) (r : StoredRecord F) (op : CmpOp)
    (value : Option (BinValue F)) : Prop :=
  ∃ p v, r.typedBin c.binType c.bin = some p ∧ valAccessor py value c.binType = .ok v ∧
    server.compare op p v = some true

/-- A bin is a string, and a pattern is found in it or is not, in any case of the letters. -/
def BinMatches (r : StoredRecord F) (bin pattern : Str) (found : Bool) : Prop :=
  ∃ text, r.bin bin = some (.string text) ∧ server.regex pattern regexFlagIcase text = found

/-- The key was sent, is a string, and matches a pattern in any case of the letters. -/
def KeyMatches (r : StoredRecord F) (pattern : Str) (mode : PatternMode) : Prop :=
  ∃ text, r.keySent = true ∧ r.key = .string text ∧
    server.regex (pkRegexPattern pattern mode) regexFlagIcase text = true

/-- A record satisfies a condition. -/
def FilterCondition.Holds (c : FilterCondition F) (r : StoredRecord F) : Prop :=
  match c.operator with
  | .cmp op => BinCompares py server c r op c.value
  | .between => BinCompares py server c r .ge c.value ∧ BinCompares py server c r .le c.value2
  | .contains =>
      ∃ value, c.value = some value ∧ BinMatches server r c.bin (containsPattern py value) true
  | .notContains =>
      ∃ value, c.value = some value ∧ BinMatches server r c.bin (containsPattern py value) false
  | .regex => ∃ value, c.value = some value ∧ BinMatches server r c.bin (strOf py value) true
  | .pkPrefix => ∃ value, c.value = some value ∧ KeyMatches server r (strOf py value) .pfx
  | .pkRegex => ∃ value, c.value = some value ∧ KeyMatches server r (strOf py value) .regex
  | .exists_ => (r.bin c.bin).isSome
  | .notExists => r.bin c.bin = none
  | .isTrue => ∃ p, r.typedBin .bool c.bin = some p ∧ server.compare .eq p (.bool true) = some true
  | .isFalse =>
      ∃ p, r.typedBin .bool c.bin = some p ∧ server.compare .eq p (.bool false) = some true
  | .geoWithin | .geoContains =>
      ∃ value p v, c.value = some value ∧ r.typedBin .geo c.bin = some p ∧
        geoVal py value = .ok v ∧ server.geo p v = true

/-- A record satisfies a filter group. -/
def FilterGroup.Holds (group : FilterGroup F) (r : StoredRecord F) : Prop :=
  match group.logic with
  | .and => ∀ c ∈ group.conditions, c.Holds py server r
  | .or => ∃ c ∈ group.conditions, c.Holds py server r

variable {py server} {r : StoredRecord F} {c : FilterCondition F} {e : Exp F}

/-- A comparison is true where the bin compares. -/
theorem eval_comparison {op : CmpOp} {value : Option (BinValue F)}
    (h : comparison py c op value = .ok e) :
    e.eval server r = some true ↔ BinCompares py server c r op value := by
  unfold comparison at h
  cases hv : valAccessor py value c.binType with
  | error err =>
    rw [hv] at h
    cases h
  | ok v =>
    rw [hv] at h
    cases h
    simp [Exp.eval, Operand.eval, BinCompares, hv, Option.bind_eq_some_iff]

/-- A pattern is found in a bin, or is not. -/
theorem eval_stringBin {bin pattern : Str} {found : Bool} :
    ((Subject.stringBin bin).eval r).map (server.regex pattern regexFlagIcase) = some found ↔
      BinMatches server r bin pattern found := by
  unfold BinMatches Subject.eval
  dsimp only
  split
  · rename_i text hbin
    simp [hbin]
  · rename_i hbin
    simp only [Option.map_none, reduceCtorEq, false_iff]
    rintro ⟨text, htext, -⟩
    exact hbin text htext

/-- A key filter is true where the key matches. -/
theorem eval_pkFilter {pattern : Str} {mode : PatternMode}
    (h : buildPkFilterExpression py pattern mode = .ok e) :
    e.eval server r = some true ↔ KeyMatches server r pattern mode := by
  have he : e = .regexCompare (pkRegexPattern pattern mode) regexFlagIcase .key := by
    cases mode with
    | pfx =>
      cases h
      rfl
    | regex =>
      unfold buildPkFilterExpression at h
      cases hv : validatePattern py pattern with
      | error err => simp [hv, Except.map] at h
      | ok u =>
        simp only [hv, Except.map] at h
        cases h
        rfl
  subst he
  unfold Exp.eval KeyMatches Subject.eval
  dsimp only
  split
  · rename_i text hsent hkey
    simp [hsent, hkey]
  · rename_i hno
    simp only [Option.map_none, reduceCtorEq, false_iff]
    rintro ⟨text, hsent, hkey, -⟩
    exact hno text hsent hkey

/-- What a step of a builder returns comes from what the step before returned. -/
theorem required_eq_ok {value : Option (BinValue F)} {v : BinValue F} :
    required value = .ok v ↔ value = some v := by
  cases value <;> simp [required]

/-- A condition is true of the records that satisfy it. -/
theorem eval_buildCondition (h : buildCondition py c = .ok e) :
    e.eval server r = some true ↔ c.Holds py server r := by
  unfold buildCondition at h
  unfold FilterCondition.Holds
  cases hop : c.operator with
  | cmp op =>
    simp only [hop] at h
    exact eval_comparison h
  | between =>
    simp only [hop] at h
    split at h
    · rename_i lower upper hlower hupper
      obtain ⟨ge, hge, h⟩ := bind_eq_ok.1 h
      obtain ⟨le, hle, rfl⟩ := map_eq_ok.1 h
      rw [eval_and, hlower, hupper]
      simp [eval_comparison hge, eval_comparison hle]
    · cases h
  | contains =>
    simp only [hop] at h
    obtain ⟨value, hvalue, rfl⟩ := map_eq_ok.1 h
    rw [required_eq_ok.1 hvalue, Exp.eval, eval_stringBin]
    simp
  | notContains =>
    simp only [hop] at h
    obtain ⟨value, hvalue, rfl⟩ := map_eq_ok.1 h
    -- a bin that is missing makes the comparison undecided, and so its negation
    have hnot : (Exp.not (.regexCompare (containsPattern py value) regexFlagIcase
        (.stringBin c.bin))).eval server r = some true ↔
        ((Subject.stringBin c.bin).eval r).map
          (server.regex (containsPattern py value) regexFlagIcase) = some false := by
      rw [Exp.eval, Exp.eval, Option.map_eq_some_iff]
      simp
    rw [hnot, required_eq_ok.1 hvalue, eval_stringBin]
    simp
  | regex =>
    simp only [hop] at h
    obtain ⟨value, hvalue, h⟩ := bind_eq_ok.1 h
    obtain ⟨u, -, rfl⟩ := map_eq_ok.1 h
    rw [required_eq_ok.1 hvalue, Exp.eval, eval_stringBin]
    simp
  | exists_ =>
    simp only [hop] at h
    cases h
    simp [Exp.eval]
  | notExists =>
    simp only [hop] at h
    cases h
    simp [Exp.eval]
  | isTrue =>
    simp only [hop] at h
    cases h
    simp [Exp.eval, Operand.eval, Option.bind_eq_some_iff]
  | isFalse =>
    simp only [hop] at h
    cases h
    simp [Exp.eval, Operand.eval, Option.bind_eq_some_iff]
  | geoWithin =>
    simp only [hop] at h
    obtain ⟨value, hvalue, h⟩ := bind_eq_ok.1 h
    obtain ⟨v, hv, rfl⟩ := map_eq_ok.1 h
    simp [Exp.eval, Operand.eval, Option.bind_eq_some_iff, required_eq_ok.1 hvalue, hv]
  | geoContains =>
    simp only [hop] at h
    obtain ⟨value, hvalue, h⟩ := bind_eq_ok.1 h
    obtain ⟨v, hv, rfl⟩ := map_eq_ok.1 h
    simp [Exp.eval, Operand.eval, Option.bind_eq_some_iff, required_eq_ok.1 hvalue, hv]
  | pkPrefix =>
    simp only [hop] at h
    obtain ⟨value, hvalue, h⟩ := bind_eq_ok.1 h
    rw [eval_pkFilter h, required_eq_ok.1 hvalue]
    simp
  | pkRegex =>
    simp only [hop] at h
    obtain ⟨value, hvalue, h⟩ := bind_eq_ok.1 h
    rw [eval_pkFilter h, required_eq_ok.1 hvalue]
    simp

/-- The expressions of a list of conditions, one for each. -/
theorem mapM_buildCondition {conditions : List (FilterCondition F)} {exprs : List (Exp F)}
    (h : conditions.mapM (buildCondition py) = .ok exprs) :
    List.Forall₂ (fun c e => e.eval server r = some true ↔ c.Holds py server r)
      conditions exprs := by
  induction conditions generalizing exprs with
  | nil =>
    cases h
    exact .nil
  | cons c conditions ih =>
    rw [List.mapM_cons] at h
    obtain ⟨e, he, h⟩ := bind_eq_ok.1 h
    obtain ⟨es, hes, h⟩ := bind_eq_ok.1 h
    cases h
    exact .cons (eval_buildCondition he) (ih hes)

/-- Lists that are matched one by one agree on all of them and on some of them. -/
theorem forall_and_exists_iff {α β : Type} {p : α → Prop} {q : β → Prop} {as : List α}
    {bs : List β} (h : List.Forall₂ (fun a b => q b ↔ p a) as bs) :
    ((∀ b ∈ bs, q b) ↔ ∀ a ∈ as, p a) ∧ ((∃ b ∈ bs, q b) ↔ ∃ a ∈ as, p a) := by
  induction h with
  | nil => simp
  | cons hab _ ih => simp [hab, ih.1, ih.2]

/-- A filter expression is true of the records that satisfy the filter group. -/
theorem eval_buildExpression {group : FilterGroup F} (h : buildExpression py group = .ok e) :
    e.eval server r = some true ↔ group.Holds py server r := by
  obtain ⟨exprs, hexprs, rfl⟩ := map_eq_ok.1 h
  have hiff := forall_and_exists_iff (@mapM_buildCondition _ _ server r _ _ hexprs)
  unfold FilterGroup.Holds
  split
  · rename_i e
    cases group.logic
    · simpa using hiff.1
    · simpa using hiff.2
  · cases group.logic
    · exact eval_and.trans hiff.1
    · exact eval_or.trans hiff.2

end ClusterManager.Records
