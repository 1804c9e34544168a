import ClusterManager.Records.Numbers

/-!
# What building a filter raises

`_build_condition` answers a condition it cannot build with `InvalidFilterValueError` or
`InvalidPkPatternError`, which become a 400. `filter_errors_answered` says of which conditions
something else escapes: of those with a number that has no conversion to the type of the bin, and of
those with a regular expression that `re.compile` refuses with another exception than `re.error`.
-/

namespace ClusterManager.Records

open Numerals

variable {F α β : Type}

/-- A conversion or a compilation raised something else. -/
def Uncaught (result : Except FilterError α) : Prop :=
  result = .error .overflow ∨ result = .error .valueError

variable (py : Python F)

/-- A value that a conversion to the type of a bin fails on: a float without an integer part, or an
integer too wide for a float. -/
def BinValue.Unconvertible (value : BinValue F) : BinDataType → Prop
  | .integer => ∃ x, value = .float x ∧ Uncaught (py.truncate x)
  | .float => ∃ n, py.floatOfInt n = none ∧
      (value = .int n ∨ ∃ b, value = .bool b ∧ n = if b then 1 else 0)
  | _ => False

/-- A pattern that passes the checks before `re.compile`, which then raises something else than
`re.error`. -/
def PatternEscapes (pattern : Str) : Prop :=
  pattern.length ≤ maxRegexPatternLength ∧ pattern.tails.any isNestedQuantifier = false ∧
    (py.compiles pattern = .error .overflow ∨ py.compiles pattern = .error .valueError)

/-- A condition with a value that cannot be converted, or with a pattern that escapes. The upper
bound of a range is looked at once the lower one is converted. -/
def FilterCondition.Escapes (c : FilterCondition F) : Prop :=
  match c.operator with
  | .cmp _ => ∃ value ∈ c.value, value.Unconvertible py c.binType
  | .between => ∃ lower ∈ c.value, ∃ upper ∈ c.value2,
      lower.Unconvertible py c.binType ∨
        (∃ v, valAccessor py (some lower) c.binType = .ok v) ∧ upper.Unconvertible py c.binType
  | .regex | .pkRegex => ∃ value ∈ c.value, PatternEscapes py (strOf py value)
  | _ => False

/-! ### Outcomes -/

variable {py} {c : FilterCondition F}

theorem uncaught_ok {a : α} : ¬ Uncaught (.ok a : Except FilterError α) := by
  simp [Uncaught]

theorem uncaught_invalidFilterValue : ¬ Uncaught (.error .invalidFilterValue : Except _ α) := by
  simp [Uncaught]

/-- A step that cannot fail changes nothing. -/
theorem uncaught_map {result : Except FilterError α} {f : α → β} :
    Uncaught (result.map f) ↔ Uncaught result := by
  cases result <;> simp [Uncaught, Except.map]

/-- Two steps fail in the first one, or in the second after the first. -/
theorem uncaught_bind {result : Except FilterError α} {f : α → Except FilterError β} :
    Uncaught (result.bind f) ↔ Uncaught result ∨ ∃ a, result = .ok a ∧ Uncaught (f a) := by
  cases result <;> simp [Uncaught, Except.bind]

theorem uncaught_getD_invalid {value : Option α} :
    ¬ Uncaught ((value.map .ok).getD (.error .invalidFilterValue)) := by
  cases value <;> simp [Uncaught]

theorem uncaught_getD_overflow {value : Option α} :
    Uncaught ((value.map .ok).getD (.error .overflow)) ↔ value = none := by
  cases value <;> simp [Uncaught]

theorem uncaught_intOf (value : BinValue F) :
    Uncaught (intOf py value) ↔ ∃ x, value = .float x ∧ Uncaught (py.truncate x) := by
  cases value with
  | float x => simp [intOf]
  | str text => simpa [intOf] using uncaught_getD_invalid
  | bool b => simp [intOf, uncaught_ok]
  | int n => simp [intOf, uncaught_ok]
  | list items => simp [intOf, uncaught_invalidFilterValue]
  | dict entries => simp [intOf, uncaught_invalidFilterValue]

theorem uncaught_floatOf (value : BinValue F) : Uncaught (floatOf py value) ↔
    ∃ n, py.floatOfInt n = none ∧
      (value = .int n ∨ ∃ b, value = .bool b ∧ n = if b then 1 else 0) := by
  cases value with
  | bool b => simp [floatOf, uncaught_getD_overflow]
  | int n => simp [floatOf, uncaught_getD_overflow]
  | str text => simpa [floatOf] using uncaught_getD_invalid
  | float x => simp [floatOf, uncaught_ok]
  | list items => simp [floatOf, uncaught_invalidFilterValue]
  | dict entries => simp [floatOf, uncaught_invalidFilterValue]

theorem uncaught_coerceBool (value : BinValue F) : ¬ Uncaught (coerceBool py value) := by
  cases value with
  | str text =>
    simp only [coerceBool]
    split_ifs <;> simp [Uncaught]
  | _ => simp [coerceBool, Uncaught]

theorem uncaught_geoVal (value : BinValue F) : ¬ Uncaught (geoVal py value) := by
  unfold geoVal
  split <;> simp [Uncaught]

/-- The value of a condition is converted, or refused, unless it is unconvertible. -/
theorem uncaught_valAccessor {value : Option (BinValue F)} {type : BinDataType} :
    Uncaught (valAccessor py value type) ↔ ∃ v ∈ value, v.Unconvertible py type := by
  cases value with
  | none => simp [valAccessor, uncaught_invalidFilterValue]
  | some value =>
    cases type with
    | integer => simp [valAccessor, uncaught_map, uncaught_intOf, BinValue.Unconvertible]
    | float => simp [valAccessor, uncaught_map, uncaught_floatOf, BinValue.Unconvertible]
    | bool => simp [valAccessor, uncaught_map, uncaught_coerceBool, BinValue.Unconvertible]
    | geo => simp [valAccessor, uncaught_geoVal, BinValue.Unconvertible]
    | string => simp [valAccessor, uncaught_ok, BinValue.Unconvertible]
    | list => simp [valAccessor, uncaught_ok, BinValue.Unconvertible]
    | map => simp [valAccessor, uncaught_ok, BinValue.Unconvertible]

theorem uncaught_comparison {op : CmpOp} {value : Option (BinValue F)} :
    Uncaught (comparison py c op value) ↔ ∃ v ∈ value, v.Unconvertible py c.binType := by
  rw [comparison, uncaught_map, uncaught_valAccessor]

theorem exists_comparison {op : CmpOp} {value : Option (BinValue F)} :
    (∃ e, comparison py c op value = .ok e) ↔ ∃ v, valAccessor py value c.binType = .ok v := by
  unfold comparison
  cases valAccessor py value c.binType <;> simp [Except.map]

/-- A pattern is accepted, or refused, unless it escapes. -/
theorem uncaught_validatePattern {pattern : Str} :
    Uncaught (validatePattern py pattern) ↔ PatternEscapes py pattern := by
  unfold validatePattern PatternEscapes
  by_cases hlong : maxRegexPatternLength < pattern.length
  · simp [hlong, Uncaught]
  · rw [if_neg hlong]
    cases hnested : pattern.tails.any isNestedQuantifier with
    | true => simp [Uncaught]
    | false =>
      rw [if_neg Bool.false_ne_true]
      have hshort := not_lt.1 hlong
      cases py.compiles pattern with
      | ok u => exact iff_of_false uncaught_ok (by simp)
      | error e =>
        change Uncaught (.error e.caught) ↔ _
        cases e <;> simp [Uncaught, CompileError.caught, hshort]

theorem uncaught_required {value : Option (BinValue F)} {f : BinValue F → Except FilterError α} :
    Uncaught ((required value).bind f) ↔ ∃ v ∈ value, Uncaught (f v) := by
  cases value with
  | none => simp [required, Except.bind, Uncaught]
  | some value => simp [required, Except.bind]

/-- Something else escapes from a condition exactly where one of its values cannot be converted, or
its pattern escapes. -/
theorem uncaught_buildCondition : Uncaught (buildCondition py c) ↔ c.Escapes py := by
  unfold buildCondition FilterCondition.Escapes
  cases c.operator with
  | cmp op => exact uncaught_comparison
  | between =>
    dsimp only
    cases hlower : c.value with
    | none => simp [uncaught_invalidFilterValue]
    | some lower =>
      cases hupper : c.value2 with
      | none => simp [uncaught_invalidFilterValue]
      | some upper =>
        dsimp only
        simp only [uncaught_bind, uncaught_map, uncaught_comparison, exists_and_right,
          exists_comparison, Option.mem_def, Option.some.injEq, exists_eq_left']
  | regex => simp only [uncaught_required, uncaught_map, uncaught_validatePattern]
  | pkRegex =>
    simp only [uncaught_required, buildPkFilterExpression, uncaught_map, uncaught_validatePattern]
  | pkPrefix => simp [uncaught_required, buildPkFilterExpression, uncaught_ok]
  | contains => cases c.value <;> simp [required, Except.map, Uncaught]
  | notContains => cases c.value <;> simp [required, Except.map, Uncaught]
  | exists_ => simp [uncaught_ok]
  | notExists => simp [uncaught_ok]
  | isTrue => simp [uncaught_ok]
  | isFalse => simp [uncaught_ok]
  | geoWithin => simp [uncaught_required, uncaught_map, uncaught_geoVal]
  | geoContains => simp [uncaught_required, uncaught_map, uncaught_geoVal]

/-- **A filter condition is built or answered, unless a conversion or `re.compile` escapes.** -/
theorem filter_errors_answered (py : Python F) (c : FilterCondition F) :
    ((∃ e, buildCondition py c = .ok e) ∨ buildCondition py c = .error .invalidFilterValue ∨
      buildCondition py c = .error .invalidPkPattern) ↔ ¬ c.Escapes py := by
  rw [← uncaught_buildCondition]
  cases buildCondition py c with
  | ok e => simp [uncaught_ok]
  | error e => cases e <;> simp [Uncaught]

/-- An infinite number for an integer bin is not answered. -/
theorem filter_error_escapes :
    ¬((∃ e, buildCondition exactPython (ageCondition .eq (.float (some ⊤))) = .ok e) ∨
      buildCondition exactPython (ageCondition .eq (.float (some ⊤))) =
        .error .invalidFilterValue ∨
      buildCondition exactPython (ageCondition .eq (.float (some ⊤))) =
        .error .invalidPkPattern) := by
  have h : buildCondition exactPython (ageCondition .eq (.float (some ⊤))) = .error .overflow :=
    rfl
  rw [h]
  simp

end ClusterManager.Records
