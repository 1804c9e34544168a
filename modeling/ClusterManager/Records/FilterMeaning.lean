import ClusterManager.Records.FilterErrors

/-!
# What filters say

A filter group says something of the numbers, texts and truth values in the bins of a record and in
the request. The builder converts the values of the request to the types of the bins first, and a
number that is truncated or rounded on the way says something else of the bins that equal what it
was made. `filters_mean_what_they_say` says for which groups and records this shows.
-/

namespace ClusterManager.Records

open Numerals

variable {F : Type} {py : Python F} (floats : Floats py)

/-! ### What is compared -/

/-- What a filter compares: numbers, texts or truth values. -/
inductive Compared
  | number (x : Num)
  | text (t : Str)
  | truth (b : Bool)

/-- An integer as a number. -/
def integral (n : ℤ) : Compared := .number (some (rational n))

/-- What is in a bin. -/
def Particle.content : Particle F → Option Compared
  | .integer n => some (integral n)
  | .float x => some (.number (floats.value x))
  | .string t => some (.text t)
  | .bool b => some (.truth b)
  | _ => none

/-- A value of a request as a number. A truth value is `0` or `1`, and a text is read. -/
def BinValue.asNumber (read : Str → Option Compared) : BinValue F → Option Compared
  | .bool b => some (integral (if b then 1 else 0))
  | .int n => some (integral n)
  | .float x => some (.number (floats.value x))
  | .str t => read t
  | _ => none

/-- A value of a request as a truth value: a number that is not zero, or a text that spells one. -/
def BinValue.asTruth : BinValue F → Option Bool
  | .bool b => some b
  | .int n => some (n ≠ 0)
  | .float x => some (floats.value x ≠ some (rational 0))
  | .str t =>
      let token := t.strip.map Char.toLower
      if token ∈ boolTrueStrings then some true
      else if token ∈ boolFalseStrings then some false
      else none
  | _ => none

/-- What a value of a request says to a bin of a type. -/
def BinValue.content (value : BinValue F) : BinDataType → Option Compared
  | .integer => value.asNumber floats fun t => (parseInt t).map integral
  | .float => value.asNumber floats fun t => (py.parseFloat t).map (.number ∘ floats.value)
  | .string => some (.text (strOf py value))
  | .bool => (value.asTruth floats).map .truth
  | _ => none

/-- What a comparison says of two things of a kind. -/
def CmpOp.relates (op : CmpOp) : Compared → Compared → Bool
  | .number x, .number y => op.test x y
  | .text s, .text t => op.holds s t
  | .truth a, .truth b => op.holds a b
  | _, _ => false

/-- The bin of a condition compares with a value of the request. -/
def FilterCondition.Compares (c : FilterCondition F) (r : StoredRecord F) (op : CmpOp)
    (value : Option (BinValue F)) : Prop :=
  ∃ p v a b, r.typedBin c.binType c.bin = some p ∧ value = some v ∧
    p.content floats = some a ∧ v.content floats c.binType = some b ∧ op.relates a b = true

/-- What a condition says of a record. -/
def FilterCondition.Means (c : FilterCondition F) (r : StoredRecord F) : Prop :=
  match c.operator with
  | .cmp op => c.Compares floats r op c.value
  | .between => c.Compares floats r .ge c.value ∧ c.Compares floats r .le c.value2
  | .exists_ => (r.bin c.bin).isSome
  | .notExists => r.bin c.bin = none
  | .isTrue => r.bin c.bin = some (.bool true)
  | .isFalse => r.bin c.bin = some (.bool false)
  | _ => False

/-- What a filter group says of a record. -/
def FilterGroup.Means (group : FilterGroup F) (r : StoredRecord F) : Prop :=
  match group.logic with
  | .and => ∀ c ∈ group.conditions, c.Means floats r
  | .or => ∃ c ∈ group.conditions, c.Means floats r

/-- The comparisons of the server: of values of one type, and exact. -/
def standardCompare (op : CmpOp) : Particle F → Particle F → Option Bool
  | .integer a, .integer b => some (op.holds a b)
  | .float x, .float y => some (op.test (floats.value x) (floats.value y))
  | .string s, .string t => some (op.holds s t)
  | .bool a, .bool b => some (op.holds a b)
  | _, _ => none

/-- A server that compares exactly. -/
def Server.standard (server : Server F) : Server F :=
  { server with compare := standardCompare floats }

/-- A condition that compares, or asks whether a bin is there or is true, on a bin of a number, a
text or a truth value. -/
def FilterCondition.Plain (c : FilterCondition F) : Prop :=
  c.binType ∈ [.integer, .float, .string, .bool] ∧
    match c.operator with
    | .cmp _ | .between | .exists_ | .notExists | .isTrue | .isFalse => True
    | _ => False

/-- The bin of a condition is there with its type, unless the condition asks whether it is there. -/
def FilterCondition.Present (c : FilterCondition F) (r : StoredRecord F) : Prop :=
  match c.operator with
  | .exists_ | .notExists => True
  | _ => ∃ p, r.typedBin c.binType c.bin = some p

/-! ### What conversions change -/

/-- The bin equals the number a value was converted to, and `differs` says how that differs from
the number that was given. -/
def FilterCondition.AtConverted (c : FilterCondition F) (r : StoredRecord F)
    (value : Option (BinValue F)) (differs : Extended → Extended → Prop) : Prop :=
  ∃ p v w x y, r.typedBin c.binType c.bin = some p ∧ value = some v ∧
    valAccessor py value c.binType = .ok w ∧
    p.content floats = some (.number (some x)) ∧ w.content floats = some (.number (some x)) ∧
    v.content floats c.binType = some (.number (some y)) ∧ differs x y

/-- A record is selected by a condition that does not hold of it: the bin equals the converted
number, and lies within the converted bounds of a range. -/
def FilterCondition.Gains (c : FilterCondition F) (r : StoredRecord F) : Prop :=
  match c.operator with
  | .cmp op => c.AtConverted floats r c.value op.gains
  | .between =>
      (c.AtConverted floats r c.value CmpOp.ge.gains ∨
        c.AtConverted floats r c.value2 CmpOp.le.gains) ∧
      ∃ p lower upper, r.typedBin c.binType c.bin = some p ∧
        valAccessor py c.value c.binType = .ok lower ∧
        valAccessor py c.value2 c.binType = .ok upper ∧
        standardCompare floats .ge p lower = some true ∧
        standardCompare floats .le p upper = some true
  | _ => False

/-- A record is not selected by a condition that holds of it: the bin equals the converted
number. -/
def FilterCondition.Loses (c : FilterCondition F) (r : StoredRecord F) : Prop :=
  match c.operator with
  | .cmp op => c.AtConverted floats r c.value op.loses
  | _ => False

variable (py) in
/-- The values of a condition are converted. -/
def FilterCondition.Converts (c : FilterCondition F) : Prop :=
  match c.operator with
  | .cmp _ => ∃ w, valAccessor py c.value c.binType = .ok w
  | .between => (∃ w, valAccessor py c.value c.binType = .ok w) ∧
      ∃ w, valAccessor py c.value2 c.binType = .ok w
  | _ => True

variable (py) in
/-- The first condition whose values are not converted escapes. -/
def FilterGroup.Escapes (group : FilterGroup F) : Prop :=
  ∃ before c after, group.conditions = before ++ c :: after ∧ (∀ d ∈ before, d.Converts py) ∧
    c.Escapes py

/-- A condition that is not changed settles the group. -/
def FilterGroup.Settled (group : FilterGroup F) (r : StoredRecord F) : Prop :=
  ∃ c ∈ group.conditions, ¬ c.Gains floats r ∧ ¬ c.Loses floats r ∧
    match group.logic with
    | .and => ¬ c.Means floats r
    | .or => c.Means floats r

/-- What conversions change does not show: the group is settled, or there are changes in both
directions or in none. -/
def FilterGroup.Balanced (group : FilterGroup F) (r : StoredRecord F) : Prop :=
  group.Settled floats r ∨
    ((∃ c ∈ group.conditions, c.Gains floats r) ↔ ∃ c ∈ group.conditions, c.Loses floats r)

/-! ### One comparison -/

theorem holds_rational (op : CmpOp) (a b : ℤ) :
    op.holds (rational a) (rational b) = op.holds a b := by
  cases op <;> simp [CmpOp.holds, rational_lt, rational_le, rational_inj]

theorem gains_irrefl (op : CmpOp) (x : Extended) : ¬ op.gains x x := by
  cases op <;> simp [CmpOp.gains]

theorem loses_irrefl (op : CmpOp) (x : Extended) : ¬ op.loses x x := by
  cases op <;> simp [CmpOp.loses]

/-- Comparing with a converted value changes nothing, unless the left side is the converted
number. -/
theorem relates_changes {a converted given : Compared} (op : CmpOp)
    (h : converted = given ∨ ∃ x y, converted = .number (some x) ∧ given = .number (some y) ∧
      ∀ z, a = .number (some z) → StandsFor z x y) :
    (op.relates a converted = true ∧ op.relates a given = false ↔ ∃ x y, a = .number (some x) ∧
      converted = .number (some x) ∧ given = .number (some y) ∧ op.gains x y) ∧
    (op.relates a converted = false ∧ op.relates a given = true ↔ ∃ x y, a = .number (some x) ∧
      converted = .number (some x) ∧ given = .number (some y) ∧ op.loses x y) := by
  rcases h with rfl | ⟨x, y, rfl, rfl, hstands⟩
  · constructor
    · refine iff_of_false (fun h => by simp [h.1] at h) ?_
      rintro ⟨x, y, -, hx, hy, hgains⟩
      rw [hx] at hy
      cases hy
      exact gains_irrefl op x hgains
    · refine iff_of_false (fun h => by simp [h.1] at h) ?_
      rintro ⟨x, y, -, hx, hy, hloses⟩
      rw [hx] at hy
      cases hy
      exact loses_irrefl op x hloses
  · rcases a with (_ | z) | t | b
    · simp [CmpOp.relates, CmpOp.test]
    · have hz := hstands z rfl
      simp only [CmpOp.relates, CmpOp.test, Compared.number.injEq, Option.some.injEq]
      constructor
      · rw [hz.gains_iff]
        constructor
        · rintro ⟨rfl, hgains⟩
          exact ⟨z, y, rfl, rfl, rfl, hgains⟩
        · rintro ⟨_, _, rfl, rfl, rfl, hgains⟩
          exact ⟨rfl, hgains⟩
      · rw [hz.loses_iff]
        constructor
        · rintro ⟨rfl, hloses⟩
          exact ⟨z, y, rfl, rfl, rfl, hloses⟩
        · rintro ⟨_, _, rfl, rfl, rfl, hloses⟩
          exact ⟨rfl, hloses⟩
    · simp [CmpOp.relates]
    · simp [CmpOp.relates]

variable {floats}

/-- The server compares values of one type as what they are. -/
theorem standardCompare_eq {p w : Particle F} {a b : Compared} (op : CmpOp)
    (htype : p.dataType = w.dataType) (hp : p.content floats = some a)
    (hw : w.content floats = some b) : standardCompare floats op p w = some (op.relates a b) := by
  cases p <;> cases w <;> simp only [Particle.dataType, reduceCtorEq] at htype <;>
    simp only [Particle.content, Option.some.injEq, reduceCtorEq] at hp hw
  · subst hp hw
    simp [standardCompare, CmpOp.relates, integral, CmpOp.test, holds_rational]
  · subst hp hw
    rfl
  · subst hp hw
    rfl
  · subst hp hw
    rfl

/-- Numbers that are the value of an integer have one. -/
theorem exists_of_truncated {x : Num} {n : ℤ} (h : truncated x = .ok n) :
    ∃ q, x = some (rational q) := by
  rcases x with _ | _ | _ | q
  · cases h
  · cases h
  · cases h
  · exact ⟨q, rfl⟩

/-- An integer that a value was converted to. -/
theorem intOf_content {v : BinValue F} {n : ℤ} (h : intOf py v = .ok n) :
    ∃ given, v.content floats .integer = some given ∧
      (integral n = given ∨ ∃ x y, integral n = .number (some x) ∧ given = .number (some y) ∧
        ∀ b : ℤ, StandsFor (rational b) x y) := by
  cases v with
  | bool b =>
    cases h
    exact ⟨_, rfl, Or.inl rfl⟩
  | int m =>
    cases h
    exact ⟨_, rfl, Or.inl rfl⟩
  | float x =>
    have htrunc := (floats.truncate x).symm.trans h
    obtain ⟨q, hq⟩ := exists_of_truncated htrunc
    rw [hq] at htrunc
    refine ⟨_, rfl, Or.inr ⟨rational n, rational q, rfl, by rw [hq], fun b => ?_⟩⟩
    exact standsFor_truncated b htrunc
  | str t =>
    simp only [intOf] at h
    cases hread : parseInt t with
    | none => simp [hread] at h
    | some m =>
      simp only [hread, Option.map_some, Option.getD_some, Except.ok.injEq] at h
      subst h
      exact ⟨integral m, by simp [BinValue.content, BinValue.asNumber, hread], Or.inl rfl⟩
  | list items => cases h
  | dict entries => cases h

/-- A float that an integer was converted to. -/
theorem floatOfInt_content {n : ℤ} {x : F} (h : py.floatOfInt n = some x) :
    ∃ a b, floats.value x = some a ∧ integral n = .number (some b) ∧
      ∀ z w, floats.value z = some w → StandsFor w a b := by
  obtain ⟨q, hq, -⟩ := floats.nearest n x h
  exact ⟨rational q, rational n, hq, rfl, fun z w hz => floats.standsFor_floatOfInt h hq hz⟩

/-- A float that a value was converted to. -/
theorem floatOf_content {v : BinValue F} {x : F} (h : floatOf py v = .ok x) :
    ∃ given, v.content floats .float = some given ∧
      (.number (floats.value x) = given ∨ ∃ a b, floats.value x = some a ∧
        given = .number (some b) ∧ ∀ z w, floats.value z = some w → StandsFor w a b) := by
  have hint {n : ℤ} (h : ((py.floatOfInt n).map .ok).getD (.error .overflow) =
      (.ok x : Except FilterError F)) : ∃ a b, floats.value x = some a ∧
      integral n = .number (some b) ∧ ∀ z w, floats.value z = some w → StandsFor w a b := by
    cases hn : py.floatOfInt n with
    | none => simp [hn] at h
    | some x' =>
      simp only [hn, Option.map_some, Option.getD_some, Except.ok.injEq] at h
      subst h
      exact floatOfInt_content hn
  cases v with
  | bool b => exact ⟨_, rfl, Or.inr (hint h)⟩
  | int n => exact ⟨_, rfl, Or.inr (hint h)⟩
  | float y =>
    cases h
    exact ⟨_, rfl, Or.inl rfl⟩
  | str t =>
    simp only [floatOf] at h
    cases hread : py.parseFloat t with
    | none => simp [hread] at h
    | some y =>
      simp only [hread, Option.map_some, Option.getD_some, Except.ok.injEq] at h
      subst h
      exact ⟨.number (floats.value y), by simp [BinValue.content, BinValue.asNumber, hread],
        Or.inl rfl⟩
  | list items => cases h
  | dict entries => cases h

/-- A truth value that a value was converted to is the one it spells. -/
theorem coerceBool_content {v : BinValue F} {b : Bool} (h : coerceBool py v = .ok b) :
    v.asTruth floats = some b := by
  cases v with
  | bool b' => exact congrArg some (Except.ok.inj h)
  | int n => exact congrArg some (Except.ok.inj h)
  | float x =>
    have hzero := floats.isZero x
    have hb : (!py.isZero x) = b := Except.ok.inj h
    rw [BinValue.asTruth, ← hb]
    cases hx : py.isZero x with
    | true => simp [hzero.1 hx]
    | false =>
      have hne : floats.value x ≠ some (rational 0) := fun heq => by simp [hzero.2 heq] at hx
      simp [hne]
  | str t =>
    simp only [coerceBool] at h
    simp only [BinValue.asTruth]
    split_ifs at h ⊢ with htrue hfalse
    · exact congrArg some (Except.ok.inj h)
    · exact congrArg some (Except.ok.inj h)
  | list items => cases h
  | dict entries => cases h

/-- A converted value is a value of the type of the bin that says what was given, or a number that
stands for the number that was given. -/
theorem valAccessor_content {v : BinValue F} {type : BinDataType} {w : Particle F}
    (htype : type ∈ [BinDataType.integer, .float, .string, .bool])
    (h : valAccessor py (some v) type = .ok w) :
    w.dataType = type ∧ ∃ converted given, w.content floats = some converted ∧
      v.content floats type = some given ∧
      (converted = given ∨ ∃ x y, converted = .number (some x) ∧ given = .number (some y) ∧
        ∀ (p : Particle F) z, p.dataType = type → p.content floats = some (.number (some z)) →
          StandsFor z x y) := by
  cases type with
  | integer =>
    obtain ⟨n, hn, rfl⟩ := map_eq_ok.1 h
    obtain ⟨given, hgiven, hrelates⟩ := @intOf_content _ _ floats _ _ hn
    refine ⟨rfl, integral n, given, rfl, hgiven, hrelates.imp_right ?_⟩
    rintro ⟨x, y, hx, hy, hstands⟩
    refine ⟨x, y, hx, hy, fun p z hp hz => ?_⟩
    cases p <;> simp only [Particle.dataType, reduceCtorEq] at hp
    cases hz
    exact hstands _
  | float =>
    obtain ⟨x, hx, rfl⟩ := map_eq_ok.1 h
    obtain ⟨given, hgiven, hrelates⟩ := @floatOf_content _ _ floats _ _ hx
    refine ⟨rfl, .number (floats.value x), given, rfl, hgiven, hrelates.imp_right ?_⟩
    rintro ⟨a, b, ha, hb, hstands⟩
    refine ⟨a, b, by rw [ha], hb, fun p z hp hz => ?_⟩
    cases p <;> simp only [Particle.dataType, reduceCtorEq] at hp
    exact hstands _ z (Compared.number.inj (Option.some.inj hz))
  | string =>
    cases h
    exact ⟨rfl, _, _, rfl, rfl, Or.inl rfl⟩
  | bool =>
    obtain ⟨b, hb, rfl⟩ := map_eq_ok.1 h
    exact ⟨rfl, .truth b, .truth b, rfl, by
      rw [BinValue.content, coerceBool_content hb, Option.map_some], Or.inl rfl⟩
  | list => simp at htype
  | map => simp at htype
  | geo => simp at htype

variable {c : FilterCondition F} {r : StoredRecord F} {server : Server F} {group : FilterGroup F}

theorem dataType_of_typedBin {type : BinDataType} {name : Str} {p : Particle F}
    (h : r.typedBin type name = some p) : p.dataType = type := by
  simpa using (Option.filter_eq_some_iff.1 h).2

/-- A bin of a number, a text or a truth value has content. -/
theorem exists_content {p : Particle F} {type : BinDataType} (hp : p.dataType = type)
    (htype : type ∈ [BinDataType.integer, .float, .string, .bool]) :
    ∃ a, p.content floats = some a := by
  cases p with
  | integer n => exact ⟨_, rfl⟩
  | float x => exact ⟨_, rfl⟩
  | string t => exact ⟨_, rfl⟩
  | bool b => exact ⟨_, rfl⟩
  | list items => simp [← hp, Particle.dataType] at htype
  | map entries => simp [← hp, Particle.dataType] at htype
  | geo json => simp [← hp, Particle.dataType] at htype

/-- What a conversion changes of a comparison. -/
theorem comparison_changes {p : Particle F} {v : BinValue F} {w : Particle F}
    {value : Option (BinValue F)} (op : CmpOp)
    (htype : c.binType ∈ [BinDataType.integer, .float, .string, .bool])
    (hp : r.typedBin c.binType c.bin = some p) (hv : value = some v)
    (hw : valAccessor py value c.binType = .ok w) :
    (BinCompares py (server.standard floats) c r op value ∧ ¬ c.Compares floats r op value ↔
      c.AtConverted floats r value op.gains) ∧
    (¬ BinCompares py (server.standard floats) c r op value ∧ c.Compares floats r op value ↔
      c.AtConverted floats r value op.loses) := by
  subst hv
  have hpt := dataType_of_typedBin hp
  obtain ⟨a, ha⟩ := @exists_content _ _ floats _ _ hpt htype
  obtain ⟨hwt, converted, given, hconverted, hgiven, hstands⟩ :=
    @valAccessor_content _ _ floats _ _ _ htype hw
  have hbuilt : BinCompares py (server.standard floats) c r op (some v) ↔
      op.relates a converted = true := by
    have hcompare := standardCompare_eq op (hpt.trans hwt.symm) ha hconverted
    unfold BinCompares Server.standard
    simp only [hp, hw, Option.some.injEq, Except.ok.injEq, exists_and_left, exists_eq_left',
      hcompare]
  have hmeant : c.Compares floats r op (some v) ↔ op.relates a given = true := by
    unfold FilterCondition.Compares
    simp only [hp, ha, hgiven, Option.some.injEq, exists_and_left, exists_eq_left']
  have hat (differs : Extended → Extended → Prop) : c.AtConverted floats r (some v) differs ↔
      ∃ x y, a = .number (some x) ∧ converted = .number (some x) ∧ given = .number (some y) ∧
        differs x y := by
    unfold FilterCondition.AtConverted
    simp only [hp, hw, ha, hgiven, hconverted, Option.some.injEq, Except.ok.injEq, exists_and_left,
      exists_eq_left']
  have hchanges := @relates_changes a converted given op (hstands.imp_right fun h => by
    obtain ⟨x, y, hx, hy, h⟩ := h
    exact ⟨x, y, hx, hy, fun z hz => h p z hpt (by rw [ha, hz])⟩)
  rw [hbuilt, hmeant, hat, hat]
  simpa only [Bool.not_eq_true] using hchanges

/-! ### One condition -/

/-- Statements that agree differ in neither direction. -/
theorem unchanged {built meant : Prop} (h : built ↔ meant) :
    (built ∧ ¬ meant ↔ False) ∧ (¬ built ∧ meant ↔ False) :=
  ⟨iff_of_false (fun hno => hno.2 (h.1 hno.1)) id, iff_of_false (fun hno => hno.1 (h.2 hno.2)) id⟩

/-- A bin that equals a truth value is that truth value. -/
theorem truth_iff {name : Str} {b : Bool} :
    (∃ p, r.typedBin .bool name = some p ∧
      (server.standard floats).compare .eq p (.bool b) = some true) ↔
      r.bin name = some (.bool b) := by
  constructor
  · rintro ⟨p, hp, hcompare⟩
    obtain ⟨hbin, htype⟩ := Option.filter_eq_some_iff.1 hp
    cases p <;> simp only [Particle.dataType, reduceCtorEq, decide_false, Bool.false_eq_true]
      at htype
    rw [hbin]
    simpa [Server.standard, standardCompare, CmpOp.holds] using hcompare
  · intro h
    refine ⟨.bool b, Option.filter_eq_some_iff.2 ⟨h, rfl⟩, ?_⟩
    simp [Server.standard, standardCompare, CmpOp.holds]

/-- A bound of a range loses nothing. -/
theorem not_atConverted_loses {value : Option (BinValue F)} {op : CmpOp}
    (hop : op = .ge ∨ op = .le) : ¬ c.AtConverted floats r value op.loses := by
  rintro ⟨-, -, -, x, y, -, -, -, -, -, -, hloses⟩
  rcases hop with rfl | rfl <;> exact hloses

/-- A conjunction of statements that only gain gains where it holds and one of them gained. -/
theorem both_change {built meant built' meant' gains gains' : Prop}
    (h : built ∧ ¬ meant ↔ gains) (hkept : ¬ (¬ built ∧ meant))
    (h' : built' ∧ ¬ meant' ↔ gains') (hkept' : ¬ (¬ built' ∧ meant')) :
    (built ∧ built' ∧ ¬ (meant ∧ meant') ↔ (gains ∨ gains') ∧ built ∧ built') ∧
      (meant ∧ meant' → built ∧ built') := by
  tauto

/-- What conversions change of a range. -/
theorem between_changes {lower upper : Option (BinValue F)} {p : Particle F}
    (htype : c.binType ∈ [BinDataType.integer, .float, .string, .bool])
    (hp : r.typedBin c.binType c.bin = some p)
    (hlower : ∃ w, valAccessor py lower c.binType = .ok w)
    (hupper : ∃ w, valAccessor py upper c.binType = .ok w) :
    (BinCompares py (server.standard floats) c r .ge lower ∧
        BinCompares py (server.standard floats) c r .le upper ∧
        ¬ (c.Compares floats r .ge lower ∧ c.Compares floats r .le upper) ↔
      (c.AtConverted floats r lower CmpOp.ge.gains ∨
        c.AtConverted floats r upper CmpOp.le.gains) ∧
      BinCompares py (server.standard floats) c r .ge lower ∧
        BinCompares py (server.standard floats) c r .le upper) ∧
    (c.Compares floats r .ge lower ∧ c.Compares floats r .le upper →
      BinCompares py (server.standard floats) c r .ge lower ∧
        BinCompares py (server.standard floats) c r .le upper) := by
  obtain ⟨w, hw⟩ := hlower
  obtain ⟨w', hw'⟩ := hupper
  cases lower with
  | none => cases hw
  | some v =>
    cases upper with
    | none => cases hw'
    | some v' =>
      obtain ⟨hge, hge'⟩ :=
        @comparison_changes _ _ floats _ _ server _ _ _ _ .ge htype hp rfl hw
      obtain ⟨hle, hle'⟩ :=
        @comparison_changes _ _ floats _ _ server _ _ _ _ .le htype hp rfl hw'
      exact both_change hge (mt hge'.1 (not_atConverted_loses (Or.inl rfl))) hle
        (mt hle'.1 (not_atConverted_loses (Or.inr rfl)))

/-- What conversions change of a condition. -/
theorem condition_changes (hplain : c.Plain) (hpresent : c.Present r) (hconverts : c.Converts py) :
    (c.Holds py (server.standard floats) r ∧ ¬ c.Means floats r ↔ c.Gains floats r) ∧
    (¬ c.Holds py (server.standard floats) r ∧ c.Means floats r ↔ c.Loses floats r) := by
  obtain ⟨htype, hop⟩ := hplain
  unfold FilterCondition.Present at hpresent
  unfold FilterCondition.Converts at hconverts
  unfold FilterCondition.Holds FilterCondition.Means FilterCondition.Gains FilterCondition.Loses
  cases hoperator : c.operator with
  | cmp op =>
    simp only [hoperator] at hpresent hconverts ⊢
    obtain ⟨p, hp⟩ := hpresent
    obtain ⟨w, hw⟩ := hconverts
    cases hvalue : c.value with
    | none => simp [hvalue, valAccessor] at hw
    | some v =>
      rw [hvalue] at hw
      exact comparison_changes op htype hp rfl hw
  | between =>
    simp only [hoperator] at hpresent hconverts ⊢
    obtain ⟨p, hp⟩ := hpresent
    obtain ⟨hgains, hkept⟩ :=
      @between_changes _ _ floats _ _ server _ _ _ htype hp hconverts.1 hconverts.2
    have hwithin : (BinCompares py (server.standard floats) c r .ge c.value ∧
        BinCompares py (server.standard floats) c r .le c.value2) ↔
        ∃ p lower upper, r.typedBin c.binType c.bin = some p ∧
          valAccessor py c.value c.binType = .ok lower ∧
          valAccessor py c.value2 c.binType = .ok upper ∧
          standardCompare floats .ge p lower = some true ∧
          standardCompare floats .le p upper = some true := by
      constructor
      · rintro ⟨⟨q, lower, hq, hlower, hge⟩, ⟨q', upper, hq', hupper, hle⟩⟩
        rw [hq] at hq'
        cases hq'
        exact ⟨q, lower, upper, hq, hlower, hupper, hge, hle⟩
      · rintro ⟨q, lower, upper, hq, hlower, hupper, hge, hle⟩
        exact ⟨⟨q, lower, hq, hlower, hge⟩, ⟨q, upper, hq, hupper, hle⟩⟩
    rw [← hwithin, ← hgains, and_assoc]
    exact ⟨Iff.rfl, iff_of_false (fun h => h.1 (hkept h.2)) id⟩
  | exists_ => exact unchanged Iff.rfl
  | notExists => exact unchanged Iff.rfl
  | isTrue => exact unchanged truth_iff
  | isFalse => exact unchanged truth_iff
  | _ => simp [hoperator] at hop

/-! ### Building -/

/-- A condition is built exactly where its values are converted. -/
theorem exists_buildCondition (hplain : c.Plain) :
    (∃ e, buildCondition py c = .ok e) ↔ c.Converts py := by
  obtain ⟨-, hop⟩ := hplain
  unfold buildCondition FilterCondition.Converts
  cases hoperator : c.operator with
  | cmp op => exact exists_comparison
  | between =>
    dsimp only
    cases hlower : c.value with
    | none => simp [valAccessor]
    | some lower =>
      cases hupper : c.value2 with
      | none => simp [valAccessor]
      | some upper =>
        dsimp only
        rw [← @exists_comparison _ py c .ge, ← @exists_comparison _ py c .le]
        simp only [bind_eq_ok, map_eq_ok]
        constructor
        · rintro ⟨e, ge, hge, le, hle, -⟩
          exact ⟨⟨ge, hge⟩, le, hle⟩
        · rintro ⟨⟨ge, hge⟩, le, hle⟩
          exact ⟨_, ge, hge, le, hle, rfl⟩
  | exists_ => simp
  | notExists => simp
  | isTrue => simp
  | isFalse => simp
  | _ => simp [hoperator] at hop

theorem map_ne_error {α β : Type} {result : Except FilterError α} {f : α → β} {e : FilterError}
    (h : result ≠ .error e) : result.map f ≠ .error e := by
  cases result <;> simp_all [Except.map]

/-- No conversion is refused as a key pattern. -/
theorem valAccessor_ne_invalidPkPattern (floats : Floats py) (value : Option (BinValue F))
    (type : BinDataType) : valAccessor py value type ≠ .error .invalidPkPattern := by
  cases value with
  | none => simp [valAccessor]
  | some v =>
    have hint : intOf py v ≠ .error .invalidPkPattern := by
      cases v with
      | float x =>
        rw [intOf, floats.truncate]
        rcases floats.value x with _ | _ | _ | q <;> simp [truncated]
      | str t =>
        rw [intOf]
        cases parseInt t <;> simp
      | _ => simp [intOf]
    have hfloat : floatOf py v ≠ .error .invalidPkPattern := by
      cases v with
      | bool b =>
        rw [floatOf]
        cases py.floatOfInt (if b then 1 else 0) <;> simp
      | int n =>
        rw [floatOf]
        cases py.floatOfInt n <;> simp
      | str t =>
        rw [floatOf]
        cases py.parseFloat t <;> simp
      | _ => simp [floatOf]
    have hbool : coerceBool py v ≠ .error .invalidPkPattern := by
      cases v with
      | str t =>
        simp only [coerceBool]
        split_ifs <;> simp
      | _ => simp [coerceBool]
    have hgeo : geoVal py v ≠ .error .invalidPkPattern := by
      unfold geoVal
      split <;> simp
    cases type with
    | integer => exact map_ne_error hint
    | float => exact map_ne_error hfloat
    | bool => exact map_ne_error hbool
    | geo => exact hgeo
    | _ => simp [valAccessor]

/-- A condition that is plain is not refused as a key pattern. -/
theorem buildCondition_ne_invalidPkPattern (floats : Floats py) (hplain : c.Plain) :
    buildCondition py c ≠ .error .invalidPkPattern := by
  obtain ⟨-, hop⟩ := hplain
  have hcomparison (op : CmpOp) (value : Option (BinValue F)) :
      comparison py c op value ≠ .error .invalidPkPattern :=
    map_ne_error (valAccessor_ne_invalidPkPattern floats value c.binType)
  unfold buildCondition
  cases hoperator : c.operator with
  | cmp op => exact hcomparison op c.value
  | between =>
    dsimp only
    split
    · rename_i lower upper _ _
      cases hge : comparison py c .ge (some lower) with
      | error e =>
        have := hcomparison .ge (some lower)
        rw [hge] at this
        exact this
      | ok ge => exact map_ne_error (hcomparison .le (some upper))
    · simp
  | exists_ => simp
  | notExists => simp
  | isTrue => simp
  | isFalse => simp
  | _ => simp [hoperator] at hop

/-- The first condition that is not built decides what is raised. -/
theorem escapes_iff (hplain : ∀ c ∈ group.conditions, c.Plain) : group.Escapes py ↔
    Uncaught (group.conditions.mapM (buildCondition py)) := by
  have hbuilt {before after : List (FilterCondition F)} {c : FilterCondition F}
      (h : group.conditions = before ++ c :: after) :
      (∀ d ∈ before, d.Converts py) ↔ ∀ d ∈ before, ∃ e, buildCondition py d = .ok e := by
    refine forall₂_congr fun d hd => (exists_buildCondition (hplain d ?_)).symm
    rw [h]
    exact List.mem_append_left _ hd
  constructor
  · rintro ⟨before, c, after, h, hbefore, hc⟩
    rw [← uncaught_buildCondition] at hc
    refine hc.imp (fun hc => ?_) fun hc => ?_
    · exact mapM_eq_error.2 ⟨before, c, after, h, (hbuilt h).1 hbefore, hc⟩
    · exact mapM_eq_error.2 ⟨before, c, after, h, (hbuilt h).1 hbefore, hc⟩
  · rintro (hc | hc)
    · obtain ⟨before, c, after, h, hbefore, hc⟩ := mapM_eq_error.1 hc
      exact ⟨before, c, after, h, (hbuilt h).2 hbefore, uncaught_buildCondition.1 (Or.inl hc)⟩
    · obtain ⟨before, c, after, h, hbefore, hc⟩ := mapM_eq_error.1 hc
      exact ⟨before, c, after, h, (hbuilt h).2 hbefore, uncaught_buildCondition.1 (Or.inr hc)⟩

/-! ### Groups -/

section Agreement

variable {α : Type} {l : List α} {built meant : α → Prop}

/-- Conjunctions agree where a statement that agrees is false, or where some hold too much exactly
if some hold too little. -/
theorem all_agree_iff : ((∀ a ∈ l, built a) ↔ ∀ a ∈ l, meant a) ↔
    (∃ a ∈ l, ¬ (built a ∧ ¬ meant a) ∧ ¬ (¬ built a ∧ meant a) ∧ ¬ meant a) ∨
      ((∃ a ∈ l, built a ∧ ¬ meant a) ↔ ∃ a ∈ l, ¬ built a ∧ meant a) := by
  by_cases hsettled : ∃ a ∈ l, ¬ (built a ∧ ¬ meant a) ∧ ¬ (¬ built a ∧ meant a) ∧ ¬ meant a
  · obtain ⟨a, ha, hbuilt, -, hmeant⟩ := hsettled
    refine iff_of_true (iff_of_false (fun h => ?_) fun h => hmeant (h a ha))
      (Or.inl ⟨a, ha, hbuilt, fun h => hmeant h.2, hmeant⟩)
    exact hbuilt ⟨h a ha, hmeant⟩
  · have hopen : ∀ a ∈ l, built a ∨ meant a := by
      intro a ha
      by_contra hno
      exact hsettled ⟨a, ha, by tauto⟩
    have hbuilt : (∀ a ∈ l, built a) ↔ ¬ ∃ a ∈ l, ¬ built a ∧ meant a := by
      refine ⟨fun h ⟨a, ha, hno, _⟩ => hno (h a ha), fun h a ha => ?_⟩
      by_contra hno
      exact h ⟨a, ha, hno, (hopen a ha).resolve_left hno⟩
    have hmeant : (∀ a ∈ l, meant a) ↔ ¬ ∃ a ∈ l, built a ∧ ¬ meant a := by
      refine ⟨fun h ⟨a, ha, _, hno⟩ => hno (h a ha), fun h a ha => ?_⟩
      by_contra hno
      exact h ⟨a, ha, (hopen a ha).resolve_right hno, hno⟩
    rw [hbuilt, hmeant, or_iff_right hsettled, not_iff_not]
    exact Iff.comm

/-- Disjunctions agree where a statement that agrees is true, or where some hold too much exactly
if some hold too little. -/
theorem any_agree_iff : ((∃ a ∈ l, built a) ↔ ∃ a ∈ l, meant a) ↔
    (∃ a ∈ l, ¬ (built a ∧ ¬ meant a) ∧ ¬ (¬ built a ∧ meant a) ∧ meant a) ∨
      ((∃ a ∈ l, built a ∧ ¬ meant a) ↔ ∃ a ∈ l, ¬ built a ∧ meant a) := by
  by_cases hsettled : ∃ a ∈ l, ¬ (built a ∧ ¬ meant a) ∧ ¬ (¬ built a ∧ meant a) ∧ meant a
  · obtain ⟨a, ha, hno, hbuilt, hmeant⟩ := hsettled
    refine iff_of_true (iff_of_true ⟨a, ha, ?_⟩ ⟨a, ha, hmeant⟩)
      (Or.inl ⟨a, ha, hno, hbuilt, hmeant⟩)
    by_contra hbuilt'
    exact hbuilt ⟨hbuilt', hmeant⟩
  · have hopen : ∀ a ∈ l, ¬ built a ∨ ¬ meant a := by
      intro a ha
      by_contra hno
      exact hsettled ⟨a, ha, by tauto⟩
    have hbuilt : (∃ a ∈ l, built a) ↔ ∃ a ∈ l, built a ∧ ¬ meant a := by
      refine ⟨fun ⟨a, ha, h⟩ => ⟨a, ha, h, ?_⟩, fun ⟨a, ha, h, _⟩ => ⟨a, ha, h⟩⟩
      exact (hopen a ha).resolve_left (not_not.2 h)
    have hmeant : (∃ a ∈ l, meant a) ↔ ∃ a ∈ l, ¬ built a ∧ meant a := by
      refine ⟨fun ⟨a, ha, h⟩ => ⟨a, ha, ?_, h⟩, fun ⟨a, ha, _, h⟩ => ⟨a, ha, h⟩⟩
      exact (hopen a ha).resolve_right (not_not.2 h)
    rw [hbuilt, hmeant, or_iff_right hsettled]

end Agreement

/-- A group that is built says what it means where conversions are balanced. -/
theorem holds_iff_means (hplain : ∀ c ∈ group.conditions, c.Plain)
    (hpresent : ∀ c ∈ group.conditions, c.Present r)
    (hconverts : ∀ c ∈ group.conditions, c.Converts py) :
    (group.Holds py (server.standard floats) r ↔ group.Means floats r) ↔
      group.Balanced floats r := by
  have hchanges := fun c hc => @condition_changes _ _ floats _ _ server (hplain c hc)
    (hpresent c hc) (hconverts c hc)
  have hgains : (∃ c ∈ group.conditions, c.Gains floats r) ↔ ∃ c ∈ group.conditions,
      c.Holds py (server.standard floats) r ∧ ¬ c.Means floats r :=
    exists_congr fun c => and_congr_right fun hc => (hchanges c hc).1.symm
  have hloses : (∃ c ∈ group.conditions, c.Loses floats r) ↔ ∃ c ∈ group.conditions,
      ¬ c.Holds py (server.standard floats) r ∧ c.Means floats r :=
    exists_congr fun c => and_congr_right fun hc => (hchanges c hc).2.symm
  unfold FilterGroup.Balanced FilterGroup.Settled FilterGroup.Holds FilterGroup.Means
  rw [hgains, hloses]
  cases group.logic with
  | and =>
    refine all_agree_iff.trans (or_congr_left (exists_congr fun c => and_congr_right fun hc => ?_))
    rw [← (hchanges c hc).1, ← (hchanges c hc).2]
  | or =>
    refine any_agree_iff.trans (or_congr_left (exists_congr fun c => and_congr_right fun hc => ?_))
    rw [← (hchanges c hc).1, ← (hchanges c hc).2]

/-- **Filters mean what they say, unless conversions change it.** -/
theorem filters_mean_what_they_say (floats : Floats py) (server : Server F) (group : FilterGroup F)
    (r : StoredRecord F) (hplain : ∀ c ∈ group.conditions, c.Plain)
    (hpresent : ∀ c ∈ group.conditions, c.Present r) :
    (buildExpression py group = .error .invalidFilterValue ∨
      ∃ e, buildExpression py group = .ok e ∧
        (e.eval (server.standard floats) r = some true ↔ group.Means floats r)) ↔
    ¬ group.Escapes py ∧
      ((∀ c ∈ group.conditions, c.Converts py) → group.Balanced floats r) := by
  rw [escapes_iff hplain]
  cases hbuild : group.conditions.mapM (buildCondition py) with
  | error e =>
    have herror : buildExpression py group = .error e := by
      rw [buildExpression, hbuild]
      rfl
    obtain ⟨before, c, after, hconditions, -, hc⟩ := mapM_eq_error.1 hbuild
    have hmem : c ∈ group.conditions := by simp [hconditions]
    have hne : e ≠ .invalidPkPattern := by
      rintro rfl
      exact buildCondition_ne_invalidPkPattern floats (hplain c hmem) hc
    have hno : ¬ ∀ c ∈ group.conditions, c.Converts py := by
      intro hconverts
      obtain ⟨e', he'⟩ := (exists_buildCondition (hplain c hmem)).2 (hconverts c hmem)
      rw [he'] at hc
      cases hc
    simp only [herror, hno, false_implies, and_true, reduceCtorEq, false_and, exists_false,
      or_false, Except.error.injEq]
    cases e <;> simp_all [Uncaught]
  | ok exprs =>
    have hconverts : ∀ c ∈ group.conditions, c.Converts py := by
      intro c hc
      obtain ⟨e, -, he⟩ := (mem_mapM hbuild).2 c hc
      exact (exists_buildCondition (hplain c hc)).1 ⟨e, he⟩
    obtain ⟨e, he⟩ : ∃ e, buildExpression py group = .ok e := by
      rw [buildExpression, hbuild]
      exact ⟨_, rfl⟩
    rw [← @holds_iff_means _ _ floats _ server group hplain hpresent hconverts]
    simp only [he, uncaught_ok, not_false_iff, true_and, reduceCtorEq, false_or, Except.ok.injEq,
      exists_eq_left', eval_buildExpression he]
    exact ⟨fun h _ => h, fun h => h hconverts⟩

/-! ### A fraction -/

/-- The group that asks for an age of two and a half. -/
def halfGroup : FilterGroup Num :=
  ⟨.and, [ageCondition .eq (.float (some (rational (5 / 2))))], by simp⟩

/-- A record with an age. -/
def agedRecord (n : ℤ) : StoredRecord Num where
  namespace_ := "test".toList
  set := "demo".toList
  key := .int 7
  keySent := false
  bins := [("age".toList, .integer n)]

/-- A server that finds nothing by a pattern, a value or an expression. -/
def silentServer : Server Num where
  compare _ _ _ := none
  regex _ _ _ := false
  geo _ _ := false
  select _ _ := false
  expression _ _ := false

theorem plain_halfGroup : ∀ c ∈ halfGroup.conditions, c.Plain := by
  simp [halfGroup, FilterCondition.Plain, ageCondition]

theorem present_agedRecord (n : ℤ) : ∀ c ∈ halfGroup.conditions, c.Present (agedRecord n) := by
  simp [halfGroup, FilterCondition.Present, ageCondition, agedRecord, StoredRecord.typedBin,
    StoredRecord.bin, Particle.dataType]

/-- The value of the filter becomes an age of two. -/
theorem valAccessor_half : valAccessor exactPython
    (some (.float (some (rational (5 / 2))))) .integer = .ok (.integer 2) := by
  have htruncate : exactPython.truncate (some (rational (5 / 2))) = .ok 2 := by decide +kernel
  exact map_eq_ok.2 ⟨2, htruncate, rfl⟩

theorem mapM_halfGroup : halfGroup.conditions.mapM (buildCondition exactPython) =
    .ok [.compare .eq (.bin .integer "age".toList) (.val (.integer 2))] := by
  have hcondition : buildCondition exactPython
      (ageCondition .eq (.float (some (rational (5 / 2))))) =
      .ok (.compare .eq (.bin .integer "age".toList) (.val (.integer 2))) :=
    congrArg (Except.map fun v => Exp.compare .eq (.bin .integer "age".toList) (.val v))
      valAccessor_half
  rw [halfGroup, List.mapM_cons, hcondition]
  rfl

/-- An age that is an integer is not two and a half. -/
theorem not_means_halfGroup (n : ℤ) : ¬ halfGroup.Means exactFloats (agedRecord n) := by
  simp only [FilterGroup.Means, halfGroup, List.forall_mem_singleton]
  rintro ⟨p, v, a, b, hp, hv, ha, hb, hrelates⟩
  cases hp
  cases hv
  cases ha
  cases hb
  have heq : (n : ℚ) = 5 / 2 := rational_inj.1 (of_decide_eq_true hrelates)
  have hdouble : ((n * 2 : ℤ) : ℚ) = (5 : ℤ) := by
    push_cast
    rw [heq]
    norm_num
  have := Int.cast_injective hdouble
  omega

/-- An age of two is selected by a filter that asks for two and a half. -/
theorem filter_means_other :
    ¬(buildExpression exactPython halfGroup = .error .invalidFilterValue ∨
      ∃ e, buildExpression exactPython halfGroup = .ok e ∧
        (e.eval (silentServer.standard exactFloats) (agedRecord 2) = some true ↔
          halfGroup.Means exactFloats (agedRecord 2))) := by
  have hbuild : buildExpression exactPython halfGroup =
      .ok (.compare .eq (.bin .integer "age".toList) (.val (.integer 2))) :=
    map_eq_ok.2 ⟨_, mapM_halfGroup, rfl⟩
  rw [hbuild]
  rintro (h | ⟨e, h, hiff⟩)
  · cases h
  · cases h
    exact not_means_halfGroup 2 (hiff.1 rfl)

/-- An age of three is not. -/
theorem filter_means_half :
    buildExpression exactPython halfGroup = .error .invalidFilterValue ∨
      ∃ e, buildExpression exactPython halfGroup = .ok e ∧
        (e.eval (silentServer.standard exactFloats) (agedRecord 3) = some true ↔
          halfGroup.Means exactFloats (agedRecord 3)) := by
  have hchanges (differs : Extended → Extended → Prop) :
      ¬ (ageCondition .eq (.float (some (rational (5 / 2))))).AtConverted exactFloats
        (agedRecord 3) (some (.float (some (rational (5 / 2))))) differs := by
    rintro ⟨p, v, w, x, y, hp, hv, hw, hpx, hwx, -, -⟩
    cases hp
    cases valAccessor_half.symm.trans hw
    cases hpx
    have heq : rational ((2 : ℤ) : ℚ) = rational ((3 : ℤ) : ℚ) :=
      Option.some.inj (Compared.number.inj (Option.some.inj hwx))
    exact absurd (rational_inj.1 heq) (by decide)
  refine (filters_mean_what_they_say exactFloats silentServer halfGroup (agedRecord 3)
    plain_halfGroup (present_agedRecord 3)).2 ⟨?_, fun _ => Or.inr (iff_of_false ?_ ?_)⟩
  · rw [escapes_iff plain_halfGroup, mapM_halfGroup]
    exact uncaught_ok
  · rintro ⟨c, hc, hgains⟩
    cases List.mem_singleton.1 hc
    exact hchanges _ hgains
  · rintro ⟨c, hc, hloses⟩
    cases List.mem_singleton.1 hc
    exact hchanges _ hloses

end ClusterManager.Records
