import Mathlib.Data.Char
import Mathlib.Data.List.Lex
import Mathlib.Data.Rat.Floor
import Mathlib.Order.WithBot
import ClusterManager.Records.Expressions

/-!
# Numbers behind floats

What a float stands for, what the comparisons of a filter say of numbers, and what is known of the
conversions between floats and integers: `int` cuts off the fraction, and no float lies between an
integer and its conversion (`Floats`). A comparison with a converted number differs from the
comparison with the number itself only where the left side is the converted number (`holds_ne_iff`).
-/

namespace ClusterManager.Records

open Numerals

/-- The rational numbers and the two infinities. -/
abbrev Extended : Type := WithBot (WithTop ℚ)

/-- The value of a float. `none` is not a number. -/
abbrev Num : Type := Option Extended

/-- A rational number. -/
def rational (q : ℚ) : Extended := ((q : WithTop ℚ) : Extended)

/-- What a comparison says of the elements of a linear order. -/
def CmpOp.holds {α : Type} [LinearOrder α] (op : CmpOp) (a b : α) : Bool :=
  match op with
  | .eq => a = b
  | .ne => a ≠ b
  | .gt => b < a
  | .ge => b ≤ a
  | .lt => a < b
  | .le => a ≤ b

/-- What a comparison says of numbers. Nothing but `≠` holds of what is not a number. -/
def CmpOp.test (op : CmpOp) : Num → Num → Bool
  | some a, some b => op.holds a b
  | _, _ => op = .ne

/-- `int(x)` for the value of a float: the fraction is cut off. -/
def truncated : Num → Except FilterError ℤ
  | some (some (some q)) => .ok (if 0 ≤ q then ⌊q⌋ else ⌈q⌉)
  | none => .error .invalidFilterValue
  | _ => .error .overflow

variable {F : Type}

/-- The values of floats, with what is known of their conversions. -/
structure Floats (py : Python F) where
  value : F → Num
  truncate : ∀ x, py.truncate x = truncated (value x)
  isZero : ∀ x, py.isZero x = true ↔ value x = some (rational 0)
  nearest : ∀ n x, py.floatOfInt n = some x → ∃ q, value x = some (rational q) ∧
    ∀ z w, value z = some w →
      ¬ (rational q < w ∧ w ≤ rational n) ∧ ¬ (rational n ≤ w ∧ w < rational q)

/-! ### Converted numbers -/

/-- A number stands for another one in comparisons with `b`, unless it is `b`. -/
def StandsFor {α : Type} [LinearOrder α] (b converted given : α) : Prop :=
  b ≠ converted → (b < converted ↔ b < given) ∧ (converted < b ↔ given < b)

/-- Where a comparison holds of a number that does not hold of the number it stands for. -/
def CmpOp.gains {α : Type} [LinearOrder α] (op : CmpOp) (converted given : α) : Prop :=
  match op with
  | .eq => converted ≠ given
  | .ge => converted < given
  | .le => given < converted
  | _ => False

/-- Where a comparison does not hold of a number that holds of the number it stands for. -/
def CmpOp.loses {α : Type} [LinearOrder α] (op : CmpOp) (converted given : α) : Prop :=
  match op with
  | .ne => converted ≠ given
  | .lt => converted < given
  | .gt => given < converted
  | _ => False

section Order

variable {α : Type} [LinearOrder α] {b converted given : α}

/-- Away from the converted number, comparisons are the same. -/
theorem StandsFor.holds_eq (h : StandsFor b converted given) (hne : b ≠ converted) (op : CmpOp) :
    op.holds b converted = op.holds b given := by
  obtain ⟨hlt, hgt⟩ := h hne
  have hne' : b ≠ given := by
    rcases lt_or_gt_of_ne hne with h | h
    · exact (hlt.1 h).ne
    · exact (hgt.1 h).ne'
  cases op with
  | eq => simp [CmpOp.holds, hne, hne']
  | ne => simp [CmpOp.holds, hne, hne']
  | gt => simp only [CmpOp.holds, hgt]
  | ge => simp only [CmpOp.holds, ← not_lt, hlt]
  | lt => simp only [CmpOp.holds, hlt]
  | le => simp only [CmpOp.holds, ← not_lt, hgt]

/-- At the converted number, comparisons gain and lose. -/
theorem holds_at_converted (op : CmpOp) :
    (op.holds converted converted = true ∧ op.holds converted given = false ↔
      op.gains converted given) ∧
    (op.holds converted converted = false ∧ op.holds converted given = true ↔
      op.loses converted given) := by
  cases op <;> simp [CmpOp.holds, CmpOp.gains, CmpOp.loses]

/-- A comparison holds of the converted number alone where it gains. -/
theorem StandsFor.gains_iff (h : StandsFor b converted given) (op : CmpOp) :
    op.holds b converted = true ∧ op.holds b given = false ↔
      b = converted ∧ op.gains converted given := by
  by_cases hne : b = converted
  · subst hne
    rw [(holds_at_converted op).1]
    simp
  · simp [h.holds_eq hne, hne]

/-- A comparison holds of the given number alone where it loses. -/
theorem StandsFor.loses_iff (h : StandsFor b converted given) (op : CmpOp) :
    op.holds b converted = false ∧ op.holds b given = true ↔
      b = converted ∧ op.loses converted given := by
  by_cases hne : b = converted
  · subst hne
    rw [(holds_at_converted op).2]
    simp
  · simp [h.holds_eq hne, hne]

end Order

theorem rational_lt {p q : ℚ} : rational p < rational q ↔ p < q := by
  simp [rational]

theorem rational_le {p q : ℚ} : rational p ≤ rational q ↔ p ≤ q := by
  simp [rational]

theorem rational_inj {p q : ℚ} : rational p = rational q ↔ p = q := by
  simp [rational]

/-- An integer without its fraction stands for the number, in comparisons with integers. -/
theorem standsFor_truncated {q : ℚ} {n : ℤ} (b : ℤ) (h : truncated (some (rational q)) = .ok n) :
    StandsFor (rational b) (rational n) (rational q) := by
  have hn : (if 0 ≤ q then ⌊q⌋ else ⌈q⌉) = n := Except.ok.inj h
  intro hne
  rw [Ne, rational_inj, Int.cast_inj] at hne
  simp only [rational_lt, Int.cast_lt]
  by_cases hq : 0 ≤ q
  · rw [if_pos hq] at hn
    subst hn
    refine ⟨⟨fun h => ?_, fun h => ?_⟩, ⟨fun h => Int.floor_lt.1 h, fun h => Int.floor_lt.2 h⟩⟩
    · exact lt_of_lt_of_le (by exact_mod_cast h) (Int.floor_le q)
    · exact lt_of_le_of_ne (Int.le_floor.2 h.le) hne
  · rw [if_neg hq] at hn
    subst hn
    refine ⟨⟨fun h => Int.lt_ceil.1 h, fun h => Int.lt_ceil.2 h⟩, ⟨fun h => ?_, fun h => ?_⟩⟩
    · exact lt_of_le_of_lt (Int.le_ceil q) (by exact_mod_cast h)
    · exact lt_of_le_of_ne (Int.ceil_le.2 h.le) (Ne.symm hne)

variable {py : Python F} (floats : Floats py)

/-- A float next to an integer stands for the integer, in comparisons with floats. -/
theorem Floats.standsFor_floatOfInt {n : ℤ} {x z : F} {q : ℚ} {w : Extended}
    (h : py.floatOfInt n = some x) (hx : floats.value x = some (rational q))
    (hz : floats.value z = some w) : StandsFor w (rational q) (rational n) := by
  obtain ⟨q', hq', hnear⟩ := floats.nearest n x h
  rw [hx] at hq'
  rw [← Option.some.inj hq'] at hnear
  obtain ⟨hup, hdown⟩ := hnear z w hz
  intro hne
  refine ⟨⟨fun hlt => ?_, fun hlt => ?_⟩, ⟨fun hlt => ?_, fun hlt => ?_⟩⟩
  · exact lt_of_not_ge fun hle => hdown ⟨hle, hlt⟩
  · exact lt_of_le_of_ne (le_of_not_gt fun hgt => hup ⟨hgt, hlt.le⟩) hne
  · exact lt_of_not_ge fun hle => hup ⟨hlt, hle⟩
  · exact lt_of_le_of_ne (le_of_not_gt fun hgt => hdown ⟨hlt.le, hgt⟩) (Ne.symm hne)

/-! ### Floats that are their values -/

/-- Conversions between integers and floats without rounding, where texts are read as integers. -/
def exactPython : Python Num where
  floatOfInt n := if n.natAbs.log2 < 1024 then some (some (rational n)) else none
  parseFloat text := (parseInt text).map fun n => some (rational n)
  truncate := truncated
  isZero x := x = some (rational 0)
  str _ := []
  dumps _ := []
  compiles _ := .ok ()

/-- They are floats. -/
def exactFloats : Floats exactPython where
  value x := x
  truncate _ := rfl
  isZero x := by simp [exactPython]
  nearest n x h := by
    refine ⟨n, ?_, fun _ w _ => ⟨fun h => absurd h.1 (not_lt.2 h.2),
      fun h => absurd h.2 (not_lt.2 h.1)⟩⟩
    unfold exactPython at h
    dsimp only at h
    split at h
    · exact (Option.some.inj h).symm
    · cases h

/-- A condition on an integer bin. -/
def ageCondition (op : CmpOp) (value : BinValue Num) : FilterCondition Num where
  bin := "age".toList
  operator := .cmp op
  value := some value
  value2 := none
  binType := .integer
  bin_valid := by decide
  pk_paired := by cases op <;> decide
  pk_string := by simp [FilterOperator.isPk]

end ClusterManager.Records
