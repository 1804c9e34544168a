import Mathlib.Algebra.Order.Floor.Ring
import Mathlib.Algebra.Order.Ring.Rat
import Mathlib.Data.Rat.Floor
import ClusterManager.Lib.Numerals

/-!
# Decimal numbers as text

The exact value of a decimal number `[0-9]+(\.[0-9]+)?`. The digits of a natural number have the
number as their value.
-/

namespace ClusterManager.Decimals

open Numerals

/-- Digits, and at least one. -/
def isDigits (text : Str) : Bool := !text.isEmpty && text.all isAsciiDigit

/-- The number some digits write. -/
def digitsValue (digits : Str) : ℕ :=
  (digits.map fun c => c.toNat - 48).foldl (fun n d => 10 * n + d) 0

/-- The value of a decimal number. `none`: the text is none. -/
def decimalValue (text : Str) : Option ℚ :=
  match text.partition '.' with
  | (whole, false, _) => if isDigits whole then some (digitsValue whole) else none
  | (whole, true, fraction) =>
      if isDigits whole && isDigits fraction then
        some (digitsValue whole + digitsValue fraction / 10 ^ fraction.length)
      else none

/-- The digits of a natural number are a decimal number, and its value is that number. -/
theorem decimalValue_toDigits (n : ℕ) : decimalValue (Nat.toDigits 10 n) = some (n : ℚ) := by
  have hdigit : ∀ c ∈ Nat.toDigits 10 n, isAsciiDigit c = true :=
    fun c hc => isAsciiDigit_of_mem_toDigits hc
  have hdot : '.' ∉ Nat.toDigits 10 n := fun hin => absurd (hdigit _ hin) (by decide)
  have hdigits : isDigits (Nat.toDigits 10 n) = true := by
    rw [isDigits, Bool.and_eq_true]
    exact ⟨by simp [Nat.toDigits_ne_nil], List.all_eq_true.2 hdigit⟩
  rw [decimalValue, Str.partition_of_not_mem hdot]
  dsimp only
  rw [if_pos hdigits, digitsValue, foldl_toDigits]

end ClusterManager.Decimals
