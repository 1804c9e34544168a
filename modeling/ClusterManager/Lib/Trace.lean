import Mathlib.Data.List.Basic

/-!
# Traces

What happened in a run, oldest first. `Always P trace` says that every entry of a trace stands in
`P` to the entries before it: a run keeps it if every step appends an entry that does.
-/

namespace Trace

variable {ε : Type} {P Q : List ε → ε → Prop} {trace before after : List ε} {e x : ε}

/-- Every entry stands in `P` to what came before it. -/
def Always (P : List ε → ε → Prop) (trace : List ε) : Prop :=
  ∀ before e after, trace = before ++ e :: after → P before e

theorem always_nil : Always P [] := by
  intro before e after h
  cases before <;> cases h

/-- The last entry is where a trace ends, or it belongs to what comes after. -/
theorem concat_eq_append_cons (h : trace ++ [x] = before ++ e :: after) :
    (trace = before ∧ x = e ∧ after = []) ∨
      ∃ after', after = after' ++ [x] ∧ trace = before ++ e :: after' := by
  rcases List.eq_nil_or_concat after with rfl | ⟨after', y, rfl⟩
  · obtain ⟨rfl, hx⟩ := List.append_inj' h rfl
    exact Or.inl ⟨rfl, by simpa using hx, rfl⟩
  · rw [List.concat_eq_append, ← List.cons_append, ← List.append_assoc] at h
    obtain ⟨rfl, hx⟩ := List.append_inj' h rfl
    exact Or.inr ⟨after', by simpa using hx.symm, rfl⟩

/-- A trace grows by an entry that stands in `P` to all before. -/
theorem always_concat : Always P (trace ++ [x]) ↔ Always P trace ∧ P trace x := by
  constructor
  · intro h
    refine ⟨fun before e after heq => ?_, h trace x [] rfl⟩
    exact h before e (after ++ [x]) (by rw [heq, List.append_assoc, List.cons_append])
  · rintro ⟨h, hx⟩ before e after heq
    rcases concat_eq_append_cons heq with ⟨rfl, rfl, rfl⟩ | ⟨after', rfl, rfl⟩
    · exact hx
    · exact h before e after' rfl

theorem Always.mono (h : Always P trace) (hPQ : ∀ before e, P before e → Q before e) :
    Always Q trace := fun before e after heq => hPQ before e (h before e after heq)

end Trace
