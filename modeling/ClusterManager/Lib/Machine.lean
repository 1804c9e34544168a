/-!
# Machines

A machine takes a step for each event that can happen in its state. A schedule is a list of
events, and a run ends where the next event cannot happen.

`Always` says that a fact holds in every state of a run, `Guarded` that a condition holds of every
event of the run in the state it happens in. `always_of_step`, `always_of_guarded` and
`always_iff_guarded` lead from the steps to the run.
-/

namespace Machine

variable {σ ε : Type}

/-- The state a schedule leads to, if every event of it can happen. -/
def run (step : σ → ε → Option σ) (s : σ) : List ε → Option σ
  | [] => some s
  | e :: es => (step s e).bind (run step · es)

/-- `P` holds in every state of the run. -/
def Always (step : σ → ε → Option σ) (P : σ → Prop) (s : σ) : List ε → Prop
  | [] => P s
  | e :: es => P s ∧ ∀ s', step s e = some s' → Always step P s' es

/-- `G` holds of every event of the run and the state it happens in. -/
def Guarded (step : σ → ε → Option σ) (G : σ → ε → Prop) (s : σ) : List ε → Prop
  | [] => True
  | e :: es => ∀ s', step s e = some s' → G s e ∧ Guarded step G s' es

variable {step : σ → ε → Option σ} {G : σ → ε → Prop} {J P Q : σ → Prop} {s s' : σ} {es : List ε}

theorem Always.here (h : Always step P s es) : P s := by
  cases es with
  | nil => exact h
  | cons e es => exact h.1

/-- What always holds, holds where the schedule leads to. -/
theorem Always.run (h : Always step P s es) (hrun : run step s es = some s') : P s' := by
  induction es generalizing s with
  | nil => exact Option.some.inj hrun ▸ h
  | cons e es ih =>
    obtain ⟨s₁, hs, hrun⟩ := Option.bind_eq_some_iff.1 hrun
    exact ih (h.2 s₁ hs) hrun

theorem Always.imp (h : Always step P s es) (hPQ : ∀ s, P s → Q s) : Always step Q s es := by
  induction es generalizing s with
  | nil => exact hPQ s h
  | cons e es ih => exact ⟨hPQ s h.1, fun s' hs => ih (h.2 s' hs)⟩

/-- What every guarded step keeps, holds in every state of a guarded run. -/
theorem always_of_guarded (hstep : ∀ s e s', P s → G s e → step s e = some s' → P s') (h : P s)
    (hG : Guarded step G s es) : Always step P s es := by
  induction es generalizing s with
  | nil => exact h
  | cons e es ih => exact ⟨h, fun s' hs => ih (hstep s e s' h (hG s' hs).1 hs) (hG s' hs).2⟩

/-- What every step keeps, holds in every state. -/
theorem always_of_step (hstep : ∀ s e s', P s → step s e = some s' → P s') (h : P s) :
    Always step P s es := by
  induction es generalizing s with
  | nil => exact h
  | cons e es ih => exact ⟨h, fun s' hs => ih (hstep s e s' h hs)⟩

/-- Where `G` is exactly what a step needs to keep `P`, the guarded runs are those along which `P`
always holds. `J` is what every step keeps. -/
theorem always_iff_guarded (hJ : ∀ s e s', J s → step s e = some s' → J s')
    (hstep : ∀ s e s', J s → P s → step s e = some s' → (P s' ↔ G s e)) (hj : J s) (hp : P s) :
    Always step P s es ↔ Guarded step G s es := by
  induction es generalizing s with
  | nil => exact iff_of_true hp trivial
  | cons e es ih =>
    simp only [Always, Guarded, hp, true_and]
    refine forall_congr' fun s' => forall_congr' fun hs => ?_
    have hj' := hJ s e s' hj hs
    have hP := hstep s e s' hj hp hs
    constructor
    · intro h
      exact ⟨hP.1 h.here, (ih hj' h.here).1 h⟩
    · rintro ⟨hG, h⟩
      exact (ih hj' (hP.2 hG)).2 h

end Machine
