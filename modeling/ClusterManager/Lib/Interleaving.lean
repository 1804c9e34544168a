import Mathlib.Data.List.Basic
import Mathlib.Logic.Function.Basic
import ClusterManager.Lib.Coroutine
import ClusterManager.Lib.Machine

/-!
# Interleavings of programs over a shared state

A `World` says how one request acts on the shared state, under a choice that is not the
program's, and what else may happen to that state. A configuration holds the shared state and the
programs in flight, each with the answers it has had so far. A schedule is a list of events; `run`
executes it, and is `none` where the schedule asks for a step that cannot be taken.

`Always` says that a fact holds in every configuration of a schedule, `Guarded` that a condition
holds of every request of the schedule when it is made. Both are those of the machine that executes
one event after the other, whose rules lead from the steps to the schedule. `Tracks` carries what is
known of a program from its own past along with it.
-/

namespace Interleaving

/-- An answered request. -/
abbrev Answer (ρ : Type) (resp : ρ → Type) (ε : Type) : Type := (r : ρ) × Except ε (resp r)

/-- How requests and the environment act on the shared state. `none`: not now. -/
structure World (ρ : Type) (resp : ρ → Type) (ε ι η σ : Type) where
  /-- The request `r` of the `i`-th program under a choice. -/
  exec : ℕ → (r : ρ) → ι → σ → Option (Except ε (resp r) × σ)
  /-- A step of the environment. -/
  env : η → σ → Option σ

/-- A program in flight and the answers it has had. -/
structure Task (ρ : Type) (resp : ρ → Type) (ε α : Type) where
  prog : Coroutine ρ resp ε α
  past : List (Answer ρ resp ε) := []

/-- The shared state and the programs in flight. -/
structure Config (ρ : Type) (resp : ρ → Type) (ε α σ : Type) where
  shared : σ
  tasks : List (Task ρ resp ε α)

/-- One event of a schedule. -/
inductive Event (ι η : Type)
  | task (i : ℕ) (x : ι)
  | env (e : η)

variable {ρ : Type} {resp : ρ → Type} {ε ι η σ α : Type}

/-- The programs before their first step. -/
def Config.start (s : σ) (progs : List (Coroutine ρ resp ε α)) : Config ρ resp ε α σ :=
  ⟨s, progs.map fun p => ⟨p, []⟩⟩

/-- Execute one event. -/
def step (W : World ρ resp ε ι η σ) (c : Config ρ resp ε α σ) :
    Event ι η → Option (Config ρ resp ε α σ)
  | .task i x =>
      match c.tasks[i]? with
      | some ⟨.await r k, past⟩ =>
          (W.exec i r x c.shared).map fun (a, s) =>
            ⟨s, c.tasks.set i ⟨k a, past ++ [⟨r, a⟩]⟩⟩
      | _ => none
  | .env e => (W.env e c.shared).map fun s => { c with shared := s }

/-- Execute a schedule. -/
def run (W : World ρ resp ε ι η σ) (c : Config ρ resp ε α σ) :
    List (Event ι η) → Option (Config ρ resp ε α σ)
  | [] => some c
  | e :: es => (step W c e).bind (run W · es)

/-- A condition on a request: who makes it, under which choice, after which answers, and in
which state. -/
abbrev Guard (ρ : Type) (resp : ρ → Type) (ε ι σ : Type) : Type :=
  ℕ → ρ → ι → List (Answer ρ resp ε) → σ → Prop

/-- The request an event makes meets the condition. -/
def Permits (G : Guard ρ resp ε ι σ) (c : Config ρ resp ε α σ) : Event ι η → Prop
  | .task i x =>
      match c.tasks[i]? with
      | some ⟨.await r _, past⟩ => G i r x past c.shared
      | _ => True
  | .env _ => True

/-- Every request the schedule makes meets the condition. -/
def Guarded (W : World ρ resp ε ι η σ) (G : Guard ρ resp ε ι σ) (c : Config ρ resp ε α σ) :
    List (Event ι η) → Prop
  | [] => True
  | e :: es => ∀ c', step W c e = some c' → Permits G c e ∧ Guarded W G c' es

/-- `P` holds in every configuration the schedule goes through. -/
def Always (W : World ρ resp ε ι η σ) (P : Config ρ resp ε α σ → Prop)
    (c : Config ρ resp ε α σ) : List (Event ι η) → Prop
  | [] => P c
  | e :: es => P c ∧ ∀ c', step W c e = some c' → Always W P c' es

variable {W : World ρ resp ε ι η σ} {G : Guard ρ resp ε ι σ} {c c' : Config ρ resp ε α σ}
  {es : List (Event ι η)}

/-! ### Steps -/

/-- All a step of a program can do. -/
theorem step_task {i : ℕ} {x : ι} (h : step W c (.task i x) = some c') :
    ∃ r k past a s, c.tasks[i]? = some ⟨.await r k, past⟩ ∧
      W.exec i r x c.shared = some (a, s) ∧
      c' = ⟨s, c.tasks.set i ⟨k a, past ++ [⟨r, a⟩]⟩⟩ := by
  simp only [step] at h
  split at h
  next r k past ht =>
    obtain ⟨⟨a, s⟩, hx, rfl⟩ := Option.map_eq_some_iff.1 h
    exact ⟨r, k, past, a, s, ht, hx, rfl⟩
  next => cases h

/-- All a step of the environment can do. -/
theorem step_env {e : η} (h : step W c (.env e) = some c') :
    ∃ s, W.env e c.shared = some s ∧ c' = { c with shared := s } := by
  obtain ⟨s, hs, rfl⟩ := Option.map_eq_some_iff.1 h
  exact ⟨s, hs, rfl⟩

theorem permits_task {i : ℕ} {x : ι} {r : ρ} {k : Except ε (resp r) → Coroutine ρ resp ε α}
    {past : List (Answer ρ resp ε)} (ht : c.tasks[i]? = some ⟨.await r k, past⟩) :
    Permits (η := η) G c (.task i x) ↔ G i r x past c.shared := by
  simp only [Permits, ht]

/-- The task that made the step, and every other one, after it. -/
theorem getElem?_set_task {i j : ℕ} {t t' u : Task ρ resp ε α} {tasks : List (Task ρ resp ε α)}
    (ht : tasks[i]? = some t) (hu : (tasks.set i t')[j]? = some u) :
    (j = i ∧ u = t') ∨ (j ≠ i ∧ tasks[j]? = some u) := by
  by_cases hij : i = j
  · subst hij
    rw [List.getElem?_set_self (List.getElem?_eq_some_iff.1 ht).1] at hu
    exact Or.inl ⟨rfl, (Option.some.inj hu).symm⟩
  · exact Or.inr ⟨Ne.symm hij, by rwa [List.getElem?_set_ne hij] at hu⟩

/-! ### Schedules -/

theorem run_eq_run : run W c es = Machine.run (step W) c es := by
  induction es generalizing c with
  | nil => rfl
  | cons e es ih =>
    have hrest : (run W · es) = (Machine.run (step W) · es) := funext fun _ => ih
    rw [run, Machine.run, hrest]

theorem always_iff_always {P : Config ρ resp ε α σ → Prop} :
    Always W P c es ↔ Machine.Always (step W) P c es := by
  induction es generalizing c with
  | nil => exact Iff.rfl
  | cons e es ih => simp only [Always, Machine.Always, ih]

theorem guarded_iff_guarded : Guarded W G c es ↔ Machine.Guarded (step W) (Permits G) c es := by
  induction es generalizing c with
  | nil => exact Iff.rfl
  | cons e es ih => simp only [Guarded, Machine.Guarded, ih]

theorem Always.here {P : Config ρ resp ε α σ → Prop} (h : Always W P c es) : P c :=
  (always_iff_always.1 h).here

/-- What always holds, holds where the schedule ends. -/
theorem Always.run {P : Config ρ resp ε α σ → Prop} (h : Always W P c es)
    (hrun : run W c es = some c') : P c' :=
  (always_iff_always.1 h).run (run_eq_run ▸ hrun)

/-- What every guarded step keeps, holds in every configuration of a guarded schedule. -/
theorem always_of_guarded {P : Config ρ resp ε α σ → Prop}
    (hstep : ∀ c e c', P c → Permits G c e → step W c e = some c' → P c')
    (h : P c) (hG : Guarded W G c es) : Always W P c es :=
  always_iff_always.2 (Machine.always_of_guarded hstep h (guarded_iff_guarded.1 hG))

theorem Permits.imp {G' : Guard ρ resp ε ι σ} {e : Event ι η} (h : Permits G c e)
    (hG : ∀ i r x past s, G i r x past s → G' i r x past s) : Permits G' c e := by
  cases e with
  | task i x =>
    simp only [Permits] at h ⊢
    split
    next r k past ht =>
      simp only [ht] at h
      exact hG i r x past _ h
    next => trivial
  | env e => trivial

theorem Guarded.imp {G' : Guard ρ resp ε ι σ} (h : Guarded W G c es)
    (hG : ∀ i r x past s, G i r x past s → G' i r x past s) : Guarded W G' c es := by
  induction es generalizing c with
  | nil => trivial
  | cons e es ih => exact fun c' hc => ⟨(h c' hc).1.imp hG, ih (h c' hc).2⟩

/-- A condition that every request meets. -/
theorem guarded_of_forall (hG : ∀ i r x past s, G i r x past s) : Guarded W G c es := by
  induction es generalizing c with
  | nil => trivial
  | cons e es ih =>
    refine fun c' _ => ⟨?_, ih⟩
    cases e with
    | task i x =>
      simp only [Permits]
      split
      · exact hG _ _ _ _ _
      · trivial
    | env e => trivial

theorem Guarded.before {es' : List (Event ι η)} (h : Guarded W G c (es ++ es')) :
    Guarded W G c es := by
  induction es generalizing c with
  | nil => trivial
  | cons e es ih => exact fun c' hc => ⟨(h c' hc).1, ih (h c' hc).2⟩

theorem Guarded.after {es' : List (Event ι η)} (h : Guarded W G c (es ++ es'))
    (hrun : run W c es = some c') : Guarded W G c' es' := by
  induction es generalizing c with
  | nil => exact Option.some.inj hrun ▸ h
  | cons e es ih =>
    obtain ⟨c₁, hc, hrun⟩ := Option.bind_eq_some_iff.1 hrun
    exact ih (h c₁ hc).2 hrun

/-- What every step keeps, always holds. -/
theorem always_of_step {P : Config ρ resp ε α σ → Prop}
    (hstep : ∀ c e c', P c → step W c e = some c' → P c') (h : P c) : Always W P c es :=
  always_iff_always.2 (Machine.always_of_step hstep h)

theorem Always.imp {P Q : Config ρ resp ε α σ → Prop} (h : Always W P c es)
    (hPQ : ∀ c, P c → Q c) : Always W Q c es :=
  always_iff_always.2 ((always_iff_always.1 h).imp hPQ)

/-- Where the condition is exactly what a step needs to keep `P`, the guarded schedules are
exactly those along which `P` always holds. `J` is what every step keeps. -/
theorem always_iff_guarded {J P : Config ρ resp ε α σ → Prop}
    (hJ : ∀ c e c', J c → step W c e = some c' → J c')
    (hstep : ∀ c e c', J c → P c → step W c e = some c' → (P c' ↔ Permits G c e))
    (hj : J c) (hp : P c) : Always W P c es ↔ Guarded W G c es := by
  rw [always_iff_always, guarded_iff_guarded]
  exact Machine.always_iff_guarded hJ hstep hj hp

/-! ### Programs judged by their past -/

/-- A program judged by the answers it has had, each of them possible. -/
def History (A : (r : ρ) → Except ε (resp r) → Prop) (r : ρ) (x : Except ε (resp r))
    (past past' : List (Answer ρ resp ε)) : Prop :=
  A r x ∧ past' = past ++ [⟨r, x⟩]

/-- What the most recent telling answer tells. -/
def latest {β : Type} (f : Answer ρ resp ε → Option β) (past : List (Answer ρ resp ε)) :
    Option β :=
  past.foldl (fun b a => (f a).or b) none

@[simp] theorem latest_append {β : Type} {f : Answer ρ resp ε → Option β}
    {past : List (Answer ρ resp ε)} {a : Answer ρ resp ε} :
    latest f (past ++ [a]) = (f a).or (latest f past) := by
  simp [latest]

/-- What is judged of every request of a program holds of a request it makes. -/
theorem safe_requests {A : (r : ρ) → Except ε (resp r) → Prop}
    {Φ : ρ → List (Answer ρ resp ε) → Prop} {Q : α → List (Answer ρ resp ε) → Prop}
    {E : ε → List (Answer ρ resp ε) → Prop} {p : Coroutine ρ resp ε α}
    {before past : List (Answer ρ resp ε)} {r : ρ} (h : p.Safe (History A) Φ before Q E)
    (hr : p.Requests past r) (hpast : ∀ a ∈ past, A a.1 a.2) : Φ r (before ++ past) := by
  induction hr generalizing before with
  | here r k => simpa using h.1
  | later r k x past r' hr ih =>
    have := ih (h.2 x _ ⟨hpast _ List.mem_cons_self, rfl⟩)
      fun a ha => hpast a (List.mem_cons_of_mem _ ha)
    simpa using this

/-- Every program in flight meets `Φ` of its past in each request it will make, `Q` when it
returns and `E` when it raises. -/
def Tracks (A : (r : ρ) → Except ε (resp r) → Prop)
    (Φ : ℕ → ρ → List (Answer ρ resp ε) → Prop)
    (Q : ℕ → α → List (Answer ρ resp ε) → Prop) (E : ℕ → ε → List (Answer ρ resp ε) → Prop)
    (c : Config ρ resp ε α σ) : Prop :=
  ∀ (i : ℕ) (t : Task ρ resp ε α), c.tasks[i]? = some t →
    t.prog.Safe (History A) (Φ i) t.past (Q i) (E i)

variable {A : (r : ρ) → Except ε (resp r) → Prop}
  {Φ : ℕ → ρ → List (Answer ρ resp ε) → Prop}
  {Q : ℕ → α → List (Answer ρ resp ε) → Prop} {E : ℕ → ε → List (Answer ρ resp ε) → Prop}

theorem tracks_start {s : σ} {progs : List (Coroutine ρ resp ε α)}
    (h : ∀ i (p : Coroutine ρ resp ε α), progs[i]? = some p →
      p.Safe (History A) (Φ i) [] (Q i) (E i)) : Tracks A Φ Q E (Config.start s progs) := by
  intro i t hi
  simp only [Config.start, List.getElem?_map, Option.map_eq_some_iff] at hi
  obtain ⟨p, hp, rfl⟩ := hi
  exact h i p hp

/-- A request about to be made is characterised by the past of its program. -/
theorem Tracks.request {i : ℕ} {r : ρ} {k : Except ε (resp r) → Coroutine ρ resp ε α}
    {past : List (Answer ρ resp ε)} (h : Tracks A Φ Q E c)
    (ht : c.tasks[i]? = some ⟨.await r k, past⟩) : Φ i r past :=
  (h i _ ht).1

theorem Tracks.step (hA : ∀ i r x s a s', W.exec i r x s = some (a, s') → A r a)
    {e : Event ι η} (h : Tracks A Φ Q E c) (hstep : step W c e = some c') : Tracks A Φ Q E c' := by
  cases e with
  | task i x =>
    obtain ⟨r, k, past, a, s, hi, hx, rfl⟩ := step_task hstep
    intro j t hj
    rcases getElem?_set_task hi hj with ⟨rfl, rfl⟩ | ⟨-, hj⟩
    · exact (h j _ hi).2 a _ ⟨hA _ _ _ _ _ _ hx, rfl⟩
    · exact h j t hj
  | env e =>
    obtain ⟨s, -, rfl⟩ := step_env hstep
    exact h

end Interleaving
