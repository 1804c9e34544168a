import Mathlib.Algebra.BigOperators.Group.Finset.Piecewise
import Mathlib.Algebra.Order.Group.Int
import ClusterManager.Lib.Interleaving

/-!
# Programs judged by what they hold

A program in flight may be judged by less than its whole past: `upd` folds the answers it has had
into what it holds (a lock, a resource, a value it has read). `Follows` judges every program of a
configuration so, and `always_of_follows` is the rule for an invariant between the shared state and
what all the programs hold: it is enough to look at one request at a time. `AddsUp` is for
invariants about a total of what they hold.
-/

namespace Interleaving

variable {ρ : Type} {resp : ρ → Type} {ε ι η σ α γ : Type}

/-- What a program holds after its past. -/
def hand (upd : γ → Answer ρ resp ε → γ) (g₀ : γ) (past : List (Answer ρ resp ε)) : γ :=
  past.foldl upd g₀

/-- What the programs hold; where there is none, what one holds at its start. -/
def hands (upd : γ → Answer ρ resp ε → γ) (g₀ : γ) (c : Config ρ resp ε α σ) (i : ℕ) : γ :=
  ((c.tasks[i]?).map fun t => hand upd g₀ t.past).getD g₀

/-- A possible answer changes what a program holds. -/
def Changes (A : (r : ρ) → Except ε (resp r) → γ → Prop) (upd : γ → Answer ρ resp ε → γ) (r : ρ)
    (x : Except ε (resp r)) (g g' : γ) : Prop :=
  A r x g ∧ g' = upd g ⟨r, x⟩

/-- Every program in flight makes each request holding what `Φ` says, returns holding what `Q`
says and raises holding what `E` says. -/
def Follows (A : (r : ρ) → Except ε (resp r) → γ → Prop) (upd : γ → Answer ρ resp ε → γ) (g₀ : γ)
    (Φ : ℕ → ρ → γ → Prop) (Q : ℕ → α → γ → Prop) (E : ℕ → ε → γ → Prop)
    (c : Config ρ resp ε α σ) : Prop :=
  ∀ (i : ℕ) (t : Task ρ resp ε α), c.tasks[i]? = some t →
    t.prog.Safe (Changes A upd) (Φ i) (hand upd g₀ t.past) (Q i) (E i)

variable {W : World ρ resp ε ι η σ} {G : Guard ρ resp ε ι σ} {c c' : Config ρ resp ε α σ}
  {es : List (Event ι η)} {upd : γ → Answer ρ resp ε → γ} {g₀ : γ}
  {A : (r : ρ) → Except ε (resp r) → γ → Prop} {Φ : ℕ → ρ → γ → Prop}
  {Q : ℕ → α → γ → Prop} {E : ℕ → ε → γ → Prop}

@[simp] theorem hand_nil : hand upd g₀ [] = g₀ := rfl

@[simp] theorem hand_append {past : List (Answer ρ resp ε)} {a : Answer ρ resp ε} :
    hand upd g₀ (past ++ [a]) = upd (hand upd g₀ past) a := by
  simp [hand]

/-- A request, judged by what is held when it is made and after each possible answer. -/
theorem safe_request {r : ρ} {g : γ} {Φ : ρ → γ → Prop} {Q : resp r → γ → Prop} {E : ε → γ → Prop}
    (hneeds : Φ r g) (hok : ∀ a, A r (.ok a) g → Q a (upd g ⟨r, .ok a⟩))
    (herror : ∀ e, A r (.error e) g → E e (upd g ⟨r, .error e⟩)) :
    (Coroutine.call r).Safe (Changes A upd) Φ g Q E := by
  refine Coroutine.safe_call.2 ⟨hneeds, fun a g' h => ?_, fun e g' h => ?_⟩
  · obtain ⟨hpossible, rfl⟩ := h
    exact hok a hpossible
  · obtain ⟨hpossible, rfl⟩ := h
    exact herror e hpossible

theorem hands_of_task {i : ℕ} {t : Task ρ resp ε α} (ht : c.tasks[i]? = some t) :
    hands upd g₀ c i = hand upd g₀ t.past := by
  rw [hands, ht]
  rfl

/-- At the start every program holds the same. -/
theorem hands_start {s : σ} {progs : List (Coroutine ρ resp ε α)} :
    hands upd g₀ (Config.start s progs) = fun _ => g₀ := by
  funext i
  simp only [hands, Config.start, List.getElem?_map, Option.map_map]
  cases progs[i]? <;> rfl

/-- A step changes what its program holds, and nothing else. -/
theorem hands_step {i : ℕ} {r : ρ} {k : Except ε (resp r) → Coroutine ρ resp ε α}
    {past : List (Answer ρ resp ε)} {a : Except ε (resp r)} {s : σ}
    (ht : c.tasks[i]? = some ⟨.await r k, past⟩) :
    hands upd g₀ ⟨s, c.tasks.set i ⟨k a, past ++ [⟨r, a⟩]⟩⟩ =
      Function.update (hands upd g₀ c) i (upd (hands upd g₀ c i) ⟨r, a⟩) := by
  have hlt : i < c.tasks.length := (List.getElem?_eq_some_iff.1 ht).1
  funext j
  by_cases hij : i = j
  · subst hij
    rw [Function.update_self, hands_of_task ht]
    simp [hands, List.getElem?_set_self hlt]
  · rw [Function.update_of_ne (Ne.symm hij)]
    simp only [hands, List.getElem?_set_ne hij]

theorem follows_start {s : σ} {progs : List (Coroutine ρ resp ε α)}
    (h : ∀ i (p : Coroutine ρ resp ε α), progs[i]? = some p →
      p.Safe (Changes A upd) (Φ i) g₀ (Q i) (E i)) :
    Follows A upd g₀ Φ Q E (Config.start s progs) := by
  intro i t hi
  simp only [Config.start, List.getElem?_map, Option.map_eq_some_iff] at hi
  obtain ⟨p, hp, rfl⟩ := hi
  exact h i p hp

/-- An invariant between the shared state and what the programs hold, kept by every request that
is made as `Φ` says and permitted, always holds. -/
theorem always_of_follows (Inv : σ → (ℕ → γ) → Prop)
    (hexec : ∀ i r x past s a s' (h : ℕ → γ), Inv s h → Φ i r (h i) → hand upd g₀ past = h i →
      G i r x past s → W.exec i r x s = some (a, s') →
        A r a (h i) ∧ Inv s' (Function.update h i (upd (h i) ⟨r, a⟩)))
    (henv : ∀ e s s' h, Inv s h → W.env e s = some s' → Inv s' h)
    (hfollows : Follows A upd g₀ Φ Q E c) (hinv : Inv c.shared (hands upd g₀ c))
    (hG : Guarded W G c es) :
    Always W (fun c => Follows A upd g₀ Φ Q E c ∧ Inv c.shared (hands upd g₀ c)) c es := by
  refine always_of_guarded (fun c e c' h hperm hstep => ?_) ⟨hfollows, hinv⟩ hG
  obtain ⟨hfollows, hinv⟩ := h
  cases e with
  | task i x =>
    obtain ⟨r, k, past, a, s, hi, hx, rfl⟩ := step_task hstep
    have hhand : hand upd g₀ past = hands upd g₀ c i := (hands_of_task hi).symm
    have hreq : Φ i r (hands upd g₀ c i) := hhand ▸ (hfollows i _ hi).1
    obtain ⟨hA, hinv'⟩ :=
      hexec i r x past c.shared a s _ hinv hreq hhand ((permits_task hi).1 hperm) hx
    refine ⟨fun j t hj => ?_, by rwa [hands_step hi]⟩
    rcases getElem?_set_task hi hj with ⟨rfl, rfl⟩ | ⟨-, hj⟩
    · exact (hfollows j _ hi).2 a _ ⟨hhand ▸ hA, hand_append⟩
    · exact hfollows j t hj
  | env e =>
    obtain ⟨s, hs, rfl⟩ := step_env hstep
    exact ⟨hfollows, henv _ _ _ _ hinv hs⟩

/-! ### Totals -/

/-- What the programs hold, all but finitely many of them nothing, adds up to a total. -/
def AddsUp (d : ℕ → ℤ) (total : ℤ) : Prop :=
  ∃ n, (∀ i, n ≤ i → d i = 0) ∧ ∑ i ∈ Finset.range n, d i = total

theorem addsUp_zero : AddsUp (fun _ => 0) 0 := ⟨0, fun _ _ => rfl, rfl⟩

/-- Where all hold nothing, the total is nothing. -/
theorem AddsUp.eq_zero {d : ℕ → ℤ} {total : ℤ} (h : AddsUp d total) (hd : ∀ i, d i = 0) :
    total = 0 := by
  obtain ⟨n, -, rfl⟩ := h
  exact Finset.sum_eq_zero fun i _ => hd i

/-- The total after one of them has changed. -/
theorem AddsUp.update {d : ℕ → ℤ} {total : ℤ} (h : AddsUp d total) (i : ℕ) (x : ℤ) :
    AddsUp (Function.update d i x) (total + (x - d i)) := by
  obtain ⟨n, hzero, hsum⟩ := h
  have hi : i ∈ Finset.range (max n (i + 1)) := Finset.mem_range.2 (by omega)
  have hsum' : ∑ j ∈ Finset.range (max n (i + 1)), d j = total := by
    rw [← hsum]
    refine (Finset.sum_subset (fun j hj => ?_) fun j _ hj => ?_).symm
    · have := Finset.mem_range.1 hj
      exact Finset.mem_range.2 (by omega)
    · exact hzero j (by simpa using hj)
  refine ⟨max n (i + 1), fun j hj => ?_, ?_⟩
  · rw [Function.update_of_ne (by omega)]
    exact hzero j (by omega)
  · rw [Finset.sum_update_of_mem hi, Finset.sdiff_singleton_eq_erase]
    have := Finset.add_sum_erase _ d hi
    omega

end Interleaving
