import Mathlib.Logic.Function.Basic
import ClusterManager.Lib.Table

/-!
# Locks under keys

A registry that creates a lock object for a key when one is first asked for and may later forget
it. A task obtains the lock object of a key, waits for it, is inside, and releases it; `Grip` is
where it stands, and `Agrees` ties the registry to the grips of all tasks. Two tasks are never
inside for one key (`Agrees.exclusive`) as long as no lock object is forgotten that a task has
obtained (`Agrees.drop`).
-/

/-- The registry, who is inside which lock object, and who has obtained which. -/
structure KeyedLocks (κ : Type) where
  registered : Dict κ ℕ := []
  /-- The number of lock objects created so far. -/
  created : ℕ := 0
  holders : Dict ℕ ℕ := []
  users : List (ℕ × κ × ℕ) := []

/-- Where a task stands. -/
inductive Grip (κ : Type)
  | free
  | waiting (k : κ) (lock : ℕ)
  | inside (k : κ) (lock : ℕ)

namespace KeyedLocks

variable {κ : Type} [DecidableEq κ]

/-- The lock object of a key, created if there is none. -/
def obtain (i : ℕ) (k : κ) (s : KeyedLocks κ) : ℕ × KeyedLocks κ :=
  match s.registered.get? k with
  | some lock => (lock, { s with users := (i, k, lock) :: s.users })
  | none =>
      (s.created, { s with registered := s.registered.set k s.created, created := s.created + 1,
                           users := (i, k, s.created) :: s.users })

/-- Enter a lock object. `none`: a task is inside. -/
def acquire (i lock : ℕ) (s : KeyedLocks κ) : Option (KeyedLocks κ) :=
  match s.holders.get? lock with
  | some _ => none
  | none => some { s with holders := s.holders.set lock i }

/-- Put a lock object down without having entered it. -/
def giveUp (i lock : ℕ) (s : KeyedLocks κ) : KeyedLocks κ :=
  { s with users := s.users.filter fun u => ¬ (u.1 = i ∧ u.2.2 = lock) }

/-- Leave a lock object. -/
def release (i lock : ℕ) (s : KeyedLocks κ) : KeyedLocks κ :=
  { s.giveUp i lock with holders := s.holders.erase lock }

/-- Forget the lock objects of some keys. -/
def drop (p : κ → Bool) (s : KeyedLocks κ) : KeyedLocks κ :=
  { s with registered := s.registered.filter fun entry => !p entry.1 }

/-- No task has obtained a lock object that `drop` forgets. -/
def Idle (p : κ → Bool) (s : KeyedLocks κ) : Prop :=
  ∀ k lock, p k = true → s.registered.get? k = some lock → ∀ u ∈ s.users, u.2.2 ≠ lock

end KeyedLocks

/-- The key and the lock object a task has obtained. -/
def Grip.lock {κ : Type} : Grip κ → Option (κ × ℕ)
  | .free => none
  | .waiting k lock => some (k, lock)
  | .inside k lock => some (k, lock)

/-- Where a task stands once it is inside the lock object it waited for. -/
def Grip.enter {κ : Type} : Grip κ → Grip κ
  | .waiting k lock => .inside k lock
  | g => g

namespace KeyedLocks

variable {κ : Type} [DecidableEq κ] {s s' : KeyedLocks κ} {grip : ℕ → Grip κ} {i j lock : ℕ} {k : κ}

/-- The registry agrees with where the tasks stand: what a task has obtained is what is
registered, and the holder of a lock object is the task inside it. -/
structure Agrees (s : KeyedLocks κ) (grip : ℕ → Grip κ) : Prop where
  lt_created : ∀ k lock, s.registered.get? k = some lock → lock < s.created
  injective : ∀ k k' lock, s.registered.get? k = some lock → s.registered.get? k' = some lock →
    k = k'
  registered : ∀ i k lock, (grip i).lock = some (k, lock) → s.registered.get? k = some lock
  users : ∀ i k lock, (i, k, lock) ∈ s.users ↔ (grip i).lock = some (k, lock)
  holder : ∀ lock i, s.holders.get? lock = some i ↔ ∃ k, grip i = .inside k lock

theorem agrees_start : ({} : KeyedLocks κ).Agrees fun _ => .free where
  lt_created _ _ h := by cases h
  injective _ _ _ h := by cases h
  registered _ _ _ h := by cases h
  users _ _ _ := by simp [Grip.lock]
  holder _ _ := by simp

/-- Two tasks inside for one key are one task. -/
theorem Agrees.exclusive (h : s.Agrees grip) {lock' : ℕ} (hi : grip i = .inside k lock)
    (hj : grip j = .inside k lock') : i = j := by
  have hlock : s.registered.get? k = some lock := h.registered i k lock (by rw [hi]; rfl)
  have hlock' : s.registered.get? k = some lock' := h.registered j k lock' (by rw [hj]; rfl)
  obtain rfl := Option.some.inj (hlock.symm.trans hlock')
  have hholder := (h.holder lock i).2 ⟨k, hi⟩
  rw [(h.holder lock j).2 ⟨k, hj⟩] at hholder
  exact (Option.some.inj hholder).symm

omit [DecidableEq κ] in
/-- What the tasks have obtained after one of them has changed its grip. -/
theorem lock_update {g : Grip κ} {k' : κ} {lock' : ℕ} :
    (Function.update grip i g j).lock = some (k', lock') ↔
      (j = i ∧ g.lock = some (k', lock')) ∨ (j ≠ i ∧ (grip j).lock = some (k', lock')) := by
  by_cases hj : j = i
  · subst hj
    simp
  · simp [hj]

omit [DecidableEq κ] in
theorem inside_update {g : Grip κ} {lock' : ℕ} :
    (∃ k', Function.update grip i g j = .inside k' lock') ↔
      (j = i ∧ ∃ k', g = .inside k' lock') ∨ (j ≠ i ∧ ∃ k', grip j = .inside k' lock') := by
  by_cases hj : j = i
  · subst hj
    simp
  · simp [hj]

theorem Agrees.obtain (h : s.Agrees grip) (hi : grip i = .free) :
    (s.obtain i k).2.Agrees (Function.update grip i (.waiting k (s.obtain i k).1)) := by
  have hnone : ∀ k' lock', (i, k', lock') ∉ s.users := by
    intro k' lock' hmem
    have := (h.users i k' lock').1 hmem
    rw [hi] at this
    cases this
  have hholder : ∀ lock', s.holders.get? lock' ≠ some i := by
    intro lock' hmem
    obtain ⟨k', hk'⟩ := (h.holder lock' i).1 hmem
    rw [hi] at hk'
    cases hk'
  have husers : ∀ lock' : ℕ, ∀ j k'' lock'',
      (j, k'', lock'') ∈ (i, k, lock') :: s.users ↔
        (Function.update grip i (.waiting k lock') j).lock = some (k'', lock'') := by
    intro lock' j k'' lock''
    rw [lock_update, List.mem_cons, h.users]
    by_cases hj : j = i
    · subst hj
      simp [hi, Grip.lock, eq_comm]
    · simp [hj]
  have hholders : ∀ lock' : ℕ, ∀ lock'' j, s.holders.get? lock'' = some j ↔
      ∃ k'', Function.update grip i (.waiting k lock') j = .inside k'' lock'' := by
    intro lock' lock'' j
    rw [inside_update, ← h.holder]
    by_cases hj : j = i
    · subst hj
      simp [hholder]
    · simp [hj]
  unfold KeyedLocks.obtain
  cases hk : s.registered.get? k with
  | some lock =>
    -- the key has a lock already, and nothing is created
    refine ⟨h.lt_created, h.injective, fun j k' lock' hj => ?_, husers lock, hholders lock⟩
    rcases lock_update.1 hj with ⟨-, hj⟩ | ⟨-, hj⟩
    · cases hj
      exact hk
    · exact h.registered j k' lock' hj
  | none =>
    -- a lock object that no key had before
    have hget : ∀ k' lock', (s.registered.set k s.created).get? k' = some lock' →
        (k' = k ∧ lock' = s.created) ∨ (k' ≠ k ∧ s.registered.get? k' = some lock') := by
      intro k' lock' hk'
      by_cases hne : k' = k
      · subst hne
        rw [Dict.get?_set_self] at hk'
        exact Or.inl ⟨rfl, (Option.some.inj hk').symm⟩
      · rw [Dict.get?_set_of_ne hne] at hk'
        exact Or.inr ⟨hne, hk'⟩
    refine ⟨fun k' lock' hk' => ?_, fun k' k'' lock' hk' hk'' => ?_, fun j k' lock' hj => ?_,
      husers s.created, hholders s.created⟩
    · rcases hget k' lock' hk' with ⟨-, rfl⟩ | ⟨-, hk'⟩
      · exact Nat.lt_succ_self _
      · exact Nat.lt_succ_of_lt (h.lt_created k' lock' hk')
    · rcases hget k' lock' hk' with ⟨hk', heq⟩ | ⟨-, hreg⟩ <;>
        rcases hget k'' lock' hk'' with ⟨hk'', heq'⟩ | ⟨-, hreg'⟩
      · rw [hk', hk'']
      · exact absurd (heq ▸ h.lt_created k'' lock' hreg') (Nat.lt_irrefl _)
      · exact absurd (heq' ▸ h.lt_created k' lock' hreg) (Nat.lt_irrefl _)
      · exact h.injective k' k'' lock' hreg hreg'
    · rcases lock_update.1 hj with ⟨-, hj⟩ | ⟨-, hj⟩
      · cases hj
        exact Dict.get?_set_self
      · have hreg := h.registered j k' lock' hj
        have hne : k' ≠ k := by
          rintro rfl
          rw [hk] at hreg
          cases hreg
        exact (Dict.get?_set_of_ne hne).trans hreg

theorem Agrees.acquire (h : s.Agrees grip) (hi : grip i = .waiting k lock)
    (hs : s.acquire i lock = some s') : s'.Agrees (Function.update grip i (.inside k lock)) := by
  have hsame : ∀ j, (Function.update grip i (.inside k lock) j).lock = (grip j).lock := by
    intro j
    by_cases hj : j = i
    · subst hj
      rw [Function.update_self, hi]
      rfl
    · rw [Function.update_of_ne hj]
  unfold KeyedLocks.acquire at hs
  split at hs
  · cases hs
  next hfree =>
    cases hs
    refine ⟨h.lt_created, h.injective, fun j k' lock' hj => h.registered j k' lock' (hsame j ▸ hj),
      fun j k' lock' => hsame j ▸ h.users j k' lock', fun lock' j => ?_⟩
    rw [inside_update]
    by_cases hlock : lock' = lock
    · subst hlock
      rw [Dict.get?_set_self]
      constructor
      · intro hj
        exact Or.inl ⟨(Option.some.inj hj).symm, k, rfl⟩
      · rintro (⟨rfl, -⟩ | ⟨-, hj⟩)
        · rfl
        · rw [← h.holder, hfree] at hj
          cases hj
    · rw [Dict.get?_set_of_ne hlock, h.holder]
      constructor
      · rintro ⟨k', hj⟩
        refine Or.inr ⟨?_, k', hj⟩
        rintro rfl
        rw [hi] at hj
        cases hj
      · rintro (⟨-, k', hj⟩ | ⟨-, hj⟩)
        · cases hj
          exact absurd rfl hlock
        · exact hj

/-- What is left of the users when a task puts down the lock object it has obtained. -/
theorem Agrees.users_giveUp (h : s.Agrees grip) (hi : (grip i).lock = some (k, lock))
    (j : ℕ) (k' : κ) (lock' : ℕ) :
    (j, k', lock') ∈ (s.giveUp i lock).users ↔
      (Function.update grip i .free j).lock = some (k', lock') := by
  rw [lock_update, giveUp, List.mem_filter, h.users, decide_eq_true_eq]
  by_cases hj : j = i
  · subst hj
    rw [hi]
    simp only [Grip.lock, Option.some.injEq, Prod.mk.injEq, true_and, ne_eq, not_true_eq_false,
      false_and, or_false, and_false, reduceCtorEq, iff_false, not_and, not_not]
    rintro ⟨-, rfl⟩
    rfl
  · simp [hj]

theorem Agrees.giveUp (h : s.Agrees grip) (hi : grip i = .waiting k lock) :
    (s.giveUp i lock).Agrees (Function.update grip i .free) := by
  refine ⟨h.lt_created, h.injective, fun j k' lock' hj => ?_,
    h.users_giveUp (by rw [hi]; rfl), fun lock' j => ?_⟩
  · rcases lock_update.1 hj with ⟨-, hj⟩ | ⟨-, hj⟩
    · cases hj
    · exact h.registered j k' lock' hj
  · rw [inside_update, KeyedLocks.giveUp, h.holder]
    by_cases hj : j = i
    · subst hj
      simp [hi]
    · simp [hj]

theorem Agrees.release (h : s.Agrees grip) (hi : grip i = .inside k lock) :
    (s.release i lock).Agrees (Function.update grip i .free) := by
  refine ⟨h.lt_created, h.injective, fun j k' lock' hj => ?_,
    h.users_giveUp (by rw [hi]; rfl), fun lock' j => ?_⟩
  · rcases lock_update.1 hj with ⟨-, hj⟩ | ⟨-, hj⟩
    · cases hj
    · exact h.registered j k' lock' hj
  · rw [inside_update, KeyedLocks.release]
    by_cases hlock : lock' = lock
    · subst hlock
      rw [Dict.get?_erase_self]
      refine iff_of_false (by simp) ?_
      rintro (⟨-, k', hj⟩ | ⟨hne, hj⟩)
      · cases hj
      · have hholder := (h.holder lock' i).2 ⟨k, hi⟩
        rw [(h.holder lock' j).2 hj] at hholder
        exact hne (Option.some.inj hholder)
    · rw [Dict.get?_erase_of_ne hlock, h.holder]
      by_cases hj : j = i
      · subst hj
        simp [hi, Ne.symm hlock]
      · simp [hj]

/-- Lock objects that no task has obtained may be forgotten. -/
theorem Agrees.drop {p : κ → Bool} (h : s.Agrees grip) (hidle : s.Idle p) :
    (s.drop p).Agrees grip := by
  have hget : ∀ k' lock', (s.drop p).registered.get? k' = some lock' ↔
      p k' = false ∧ s.registered.get? k' = some lock' := by
    intro k' lock'
    rw [KeyedLocks.drop, Dict.get?_filter_key]
    cases p k' <;> simp
  refine ⟨fun k' lock' hk' => h.lt_created k' lock' ((hget _ _).1 hk').2,
    fun k' k'' lock' hk' hk'' =>
      h.injective k' k'' lock' ((hget _ _).1 hk').2 ((hget _ _).1 hk'').2,
    fun j k' lock' hj => (hget _ _).2 ⟨?_, h.registered j k' lock' hj⟩, h.users, h.holder⟩
  by_contra hp
  exact hidle k' lock' (Bool.of_not_eq_false hp) (h.registered j k' lock' hj) _
    ((h.users j k' lock').2 hj) rfl

end KeyedLocks
