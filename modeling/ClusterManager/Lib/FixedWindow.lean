import Mathlib.Data.List.Count

/-!
# Fixed windows

A bucket counts what was charged to it in the window that ends at `resetAt`. It is rolled over when
it is next looked at after that, so a window begins with the first look after the last one ended.

`Ledger` compares a bucket with the list of all that was ever charged to it. While nothing is
charged beyond the limit, no window holds more than the limit (`Ledger.bounded`) and no interval of
the length of a window more than twice the limit (`Ledger.interval_le`).
-/

namespace FixedWindow

/-- A bucket: what was charged in its window, and when the window ends. -/
structure Bucket where
  count : ℕ
  resetAt : ℕ
  deriving DecidableEq

/-- The bucket of a window that has ended begins another one. -/
def Bucket.roll (window now : ℕ) (b : Bucket) : Bucket :=
  if b.resetAt ≤ now then ⟨0, now + window⟩ else b

/-- One more charge. -/
def Bucket.charge (b : Bucket) : Bucket := { b with count := b.count + 1 }

/-- A charge: when it was made, and when the window it was made in ends. -/
structure Charge where
  time : ℕ
  ends : ℕ
  deriving DecidableEq

/-- How much was charged in the window that ends at `w`. -/
def chargedTo (charges : List Charge) (w : ℕ) : ℕ := charges.countP fun c => c.ends = w

/-- How much was charged between two times. -/
def chargedIn (charges : List Charge) (t t' : ℕ) : ℕ :=
  charges.countP fun c => t ≤ c.time ∧ c.time ≤ t'

/-- All that was charged to a bucket up to `now`. -/
structure Ledger (window limit now : ℕ) (b : Bucket) (charges : List Charge) : Prop where
  count : b.count = chargedTo charges b.resetAt
  bounded : ∀ w, chargedTo charges w ≤ limit
  near : b.resetAt ≤ now + window
  within : ∀ c ∈ charges, c.time < c.ends ∧ c.ends ≤ c.time + window
  /-- Every window but the one of the bucket is over, and ended a window before that one does. -/
  ended : ∀ c ∈ charges, c.ends = b.resetAt ∨
    (c.ends ≤ now ∧ (c.ends + window ≤ b.resetAt ∨ b.resetAt ≤ now))
  apart : ∀ c ∈ charges, ∀ c' ∈ charges,
    c.ends = c'.ends ∨ c.ends + window ≤ c'.ends ∨ c'.ends + window ≤ c.ends

variable {window limit now : ℕ} {b : Bucket} {charges : List Charge}

theorem roll_of_le (h : b.resetAt ≤ now) : b.roll window now = ⟨0, now + window⟩ := if_pos h

theorem roll_of_lt (h : now < b.resetAt) : b.roll window now = b := if_neg (by omega)

/-- A bucket that was rolled over is in its window. -/
theorem lt_resetAt_roll (hwindow : 0 < window) : now < (b.roll window now).resetAt := by
  by_cases h : b.resetAt ≤ now
  · rw [roll_of_le h]
    show now < now + window
    omega
  · rw [roll_of_lt (by omega)]
    omega

/-- A bucket is as it was, or it was rolled over: nothing was charged. -/
def Uncharged (b b' : Bucket) : Prop := b' = b ∨ b'.count = 0

theorem Uncharged.trans {b' b'' : Bucket} (h : Uncharged b b') (h' : Uncharged b' b'') :
    Uncharged b b'' := by
  rcases h' with rfl | h'
  · exact h
  · exact Or.inr h'

theorem uncharged_roll : Uncharged b (b.roll window now) := by
  by_cases h : b.resetAt ≤ now
  · rw [roll_of_le h]
    exact Or.inr rfl
  · rw [roll_of_lt (by omega)]
    exact Or.inl rfl

theorem chargedTo_concat (c : Charge) (w : ℕ) :
    chargedTo (charges ++ [c]) w = chargedTo charges w + if c.ends = w then 1 else 0 := by
  simp [chargedTo, List.countP_append, List.countP_cons]

/-- Nothing was charged in a window that no charge was made in. -/
theorem chargedTo_eq_zero {w : ℕ} (h : ∀ c ∈ charges, c.ends ≠ w) : chargedTo charges w = 0 := by
  rw [chargedTo, List.countP_eq_zero]
  intro c hc
  simpa using h c hc

/-- What was charged between two times, where it was all charged in two windows. -/
theorem chargedIn_le {t t' w w' : ℕ}
    (h : ∀ c ∈ charges, t ≤ c.time → c.time ≤ t' → c.ends = w ∨ c.ends = w') :
    chargedIn charges t t' ≤ chargedTo charges w + chargedTo charges w' := by
  unfold chargedIn chargedTo
  induction charges with
  | nil => simp
  | cons c charges ih =>
    have ih := ih fun d hd => h d (List.mem_cons_of_mem _ hd)
    have hc := h c List.mem_cons_self
    simp only [List.countP_cons, decide_eq_true_eq]
    by_cases hin : t ≤ c.time ∧ c.time ≤ t'
    · rcases hc hin.1 hin.2 with heq | heq <;> simp only [hin, heq, and_self, if_true] <;> omega
    · simp only [hin, if_false]
      omega

namespace Ledger

theorem empty : Ledger window limit now ⟨0, 0⟩ [] where
  count := rfl
  bounded w := Nat.zero_le _
  near := Nat.zero_le _
  within := by simp
  ended := by simp
  apart := by simp

theorem later {now' : ℕ} (h : Ledger window limit now b charges) (hle : now ≤ now') :
    Ledger window limit now' b charges where
  count := h.count
  bounded := h.bounded
  near := by
    have := h.near
    omega
  within := h.within
  ended c hc := by
    have := h.ended c hc
    omega
  apart := h.apart

/-- A new window begins after all the others have ended. -/
theorem roll (hwindow : 0 < window) (h : Ledger window limit now b charges) :
    Ledger window limit now (b.roll window now) charges := by
  by_cases hend : b.resetAt ≤ now
  · rw [roll_of_le hend]
    have hover : ∀ c ∈ charges, c.ends ≤ now := by
      intro c hc
      have := h.ended c hc
      omega
    exact
      { count := (chargedTo_eq_zero fun c hc => by
          have := hover c hc
          show c.ends ≠ now + window
          omega).symm
        bounded := h.bounded
        near := Nat.le_refl _
        within := h.within
        ended := fun c hc => by
          have := hover c hc
          exact Or.inr ⟨this, Or.inl (Nat.add_le_add_right this window)⟩
        apart := h.apart }
  · rw [roll_of_lt (by omega)]
    exact h

/-- A charge within the limit, to a bucket that is in its window. -/
theorem charge (h : Ledger window limit now b charges) (hin : now < b.resetAt)
    (hroom : b.count < limit) :
    Ledger window limit now b.charge (charges ++ [⟨now, b.resetAt⟩]) := by
  have hspaced : ∀ c ∈ charges, c.ends = b.resetAt ∨ c.ends + window ≤ b.resetAt := by
    intro c hc
    have := h.ended c hc
    omega
  constructor
  · rw [chargedTo_concat, Bucket.charge, h.count]
    simp
  · intro w
    rw [chargedTo_concat]
    have hw := h.bounded w
    split
    next heq =>
      have hcount := h.count
      simp only at heq
      rw [heq] at hcount
      omega
    next => omega
  · exact h.near
  · intro c hc
    rcases List.mem_append.1 hc with hc | hc
    · exact h.within c hc
    · rw [List.mem_singleton] at hc
      subst hc
      exact ⟨hin, h.near⟩
  · intro c hc
    rcases List.mem_append.1 hc with hc | hc
    · exact h.ended c hc
    · rw [List.mem_singleton] at hc
      subst hc
      exact Or.inl rfl
  · intro c hc c' hc'
    rcases List.mem_append.1 hc with hc | hc <;> rcases List.mem_append.1 hc' with hc' | hc'
    · exact h.apart c hc c' hc'
    · rw [List.mem_singleton] at hc'
      subst hc'
      have := hspaced c hc
      show c.ends = b.resetAt ∨ c.ends + window ≤ b.resetAt ∨ b.resetAt + window ≤ c.ends
      omega
    · rw [List.mem_singleton] at hc
      subst hc
      have := hspaced c' hc'
      show b.resetAt = c'.ends ∨ b.resetAt + window ≤ c'.ends ∨ c'.ends + window ≤ b.resetAt
      omega
    · rw [List.mem_singleton] at hc hc'
      subst hc hc'
      exact Or.inl rfl

/-- A bucket whose window has ended can be replaced by a new one. -/
theorem forget (h : Ledger window limit now b charges) (hend : b.resetAt ≤ now) :
    Ledger window limit now ⟨0, 0⟩ charges where
  count := (chargedTo_eq_zero fun c hc => by
    have := (h.within c hc).1
    show c.ends ≠ 0
    omega).symm
  bounded := h.bounded
  near := Nat.zero_le _
  within := h.within
  ended c hc := by
    have := h.ended c hc
    show c.ends = 0 ∨ (c.ends ≤ now ∧ (c.ends + window ≤ 0 ∨ 0 ≤ now))
    omega
  apart := h.apart

/-- The charges between two times that lie a window apart were made in two windows at most. -/
theorem exists_windows (h : Ledger window limit now b charges) (t : ℕ) :
    ∃ w w', ∀ c ∈ charges, t ≤ c.time → c.time ≤ t + window → c.ends = w ∨ c.ends = w' := by
  -- from the first of three windows to the last it takes more than the length of one
  have hthree : ∀ c ∈ charges, ∀ c' ∈ charges, ∀ c'' ∈ charges, t ≤ c.time →
      c''.time ≤ t + window → c.ends + window ≤ c'.ends → c'.ends + window ≤ c''.ends → False := by
    intro c hc c' hc' c'' hc'' hfirst hlast h₁ h₂
    have := h.within c hc
    have := h.within c'' hc''
    omega
  by_cases hex : ∃ c ∈ charges, ∃ c' ∈ charges, (t ≤ c.time ∧ c.time ≤ t + window) ∧
      (t ≤ c'.time ∧ c'.time ≤ t + window) ∧ c.ends + window ≤ c'.ends
  · obtain ⟨c, hc, c', hc', hin, hin', hlt⟩ := hex
    refine ⟨c.ends, c'.ends, fun d hd hd₁ hd₂ => ?_⟩
    rcases h.apart c hc d hd with heq | hcd | hdc
    · exact Or.inl heq.symm
    · rcases h.apart c' hc' d hd with heq | hcd' | hdc'
      · exact Or.inr heq.symm
      · exact (hthree c hc c' hc' d hd hin.1 hd₂ hlt hcd').elim
      · exact (hthree c hc d hd c' hc' hin.1 hin'.2 hcd hdc').elim
    · exact (hthree d hd c hc c' hc' hd₁ hin'.2 hdc hlt).elim
  · by_cases hany : ∃ c ∈ charges, t ≤ c.time ∧ c.time ≤ t + window
    · obtain ⟨c, hc, hin⟩ := hany
      refine ⟨c.ends, c.ends, fun d hd hd₁ hd₂ => Or.inl ?_⟩
      rcases h.apart c hc d hd with heq | hcd | hdc
      · exact heq.symm
      · exact absurd ⟨c, hc, d, hd, hin, ⟨hd₁, hd₂⟩, hcd⟩ hex
      · exact absurd ⟨d, hd, c, hc, ⟨hd₁, hd₂⟩, hin, hdc⟩ hex
    · exact ⟨0, 0, fun d hd hd₁ hd₂ => absurd ⟨d, hd, hd₁, hd₂⟩ hany⟩

/-- No interval of the length of a window holds more than twice the limit. -/
theorem interval_le (h : Ledger window limit now b charges) (t : ℕ) :
    chargedIn charges t (t + window) ≤ 2 * limit := by
  obtain ⟨w, w', hw⟩ := h.exists_windows t
  have hsplit := chargedIn_le hw
  have := h.bounded w
  have := h.bounded w'
  omega

end Ledger

end FixedWindow
