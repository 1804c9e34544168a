import Mathlib.Data.Nat.Notation

/-!
# Programs that await answers

A `Coroutine` is the tree of what a program can do: return, raise, or await the answer to a
request and go on with it. The answer is a value or an exception, so a handler around an `await`
is a handler around the request. `Safe` judges a program against every way its requests may be
answered, one rule for each constructor and each combinator; `run` answers them from a state.
-/

/-- A program over the requests `ρ`, answered by `resp r` or an exception of `ε`. -/
inductive Coroutine (ρ : Type) (resp : ρ → Type) (ε α : Type) : Type
  | pure (a : α)
  | throw (e : ε)
  | await (r : ρ) (k : Except ε (resp r) → Coroutine ρ resp ε α)

namespace Coroutine

variable {ρ : Type} {resp : ρ → Type} {ε α β σ : Type}

/-- Go on with the value the first program returns. -/
def bind : Coroutine ρ resp ε α → (α → Coroutine ρ resp ε β) → Coroutine ρ resp ε β
  | .pure a, f => f a
  | .throw e, _ => .throw e
  | .await r k, f => .await r fun x => (k x).bind f

/-- Run a handler when the program raises. -/
def tryCatch : Coroutine ρ resp ε α → (ε → Coroutine ρ resp ε α) → Coroutine ρ resp ε α
  | .pure a, _ => .pure a
  | .throw e, h => h e
  | .await r k, h => .await r fun x => (k x).tryCatch h

instance : Monad (Coroutine ρ resp ε) where
  pure := .pure
  bind := bind

instance : MonadExcept ε (Coroutine ρ resp ε) where
  throw := .throw
  tryCatch := tryCatch

/-- Await one request; its exception is raised here. -/
def call (r : ρ) : Coroutine ρ resp ε (resp r) :=
  .await r fun
    | .ok a => .pure a
    | .error e => .throw e

/-- A computation that awaits nothing. -/
def lift : Except ε α → Coroutine ρ resp ε α
  | .ok a => .pure a
  | .error e => .throw e

/-- Run `last` however the program ends. -/
def tryFinally (p : Coroutine ρ resp ε α) (last : Coroutine ρ resp ε Unit) :
    Coroutine ρ resp ε α := do
  let a ← p.tryCatch fun e => do
    last
    MonadExcept.throw e
  last
  return a

/-- The same program where its requests are among others. -/
def embed {ρ' : Type} {resp' : ρ' → Type} (f : ρ → ρ') (back : ∀ r, resp' (f r) → resp r) :
    Coroutine ρ resp ε α → Coroutine ρ' resp' ε α
  | .pure a => .pure a
  | .throw e => .throw e
  | .await r k => .await (f r) fun x => (k (x.map (back r))).embed f back

/-- Whether the program has returned or raised. -/
def isDone : Coroutine ρ resp ε α → Bool
  | .await _ _ => false
  | _ => true

/-- After the answers of `past` the program makes the request `r`. -/
inductive Requests : Coroutine ρ resp ε α → List ((r : ρ) × Except ε (resp r)) → ρ → Prop
  | here (r : ρ) (k : Except ε (resp r) → Coroutine ρ resp ε α) : Requests (.await r k) [] r
  | later (r : ρ) (k : Except ε (resp r) → Coroutine ρ resp ε α) (x : Except ε (resp r))
      (past : List ((r : ρ) × Except ε (resp r))) (r' : ρ) :
      Requests (k x) past r' → Requests (.await r k) (⟨r, x⟩ :: past) r'

/-! ### Judging a program -/

/-- `p.Safe next Φ s Q E`: from `s`, with `next` saying how an answered request moves the state,
`p` awaits a request `r` only in states with `Φ r`, returns in a state with `Q` and raises in a
state with `E`. -/
def Safe (next : (r : ρ) → Except ε (resp r) → σ → σ → Prop) (Φ : ρ → σ → Prop) :
    Coroutine ρ resp ε α → σ → (α → σ → Prop) → (ε → σ → Prop) → Prop
  | .pure a, s, Q, _ => Q a s
  | .throw e, s, _, E => E e s
  | .await r k, s, Q, E => Φ r s ∧ ∀ x s', next r x s s' → Safe next Φ (k x) s' Q E

variable {next : (r : ρ) → Except ε (resp r) → σ → σ → Prop} {Φ : ρ → σ → Prop}
  {Q Q' : α → σ → Prop} {E E' : ε → σ → Prop} {s : σ}

@[simp] theorem safe_pure {a : α} :
    Safe next Φ (Pure.pure a : Coroutine ρ resp ε α) s Q E ↔ Q a s := Iff.rfl

@[simp] theorem safe_throw {e : ε} :
    Safe next Φ (MonadExcept.throw e : Coroutine ρ resp ε α) s Q E ↔ E e s := Iff.rfl

@[simp] theorem safe_lift {x : Except ε α} :
    Safe next Φ (lift x : Coroutine ρ resp ε α) s Q E ↔
      (∀ a, x = .ok a → Q a s) ∧ ∀ e, x = .error e → E e s := by
  cases x <;> simp [lift, Safe]

/-- A request returns or raises. -/
@[simp] theorem safe_call {r : ρ} {Q : resp r → σ → Prop} :
    Safe next Φ (call r) s Q E ↔ Φ r s ∧
      (∀ a s', next r (.ok a) s s' → Q a s') ∧ ∀ e s', next r (.error e) s s' → E e s' := by
  refine and_congr_right fun _ => ⟨fun h => ⟨fun a => h (.ok a), fun e => h (.error e)⟩, ?_⟩
  rintro ⟨hok, herr⟩ (e | a) s' hs
  · exact herr e s' hs
  · exact hok a s' hs

/-- What a `bind` asks of its first program. -/
@[simp] theorem safe_bind {p : Coroutine ρ resp ε α} {f : α → Coroutine ρ resp ε β}
    {Q : β → σ → Prop} :
    Safe next Φ (p >>= f) s Q E ↔ Safe next Φ p s (fun a s => Safe next Φ (f a) s Q E) E := by
  induction p generalizing s with
  | pure a => rfl
  | throw e => rfl
  | await r k ih =>
    exact and_congr_right fun _ => forall_congr' fun x => forall_congr' fun s' =>
      forall_congr' fun _ => ih x

/-- What a handler asks of the program it guards. -/
@[simp] theorem safe_tryCatch {p : Coroutine ρ resp ε α} {h : ε → Coroutine ρ resp ε α} :
    Safe next Φ (p.tryCatch h) s Q E ↔
      Safe next Φ p s Q (fun e s => Safe next Φ (h e) s Q E) := by
  induction p generalizing s with
  | pure a => rfl
  | throw e => rfl
  | await r k ih =>
    exact and_congr_right fun _ => forall_congr' fun x => forall_congr' fun s' =>
      forall_congr' fun _ => ih x

/-- What `finally` asks of the program before it. -/
@[simp] theorem safe_tryFinally {p : Coroutine ρ resp ε α} {last : Coroutine ρ resp ε Unit} :
    Safe next Φ (p.tryFinally last) s Q E ↔
      Safe next Φ p s (fun a s => Safe next Φ last s (fun _ => Q a) E)
        (fun e s => Safe next Φ last s (fun _ => E e) E) := by
  simp only [tryFinally, safe_bind, safe_tryCatch, safe_throw, safe_pure]

/-- What a program among other requests is judged by. -/
theorem safe_embed {ρ' : Type} {resp' : ρ' → Type} {f : ρ → ρ'} {back : ∀ r, resp' (f r) → resp r}
    {p : Coroutine ρ resp ε α} {next : (r : ρ') → Except ε (resp' r) → σ → σ → Prop}
    {Φ : ρ' → σ → Prop} :
    Safe next Φ (p.embed f back) s Q E ↔
      p.Safe (fun r x s s' => ∃ y, x = y.map (back r) ∧ next (f r) y s s') (fun r => Φ (f r))
        s Q E := by
  induction p generalizing s with
  | pure a => rfl
  | throw e => rfl
  | await r k ih =>
    refine and_congr_right fun _ => ⟨fun h x s' hx => ?_, fun h y s' hy => ?_⟩
    · obtain ⟨y, rfl, hy⟩ := hx
      exact ih _ |>.1 (h y s' hy)
    · exact ih _ |>.2 (h _ s' ⟨y, rfl, hy⟩)

/-- What every answer preserves holds at the end of any program. -/
theorem safe_of_preserved {p : Coroutine ρ resp ε α} {I : σ → Prop}
    (hnext : ∀ r x s s', next r x s s' → I s → I s') (hs : I s) :
    Safe next (fun _ _ => True) p s (fun _ => I) fun _ => I := by
  induction p generalizing s with
  | pure a => exact hs
  | throw e => exact hs
  | await r k ih => exact ⟨trivial, fun x s' h => ih x (hnext r x s s' h hs)⟩

theorem Safe.mono {p : Coroutine ρ resp ε α} (h : Safe next Φ p s Q E)
    (hQ : ∀ a s, Q a s → Q' a s) (hE : ∀ e s, E e s → E' e s) : Safe next Φ p s Q' E' := by
  induction p generalizing s with
  | pure a => exact hQ _ _ h
  | throw e => exact hE _ _ h
  | await r k ih => exact ⟨h.1, fun x s' hs => ih x (h.2 x s' hs)⟩

/-- What holds of more ways to answer holds of fewer. -/
theorem Safe.mono_next {next' : (r : ρ) → Except ε (resp r) → σ → σ → Prop}
    {p : Coroutine ρ resp ε α} (h : Safe next Φ p s Q E)
    (hnext : ∀ r x s s', next' r x s s' → next r x s s') : Safe next' Φ p s Q E := by
  induction p generalizing s with
  | pure a => exact h
  | throw e => exact h
  | await r k ih => exact ⟨h.1, fun x s' hs => ih x (h.2 x s' (hnext r x s s' hs))⟩

/-! ### What a program may ask -/

/-- Every request of a program meets `Φ`, however the ones before were answered. -/
def Asks (Φ : ρ → Prop) (p : Coroutine ρ resp ε α) : Prop :=
  p.Safe (fun _ _ _ _ => True) (fun r (_ : Unit) => Φ r) () (fun _ _ => True) fun _ _ => True

section Asks

variable {Φ : ρ → Prop} {p : Coroutine ρ resp ε α}

theorem asks_pure {a : α} : Asks Φ (Pure.pure a : Coroutine ρ resp ε α) := trivial

theorem asks_throw {e : ε} : Asks Φ (MonadExcept.throw e : Coroutine ρ resp ε α) := trivial

theorem asks_call {r : ρ} : Asks Φ (call r : Coroutine ρ resp ε (resp r)) ↔ Φ r := by
  simp [Asks]

theorem Asks.bind {f : α → Coroutine ρ resp ε β} (hp : Asks Φ p) (hf : ∀ a, Asks Φ (f a)) :
    Asks Φ (p >>= f) :=
  safe_bind.2 (Safe.mono hp (fun a _ _ => hf a) fun _ _ h => h)

/-- What awaits nothing asks for nothing, and says what it returned. -/
theorem asks_lift_bind {x : Except ε α} {f : α → Coroutine ρ resp ε β}
    (hf : ∀ a, x = .ok a → Asks Φ (f a)) : Asks Φ (lift x >>= f) :=
  safe_bind.2 (safe_lift.2 ⟨hf, fun _ _ => trivial⟩)

theorem Asks.tryCatch {h : ε → Coroutine ρ resp ε α} (hp : Asks Φ p) (hh : ∀ e, Asks Φ (h e)) :
    Asks Φ (p.tryCatch h) :=
  safe_tryCatch.2 (Safe.mono hp (fun _ _ h => h) fun e _ _ => hh e)

theorem Asks.tryFinally {last : Coroutine ρ resp ε Unit} (hp : Asks Φ p) (hlast : Asks Φ last) :
    Asks Φ (p.tryFinally last) :=
  safe_tryFinally.2 (Safe.mono hp (fun _ _ _ => hlast) fun _ _ _ => hlast)

theorem Asks.requests {past : List ((r : ρ) × Except ε (resp r))} {r : ρ} (h : Asks Φ p)
    (hr : p.Requests past r) : Φ r := by
  induction hr with
  | here r k => exact h.1
  | later r k x past r' hr ih => exact ih (h.2 x () trivial)

end Asks

/-! ### Running a program alone -/

/-- Answer every request from the state. -/
def run (exec : (r : ρ) → σ → Except ε (resp r) × σ) :
    Coroutine ρ resp ε α → σ → Except ε α × σ
  | .pure a, s => (.ok a, s)
  | .throw e, s => (.error e, s)
  | .await r k, s => (k (exec r s).1).run exec (exec r s).2

section Run

variable {exec : (r : ρ) → σ → Except ε (resp r) × σ}

@[simp] theorem run_pure {a : α} :
    run exec (Pure.pure a : Coroutine ρ resp ε α) s = (.ok a, s) := rfl

@[simp] theorem run_throw {e : ε} :
    run exec (MonadExcept.throw e : Coroutine ρ resp ε α) s = (.error e, s) := rfl

@[simp] theorem run_lift {x : Except ε α} :
    run exec (lift x : Coroutine ρ resp ε α) s = (x, s) := by
  cases x <;> rfl

@[simp] theorem run_call {r : ρ} : run exec (call r) s = exec r s := by
  simp only [call, run]
  rcases h : exec r s with ⟨_ | _, s'⟩ <;> rfl

theorem run_bind {p : Coroutine ρ resp ε α} {f : α → Coroutine ρ resp ε β} :
    run exec (p >>= f) s = match run exec p s with
      | (.ok a, s') => run exec (f a) s'
      | (.error e, s') => (.error e, s') := by
  induction p generalizing s with
  | pure a => rfl
  | throw e => rfl
  | await r k ih => exact ih _

/-- A program that returned got there through its first part. -/
theorem exists_of_run_bind_ok {p : Coroutine ρ resp ε α} {f : α → Coroutine ρ resp ε β} {b : β}
    {s' : σ} (h : run exec (p >>= f) s = (.ok b, s')) :
    ∃ a s₁, run exec p s = (.ok a, s₁) ∧ run exec (f a) s₁ = (.ok b, s') := by
  rw [run_bind] at h
  split at h
  next a s₁ hp => exact ⟨a, s₁, hp, h⟩
  next => cases h

theorem run_tryCatch {p : Coroutine ρ resp ε α} {h : ε → Coroutine ρ resp ε α} :
    run exec (p.tryCatch h) s = match run exec p s with
      | (.ok a, s') => (.ok a, s')
      | (.error e, s') => run exec (h e) s' := by
  induction p generalizing s with
  | pure a => rfl
  | throw e => rfl
  | await r k ih => exact ih _

/-- What holds along every way the requests may be answered holds of the run. -/
theorem Safe.run {p : Coroutine ρ resp ε α} (h : p.Safe next Φ s Q E)
    (hexec : ∀ r s, Φ r s → next r (exec r s).1 s (exec r s).2) :
    match p.run exec s with
    | (.ok a, s') => Q a s'
    | (.error e, s') => E e s' := by
  induction p generalizing s with
  | pure a => exact h
  | throw e => exact h
  | await r k ih => exact ih _ (h.2 _ _ (hexec r s h.1))

theorem Safe.run_ok {p : Coroutine ρ resp ε α} (h : p.Safe next Φ s Q E)
    (hexec : ∀ r s, Φ r s → next r (exec r s).1 s (exec r s).2) {a : α} {s' : σ}
    (hrun : p.run exec s = (.ok a, s')) : Q a s' := by
  have hend := h.run hexec
  rw [hrun] at hend
  exact hend

theorem Safe.run_error {p : Coroutine ρ resp ε α} (h : p.Safe next Φ s Q E)
    (hexec : ∀ r s, Φ r s → next r (exec r s).1 s (exec r s).2) {e : ε} {s' : σ}
    (hrun : p.run exec s = (.error e, s')) : E e s' := by
  have hend := h.run hexec
  rw [hrun] at hend
  exact hend

/-- What holds of the state however a program ends. -/
theorem Safe.run_state {p : Coroutine ρ resp ε α} {I : σ → Prop}
    (h : p.Safe next Φ s (fun _ => I) fun _ => I)
    (hexec : ∀ r s, Φ r s → next r (exec r s).1 s (exec r s).2) : I (p.run exec s).2 := by
  match hrun : p.run exec s with
  | (.ok a, s') => exact h.run_ok hexec hrun
  | (.error e, s') => exact h.run_error hexec hrun

end Run

/-! ### Cutting a run short -/

/-- The state after the answers to the first `n` requests of a program. -/
def runFor (exec : (r : ρ) → σ → Except ε (resp r) × σ) : ℕ → Coroutine ρ resp ε α → σ → σ
  | 0, _, s => s
  | _ + 1, .pure _, s => s
  | _ + 1, .throw _, s => s
  | n + 1, .await r k, s => runFor exec n (k (exec r s).1) (exec r s).2

/-- Wherever a run is cut short, it is about to make a request or has ended. -/
theorem Safe.runFor {exec : (r : ρ) → σ → Except ε (resp r) × σ} {p : Coroutine ρ resp ε α}
    {I : σ → Prop} (h : p.Safe next Φ s Q E)
    (hexec : ∀ r s, next r (exec r s).1 s (exec r s).2) (hΦ : ∀ r s, Φ r s → I s)
    (hQ : ∀ a s, Q a s → I s) (hE : ∀ e s, E e s → I s) (n : ℕ) : I (p.runFor exec n s) := by
  induction p generalizing s n with
  | pure a => cases n <;> exact hQ a s h
  | throw e => cases n <;> exact hE e s h
  | await r k ih =>
    cases n with
    | zero => exact hΦ r s h.1
    | succ n => exact ih _ (h.2 _ _ (hexec r s)) n

/-! ### What a program asked, and what it was answered -/

/-- The requests that were made, oldest first, each with its answer. -/
abbrev History (ρ : Type) (resp : ρ → Type) (ε : Type) : Type := List ((r : ρ) × Except ε (resp r))

/-- A program goes on from a history, each answer being chosen by what was answered before. -/
def play (oracle : History ρ resp ε → (r : ρ) → Except ε (resp r)) :
    Coroutine ρ resp ε α → History ρ resp ε → Except ε α × History ρ resp ε :=
  run fun r past => (oracle past r, past ++ [⟨r, oracle past r⟩])

@[simp] theorem play_pure {oracle : History ρ resp ε → (r : ρ) → Except ε (resp r)} {a : α}
    {past : History ρ resp ε} :
    play oracle (Pure.pure a : Coroutine ρ resp ε α) past = (.ok a, past) := rfl

@[simp] theorem play_throw {oracle : History ρ resp ε → (r : ρ) → Except ε (resp r)} {e : ε}
    {past : History ρ resp ε} :
    play oracle (MonadExcept.throw e : Coroutine ρ resp ε α) past = (.error e, past) := rfl

@[simp] theorem play_lift {oracle : History ρ resp ε → (r : ρ) → Except ε (resp r)}
    {x : Except ε α} {past : History ρ resp ε} :
    play oracle (lift x : Coroutine ρ resp ε α) past = (x, past) := run_lift

@[simp] theorem play_call {oracle : History ρ resp ε → (r : ρ) → Except ε (resp r)} {r : ρ}
    {past : History ρ resp ε} :
    play oracle (call r) past = (oracle past r, past ++ [⟨r, oracle past r⟩]) := run_call

theorem play_bind {oracle : History ρ resp ε → (r : ρ) → Except ε (resp r)}
    {p : Coroutine ρ resp ε α} {f : α → Coroutine ρ resp ε β} {past : History ρ resp ε} :
    play oracle (p >>= f) past = match play oracle p past with
      | (.ok a, past') => play oracle (f a) past'
      | (.error e, past') => (.error e, past') := by
  induction p generalizing past with
  | pure a => rfl
  | throw e => rfl
  | await r k ih => exact ih _

theorem play_tryCatch {oracle : History ρ resp ε → (r : ρ) → Except ε (resp r)}
    {p : Coroutine ρ resp ε α} {h : ε → Coroutine ρ resp ε α} {past : History ρ resp ε} :
    play oracle (p.tryCatch h) past = match play oracle p past with
      | (.ok a, past') => (.ok a, past')
      | (.error e, past') => play oracle (h e) past' := by
  induction p generalizing past with
  | pure a => rfl
  | throw e => rfl
  | await r k ih => exact ih _

/-- A history is never taken back. -/
theorem prefix_play {oracle : History ρ resp ε → (r : ρ) → Except ε (resp r)}
    {p : Coroutine ρ resp ε α} {past : History ρ resp ε} : past <+: (play oracle p past).2 := by
  induction p generalizing past with
  | pure a => exact List.prefix_refl _
  | throw e => exact List.prefix_refl _
  | await r k ih => exact (List.prefix_append _ _).trans (ih _)

/-- What a program asked before it went on was asked. -/
theorem mem_play_bind {oracle : History ρ resp ε → (r : ρ) → Except ε (resp r)}
    {p : Coroutine ρ resp ε α} {f : α → Coroutine ρ resp ε β} {past : History ρ resp ε}
    {entry : (r : ρ) × Except ε (resp r)} (h : entry ∈ (play oracle p past).2) :
    entry ∈ (play oracle (p >>= f) past).2 := by
  rw [play_bind]
  split
  next a past' hp =>
    rw [hp] at h
    exact prefix_play.subset h
  next e past' hp => rwa [hp] at h

/-- What a program asked before it was handled was asked. -/
theorem mem_play_tryCatch {oracle : History ρ resp ε → (r : ρ) → Except ε (resp r)}
    {p : Coroutine ρ resp ε α} {h : ε → Coroutine ρ resp ε α} {past : History ρ resp ε}
    {entry : (r : ρ) × Except ε (resp r)} (hp : entry ∈ (play oracle p past).2) :
    entry ∈ (play oracle (p.tryCatch h) past).2 := by
  rw [play_tryCatch]
  split
  next a past' hplay => rwa [hplay] at hp
  next e past' hplay =>
    rw [hplay] at hp
    exact prefix_play.subset hp

/-- An answered request goes into the history. -/
def recorded (r : ρ) (x : Except ε (resp r)) (past past' : History ρ resp ε) : Prop :=
  past' = past ++ [⟨r, x⟩]

/-- What holds along every way the requests may be answered holds of every oracle. -/
theorem Safe.play {p : Coroutine ρ resp ε α} {past : History ρ resp ε}
    {Φ : ρ → History ρ resp ε → Prop} {Q : α → History ρ resp ε → Prop}
    {E : ε → History ρ resp ε → Prop} (h : p.Safe recorded Φ past Q E)
    (oracle : History ρ resp ε → (r : ρ) → Except ε (resp r)) :
    match p.play oracle past with
    | (.ok a, past') => Q a past'
    | (.error e, past') => E e past' := by
  induction p generalizing past with
  | pure a => exact h
  | throw e => exact h
  | await r k ih => exact ih _ (h.2 _ _ rfl)

/-- What every request of a program satisfies, those of each of its runs do. -/
theorem Asks.of_mem_play {p : Coroutine ρ resp ε α} {Φ : ρ → Prop} (h : p.Asks Φ)
    {oracle : History ρ resp ε → (r : ρ) → Except ε (resp r)} {past : History ρ resp ε} {r : ρ}
    {x : Except ε (resp r)} (hr : ⟨r, x⟩ ∈ (p.play oracle past).2) : ⟨r, x⟩ ∈ past ∨ Φ r := by
  induction p generalizing past with
  | pure a => exact Or.inl hr
  | throw e => exact Or.inl hr
  | await r' k ih =>
    rcases ih _ (h.2 _ () trivial) hr with hr | hr
    · rcases List.mem_append.1 hr with hr | hr
      · exact Or.inl hr
      · cases List.mem_singleton.1 hr
        exact Or.inr h.1
    · exact Or.inr hr

end Coroutine
