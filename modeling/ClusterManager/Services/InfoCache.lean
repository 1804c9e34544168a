import Mathlib.Data.Int.Order.Basic
import ClusterManager.Errors
import ClusterManager.Lib.Hands
import ClusterManager.Lib.KeyedLocks

/-!
# The info cache

`InfoCache` keeps the answers to info commands for a while and lets one caller at a time fetch a
missing one. Every call is a program over the statements between its awaits; a fetch begins and
ends at separate statements, so anything may happen while it is under way. Fetches are numbered as
they begin, and `floor` is the number of fetches that had begun when a key was last invalidated.

`invalidation_effective` says when an invalidation is effective and fetches are single-flight: when
no invalidation meets a fetch of a key it covers, or forgets a lock that a caller has obtained.
-/

namespace ClusterManager.Services.InfoCache

open Interleaving

/-- `(conn_id, command)`. -/
abbrev Key : Type := String × String

/-- A value and the number of the fetch it came from. -/
structure Fetched (V : Type) where
  value : V
  fetch : ℕ
  deriving DecidableEq

/-- `_CacheEntry`. -/
structure CacheEntry (V : Type) where
  value : Fetched V
  expiresAt : ℤ

/-- `INFO_CACHE_TTL_STATIC`. -/
def infoCacheTtlStatic : ℤ := 60

/-- `INFO_CACHE_TTL_VOLATILE`. -/
def infoCacheTtlVolatile : ℤ := 5

/-- `_default_ttl`. -/
def defaultTtl (command : String) : ℤ :=
  if command ∈ ["build", "edition"] then infoCacheTtlStatic else infoCacheTtlVolatile

/-- What a call does between its awaits. -/
inductive CacheOp
  /-- The entry of a key, if it has not expired. -/
  | lookUp (key : Key)
  | acquireGlobal
  | releaseGlobal
  /-- The body of `_get_lock`. -/
  | lockOf (key : Key)
  | acquire (lock : ℕ)
  | release (lock : ℕ)
  | beginFetch (key : Key)
  /-- The fetch returns and its value is stored, or it raises. -/
  | finishFetch (fetch : ℕ) (key : Key) (ttl : ℤ)
  /-- The body of `invalidate_connection`. -/
  | invalidate (connId : String)
  /-- The body of `clear`. -/
  | clear

/-- What each statement returns. -/
abbrev CacheOp.Resp (V : Type) : CacheOp → Type
  | .lookUp _ => Option (Fetched V)
  | .lockOf _ => ℕ
  | .beginFetch _ => ℕ
  | .finishFetch _ _ _ => Fetched V
  | _ => Unit

/-- The programs over these statements. -/
abbrev CacheProgram (V α : Type) : Type := Coroutine CacheOp (CacheOp.Resp V) Exc α

variable {V : Type}

/-- One statement. -/
abbrev op (r : CacheOp) : CacheProgram V (r.Resp V) := Coroutine.call r

/-- `_get_lock`. -/
def getLock (key : Key) : CacheProgram V ℕ := do
  op .acquireGlobal
  (op (.lockOf key)).tryFinally (op .releaseGlobal)

/-- Return the entry of a key if it has not expired, else go on. -/
def cachedOr (key : Key) (fetch : CacheProgram V (Fetched V)) : CacheProgram V (Fetched V) := do
  match ← op (.lookUp key) with
  | some value => return value
  | none => fetch

/-- `get_or_fetch`. -/
def getOrFetch (connId command : String) (ttl : Option ℤ) : CacheProgram V (Fetched V) :=
  cachedOr (connId, command) do
    let lock ← getLock (connId, command)
    op (.acquire lock)
    Coroutine.tryFinally (cachedOr (connId, command) do
        let fetch ← op (.beginFetch (connId, command))
        op (.finishFetch fetch (connId, command) (ttl.getD (defaultTtl command))))
      (op (.release lock))

/-- `invalidate_connection`. -/
def invalidateConnection (connId : String) : CacheProgram V Unit := do
  op .acquireGlobal
  (op (.invalidate connId)).tryFinally (op .releaseGlobal)

/-- `clear`. -/
def clear : CacheProgram V Unit := do
  op .acquireGlobal
  (op .clear).tryFinally (op .releaseGlobal)

/-- A call of the cache. -/
inductive Call
  | getOrFetch (connId command : String) (ttl : Option ℤ)
  | invalidateConnection (connId : String)
  | clear

/-- The program of a call, and the value it returns if it is a `get_or_fetch`. -/
def Call.program : Call → CacheProgram V (Option (Fetched V))
  | .getOrFetch connId command ttl => do return some (← InfoCache.getOrFetch connId command ttl)
  | .invalidateConnection connId => do
      InfoCache.invalidateConnection connId
      return none
  | .clear => do
      InfoCache.clear
      return none

/-! ### The cache -/

/-- The cache, the clock and what the model keeps of the fetches: how many have begun, which are
under way, and how many had begun when a key was last invalidated. -/
structure Cache (V : Type) where
  clock : ℤ := 0
  store : Dict Key (CacheEntry V) := []
  locks : KeyedLocks Key := {}
  globalLocked : Bool := false
  begun : ℕ := 0
  inFlight : List (ℕ × Key) := []
  floor : Key → ℕ := fun _ => 0

/-- The value of an entry that has not expired. -/
def Cache.current (s : Cache V) (key : Key) : Option (Fetched V) :=
  (s.store.get? key).bind fun entry => if s.clock < entry.expiresAt then some entry.value else none

/-- Forget the entries and the locks of some keys. -/
def Cache.forget (s : Cache V) (entries locks covered : Key → Bool) : Cache V :=
  { s with store := s.store.filter fun entry => !entries entry.1
           locks := s.locks.drop locks
           floor := fun key => if covered key then s.begun else s.floor key }

/-- One statement of the `i`-th call; `outcome` is what a fetch comes to. -/
def Cache.exec (i : ℕ) (r : CacheOp) (outcome : Except Exc V) (s : Cache V) :
    Option (Except Exc (r.Resp V) × Cache V) :=
  match r with
  | .lookUp key => some (.ok (s.current key), s)
  | .acquireGlobal =>
      if s.globalLocked then none else some (.ok (), { s with globalLocked := true })
  | .releaseGlobal => some (.ok (), { s with globalLocked := false })
  | .lockOf key =>
      some (.ok (s.locks.obtain i key).1, { s with locks := (s.locks.obtain i key).2 })
  | .acquire lock => (s.locks.acquire i lock).map fun locks => (.ok (), { s with locks })
  | .release lock => some (.ok (), { s with locks := s.locks.release i lock })
  | .beginFetch key =>
      some (.ok s.begun,
        { s with begun := s.begun + 1, inFlight := (s.begun, key) :: s.inFlight })
  | .finishFetch fetch key ttl =>
      let s' := { s with inFlight := s.inFlight.filter fun f => f.1 ≠ fetch }
      match outcome with
      | .ok value => some (.ok ⟨value, fetch⟩,
          { s' with store := s.store.set key ⟨⟨value, fetch⟩, s.clock + ttl⟩ })
      | .error e => some (.error e, s')
  | .invalidate connId =>
      let stored : Key → Bool := fun key => key.1 = connId ∧ (s.store.get? key).isSome
      some (.ok (), s.forget stored stored fun key => key.1 = connId)
  | .clear => some (.ok (), s.forget (fun _ => true) (fun _ => true) fun _ => true)

/-- The calls of the cache over time. A step of the environment lets time pass. -/
def world : World CacheOp (CacheOp.Resp V) Exc (Except Exc V) ℕ (Cache V) where
  exec := Cache.exec
  env elapsed s := some { s with clock := s.clock + elapsed }

/-- At most one fetch is in flight for a key. -/
def SingleFlight (c : Config CacheOp (CacheOp.Resp V) Exc (Option (Fetched V)) (Cache V)) : Prop :=
  (c.shared.inFlight.map Prod.snd).Nodup

/-- No fetch of a key that an invalidation covers is in flight, and no lock that it forgets has
been obtained by a caller that has not released it. -/
def NothingUnderway : Guard CacheOp (CacheOp.Resp V) Exc (Except Exc V) (Cache V) :=
  fun _ r _ _ s =>
    match r with
    | .invalidate connId =>
        (∀ f ∈ s.inFlight, f.2.1 ≠ connId) ∧
          s.locks.Idle fun key => key.1 = connId ∧ (s.store.get? key).isSome
    | .clear => s.inFlight = [] ∧ s.locks.Idle fun _ => true
    | _ => True

/-! ### What a call holds -/

/-- Where a call stands: the lock it has obtained or is inside, and the fetch it has begun. -/
inductive Hand
  | free
  | waiting (key : Key) (lock : ℕ)
  | inside (key : Key) (lock : ℕ)
  | fetching (key : Key) (lock fetch : ℕ)

namespace Hand

/-- Where the call stands with its lock. -/
def grip : Hand → Grip Key
  | free => .free
  | waiting key lock => .waiting key lock
  | inside key lock => .inside key lock
  | fetching key lock _ => .inside key lock

/-- The fetch of the call that is under way. -/
def fetch : Hand → Option (ℕ × Key)
  | fetching key _ fetch => some (fetch, key)
  | _ => none

/-- What an answer changes. -/
def upd : Hand → Answer CacheOp (CacheOp.Resp V) Exc → Hand
  | _, ⟨.lockOf key, .ok lock⟩ => waiting key lock
  | waiting key lock, ⟨.acquire _, _⟩ => inside key lock
  | inside key lock, ⟨.beginFetch _, .ok fetch⟩ => fetching key lock fetch
  | fetching key lock _, ⟨.finishFetch _ _ _, _⟩ => inside key lock
  | _, ⟨.release _, _⟩ => free
  | hand, _ => hand

end Hand

/-- What an answer yields: a value of a key, from the cache or from a fetch. -/
def yielded : Answer CacheOp (CacheOp.Resp V) Exc → Option (Key × Fetched V)
  | ⟨.lookUp key, .ok (some value)⟩ => some (key, value)
  | ⟨.finishFetch _ key _, .ok value⟩ => some (key, value)
  | _ => none

/-- The hand of a call and the last value it was yielded. -/
abbrev Holding (V : Type) : Type := Hand × Option (Key × Fetched V)

/-- What an answer changes. -/
def Holding.upd (g : Holding V) (a : Answer CacheOp (CacheOp.Resp V) Exc) : Holding V :=
  (g.1.upd a, (yielded a).or g.2)

/-- What a call holds at each statement. -/
def Needs : CacheOp → Holding V → Prop
  | .lockOf _, (g, _) => g = .free
  | .acquire lock, (g, _) => ∃ key, g = .waiting key lock
  | .release lock, (g, _) => ∃ key, g = .inside key lock
  | .beginFetch key, (g, _) => ∃ lock, g = .inside key lock
  | .finishFetch fetch key _, (g, _) => ∃ lock, g = .fetching key lock fetch
  | _, _ => True

/-- Only a fetch raises. -/
def Possible : (r : CacheOp) → Except Exc (r.Resp V) → Holding V → Prop
  | .finishFetch _ _ _, _, _ => True
  | _, x, _ => ∃ a, x = .ok a

/-- How a call ends: with nothing in its hand and, if it is a `get_or_fetch`, with the last value
it was yielded. -/
def Call.Ends : Call → Option (Fetched V) → Holding V → Prop
  | .getOrFetch connId command _, some value, g => g = (.free, some ((connId, command), value))
  | _, _, g => g.1 = .free

/-- A call in flight, judged by its hand. -/
abbrev SafeHand {α : Type} (p : CacheProgram V α) (g : Holding V) (Q : α → Holding V → Prop)
    (E : Exc → Holding V → Prop) : Prop :=
  p.Safe (Changes Possible Holding.upd) Needs g Q E

@[simp] theorem safe_cachedOr {key : Key} {fetch : CacheProgram V (Fetched V)} {g : Holding V}
    {Q : Fetched V → Holding V → Prop} {E : Exc → Holding V → Prop} :
    SafeHand (cachedOr key fetch) g Q E ↔
      (∀ value, Q value (g.1, some (key, value))) ∧ SafeHand fetch g Q E := by
  have hupd : ∀ value, Holding.upd g ⟨.lookUp key, .ok value⟩ =
      (g.1, (value.map fun value => (key, value)).or g.2) := by
    intro value
    obtain ⟨_ | _ | _ | _, _⟩ := g <;> cases value <;> rfl
  rw [SafeHand, cachedOr, Coroutine.safe_bind, Coroutine.safe_call]
  constructor
  · rintro ⟨-, h, -⟩
    exact ⟨fun value => h (some value) _ ⟨⟨_, rfl⟩, (hupd (some value)).symm⟩,
      h none _ ⟨⟨_, rfl⟩, (hupd none).symm⟩⟩
  · rintro ⟨hvalue, hfetch⟩
    refine ⟨trivial, ?_, fun e _ h => by simp [Changes, Possible] at h⟩
    rintro (_ | value) _ ⟨-, rfl⟩
    · rw [hupd]
      exact hfetch
    · rw [hupd]
      exact hvalue value

@[simp] theorem safe_getLock {key : Key} {y : Option (Key × Fetched V)}
    {Q : ℕ → Holding V → Prop} {E : Exc → Holding V → Prop} :
    SafeHand (getLock key) (.free, y) Q E ↔ ∀ lock, Q lock (.waiting key lock, y) := by
  simp [getLock, Needs, Changes, Possible, Hand.upd, Holding.upd, yielded]

section Statements

variable {key : Key} {lock fetch : ℕ} {ttl : ℤ} {g : Holding V} {y : Option (Key × Fetched V)}
  {E : Exc → Holding V → Prop}

/-- A statement, given what it needs. -/
theorem safe_op {r : CacheOp} {Q : r.Resp V → Holding V → Prop} (hneeds : Needs r g)
    (hok : ∀ a, Q a (g.upd ⟨r, .ok a⟩))
    (herror : ∀ e, Possible r (.error e) g → E e (g.upd ⟨r, .error e⟩)) :
    SafeHand (op r) g Q E :=
  safe_request hneeds (fun a _ => hok a) herror

theorem safe_acquire {Q : Unit → Holding V → Prop} (hQ : Q () (.inside key lock, y)) :
    SafeHand (op (.acquire lock)) (.waiting key lock, y) Q E :=
  safe_op ⟨key, rfl⟩ (fun _ => hQ) (by simp [Possible])

theorem safe_release {Q : Unit → Holding V → Prop} (hQ : Q () (.free, y)) :
    SafeHand (op (.release lock)) (.inside key lock, y) Q E :=
  safe_op ⟨key, rfl⟩ (fun _ => hQ) (by simp [Possible])

theorem safe_beginFetch {Q : ℕ → Holding V → Prop}
    (hQ : ∀ fetch, Q fetch (.fetching key lock fetch, y)) :
    SafeHand (op (.beginFetch key)) (.inside key lock, y) Q E :=
  safe_op ⟨lock, rfl⟩ hQ (by simp [Possible])

theorem safe_finishFetch {Q : Fetched V → Holding V → Prop}
    (hQ : ∀ value, Q value (.inside key lock, some (key, value)))
    (hE : ∀ e, E e (.inside key lock, y)) :
    SafeHand (op (.finishFetch fetch key ttl)) (.fetching key lock fetch, y) Q E :=
  safe_op ⟨lock, rfl⟩ hQ fun e _ => hE e

end Statements

/-- A call makes each statement with the hand for it. -/
theorem safe_program (call : Call) :
    SafeHand (call.program : CacheProgram V _) (.free, none) call.Ends fun _ g => g.1 = .free := by
  cases call with
  | getOrFetch connId command ttl =>
    simp only [Call.program, InfoCache.getOrFetch, Coroutine.safe_bind, Coroutine.safe_tryFinally,
      Coroutine.safe_pure, safe_cachedOr, safe_getLock]
    refine ⟨fun value => rfl, fun lock => safe_acquire ⟨fun value => safe_release rfl, ?_⟩⟩
    refine safe_beginFetch fun fetch => safe_finishFetch (fun value => ?_) fun e => ?_
    · exact safe_release rfl
    · exact safe_release rfl
  | invalidateConnection connId =>
    simp [Call.program, InfoCache.invalidateConnection, Needs, Changes, Possible, Hand.upd,
      Holding.upd, yielded, Call.Ends]
  | clear =>
    simp [Call.program, InfoCache.clear, Needs, Changes, Possible, Hand.upd, Holding.upd, yielded,
      Call.Ends]

/-! ### What the cache and the hands have to do with each other -/

/-- The locks agree with the grips, the fetches under way are those the calls have begun, and no
value in the cache comes from a fetch that began before its key was last invalidated, nor will
one that is under way. -/
structure Inv (s : Cache V) (grips : ℕ → Grip Key) (fetches : ℕ → Option (ℕ × Key)) : Prop where
  locks : s.locks.Agrees grips
  flights : ∀ f, f ∈ s.inFlight ↔ ∃ i, fetches i = some f
  inside : ∀ i f, fetches i = some f → ∃ lock, grips i = .inside f.2 lock
  owner : ∀ i j f f', fetches i = some f → fetches j = some f' → f.1 = f'.1 → i = j
  nodup : (s.inFlight.map Prod.snd).Nodup
  lt_begun : ∀ f ∈ s.inFlight, f.1 < s.begun
  floor_le : ∀ key, s.floor key ≤ s.begun
  flight_floor : ∀ f ∈ s.inFlight, s.floor f.2 ≤ f.1
  store_floor : ∀ key entry, s.store.get? key = some entry → s.floor key ≤ entry.value.fetch

section Exec

variable {s s' : Cache V} {grips : ℕ → Grip Key} {fetches : ℕ → Option (ℕ × Key)} {i : ℕ}
  {key : Key} {lock : ℕ}

/-- A call that only changes its grip, and has no fetch under way. -/
theorem Inv.regrip {locks : KeyedLocks Key} {g : Grip Key} (h : Inv s grips fetches)
    (hi : fetches i = none) (hlocks : locks.Agrees (Function.update grips i g)) :
    Inv { s with locks } (Function.update grips i g) fetches :=
  { h with
    locks := hlocks
    inside := fun j f hj => by
      have hne : j ≠ i := by
        rintro rfl
        rw [hi] at hj
        cases hj
      rw [Function.update_of_ne hne]
      exact h.inside j f hj }

/-- The fetches the calls have under way after one of them has begun or ended one. -/
theorem fetches_update {x : Option (ℕ × Key)} {j : ℕ} {f : ℕ × Key} :
    Function.update fetches i x j = some f ↔
      (j = i ∧ x = some f) ∨ (j ≠ i ∧ fetches j = some f) := by
  by_cases hj : j = i
  · subst hj
    simp
  · simp [hj]

theorem Inv.beginFetch (h : Inv s grips fetches) (hgrip : grips i = .inside key lock)
    (hi : fetches i = none) :
    Inv { s with begun := s.begun + 1, inFlight := (s.begun, key) :: s.inFlight } grips
      (Function.update fetches i (some (s.begun, key))) := by
  -- a fetch of the key would belong to the call inside for the key, which is this one
  have hfresh : key ∉ s.inFlight.map Prod.snd := by
    intro hmem
    obtain ⟨f, hf, rfl⟩ := List.mem_map.1 hmem
    obtain ⟨j, hj⟩ := (h.flights f).1 hf
    obtain ⟨lock', hlock'⟩ := h.inside j f hj
    obtain rfl := h.locks.exclusive hgrip hlock'
    rw [hi] at hj
    cases hj
  have hlt : ∀ j f, fetches j = some f → f.1 < s.begun := fun j f hj =>
    h.lt_begun f ((h.flights f).2 ⟨j, hj⟩)
  refine ⟨h.locks, fun f => ?_, fun j f hj => ?_, fun j j' f f' hj hj' heq => ?_,
    List.nodup_cons.2 ⟨hfresh, h.nodup⟩, fun f hf => ?_, fun key =>
      Nat.le_succ_of_le (h.floor_le key), fun f hf => ?_, h.store_floor⟩
  · simp only [fetches_update, List.mem_cons, h.flights]
    constructor
    · rintro (rfl | ⟨j, hj⟩)
      · exact ⟨i, Or.inl ⟨rfl, rfl⟩⟩
      · refine ⟨j, Or.inr ⟨?_, hj⟩⟩
        rintro rfl
        rw [hi] at hj
        cases hj
    · rintro ⟨j, ⟨-, hf⟩ | ⟨-, hj⟩⟩
      · exact Or.inl (Option.some.inj hf).symm
      · exact Or.inr ⟨j, hj⟩
  · rcases fetches_update.1 hj with ⟨rfl, hf⟩ | ⟨-, hj⟩
    · cases hf
      exact ⟨lock, hgrip⟩
    · exact h.inside j f hj
  · rcases fetches_update.1 hj with ⟨rfl, hf⟩ | ⟨-, hf⟩ <;>
      rcases fetches_update.1 hj' with ⟨hij, hf'⟩ | ⟨-, hf'⟩
    · exact hij.symm
    · have := hlt _ _ hf'
      cases hf
      omega
    · have := hlt _ _ hf
      cases hf'
      omega
    · exact h.owner j j' f f' hf hf' heq
  · rcases List.mem_cons.1 hf with rfl | hf
    · exact Nat.lt_succ_self _
    · exact Nat.lt_succ_of_lt (h.lt_begun f hf)
  · rcases List.mem_cons.1 hf with rfl | hf
    · exact h.floor_le key
    · exact h.flight_floor f hf

theorem Inv.endFetch {fetch : ℕ} (h : Inv s grips fetches) (hi : fetches i = some (fetch, key)) :
    Inv { s with inFlight := s.inFlight.filter fun f => f.1 ≠ fetch } grips
      (Function.update fetches i none) := by
  refine ⟨h.locks, fun f => ?_, fun j f hj => ?_, fun j j' f f' hj hj' => ?_,
    h.nodup.sublist (List.filter_sublist.map _), fun f hf => h.lt_begun f (List.mem_filter.1 hf).1,
    h.floor_le, fun f hf => h.flight_floor f (List.mem_filter.1 hf).1, h.store_floor⟩
  · simp only [fetches_update, List.mem_filter, h.flights, decide_eq_true_eq]
    constructor
    · rintro ⟨⟨j, hj⟩, hne⟩
      refine ⟨j, Or.inr ⟨?_, hj⟩⟩
      rintro rfl
      rw [hi] at hj
      cases hj
      exact hne rfl
    · rintro ⟨j, ⟨-, hf⟩ | ⟨hne, hj⟩⟩
      · cases hf
      · exact ⟨⟨j, hj⟩, fun heq => hne (h.owner j i f _ hj hi heq)⟩
  · rcases fetches_update.1 hj with ⟨-, hf⟩ | ⟨-, hj⟩
    · cases hf
    · exact h.inside j f hj
  · rcases fetches_update.1 hj with ⟨-, hf⟩ | ⟨-, hj⟩
    · cases hf
    · rcases fetches_update.1 hj' with ⟨-, hf⟩ | ⟨-, hj'⟩
      · cases hf
      · exact h.owner j j' f f' hj hj'

/-- A value may be stored that was fetched since the key was last invalidated. -/
theorem Inv.store {entry : CacheEntry V} (h : Inv s grips fetches)
    (hfetch : s.floor key ≤ entry.value.fetch) :
    Inv { s with store := s.store.set key entry } grips fetches :=
  { h with
    store_floor := fun key' entry' hget => by
      by_cases hkey : key' = key
      · subst hkey
        rw [Dict.get?_set_self] at hget
        cases hget
        exact hfetch
      · rw [Dict.get?_set_of_ne hkey] at hget
        exact h.store_floor key' entry' hget }

/-- An invalidation that meets no fetch of a key it covers and forgets no lock in use. -/
theorem Inv.forget {entries locks covered : Key → Bool} (h : Inv s grips fetches)
    (hcovered : ∀ key, (s.store.get? key).isSome → covered key = true → entries key = true)
    (hflight : ∀ f ∈ s.inFlight, covered f.2 = false) (hidle : s.locks.Idle locks) :
    Inv (s.forget entries locks covered) grips fetches := by
  refine { h with locks := h.locks.drop hidle, floor_le := fun key => ?_,
                  flight_floor := fun f hf => ?_, store_floor := fun key entry hget => ?_ }
  · simp only [Cache.forget]
    split
    · exact Nat.le_refl _
    · exact h.floor_le key
  · simp only [Cache.forget, hflight f hf]
    exact h.flight_floor f hf
  · simp only [Cache.forget, Dict.get?_filter_key] at hget ⊢
    cases hkey : entries key with
    | true => simp [hkey] at hget
    | false =>
      rw [hkey] at hget
      have hfloor : covered key = false := by
        by_contra hcov
        have hstored : (s.store.get? key).isSome := Option.isSome_of_mem hget
        rw [hcovered key hstored (Bool.of_not_eq_false hcov)] at hkey
        cases hkey
      rw [hfloor]
      exact h.store_floor key entry hget

end Exec

/-- Every statement made with the hand for it keeps the invariant, an invalidation as long as
nothing is under way. -/
theorem inv_exec {i : ℕ} {r : CacheOp} {outcome : Except Exc V}
    {past : List (Answer CacheOp (CacheOp.Resp V) Exc)} {s s' : Cache V}
    {a : Except Exc (r.Resp V)} {h : ℕ → Hand} {y : Option (Key × Fetched V)}
    (hinv : Inv s (Hand.grip ∘ h) (Hand.fetch ∘ h)) (hneeds : Needs r (h i, y))
    (hG : NothingUnderway i r outcome past s) (hx : s.exec i r outcome = some (a, s')) :
    Possible r a (h i, y) ∧ Inv s' (Hand.grip ∘ Function.update h i (Hand.upd (h i) ⟨r, a⟩))
      (Hand.fetch ∘ Function.update h i (Hand.upd (h i) ⟨r, a⟩)) := by
  rw [Function.comp_update, Function.comp_update]
  -- what a hand that stays, or keeps its grip, or has no fetch, contributes
  have hgrip : ∀ g : Hand, g.grip = (h i).grip →
      Function.update (Hand.grip ∘ h) i g.grip = Hand.grip ∘ h := by
    intro g hg
    rw [hg]
    exact Function.update_eq_self i (Hand.grip ∘ h)
  have hfetch : ∀ g : Hand, g.fetch = (h i).fetch →
      Function.update (Hand.fetch ∘ h) i g.fetch = Hand.fetch ∘ h := by
    intro g hg
    rw [hg]
    exact Function.update_eq_self i (Hand.fetch ∘ h)
  cases r with
  | lookUp key =>
    cases hx
    have hupd : Hand.upd (h i) ⟨.lookUp key, .ok (s.current key)⟩ = h i := by cases h i <;> rfl
    rw [hupd, hgrip _ rfl, hfetch _ rfl]
    exact ⟨⟨_, rfl⟩, hinv⟩
  | acquireGlobal =>
    have hupd : Hand.upd (V := V) (h i) ⟨.acquireGlobal, .ok ()⟩ = h i := by cases h i <;> rfl
    simp only [Cache.exec] at hx
    split at hx
    · cases hx
    · cases hx
      rw [hupd, hgrip _ rfl, hfetch _ rfl]
      exact ⟨⟨_, rfl⟩, { hinv with }⟩
  | releaseGlobal =>
    have hupd : Hand.upd (V := V) (h i) ⟨.releaseGlobal, .ok ()⟩ = h i := by cases h i <;> rfl
    cases hx
    rw [hupd, hgrip _ rfl, hfetch _ rfl]
    exact ⟨⟨_, rfl⟩, { hinv with }⟩
  | lockOf key =>
    cases hx
    have hfree : h i = .free := hneeds
    rw [hfetch (Hand.upd (h i) _) (by rw [hfree]; rfl)]
    exact ⟨⟨_, rfl⟩, hinv.regrip (by simp [hfree, Hand.fetch])
      (hinv.locks.obtain (by simp [hfree, Hand.grip]))⟩
  | acquire lock =>
    obtain ⟨key, hkey⟩ := hneeds
    obtain ⟨locks, hlocks, heq⟩ := Option.map_eq_some_iff.1 hx
    cases heq
    rw [hfetch (Hand.upd (h i) _) (by rw [hkey]; rfl), hkey]
    exact ⟨⟨_, rfl⟩, hinv.regrip (by simp [hkey, Hand.fetch])
      (hinv.locks.acquire (by simp [hkey, Hand.grip]) hlocks)⟩
  | release lock =>
    obtain ⟨key, hkey⟩ := hneeds
    cases hx
    rw [hfetch (Hand.upd (h i) _) (by rw [hkey]; rfl), hkey]
    exact ⟨⟨_, rfl⟩, hinv.regrip (by simp [hkey, Hand.fetch])
      (hinv.locks.release (by simp [hkey, Hand.grip]; rfl))⟩
  | beginFetch key =>
    obtain ⟨lock, hlock⟩ := hneeds
    cases hx
    rw [hgrip (Hand.upd (h i) _) (by rw [hlock]; rfl), hlock]
    exact ⟨⟨_, rfl⟩, hinv.beginFetch (by simp [hlock, Hand.grip]; rfl)
      (by simp [hlock, Hand.fetch])⟩
  | finishFetch fetch key ttl =>
    obtain ⟨lock, hlock⟩ := hneeds
    -- the value is stored only if no invalidation has raised the floor over its fetch
    have hflight : (Hand.fetch ∘ h) i = some (fetch, key) := by simp [hlock, Hand.fetch]
    have hend := hinv.endFetch hflight
    have hfloor : s.floor key ≤ fetch :=
      hinv.flight_floor (fetch, key) ((hinv.flights _).2 ⟨i, hflight⟩)
    rw [hgrip (Hand.upd (h i) _) (by rw [hlock]; rfl), hlock]
    refine ⟨trivial, ?_⟩
    cases outcome with
    | ok value =>
      cases hx
      exact hend.store hfloor
    | error e =>
      cases hx
      exact hend
  | invalidate connId =>
    have hupd : Hand.upd (V := V) (h i) ⟨.invalidate connId, .ok ()⟩ = h i := by cases h i <;> rfl
    cases hx
    rw [hupd, hgrip _ rfl, hfetch _ rfl]
    -- an invalidation meets no fetch of its connection, so that none is left under way
    refine ⟨⟨_, rfl⟩, hinv.forget ?_ ?_ hG.2⟩
    · intro key hstored hkey
      exact decide_eq_true ⟨of_decide_eq_true hkey, hstored⟩
    · intro f hf
      exact decide_eq_false (hG.1 f hf)
  | clear =>
    have hupd : Hand.upd (V := V) (h i) ⟨.clear, .ok ()⟩ = h i := by cases h i <;> rfl
    cases hx
    rw [hupd, hgrip _ rfl, hfetch _ rfl]
    refine ⟨⟨_, rfl⟩, hinv.forget (fun _ _ _ => rfl) ?_ hG.2⟩
    intro f hf
    rw [hG.1] at hf
    cases hf

/-- An invalidation raises the floor of a key, and nothing lowers it. -/
theorem floor_le_exec {i : ℕ} {r : CacheOp} {outcome : Except Exc V} {s s' : Cache V}
    {a : Except Exc (r.Resp V)} {grips : ℕ → Grip Key} {fetches : ℕ → Option (ℕ × Key)}
    (hinv : Inv s grips fetches) (hx : s.exec i r outcome = some (a, s')) (key : Key) :
    s.floor key ≤ s'.floor key := by
  have hforget : ∀ entries locks covered : Key → Bool,
      s.floor key ≤ (s.forget entries locks covered).floor key := by
    intro entries locks covered
    simp only [Cache.forget]
    split
    · exact hinv.floor_le key
    · exact Nat.le_refl _
  cases r with
  | invalidate connId =>
    cases hx
    exact hforget _ _ _
  | clear =>
    cases hx
    exact hforget _ _ _
  | acquireGlobal =>
    simp only [Cache.exec] at hx
    split at hx <;> cases hx
    exact Nat.le_refl _
  | acquire lock =>
    obtain ⟨locks, -, heq⟩ := Option.map_eq_some_iff.1 hx
    cases heq
    exact Nat.le_refl _
  | finishFetch fetch key ttl =>
    cases outcome <;>
      · cases hx
        exact Nat.le_refl _
  | _ =>
    cases hx
    exact Nat.le_refl _

/-- A value a call is yielded comes from no fetch below the floor. -/
theorem floor_le_yielded {i : ℕ} {r : CacheOp} {outcome : Except Exc V} {s s' : Cache V}
    {a : Except Exc (r.Resp V)} {h : ℕ → Hand} {y : Option (Key × Fetched V)} {key : Key}
    {value : Fetched V} (hinv : Inv s (Hand.grip ∘ h) (Hand.fetch ∘ h)) (hneeds : Needs r (h i, y))
    (hx : s.exec i r outcome = some (a, s')) (hy : yielded ⟨r, a⟩ = some (key, value)) :
    s.floor key ≤ value.fetch := by
  cases r with
  | lookUp key' =>
    cases hx
    cases hget : s.current key' with
    | none => simp [hget, yielded] at hy
    | some value' =>
      rw [hget] at hy
      cases hy
      obtain ⟨entry, hentry, hvalue⟩ := Option.bind_eq_some_iff.1 hget
      split at hvalue <;> cases hvalue
      exact hinv.store_floor _ _ hentry
  | finishFetch fetch key' ttl =>
    obtain ⟨lock, hlock⟩ := hneeds
    cases outcome with
    | error e =>
      cases hx
      cases hy
    | ok v =>
      cases hx
      cases hy
      exact hinv.flight_floor (fetch, key) ((hinv.flights _).2 ⟨i, by simp [hlock, Hand.fetch]⟩)
  | _ => cases a <;> cases hy

/-! ### Runs -/

section Runs

variable {calls : List Call}
  {c c' : Config CacheOp (CacheOp.Resp V) Exc (Option (Fetched V)) (Cache V)}
  {es : List (Event (Except Exc V) ℕ)}

/-- The invariant, in what the calls hold. -/
def Held (s : Cache V) (h : ℕ → Holding V) : Prop :=
  Inv s (Hand.grip ∘ Prod.fst ∘ h) (Hand.fetch ∘ Prod.fst ∘ h)

/-- Every call in flight is judged by what it holds, and the invariant holds. -/
def Underway (calls : List Call) (Inv : Cache V → (ℕ → Holding V) → Prop)
    (c : Config CacheOp (CacheOp.Resp V) Exc (Option (Fetched V)) (Cache V)) : Prop :=
  Follows Possible Holding.upd (.free, none) (fun _ => Needs)
    (fun i result g => ∀ call, calls[i]? = some call → call.Ends result g) (fun _ _ _ => True) c ∧
    Inv c.shared (hands Holding.upd (.free, none) c)

theorem held_exec {i : ℕ} {r : CacheOp} {outcome : Except Exc V}
    {past : List (Answer CacheOp (CacheOp.Resp V) Exc)} {s s' : Cache V}
    {a : Except Exc (r.Resp V)} {h : ℕ → Holding V} (hheld : Held s h) (hneeds : Needs r (h i))
    (hG : NothingUnderway i r outcome past s) (hx : s.exec i r outcome = some (a, s')) :
    Possible r a (h i) ∧ Held s' (Function.update h i (Holding.upd (h i) ⟨r, a⟩)) := by
  have hfst : Prod.fst ∘ Function.update h i (Holding.upd (h i) ⟨r, a⟩) =
      Function.update (Prod.fst ∘ h) i (Hand.upd (h i).1 ⟨r, a⟩) := Function.comp_update _ _ _ _
  rw [Held, hfst]
  exact inv_exec (h := Prod.fst ∘ h) (i := i) (y := (h i).2) hheld hneeds hG hx

theorem underway_start (calls : List Call) (clock : ℤ) :
    Underway calls Held (.start { clock } (calls.map (Call.program (V := V)))) := by
  refine ⟨follows_start fun i p hp => ?_, ?_⟩
  · rw [List.getElem?_map] at hp
    obtain ⟨call, hcall, rfl⟩ := Option.map_eq_some_iff.1 hp
    refine (safe_program call).mono (fun result g hends call' hcall' => ?_) fun _ _ _ => trivial
    rw [hcall] at hcall'
    exact Option.some.inj hcall' ▸ hends
  · rw [hands_start]
    exact {
      locks := KeyedLocks.agrees_start
      flights := fun _ => by simp [Config.start, Hand.fetch]
      inside := by simp [Hand.fetch]
      owner := by simp [Hand.fetch]
      nodup := List.nodup_nil
      lt_begun := by simp [Config.start]
      floor_le := fun _ => Nat.le_refl _
      flight_floor := by simp [Config.start]
      store_floor := by simp [Config.start] }

/-- The invariant holds as long as no invalidation meets anything underway. -/
theorem underway_always (h : Underway calls Held c) (hG : Guarded world NothingUnderway c es) :
    Always world (Underway calls Held) c es :=
  always_of_follows Held
    (fun i r x past s a s' h hheld hneeds _ hG hx => held_exec hheld hneeds hG hx)
    (fun elapsed s s' h hheld hs => by
      cases hs
      exact { hheld with }) h.1 h.2 hG

/-- Beside the invariant, the floor of a key is at least `floor₀`, and so is the number of the
fetch of any value the `j`-th call was yielded last for the key. -/
def HeldAbove (floor₀ : ℕ) (key : Key) (j : ℕ) (s : Cache V) (h : ℕ → Holding V) : Prop :=
  Held s h ∧ floor₀ ≤ s.floor key ∧ ∀ value, (h j).2 = some (key, value) → floor₀ ≤ value.fetch

/-- From where a `get_or_fetch` has not begun, it is yielded no value below the floor there. -/
theorem yields_always {j floor₀ : ℕ} {key : Key} (h : Underway calls Held c)
    (hbefore : ∀ value, (hands Holding.upd (.free, none) c j).2 ≠ some (key, value))
    (hfloor : floor₀ ≤ c.shared.floor key) (hG : Guarded world NothingUnderway c es) :
    Always world (Underway calls (HeldAbove floor₀ key j)) c es := by
  refine always_of_follows (HeldAbove floor₀ key j)
    (fun i r x past s a s' h hinv hneeds _ hG hx => ?_) (fun elapsed s s' h hinv hs => ?_) h.1
    ⟨h.2, hfloor, fun value hvalue => absurd hvalue (hbefore value)⟩ hG
  · obtain ⟨hheld, hle, hyields⟩ := hinv
    obtain ⟨hpossible, hheld'⟩ := held_exec hheld hneeds hG hx
    refine ⟨hpossible, hheld', Nat.le_trans hle (floor_le_exec hheld hx key),
      fun value hvalue => ?_⟩
    by_cases hij : j = i
    · subst hij
      rw [Function.update_self] at hvalue
      cases hy : yielded ⟨r, a⟩ with
      | none => exact hyields value (by simpa [Holding.upd, hy] using hvalue)
      | some y =>
        obtain rfl : y = (key, value) := by simpa [Holding.upd, hy] using hvalue
        exact Nat.le_trans hle (floor_le_yielded (h := Prod.fst ∘ h) hheld hneeds hx hy)
    · rw [Function.update_of_ne hij] at hvalue
      exact hyields value hvalue
  · cases hs
    exact ⟨{ hinv.1 with }, hinv.2⟩

end Runs

/-- **Invalidations are effective and fetches single-flight where no invalidation meets anything
underway.** At most one fetch is ever in flight for a key. And from any point `c` of such a run,
a `get_or_fetch` that has not begun returns no value whose fetch had begun when its key was last
invalidated. -/
theorem invalidation_effective (calls : List Call) (clock : ℤ)
    (es es' : List (Event (Except Exc V) ℕ))
    (hG : Guarded world NothingUnderway
      (.start { clock } (calls.map (Call.program (V := V)))) (es ++ es')) :
    Always world SingleFlight (.start { clock } (calls.map (Call.program (V := V)))) (es ++ es') ∧
    ∀ c c', run world (.start { clock } (calls.map (Call.program (V := V)))) es = some c →
      run world c es' = some c' →
      ∀ (j : ℕ) (connId command : String) (ttl : Option ℤ) (value : Fetched V) p past,
        calls[j]? = some (.getOrFetch connId command ttl) → c.tasks[j]? = some ⟨p, []⟩ →
        c'.tasks[j]? = some ⟨.pure (some value), past⟩ →
          c.shared.floor (connId, command) ≤ value.fetch := by
  have hstart := underway_start (V := V) calls clock
  refine ⟨(underway_always hstart hG).imp fun c h => h.2.nodup, ?_⟩
  intro c c' hrun hrun' j connId command ttl value p past hcall ht ht'
  have hc : Underway calls Held c := (underway_always hstart hG.before).run hrun
  have hbefore : ∀ value, (hands Holding.upd (.free, none) c j).2 ≠
      some ((connId, command), value) := by
    intro value
    rw [hands_of_task ht]
    simp
  have hc' := (yields_always hc hbefore (Nat.le_refl _) (hG.after hrun)).run hrun'
  have hends : hand Holding.upd (.free, none) past = (.free, some ((connId, command), value)) :=
    hc'.1 j _ ht' _ hcall
  refine hc'.2.2.2 value ?_
  rw [hands_of_task ht', hends]

/-! ### A fetch that straddles an invalidation -/

/-- Three readers of one key, and a `clear`. -/
def readersAndClear : List Call :=
  [.getOrFetch "c" "build" none, .clear, .getOrFetch "c" "build" none, .getOrFetch "c" "build" none]

/-- The cache with these calls before their first step. -/
def readersStart : Config CacheOp (CacheOp.Resp Unit) Exc (Option (Fetched Unit)) (Cache Unit) :=
  .start {} (readersAndClear.map Call.program)

/-- The first reader begins a fetch, `clear` runs, and the second reader begins one too. -/
def clearBetweenFetches : List (Event (Except Exc Unit) ℕ) :=
  List.replicate 7 (.task 0 (.ok ())) ++ List.replicate 3 (.task 1 (.ok ())) ++
    List.replicate 7 (.task 2 (.ok ()))

/-- Then two fetches of the key are in flight; and when the first of them has returned, a reader
that had not begun before `clear` returned gets its value. -/
theorem fetch_straddles_clear :
    ¬ Always world SingleFlight readersStart clearBetweenFetches ∧
    ∃ c c' p past value,
      run world readersStart (clearBetweenFetches ++ List.replicate 2 (.task 0 (.ok ()))) = some c ∧
      run world c [.task 3 (.ok ())] = some c' ∧
      (c.tasks[1]?.map fun t => t.prog) = some (.pure none) ∧ c.tasks[3]? = some ⟨p, []⟩ ∧
      c'.tasks[3]? = some ⟨.pure (some value), past⟩ ∧
      value.fetch < c.shared.floor ("c", "build") := by
  constructor
  · intro h
    exact absurd (h.run rfl) (by unfold SingleFlight; decide)
  · exact ⟨_, _, _, _, _, rfl, rfl, rfl, rfl, rfl, by decide⟩

/-- A reader, an invalidation of its connection, and another reader of the same key. -/
def readInvalidateRead : List Call :=
  [.getOrFetch "c" "build" none, .invalidateConnection "c", .getOrFetch "c" "build" none]

/-- The first reader fetches and returns, and then the invalidation runs. -/
def readThenInvalidate : List (Event (Except Exc String) ℕ) :=
  List.replicate 9 (.task 0 (.ok "old")) ++ List.replicate 3 (.task 1 (.ok ""))

/-- The reader after it. -/
def readAgain : List (Event (Except Exc String) ℕ) := List.replicate 9 (.task 2 (.ok "new"))

/-- The invalidation meets nothing underway. -/
theorem guarded_readAgain :
    Guarded world NothingUnderway (.start {} (readInvalidateRead.map (Call.program (V := String))))
      (readThenInvalidate ++ readAgain) := by
  iterate 10 (rintro _ ⟨⟩; refine ⟨trivial, ?_⟩)
  -- the fetch has returned, and its caller has released the lock
  rintro _ ⟨⟩
  refine ⟨⟨fun f hf => (by cases hf), fun key lock _ _ u hu => (by cases hu)⟩, ?_⟩
  iterate 10 (rintro _ ⟨⟩; refine ⟨trivial, ?_⟩)
  trivial

/-- The reader after an invalidation does not get the value from before it, but fetches again. -/
theorem invalidation_effective_readAgain :
    Always world SingleFlight (.start {} (readInvalidateRead.map (Call.program (V := String))))
      (readThenInvalidate ++ readAgain) ∧
    ∃ c c' p past past',
      run world (.start {} (readInvalidateRead.map (Call.program (V := String))))
        readThenInvalidate = some c ∧
      run world c readAgain = some c' ∧
      c.tasks[0]? = some ⟨.pure (some ⟨"old", 0⟩), past⟩ ∧ c.tasks[2]? = some ⟨p, []⟩ ∧
      c'.tasks[2]? = some ⟨.pure (some ⟨"new", 1⟩), past'⟩ ∧
      0 < c.shared.floor ("c", "build") ∧ c.shared.floor ("c", "build") ≤ 1 := by
  obtain ⟨hsingle, hfresh⟩ :=
    invalidation_effective readInvalidateRead 0 readThenInvalidate readAgain guarded_readAgain
  exact ⟨hsingle, _, _, _, _, _, rfl, rfl, rfl, rfl, rfl, by decide,
    hfresh _ _ rfl rfl 2 "c" "build" none ⟨"new", 1⟩ _ _ rfl rfl rfl⟩

end ClusterManager.Services.InfoCache
