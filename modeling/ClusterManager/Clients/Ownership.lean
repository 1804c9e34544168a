import ClusterManager.Clients.Manager
import ClusterManager.Lib.Hands

/-!
# Who owns a client

Every client that was constructed is in one place: in the cache, in the hand of a call that will
publish or close it, in the cache but closed by a call that is about to replace it, or gone. `Owned`
says so of the pool and of what all calls hold, and each statement moves clients from place to
place. The gauge differs from the size of the cache by what the calls still owe it.

`owned_always` is the result: along every schedule in which no call is cut short while it would let
go of a client, and no bulk eviction meets a lock in use, every client stays owned.
-/

namespace ClusterManager.Clients

open Db Interleaving

/-! ### Places -/

/-- Where a client is. -/
inductive Place
  | cached
  /-- In the hand of a call. -/
  | hand (i : ℕ)
  /-- In the cache, and closed by a call that will replace it. -/
  | closing (i : ℕ)
  | gone

/-- The cache holds the client. -/
def Place.InCache : Place → Prop
  | .cached | .closing _ => True
  | _ => False

/-- How often a client was closed that is there. -/
def Place.closes : Place → ℕ
  | .cached | .hand _ => 0
  | _ => 1

/-- The client was constructed for the key. -/
def BuiltFor (objects : List Client) (client : ℕ) (key : CacheKey) : Prop :=
  ∃ o, objects[client]? = some o ∧ o.key = key

/-- Every client is in one place, which says whether the cache, a call or nobody has it, and how
often it was closed. -/
structure Owned (objects : List Client) (clients : Dict CacheKey ℕ)
    (own : ℕ → Dict CacheKey ℕ) (closing : ℕ → Option ℕ) (place : ℕ → Place) : Prop where
  cached : ∀ key client,
    clients.get? key = some client ↔ (place client).InCache ∧ BuiltFor objects client key
  own : ∀ i key client,
    (key, client) ∈ own i ↔ place client = .hand i ∧ BuiltFor objects client key
  closing : ∀ i client, closing i = some client ↔ place client = .closing i
  closes : ∀ client o, objects[client]? = some o → o.closes = (place client).closes
  fresh : ∀ client, objects.length ≤ client → place client = .gone

section Places

variable {objects : List Client} {clients clients' : Dict CacheKey ℕ} {own : ℕ → Dict CacheKey ℕ}
  {closing : ℕ → Option ℕ} {place : ℕ → Place} {i client : ℕ} {key : CacheKey}

theorem BuiltFor.key_eq {key' : CacheKey} (h : BuiltFor objects client key)
    (h' : BuiltFor objects client key') : key = key' := by
  obtain ⟨o, ho, rfl⟩ := h
  obtain ⟨o', ho', rfl⟩ := h'
  rw [ho] at ho'
  cases ho'
  rfl

theorem builtFor_append {o : Client} :
    BuiltFor (objects ++ [o]) client key ↔
      BuiltFor objects client key ∨ client = objects.length ∧ o.key = key := by
  simp only [BuiltFor]
  rcases lt_trichotomy client objects.length with hlt | heq | hgt
  · simp [List.getElem?_append_left hlt, hlt.ne]
  · simp [heq]
  · have hnone : (objects ++ [o])[client]? = none :=
      List.getElem?_eq_none (by rw [List.length_append, List.length_singleton]; omega)
    have hnone' : objects[client]? = none := List.getElem?_eq_none hgt.le
    simp [hnone, hnone', hgt.ne']

theorem builtFor_closed {client' : ℕ} :
    BuiltFor (objects.modify client' Client.closedOnce) client key ↔
      BuiltFor objects client key := by
  simp only [BuiltFor, List.getElem?_modify]
  by_cases h : client' = client
  · simp [h, Client.closedOnce]
  · simp [h]

/-- A call that closes a client which is nobody else's has it in its hand no more. -/
theorem Owned.closeOwn (h : Owned objects clients own closing place)
    (hmem : (key, client) ∈ own i) :
    Owned (objects.modify client Client.closedOnce) clients
      (Function.update own i ((own i).filter fun entry => entry.2 ≠ client)) closing
      (Function.update place client .gone) := by
  have hplace : place client = .hand i := ((h.own i key client).1 hmem).1
  refine ⟨fun key' client' => ?_, fun j key' client' => ?_, fun j client' => ?_,
    fun client' o ho => ?_, fun client' hlt => ?_⟩
  · rw [builtFor_closed, h.cached]
    by_cases hc : client' = client
    · simp [hc, hplace, Place.InCache]
    · simp [hc]
  · rw [builtFor_closed]
    by_cases hc : client' = client <;> by_cases hj : j = i
    · simp [hc, hj]
    · simp [hc, hj, h.own, hplace, Ne.symm hj]
    · simp [hc, hj, h.own]
    · simp [hc, hj, h.own]
  · rw [h.closing]
    by_cases hc : client' = client
    · simp [hc, hplace]
    · simp [hc]
  · rw [List.getElem?_modify] at ho
    obtain ⟨o', ho', rfl⟩ := Option.map_eq_some_iff.1 ho
    have hcloses := h.closes client' o' ho'
    by_cases hc : client = client'
    · subst hc
      simp [Client.closedOnce, hcloses, hplace, Place.closes]
    · simp [hc, Ne.symm hc, hcloses]
  · by_cases hc : client' = client
    · simp [hc]
    · rw [Function.update_of_ne hc]
      exact h.fresh client' (by simpa using hlt)

/-- A call has a client it constructs in its hand. -/
theorem Owned.construct (h : Owned objects clients own closing place) (i : ℕ) (o : Client)
    (ho : o.closes = 0) :
    Owned (objects ++ [o]) clients (Function.update own i ((o.key, objects.length) :: own i))
      closing (Function.update place objects.length (.hand i)) := by
  have hgone : place objects.length = .gone := h.fresh _ (Nat.le_refl _)
  refine ⟨fun key client => ?_, fun j key client => ?_, fun j client => ?_,
    fun client o' ho' => ?_, fun client hlt => ?_⟩
  · rw [builtFor_append, h.cached]
    by_cases hc : client = objects.length
    · simp [hc, hgone, Place.InCache]
    · simp [hc]
  · rw [builtFor_append]
    by_cases hc : client = objects.length <;> by_cases hj : j = i
    · subst hj hc
      have : ¬ BuiltFor objects objects.length key := fun ⟨o, ho, _⟩ => by simp at ho
      simp [h.own, hgone, this, eq_comm]
    · simp [hc, hj, h.own, hgone, Ne.symm hj]
    · simp [hc, hj, h.own]
    · simp [hc, hj, h.own]
  · rw [h.closing]
    by_cases hc : client = objects.length
    · simp [hc, hgone]
    · simp [hc]
  · by_cases hc : client = objects.length
    · subst hc
      obtain rfl : o = o' := by simpa using ho'
      simp [ho, Place.closes]
    · rw [Function.update_of_ne hc]
      refine h.closes client o' ?_
      rcases lt_trichotomy client objects.length with hlt | heq | hgt
      · rwa [List.getElem?_append_left hlt] at ho'
      · exact absurd heq hc
      · rw [List.getElem?_eq_none (by rw [List.length_append, List.length_singleton]; omega)] at ho'
        cases ho'
  · rw [List.length_append, List.length_singleton] at hlt
    rw [Function.update_of_ne (by omega)]
    exact h.fresh client (by omega)

/-- A call closes a client that is still cached. -/
theorem Owned.closeCached (h : Owned objects clients own closing place)
    (hget : clients.get? key = some client) (hplace : place client = .cached)
    (hi : closing i = none) :
    Owned (objects.modify client Client.closedOnce) clients own
      (Function.update closing i (some client)) (Function.update place client (.closing i)) := by
  refine ⟨fun key' client' => ?_, fun j key' client' => ?_, fun j client' => ?_,
    fun client' o ho => ?_, fun client' hlt => ?_⟩
  · rw [builtFor_closed, h.cached]
    by_cases hc : client' = client
    · simp [hc, hplace, Place.InCache]
    · simp [hc]
  · rw [builtFor_closed, h.own]
    by_cases hc : client' = client
    · simp [hc, hplace]
    · simp [hc]
  · by_cases hc : client' = client <;> by_cases hj : j = i
    · simp [hc, hj]
    · simp [hc, hj, h.closing, hplace, Ne.symm hj]
    · have hnone := h.closing i client'
      simp [hi] at hnone
      simp [hc, hj, hnone, Ne.symm hc]
    · simp [hc, hj, h.closing]
  · rw [List.getElem?_modify] at ho
    obtain ⟨o', ho', rfl⟩ := Option.map_eq_some_iff.1 ho
    have hcloses := h.closes client' o' ho'
    by_cases hc : client = client'
    · subst hc
      simp [Client.closedOnce, hcloses, hplace, Place.closes]
    · simp [hc, Ne.symm hc, hcloses]
  · have hbuilt := ((h.cached key client).1 hget).2
    have hne : client' ≠ client := by
      rintro rfl
      obtain ⟨o, ho, -⟩ := hbuilt
      exact absurd (List.getElem?_eq_some_iff.1 ho).1 (by simpa using hlt)
    rw [Function.update_of_ne hne]
    exact h.fresh client' (by simpa using hlt)

/-- A call publishes a client it has in its hand, having closed the one it replaces. -/
theorem Owned.publish (h : Owned objects clients own closing place) (hmem : (key, client) ∈ own i)
    (hclosing : closing i = clients.get? key) :
    Owned objects (clients.set key client)
      (Function.update own i ((own i).filter fun entry => entry.2 ≠ client))
      (Function.update closing i none)
      (fun c => if c = client then .cached else
        if clients.get? key = some c then .gone else place c) := by
  obtain ⟨hplace, hbuilt⟩ := (h.own i key client).1 hmem
  -- the client that is replaced is in the cache, closed by this call
  have hold : ∀ c, clients.get? key = some c → place c = .closing i := fun c hc =>
    (h.closing i c).1 (hclosing.trans hc)
  have hne : clients.get? key ≠ some client := by
    intro hc
    have := hold client hc
    rw [hplace] at this
    cases this
  -- clause by clause: the client published, the one it replaces, and every other
  refine ⟨fun key' c => ?_, fun j key' c => ?_, fun j c => ?_, fun c o ho => ?_, fun c hlt => ?_⟩
  · by_cases hc : c = client
    · subst hc
      by_cases hk : key' = key
      · simp [hk, hbuilt, Place.InCache]
      · have hother : ¬ BuiltFor objects c key' := fun hb => hk (hb.key_eq hbuilt)
        simp [hk, h.cached, hother]
    · by_cases hgone : clients.get? key = some c
      · have hb := ((h.cached key c).1 hgone).2
        by_cases hk : key' = key
        · simp [hk, Ne.symm hc, hc, hgone, Place.InCache]
        · have hother : ¬ BuiltFor objects c key' := fun hb' => hk (hb'.key_eq hb)
          simp [hk, h.cached, hother]
      · by_cases hk : key' = key
        · subst hk
          simpa [hc, Ne.symm hc, hgone] using mt (h.cached key' c).2 hgone
        · simp [hk, hc, hgone, h.cached]
  · by_cases hc : c = client
    · by_cases hj : j = i
      · simp [hc, hj]
      · simp [hc, hj, h.own, hplace, Ne.symm hj]
    · have hkeep : (key', c) ∈ Function.update own i
          ((own i).filter fun entry => entry.2 ≠ client) j ↔ (key', c) ∈ own j := by
        by_cases hj : j = i
        · simp [hj, hc]
        · simp [hj]
      rw [hkeep, h.own]
      by_cases hgone : clients.get? key = some c
      · simp [hc, hgone, hold c hgone]
      · simp [hc, hgone]
  · by_cases hc : c = client
    · subst hc
      by_cases hj : j = i
      · simp [hj]
      · simp [hj, h.closing, hplace]
    · by_cases hgone : clients.get? key = some c
      · by_cases hj : j = i
        · simp [hj, hc, hgone]
        · simp [hj, hc, hgone, h.closing, hold c hgone, Ne.symm hj]
      · by_cases hj : j = i
        · have := mt (h.closing i c).2 (by rwa [hclosing])
          simpa [hj, hc, hgone] using this
        · simp [hj, hc, hgone, h.closing]
  · have hcloses := h.closes c o ho
    by_cases hc : c = client
    · subst hc
      simp [hcloses, hplace, Place.closes]
    · by_cases hgone : clients.get? key = some c
      · simp [hc, hgone, hcloses, hold c hgone, Place.closes]
      · simp [hc, hgone, hcloses]
  · have hc : c ≠ client := by
      rintro rfl
      rw [h.fresh c hlt] at hplace
      cases hplace
    simp [hc, h.fresh c hlt]

/-- A call takes the clients of some keys out of the cache, none of them being replaced. -/
theorem Owned.pop (h : Owned objects clients own closing place) (i : ℕ) {p : CacheKey → Bool}
    {popped : Dict CacheKey ℕ}
    (hget : ∀ key, clients'.get? key = if p key then none else clients.get? key)
    (hcached : ∀ key client, p key = true → clients.get? key = some client →
      place client = .cached)
    (hpopped : ∀ key client,
      (key, client) ∈ popped ↔ p key = true ∧ clients.get? key = some client) :
    ∃ place', Owned objects clients' (Function.update own i (popped ++ own i)) closing place' := by
  classical
  refine ⟨fun c => if ∃ key, p key = true ∧ clients.get? key = some c then .hand i else place c,
    fun key c => ?_, fun j key c => ?_, fun j c => ?_, fun c o ho => ?_, fun c hlt => ?_⟩
  all_goals
    by_cases hout : ∃ key, p key = true ∧ clients.get? key = some c
  -- what was popped was in the cache, under its own key only
  · rw [if_pos hout, hget]
    obtain ⟨key', hp, hkey'⟩ := hout
    refine iff_of_false (fun hkey => ?_) (by simp [Place.InCache])
    split at hkey
    · cases hkey
    next hnot =>
      exact hnot ((((h.cached key c).1 hkey).2.key_eq ((h.cached key' c).1 hkey').2) ▸ hp)
  · rw [if_neg hout, hget, ← h.cached]
    split
    next hp => exact iff_of_false (by simp) fun hkey => hout ⟨key, hp, hkey⟩
    next => rfl
  · obtain ⟨key', hp, hkey'⟩ := hout
    have hplace := hcached key' c hp hkey'
    have hbuilt := ((h.cached key' c).1 hkey').2
    have hpop : (key, c) ∈ popped ↔ BuiltFor objects c key := by
      rw [hpopped, h.cached, hplace]
      refine ⟨fun hb => hb.2.2, fun hb => ⟨?_, trivial, hb⟩⟩
      rwa [hb.key_eq hbuilt]
    rw [if_pos ⟨key', hp, hkey'⟩]
    by_cases hj : j = i
    · simp [hj, hpop, h.own, hplace]
    · simp [hj, h.own, hplace, Ne.symm hj]
  · have hpop : (key, c) ∉ popped := fun hmem => hout ⟨key, (hpopped key c).1 hmem⟩
    rw [if_neg hout, ← h.own]
    by_cases hj : j = i
    · simp [hj, hpop]
    · simp [hj]
  · obtain ⟨key', hp, hkey'⟩ := hout
    rw [if_pos ⟨key', hp, hkey'⟩, h.closing, hcached key' c hp hkey']
    simp
  · rw [if_neg hout, h.closing]
  · rw [h.closes c o ho]
    obtain ⟨key', hp, hkey'⟩ := hout
    rw [if_pos ⟨key', hp, hkey'⟩, hcached key' c hp hkey']
    rfl
  · rw [if_neg hout]
    exact h.closes c o ho
  · obtain ⟨key', hp, hkey'⟩ := hout
    have := hcached key' c hp hkey'
    rw [h.fresh c hlt] at this
    cases this
  · rw [if_neg hout]
    exact h.fresh c hlt

end Places

/-! ### What a call holds -/

/-- Where a call stands: its lock, what it knows the cache to hold under the key of the lock, the
cached client it has closed, the clients in its hand, and what it owes the gauge. -/
structure Hand where
  grip : Grip CacheKey := .free
  view : Option (Option ℕ) := none
  closing : Option ℕ := none
  own : Dict CacheKey ℕ := []
  debt : ℤ := 0

namespace Hand

/-- The call closed a client it had, or published it. -/
def putDown (client : ℕ) (g : Hand) : Hand :=
  { g with own := g.own.filter fun entry => entry.2 ≠ client }

/-- The call took clients out of the cache. -/
def take (popped : Dict CacheKey ℕ) (g : Hand) : Hand :=
  { g with view := none, own := popped ++ g.own, debt := g.debt + popped.length }

/-- What an answer changes. -/
@[simp] def upd (g : Hand) : Answer PoolOp PoolOp.Resp Exc → Hand
  | ⟨.lockOf key, .ok lock⟩ => { g with grip := .waiting key lock }
  | ⟨.acquire _, .ok _⟩ => { g with grip := g.grip.enter }
  | ⟨.acquire _, .error _⟩ => { g with grip := .free }
  | ⟨.release _, _⟩ => { g with grip := .free, view := none }
  | ⟨.cached _, .ok client⟩ => { g with view := some client }
  | ⟨.construct key _, .ok client⟩ => { g with own := (key, client) :: g.own }
  | ⟨.close client .replacing, _⟩ => { g with closing := some client }
  | ⟨.close client _, _⟩ => g.putDown client
  | ⟨.publish _ client, _⟩ =>
      { g.putDown client with
        view := none, closing := none, debt := if g.view = some none then g.debt - 1 else g.debt }
  | ⟨.popClient key, .ok client⟩ => g.take (client.toList.map fun c => (key, c))
  | ⟨.popSession _, .ok popped⟩ => g.take popped
  | ⟨.popAll, .ok popped⟩ => g.take popped
  | ⟨.addGauge n _, _⟩ => { g with debt := g.debt + n }
  | _ => g

end Hand

/-- What a call holds at each statement. Only a call that may evict in bulk does so. -/
def Needs (bulk : Prop) : PoolOp → Hand → Prop
  | .lockOf _, g => g.grip = .free
  | .acquire lock, g => ∃ key, g.grip = .waiting key lock
  | .release lock, g => (∃ key, g.grip = .inside key lock) ∧ g.closing = none
  | .cached key, g => (∃ lock, g.grip = .inside key lock) ∧ g.closing = none
  | .close client .replacing, g => g.view = some (some client) ∧ g.closing = none
  | .close client _, g => ∃ key, (key, client) ∈ g.own
  | .publish key client, g =>
      (∃ lock, g.grip = .inside key lock) ∧ (key, client) ∈ g.own ∧ g.view = some g.closing
  | .popClient key, g => (∃ lock, g.grip = .inside key lock) ∧ g.closing = none
  | .popSession _, g => bulk ∧ g.closing = none
  | .popAll, g => bulk ∧ g.closing = none
  | _, _ => True

/-- The answers a call that is not cut short may have: a close that it relies on fails only in the
way `_logged_close` expects, and an invalidation does not raise while it has a client. -/
def Possible : (r : PoolOp) → Except Exc r.Resp → Hand → Prop
  | .close _ .cleanup, _, _ => True
  | .close _ _, .error e, _ => isCloseFailure e = true
  | .invalidateInfo _, .error _, g => g.own = []
  | .acquireGlobal, _, _ => True
  | .acquire _, _, _ => True
  | .clearInfo, _, _ => True
  | .db _, _, _ => True
  | .construct _ _, _, _ => True
  | .connect _, _, _ => True
  | .popSession _, .ok popped, _ => (popped.map Prod.snd).Nodup
  | .popAll, .ok popped, _ => (popped.map Prod.snd).Nodup
  | _, .error _, _ => False
  | _, .ok _, _ => True

/-- A call in flight, judged by what it holds. -/
abbrev SafeHand {α : Type} (bulk : Prop) (p : PoolProgram α) (g : Hand) (Q : α → Hand → Prop)
    (E : Exc → Hand → Prop) : Prop :=
  p.Safe (Changes Possible Hand.upd) (Needs bulk) g Q E

section Programs

variable {bulk : Prop} {g : Hand} {key : CacheKey} {client lock : ℕ} {reason : CloseReason}
  {E : Exc → Hand → Prop}

/-- A close under `_logged_close`: only the cleanup after a failed connect may raise. -/
theorem safe_loggedClose {Q : Unit → Hand → Prop} (hneeds : Needs bulk (.close client reason) g)
    (hQ : Q () (g.upd ⟨.close client reason, .ok ()⟩))
    (hE : reason = .cleanup → ∀ e, E e (g.upd ⟨.close client reason, .ok ()⟩)) :
    SafeHand bulk (loggedClose client reason) g Q E := by
  have hupd : ∀ e, g.upd ⟨.close client reason, .error e⟩ = g.upd ⟨.close client reason, .ok ()⟩ :=
    fun e => by cases reason <;> rfl
  refine Coroutine.safe_tryCatch.2 (safe_request hneeds (fun _ _ => hQ) fun e hpossible => ?_)
  rw [hupd]
  by_cases he : isCloseFailure e = true
  · rw [if_pos he]
    exact hQ
  · rw [if_neg he]
    refine hE ?_ e
    cases reason with
    | cleanup => rfl
    | _ => exact absurd hpossible he

/-- Obtain the lock of a key, unless cancelled before. -/
theorem safe_getConnLock {Q : ℕ → Hand → Prop} (hg : g.grip = .free)
    (hQ : ∀ lock, Q lock { g with grip := .waiting key lock }) (hE : ∀ e, E e g) :
    SafeHand bulk (getConnLock key) g Q E := by
  refine Coroutine.safe_bind.2 (safe_request trivial (fun _ _ => ?_) fun e _ => hE e)
  refine Coroutine.safe_tryFinally.2 (safe_request hg (fun lock _ => ?_) fun e h => h.elim)
  exact safe_request trivial (fun _ _ => hQ lock) fun e h => h.elim

/-- Acquire the lock that was obtained, unless cancelled before. -/
theorem safe_acquire {Q : Unit → Hand → Prop} (hg : g.grip = .waiting key lock)
    (hQ : Q () { g with grip := .inside key lock }) (hE : ∀ e, E e { g with grip := .free }) :
    SafeHand bulk (op (.acquire lock)) g Q E := by
  refine safe_request ⟨key, hg⟩ (fun _ _ => ?_) fun e _ => hE e
  rw [Hand.upd, hg]
  exact hQ

/-- A call that has nothing left but its lock leaves with an empty hand. -/
theorem safe_release (hgrip : g.grip = .inside key lock) (hclosing : g.closing = none)
    (hown : g.own = []) (hdebt : g.debt = 0) :
    SafeHand bulk (op (.release lock)) g (fun _ g => g = {}) fun _ g => g = {} := by
  refine safe_request ⟨⟨key, hgrip⟩, hclosing⟩ (fun _ _ => ?_) fun _ h => h.elim
  simp only [Hand.upd, hclosing, hown, hdebt]

/-- Connect the client that was constructed, or close it and raise. -/
theorem safe_connectOrClose {Q : Unit → Hand → Prop} (hown : g.own = [(key, client)]) (hQ : Q () g)
    (hE : ∀ e, E e { g with own := [] }) : SafeHand bulk (connectOrClose client) g Q E := by
  have hclosed : g.upd ⟨.close client .cleanup, .ok ()⟩ = { g with own := [] } := by
    simp [Hand.upd, Hand.putDown, hown]
  refine Coroutine.safe_tryCatch.2 (safe_request trivial (fun _ _ => hQ) fun e _ => ?_)
  refine Coroutine.safe_bind.2 (safe_loggedClose ⟨key, ?_⟩ ?_ fun _ e' => ?_)
  · simp [Hand.upd, hown]
  · exact hclosed ▸ hE e
  · exact hclosed ▸ hE e'

/-- Build a client, or raise with an empty hand. -/
theorem safe_buildClient {settings : Settings} {Q : ℕ → Hand → Prop} (hown : g.own = [])
    (hQ : ∀ client, Q client { g with own := [(key, client)] }) (hE : ∀ e, E e g) :
    SafeHand bulk (buildClient settings key) g Q E := by
  refine Coroutine.safe_bind.2 (safe_request trivial (fun profile _ => ?_) fun e _ => hE e)
  cases profile with
  | none => exact hE _
  | some profile =>
    refine Coroutine.safe_bind.2 (Coroutine.safe_lift.2 ⟨fun _ _ => ?_, fun e _ => hE e⟩)
    refine Coroutine.safe_bind.2 (safe_request trivial (fun client _ => ?_) fun e _ => hE e)
    have hbuilt : (g.upd ⟨.construct key (clientConfig settings profile), .ok client⟩).own =
        [(key, client)] := by simp [Hand.upd, hown]
    refine Coroutine.safe_bind.2 (safe_connectOrClose hbuilt ?_ fun e => ?_)
    · simpa [Hand.upd, hown] using hQ client
    · simpa [Hand.upd, ← hown] using hE e

/-- Close the client that is replaced, if there is one, and owe the gauge nothing for it. -/
theorem safe_closeStale {Q : Unit → Hand → Prop} (hgrip : g.grip = .inside key lock)
    (hclosing : g.closing = none)
    (hQ : ∀ old : Option ℕ, Q () { g with
      view := some old, closing := old, debt := if old = none then g.debt else g.debt - 1 }) :
    SafeHand bulk (closeStale key) g Q E := by
  refine Coroutine.safe_bind.2 (safe_request ⟨⟨lock, hgrip⟩, hclosing⟩ (fun old _ => ?_)
    fun _ h => h.elim)
  cases old with
  | none => simpa [Hand.upd, ← hclosing] using hQ none
  | some old =>
    refine Coroutine.safe_bind.2 (safe_loggedClose ⟨rfl, hclosing⟩ ?_ (by simp))
    exact safe_request trivial (fun _ _ => hQ (some old)) fun _ h => h.elim

theorem safe_getClient {settings : Settings} :
    SafeHand bulk (getClient settings key) {} (fun _ g => g = {}) (fun _ g => g = {}) := by
  refine Coroutine.safe_bind.2 (safe_getConnLock rfl (fun lock => ?_) fun e => rfl)
  refine Coroutine.safe_bind.2 (safe_acquire rfl ?_ fun e => rfl)
  refine Coroutine.safe_tryFinally.2 ?_
  have hbuild : ∀ client, SafeHand bulk (do
      let client ← buildClient settings key
      closeStale key
      op (.publish key client)
      op (.addGauge 1 (metricAttrs key))
      return client) { grip := .inside key lock, view := some client }
      (fun _ g => SafeHand bulk (op (.release lock)) g (fun _ g => g = {}) fun _ g => g = {})
      (fun _ g => SafeHand bulk (op (.release lock)) g (fun _ g => g = {}) fun _ g => g = {}) := by
    intro client
    refine Coroutine.safe_bind.2 (safe_buildClient rfl (fun client => ?_) fun e =>
      safe_release rfl rfl rfl rfl)
    refine Coroutine.safe_bind.2 (safe_closeStale rfl rfl fun old => ?_)
    refine Coroutine.safe_bind.2 (safe_request ⟨⟨lock, rfl⟩, by simp, rfl⟩ (fun _ _ => ?_)
      fun _ h => h.elim)
    refine Coroutine.safe_bind.2 (safe_request trivial (fun _ _ => ?_) fun _ h => h.elim)
    refine Coroutine.safe_pure.2 (safe_release rfl rfl ?_ ?_)
    · simp [Hand.upd, Hand.putDown]
    · cases old <;> rfl
  refine Coroutine.safe_bind.2 (safe_request ⟨⟨lock, rfl⟩, rfl⟩ (fun client _ => ?_)
    fun _ h => h.elim)
  cases client with
  | none => exact hbuild none
  | some client =>
    refine Coroutine.safe_bind.2 (safe_request trivial (fun connected _ => ?_) fun _ h => h.elim)
    cases connected with
    | true => exact safe_release rfl rfl rfl rfl
    | false => exact hbuild (some client)

theorem safe_closeClient :
    SafeHand bulk (closeClient key) {} (fun _ g => g = {}) (fun _ g => g = {}) := by
  refine Coroutine.safe_bind.2 (safe_getConnLock rfl (fun lock => ?_) fun e => rfl)
  refine Coroutine.safe_bind.2 (safe_acquire rfl ?_ fun e => rfl)
  refine Coroutine.safe_tryFinally.2 ?_
  refine Coroutine.safe_bind.2 (safe_request ⟨⟨lock, rfl⟩, rfl⟩ (fun client _ => ?_)
    fun _ h => h.elim)
  cases client with
  | none =>
    exact Coroutine.safe_bind.2 (safe_request trivial
      (fun _ _ => safe_release rfl rfl rfl rfl) fun _ _ => safe_release rfl rfl rfl rfl)
  | some client =>
    -- the invalidation does not raise, as the client is in the hand
    refine Coroutine.safe_bind.2 (safe_request trivial (fun _ _ => ?_) fun _ h => ?_)
    · refine Coroutine.safe_bind.2 (safe_loggedClose ⟨key, List.mem_singleton_self _⟩ ?_ (by simp))
      refine safe_request trivial (fun _ _ => safe_release rfl rfl ?_ rfl) fun _ h => h.elim
      simp [Hand.upd, Hand.take, Hand.putDown]
    · simp [Possible, Hand.upd, Hand.take] at h

/-- What is left of the clients a bulk eviction took when the first was closed. -/
theorem putDown_head {popped : Dict CacheKey ℕ} (hnodup : (client :: popped.map Prod.snd).Nodup)
    (hown : g.own = (key, client) :: popped) : g.putDown client = { g with own := popped } := by
  have hkeep : popped.filter (fun entry => entry.2 ≠ client) = popped := by
    refine List.filter_eq_self.2 fun entry hmem => ?_
    have hne : entry.2 ≠ client := by
      rintro rfl
      exact (List.nodup_cons.1 hnodup).1 (List.mem_map_of_mem hmem)
    simpa using hne
  rw [Hand.putDown, hown, List.filter_cons_of_neg (by simp), hkeep]

theorem safe_closeSessionClients {sessionId : String} {popped : Dict CacheKey ℕ}
    (hnodup : (popped.map Prod.snd).Nodup) :
    SafeHand bulk (closeSessionClients sessionId popped) { own := popped, debt := popped.length }
      (fun _ g => g = {}) E := by
  induction popped with
  | nil => exact rfl
  | cons entry rest ih =>
    obtain ⟨key, client⟩ := entry
    refine Coroutine.safe_bind.2 (safe_request trivial (fun _ _ => ?_) fun _ h => ?_)
    · refine Coroutine.safe_bind.2 (safe_loggedClose ⟨key, List.mem_cons_self⟩ ?_ (by simp))
      refine Coroutine.safe_bind.2 (safe_request trivial (fun _ _ => ?_) fun _ h => h.elim)
      have hrest :
          (Hand.mk .free none none ((key, client) :: rest) (rest.length + 1)).putDown client =
            { own := rest, debt := rest.length + 1 } := putDown_head hnodup rfl
      simpa [Hand.upd, hrest] using ih (List.nodup_cons.1 hnodup).2
    · simp [Possible] at h

theorem safe_closeAllClients {popped : Dict CacheKey ℕ} {debt : ℤ}
    (hnodup : (popped.map Prod.snd).Nodup) :
    SafeHand bulk (closeAllClients popped) { own := popped, debt } (fun _ g => g = { debt }) E := by
  induction popped with
  | nil => exact rfl
  | cons entry rest ih =>
    obtain ⟨key, client⟩ := entry
    refine Coroutine.safe_bind.2 (safe_loggedClose ⟨key, List.mem_cons_self⟩ ?_ (by simp))
    have hrest : (Hand.mk .free none none ((key, client) :: rest) debt).putDown client =
        { own := rest, debt } := putDown_head hnodup rfl
    simpa [Hand.upd, hrest] using ih (List.nodup_cons.1 hnodup).2

theorem safe_closeSession (hbulk : bulk) {sessionId : Option String} :
    SafeHand bulk (closeSession sessionId) {} (fun _ g => g = {}) (fun _ g => g = {}) := by
  cases sessionId with
  | none => exact rfl
  | some sessionId =>
    refine Coroutine.safe_bind.2 (safe_request trivial (fun _ _ => ?_) fun _ _ => rfl)
    refine Coroutine.safe_bind.2 (Coroutine.safe_tryFinally.2 (safe_request ⟨hbulk, rfl⟩
      (fun popped hnodup => ?_) fun _ h => h.elim))
    refine safe_request trivial (fun _ _ => ?_) fun _ h => h.elim
    simpa [Hand.upd, Hand.take] using safe_closeSessionClients hnodup

theorem safe_closeAll (hbulk : bulk) :
    SafeHand bulk closeAll {} (fun _ g => g = {}) (fun _ g => g = {}) := by
  refine Coroutine.safe_bind.2 (safe_request trivial (fun _ _ => ?_) fun _ _ => rfl)
  refine Coroutine.safe_bind.2 (safe_request trivial (fun _ _ => ?_) fun _ _ => rfl)
  refine Coroutine.safe_bind.2 (Coroutine.safe_tryFinally.2 (safe_request ⟨hbulk, rfl⟩
    (fun popped hnodup => ?_) fun _ h => h.elim))
  refine safe_request trivial (fun _ _ => ?_) fun _ h => h.elim
  refine Coroutine.safe_bind.2 ?_
  simp only [Hand.upd, Hand.take, List.append_nil, zero_add]
  refine (safe_closeAllClients hnodup).mono (fun _ g hg => ?_) fun _ _ h => h
  subst hg
  split
  · exact safe_request trivial (fun _ _ => by simp [Hand.upd]) fun _ h => h.elim
  next hempty =>
    have : popped.length = 0 := by omega
    simp [this]

/-- A call that may evict in bulk only if `bulk` makes each statement holding what it needs and
ends with an empty hand. -/
theorem safe_program {settings : Settings} {call : Call} (hcall : call.evictsInBulk → bulk) :
    SafeHand bulk (call.program settings) {} (fun _ g => g = {}) (fun _ g => g = {}) := by
  cases call with
  | getClient key =>
    exact Coroutine.safe_bind.2 safe_getClient
  | closeClient key =>
    exact Coroutine.safe_bind.2 safe_closeClient
  | closeSession sessionId =>
    exact Coroutine.safe_bind.2
      (safe_closeSession (hcall rfl))
  | closeAll =>
    exact Coroutine.safe_bind.2 (safe_closeAll (hcall rfl))

end Programs

/-! ### The pool and the hands -/

/-- No call is cut short where it would let go of a client: at the close of a client it replaces or
evicts, or at an invalidation while it has a client in its hand. -/
def NotCutShort : Guard PoolOp PoolOp.Resp Exc Outcome Pool :=
  fun _ r x past _ =>
    match r with
    | .close _ .cleanup => True
    | .close _ _ => ∀ e, x = .raises e → isCloseFailure e = true
    | .invalidateInfo _ => x = .raises .cancelled → (hand Hand.upd {} past).own = []
    | _ => True

/-- No call has obtained a lock that a bulk eviction forgets. -/
def EvictsIdle : Guard PoolOp PoolOp.Resp Exc Outcome Pool :=
  fun _ r _ _ s =>
    match r with
    | .popSession sessionId =>
        s.locks.Idle fun key => key.1 = some sessionId ∧ (s.clients.get? key).isSome
    | .popAll => s.locks.Idle fun _ => true
    | _ => True

/-- The locks agree with where the calls stand, what a call knows of the cache is so, every client
is owned, and the gauge differs from the size of the cache by what the calls owe. -/
structure Inv (s : Pool) (h : ℕ → Hand) : Prop where
  locks : s.locks.Agrees (Hand.grip ∘ h)
  nodup : (s.clients.map Prod.fst).Nodup
  view : ∀ i client, (h i).view = some client →
    ∃ key lock, (h i).grip = .inside key lock ∧ s.clients.get? key = client
  closing : ∀ i client, (h i).closing = some client → (h i).view = some (some client)
  owned : ∃ place, Owned s.objects s.clients (Hand.own ∘ h) (Hand.closing ∘ h) place
  balance : AddsUp (Hand.debt ∘ h) (s.gauge - s.clients.length)

section Exec

variable {s s' : Pool} {h : ℕ → Hand} {g : Hand} {i client lock : ℕ} {key : CacheKey}

/-- What the calls hold of one kind stays where the hand that changed holds the same of it. -/
@[simp] theorem update_comp_self {α : Type} {f : Hand → α} :
    Function.update (f ∘ h) i (f (h i)) = f ∘ h :=
  Function.update_eq_self i (f ∘ h)

/-- A step of one call that leaves the cache as it is under the keys the others are inside for. -/
theorem Inv.step (hinv : Inv s h)
    (hlocks : s'.locks.Agrees (Function.update (Hand.grip ∘ h) i g.grip))
    (hnodup : (s'.clients.map Prod.fst).Nodup)
    (hframe : ∀ j key lock, j ≠ i → (h j).grip = .inside key lock →
      s'.clients.get? key = s.clients.get? key)
    (hview : ∀ client, g.view = some client →
      ∃ key lock, g.grip = .inside key lock ∧ s'.clients.get? key = client)
    (hclosing : ∀ client, g.closing = some client → g.view = some (some client))
    (howned : ∃ place, Owned s'.objects s'.clients (Function.update (Hand.own ∘ h) i g.own)
      (Function.update (Hand.closing ∘ h) i g.closing) place)
    (hbalance : AddsUp (Function.update (Hand.debt ∘ h) i g.debt)
      (s'.gauge - s'.clients.length)) :
    Inv s' (Function.update h i g) where
  locks := by rwa [Function.comp_update]
  nodup := hnodup
  view j client hj := by
    by_cases hji : j = i
    · subst hji
      rw [Function.update_self] at hj ⊢
      exact hview client hj
    · rw [Function.update_of_ne hji] at hj ⊢
      obtain ⟨key, lock, hgrip, hget⟩ := hinv.view j client hj
      exact ⟨key, lock, hgrip, (hframe j key lock hji hgrip).trans hget⟩
  closing j client hj := by
    by_cases hji : j = i
    · subst hji
      rw [Function.update_self] at hj ⊢
      exact hclosing client hj
    · rw [Function.update_of_ne hji] at hj ⊢
      exact hinv.closing j client hj
  owned := by rwa [Function.comp_update, Function.comp_update]
  balance := by rwa [Function.comp_update]

/-- A step that only changes where a call stands with its lock. -/
theorem Inv.regrip {locks : KeyedLocks CacheKey} {grip : Grip CacheKey}
    {view : Option (Option ℕ)} (hinv : Inv s h)
    (hlocks : locks.Agrees (Function.update (Hand.grip ∘ h) i grip))
    (hclosing : (h i).closing = none)
    (hview : ∀ client, view = some client →
      ∃ key lock, grip = .inside key lock ∧ s.clients.get? key = client) :
    Inv { s with locks } (Function.update h i { h i with grip, view }) := by
  refine hinv.step hlocks hinv.nodup (fun _ _ _ _ _ => rfl) hview (fun client hc => ?_) ?_ ?_
  · rw [show ({ h i with grip, view } : Hand).closing = none from hclosing] at hc
    cases hc
  · simp only [update_comp_self]
    exact hinv.owned
  · simp only [update_comp_self]
    exact hinv.balance

theorem Inv.look (hinv : Inv s h) (hgrip : ∃ lock, (h i).grip = .inside key lock)
    (hclosing : (h i).closing = none) :
    Inv s (Function.update h i { h i with view := some (s.clients.get? key) }) := by
  refine hinv.step ?_ hinv.nodup (fun _ _ _ _ _ => rfl) (fun client hc => ?_) (fun client hc => ?_)
    ?_ ?_
  · simp only [update_comp_self]
    exact hinv.locks
  · cases hc
    exact hgrip.elim fun lock hgrip => ⟨key, lock, hgrip, rfl⟩
  · rw [show ({ h i with view := some (s.clients.get? key) } : Hand).closing = none from hclosing]
      at hc
    cases hc
  · simp only [update_comp_self]
    exact hinv.owned
  · simp only [update_comp_self]
    exact hinv.balance

/-- A client that the cache holds is being replaced only by a call inside for its key. -/
theorem Inv.place_cached {place : ℕ → Place} (hinv : Inv s h)
    (howned : Owned s.objects s.clients (Hand.own ∘ h) (Hand.closing ∘ h) place)
    (hget : s.clients.get? key = some client)
    (hnone : ∀ j lock, (h j).grip = .inside key lock → (h j).closing = none) :
    place client = .cached := by
  obtain ⟨hin, hbuilt⟩ := (howned.cached key client).1 hget
  cases hplace : place client with
  | cached => rfl
  | closing j =>
    have hclosing : (h j).closing = some client := (howned.closing j client).2 hplace
    obtain ⟨key', lock, hgrip, hget'⟩ := hinv.view j _ (hinv.closing j client hclosing)
    obtain rfl := hbuilt.key_eq ((howned.cached key' client).1 hget').2
    rw [hnone j lock hgrip] at hclosing
    cases hclosing
  | hand j => exact absurd hin (by simp [hplace, Place.InCache])
  | gone => exact absurd hin (by simp [hplace, Place.InCache])

theorem Inv.construct (hinv : Inv s h) (o : Client) (ho : o.closes = 0) :
    Inv { s with objects := s.objects ++ [o] }
      (Function.update h i { h i with own := (o.key, s.objects.length) :: (h i).own }) := by
  obtain ⟨place, howned⟩ := hinv.owned
  refine hinv.step ?_ hinv.nodup (fun _ _ _ _ _ => rfl) (hinv.view i) (hinv.closing i) ?_ ?_
  · simp only [update_comp_self]
    exact hinv.locks
  · simp only [update_comp_self]
    exact ⟨_, howned.construct i o ho⟩
  · simp only [update_comp_self]
    exact hinv.balance

theorem Inv.closeOwn (hinv : Inv s h) (hmem : (key, client) ∈ (h i).own) :
    Inv (s.closed client) (Function.update h i ((h i).putDown client)) := by
  obtain ⟨place, howned⟩ := hinv.owned
  refine hinv.step ?_ hinv.nodup (fun _ _ _ _ _ => rfl) (hinv.view i) (hinv.closing i) ?_ ?_
  · simp only [Hand.putDown, update_comp_self]
    exact hinv.locks
  · simp only [Hand.putDown, update_comp_self]
    exact ⟨_, howned.closeOwn hmem⟩
  · simp only [Hand.putDown, update_comp_self]
    exact hinv.balance

theorem Inv.closeCached (hinv : Inv s h) (hview : (h i).view = some (some client))
    (hclosing : (h i).closing = none) :
    Inv (s.closed client) (Function.update h i { h i with closing := some client }) := by
  obtain ⟨place, howned⟩ := hinv.owned
  obtain ⟨key, lock, hgrip, hget⟩ := hinv.view i _ hview
  have hcached : place client = .cached := hinv.place_cached howned hget fun j lock' hj => by
    rwa [← hinv.locks.exclusive hgrip hj]
  refine hinv.step ?_ hinv.nodup (fun _ _ _ _ _ => rfl) (hinv.view i) (fun c hc => ?_) ?_ ?_
  · simp only [update_comp_self]
    exact hinv.locks
  · cases hc
    exact hview
  · simp only [update_comp_self]
    exact ⟨_, howned.closeCached hget hcached hclosing⟩
  · simp only [update_comp_self]
    exact hinv.balance

theorem Inv.publish (hinv : Inv s h) (hgrip : (h i).grip = .inside key lock)
    (hmem : (key, client) ∈ (h i).own) (hview : (h i).view = some (h i).closing) :
    Inv { s with clients := s.clients.set key client }
      (Function.update h i ((h i).upd ⟨.publish key client, .ok ()⟩)) := by
  obtain ⟨place, howned⟩ := hinv.owned
  obtain ⟨key', lock', hgrip', hget⟩ := hinv.view i _ hview
  obtain ⟨rfl, -⟩ : key = key' ∧ lock = lock' := by simpa [hgrip] using hgrip'
  refine hinv.step ?_ (Dict.nodup_keys_set hinv.nodup) (fun j key' lock' hji hj => ?_)
    (fun c hc => ?_) (fun c hc => ?_) ⟨_, howned.publish hmem hget.symm⟩ ?_
  · simp only [Hand.upd, Hand.putDown, update_comp_self]
    exact hinv.locks
  · refine Dict.get?_set_of_ne ?_
    rintro rfl
    exact hji (hinv.locks.exclusive hgrip hj).symm
  · cases hc
  · cases hc
  · have hdebt := hinv.balance.update i ((h i).upd ⟨.publish key client, .ok ()⟩).debt
    refine (congrArg (AddsUp _) ?_).mp hdebt
    simp only [Dict.length_set, hget, Hand.upd, Hand.putDown, hview, Function.comp_apply]
    cases (h i).closing with
    | none => simp; omega
    | some old => simp

/-- A call takes the clients of some keys out of the cache, no other call being inside for one. -/
theorem Inv.take {locks : KeyedLocks CacheKey} {floor : CacheKey → ℕ} {p : CacheKey → Bool}
    {clients popped : Dict CacheKey ℕ} (hinv : Inv s h) (hlocks : locks.Agrees (Hand.grip ∘ h))
    (hclosing : (h i).closing = none)
    (hothers : ∀ j key lock, j ≠ i → (h j).grip = .inside key lock → p key = true →
      s.clients.get? key = none)
    (hnodup : (clients.map Prod.fst).Nodup)
    (hget : ∀ key, clients.get? key = if p key then none else s.clients.get? key)
    (hpopped : ∀ key client,
      (key, client) ∈ popped ↔ p key = true ∧ s.clients.get? key = some client)
    (hlength : popped.length + clients.length = s.clients.length) :
    Inv { s with clients, locks, floor } (Function.update h i ((h i).take popped)) := by
  obtain ⟨place, howned⟩ := hinv.owned
  refine hinv.step ?_ hnodup (fun j key lock hji hj => ?_) (fun c hc => ?_) (fun c hc => ?_) ?_ ?_
  · simp only [Hand.take, update_comp_self]
    exact hlocks
  · rw [hget]
    split
    next hp => exact (hothers j key lock hji hj hp).symm
    next => rfl
  · cases hc
  · rw [show ((h i).take popped).closing = none from hclosing] at hc
    cases hc
  · simp only [Hand.take, update_comp_self]
    refine howned.pop i hget (fun key client hp hkey => ?_) hpopped
    refine hinv.place_cached howned hkey fun j lock hj => ?_
    by_cases hji : j = i
    · rwa [hji]
    · rw [hothers j key lock hji hj hp] at hkey
      cases hkey
  · have hdebt := hinv.balance.update i ((h i).take popped).debt
    refine (congrArg (AddsUp _) ?_).mp hdebt
    simp only [Hand.take, Function.comp_apply]
    omega

theorem Inv.addGauge (hinv : Inv s h) (n : ℤ) :
    Inv { s with gauge := s.gauge + n }
      (Function.update h i { h i with debt := (h i).debt + n }) := by
  refine hinv.step ?_ hinv.nodup (fun _ _ _ _ _ => rfl) (hinv.view i) (hinv.closing i) ?_ ?_
  · simp only [update_comp_self]
    exact hinv.locks
  · simp only [update_comp_self]
    exact hinv.owned
  · have hdebt := hinv.balance.update i ((h i).debt + n)
    refine (congrArg (AddsUp _) ?_).mp hdebt
    simp only [Function.comp_apply]
    omega

/-- A step that changes neither what a call holds nor what the invariant reads of the pool. -/
theorem Inv.same (hinv : Inv s h) (hg : g = h i) (hlocks : s'.locks = s.locks)
    (hclients : s'.clients = s.clients) (hobjects : s'.objects = s.objects)
    (hgauge : s'.gauge = s.gauge) : Inv s' (Function.update h i g) := by
  rw [hg, Function.update_eq_self]
  exact ⟨hlocks ▸ hinv.locks, hclients ▸ hinv.nodup, hclients ▸ hinv.view, hinv.closing,
    by rw [hobjects, hclients]; exact hinv.owned, by rw [hgauge, hclients]; exact hinv.balance⟩

/-- The entries of the cache for some keys, and the rest of it. -/
theorem length_filter_add (p : CacheKey × ℕ → Bool) (clients : Dict CacheKey ℕ) :
    (clients.filter p).length + (clients.filter fun entry => !p entry).length = clients.length :=
  (List.length_eq_length_filter_add p).symm

/-- What a call takes of the cache are different clients. -/
theorem Inv.nodup_snd (hinv : Inv s h) : (s.clients.map Prod.snd).Nodup := by
  obtain ⟨place, howned⟩ := hinv.owned
  refine List.Nodup.map_on (fun x hx y hy hxy => ?_) hinv.nodup.of_map
  obtain ⟨key, client⟩ := x
  obtain ⟨key', client'⟩ := y
  obtain rfl : client = client' := hxy
  have hbuilt := ((howned.cached key client).1 (Dict.get?_of_mem hinv.nodup hx)).2
  have hbuilt' := ((howned.cached key' client).1 (Dict.get?_of_mem hinv.nodup hy)).2
  rw [hbuilt.key_eq hbuilt']

/-- The call inside for a key takes the client of the key, if there is one. -/
theorem Inv.popClient {floor : CacheKey → ℕ} (hinv : Inv s h)
    (hgrip : (h i).grip = .inside key lock) (hclosing : (h i).closing = none) :
    Inv { s with clients := s.clients.erase key, floor }
      (Function.update h i ((h i).take ((s.clients.get? key).toList.map fun c => (key, c)))) := by
  refine hinv.take (p := fun key' : CacheKey => key' = key) hinv.locks hclosing
    (fun j key' lock' hji hj hp => ?_) ?_ (fun key' => ?_) (fun key' client => ?_) ?_
  · obtain rfl : key' = key := of_decide_eq_true hp
    exact absurd (hinv.locks.exclusive hgrip hj).symm hji
  · rw [Dict.erase_eq_filter]
    exact hinv.nodup.sublist (List.filter_sublist.map _)
  · rw [Dict.erase_eq_filter]
    exact Dict.get?_filter_key (p := fun key' : CacheKey => key' = key)
  · simp only [List.mem_map, Option.mem_toList, Prod.mk.injEq, decide_eq_true_eq]
    constructor
    · rintro ⟨c, hc, rfl, rfl⟩
      exact ⟨rfl, hc⟩
    · rintro ⟨rfl, hc⟩
      exact ⟨client, hc, rfl, rfl⟩
  · rw [Dict.length_erase hinv.nodup]
    cases hget : s.clients.get? key with
    | none => simp
    | some client =>
      have := List.length_pos_of_mem (Dict.mem_of_get?_eq_some hget)
      simp
      omega

/-- A bulk eviction that meets no lock in use. -/
theorem Inv.evict {p q : CacheKey → Bool} {rest popped : Dict CacheKey ℕ} (hinv : Inv s h)
    (hclosing : (h i).closing = none) (hidle : s.locks.Idle q)
    (hq : ∀ key, p key = true → (s.clients.get? key).isSome → q key = true)
    (hpopped : popped = s.clients.filter fun entry => p entry.1)
    (hrest : rest = s.clients.filter fun entry => !p entry.1) :
    (popped.map Prod.snd).Nodup ∧
      Inv { s with clients := rest, locks := s.locks.drop q }
        (Function.update h i ((h i).take popped)) := by
  subst hpopped hrest
  refine ⟨hinv.nodup_snd.sublist (List.filter_sublist.map _), ?_⟩
  refine hinv.take (p := p) (hinv.locks.drop hidle) hclosing (fun j key lock _ hj hp => ?_)
    (hinv.nodup.sublist (List.filter_sublist.map _)) (fun key => Dict.get?_filter_key)
    (fun key client => ?_) (length_filter_add _ _)
  · by_contra hsome
    have hlock : ((Hand.grip ∘ h) j).lock = some (key, lock) := by
      rw [Function.comp_apply, hj]
      rfl
    exact hidle key lock (hq key hp (Option.isSome_iff_ne_none.2 hsome))
      (hinv.locks.registered j key lock hlock) _ ((hinv.locks.users j key lock).2 hlock) rfl
  · rw [List.mem_filter, Dict.mem_iff_get? hinv.nodup, and_comm]

/-- A call that is not inside knows nothing of the cache. -/
theorem Inv.outside (hinv : Inv s h) (hgrip : ∀ key lock, (h i).grip ≠ .inside key lock) :
    (h i).view = none ∧ (h i).closing = none := by
  have hview : (h i).view = none := by
    cases hview : (h i).view with
    | none => rfl
    | some client =>
      obtain ⟨key, lock, hinside, -⟩ := hinv.view i client hview
      exact absurd hinside (hgrip key lock)
  refine ⟨hview, ?_⟩
  cases hclosing : (h i).closing with
  | none => rfl
  | some client =>
    have := hinv.closing i client hclosing
    rw [hview] at this
    cases this

theorem Pool.dbCall_same (rt : Runtime) (r : DbOp) :
    (s.dbCall rt i r).2.locks = s.locks ∧ (s.dbCall rt i r).2.clients = s.clients ∧
      (s.dbCall rt i r).2.objects = s.objects ∧ (s.dbCall rt i r).2.gauge = s.gauge := by
  simp only [Pool.dbCall]
  split <;> exact ⟨rfl, rfl, rfl, rfl⟩

/-- A statement that raises keeps the invariant, as long as the call is not cut short. -/
theorem inv_raise {bulk : Prop} {r : PoolOp} {e : Exc}
    {past : List (Answer PoolOp PoolOp.Resp Exc)} (hinv : Inv s h) (hneeds : Needs bulk r (h i))
    (hhand : hand Hand.upd {} past = h i) (hG : NotCutShort i r (.raises e) past s)
    (hx : s.raise i r e = some s') :
    Possible r (.error e) (h i) ∧ Inv s' (Function.update h i ((h i).upd ⟨r, .error e⟩)) := by
  cases r with
  | acquire lock =>
    simp only [Pool.raise] at hx
    split at hx <;> cases hx
    obtain ⟨key, hkey⟩ := hneeds
    refine ⟨trivial, ?_⟩
    obtain ⟨hview, hclosing⟩ := hinv.outside (i := i) (by simp [hkey])
    exact hinv.regrip (hinv.locks.giveUp hkey) hclosing (by simp [hview])
  | acquireGlobal =>
    simp only [Pool.raise] at hx
    split at hx <;> cases hx
    exact ⟨trivial, hinv.same rfl rfl rfl rfl rfl⟩
  | clearInfo =>
    simp only [Pool.raise] at hx
    split at hx <;> cases hx
    exact ⟨trivial, hinv.same rfl rfl rfl rfl rfl⟩
  | invalidateInfo connId =>
    simp only [Pool.raise] at hx
    split at hx <;> cases hx
    next he => exact ⟨hhand ▸ hG (he ▸ rfl), hinv.same rfl rfl rfl rfl rfl⟩
  | db r =>
    cases hx
    exact ⟨trivial, hinv.same rfl rfl rfl rfl rfl⟩
  | construct key config =>
    cases hx
    exact ⟨trivial, hinv.same rfl rfl rfl rfl rfl⟩
  | connect client =>
    cases hx
    exact ⟨trivial, hinv.same rfl rfl rfl rfl rfl⟩
  | close client reason =>
    cases hx
    cases reason with
    | replacing => exact ⟨hG e rfl, hinv.closeCached hneeds.1 hneeds.2⟩
    | cleanup => exact hneeds.elim fun key hmem => ⟨trivial, hinv.closeOwn hmem⟩
    | _ => exact hneeds.elim fun key hmem => ⟨hG e rfl, hinv.closeOwn hmem⟩
  | _ => cases hx

/-- A statement that returns keeps the invariant, a bulk eviction as long as it meets no lock in
use. -/
theorem inv_answer {bulk : Prop} {rt : Runtime} {r : PoolOp} {connected : Bool}
    {past : List (Answer PoolOp PoolOp.Resp Exc)} {a : Except Exc r.Resp} (hinv : Inv s h)
    (hneeds : Needs bulk r (h i))
    (hG : bulk → EvictsIdle i r (.returns connected) past s)
    (hx : s.answer rt i r connected = some (a, s')) :
    Possible r a (h i) ∧ Inv s' (Function.update h i ((h i).upd ⟨r, a⟩)) := by
  cases r with
  | acquireGlobal =>
    simp only [Pool.answer] at hx
    split at hx <;> cases hx
    exact ⟨trivial, hinv.same rfl rfl rfl rfl rfl⟩
  | releaseGlobal =>
    cases hx
    exact ⟨trivial, hinv.same rfl rfl rfl rfl rfl⟩
  | lockOf key =>
    cases hx
    have hfree : (h i).grip = .free := hneeds
    -- outside of a lock a call has looked at no client and is closing none
    obtain ⟨hview, hclosing⟩ := hinv.outside (i := i) (by simp [hfree])
    exact ⟨trivial, hinv.regrip (hinv.locks.obtain hneeds) hclosing (by simp [hview])⟩
  | acquire lock =>
    obtain ⟨key, hkey⟩ := hneeds
    obtain ⟨locks, hlocks, heq⟩ := Option.map_eq_some_iff.1 hx
    cases heq
    obtain ⟨hview, hclosing⟩ := hinv.outside (i := i) (by simp [hkey])
    have hinside := hinv.locks.acquire hkey hlocks
    rw [show Grip.inside key lock = (h i).grip.enter by rw [hkey]; rfl] at hinside
    exact ⟨trivial, hinv.regrip hinside hclosing (by simp [hview])⟩
  | release lock =>
    obtain ⟨⟨key, hkey⟩, hclosing⟩ := hneeds
    cases hx
    exact ⟨trivial, hinv.regrip (hinv.locks.release hkey) hclosing (by simp)⟩
  | cached key =>
    obtain ⟨⟨lock, hgrip⟩, hclosing⟩ := hneeds
    cases hx
    exact ⟨trivial, hinv.look ⟨lock, hgrip⟩ hclosing⟩
  | isConnected client =>
    cases hx
    exact ⟨trivial, hinv.same rfl rfl rfl rfl rfl⟩
  | db r =>
    cases hx
    obtain ⟨hlocks, hclients, hobjects, hgauge⟩ :=
      Pool.dbCall_same (s := s) (i := i) rt r
    exact ⟨trivial, hinv.same rfl hlocks hclients hobjects hgauge⟩
  | construct key config =>
    cases hx
    exact ⟨trivial, hinv.construct _ rfl⟩
  | connect client =>
    cases hx
    exact ⟨trivial, hinv.same rfl rfl rfl rfl rfl⟩
  | close client reason =>
    cases hx
    cases reason with
    | replacing => exact ⟨trivial, hinv.closeCached hneeds.1 hneeds.2⟩
    | _ => exact hneeds.elim fun key hmem => ⟨trivial, hinv.closeOwn hmem⟩
  | publish key client =>
    obtain ⟨⟨lock, hgrip⟩, hmem, hview⟩ := hneeds
    cases hx
    exact ⟨trivial, hinv.publish hgrip hmem hview⟩
  | popClient key =>
    obtain ⟨⟨lock, hgrip⟩, hclosing⟩ := hneeds
    cases hx
    exact ⟨trivial, hinv.popClient hgrip hclosing⟩
  | invalidateInfo connId =>
    cases hx
    exact ⟨trivial, hinv.same rfl rfl rfl rfl rfl⟩
  | clearInfo =>
    cases hx
    exact ⟨trivial, hinv.same rfl rfl rfl rfl rfl⟩
  | popSession sessionId =>
    cases hx
    -- the locks of the session go too, none of which is in use
    refine hinv.evict (p := fun key => key.1 = some sessionId) hneeds.2 (hG hneeds.1)
      (fun key hp hsome => ?_) rfl rfl
    exact decide_eq_true ⟨of_decide_eq_true hp, hsome⟩
  | popAll =>
    cases hx
    exact hinv.evict (p := fun _ => true) hneeds.2 (hG hneeds.1) (fun _ _ _ => rfl)
      (List.filter_true _).symm (List.filter_false _).symm
  | addGauge n attributes =>
    cases hx
    exact ⟨trivial, hinv.addGauge n⟩

end Exec

/-! ### Runs -/

section Runs

variable {rt : Runtime} {settings : Settings} {tables : Tables} {calls : List Call} {bulk : Prop}
  {c : Config PoolOp PoolOp.Resp Exc (Option ℕ) Pool} {es : List (Event Outcome Tables)}

/-- Every call in flight is judged by what it holds, and the invariant holds. -/
def Kept (bulk : Prop) (c : Config PoolOp PoolOp.Resp Exc (Option ℕ) Pool) : Prop :=
  Follows Possible Hand.upd {} (fun _ => Needs bulk) (fun _ _ g => g = {}) (fun _ _ g => g = {}) c ∧
    Inv c.shared (hands Hand.upd {} c)

theorem kept_start (hcalls : ∀ call ∈ calls, call.evictsInBulk = true → bulk) :
    Kept bulk (start settings tables calls) := by
  refine ⟨follows_start fun i p hp => ?_, ?_⟩
  · rw [List.getElem?_map] at hp
    obtain ⟨call, hcall, rfl⟩ := Option.map_eq_some_iff.1 hp
    exact safe_program (hcalls call (List.mem_of_getElem? hcall))
  · rw [start, hands_start]
    exact {
      locks := KeyedLocks.agrees_start
      nodup := List.nodup_nil
      view := fun _ _ h => by cases h
      closing := fun _ _ h => by cases h
      owned := ⟨fun _ => .gone, by simp [Config.start, Place.InCache], by simp, by simp,
        by simp [Config.start], fun _ _ => rfl⟩
      balance := addsUp_zero }

/-- Every client stays owned as long as no call is cut short and, if there are bulk evictions, they
meet no lock in use. -/
theorem owned_always (hcalls : ∀ call ∈ calls, call.evictsInBulk = true → bulk)
    (hG : Guarded (world rt)
      (fun i r x past s => NotCutShort i r x past s ∧ (bulk → EvictsIdle i r x past s))
      (start settings tables calls) es) :
    Always (world rt) (Kept bulk) (start settings tables calls) es := by
  refine always_of_follows Inv (fun i r x past s a s' h hinv hneeds hhand hG hx => ?_)
    (fun tables s s' h hinv hs => ?_) (kept_start hcalls).1 (kept_start hcalls).2 hG
  · cases x with
    | returns connected => exact inv_answer hinv hneeds hG.2 hx
    | raises e =>
      obtain ⟨s₁, hs₁, heq⟩ := Option.map_eq_some_iff.1 hx
      cases heq
      exact inv_raise hinv hneeds hhand hG.1 hs₁
  · cases hs
    exact { hinv with }

/-- All calls have returned or raised. -/
def Finished (c : Config PoolOp PoolOp.Resp Exc (Option ℕ) Pool) : Prop :=
  ∀ t ∈ c.tasks, t.prog.isDone = true

/-- A call that has ended holds nothing. -/
theorem Kept.empty_hands (h : Kept bulk c) (hfinished : Finished c) (i : ℕ) :
    hands Hand.upd {} c i = {} := by
  cases ht : c.tasks[i]? with
  | none => simp [hands, ht]
  | some t =>
    obtain ⟨prog, past⟩ := t
    have hdone := hfinished _ (List.mem_of_getElem? ht)
    have hsafe := h.1 i _ ht
    rw [hands_of_task ht]
    cases prog with
    | pure a => exact hsafe
    | throw e => exact hsafe
    | await r k => cases hdone

/-- Where no call holds anything, every client is cached and open, or was closed once. -/
theorem Inv.settled {s : Pool} {h : ℕ → Hand} (hinv : Inv s h) (hempty : ∀ i, h i = {}) :
    (∀ client o, s.objects[client]? = some o →
      (s.clients.get? o.key = some client ∧ o.closes = 0) ∨
        (s.clients.get? o.key ≠ some client ∧ o.closes = 1)) ∧
      s.gauge = s.clients.length := by
  obtain ⟨place, howned⟩ := hinv.owned
  refine ⟨fun client o ho => ?_, ?_⟩
  · have hbuilt : BuiltFor s.objects client o.key := ⟨o, ho, rfl⟩
    rw [Ne, howned.cached, howned.closes client o ho]
    cases hplace : place client with
    | cached => exact Or.inl ⟨⟨trivial, hbuilt⟩, rfl⟩
    | gone => exact Or.inr ⟨fun hin => hin.1, rfl⟩
    | hand i =>
      have := (howned.own i o.key client).2 ⟨hplace, hbuilt⟩
      simp [hempty i] at this
    | closing i =>
      have := (howned.closing i client).2 hplace
      simp [hempty i] at this
  · have := hinv.balance.eq_zero fun i => by simp [hempty i]
    omega

end Runs

end ClusterManager.Clients
