import Mathlib.Data.Nat.Notation
import ClusterManager.Lib.Machine
import ClusterManager.Lib.Table

/-!
# Requests shared by the hooks

`createSharedFetch` gives all callers of a key the request that is under way, and starts another
once that one has settled. A run is any order of calls, resets, changes on the server, and of what
becomes of a request: the server reads, the promise of the fetcher settles, and the `finally` of
`run` hands the outcome on. The clock counts what happened.

`shared_fetch_runs`: no key is ever stuck or loses a newer request, and as long as no caller joins
a request that the server has already read, all callers get data read after their call.
-/

namespace ClusterManager.Ui.SharedFetch

open Machine

/-- A request: when it was started, counted in resets, and what became of it. -/
structure Request (β ε : Type) where
  key : String
  epoch : ℕ
  /-- When the server read, and what. -/
  read : Option (ℕ × β) := none
  /-- How the promise of the fetcher settled. -/
  outcome : Option (Except ε β) := none
  /-- The `finally` ran and the callers have the outcome. -/
  finished : Bool := false

/-- A call of `run`: when it was made and the request whose promise it got. -/
structure Call where
  calledAt : ℕ
  request : ℕ

/-- The map of `createSharedFetch`, and beside it all requests and calls, the server's data for each
key, the number of resets and the clock. -/
structure Shared (β ε : Type) where
  inFlight : Dict String ℕ := []
  requests : List (Request β ε) := []
  calls : List Call := []
  epoch : ℕ := 0
  clock : ℕ := 0
  server : String → β

variable {β ε : Type}

namespace Shared

/-- `createSharedFetch()`. -/
def start (server : String → β) : Shared β ε := { server }

/-- `run`, with a fetcher that asks the server for the key. -/
def run (t : Shared β ε) (key : String) : Shared β ε :=
  match t.inFlight.get? key with
  | some existing => { t with calls := t.calls ++ [⟨t.clock, existing⟩] }
  | none =>
      { t with
        requests := t.requests ++ [{ key := key, epoch := t.epoch }]
        inFlight := t.inFlight.set key t.requests.length
        calls := t.calls ++ [⟨t.clock, t.requests.length⟩] }

/-- `reset`. -/
def reset (t : Shared β ε) : Shared β ε := { t with inFlight := [], epoch := t.epoch + 1 }

/-- The server reads for a request. -/
def serve (t : Shared β ε) (i : ℕ) (key : String) : Shared β ε :=
  { t with
    requests := t.requests.modify i fun r => { r with read := some (t.clock, t.server key) } }

/-- The promise of a fetcher settles. -/
def settle (t : Shared β ε) (i : ℕ) (outcome : Except ε β) : Shared β ε :=
  { t with requests := t.requests.modify i fun r => { r with outcome := some outcome } }

/-- The callback of `finally`, for a request of the key: it clears its own entry only. -/
def afterSettle (t : Shared β ε) (i : ℕ) (key : String) : Shared β ε :=
  { t with
    inFlight := if t.inFlight.get? key = some i then t.inFlight.erase key else t.inFlight
    requests := t.requests.modify i fun r => { r with finished := true } }

/-- Time passes. -/
def tick (t : Shared β ε) : Shared β ε := { t with clock := t.clock + 1 }

end Shared

/-! ### Steps -/

/-- What can happen. -/
inductive Event (β ε : Type)
  | run (key : String)
  | reset
  | mutated (server : String → β)
  | read (i : ℕ)
  | resolves (i : ℕ)
  | rejects (i : ℕ) (err : ε)
  | settled (i : ℕ)

/-- One event. A request is read once, resolves to what was read, and may be rejected at any time
before that. -/
def step (t : Shared β ε) : Event β ε → Option (Shared β ε)
  | .run key => some (t.run key).tick
  | .reset => some t.reset.tick
  | .mutated server => some { t with server := server }.tick
  | .read i =>
      match t.requests[i]? with
      | some ⟨key, _, none, none, _⟩ => some (t.serve i key).tick
      | _ => none
  | .resolves i =>
      match t.requests[i]? with
      | some ⟨_, _, some (_, data), none, _⟩ => some (t.settle i (.ok data)).tick
      | _ => none
  | .rejects i err =>
      match t.requests[i]? with
      | some ⟨_, _, _, none, _⟩ => some (t.settle i (.error err)).tick
      | _ => none
  | .settled i =>
      match t.requests[i]? with
      | some ⟨key, _, _, some _, false⟩ => some (t.afterSettle i key).tick
      | _ => none

/-! ### What callers rely on -/

/-- A request has not settled for its callers. -/
def Shared.UnderWay (t : Shared β ε) (i : ℕ) (r : Request β ε) : Prop :=
  t.requests[i]? = some r ∧ r.finished = false

/-- No key is poisoned: between resets at most one request of a key is under way, an entry is always
that of a request under way, and settling takes away the request's own entry and no other. -/
structure Orderly (t : Shared β ε) : Prop where
  single : ∀ i j r s, t.UnderWay i r → t.UnderWay j s → r.key = s.key → r.epoch = s.epoch → i = j
  entries : ∀ key i, t.inFlight.get? key = some i → ∃ r, t.UnderWay i r ∧ r.key = key
  settles : ∀ i t', step t (.settled i) = some t' → ∀ key j,
    t'.inFlight.get? key = some j ↔ t.inFlight.get? key = some j ∧ j ≠ i

/-- The data a caller got was read after its call. -/
def Fresh (t : Shared β ε) : Prop :=
  ∀ c ∈ t.calls, ∀ r : Request β ε, t.requests[c.request]? = some r → r.finished = true →
    ∀ data, r.outcome = some (.ok data) → ∃ readAt, r.read = some (readAt, data) ∧ c.calledAt ≤ readAt

/-- A caller joins no request that the server has read. -/
def Unread (t : Shared β ε) : Event β ε → Prop
  | .run key => ∀ i, t.inFlight.get? key = some i → ∀ r, t.requests[i]? = some r → r.read = none
  | _ => True

/-- What is known of the requests: those under way since the last reset are the entries. -/
structure Inv (t : Shared β ε) : Prop where
  entries : ∀ key i, t.inFlight.get? key = some i → ∃ r, t.UnderWay i r ∧ r.key = key
  current : ∀ i r, t.UnderWay i r → r.epoch = t.epoch → t.inFlight.get? r.key = some i
  epoch_le : ∀ i r, t.UnderWay i r → r.epoch ≤ t.epoch
  single : ∀ i j r s, t.UnderWay i r → t.UnderWay j s → r.key = s.key → r.epoch = s.epoch → i = j

/-- What is known of the reads, where no caller joined a request that was read. -/
structure Timely (t : Shared β ε) : Prop where
  after : ∀ c ∈ t.calls, ∀ r : Request β ε, t.requests[c.request]? = some r →
    ∀ readAt data, r.read = some (readAt, data) → c.calledAt ≤ readAt
  data : ∀ (i : ℕ) (r : Request β ε), t.requests[i]? = some r → ∀ data,
    r.outcome = some (.ok data) → ∃ readAt, r.read = some (readAt, data)
  calls : ∀ c ∈ t.calls, c.calledAt < t.clock ∧ c.request < t.requests.length

variable {t t' : Shared β ε}

theorem Timely.fresh (h : Timely t) : Fresh t := by
  intro c hc r hr _ data hdata
  obtain ⟨readAt, hread⟩ := h.data c.request r hr data hdata
  exact ⟨readAt, hread, h.after c hc r hr readAt data hread⟩

/-! ### Requests -/

/-- A request after one of them changed. -/
theorem getElem?_modify_eq_some {i j : ℕ} {f : Request β ε → Request β ε} {r' : Request β ε}
    {requests : List (Request β ε)} (h : (requests.modify i f)[j]? = some r') :
    ∃ r, requests[j]? = some r ∧ r' = if i = j then f r else r := by
  rw [List.getElem?_modify] at h
  obtain ⟨r, hr, rfl⟩ := Option.map_eq_some_iff.1 h
  exact ⟨r, hr, by split <;> rfl⟩

/-- The requests before a new one, and the new one. -/
theorem getElem?_concat_eq_some {j : ℕ} {r r' : Request β ε} {requests : List (Request β ε)}
    (h : (requests ++ [r])[j]? = some r') :
    requests[j]? = some r' ∨ (j = requests.length ∧ r' = r) := by
  by_cases hj : j < requests.length
  · rw [List.getElem?_append_left hj] at h
    exact Or.inl h
  · obtain ⟨hlt, rfl⟩ := List.getElem?_eq_some_iff.1 h
    rw [List.length_append, List.length_singleton] at hlt
    have hlength : j = requests.length := by omega
    subst hlength
    exact Or.inr ⟨rfl, List.getElem_concat_length rfl _⟩

/-- A change of the reads and the outcomes alone. -/
structure Renewed (t t' : Shared β ε) : Prop where
  inFlight : t'.inFlight = t.inFlight
  epoch : t'.epoch = t.epoch
  after : ∀ i r', t'.UnderWay i r' → ∃ r, t.UnderWay i r ∧ r'.key = r.key ∧ r'.epoch = r.epoch
  before : ∀ i r, t.UnderWay i r → ∃ r', t'.UnderWay i r' ∧ r'.key = r.key ∧ r'.epoch = r.epoch

theorem Renewed.inv (h : Renewed t t') (hinv : Inv t) : Inv t' := by
  constructor
  · intro key i hentry
    rw [h.inFlight] at hentry
    obtain ⟨r, hr, hkey⟩ := hinv.entries key i hentry
    obtain ⟨r', hr', hkey', -⟩ := h.before i r hr
    exact ⟨r', hr', hkey'.trans hkey⟩
  · intro i r' hr' hepoch
    obtain ⟨r, hr, hkey, hepoch'⟩ := h.after i r' hr'
    rw [h.inFlight, hkey]
    rw [h.epoch, hepoch'] at hepoch
    exact hinv.current i r hr hepoch
  · intro i r' hr'
    obtain ⟨r, hr, -, hepoch⟩ := h.after i r' hr'
    rw [h.epoch, hepoch]
    exact hinv.epoch_le i r hr
  · intro i j r' s' hr' hs' hkey hepoch
    obtain ⟨r, hr, hkeyr, hepochr⟩ := h.after i r' hr'
    obtain ⟨s, hs, hkeys, hepochs⟩ := h.after j s' hs'
    rw [hkeyr, hkeys] at hkey
    rw [hepochr, hepochs] at hepoch
    exact hinv.single i j r s hr hs hkey hepoch

theorem renewed_of_eq (hinFlight : t'.inFlight = t.inFlight) (hepoch : t'.epoch = t.epoch)
    (hrequests : t'.requests = t.requests) : Renewed t t' := by
  refine ⟨hinFlight, hepoch, fun i r hr => ⟨r, ?_, rfl, rfl⟩, fun i r hr => ⟨r, ?_, rfl, rfl⟩⟩
  · rwa [Shared.UnderWay, hrequests] at hr
  · rwa [Shared.UnderWay, hrequests]

theorem renewed_of_modify {i : ℕ} {f : Request β ε → Request β ε}
    (hrequests : t'.requests = t.requests.modify i f) (hinFlight : t'.inFlight = t.inFlight)
    (hepoch' : t'.epoch = t.epoch) (hkey : ∀ r, (f r).key = r.key)
    (hepoch : ∀ r, (f r).epoch = r.epoch) (hfinished : ∀ r, (f r).finished = r.finished) :
    Renewed t t' := by
  refine ⟨hinFlight, hepoch', fun j r' hr' => ?_, fun j r hr => ?_⟩
  · rw [Shared.UnderWay, hrequests] at hr'
    obtain ⟨r, hr, rfl⟩ := getElem?_modify_eq_some hr'.1
    by_cases hij : i = j
    · rw [if_pos hij] at hr' ⊢
      exact ⟨r, ⟨hr, (hfinished r).symm.trans hr'.2⟩, hkey r, hepoch r⟩
    · rw [if_neg hij] at hr' ⊢
      exact ⟨r, ⟨hr, hr'.2⟩, rfl, rfl⟩
  · have hnew : t'.requests[j]? = some (if i = j then f r else r) := by
      rw [hrequests, List.getElem?_modify, hr.1]
      split <;> rfl
    by_cases hij : i = j
    · rw [if_pos hij] at hnew
      exact ⟨f r, ⟨hnew, (hfinished r).trans hr.2⟩, hkey r, hepoch r⟩
    · rw [if_neg hij] at hnew
      exact ⟨r, ⟨hnew, hr.2⟩, rfl, rfl⟩

/-! ### Steps, one by one -/

theorem step_read {i : ℕ} (h : step t (.read i) = some t') :
    ∃ r, t.requests[i]? = some r ∧ r.outcome = none ∧ t' = (t.serve i r.key).tick := by
  simp only [step] at h
  split at h
  next hr =>
    cases h
    exact ⟨_, hr, rfl, rfl⟩
  next => cases h

theorem step_resolves {i : ℕ} (h : step t (.resolves i) = some t') :
    ∃ r readAt data, t.requests[i]? = some r ∧ r.read = some (readAt, data) ∧
      t' = (t.settle i (.ok data)).tick := by
  simp only [step] at h
  split at h
  next hr =>
    cases h
    exact ⟨_, _, _, hr, rfl, rfl⟩
  next => cases h

theorem step_rejects {i : ℕ} {err : ε} (h : step t (.rejects i err) = some t') :
    t' = (t.settle i (.error err)).tick := by
  simp only [step] at h
  split at h
  next =>
    cases h
    rfl
  next => cases h

theorem step_settled {i : ℕ} (h : step t (.settled i) = some t') :
    ∃ r, t.UnderWay i r ∧ t' = (t.afterSettle i r.key).tick := by
  simp only [step] at h
  split at h
  next hr =>
    cases h
    exact ⟨_, ⟨hr, rfl⟩, rfl⟩
  next => cases h

/-! ### The requests under way -/

theorem inv_run (key : String) (hinv : Inv t) : Inv (t.run key).tick := by
  unfold Shared.run
  split
  next existing hentry => exact Renewed.inv (t := t) (renewed_of_eq rfl rfl rfl) hinv
  next hnone =>
    -- The key has no entry, so no request of it is under way since the last reset.
    have hfree : ∀ i r, t.UnderWay i r → r.epoch = t.epoch → r.key ≠ key := by
      rintro i r hr hepoch rfl
      rw [hinv.current i r hr hepoch] at hnone
      cases hnone
    have hnew : ∀ j (r : Request β ε),
        (t.requests ++ [{ key := key, epoch := t.epoch }])[j]? = some r → r.finished = false →
        t.UnderWay j r ∨ (j = t.requests.length ∧ r = { key := key, epoch := t.epoch }) :=
      fun j r hr hfinished => (getElem?_concat_eq_some hr).imp_left (⟨·, hfinished⟩)
    constructor
    · intro key' i hentry
      have hentry : (t.inFlight.set key t.requests.length).get? key' = some i := hentry
      by_cases hkey : key' = key
      · subst hkey
        rw [Dict.get?_set_self, Option.some.injEq] at hentry
        subst hentry
        exact ⟨_, ⟨List.getElem?_concat_length, rfl⟩, rfl⟩
      · rw [Dict.get?_set_of_ne hkey] at hentry
        obtain ⟨r, hr, hrkey⟩ := hinv.entries key' i hentry
        exact ⟨r, ⟨List.getElem?_append_left (List.getElem?_eq_some_iff.1 hr.1).1 ▸ hr.1, hr.2⟩,
          hrkey⟩
    · intro i r hr hepoch
      show (t.inFlight.set key t.requests.length).get? r.key = some i
      rcases hnew i r hr.1 hr.2 with hr | ⟨rfl, rfl⟩
      · rw [Dict.get?_set_of_ne (hfree i r hr hepoch)]
        exact hinv.current i r hr hepoch
      · exact Dict.get?_set_self
    · intro i r hr
      rcases hnew i r hr.1 hr.2 with hr | ⟨-, rfl⟩
      · exact hinv.epoch_le i r hr
      · exact Nat.le_refl _
    · intro i j r s hr hs hkey hepoch
      rcases hnew i r hr.1 hr.2 with hr | ⟨rfl, rfl⟩ <;> rcases hnew j s hs.1 hs.2 with hs | ⟨rfl, rfl⟩
      · exact hinv.single i j r s hr hs hkey hepoch
      · exact absurd hkey (hfree i r hr hepoch)
      · exact absurd hkey.symm (hfree j s hs hepoch.symm)
      · rfl

theorem inv_reset (hinv : Inv t) : Inv t.reset.tick := by
  constructor
  · intro key i hentry
    cases hentry
  · intro i r hr hepoch
    -- A request from before the reset is not of the time after it.
    have hle := hinv.epoch_le i r hr
    have heq : r.epoch = t.epoch + 1 := hepoch
    omega
  · intro i r hr
    exact Nat.le_succ_of_le (hinv.epoch_le i r hr)
  · exact hinv.single

/-- The entries once a request has settled. -/
theorem get?_afterSettle (hinv : Inv t) {i : ℕ} {r : Request β ε} (hr : t.UnderWay i r)
    (key : String) (j : ℕ) : (t.afterSettle i r.key).inFlight.get? key = some j ↔
      t.inFlight.get? key = some j ∧ j ≠ i := by
  have hown : t.inFlight.get? key = some i → key = r.key := by
    intro hentry
    obtain ⟨r', hr', rfl⟩ := hinv.entries key i hentry
    rw [Option.some.inj (hr.1.symm.trans hr'.1)]
  unfold Shared.afterSettle
  dsimp only
  split
  next hentry =>
    by_cases hkey : key = r.key
    · rw [hkey, Dict.get?_erase_self, hentry]
      exact ⟨nofun, fun ⟨hj, hij⟩ => absurd (Option.some.inj hj).symm hij⟩
    · rw [Dict.get?_erase_of_ne hkey]
      refine (and_iff_left_of_imp fun hj => ?_).symm
      rintro rfl
      exact hkey (hown hj)
  next hentry =>
    refine (and_iff_left_of_imp fun hj => ?_).symm
    rintro rfl
    exact hentry (hown hj ▸ hj)

/-- Settling ends one request and leaves the others under way. -/
theorem underWay_afterSettle {i j : ℕ} {key : String} {s : Request β ε} :
    (t.afterSettle i key).UnderWay j s ↔ t.UnderWay j s ∧ j ≠ i := by
  constructor
  · rintro ⟨hs, hfinished⟩
    obtain ⟨s', hs', rfl⟩ := getElem?_modify_eq_some hs
    by_cases hij : i = j
    · rw [if_pos hij] at hfinished
      cases hfinished
    · rw [if_neg hij] at hfinished ⊢
      exact ⟨⟨hs', hfinished⟩, Ne.symm hij⟩
  · rintro ⟨⟨hs, hfinished⟩, hij⟩
    refine ⟨?_, hfinished⟩
    show (t.requests.modify i _)[j]? = some s
    rw [List.getElem?_modify, hs]
    simp [Ne.symm hij]

theorem inv_afterSettle (hinv : Inv t) {i : ℕ} {r : Request β ε} (hr : t.UnderWay i r) :
    Inv (t.afterSettle i r.key) := by
  constructor
  · intro key j hentry
    obtain ⟨hentry, hij⟩ := (get?_afterSettle hinv hr key j).1 hentry
    obtain ⟨s, hs, hkey⟩ := hinv.entries key j hentry
    exact ⟨s, underWay_afterSettle.2 ⟨hs, hij⟩, hkey⟩
  · intro j s hs hepoch
    obtain ⟨hs, hij⟩ := underWay_afterSettle.1 hs
    exact (get?_afterSettle hinv hr s.key j).2 ⟨hinv.current j s hs hepoch, hij⟩
  · intro j s hs
    exact hinv.epoch_le j s (underWay_afterSettle.1 hs).1
  · intro j k s u hs hu
    exact hinv.single j k s u (underWay_afterSettle.1 hs).1 (underWay_afterSettle.1 hu).1

theorem inv_step (e : Event β ε) (hinv : Inv t) (hstep : step t e = some t') : Inv t' := by
  cases e with
  | run key =>
    cases hstep
    exact inv_run key hinv
  | reset =>
    cases hstep
    exact inv_reset hinv
  | mutated server =>
    cases hstep
    exact Renewed.inv (t := t) (renewed_of_eq rfl rfl rfl) hinv
  | read i =>
    obtain ⟨r, -, -, rfl⟩ := step_read hstep
    exact Renewed.inv (t := t)
      (renewed_of_modify rfl rfl rfl (fun _ => rfl) (fun _ => rfl) fun _ => rfl) hinv
  | resolves i =>
    obtain ⟨r, readAt, data, -, -, rfl⟩ := step_resolves hstep
    exact Renewed.inv (t := t)
      (renewed_of_modify rfl rfl rfl (fun _ => rfl) (fun _ => rfl) fun _ => rfl) hinv
  | rejects i err =>
    obtain rfl := step_rejects hstep
    exact Renewed.inv (t := t)
      (renewed_of_modify rfl rfl rfl (fun _ => rfl) (fun _ => rfl) fun _ => rfl) hinv
  | settled i =>
    obtain ⟨r, hr, rfl⟩ := step_settled hstep
    exact Renewed.inv (t := t.afterSettle i r.key) (renewed_of_eq rfl rfl rfl)
      (inv_afterSettle hinv hr)

theorem Inv.orderly (hinv : Inv t) : Orderly t where
  single := hinv.single
  entries := hinv.entries
  settles i t' hstep key j := by
    obtain ⟨r, hr, rfl⟩ := step_settled hstep
    exact get?_afterSettle hinv hr key j

/-! ### The reads -/

/-- The calls and the clock go on; a request is changed at most by what `f` notes of it. -/
theorem Timely.modify (h : Timely t) {i : ℕ} {f : Request β ε → Request β ε}
    (hrequests : t'.requests = t.requests.modify i f) (hcalls : t'.calls = t.calls)
    (hclock : t.clock ≤ t'.clock)
    (hread : ∀ r, t.requests[i]? = some r → ∀ readAt data, (f r).read = some (readAt, data) →
      r.read = some (readAt, data) ∨ readAt = t.clock)
    (hdata : ∀ r, t.requests[i]? = some r → ∀ data, (f r).outcome = some (.ok data) →
      ∃ readAt, (f r).read = some (readAt, data)) : Timely t' := by
  constructor
  · intro c hc r' hr' readAt data hnew
    rw [hcalls] at hc
    rw [hrequests] at hr'
    obtain ⟨r, hr, rfl⟩ := getElem?_modify_eq_some hr'
    by_cases hi : i = c.request
    · rw [if_pos hi] at hnew
      rcases hread r (hi ▸ hr) readAt data hnew with hold | rfl
      · exact h.after c hc r hr readAt data hold
      · exact Nat.le_of_lt (h.calls c hc).1
    · rw [if_neg hi] at hnew
      exact h.after c hc r hr readAt data hnew
  · intro j r' hr' data hnew
    rw [hrequests] at hr'
    obtain ⟨r, hr, rfl⟩ := getElem?_modify_eq_some hr'
    by_cases hij : i = j
    · rw [if_pos hij] at hnew ⊢
      exact hdata r (hij ▸ hr) data hnew
    · rw [if_neg hij] at hnew ⊢
      exact h.data j r hr data hnew
  · intro c hc
    rw [hcalls] at hc
    rw [hrequests, List.length_modify]
    exact ⟨Nat.lt_of_lt_of_le (h.calls c hc).1 hclock, (h.calls c hc).2⟩

/-- A call gets a request that has not been read, an old one or a new one. -/
theorem timely_run (key : String) (hinv : Inv t) (h : Timely t) (hG : Unread t (.run key)) :
    Timely (t.run key).tick := by
  have hcalls : ∀ c ∈ t.calls, c.calledAt < t.clock + 1 ∧ c.request < t.requests.length :=
    fun c hc => ⟨Nat.lt_succ_of_lt (h.calls c hc).1, (h.calls c hc).2⟩
  unfold Shared.run
  split
  next existing hentry =>
    obtain ⟨r, hr, -⟩ := hinv.entries key existing hentry
    refine ⟨fun c hc s hs readAt data hread => ?_, h.data, fun c hc => ?_⟩
    · rcases List.mem_append.1 hc with hc | hc
      · exact h.after c hc s hs readAt data hread
      · obtain rfl := List.mem_singleton.1 hc
        rw [hG existing hentry s hs] at hread
        cases hread
    · -- the request that is joined is there, since an entry is never without one
      rcases List.mem_append.1 hc with hc | hc
      · exact hcalls c hc
      · obtain rfl := List.mem_singleton.1 hc
        exact ⟨Nat.lt_succ_self _, (List.getElem?_eq_some_iff.1 hr.1).1⟩
  next =>
    refine ⟨fun c hc s hs readAt data hread => ?_, fun j s hs data hdata => ?_, fun c hc => ?_⟩
    · rcases getElem?_concat_eq_some hs with hs | ⟨-, rfl⟩
      · rcases List.mem_append.1 hc with hc | hc
        · exact h.after c hc s hs readAt data hread
        · obtain rfl := List.mem_singleton.1 hc
          exact absurd (List.getElem?_eq_some_iff.1 hs).1 (Nat.lt_irrefl _)
      · cases hread
    · rcases getElem?_concat_eq_some hs with hs | ⟨-, rfl⟩
      · exact h.data j s hs data hdata
      · cases hdata
    · show c.calledAt < t.clock + 1 ∧ c.request < (t.requests ++ [_]).length
      rw [List.length_append, List.length_singleton]
      rcases List.mem_append.1 hc with hc | hc
      · exact ⟨(hcalls c hc).1, Nat.lt_succ_of_lt (hcalls c hc).2⟩
      · obtain rfl := List.mem_singleton.1 hc
        exact ⟨Nat.lt_succ_self _, Nat.lt_succ_self _⟩

theorem timely_step (e : Event β ε) (hinv : Inv t) (h : Timely t) (hG : Unread t e)
    (hstep : step t e = some t') : Timely t' := by
  have hcalls : ∀ c ∈ t.calls, c.calledAt < t.clock + 1 ∧ c.request < t.requests.length :=
    fun c hc => ⟨Nat.lt_succ_of_lt (h.calls c hc).1, (h.calls c hc).2⟩
  cases e with
  | run key =>
    cases hstep
    exact timely_run key hinv h hG
  | reset =>
    cases hstep
    exact ⟨h.after, h.data, hcalls⟩
  | mutated server =>
    cases hstep
    exact ⟨h.after, h.data, hcalls⟩
  | read i =>
    obtain ⟨r, hr, houtcome, rfl⟩ := step_read hstep
    refine h.modify (i := i) rfl rfl (Nat.le_succ _) (fun s _ readAt data hread => ?_)
      fun s hs data hdata => ?_
    · cases hread
      exact Or.inr rfl
    · obtain rfl := Option.some.inj (hr.symm.trans hs)
      rw [show r.outcome = some (.ok data) from hdata] at houtcome
      cases houtcome
  | resolves i =>
    obtain ⟨r, readAt, data, hr, hread, rfl⟩ := step_resolves hstep
    refine h.modify (i := i) rfl rfl (Nat.le_succ _) (fun _ _ _ _ => Or.inl) fun s hs data' hdata => ?_
    obtain rfl := Option.some.inj (hr.symm.trans hs)
    cases hdata
    exact ⟨readAt, hread⟩
  | rejects i err =>
    obtain rfl := step_rejects hstep
    exact h.modify (i := i) rfl rfl (Nat.le_succ _) (fun _ _ _ _ => Or.inl) fun _ _ _ => nofun
  | settled i =>
    obtain ⟨r, hr, rfl⟩ := step_settled hstep
    exact h.modify (i := i) rfl rfl (Nat.le_succ _) (fun _ _ _ _ => Or.inl) fun s hs => h.data i s hs

/-! ### Runs -/

theorem inv_start (server : String → β) : Inv (.start server : Shared β ε) := by
  refine ⟨fun _ _ => nofun, ?_, ?_, ?_⟩
  · rintro i r ⟨hr, -⟩
    cases hr
  · rintro i r ⟨hr, -⟩
    cases hr
  · rintro i j r s ⟨hr, -⟩
    cases hr

theorem timely_start (server : String → β) : Timely (.start server : Shared β ε) :=
  ⟨fun _ => nofun, fun _ _ => nofun, fun _ => nofun⟩

/-- However calls, resets, changes on the server and settlements are interleaved, no key is poisoned.
Where no caller joins a request that the server has read, no caller gets data older than its call. -/
theorem shared_fetch_runs (server : String → β) (es : List (Event β ε)) :
    Always step Orderly (.start server) es ∧
      (Guarded step Unread (.start server) es → Always step Fresh (.start server) es) := by
  constructor
  · exact (always_of_step (fun _ e _ => inv_step e) (inv_start server)).imp fun _ => Inv.orderly
  · intro hG
    have hkept : Always step (fun t => Inv t ∧ Timely t) (.start server) es :=
      always_of_guarded (fun _ e _ h he hstep => ⟨inv_step e h.1 hstep, timely_step e h.1 h.2 he hstep⟩)
        ⟨inv_start server, timely_start server⟩ hG
    exact hkept.imp fun _ h => h.2.fresh

/-- Two callers share a request before the server reads, and a mutation follows. -/
theorem shared_fetch_runs_joined :
    Always step Fresh (.start fun _ => 0 : Shared ℕ String)
      [.run "k", .run "k", .read 0, .mutated fun _ => 1, .resolves 0, .settled 0] := by
  refine (shared_fetch_runs _ _).2 ?_
  simp +contextual [Guarded, step, Unread, Shared.start, Shared.run, Shared.tick, Dict.set,
    Dict.get?]

/-- A caller joins a request after the server read and its data changed. -/
theorem shared_fetch_stale : ¬∀ (server : String → ℕ) (es : List (Event ℕ String)),
    Always step Fresh (.start server) es := by
  intro h
  have hfresh := (h (fun _ => 0)
    [.run "k", .read 0, .mutated fun _ => 1, .run "k", .resolves 0, .settled 0]).run rfl
  obtain ⟨readAt, hread, hle⟩ := hfresh ⟨3, 0⟩ (.tail _ (.head _)) _ rfl rfl 0 rfl
  cases hread
  exact absurd hle (by decide)

end ClusterManager.Ui.SharedFetch
