import Mathlib.Algebra.Order.Ring.Int
import ClusterManager.Json
import ClusterManager.Lib.Trace

/-!
# Tickets for the event stream

A browser opens the event stream with a ticket that it mints beforehand: `SseTicketStore` is the
table of the tickets that wait, and a run of it any order of `issue`, `redeem` and `clear` under a
clock that never goes back. `lawful_of_run` says of the trace of a run what a ticket is good for.
-/

namespace ClusterManager.Events

open Trace

/-- Verified claims. -/
abbrev Claims : Type := Dict String Json

/-- `_PendingTicket`. -/
structure PendingTicket where
  expiresAt : ℤ
  claims : Claims

/-- `SSETicketStore`. -/
structure SseTicketStore where
  ttlSeconds : ℤ := 30
  maxPending : ℕ := 1024
  pending : Dict String PendingTicket := []

namespace SseTicketStore

/-- `_purge_expired`. -/
def purgeExpired (now : ℤ) (store : SseTicketStore) : SseTicketStore :=
  { store with pending := store.pending.filter fun p => now < p.2.expiresAt }

/-- `issue` of a ticket, with what `secrets.token_urlsafe` gives: how long it is good for, or
`none` for `TicketCapacityError`. -/
def issue (now : ℤ) (ticket : String) (claims : Option Claims) (store : SseTicketStore) :
    Option ℤ × SseTicketStore :=
  let store := store.purgeExpired now
  if store.maxPending ≤ store.pending.length then (none, store)
  else (some store.ttlSeconds, { store with
    pending := store.pending.set ticket ⟨now + store.ttlSeconds, claims.getD []⟩ })

/-- `redeem`: the entry is removed whether it has expired or not. -/
def redeem (now : ℤ) (ticket : String) (store : SseTicketStore) :
    Option Claims × SseTicketStore :=
  match store.pending.get? ticket with
  | none => (none, store)
  | some entry =>
      (if entry.expiresAt ≤ now then none else some entry.claims,
        { store with pending := store.pending.erase ticket })

/-- `clear`. -/
def clear (store : SseTicketStore) : SseTicketStore := { store with pending := [] }

end SseTicketStore

/-! ### Runs -/

/-- What is asked of a store. -/
inductive TicketCall
  /-- `issue`, when the random token is `ticket`. -/
  | issue (ticket : String) (claims : Option Claims)
  | redeem (ticket : String)
  | clear

/-- What came of it. -/
inductive TicketEvent
  | issued (ticket : String) (claims : Claims) (expiresAt : ℤ)
  | refused
  | redeemed (ticket : String) (claims : Claims)
  | rejected (ticket : String)
  | cleared

/-- What happened at a store, with the time of each event. -/
abbrev TicketTrace : Type := List (ℤ × TicketEvent)

/-- A store, the time of its last call, and what happened at it. -/
structure TicketRun where
  store : SseTicketStore
  clock : ℤ
  trace : TicketTrace := []

/-- The ticket an event issues. -/
def TicketEvent.issuedTicket : TicketEvent → Option String
  | .issued ticket _ _ => some ticket
  | _ => none

/-- The ticket an event redeems. -/
def TicketEvent.redeemedTicket : TicketEvent → Option String
  | .redeemed ticket _ => some ticket
  | _ => none

/-- The tickets that were issued, and those that were redeemed. -/
def issuedTickets (trace : TicketTrace) : List String :=
  trace.filterMap fun e => e.2.issuedTicket

def redeemedTickets (trace : TicketTrace) : List String :=
  trace.filterMap fun e => e.2.redeemedTicket

namespace TicketRun

/-- One call; `none` is a call that cannot be: the clock does not go back, and a random token is
not one that was issued before. -/
def step (r : TicketRun) (now : ℤ) (call : TicketCall) : Option TicketRun :=
  if now < r.clock then none
  else
    match call with
    | .issue ticket claims =>
        if ticket ∈ issuedTickets r.trace then none
        else
          match r.store.issue now ticket claims with
          | (some ttl, store) => some ⟨store, now,
              r.trace ++ [(now, .issued ticket (claims.getD []) (now + ttl))]⟩
          | (none, store) => some ⟨store, now, r.trace ++ [(now, .refused)]⟩
    | .redeem ticket =>
        match r.store.redeem now ticket with
        | (some claims, store) => some ⟨store, now, r.trace ++ [(now, .redeemed ticket claims)]⟩
        | (none, store) => some ⟨store, now, r.trace ++ [(now, .rejected ticket)]⟩
    | .clear => some ⟨r.store.clear, now, r.trace ++ [(now, .cleared)]⟩

/-- A run. -/
def run (r : TicketRun) : List (ℤ × TicketCall) → Option TicketRun
  | [] => some r
  | (now, call) :: calls => (r.step now call).bind fun r => run r calls

/-- A new store. -/
def initial (ttlSeconds : ℤ) (maxPending : ℕ) (clock : ℤ) : TicketRun where
  store := { ttlSeconds, maxPending }
  clock := clock

end TicketRun

/-! ### What a ticket is good for -/

/-- The tickets that are outstanding after one more event, those with an expiry after `now`. -/
def TicketEvent.after (now : ℤ) (tickets : List String) : TicketEvent → List String
  | .issued ticket _ expiresAt => if now < expiresAt then tickets ++ [ticket] else tickets
  | .redeemed ticket _ => tickets.filter (· ≠ ticket)
  | .cleared => []
  | .refused | .rejected _ => tickets

/-- The tickets that were issued and neither redeemed nor cleared, and have not expired. -/
def outstanding (now : ℤ) (trace : TicketTrace) : List String :=
  trace.foldl (fun tickets e => e.2.after now tickets) []

/-- A ticket was issued with claims and an expiry, and the store was not cleared since. -/
def Issued (past : TicketTrace) (ticket : String) (claims : Claims) (expiresAt : ℤ) : Prop :=
  ∃ older newer issuedAt, past = older ++ (issuedAt, .issued ticket claims expiresAt) :: newer ∧
    ∀ clearedAt, (clearedAt, TicketEvent.cleared) ∉ newer

/-- What each event must be, after what happened before it. -/
def Lawful (maxPending : ℕ) (past : TicketTrace) : ℤ × TicketEvent → Prop
  | (now, .issued ticket _ _) =>
      ticket ∉ issuedTickets past ∧ (outstanding now past).length < maxPending
  | (now, .refused) => (outstanding now past).length = maxPending
  | (now, .redeemed ticket claims) => ticket ∉ redeemedTickets past ∧
      ∃ expiresAt, Issued past ticket claims expiresAt ∧ now < expiresAt
  | (now, .rejected ticket) => ticket ∉ outstanding now past
  | (_, .cleared) => True

theorem outstanding_concat {now : ℤ} {trace : TicketTrace} {e : ℤ × TicketEvent} :
    outstanding now (trace ++ [e]) = e.2.after now (outstanding now trace) := by
  simp [outstanding]

theorem Issued.concat {past : TicketTrace} {ticket : String} {claims : Claims} {expiresAt : ℤ}
    {e : ℤ × TicketEvent} (h : Issued past ticket claims expiresAt) (he : e.2 ≠ .cleared) :
    Issued (past ++ [e]) ticket claims expiresAt := by
  obtain ⟨older, newer, issuedAt, rfl, hnewer⟩ := h
  refine ⟨older, newer ++ [e], issuedAt, by simp, ?_⟩
  intro clearedAt hmem
  rcases List.mem_append.1 hmem with hmem | hmem
  · exact hnewer clearedAt hmem
  · exact he (by rw [← List.mem_singleton.1 hmem])

/-- What holds in every state of a run. -/
structure TicketRun.Kept (maxPending : ℕ) (r : TicketRun) : Prop where
  capacity : r.store.maxPending = maxPending
  nodup : (r.store.pending.map Prod.fst).Nodup
  room : r.store.pending.length ≤ maxPending
  open_eq : ∀ now, r.clock ≤ now →
    (r.store.pending.filter fun p => now < p.2.expiresAt).map Prod.fst = outstanding now r.trace
  entry : ∀ p ∈ r.store.pending,
    Issued r.trace p.1 p.2.claims p.2.expiresAt ∧ p.1 ∉ redeemedTickets r.trace
  redeemed : ∀ ticket ∈ redeemedTickets r.trace, ticket ∈ issuedTickets r.trace
  lawful : Always (Lawful maxPending) r.trace

namespace TicketRun

variable {maxPending : ℕ} {r r' : TicketRun} {now : ℤ} {ticket : String}

theorem mem_issuedTickets {past : TicketTrace} {claims : Claims} {expiresAt : ℤ}
    (h : Issued past ticket claims expiresAt) : ticket ∈ issuedTickets past := by
  obtain ⟨older, newer, issuedAt, rfl, -⟩ := h
  simp [issuedTickets, TicketEvent.issuedTicket]

theorem issuedTickets_concat {past : TicketTrace} {e : ℤ × TicketEvent} :
    issuedTickets (past ++ [e]) = issuedTickets past ++ e.2.issuedTicket.toList := by
  cases h : e.2.issuedTicket <;> simp [issuedTickets, h]

theorem redeemedTickets_concat {past : TicketTrace} {e : ℤ × TicketEvent} :
    redeemedTickets (past ++ [e]) = redeemedTickets past ++ e.2.redeemedTicket.toList := by
  cases h : e.2.redeemedTicket <;> simp [redeemedTickets, h]

theorem kept_initial {ttlSeconds clock : ℤ} : Kept maxPending (initial ttlSeconds maxPending clock)
    where
  capacity := rfl
  nodup := List.nodup_nil
  room := Nat.zero_le _
  open_eq := fun _ _ => rfl
  entry := by simp [initial]
  redeemed := by simp [initial, redeemedTickets]
  lawful := always_nil

/-- The entries that are left after a purge. -/
theorem Kept.purge (h : Kept maxPending r) (hnow : r.clock ≤ now) :
    Kept maxPending { r with store := r.store.purgeExpired now, clock := now } where
  capacity := h.capacity
  nodup := h.nodup.sublist (List.filter_sublist.map _)
  room := (List.length_filter_le _ _).trans h.room
  open_eq := by
    intro later hlater
    dsimp only at hlater
    rw [← h.open_eq later (hnow.trans hlater)]
    simp only [SseTicketStore.purgeExpired, List.filter_filter]
    refine congrArg _ (List.filter_congr fun p _ => ?_)
    by_cases hlt : later < p.2.expiresAt
    · simp [hlt, hlater.trans_lt hlt]
    · simp [hlt]
  entry := fun p hp => h.entry p (List.mem_of_mem_filter hp)
  redeemed := h.redeemed
  lawful := h.lawful

/-- Time passes. -/
theorem Kept.later (h : Kept maxPending r) (hnow : r.clock ≤ now) :
    Kept maxPending { r with clock := now } :=
  { h with open_eq := fun later hlater => h.open_eq later (le_trans hnow hlater) }

/-- The tickets that a purge leaves are the outstanding ones. -/
theorem Kept.length_purge (h : Kept maxPending r) (hnow : r.clock ≤ now) :
    (r.store.purgeExpired now).pending.length = (outstanding now r.trace).length := by
  rw [← h.open_eq now hnow, List.length_map]
  rfl

/-- An event that leaves the table as it is. -/
theorem Kept.note {event : TicketEvent} (h : Kept maxPending r)
    (hissued : event.issuedTicket = none) (hredeemed : event.redeemedTicket = none)
    (hafter : ∀ later tickets, event.after later tickets = tickets) (hcleared : event ≠ .cleared)
    (hlawful : Lawful maxPending r.trace (now, event)) :
    Kept maxPending { r with trace := r.trace ++ [(now, event)] } where
  capacity := h.capacity
  nodup := h.nodup
  room := h.room
  open_eq := fun later hlater => by rw [outstanding_concat, hafter, ← h.open_eq later hlater]
  entry := by
    intro p hp
    rw [redeemedTickets_concat, hredeemed]
    exact ⟨(h.entry p hp).1.concat hcleared, by simpa using (h.entry p hp).2⟩
  redeemed := by
    rw [redeemedTickets_concat, issuedTickets_concat, hredeemed, hissued]
    simpa using h.redeemed
  lawful := always_concat.2 ⟨h.lawful, hlawful⟩

theorem kept_issue {claims : Option Claims} (h : Kept maxPending r)
    (hstep : r.step now (.issue ticket claims) = some r') : Kept maxPending r' := by
  unfold step at hstep
  split at hstep
  next => cases hstep
  next hnow =>
    rw [not_lt] at hnow
    dsimp only at hstep
    split at hstep
    next => cases hstep
    next hfresh =>
      have hpurge := h.purge hnow
      have hlength := h.length_purge hnow
      by_cases hfull : maxPending ≤ (r.store.purgeExpired now).pending.length
      · have hissue : r.store.issue now ticket claims = (none, r.store.purgeExpired now) :=
          if_pos (h.capacity ▸ hfull)
        rw [hissue] at hstep
        obtain rfl := Option.some.inj hstep
        refine hpurge.note rfl rfl (fun _ _ => rfl) (by simp) ?_
        exact hlength.symm.trans (le_antisymm hpurge.room hfull)
      · have hissue : ∀ entry : PendingTicket,
            entry = ⟨now + r.store.ttlSeconds, claims.getD []⟩ →
            r.store.issue now ticket claims = (some r.store.ttlSeconds, { r.store with
              pending := (r.store.purgeExpired now).pending.set ticket entry }) := by
          rintro entry rfl
          exact if_neg (h.capacity ▸ hfull)
        rw [hissue _ rfl] at hstep
        obtain rfl := Option.some.inj hstep
        have hnew : ticket ∉ (r.store.purgeExpired now).pending.map Prod.fst := by
          rintro hmem
          obtain ⟨p, hp, rfl⟩ := List.mem_map.1 hmem
          exact hfresh (mem_issuedTickets (hpurge.entry p hp).1)
        rw [Dict.set_of_not_mem hnew]
        refine ⟨h.capacity, ?_, ?_, ?_, ?_, ?_, always_concat.2 ⟨h.lawful, hfresh, ?_⟩⟩
        · rw [List.map_append]
          exact List.Nodup.append hpurge.nodup (List.nodup_singleton _) (by simpa using hnew)
        · rw [List.length_append, List.length_singleton]
          exact Nat.succ_le_of_lt (not_le.1 hfull)
        · intro later hlater
          rw [outstanding_concat, ← hpurge.open_eq later hlater, List.filter_append,
            List.map_append]
          dsimp only [TicketEvent.after]
          split
          next hlt => simp [hlt]
          next hlt => simp [hlt]
        · intro p hp
          rw [redeemedTickets_concat]
          simp only [TicketEvent.redeemedTicket, Option.toList_none, List.append_nil]
          rcases List.mem_append.1 hp with hp | hp
          · exact ⟨(hpurge.entry p hp).1.concat (by simp), (hpurge.entry p hp).2⟩
          · rw [List.mem_singleton.1 hp]
            exact ⟨⟨r.trace, [], now, rfl, by simp⟩, fun hmem => hfresh (h.redeemed _ hmem)⟩
        · intro t ht
          rw [redeemedTickets_concat] at ht
          rw [issuedTickets_concat]
          exact List.mem_append_left _
            (h.redeemed t (by simpa [TicketEvent.redeemedTicket] using ht))
        · rw [← hlength]
          exact not_le.1 hfull

/-- A ticket that waits with an expiry in the future is outstanding, and no other. -/
theorem Kept.mem_outstanding (h : Kept maxPending r) (hnow : r.clock ≤ now) :
    ticket ∈ outstanding now r.trace ↔
      ∃ entry, r.store.pending.get? ticket = some entry ∧ now < entry.expiresAt := by
  rw [← h.open_eq now hnow, List.mem_map]
  constructor
  · rintro ⟨⟨t, entry⟩, hp, rfl⟩
    obtain ⟨hmem, hlt⟩ := List.mem_filter.1 hp
    exact ⟨entry, Dict.get?_of_mem h.nodup hmem, of_decide_eq_true hlt⟩
  · rintro ⟨entry, hget, hlt⟩
    exact ⟨(ticket, entry),
      List.mem_filter.2 ⟨Dict.mem_of_get?_eq_some hget, decide_eq_true hlt⟩, rfl⟩

/-- The table without the entry of a ticket that has expired. -/
theorem Kept.drop {entry : PendingTicket} (h : Kept maxPending r) (hnow : r.clock ≤ now)
    (hget : r.store.pending.get? ticket = some entry) (hexpired : entry.expiresAt ≤ now) :
    Kept maxPending ⟨{ r.store with pending := r.store.pending.erase ticket }, now, r.trace⟩ where
  capacity := h.capacity
  nodup := by
    rw [Dict.keys_erase]
    exact h.nodup.filter _
  room := by
    rw [Dict.erase_eq_filter]
    exact le_trans (List.length_filter_le _ _) h.room
  open_eq := by
    intro later hlater
    rw [← h.open_eq later (le_trans hnow hlater), Dict.erase_eq_filter, List.filter_filter]
    refine congrArg _ (List.filter_congr fun p hp => ?_)
    by_cases hp1 : p.1 = ticket
    · have hentry : p.2 = entry := by
        subst hp1
        exact Option.some.inj ((Dict.get?_of_mem h.nodup hp).symm.trans hget)
      have hnot : ¬ later < p.2.expiresAt := by
        rw [hentry]
        exact not_lt.2 (le_trans hexpired hlater)
      simp [hnot]
    · simp [hp1]
  entry := fun p hp => h.entry p (Dict.mem_of_mem_erase hp)
  redeemed := h.redeemed
  lawful := h.lawful

theorem kept_redeem (h : Kept maxPending r) (hstep : r.step now (.redeem ticket) = some r') :
    Kept maxPending r' := by
  unfold step at hstep
  split at hstep
  next => cases hstep
  next hnow =>
    rw [not_lt] at hnow
    have hout : ticket ∈ outstanding now r.trace ↔ ∃ entry,
        r.store.pending.get? ticket = some entry ∧ now < entry.expiresAt :=
      h.mem_outstanding hnow
    dsimp only [SseTicketStore.redeem] at hstep
    cases hget : r.store.pending.get? ticket with
    | none =>
      simp only [hget] at hstep
      obtain rfl := Option.some.inj hstep
      refine (h.later hnow).note rfl rfl (fun _ _ => rfl) (by simp) ?_
      rintro hmem
      obtain ⟨entry, hentry, -⟩ := hout.1 hmem
      rw [hget] at hentry
      cases hentry
    | some entry =>
      simp only [hget] at hstep
      -- an expired ticket is dropped as one that was never there
      by_cases hexpired : entry.expiresAt ≤ now
      · rw [if_pos hexpired] at hstep
        obtain rfl := Option.some.inj hstep
        refine (h.drop hnow hget hexpired).note rfl rfl (fun _ _ => rfl) (by simp) ?_
        rintro hmem
        obtain ⟨entry', hentry, hlt⟩ := hout.1 hmem
        rw [hget, Option.some.injEq] at hentry
        exact absurd hlt (not_lt.2 (hentry ▸ hexpired))
      · rw [if_neg hexpired] at hstep
        obtain rfl := Option.some.inj hstep
        have hmem := Dict.mem_of_get?_eq_some hget
        obtain ⟨hissued, hnew⟩ := h.entry _ hmem
        refine ⟨h.capacity, ?_, ?_, ?_, ?_, ?_,
          always_concat.2 ⟨h.lawful, hnew, entry.expiresAt, hissued, not_le.1 hexpired⟩⟩
        · rw [Dict.keys_erase]
          exact h.nodup.filter _
        · rw [Dict.erase_eq_filter]
          exact le_trans (List.length_filter_le _ _) h.room
        · intro later hlater
          rw [outstanding_concat, ← h.open_eq later (le_trans hnow hlater), Dict.erase_eq_filter]
          simp only [TicketEvent.after, List.filter_map, List.filter_filter]
          refine congrArg _ (List.filter_congr fun p _ => ?_)
          simp [Bool.and_comm]
        · intro p hp
          have hne : p.1 ≠ ticket := by
            rw [Dict.erase_eq_filter] at hp
            simpa using (List.mem_filter.1 hp).2
          obtain ⟨hp, hnew⟩ := h.entry p (Dict.mem_of_mem_erase hp)
          rw [redeemedTickets_concat]
          exact ⟨hp.concat (by simp), by simp [TicketEvent.redeemedTicket, hnew, hne]⟩
        · intro t ht
          rw [redeemedTickets_concat] at ht
          rw [issuedTickets_concat]
          refine List.mem_append_left _ ?_
          rcases List.mem_append.1 ht with ht | ht
          · exact h.redeemed t ht
          · rw [show t = ticket by simpa [TicketEvent.redeemedTicket] using ht]
            exact mem_issuedTickets hissued

theorem kept_clear (h : Kept maxPending r) (hstep : r.step now .clear = some r') :
    Kept maxPending r' := by
  unfold step at hstep
  split at hstep
  next => cases hstep
  next =>
    obtain rfl := Option.some.inj hstep
    exact {
      capacity := h.capacity
      nodup := List.nodup_nil
      room := Nat.zero_le _
      open_eq := fun later _ => by rw [outstanding_concat]; rfl
      entry := by simp [SseTicketStore.clear]
      redeemed := by
        rw [redeemedTickets_concat, issuedTickets_concat]
        simpa [TicketEvent.redeemedTicket, TicketEvent.issuedTicket] using h.redeemed
      lawful := always_concat.2 ⟨h.lawful, trivial⟩ }

theorem kept_step {call : TicketCall} (h : Kept maxPending r)
    (hstep : r.step now call = some r') : Kept maxPending r' := by
  cases call with
  | issue ticket claims => exact kept_issue h hstep
  | redeem ticket => exact kept_redeem h hstep
  | clear => exact kept_clear h hstep

theorem kept_run {calls : List (ℤ × TicketCall)} (h : Kept maxPending r)
    (hrun : r.run calls = some r') : Kept maxPending r' := by
  induction calls generalizing r with
  | nil => exact Option.some.inj hrun ▸ h
  | cons call calls ih =>
    obtain ⟨now, call⟩ := call
    obtain ⟨s, hstep, hrun⟩ := Option.bind_eq_some_iff.1 hrun
    exact ih (kept_step h hstep) hrun

/-- In every run each ticket is redeemed at most once, before its expiry and not after a clear,
with the claims it was issued with; there is never more than the capacity, and a ticket is
refused just when that many are outstanding. -/
theorem lawful_of_run {ttlSeconds clock : ℤ} {calls : List (ℤ × TicketCall)}
    (hrun : (initial ttlSeconds maxPending clock).run calls = some r) :
    Always (Lawful maxPending) r.trace ∧ r.store.pending.length ≤ maxPending :=
  let h := kept_run kept_initial hrun
  ⟨h.lawful, h.room⟩

/-- A ticket is redeemed at its last moment and again later, and another one is refused, issued
and redeemed too late. -/
def reissue : List (ℤ × TicketCall) :=
  [(0, .issue "t" none), (29, .issue "u" none), (29, .redeem "t"), (30, .issue "u" none),
    (60, .redeem "u"), (60, .redeem "t")]

theorem lawful_reissue :
    ∃ r, (initial 30 1 0).run reissue = some r ∧ redeemedTickets r.trace = ["t"] ∧
      Always (Lawful 1) r.trace ∧ r.store.pending.length ≤ 1 := by
  have hredeemed : ((initial 30 1 0).run reissue).map (fun r => redeemedTickets r.trace) =
      some ["t"] := rfl
  cases hrun : (initial 30 1 0).run reissue with
  | none => rw [hrun] at hredeemed; cases hredeemed
  | some r =>
    rw [hrun] at hredeemed
    exact ⟨r, rfl, Option.some.inj hredeemed, lawful_of_run hrun⟩

end TicketRun

end ClusterManager.Events
