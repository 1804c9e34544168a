import Mathlib.Data.List.Basic
import ClusterManager.Errors
import ClusterManager.Lib.Table

/-!
# The event broker

`EventBroker` fans an event out to the queue of every subscriber that takes its type. A queue is
bounded and a full one loses its oldest event, so a slow subscriber never blocks a publisher. What
waits in a queue was published (`queued_publish`).
-/

namespace ClusterManager.Events

/-! ### Queues -/

/-- An `asyncio.Queue`; a `maxsize` of zero is no bound. -/
structure Queue (α : Type) (maxsize : ℕ) where
  items : List α := []
  length_le : 0 < maxsize → items.length ≤ maxsize := by simp

namespace Queue

variable {α : Type} {maxsize : ℕ} {q : Queue α maxsize} {a b : α}

/-- `Queue.full`. -/
def full (q : Queue α maxsize) : Bool := 0 < maxsize ∧ maxsize ≤ q.items.length

/-- `Queue.get_nowait`; `none` is `QueueEmpty`. -/
def getNowait (q : Queue α maxsize) : Option (α × Queue α maxsize) :=
  match h : q.items with
  | [] => none
  | a :: items => some (a, ⟨items, fun hpos => by
      have := q.length_le hpos
      rw [h, List.length_cons] at this
      omega⟩)

/-- `Queue.put_nowait`; `none` is `QueueFull`. -/
def putNowait (q : Queue α maxsize) (a : α) : Option (Queue α maxsize) :=
  if h : q.full = true then none
  else some ⟨q.items ++ [a], fun hpos => by
    rw [full, decide_eq_true_eq] at h
    rw [List.length_append, List.length_singleton]
    omega⟩

/-- How the broker puts an event: a full queue loses its oldest first. -/
def offer (q : Queue α maxsize) (a : α) : Queue α maxsize :=
  let q := if q.full then (q.getNowait.map Prod.snd).getD q else q
  (q.putNowait a).getD q

theorem items_getNowait {q' : Queue α maxsize} (h : q.getNowait = some (a, q')) :
    q.items = a :: q'.items := by
  unfold getNowait at h
  split at h
  next => cases h
  next hitems =>
    obtain ⟨rfl, rfl⟩ := Prod.mk.inj (Option.some.inj h)
    exact hitems

theorem getNowait_eq_none : q.getNowait = none ↔ q.items = [] := by
  unfold getNowait
  split <;> simp_all

theorem items_putNowait (h : q.full = false) :
    ∃ q', q.putNowait a = some q' ∧ q'.items = q.items ++ [a] :=
  ⟨_, dif_neg (by simp [h]), rfl⟩

/-- An offered event is the newest of its queue, and none but the oldest is lost. -/
theorem items_offer :
    (q.offer a).items = (if q.full then q.items.tail else q.items) ++ [a] := by
  rw [offer]
  by_cases hfull : q.full = true
  · have hbound : 0 < maxsize ∧ maxsize ≤ q.items.length := by
      rwa [full, decide_eq_true_eq] at hfull
    cases hget : q.getNowait with
    | none =>
      have := congrArg List.length (getNowait_eq_none.1 hget)
      rw [List.length_nil] at this
      omega
    | some p =>
      obtain ⟨b, q'⟩ := p
      have hitems := items_getNowait hget
      have hroom : q'.full = false := by
        have := q.length_le hbound.1
        rw [hitems, List.length_cons] at this
        simp only [full, decide_eq_false_iff_not]
        omega
      obtain ⟨q'', hput, hq''⟩ := items_putNowait (a := a) hroom
      simp [hfull, hput, hq'', hitems]
  · rw [Bool.not_eq_true] at hfull
    obtain ⟨q', hput, hq'⟩ := items_putNowait (a := a) hfull
    simp [hfull, hput, hq']

theorem mem_offer (h : b ∈ (q.offer a).items) : b ∈ q.items ∨ b = a := by
  rw [items_offer, List.mem_append, List.mem_singleton] at h
  refine h.imp_left fun h => ?_
  split at h
  next => exact List.mem_of_mem_tail h
  next => exact h

end Queue

/-! ### The broker -/

/-- A subscriber: its queue and the event types it takes. -/
structure Subscriber (α : Type) (queueSize : ℕ) where
  queue : Queue α queueSize := {}
  types : Option (List String) := none

/-- Whether an event of a type is put: an empty set of types takes all. -/
def Subscriber.takes {α : Type} {queueSize : ℕ} (s : Subscriber α queueSize)
    (eventType : String) : Bool :=
  s.types.all fun types => types.isEmpty || types.contains eventType

/-- `EventBroker`. -/
structure EventBroker (α : Type) (queueSize : ℕ) where
  maxConnections : ℕ := 50
  subscribers : Dict String (Subscriber α queueSize) := []

namespace EventBroker

variable {α : Type} {queueSize : ℕ} {broker broker' : EventBroker α queueSize} {a b : α}

/-- `EventBroker.subscribe` under a fresh id. -/
def subscribe (subId : String) (eventTypes : Option (List String))
    (broker : EventBroker α queueSize) : Option (EventBroker α queueSize) :=
  if broker.maxConnections ≤ broker.subscribers.length then none
  else some { broker with
    subscribers := broker.subscribers.set subId { types := eventTypes } }

/-- `EventBroker.unsubscribe`. -/
def unsubscribe (subscriberId : String) (broker : EventBroker α queueSize) :
    EventBroker α queueSize :=
  { broker with subscribers := broker.subscribers.erase subscriberId }

/-- `EventBroker.publish`. -/
def publish (eventType : String) (event : α) (broker : EventBroker α queueSize) :
    EventBroker α queueSize :=
  { broker with subscribers := broker.subscribers.map fun (subId, s) =>
      (subId, if s.takes eventType then { s with queue := s.queue.offer event } else s) }

/-- The next event of a subscriber's queue; `none` waits. -/
def next (subscriberId : String) (broker : EventBroker α queueSize) :
    Option (α × EventBroker α queueSize) := do
  let s ← broker.subscribers.get? subscriberId
  let (event, queue) ← s.queue.getNowait
  return (event, { broker with
    subscribers := broker.subscribers.set subscriberId { s with queue } })

/-- An event waits in some queue. -/
def Queued (broker : EventBroker α queueSize) (a : α) : Prop :=
  ∃ p ∈ broker.subscribers, a ∈ p.2.queue.items

theorem queued_publish {eventType : String} (h : (broker.publish eventType a).Queued b) :
    broker.Queued b ∨ b = a := by
  obtain ⟨_, hp, hb⟩ := h
  obtain ⟨⟨subId, s⟩, hs, rfl⟩ := List.mem_map.1 hp
  dsimp only at hb
  split at hb
  next => exact (Queue.mem_offer hb).imp_left fun hb => ⟨_, hs, hb⟩
  next => exact Or.inl ⟨_, hs, hb⟩

theorem queued_subscribe {subId : String} {eventTypes : Option (List String)}
    (h : broker.subscribe subId eventTypes = some broker') (hb : broker'.Queued b) :
    broker.Queued b := by
  unfold subscribe at h
  split at h
  next => cases h
  next =>
    obtain rfl := Option.some.inj h
    obtain ⟨p, hp, hb⟩ := hb
    rcases Dict.mem_set hp with hp | rfl
    · exact ⟨p, hp, hb⟩
    · cases hb

theorem queued_unsubscribe {subscriberId : String}
    (h : (broker.unsubscribe subscriberId).Queued b) : broker.Queued b := by
  obtain ⟨p, hp, hb⟩ := h
  exact ⟨p, Dict.mem_of_mem_erase hp, hb⟩

/-- A subscriber takes an event out of its queue. -/
theorem queued_next {subscriberId : String} (h : broker.next subscriberId = some (a, broker')) :
    broker.Queued a ∧ ∀ b, broker'.Queued b → broker.Queued b := by
  obtain ⟨s, hs, h⟩ := Option.bind_eq_some_iff.1 h
  obtain ⟨⟨event, queue⟩, hget, h⟩ := Option.bind_eq_some_iff.1 h
  obtain ⟨rfl, rfl⟩ := Prod.mk.inj (Option.some.inj h)
  have hitems := Queue.items_getNowait hget
  have hmem := Dict.mem_of_get?_eq_some hs
  refine ⟨⟨_, hmem, hitems ▸ List.mem_cons_self⟩, ?_⟩
  rintro b ⟨p, hp, hb⟩
  rcases Dict.mem_set hp with hp | rfl
  · exact ⟨p, hp, hb⟩
  · exact ⟨_, hmem, hitems ▸ List.mem_cons_of_mem _ hb⟩

end EventBroker

end ClusterManager.Events
