import Mathlib.Logic.Function.Basic
import ClusterManager.Events.Broker
import ClusterManager.Text

/-!
# What a subscriber receives

A run of the broker is any order of `subscribe`, `unsubscribe`, `publish` and reads of a queue;
each takes effect at once, since the broker never suspends while it holds its lock. Beside the
broker a run carries what each subscriber should get (`Feed`): the publications made while it was
subscribed, of the types it asked for. `delivered_of_run` says that its queue is a window on them.
-/

namespace ClusterManager.Events

/-- The event types that a stream asks for in its query. -/
def streamTypes (types : Option String) : Option (List String) :=
  (types.filter (· ≠ "")).map fun types =>
    (((types.toList.splitOn ',').map Str.strip).filter (· ≠ [])).map String.ofList

/-- One call of `publish`. -/
structure Publication (α : Type) where
  number : ℕ
  event : α

/-! ### The newest items of a list -/

/-- The last items of a list, at most `n` of them; zero is no bound. -/
def newest {β : Type} (n : ℕ) (l : List β) : List β :=
  if n = 0 then l else l.drop (l.length - n)

section newest

variable {β : Type} {n : ℕ} {l : List β} {a : β}

theorem newest_suffix : newest n l <:+ l := by
  unfold newest
  split
  · exact List.suffix_rfl
  · exact List.drop_suffix _ _

theorem length_newest (h : 0 < n) : (newest n l).length = min n l.length := by
  rw [newest, if_neg h.ne', List.length_drop]
  omega

theorem newest_of_length_le (h : 0 < n → l.length ≤ n) : newest n l = l := by
  unfold newest
  split
  · rfl
  next hn => rw [Nat.sub_eq_zero_of_le (h (Nat.pos_of_ne_zero hn)), List.drop_zero]

/-- One more item pushes the oldest of a full window out. -/
theorem newest_concat : newest n (l ++ [a]) =
    (if 0 < n ∧ n ≤ (newest n l).length then (newest n l).tail else newest n l) ++ [a] := by
  by_cases hn : n = 0
  · simp [newest, hn]
  · have hpos := Nat.pos_of_ne_zero hn
    rw [length_newest hpos]
    simp only [newest, if_neg hn, List.length_append, List.length_singleton]
    by_cases hfull : n ≤ l.length
    · rw [if_pos ⟨hpos, by omega⟩, List.tail_drop, List.drop_append_of_le_length (by omega)]
      congr 2
      omega
    · rw [if_neg (by omega), Nat.sub_eq_zero_of_le (by omega), Nat.sub_eq_zero_of_le (by omega),
        List.drop_zero, List.drop_zero]

end newest

/-! ### What a subscriber should get -/

/-- What a subscriber should get: the types it asked for, whether it is subscribed, the
publications that were for it, and what it has read. -/
structure Feed (α : Type) where
  filter : Option (List String)
  live : Bool := true
  offered : List (Publication α) := []
  read : List (Publication α) := []

namespace Feed

variable {α : Type} {feed : Feed α} {p : Publication α} {eventType : String}

/-- Whether a subscriber asked for a type: no set is every type, the empty set none. -/
def wants (feed : Feed α) (eventType : String) : Bool :=
  feed.filter.all fun types => types.contains eventType

/-- A publication is for a subscriber that is subscribed and asked for its type. -/
def offer (feed : Feed α) (eventType : String) (p : Publication α) : Feed α :=
  if feed.live && feed.wants eventType then { feed with offered := feed.offered ++ [p] } else feed

/-- The publications for a subscriber since the last one it has read. -/
def undelivered (feed : Feed α) : List (Publication α) :=
  feed.offered.filter fun p => feed.read.all fun r => r.number < p.number

end Feed

/-! ### Runs -/

/-- What can happen at a broker. -/
inductive BrokerAction (α : Type)
  /-- `subscribe`, under a fresh id. -/
  | subscribe (subId : String) (eventTypes : Option (List String))
  | unsubscribe (subscriberId : String)
  | publish (event : α)
  /-- A read of the queue of a subscriber, who keeps it when it has unsubscribed. -/
  | read (subscriberId : String)

/-- The broker, the queues of those who have unsubscribed, what was published, and what each
subscriber should get. -/
structure BrokerState (α : Type) (queueSize : ℕ) where
  broker : EventBroker (Publication α) queueSize
  detached : String → Option (Queue (Publication α) queueSize) := fun _ => none
  published : List (Publication α) := []
  feeds : String → Option (Feed α) := fun _ => none

namespace BrokerState

variable {α : Type} {queueSize : ℕ} (eventType : α → String) {w w' : BrokerState α queueSize}
  {a : BrokerAction α}

/-- The queue a subscriber was given. -/
def queueOf (w : BrokerState α queueSize) (subscriberId : String) :
    Option (Queue (Publication α) queueSize) :=
  match w.broker.subscribers.get? subscriberId with
  | some s => some s.queue
  | none => w.detached subscriberId

/-- A subscriber has read a publication. -/
def deliver (w : BrokerState α queueSize) (subscriberId : String) (p : Publication α) :
    BrokerState α queueSize :=
  { w with
    feeds := Function.update w.feeds subscriberId
      ((w.feeds subscriberId).map fun feed => { feed with read := feed.read ++ [p] }) }

/-- A read of a queue; `none` waits. -/
def readQueue (w : BrokerState α queueSize) (subscriberId : String) :
    Option (BrokerState α queueSize) :=
  match w.broker.subscribers.get? subscriberId with
  | some _ => (w.broker.next subscriberId).map fun (p, broker) =>
      BrokerState.deliver { w with broker } subscriberId p
  | none => (w.detached subscriberId).bind fun queue => queue.getNowait.map fun (p, queue) =>
      BrokerState.deliver
        { w with detached := Function.update w.detached subscriberId (some queue) } subscriberId p

/-- One step; `none` is a step that cannot be taken: an id that is not fresh, or a read of an empty
queue. -/
def step (w : BrokerState α queueSize) : BrokerAction α → Option (BrokerState α queueSize)
  | .subscribe subId eventTypes =>
      if (w.feeds subId).isSome then none
      else
        match w.broker.subscribe subId eventTypes with
        -- `ConnectionError`
        | none => some w
        | some broker => some { w with
            broker, feeds := Function.update w.feeds subId (some { filter := eventTypes }) }
  | .unsubscribe subscriberId => some { w with
      broker := w.broker.unsubscribe subscriberId
      detached := match w.broker.subscribers.get? subscriberId with
        | some s => Function.update w.detached subscriberId (some s.queue)
        | none => w.detached
      feeds := Function.update w.feeds subscriberId
        ((w.feeds subscriberId).map fun feed => { feed with live := false }) }
  | .publish event =>
      let p : Publication α := ⟨w.published.length, event⟩
      some { w with
        broker := w.broker.publish (eventType event) p
        published := w.published ++ [p]
        feeds := fun subId => (w.feeds subId).map fun feed => feed.offer (eventType event) p }
  | .read subscriberId => w.readQueue subscriberId

/-- A run. -/
def run (w : BrokerState α queueSize) :
    List (BrokerAction α) → Option (BrokerState α queueSize)
  | [] => some w
  | a :: actions => (w.step eventType a).bind fun w => run w actions

end BrokerState

/-- Before anything happened. -/
def BrokerState.initial (α : Type) (queueSize maxConnections : ℕ) :
    BrokerState α queueSize where
  broker := { maxConnections }

/-! ### The queue of a subscriber is a window -/

/-- How the queue of a subscriber stands to what it should get, after some publications. -/
structure InStep {α : Type} {queueSize : ℕ} (eventType : α → String)
    (published : List (Publication α)) (feed : Feed α) (queue : Queue (Publication α) queueSize) :
    Prop where
  filter_ne : feed.filter ≠ some []
  wanted : ∀ p ∈ feed.offered, feed.wants (eventType p.event) = true
  offered : feed.offered.Sublist published
  received : (feed.read ++ queue.items).Sublist feed.offered
  window : queue.items = newest queueSize feed.undelivered

/-- The publications are numbered in their order. -/
def Numbered {α : Type} (published : List (Publication α)) : Prop :=
  published.map Publication.number = List.range published.length

section window

variable {α : Type} {queueSize : ℕ} {eventType : α → String} {published : List (Publication α)}
  {feed : Feed α} {queue queue' : Queue (Publication α) queueSize} {p : Publication α} {event : α}

theorem Numbered.lt (h : Numbered published) (hp : p ∈ published) :
    p.number < published.length := by
  have hmem : p.number ∈ published.map Publication.number := List.mem_map_of_mem hp
  rwa [h, List.mem_range] at hmem

theorem Numbered.concat (h : Numbered published) :
    Numbered (published ++ [⟨published.length, event⟩]) := by
  rw [Numbered, List.map_append, h, List.length_append, List.length_singleton, List.range_succ]
  rfl

theorem Numbered.pairwise (h : Numbered published) :
    published.Pairwise fun p r => p.number < r.number := by
  rw [← List.pairwise_map (f := Publication.number) (R := (· < ·)), h]
  exact List.pairwise_lt_range

/-- A new subscriber has an empty queue. -/
theorem InStep.nil {types : Option (List String)} (h : types ≠ some [])
    (hqueue : queue.items = []) : InStep eventType published { filter := types } queue where
  filter_ne := h
  wanted := by simp
  offered := List.nil_sublist _
  received := by simp [hqueue]
  window := by simp [hqueue, Feed.undelivered, newest]

/-- Offering an event to the queue of a subscriber that wants it keeps the window. -/
theorem InStep.offer (h : InStep eventType published feed queue) (hnum : Numbered published)
    (hwants : feed.wants (eventType event) = true) :
    InStep eventType (published ++ [⟨published.length, event⟩])
      { feed with offered := feed.offered ++ [⟨published.length, event⟩] }
      (queue.offer ⟨published.length, event⟩) where
  filter_ne := h.filter_ne
  wanted := by
    intro p hp
    rcases List.mem_append.1 hp with hp | hp
    · exact h.wanted p hp
    · rw [List.mem_singleton.1 hp]
      exact hwants
  offered := h.offered.append (List.Sublist.refl _)
  received := by
    rw [Queue.items_offer, ← List.append_assoc]
    refine List.Sublist.append ?_ (List.Sublist.refl _)
    split
    · exact ((List.Sublist.refl _).append (List.tail_sublist _)).trans h.received
    · exact h.received
  window := by
    have hnew : ∀ r ∈ feed.read, r.number < published.length := fun r hr =>
      hnum.lt (h.offered.subset (h.received.subset (List.mem_append_left _ hr)))
    have hundelivered : Feed.undelivered
        { feed with offered := feed.offered ++ [⟨published.length, event⟩] } =
        feed.undelivered ++ [⟨published.length, event⟩] := by
      simpa [Feed.undelivered, List.filter_append] using hnew
    rw [hundelivered, newest_concat, Queue.items_offer, ← h.window]
    simp [Queue.full]

/-- What is published while it is for someone else changes nothing. -/
theorem InStep.skip (h : InStep eventType published feed queue) :
    InStep eventType (published ++ [p]) feed queue :=
  { h with offered := h.offered.trans (List.sublist_append_left _ _) }

/-- A read takes the oldest item out of the window. -/
theorem InStep.read (h : InStep eventType published feed queue) (hnum : Numbered published)
    (hget : queue.getNowait = some (p, queue')) :
    InStep eventType published { feed with read := feed.read ++ [p] } queue' := by
  have hitems := Queue.items_getNowait hget
  obtain ⟨older, hsplit⟩ := newest_suffix (n := queueSize) (l := feed.undelivered)
  rw [← h.window, hitems] at hsplit
  have hsorted : (older ++ p :: queue'.items).Pairwise fun p r => p.number < r.number := by
    rw [hsplit]
    exact (hnum.pairwise.sublist h.offered).filter _
  obtain ⟨-, hqueue, holder⟩ := List.pairwise_append.1 hsorted
  have hlater : Feed.undelivered { feed with read := feed.read ++ [p] } = queue'.items := by
    have hfilter : Feed.undelivered { feed with read := feed.read ++ [p] } =
        feed.undelivered.filter fun r => p.number < r.number := by
      simp [Feed.undelivered, List.filter_filter, Bool.and_comm]
    rw [hfilter, ← hsplit, List.filter_append, List.filter_cons_of_neg (by simp),
      List.filter_eq_nil_iff.2, List.nil_append, List.filter_eq_self]
    · intro r hr
      simpa using (List.pairwise_cons.1 hqueue).1 r hr
    · intro r hr
      simpa using (holder r hr p List.mem_cons_self).le
  exact {
    filter_ne := h.filter_ne
    wanted := h.wanted
    offered := h.offered
    received := by simpa [hitems] using h.received
    window := by rw [hlater, newest_of_length_le queue'.length_le] }

end window

/-- A set with something in it is asked of a subscriber as it is meant. -/
theorem takes_eq_wants {α : Type} {queueSize : ℕ} {s : Subscriber (Publication α) queueSize}
    {feed : Feed α} {eventType : String} (htypes : s.types = feed.filter)
    (hne : feed.filter ≠ some []) : s.takes eventType = feed.wants eventType := by
  rw [Subscriber.takes, Feed.wants, htypes]
  cases hfilter : feed.filter with
  | none => rfl
  | some types =>
    cases types with
    | nil => exact absurd hfilter hne
    | cons t types => simp

namespace BrokerState

variable {α : Type} {queueSize : ℕ} {eventType : α → String} {w w' : BrokerState α queueSize}
  {a : BrokerAction α} {actions : List (BrokerAction α)}

/-- How a subscriber's place in the broker and its queue stand to what it should get. -/
inductive Held (eventType : α → String) (w : BrokerState α queueSize) (subscriberId : String) :
    Option (Feed α) → Prop
  | unknown (hsub : w.broker.subscribers.get? subscriberId = none) :
      Held eventType w subscriberId none
  | live {s : Subscriber (Publication α) queueSize} {feed : Feed α}
      (hsub : w.broker.subscribers.get? subscriberId = some s) (hlive : feed.live = true)
      (htypes : s.types = feed.filter) (hstep : InStep eventType w.published feed s.queue) :
      Held eventType w subscriberId (some feed)
  | left {queue : Queue (Publication α) queueSize} {feed : Feed α}
      (hsub : w.broker.subscribers.get? subscriberId = none)
      (hqueue : w.detached subscriberId = some queue) (hlive : feed.live = false)
      (hstep : InStep eventType w.published feed queue) : Held eventType w subscriberId (some feed)

/-- What holds in every state of a run. -/
structure Kept (eventType : α → String) (w : BrokerState α queueSize) : Prop where
  numbered : Numbered w.published
  held : ∀ subscriberId, Held eventType w subscriberId (w.feeds subscriberId)
  room : w.broker.subscribers.length ≤ w.broker.maxConnections

/-- What a subscriber has depends on its own entries alone. -/
theorem Held.congr {subscriberId : String} {feed : Option (Feed α)}
    (h : Held eventType w subscriberId feed)
    (hsub : w'.broker.subscribers.get? subscriberId = w.broker.subscribers.get? subscriberId)
    (hdetached : w'.detached subscriberId = w.detached subscriberId)
    (hpublished : w'.published = w.published) : Held eventType w' subscriberId feed := by
  cases h with
  | unknown h => exact .unknown (hsub.trans h)
  | live h hlive htypes hstep => exact .live (hsub.trans h) hlive htypes (hpublished ▸ hstep)
  | left h hqueue hlive hstep =>
    exact .left (hsub.trans h) (hdetached.trans hqueue) hlive (hpublished ▸ hstep)

theorem kept_initial {maxConnections : ℕ} :
    Kept eventType (initial α queueSize maxConnections) where
  numbered := rfl
  held := fun _ => .unknown rfl
  room := Nat.zero_le _

theorem kept_subscribe {subId : String} {eventTypes : Option (List String)}
    (hne : eventTypes ≠ some []) (h : Kept eventType w)
    (hstep : w.step eventType (.subscribe subId eventTypes) = some w') : Kept eventType w' := by
  simp only [step] at hstep
  split at hstep
  next => cases hstep
  next hfresh =>
    split at hstep
    next => exact Option.some.inj hstep ▸ h
    next broker hsub =>
      obtain rfl := Option.some.inj hstep
      unfold EventBroker.subscribe at hsub
      split at hsub
      next => cases hsub
      next hroom =>
        obtain rfl := Option.some.inj hsub
        refine ⟨h.numbered, fun subscriberId => ?_, ?_⟩
        · by_cases hid : subscriberId = subId
          · subst hid
            simp only [Function.update_self]
            exact .live Dict.get?_set_self rfl rfl (.nil hne rfl)
          · simp only [Function.update_of_ne hid]
            exact (h.held subscriberId).congr (Dict.get?_set_of_ne hid) rfl rfl
        · have := h.room
          simp only [Dict.length_set]
          split <;> omega

theorem kept_unsubscribe {subscriberId : String} (h : Kept eventType w)
    (hstep : w.step eventType (.unsubscribe subscriberId) = some w') : Kept eventType w' := by
  obtain rfl := Option.some.inj hstep
  refine ⟨h.numbered, fun subId => ?_, ?_⟩
  · by_cases hid : subId = subscriberId
    · subst hid
      simp only [Function.update_self]
      have hgone : (w.broker.unsubscribe subId).subscribers.get? subId = none :=
        Dict.get?_erase_self
      cases hfeed : w.feeds subId with
      | none => exact .unknown hgone
      | some feed =>
        have hheld := h.held subId
        rw [hfeed] at hheld
        cases hheld with
        | live hsub hlive htypes hin =>
          exact .left hgone (by simp only [hsub, Function.update_self]) rfl { hin with }
        | left hsub hqueue hlive hin =>
          exact .left hgone (by simp only [hsub, hqueue]) rfl { hin with }
    · simp only [Function.update_of_ne hid]
      refine (h.held subId).congr (Dict.get?_erase_of_ne hid) ?_ rfl
      cases w.broker.subscribers.get? subscriberId with
      | none => rfl
      | some s => simp only [Function.update_of_ne hid]
  · refine le_trans ?_ h.room
    simp only [EventBroker.unsubscribe, Dict.erase_eq_filter]
    exact List.length_filter_le _ _

theorem kept_publish {event : α} (h : Kept eventType w)
    (hstep : w.step eventType (.publish event) = some w') : Kept eventType w' := by
  obtain rfl := Option.some.inj hstep
  refine ⟨h.numbered.concat, fun subId => ?_, ?_⟩
  · have hget : (w.broker.publish (eventType event)
        ⟨w.published.length, event⟩).subscribers.get? subId =
        (w.broker.subscribers.get? subId).map fun s => if s.takes (eventType event) then
          { s with queue := s.queue.offer ⟨w.published.length, event⟩ } else s := by
      rw [← Dict.get?_map_value]
      rfl
    have hheld := h.held subId
    dsimp only
    cases hfeed : w.feeds subId with
    | none =>
      rw [hfeed] at hheld
      cases hheld with
      | unknown hsub => exact .unknown (by rw [hget, hsub]; rfl)
    | some feed =>
      rw [hfeed] at hheld
      rw [Option.map_some]
      cases hheld with
      | live hsub hlive htypes hin =>
        rw [hsub, Option.map_some, takes_eq_wants htypes hin.filter_ne] at hget
        cases hwants : feed.wants (eventType event) with
        | true =>
          rw [hwants, if_pos rfl] at hget
          rw [Feed.offer, if_pos (by rw [hlive, hwants, Bool.and_self])]
          exact .live hget hlive htypes (hin.offer h.numbered hwants)
        | false =>
          rw [hwants, if_neg (by simp)] at hget
          rw [Feed.offer, hlive, hwants, Bool.and_false, if_neg (by simp)]
          exact .live hget hlive htypes hin.skip
      | left hsub hqueue hlive hin =>
        rw [hsub] at hget
        rw [Feed.offer, hlive, Bool.false_and, if_neg (by simp)]
        exact .left hget hqueue hlive hin.skip
  · simpa [EventBroker.publish] using h.room

theorem kept_read {subscriberId : String} (h : Kept eventType w)
    (hstep : w.step eventType (.read subscriberId) = some w') : Kept eventType w' := by
  have hheld := h.held subscriberId
  simp only [step, readQueue] at hstep
  cases hsub : w.broker.subscribers.get? subscriberId with
  | none =>
    simp only [hsub] at hstep
    obtain ⟨queue, hqueue, hstep⟩ := Option.bind_eq_some_iff.1 hstep
    obtain ⟨⟨p, queue'⟩, hget, rfl⟩ := Option.map_eq_some_iff.1 hstep
    refine ⟨h.numbered, fun subId => ?_, h.room⟩
    by_cases hid : subId = subscriberId
    · subst hid
      simp only [deliver, Function.update_self]
      generalize w.feeds subId = feed at hheld ⊢
      cases hheld with
      | unknown hsub => exact .unknown hsub
      | live hsub' => rw [hsub] at hsub'; cases hsub'
      | left hsub hqueue' hlive hin =>
        rw [hqueue] at hqueue'
        cases hqueue'
        exact .left hsub (Function.update_self _ _ _) hlive (hin.read h.numbered hget)
    · simp only [deliver, Function.update_of_ne hid]
      exact (h.held subId).congr rfl (Function.update_of_ne hid _ _) rfl
  | some s =>
    simp only [hsub] at hstep
    obtain ⟨⟨p, broker⟩, hnext, rfl⟩ := Option.map_eq_some_iff.1 hstep
    obtain ⟨s', hs', hnext⟩ := Option.bind_eq_some_iff.1 hnext
    rw [hsub] at hs'
    cases hs'
    obtain ⟨⟨event, queue⟩, hget, hnext⟩ := Option.bind_eq_some_iff.1 hnext
    obtain ⟨rfl, rfl⟩ := Prod.mk.inj (Option.some.inj hnext)
    refine ⟨h.numbered, fun subId => ?_, ?_⟩
    · by_cases hid : subId = subscriberId
      · subst hid
        simp only [deliver, Function.update_self]
        generalize w.feeds subId = feed at hheld ⊢
        cases hheld with
        | unknown hsub' => rw [hsub] at hsub'; cases hsub'
        | live hsub' hlive htypes hin =>
          rw [hsub] at hsub'
          cases hsub'
          exact .live Dict.get?_set_self hlive htypes (hin.read h.numbered hget)
        | left hsub' => rw [hsub] at hsub'; cases hsub'
      · simp only [deliver, Function.update_of_ne hid]
        exact (h.held subId).congr (Dict.get?_set_of_ne hid) rfl rfl
    · refine le_of_eq_of_le ?_ h.room
      simp [deliver, Dict.length_set, hsub]

/-- A step keeps the invariant, unless someone subscribes to the empty set of types. -/
theorem kept_step (hasks : ∀ subId, a ≠ .subscribe subId (some [])) (h : Kept eventType w)
    (hstep : w.step eventType a = some w') : Kept eventType w' := by
  cases a with
  | subscribe subId eventTypes =>
    exact kept_subscribe (fun hempty => hasks subId (by rw [hempty])) h hstep
  | unsubscribe subscriberId => exact kept_unsubscribe h hstep
  | publish event => exact kept_publish h hstep
  | read subscriberId => exact kept_read h hstep

theorem kept_run (hasks : ∀ a ∈ actions, ∀ subId, a ≠ .subscribe subId (some []))
    (h : Kept eventType w) (hrun : w.run eventType actions = some w') : Kept eventType w' := by
  induction actions generalizing w with
  | nil => exact Option.some.inj hrun ▸ h
  | cons a actions ih =>
    obtain ⟨v, hstep, hrun⟩ := Option.bind_eq_some_iff.1 hrun
    exact ih (fun b hb => hasks b (List.mem_cons_of_mem _ hb))
      (kept_step (hasks a List.mem_cons_self) h hstep) hrun

/-! ### One subscriber does not see how another reads -/

/-- What decides what a subscriber receives: who is subscribed, but not what their queues hold. -/
structure View (α : Type) (queueSize : ℕ) where
  maxConnections : ℕ
  subscribers : List String
  own : Option (Subscriber (Publication α) queueSize)
  detached : Option (Queue (Publication α) queueSize)
  published : List (Publication α)
  feed : Option (Feed α)
  known : String → Bool

/-- The state as it concerns one subscriber. -/
def view (subscriberId : String) (w : BrokerState α queueSize) : View α queueSize where
  maxConnections := w.broker.maxConnections
  subscribers := w.broker.subscribers.map Prod.fst
  own := w.broker.subscribers.get? subscriberId
  detached := w.detached subscriberId
  published := w.published
  feed := w.feeds subscriberId
  known := fun subId => (w.feeds subId).isSome

/-- Reads by others do not concern a subscriber. -/
def concerns (subscriberId : String) : BrokerAction α → Bool
  | .read subId => subId = subscriberId
  | _ => true

section view

variable {v : BrokerState α queueSize} {subscriberId subId : String}

theorem isSome_update {f : String → Option (Feed α)} {feed : Option (Feed α)} {j : String} :
    (Function.update f subId feed j).isSome =
      if j = subId then feed.isSome else (f j).isSome := by
  by_cases hj : j = subId
  · subst hj
    rw [Function.update_self, if_pos rfl]
  · rw [Function.update_of_ne hj, if_neg hj]

theorem view_subscribe {eventTypes : Option (List String)}
    (hview : w.view subscriberId = v.view subscriberId) :
    (w.step eventType (.subscribe subId eventTypes)).map (view subscriberId) =
      (v.step eventType (.subscribe subId eventTypes)).map (view subscriberId) := by
  have hview' := hview
  simp only [view, View.mk.injEq] at hview'
  obtain ⟨hmax, hkeys, hown, hdetached, hpublished, hfeed, hknown⟩ := hview'
  have hlength : w.broker.subscribers.length = v.broker.subscribers.length := by
    simpa using congrArg List.length hkeys
  simp only [step, EventBroker.subscribe, congrFun hknown subId, hlength, hmax]
  by_cases hfresh : (v.feeds subId).isSome = true
  · rw [if_pos hfresh, if_pos hfresh]
  rw [if_neg hfresh, if_neg hfresh]
  by_cases hroom : v.broker.maxConnections ≤ v.broker.subscribers.length
  · rw [if_pos hroom, if_pos hroom]
    exact congrArg some hview
  · rw [if_neg hroom, if_neg hroom]
    simp only [Option.map_some, view, Dict.keys_set, hkeys, hdetached, hpublished,
      isSome_update, funext_iff.1 hknown]
    by_cases hid : subscriberId = subId
    · simp [hid]
    · simp [hid, hown, hfeed]

theorem view_unsubscribe (hview : w.view subscriberId = v.view subscriberId) :
    (w.step eventType (.unsubscribe subId)).map (view subscriberId) =
      (v.step eventType (.unsubscribe subId)).map (view subscriberId) := by
  simp only [view, View.mk.injEq] at hview
  obtain ⟨hmax, hkeys, hown, hdetached, hpublished, hfeed, hknown⟩ := hview
  simp only [step, EventBroker.unsubscribe, Option.map_some, view, Dict.keys_erase, hkeys, hmax,
    hpublished, isSome_update, Option.isSome_map, funext_iff.1 hknown]
  by_cases hid : subscriberId = subId
  · subst hid
    simp only [hown, Dict.get?_erase_self, Function.update_self, hfeed]
    cases v.broker.subscribers.get? subscriberId <;> simp [hdetached]
  · have hkept : ∀ u : BrokerState α queueSize, (match u.broker.subscribers.get? subId with
        | some s => Function.update u.detached subId (some s.queue)
        | none => u.detached) subscriberId = u.detached subscriberId := by
      intro u
      cases u.broker.subscribers.get? subId with
      | none => rfl
      | some s => exact Function.update_of_ne hid _ _
    simp only [hkept, Dict.get?_erase_of_ne hid, hown, hdetached, Function.update_of_ne hid, hfeed]

theorem view_publish {event : α} (hview : w.view subscriberId = v.view subscriberId) :
    (w.step eventType (.publish event)).map (view subscriberId) =
      (v.step eventType (.publish event)).map (view subscriberId) := by
  simp only [view, View.mk.injEq] at hview
  obtain ⟨hmax, hkeys, hown, hdetached, hpublished, hfeed, hknown⟩ := hview
  have hget : ∀ u : BrokerState α queueSize, ∀ p : Publication α,
      (u.broker.publish (eventType event) p).subscribers.get? subscriberId =
      (u.broker.subscribers.get? subscriberId).map fun s => if s.takes (eventType event) then
        { s with queue := s.queue.offer p } else s := by
    intro u p
    rw [← Dict.get?_map_value]
    rfl
  have hsame : ∀ u : BrokerState α queueSize, ∀ p : Publication α,
      (u.broker.publish (eventType event) p).subscribers.map Prod.fst =
        u.broker.subscribers.map Prod.fst := by
    intro u p
    rw [EventBroker.publish, List.map_map]
    rfl
  simp only [step, Option.map_some, view, hget, hsame, hown, hkeys, hdetached, hpublished, hfeed,
    Option.isSome_map, hknown]
  simp only [EventBroker.publish, hmax]

/-- A read of the own queue. -/
theorem view_read (hview : w.view subscriberId = v.view subscriberId) :
    (w.step eventType (.read subscriberId)).map (view subscriberId) =
      (v.step eventType (.read subscriberId)).map (view subscriberId) := by
  simp only [view, View.mk.injEq] at hview
  obtain ⟨hmax, hkeys, hown, hdetached, hpublished, hfeed, hknown⟩ := hview
  simp only [step, readQueue, EventBroker.next, hown]
  cases hsub : v.broker.subscribers.get? subscriberId with
  | none =>
    simp only [hdetached]
    cases v.detached subscriberId with
    | none => rfl
    | some queue =>
      cases hget : queue.getNowait with
      | none => simp [hget]
      | some p =>
        simp [hget, deliver, view, hmax, hkeys, hown, hsub, hpublished, hfeed, isSome_update,
          funext_iff.1 hknown]
  | some s =>
    simp only [bind, Option.bind_some]
    cases hget : s.queue.getNowait with
    | none => simp
    | some p =>
      simp [deliver, view, hmax, hkeys, hdetached, hpublished, hfeed, isSome_update,
        funext_iff.1 hknown, Dict.keys_set_of_get? hsub, Dict.keys_set_of_get? (hown.trans hsub),
        pure]

/-- What is known of the subscribers is not changed by what they read. -/
theorem isSome_deliver {p : Publication α} {j : String} :
    ((w.deliver subId p).feeds j).isSome = (w.feeds j).isSome := by
  rw [deliver, isSome_update, Option.isSome_map]
  split
  next h => rw [h]
  next => rfl

/-- A read of another queue. -/
theorem view_read_of_ne (hne : subscriberId ≠ subId)
    (hstep : w.step eventType (.read subId) = some w') :
    w'.view subscriberId = w.view subscriberId := by
  simp only [step, readQueue] at hstep
  cases hsub : w.broker.subscribers.get? subId with
  | none =>
    simp only [hsub] at hstep
    obtain ⟨queue, -, hstep⟩ := Option.bind_eq_some_iff.1 hstep
    obtain ⟨⟨p, queue'⟩, -, rfl⟩ := Option.map_eq_some_iff.1 hstep
    simp only [view, isSome_deliver]
    simp only [deliver, Function.update_of_ne hne]
  | some s =>
    simp only [hsub] at hstep
    obtain ⟨⟨p, broker⟩, hnext, rfl⟩ := Option.map_eq_some_iff.1 hstep
    obtain ⟨s', hs', hnext⟩ := Option.bind_eq_some_iff.1 hnext
    obtain ⟨⟨event, queue⟩, -, hnext⟩ := Option.bind_eq_some_iff.1 hnext
    obtain ⟨rfl, rfl⟩ := Prod.mk.inj (Option.some.inj hnext)
    simp only [view, isSome_deliver]
    simp only [deliver, Function.update_of_ne hne, Dict.get?_set_of_ne hne,
      Dict.keys_set_of_get? hs']

/-- A step that concerns a subscriber does the same to it in any state that looks alike to it. -/
theorem view_step (hview : w.view subscriberId = v.view subscriberId)
    (hconcerns : concerns subscriberId a = true) :
    (w.step eventType a).map (view subscriberId) =
      (v.step eventType a).map (view subscriberId) := by
  cases a with
  | subscribe => exact view_subscribe hview
  | unsubscribe => exact view_unsubscribe hview
  | publish => exact view_publish hview
  | read =>
    obtain rfl := of_decide_eq_true hconcerns
    exact view_read hview

/-- Leaving out what the others read changes nothing for a subscriber. -/
theorem view_run (hview : w.view subscriberId = v.view subscriberId)
    (hrun : w.run eventType actions = some w') :
    ∃ v', v.run eventType (actions.filter (concerns subscriberId)) = some v' ∧
      v'.view subscriberId = w'.view subscriberId := by
  induction actions generalizing w v with
  | nil => exact ⟨v, rfl, Option.some.inj hrun ▸ hview.symm⟩
  | cons a actions ih =>
    obtain ⟨u, hstep, hrest⟩ := Option.bind_eq_some_iff.1 hrun
    cases hconcerns : concerns subscriberId a with
    | true =>
      have hsame : (w.step eventType a).map (view subscriberId) =
          (v.step eventType a).map (view subscriberId) := view_step hview hconcerns
      rw [hstep, Option.map_some] at hsame
      obtain ⟨u', hstep', hu⟩ := Option.map_eq_some_iff.1 hsame.symm
      obtain ⟨v', hrun', hv'⟩ := ih hu.symm hrest
      exact ⟨v', by rw [List.filter_cons_of_pos hconcerns, run, hstep', Option.bind_some, hrun'],
        hv'⟩
    | false =>
      cases a with
      | read subId =>
        have hne : subscriberId ≠ subId := fun h => by simp [concerns, h] at hconcerns
        rw [List.filter_cons_of_neg (by simp [hconcerns])]
        exact ih ((view_read_of_ne hne hstep).trans hview) hrest
      | subscribe => cases hconcerns
      | unsubscribe => cases hconcerns
      | publish => cases hconcerns

end view

/-- What the broker owes its subscribers: what one has read and what its queue holds are events
published for it, in their order and none twice, the queue holds the newest it has not read, and
there are not too many of them. -/
structure Delivered (eventType : α → String) (w : BrokerState α queueSize) : Prop where
  received : ∀ subscriberId feed, w.feeds subscriberId = some feed →
    ∃ queue, w.queueOf subscriberId = some queue ∧
      (feed.read ++ queue.items).Sublist feed.offered ∧ (feed.read ++ queue.items).Nodup ∧
      feed.offered.Sublist w.published ∧
      (∀ p ∈ feed.offered, feed.wants (eventType p.event) = true) ∧
      queue.items = newest queueSize feed.undelivered
  room : w.broker.subscribers.length ≤ w.broker.maxConnections

theorem Kept.delivered (h : Kept eventType w) : Delivered eventType w where
  received := by
    intro subscriberId feed hfeed
    have hin : ∃ queue, w.queueOf subscriberId = some queue ∧
        InStep eventType w.published feed queue := by
      have hheld := h.held subscriberId
      rw [hfeed] at hheld
      cases hheld with
      | live hsub _ _ hin => exact ⟨_, by rw [queueOf, hsub], hin⟩
      | left hsub hqueue _ hin => exact ⟨_, by rw [queueOf, hsub, hqueue], hin⟩
    obtain ⟨queue, hqueue, hin⟩ := hin
    have hnodup : w.published.Nodup :=
      h.numbered.pairwise.imp fun hlt heq => absurd (heq ▸ hlt) (lt_irrefl _)
    exact ⟨queue, hqueue, hin.received, hnodup.sublist (hin.received.trans hin.offered),
      hin.offered, hin.wanted, hin.window⟩
  room := h.room

/-- In every run in which nobody subscribes to the empty set of types, the broker delivers; and
what a subscriber receives does not depend on when the others read. -/
theorem delivered_of_run {maxConnections : ℕ}
    (hasks : ∀ a ∈ actions, ∀ subId, a ≠ .subscribe subId (some []))
    (hrun : (initial α queueSize maxConnections).run eventType actions = some w) :
    Delivered eventType w ∧
      ∀ (subscriberId : String) (others : List (BrokerAction α)) (v : BrokerState α queueSize),
        others.filter (concerns subscriberId) = actions.filter (concerns subscriberId) →
        (initial α queueSize maxConnections).run eventType others = some v →
        v.queueOf subscriberId = w.queueOf subscriberId ∧
          v.feeds subscriberId = w.feeds subscriberId := by
  refine ⟨(kept_run hasks kept_initial hrun).delivered, ?_⟩
  intro subscriberId others v hothers hrun'
  have hsame : (initial α queueSize maxConnections).view subscriberId =
      (initial α queueSize maxConnections).view subscriberId := rfl
  obtain ⟨w', hw', hw⟩ := view_run hsame hrun
  obtain ⟨v', hv', hv⟩ := view_run hsame hrun'
  rw [hothers, hw'] at hv'
  cases hv'
  have hview := hv.symm.trans hw
  simp only [view, View.mk.injEq] at hview
  obtain ⟨-, -, hown, hdetached, -, hfeed, -⟩ := hview
  exact ⟨by rw [queueOf, hown, hdetached, queueOf], hfeed⟩

/-- A slow subscriber and one that reads. -/
def slowAndFast : List (BrokerAction String) :=
  [.subscribe "slow" none, .subscribe "fast" (streamTypes (some "a, b")), .publish "a",
    .read "fast", .publish "c", .publish "b"]

theorem delivered_slow_and_fast :
    ∃ w, (initial String 2 50).run id slowAndFast = some w ∧ Delivered id w ∧
      (w.queueOf "slow").map Queue.items = some [⟨1, "c"⟩, ⟨2, "b"⟩] ∧
      (w.queueOf "fast").map Queue.items = some [⟨2, "b"⟩] := by
  have hslow : (((initial String 2 50).run id slowAndFast).bind (queueOf · "slow")).map
      Queue.items = some [⟨1, "c"⟩, ⟨2, "b"⟩] := rfl
  have hfast : (((initial String 2 50).run id slowAndFast).bind (queueOf · "fast")).map
      Queue.items = some [⟨2, "b"⟩] := rfl
  have htypes : streamTypes (some "a, b") = some ["a", "b"] := by decide
  have hasks : ∀ a ∈ slowAndFast, ∀ subId, a ≠ .subscribe subId (some []) := by
    intro a ha subId heq
    subst heq
    simp [slowAndFast, htypes] at ha
  cases hrun : (initial String 2 50).run id slowAndFast with
  | none => rw [hrun] at hslow; cases hslow
  | some w =>
    rw [hrun] at hslow hfast
    exact ⟨w, rfl, (delivered_of_run hasks hrun).1, hslow, hfast⟩

/-- The query `types=,` asks for the empty set of types, and every event is put in the queue. -/
theorem empty_types_take_all :
    streamTypes (some ",") = some [] ∧
      ∃ w, (initial String 256 50).run id
          [.subscribe "a" (streamTypes (some ",")), .publish "k8s.cluster.detail"] = some w ∧
        (w.queueOf "a").map Queue.items = some [⟨0, "k8s.cluster.detail"⟩] ∧
        ¬ Delivered id w := by
  refine ⟨by decide, _, rfl, rfl, fun h => ?_⟩
  obtain ⟨queue, hqueue, hreceived, -⟩ := h.received "a" _ rfl
  cases hqueue
  cases hreceived.length_le

end BrokerState

end ClusterManager.Events
