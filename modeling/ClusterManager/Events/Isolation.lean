import ClusterManager.Events.System

/-!
# Whose data the event stream delivers

An event is stamped with the workspace its cluster was listed under (`Stamped`), and a stream
yields it to those who see that workspace (`Admitted`). So it reaches only those who see the
version its data was read from, as long as no CR is relabelled between the listing of a cycle and
a read of it (`deliveries_visible_of_labels_stand`).
-/

namespace ClusterManager.Events

open Db K8s Interleaving

/-! ### What the programs do -/

/-- A read of the cluster under a key. -/
def ReadsCluster (ns name : String) (r : SseRequest) : Prop :=
  r = .getCluster ns name ∨ r = .listEvents ns (fieldSelector name)

/-- A published event carries the workspace its cluster was listed under, after a read of that
cluster. -/
def Stamped (past : List SseAnswer) (event : Envelope) : Prop :=
  ∃ cluster ∈ listing past, ∃ ns name r, clusterKey cluster = .ok (some (ns, name)) ∧
    crWorkspaceId cluster = .ok event.workspaceId ∧ lastRead past = some r ∧
      ReadsCluster ns name r

/-- The visibility filter has let a workspace pass. -/
def Admitted (past : List SseAnswer) (callerOwnerId : String) : Option String → Prop
  | none => callerOwnerId = systemOwnerId
  | some workspaceId => ∃ ws, lastLookup past = some (workspaceId, ws) ∧
      ownedOrShared ws callerOwnerId = true

/-- Collectors publish stamped events, streams yield admitted ones. -/
def Conforms (client : Option String) : SseRequest → List SseAnswer → Prop
  | .publish event, past => Stamped past event
  | .yield (.event event _ _ _), past => ∃ taken, latest takenEvent past = some taken ∧
      taken.event = event ∧ (ownerScoped event = true →
        ∀ callerOwnerId ∈ client, Admitted past callerOwnerId taken.workspaceId)
  | _, _ => True

/-- Every answer is possible. -/
def AnySseAnswer : (r : SseRequest) → Except Exc r.Resp → Prop := fun _ _ => True

/-- A program of a collector or a stream conforms, and what was known of the past still is. -/
abbrev Keeps (client : Option String) {α : Type} (p : SseProgram α) (past : List SseAnswer)
    (Q : List SseAnswer → Prop) : Prop :=
  p.Safe (History AnySseAnswer) (Conforms client) past (fun _ => Q) fun _ => Q

section Programs

variable {client : Option String} {past : List SseAnswer} {α β : Type}

theorem keeps_call {r : SseRequest} {Q : List SseAnswer → Prop} (hr : Conforms client r past)
    (h : ∀ x, Q (past ++ [⟨r, x⟩])) : Keeps client (sse r) past Q :=
  Coroutine.safe_call.2 ⟨hr, fun a _ ⟨_, hpast⟩ => hpast ▸ h (.ok a),
    fun e _ ⟨_, hpast⟩ => hpast ▸ h (.error e)⟩

theorem keeps_bind {p : SseProgram α} {f : α → SseProgram β} {Q Q' : List SseAnswer → Prop}
    (hp : Keeps client p past Q) (hf : ∀ a past', Q past' → Keeps client (f a) past' Q')
    (hQ : ∀ past', Q past' → Q' past') : Keeps client (p >>= f) past Q' :=
  Coroutine.safe_bind.2 (hp.mono hf fun _ => hQ)

theorem keeps_logged {p : SseProgram Unit} {Q : List SseAnswer → Prop}
    (h : Keeps client p past Q) : Keeps client (logged p) past Q := by
  refine Coroutine.safe_tryCatch.2 (h.mono (fun _ _ => id) fun e past hQ => ?_)
  split <;> exact hQ

/-! #### The collector -/

theorem listing_append {a : SseAnswer} (h : listed a = none) :
    listing (past ++ [a]) = listing past := by
  simp [listing, h]

theorem lastRead_append {a : SseAnswer} (h : readOf a = none) :
    lastRead (past ++ [a]) = lastRead past := by
  simp [lastRead, h]

variable {clusters : List Json} {cluster : Json} {ns name : String} {workspaceId : Option String}
  {r : SseRequest}

theorem keeps_publishStamped {event idPrefix : String} {data : EventData}
    (hlisting : listing past = clusters) (hcluster : cluster ∈ clusters)
    (hkey : clusterKey cluster = .ok (some (ns, name)))
    (hws : crWorkspaceId cluster = .ok workspaceId) (hread : lastRead past = some r)
    (hr : ReadsCluster ns name r) :
    Keeps client (publishStamped event idPrefix ns name workspaceId data) past
      (listing · = clusters) := by
  have hnow : ∀ past, listing past = clusters ∧ lastRead past = some r →
      Keeps client (sse .now) past fun past => listing past = clusters ∧ lastRead past = some r :=
    fun past ⟨hlisting, hread⟩ => keeps_call trivial fun x =>
      ⟨(listing_append rfl).trans hlisting, (lastRead_append rfl).trans hread⟩
  refine keeps_bind (hnow past ⟨hlisting, hread⟩) (fun idTime past h => ?_) fun _ => And.left
  refine keeps_bind (hnow past h) (fun timestamp past h => ?_) fun _ => And.left
  refine keeps_call ?_ fun x => (listing_append rfl).trans h.1
  exact ⟨cluster, h.1 ▸ hcluster, ns, name, r, hkey, hws, h.2, hr⟩

/-- A publication starts with a read. -/
theorem keeps_read {f : r.Resp → SseProgram Unit} (hlisting : listing past = clusters)
    (hr : ReadsCluster ns name r)
    (hf : ∀ a past, listing past = clusters → lastRead past = some r →
      Keeps client (f a) past (listing · = clusters)) :
    Keeps client (sse r >>= f) past (listing · = clusters) := by
  rw [Keeps, Coroutine.safe_bind]
  rcases hr with rfl | rfl
  all_goals
    refine Coroutine.safe_call.2 ⟨trivial, ?_, ?_⟩
    · rintro a _ ⟨-, rfl⟩
      exact hf a _ ((listing_append rfl).trans hlisting) (by simp [lastRead, readOf])
    · rintro e _ ⟨-, rfl⟩
      exact (listing_append rfl).trans hlisting

theorem keeps_publishCluster (hlisting : listing past = clusters) (hcluster : cluster ∈ clusters) :
    Keeps client (publishCluster cluster) past (listing · = clusters) := by
  rw [Keeps, publishCluster, Coroutine.safe_bind, Coroutine.safe_lift]
  refine ⟨fun key hkey => ?_, fun _ _ => hlisting⟩
  cases key with
  | none => exact hlisting
  | some key =>
    obtain ⟨ns, name⟩ := key
    dsimp only
    rw [Coroutine.safe_bind, Coroutine.safe_lift]
    refine ⟨fun workspaceId hws => ?_, fun _ _ => hlisting⟩
    have hstamped : ∀ {event idPrefix data r past}, listing past = clusters →
        lastRead past = some r → ReadsCluster ns name r →
          Keeps client (publishStamped event idPrefix ns name workspaceId data) past
            (listing · = clusters) :=
      fun hlisting hread hr => keeps_publishStamped hlisting hcluster hkey hws hread hr
    refine keeps_bind (keeps_logged (keeps_read hlisting (.inl rfl)
      fun a past hlisting hread => hstamped hlisting hread (.inl rfl)))
      (fun _ past hlisting => ?_) fun _ => id
    refine keeps_bind (keeps_logged (keeps_read hlisting (.inr rfl)
      fun a past hlisting hread => hstamped hlisting hread (.inr rfl)))
      (fun _ past hlisting => ?_) fun _ => id
    refine keeps_logged (keeps_read hlisting (.inl rfl) fun a past hlisting hread => ?_)
    rw [Keeps, Coroutine.safe_bind, Coroutine.safe_lift]
    exact ⟨fun health _ => hstamped hlisting hread (.inl rfl), fun _ _ => hlisting⟩

theorem keeps_publishClusters {rest : List Json} (hlisting : listing past = clusters)
    (hrest : ∀ cluster ∈ rest, cluster ∈ clusters) :
    Keeps client (publishClusters rest) past (listing · = clusters) := by
  induction rest generalizing past with
  | nil => exact hlisting
  | cons cluster rest ih =>
    refine keeps_bind (keeps_publishCluster hlisting (hrest _ List.mem_cons_self))
      (fun _ past hlisting => ?_) fun _ => id
    exact ih hlisting fun cluster hcluster => hrest _ (List.mem_cons_of_mem _ hcluster)

theorem keeps_publishK8s {config : SseConfig} :
    Keeps client (publishK8s config) past fun _ => True := by
  unfold publishK8s
  split
  next =>
    refine keeps_bind (keeps_call trivial fun _ => trivial) (fun count past _ => ?_) fun _ => id
    split
    next => trivial
    next =>
      refine keeps_logged (Coroutine.safe_bind.2 (Coroutine.safe_call.2 ⟨trivial, ?_, ?_⟩))
      · rintro ⟨clusters, token⟩ _ ⟨-, rfl⟩
        have hlisting : listing (past ++ [⟨.listClusters, .ok (clusters, token)⟩]) = clusters := by
          simp [listing, listed]
        exact (keeps_publishClusters hlisting fun _ => id).mono (fun _ _ _ => trivial)
          fun _ _ _ => trivial
      · exact fun _ _ _ => trivial
  next => trivial

theorem keeps_collectK8sLoop {config : SseConfig} {rounds : ℕ} :
    Keeps client (collectK8sLoop config rounds) past fun _ => True := by
  induction rounds generalizing past with
  | zero => trivial
  | succ rounds ih =>
    have hround : Keeps client ((do publishK8s config; return true : SseProgram Bool).tryCatch
        fun e => if e = .cancelled then return false
          else if e.isException then return true else throw e) past fun _ => True := by
      refine Coroutine.safe_tryCatch.2 (Coroutine.safe_bind.2
        (keeps_publishK8s.mono (fun _ _ _ => trivial) fun e past _ => ?_))
      split
      next => trivial
      next => split <;> trivial
    refine keeps_bind hround (fun go past _ => ?_) fun _ => id
    split
    next => exact keeps_bind (keeps_call trivial fun _ => trivial) (fun _ _ _ => ih) fun _ => id
    next => trivial

/-! #### The stream -/

/-- What the filter lets pass is admitted. -/
theorem safe_isEventVisible {event : Envelope} {callerOwnerId : String}
    (htaken : latest takenEvent past = some event) :
    (isEventVisible event callerOwnerId).Safe (History AnySseAnswer) (Conforms client) past
      (fun visible past => latest takenEvent past = some event ∧ (visible = true →
        ownerScoped event.event = true → Admitted past callerOwnerId event.workspaceId))
      fun _ _ => True := by
  unfold isEventVisible
  split
  next =>
    unfold isCrVisible
    cases event.workspaceId with
    | none => exact ⟨htaken, fun h _ => (of_decide_eq_true h : callerOwnerId = systemOwnerId)⟩
    | some workspaceId =>
      refine Coroutine.safe_tryCatch.2 (Coroutine.safe_bind.2
        (Coroutine.safe_call.2 ⟨trivial, ?_, ?_⟩))
      · rintro ws _ ⟨-, rfl⟩
        exact ⟨by simpa [takenEvent] using htaken,
          fun h _ => ⟨ws, by simp [lastLookup, lookupOf], h⟩⟩
      · rintro e _ ⟨-, rfl⟩
        split
        next => exact ⟨by simpa [takenEvent] using htaken, nofun⟩
        next => trivial
  next h => exact ⟨htaken, fun _ hscoped => absurd hscoped h⟩

theorem keeps_nextItem {callerOwnerId subscriberId : String} :
    Keeps (some callerOwnerId) (nextItem callerOwnerId subscriberId) past fun _ => True := by
  refine Coroutine.safe_tryCatch.2 (Coroutine.Safe.mono (E := fun _ _ => True) ?_
    (fun _ _ => id) fun e past _ => ?_)
  · rw [Coroutine.safe_bind]
    refine Coroutine.safe_call.2 ⟨trivial, ?_, fun _ _ _ => trivial⟩
    rintro event _ ⟨-, rfl⟩
    rw [Coroutine.safe_bind]
    refine (safe_isEventVisible (by simp [takenEvent])).mono (fun visible past h => ?_)
      fun _ _ => id
    split
    next hvisible =>
      rw [Coroutine.safe_bind, Coroutine.safe_lift]
      refine ⟨fun data _ => keeps_call ⟨event, h.1, rfl, fun hscoped => ?_⟩ fun _ => trivial,
        fun _ _ => trivial⟩
      rintro _ ⟨⟩
      exact h.2 hvisible hscoped
    next => trivial
  · split
    next =>
      exact keeps_bind (keeps_call trivial fun _ => trivial)
        (fun now past _ => keeps_call trivial fun _ => trivial) fun _ => id
    next => trivial

theorem keeps_eventLoop {callerOwnerId subscriberId : String} {rounds : ℕ} :
    Keeps (some callerOwnerId) (eventLoop callerOwnerId subscriberId rounds) past
      fun _ => True := by
  induction rounds generalizing past with
  | zero => trivial
  | succ rounds ih =>
    refine keeps_bind (keeps_call trivial fun _ => trivial) (fun gone past _ => ?_) fun _ => id
    split
    next => trivial
    next => exact keeps_bind keeps_nextItem (fun _ _ _ => ih) fun _ => id

theorem keeps_eventStream {config : SseConfig} {callerOwnerId : String} {types : Option String}
    {rounds : ℕ} : Keeps (some callerOwnerId) (eventStream config callerOwnerId types rounds) past
      fun _ => True := by
  have hend : ∀ subscriberId past, Keeps (some callerOwnerId) (sse (.unsubscribe subscriberId)) past
      fun _ => True := fun _ _ => keeps_call trivial fun _ => trivial
  unfold eventStream
  split
  next =>
    have hsubscribe : Keeps (some callerOwnerId)
        ((some <$> sse (.subscribe (eventTypes types))).tryCatch fun e =>
          if e = connectionError then return none else throw e) past fun _ => True := by
      refine Coroutine.safe_tryCatch.2 (Coroutine.Safe.mono (E := fun _ _ => True) ?_
        (fun _ _ => id) fun e past _ => ?_)
      · exact keeps_bind (keeps_call trivial fun _ => trivial) (fun _ _ _ => trivial) fun _ => id
      · split <;> trivial
    refine keeps_bind hsubscribe (fun subscriberId past _ => ?_) fun _ => id
    cases subscriberId with
    | none => trivial
    | some subscriberId =>
      refine keeps_bind (Q := fun _ => True) ?_ (fun _ _ _ => trivial) fun _ => id
      exact Coroutine.safe_tryFinally.2 (keeps_eventLoop.mono
        (fun _ past _ => hend subscriberId past) fun _ past _ => hend subscriberId past)
  next => trivial

theorem keeps_program (call : SseCall) : Keeps call.client call.program [] fun _ => True := by
  cases call with
  | collect config rounds =>
    refine keeps_bind (Q := fun _ => True) ?_ (fun _ _ _ => trivial) fun _ => id
    unfold collectK8s
    split
    next => exact keeps_collectK8sLoop
    next => trivial
  | stream config callerOwnerId types rounds => exact keeps_eventStream

end Programs

/-! ### Steps -/

/-- The event of a tenant's cluster carries the workspace of the version it was read from. -/
def Attributed (event : Envelope) (source : Option CustomResource) : Prop :=
  ownerScoped event.event = true → ∀ cr ∈ source, event.workspaceId = cr.workspaceId

/-- Everything that waits in a queue is attributed. -/
def QueuesAttributed (s : SseState) : Prop :=
  ∀ event source, s.broker.Queued (event, source) → Attributed event source

/-- What the trail of a task says of its answers. -/
structure Trail.Follows (trail : Trail) (past : List SseAnswer) : Prop where
  read : ∀ r, lastRead past = some r → ∀ cr ∈ trail.read,
    AsListed past cr ∧ ∀ ns name, ReadsCluster ns name r → cr.namespace_ = ns ∧ cr.name = name
  taken : ∀ event, latest takenEvent past = some event → Attributed event trail.taken
  lookup : ∀ workspaceId ws, lastLookup past = some (workspaceId, ws) →
    Db.getWorkspace workspaceId trail.tables = .ok ws

/-- An answer that tells nothing of clusters, events and workspaces. -/
def Silent (a : SseAnswer) : Prop :=
  listed a = none ∧ readOf a = none ∧ takenEvent a = none ∧ lookupOf a = none

section Steps

variable {s s' : SseState} {i : ℕ} {x : Choice} {r : SseRequest} {a : Except Exc r.Resp}
  {past : List SseAnswer} {trail : Trail}

theorem Trail.Follows.nil : trail.Follows [] where
  read _ h := (Option.some_ne_none _ h.symm).elim
  taken _ h := (Option.some_ne_none _ h.symm).elim
  lookup _ _ h := (Option.some_ne_none _ h.symm).elim

theorem Trail.Follows.silent (h : trail.Follows past) {a : SseAnswer} (ha : Silent a) :
    trail.Follows (past ++ [a]) where
  read r hr cr hcr := by
    rw [lastRead_append ha.2.1] at hr
    rw [AsListed, listing_append ha.1]
    exact h.read r hr cr hcr
  taken event hevent := h.taken event (by simpa [ha.2.2.1] using hevent)
  lookup workspaceId ws hws :=
    h.lookup workspaceId ws (by simpa [lastLookup, ha.2.2.2] using hws)

theorem silent_error {e : Exc} : Silent ⟨r, .error e⟩ := by
  cases r <;> exact ⟨rfl, rfl, rfl, rfl⟩

theorem fieldSelector_injective : Function.Injective fieldSelector := by
  have hcancel : ∀ before after a b : String, before ++ a ++ after = before ++ b ++ after →
      a = b := by
    intro before after a b h
    rw [← String.toList_inj] at h ⊢
    simpa only [String.toList_append, List.append_left_inj, List.append_right_inj] using h
  exact fun name name' h => hcancel _ _ name name' h

/-- The source of a read is the cluster that is asked for. -/
theorem key_of_source {cr : CustomResource} (h : cr ∈ s.source r) {ns name : String}
    (hr : ReadsCluster ns name r) : cr.namespace_ = ns ∧ cr.name = name := by
  rcases hr with rfl | rfl
  · simpa using List.find?_some h
  · have := List.find?_some h
    simp only [decide_eq_true_eq] at this
    exact ⟨this.1, fieldSelector_injective this.2⟩

@[simp] theorem trail_yielded {item : SseItem} : (s.yielded i item).trail = s.trail := by
  cases item <;> rfl

@[simp] theorem broker_yielded {item : SseItem} : (s.yielded i item).broker = s.broker := by
  cases item <;> rfl

@[simp] theorem trail_withTrail : (s.withTrail i trail).trail i = trail :=
  Function.update_self ..

/-- A read makes its source the version last read. -/
theorem Trail.Follows.read_source (h : trail.Follows past) (hG : LabelsStand i r x past s)
    {a : SseAnswer} (hread : readOf a = some (some r)) (hlisted : listed a = none)
    (htaken : takenEvent a = none) (hlookup : lookupOf a = none) :
    ({ trail with read := s.source r } : Trail).Follows (past ++ [a]) where
  read r' hr' cr hcr := by
    obtain rfl : r = r' := by simpa [lastRead, hread] using hr'
    rw [AsListed, listing_append hlisted]
    exact ⟨hG cr hcr, fun ns name hr => key_of_source hcr hr⟩
  taken event hevent := h.taken event (by simpa [htaken] using hevent)
  lookup workspaceId ws hws := h.lookup workspaceId ws (by simpa [lastLookup, hlookup] using hws)

/-- The trail of the task that made the step. -/
theorem Trail.Follows.step (h : (s.trail i).Follows past) (hq : QueuesAttributed s)
    (hG : LabelsStand i r x past s) (hx : sseWorld.exec i r x s = some (a, s')) :
    (s'.trail i).Follows (past ++ [⟨r, a⟩]) := by
  simp only [sseWorld] at hx
  split at hx
  next =>
    have hsilent : Silent ⟨r, a⟩ → s'.trail i = s.trail i →
        (s'.trail i).Follows (past ++ [⟨r, a⟩]) := fun ha hs => hs ▸ h.silent ha
    cases r with
    | listClusters =>
      obtain ⟨rfl, rfl⟩ := Prod.mk.inj (Option.some.inj hx)
      exact ⟨fun r hr => by simp [lastRead, readOf] at hr,
        fun event hevent => h.taken event (by simpa [takenEvent] using hevent),
        fun id ws hws => h.lookup id ws (by simpa [lastLookup, lookupOf] using hws)⟩
    | getCluster ns name =>
      simp only [SseState.answer] at hx
      split at hx
      next cr hcr =>
        obtain ⟨rfl, rfl⟩ := Prod.mk.inj (Option.some.inj hx)
        rw [trail_withTrail, ← hcr]
        exact h.read_source hG rfl rfl rfl rfl
      next =>
        obtain ⟨rfl, rfl⟩ := Prod.mk.inj (Option.some.inj hx)
        exact h.silent silent_error
    | listEvents ns selector =>
      obtain ⟨rfl, rfl⟩ := Prod.mk.inj (Option.some.inj hx)
      rw [trail_withTrail]
      exact h.read_source hG rfl rfl rfl rfl
    | getWorkspace workspaceId =>
      simp only [SseState.answer] at hx
      split at hx
      next found hfound =>
        obtain ⟨rfl, rfl⟩ := Prod.mk.inj (Option.some.inj hx)
        rw [trail_withTrail]
        refine ⟨fun r hr cr hcr => ?_,
          fun event hevent => h.taken event (by simpa [takenEvent] using hevent),
          fun id ws hws => ?_⟩
        · rw [AsListed, listing_append rfl]
          exact h.read r (by rwa [lastRead_append rfl] at hr) cr hcr
        · obtain ⟨rfl, rfl⟩ : workspaceId = id ∧ found = ws := by
            simpa [lastLookup, lookupOf] using hws
          exact hfound
      next =>
        obtain ⟨rfl, rfl⟩ := Prod.mk.inj (Option.some.inj hx)
        exact hsilent silent_error rfl
    | queueGet subscriberId =>
      obtain ⟨⟨⟨event, source⟩, broker⟩, hnext, hx⟩ := Option.map_eq_some_iff.1 hx
      obtain ⟨rfl, rfl⟩ := Prod.mk.inj hx
      rw [trail_withTrail]
      refine ⟨fun r hr cr hcr => ?_, fun event' hevent => ?_, fun id ws hws => ?_⟩
      · rw [AsListed, listing_append rfl]
        exact h.read r (by rwa [lastRead_append rfl] at hr) cr hcr
      · obtain rfl : event = event' := by simpa [takenEvent] using hevent
        exact hq _ _ (EventBroker.queued_next hnext).1
      · simp [lastLookup, lookupOf] at hws
    | subscribe eventTypes =>
      simp only [SseState.answer] at hx
      split at hx <;> obtain ⟨rfl, rfl⟩ := Prod.mk.inj (Option.some.inj hx)
      next => exact hsilent ⟨rfl, rfl, rfl, rfl⟩ rfl
      next => exact hsilent silent_error rfl
    | «yield» item =>
      obtain ⟨rfl, rfl⟩ := Prod.mk.inj (Option.some.inj hx)
      exact hsilent ⟨rfl, rfl, rfl, rfl⟩ (by rw [trail_yielded])
    | now | sleep | isDisconnected | subscriberCount | unsubscribe _ | publish _ =>
      obtain ⟨rfl, rfl⟩ := Prod.mk.inj (Option.some.inj hx)
      exact hsilent ⟨rfl, rfl, rfl, rfl⟩ rfl
  next e _ =>
    obtain ⟨rfl, rfl⟩ := Prod.mk.inj (Option.some.inj hx)
    have htrail : (s.raised i r).trail = s.trail := by
      cases r <;> first | rfl | exact trail_yielded
    rw [htrail]
    exact h.silent silent_error

/-- Another task's trail. -/
theorem trail_exec_of_ne {j : ℕ} (hj : j ≠ i) (hx : sseWorld.exec i r x s = some (a, s')) :
    s'.trail j = s.trail j := by
  have hother : ∀ (s : SseState) (trail : Trail), (s.withTrail i trail).trail j = s.trail j :=
    fun s trail => Function.update_of_ne hj ..
  simp only [sseWorld] at hx
  split at hx
  next =>
    cases r with
    | getCluster ns name =>
      simp only [SseState.answer] at hx
      split at hx <;> obtain ⟨-, rfl⟩ := Prod.mk.inj (Option.some.inj hx)
      next => exact hother ..
      next => rfl
    | listEvents ns selector =>
      obtain ⟨-, rfl⟩ := Prod.mk.inj (Option.some.inj hx)
      exact hother ..
    | getWorkspace workspaceId =>
      simp only [SseState.answer] at hx
      split at hx <;> obtain ⟨-, rfl⟩ := Prod.mk.inj (Option.some.inj hx)
      next => exact hother ..
      next => rfl
    | queueGet subscriberId =>
      obtain ⟨_, -, hx⟩ := Option.map_eq_some_iff.1 hx
      obtain ⟨-, rfl⟩ := Prod.mk.inj hx
      exact hother ..
    | subscribe eventTypes =>
      simp only [SseState.answer] at hx
      split at hx <;> obtain ⟨-, rfl⟩ := Prod.mk.inj (Option.some.inj hx) <;> rfl
    | «yield» item =>
      obtain ⟨-, rfl⟩ := Prod.mk.inj (Option.some.inj hx)
      rw [trail_yielded]
    | listClusters | now | sleep | isDisconnected | subscriberCount | unsubscribe _ | publish _ =>
      obtain ⟨-, rfl⟩ := Prod.mk.inj (Option.some.inj hx)
      rfl
  next =>
    obtain ⟨-, rfl⟩ := Prod.mk.inj (Option.some.inj hx)
    cases r <;> first | rfl | rw [SseState.raised, trail_yielded]

/-- A stamped event is attributed to the version that was read last. -/
theorem attributed_of_stamped (h : trail.Follows past) {event : Envelope}
    (hstamped : Stamped past event) : Attributed event trail.read := by
  rintro - cr hcr
  obtain ⟨cluster, hcluster, ns, name, r, hkey, hws, hread, hr⟩ := hstamped
  obtain ⟨hlisted, hkey'⟩ := h.read r hread cr hcr
  obtain ⟨rfl, rfl⟩ := hkey' ns name hr
  exact Except.ok.inj (hws.symm.trans (hlisted cluster hcluster hkey))

/-- What waits in the queues after a publication. -/
theorem QueuesAttributed.publish (hq : QueuesAttributed s) {event : Envelope}
    {source : Option CustomResource} (h : Attributed event source) :
    QueuesAttributed { s with broker := s.broker.publish event.event (event, source) } := by
  intro event' source' hqueued
  rcases EventBroker.queued_publish hqueued with hqueued | hnew
  · exact hq _ _ hqueued
  · obtain ⟨rfl, rfl⟩ := Prod.mk.inj hnew
    exact h

theorem QueuesAttributed.of_broker (hq : QueuesAttributed s) (h : s'.broker = s.broker) :
    QueuesAttributed s' := by
  rwa [QueuesAttributed, h]

/-- The queues after a step. -/
theorem QueuesAttributed.step (hq : QueuesAttributed s) (h : (s.trail i).Follows past)
    {client : Option String} (hr : Conforms client r past)
    (hx : sseWorld.exec i r x s = some (a, s')) : QueuesAttributed s' := by
  simp only [sseWorld] at hx
  split at hx
  next =>
    cases r with
    | publish event =>
      obtain ⟨-, rfl⟩ := Prod.mk.inj (Option.some.inj hx)
      exact hq.publish (attributed_of_stamped h hr)
    | queueGet subscriberId =>
      obtain ⟨_, hnext, hx⟩ := Option.map_eq_some_iff.1 hx
      obtain ⟨-, rfl⟩ := Prod.mk.inj hx
      exact fun event source hqueued => hq _ _ ((EventBroker.queued_next hnext).2 _ hqueued)
    | subscribe eventTypes =>
      simp only [SseState.answer] at hx
      split at hx <;> obtain ⟨-, rfl⟩ := Prod.mk.inj (Option.some.inj hx)
      next broker hsub =>
        exact fun event source hqueued => hq _ _ (EventBroker.queued_subscribe hsub hqueued)
      next => exact hq
    | unsubscribe subscriberId =>
      obtain ⟨-, rfl⟩ := Prod.mk.inj (Option.some.inj hx)
      exact fun event source hqueued => hq _ _ (EventBroker.queued_unsubscribe hqueued)
    | getCluster _ _ | getWorkspace _ =>
      simp only [SseState.answer] at hx
      split at hx <;> obtain ⟨-, rfl⟩ := Prod.mk.inj (Option.some.inj hx) <;>
        exact hq.of_broker rfl
    | «yield» item =>
      obtain ⟨-, rfl⟩ := Prod.mk.inj (Option.some.inj hx)
      exact hq.of_broker broker_yielded
    | listClusters | listEvents _ _ | now | sleep | isDisconnected | subscriberCount =>
      obtain ⟨-, rfl⟩ := Prod.mk.inj (Option.some.inj hx)
      exact hq.of_broker rfl
  next =>
    obtain ⟨-, rfl⟩ := Prod.mk.inj (Option.some.inj hx)
    refine hq.of_broker ?_
    cases r <;> first | rfl | exact broker_yielded

variable {calls : List SseCall}

/-- What a stream yields may be delivered. -/
theorem DeliveriesVisible.yielded (hd : DeliveriesVisible calls s)
    (h : (s.trail i).Follows past) {item : SseItem}
    (hr : Conforms ((calls[i]?).bind SseCall.client) (.yield item) past) :
    DeliveriesVisible calls (s.yielded i item) := by
  cases item with
  | comment text => exact hd
  | event event data id retry =>
    obtain ⟨taken, htaken, rfl, hadmitted⟩ := hr
    intro d hmem callerOwnerId hclient
    rcases List.mem_append.1 hmem with hmem | hmem
    · exact hd d hmem callerOwnerId hclient
    obtain rfl := List.mem_singleton.1 hmem
    intro hscoped cr hcr
    have hpass := hadmitted hscoped callerOwnerId hclient
    rw [h.taken taken htaken hscoped cr hcr] at hpass
    cases hws : cr.workspaceId with
    | none =>
      rw [hws] at hpass
      exact decide_eq_true hpass
    | some workspaceId =>
      rw [hws] at hpass
      obtain ⟨ws, hlookup, howned⟩ := hpass
      rwa [crVisibleIn, visibleIn_of_ok (h.lookup workspaceId ws hlookup)]

/-- The deliveries after a step. -/
theorem DeliveriesVisible.step (hd : DeliveriesVisible calls s) (h : (s.trail i).Follows past)
    (hr : Conforms ((calls[i]?).bind SseCall.client) r past)
    (hx : sseWorld.exec i r x s = some (a, s')) : DeliveriesVisible calls s' := by
  have hkept : s'.delivered = s.delivered → DeliveriesVisible calls s' := fun hs => by
    rwa [DeliveriesVisible, hs]
  simp only [sseWorld] at hx
  split at hx
  next =>
    cases r with
    | «yield» item =>
      obtain ⟨-, rfl⟩ := Prod.mk.inj (Option.some.inj hx)
      exact hd.yielded h hr
    | queueGet subscriberId =>
      obtain ⟨_, -, hx⟩ := Option.map_eq_some_iff.1 hx
      obtain ⟨-, rfl⟩ := Prod.mk.inj hx
      exact hkept rfl
    | getCluster _ _ | getWorkspace _ | subscribe _ =>
      simp only [SseState.answer] at hx
      split at hx <;> obtain ⟨-, rfl⟩ := Prod.mk.inj (Option.some.inj hx) <;> exact hkept rfl
    | listClusters | listEvents _ _ | now | sleep | isDisconnected | subscriberCount
    | unsubscribe _ | publish _ =>
      obtain ⟨-, rfl⟩ := Prod.mk.inj (Option.some.inj hx)
      exact hkept rfl
  next =>
    obtain ⟨-, rfl⟩ := Prod.mk.inj (Option.some.inj hx)
    cases r with
    | «yield» item => exact hd.yielded h hr
    | _ => exact hd

end Steps

/-! ### Schedules -/

/-- A configuration of the collectors and the streams. -/
abbrev SseConfiguration : Type :=
  Config SseRequest SseRequest.Resp Exc (Option (ℕ × String)) SseState

/-- The programs are under way, and every delivery so far reached a client who may have it. -/
structure Streaming (calls : List SseCall) (c : SseConfiguration) : Prop where
  tracks : Tracks AnySseAnswer (fun i => Conforms ((calls[i]?).bind SseCall.client))
    (fun _ _ _ => True) (fun _ _ _ => True) c
  follows : ∀ (i : ℕ) (t : Task SseRequest SseRequest.Resp Exc (Option (ℕ × String))),
    c.tasks[i]? = some t → (c.shared.trail i).Follows t.past
  queues : QueuesAttributed c.shared
  deliveries : DeliveriesVisible calls c.shared

/-- The environment reads nothing, and queues nothing of a tenant's. -/
theorem env_step {e : SseEnv} {s s' : SseState} (h : e.step s = some s') :
    s'.trail = s.trail ∧ s'.delivered = s.delivered ∧
      (QueuesAttributed s → QueuesAttributed s') := by
  cases e with
  | publish event =>
    simp only [SseEnv.step] at h
    split at h
    next => cases h
    next hscoped =>
      obtain rfl := Option.some.inj h
      exact ⟨rfl, rfl, fun hq => hq.publish fun hscoped' => absurd hscoped' hscoped⟩
  | put _ | delete _ _ | tables _ =>
    obtain rfl := Option.some.inj h
    exact ⟨rfl, rfl, id⟩

theorem streaming_step {calls : List SseCall} {c c' : SseConfiguration} {e : Event Choice SseEnv}
    (h : Streaming calls c) (hG : Permits LabelsStand c e) (hstep : step sseWorld c e = some c') :
    Streaming calls c' where
  tracks := h.tracks.step (fun _ _ _ _ _ _ _ => trivial) hstep
  follows := by
    cases e with
    | task i x =>
      obtain ⟨r, k, past, a, s', hi, hx, rfl⟩ := step_task hstep
      rw [permits_task hi] at hG
      intro j t hj
      rcases getElem?_set_task hi hj with ⟨rfl, rfl⟩ | ⟨hji, hj⟩
      · exact (h.follows j _ hi).step h.queues hG hx
      · exact trail_exec_of_ne hji hx ▸ h.follows j t hj
    | env e =>
      obtain ⟨s', hs', rfl⟩ := step_env hstep
      exact (env_step hs').1 ▸ h.follows
  queues := by
    cases e with
    | task i x =>
      obtain ⟨r, k, past, a, s', hi, hx, rfl⟩ := step_task hstep
      exact h.queues.step (h.follows i _ hi) (h.tracks.request hi) hx
    | env e =>
      obtain ⟨s', hs', rfl⟩ := step_env hstep
      exact (env_step hs').2.2 h.queues
  deliveries := by
    cases e with
    | task i x =>
      obtain ⟨r, k, past, a, s', hi, hx, rfl⟩ := step_task hstep
      exact h.deliveries.step (h.follows i _ hi) (h.tracks.request hi) hx
    | env e =>
      obtain ⟨s', hs', rfl⟩ := step_env hstep
      rw [DeliveriesVisible, (env_step hs').2.1]
      exact h.deliveries

theorem streaming_start {calls : List SseCall} {s : SseState} (hqueues : QueuesAttributed s)
    (hdelivered : s.delivered = []) :
    Streaming calls (.start s (calls.map SseCall.program)) where
  tracks := tracks_start fun i p hp => by
    rw [List.getElem?_map] at hp
    obtain ⟨call, hcall, rfl⟩ := Option.map_eq_some_iff.1 hp
    rw [hcall]
    exact keeps_program call
  follows i t ht := by
    simp only [Config.start, List.getElem?_map, Option.map_eq_some_iff] at ht
    obtain ⟨p, -, rfl⟩ := ht
    exact .nil
  queues := hqueues
  deliveries d hd := nomatch hdelivered ▸ (show d ∈ s.delivered from hd)

/-- **Every event of a cluster is delivered to those alone who see the version of the CR its data
was read from, as long as no CR is relabelled between the listing of a cycle and a read of it.** -/
theorem deliveries_visible_of_labels_stand (calls : List SseCall) (s : SseState)
    (hbroker : s.broker.subscribers = []) (hdelivered : s.delivered = [])
    (es : List (Event Choice SseEnv))
    (hG : Guarded sseWorld LabelsStand (.start s (calls.map SseCall.program)) es) :
    Always sseWorld (fun c => DeliveriesVisible calls c.shared)
      (.start s (calls.map SseCall.program)) es := by
  have hqueues : QueuesAttributed s := by
    rintro event source ⟨p, hp, -⟩
    rw [hbroker] at hp
    cases hp
  exact (always_of_guarded (P := Streaming calls) (fun _ _ _ => streaming_step)
    (streaming_start hqueues hdelivered) hG).imp fun _ h => h.deliveries

/-- The cluster of a workspace. -/
def clusterOf (workspaceId : String) : CustomResource := .prodDb [(workspaceLabel, workspaceId)]

/-- Alice's cluster, and a workspace of hers and of bob's. -/
def alicesCluster : SseState where
  crs := [clusterOf "ws-alice"]
  tables :=
    { connections := .empty
      workspaces := ⟨[{ id := "ws-alice", name := "Alice", ownerId := "alice",
                        createdAt := "0", updatedAt := "0" },
                      { id := "ws-bob", name := "Bob", ownerId := "bob",
                        createdAt := "0", updatedAt := "0" }], by decide⟩
      setNotes := .empty
      recordNotes := .empty
      guides := .empty }

/-- One cycle of the collector, and alice at the stream. -/
def collectForAlice : List SseCall := [.collect {} 1, .stream {} "alice" none 1]

/-- Alice's cluster is read before it is relabelled. -/
theorem deliveries_visible_of_labels_stand_alice :
    Always sseWorld (fun c => DeliveriesVisible collectForAlice c.shared)
      (.start alicesCluster (collectForAlice.map SseCall.program))
      [.task 1 { uuid := "s1" }, .task 0 {}, .task 0 {}, .task 0 {}, .task 0 {}, .task 0 {},
        .task 0 {}, .env (.put (clusterOf "ws-bob")), .task 1 {}, .task 1 {}, .task 1 {},
        .task 1 {}] := by
  refine deliveries_visible_of_labels_stand collectForAlice alicesCluster rfl rfl _ ?_
  rintro _ ⟨⟩
  refine ⟨nofun, ?_⟩
  rintro _ ⟨⟩
  refine ⟨nofun, ?_⟩
  rintro _ ⟨⟩
  refine ⟨nofun, ?_⟩
  rintro _ ⟨⟩
  refine ⟨?_, ?_⟩
  · rintro cr ⟨⟩ cluster hcluster -
    obtain rfl := List.mem_singleton.1 hcluster
    rfl
  iterate 3
    rintro _ ⟨⟩
    refine ⟨nofun, ?_⟩
  rintro _ ⟨⟩
  refine ⟨trivial, ?_⟩
  iterate 4
    rintro _ ⟨⟩
    refine ⟨nofun, ?_⟩
  trivial

/-- The cluster is relabelled for bob between the listing and the read of its detail, and alice
receives bob's. -/
theorem relabelled_detail_delivered :
    ∃ c, run sseWorld (.start alicesCluster (collectForAlice.map SseCall.program))
      [.task 1 { uuid := "s1" }, .task 0 {}, .task 0 {}, .env (.put (clusterOf "ws-bob")),
        .task 0 {}, .task 0 {}, .task 0 {}, .task 0 {}, .task 1 {}, .task 1 {}, .task 1 {},
        .task 1 {}] = some c ∧ ¬ DeliveriesVisible collectForAlice c.shared := by
  refine ⟨_, rfl, fun h => ?_⟩
  have hvisible : crVisibleIn alicesCluster.tables "alice" (some "ws-bob") = true :=
    h _ List.mem_cons_self "alice" rfl rfl (clusterOf "ws-bob") rfl
  exact absurd hvisible (by decide)

end ClusterManager.Events
