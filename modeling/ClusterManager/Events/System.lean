import Mathlib.Data.List.Basic
import ClusterManager.Events.Stream
import ClusterManager.Lib.Interleaving

/-!
# Collectors, streams and clusters at once

The system that the programs of the event stream run in: the CRs, which others create, relabel and
delete, the workspaces and the broker. Every event on its way is kept beside the version of the CR
its data was read from (`Trail`, `Delivery`), which no program sees.
-/

namespace ClusterManager.Events

open Db K8s Interleaving

/-- An answered request of a collector or a stream. -/
abbrev SseAnswer : Type := Answer SseRequest SseRequest.Resp Exc

/-! ### The system -/

/-- What the requests of a task were last answered from. -/
structure Trail where
  /-- The version of a CR a collector last read. -/
  read : Option CustomResource := none
  /-- The version of a CR the event a stream last took was read from. -/
  taken : Option CustomResource := none
  /-- The tables the visibility filter of a stream last looked at. -/
  tables : Tables

/-- An event a stream has yielded. -/
structure Delivery where
  task : ℕ
  event : String
  data : Json
  source : Option CustomResource
  tables : Tables

/-- The CRs, those deleted, the workspaces and the broker. Each event waits beside the version of
the CR its data was read from. -/
structure SseState where
  crs : List CustomResource
  deleted : List CustomResource := []
  tables : Tables
  broker : EventBroker (Envelope × Option CustomResource) 256 := {}
  trail : ℕ → Trail := fun _ => { tables }
  delivered : List Delivery := []

/-- What a request is answered besides the state: an exception, or what nobody here decides. -/
structure Choice where
  fault : Option Exc := none
  events : List Json := []
  time : ℕ := 0
  disconnected : Bool := false
  uuid : String := ""

namespace SseState

/-- The version of the CR that a request is answered from. The events of a cluster outlive it. -/
def source (s : SseState) : SseRequest → Option CustomResource
  | .getCluster ns name => s.crs.find? fun cr => cr.namespace_ = ns ∧ cr.name = name
  | .listEvents ns selector =>
      (s.crs ++ s.deleted).find? fun cr => cr.namespace_ = ns ∧ fieldSelector cr.name = selector
  | _ => none

/-- Replace the trail of a task. -/
def withTrail (s : SseState) (i : ℕ) (trail : Trail) : SseState :=
  { s with trail := Function.update s.trail i trail }

/-- A stream yields an item. -/
def yielded (s : SseState) (i : ℕ) : SseItem → SseState
  | .event event data _ _ => { s with
      delivered := s.delivered ++ [⟨i, event, data, (s.trail i).taken, (s.trail i).tables⟩] }
  | .comment _ => s

/-- A request that is answered. -/
def answer (s : SseState) (i : ℕ) (x : Choice) :
    (r : SseRequest) → Option (Except Exc r.Resp × SseState)
  | .listClusters => some (.ok (s.crs.map CustomResource.json, none), s)
  | .getCluster ns name =>
      match s.source (.getCluster ns name) with
      | some cr => some (.ok cr.json, s.withTrail i { s.trail i with read := some cr })
      | none => some (.error (.k8sApi 404 "Not Found" ""), s)
  | .listEvents ns selector => some (.ok x.events,
      s.withTrail i { s.trail i with read := s.source (.listEvents ns selector) })
  | .getWorkspace workspaceId =>
      match Db.getWorkspace workspaceId s.tables with
      | .ok ws => some (.ok ws, s.withTrail i { s.trail i with tables := s.tables })
      | .error e => some (.error e, s)
  | .now => some (.ok x.time, s)
  | .sleep => some (.ok (), s)
  | .isDisconnected => some (.ok x.disconnected, s)
  | .subscriberCount => some (.ok s.broker.subscribers.length, s)
  | .subscribe eventTypes =>
      match s.broker.subscribe x.uuid eventTypes with
      | some broker => some (.ok x.uuid, { s with broker })
      | none => some (.error connectionError, s)
  | .unsubscribe subscriberId =>
      some (.ok (), { s with broker := s.broker.unsubscribe subscriberId })
  | .publish event => some (.ok (),
      { s with broker := s.broker.publish event.event (event, (s.trail i).read) })
  | .queueGet subscriberId =>
      (s.broker.next subscriberId).map fun ((event, source), broker) =>
        (.ok event, { s with broker }.withTrail i
          { s.trail i with taken := source, tables := s.tables })
  | .yield item => some (.ok (), s.yielded i item)

/-- A request that raises; what a stream yields is on the wire all the same. -/
def raised (s : SseState) (i : ℕ) : SseRequest → SseState
  | .yield item => s.yielded i item
  | _ => s

end SseState

/-- What happens beside the collectors and the streams. -/
inductive SseEnv
  /-- A CR is created, edited or relabelled. -/
  | put (cr : CustomResource)
  | delete (namespace_ name : String)
  /-- The workspaces change. -/
  | tables (t : Tables)
  /-- Another loop publishes. -/
  | publish (event : Envelope)

/-- A step of the environment. -/
def SseEnv.step : SseEnv → SseState → Option SseState
  | .put cr, s => some { s with
      crs := cr :: s.crs.filter fun cr' =>
        ¬ (cr'.namespace_ = cr.namespace_ ∧ cr'.name = cr.name) }
  | .delete namespace_ name, s => some { s with
      crs := s.crs.filter fun cr => ¬ (cr.namespace_ = namespace_ ∧ cr.name = name)
      deleted := (s.crs.filter fun cr => cr.namespace_ = namespace_ ∧ cr.name = name)
        ++ s.deleted }
  | .tables t, s => some { s with tables := t }
  | .publish event, s =>
      if ownerScoped event.event then none
      else some { s with broker := s.broker.publish event.event (event, none) }

/-- The system. -/
def sseWorld : World SseRequest SseRequest.Resp Exc Choice SseEnv SseState where
  exec i r x s :=
    match x.fault with
    | none => s.answer i x r
    | some e => some (.error e, s.raised i r)
  env := SseEnv.step

/-- The programs in flight. -/
inductive SseCall
  | collect (config : SseConfig) (rounds : ℕ)
  | stream (config : SseConfig) (callerOwnerId : String) (types : Option String) (rounds : ℕ)

/-- The program of each. -/
def SseCall.program : SseCall → SseProgram (Option (ℕ × String))
  | .collect config rounds => do
      collectK8s config rounds
      return none
  | .stream config callerOwnerId types rounds => eventStream config callerOwnerId types rounds

/-- Whom a stream delivers to. -/
def SseCall.client : SseCall → Option String
  | .collect _ _ => none
  | .stream _ callerOwnerId _ _ => some callerOwnerId

/-- The event of a tenant's cluster reaches a client who sees the version it was read from. -/
def Delivery.Visible (d : Delivery) (callerOwnerId : String) : Prop :=
  ownerScoped d.event = true → ∀ cr ∈ d.source,
    crVisibleIn d.tables callerOwnerId cr.workspaceId = true

/-- Every delivery reached a client who may have it. -/
def DeliveriesVisible (calls : List SseCall) (s : SseState) : Prop :=
  ∀ d ∈ s.delivered, ∀ callerOwnerId ∈ (calls[d.task]?).bind SseCall.client,
    d.Visible callerOwnerId

/-! ### What a task was answered -/

/-- A listing. -/
def listed : SseAnswer → Option (List Json)
  | ⟨.listClusters, .ok (clusters, _)⟩ => some clusters
  | _ => none

/-- A read of a cluster; a listing makes the reads before it void. -/
def readOf : SseAnswer → Option (Option SseRequest)
  | ⟨.listClusters, .ok _⟩ => some none
  | ⟨.getCluster ns name, .ok _⟩ => some (some (.getCluster ns name))
  | ⟨.listEvents ns selector, .ok _⟩ => some (some (.listEvents ns selector))
  | _ => none

/-- An event taken from the queue. -/
def takenEvent : SseAnswer → Option Envelope
  | ⟨.queueGet _, .ok event⟩ => some event
  | _ => none

/-- A lookup of a workspace; an event makes the lookups before it void. -/
def lookupOf : SseAnswer → Option (Option (String × Option Workspace))
  | ⟨.queueGet _, .ok _⟩ => some none
  | ⟨.getWorkspace workspaceId, .ok ws⟩ => some (some (workspaceId, ws))
  | _ => none

/-- The last listing. -/
def listing (past : List SseAnswer) : List Json := (latest listed past).getD []

/-- The last read since the listing. -/
def lastRead (past : List SseAnswer) : Option SseRequest := (latest readOf past).join

/-- The last lookup for the event last taken. -/
def lastLookup (past : List SseAnswer) : Option (String × Option Workspace) :=
  (latest lookupOf past).join

/-- A CR carries the label it was listed with. -/
def AsListed (past : List SseAnswer) (cr : CustomResource) : Prop :=
  ∀ cluster ∈ listing past, clusterKey cluster = .ok (some (cr.namespace_, cr.name)) →
    crWorkspaceId cluster = .ok cr.workspaceId

/-- The condition: a CR that is read carries the label it was listed with. -/
def LabelsStand : Guard SseRequest SseRequest.Resp Exc Choice SseState :=
  fun _ r _ past s => ∀ cr ∈ s.source r, AsListed past cr

end ClusterManager.Events
