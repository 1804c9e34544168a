import ClusterManager.Events.Broker
import ClusterManager.K8s.Service
import ClusterManager.Text
import ClusterManager.WorkspaceAcl

/-!
# The collector and the event stream

One program publishes what it reads of the clusters (`collectK8sLoop`), one for each client takes
events from its queue and yields those the client may see (`eventStream`). Both loop for as long
as they are left to; here the number of rounds is a parameter.
-/

namespace ClusterManager.Events

open Db K8s

/-- `asyncio.TimeoutError`. -/
def timeoutError : Exc := .other "TimeoutError"

/-- `ConnectionError`. -/
def connectionError : Exc := .other "ConnectionError"

/-! ### Events -/

/-- What an event carries under `"data"`. -/
inductive EventData
  | detail (cr : Json)
  | events (namespace_ name : String) (events : List Json)
  | health (namespace_ name : String) (health : ClusterHealth)
  /-- The data of the other loops. -/
  | other (data : Json)

/-- `json.dumps(data)`, as a value. A response model is no JSON, so the health of a cluster is
refused. -/
def EventData.dumps : EventData → Except Exc Json
  | .detail cr => .ok cr
  | .events namespace_ name items => .ok (.obj
      [("namespace", .str namespace_), ("name", .str name), ("events", .arr items)])
  | .health _ _ _ => .error .typeError
  | .other data => .ok data

/-- The envelope of an event. -/
structure Envelope where
  event : String
  data : EventData
  id : String
  timestamp : ℕ
  workspaceId : Option String := none

/-- What the stream yields. -/
inductive SseItem
  | event (event : String) (data : Json) (id : String) (retry : ℕ)
  | comment (text : String)

/-- `_OWNER_SCOPED_EVENT_PREFIX`. -/
def ownerScopedEventPrefix : String := "k8s.cluster."

/-- Whether a type of event carries the objects of a tenant. -/
def ownerScoped (event : String) : Bool := ownerScopedEventPrefix.toList.isPrefixOf event.toList

/-! ### Requests -/

/-- What the programs await, and what they read of the broker and the clock. -/
inductive SseRequest
  | listClusters
  | getCluster (namespace_ name : String)
  | listEvents (namespace_ fieldSelector : String)
  | getWorkspace (workspaceId : String)
  /-- `int(time.time() * 1000)`. -/
  | now
  | sleep
  | isDisconnected
  | subscriberCount
  | subscribe (eventTypes : Option (List String))
  | unsubscribe (subscriberId : String)
  | publish (event : Envelope)
  /-- `queue.get()` of a subscriber, within the heartbeat interval. -/
  | queueGet (subscriberId : String)
  | yield (item : SseItem)

/-- What each returns. -/
abbrev SseRequest.Resp : SseRequest → Type
  | .listClusters => List Json × Option String
  | .getCluster _ _ => Json
  | .listEvents _ _ => List Json
  | .getWorkspace _ => Option Workspace
  | .now => ℕ
  | .isDisconnected => Bool
  | .subscriberCount => ℕ
  | .subscribe _ => String
  | .queueGet _ => Envelope
  | .sleep | .unsubscribe _ | .publish _ | .yield _ => Unit

/-- The programs of the event stream. -/
abbrev SseProgram (α : Type) : Type := Coroutine SseRequest SseRequest.Resp Exc α

/-- Await a request. -/
abbrev sse (r : SseRequest) : SseProgram r.Resp := Coroutine.call r

/-- The settings the programs read. -/
structure SseConfig where
  sseEnabled : Bool := true
  k8sManagementEnabled : Bool := true
  broadcastPerConnection : Bool := true

/-! ### The collector -/

/-- `try: … except Exception: logger.warning(…)`. -/
def logged (p : SseProgram Unit) : SseProgram Unit :=
  p.tryCatch fun e => if e.isException then return () else throw e

/-- The namespace and the name of a listed cluster, `none` where one is missing. One that is no
text, which the API server never sends, is refused here and not by the client. -/
def clusterKey (cluster : Json) : Except Exc (Option (String × String)) := do
  let metadata ← crMetadata cluster
  let ns := (← metadata.get "namespace" (.str "")).or (.str "")
  let name := (← metadata.get "name" (.str "")).or (.str "")
  match ns, name with
  | .str ns, .str name => return if ns = "" ∨ name = "" then none else some (ns, name)
  | _, _ => throw .typeError

/-- The field selector of the Kubernetes events of a cluster. -/
def fieldSelector (name : String) : String :=
  "involvedObject.name=" ++ name ++ ",involvedObject.kind=AerospikeCluster"

/-- Publish one event of a cluster, stamped with a workspace. -/
def publishStamped (event idPrefix ns name : String) (workspaceId : Option String)
    (data : EventData) : SseProgram Unit := do
  let idTime ← sse .now
  let timestamp ← sse .now
  sse (.publish {
    event, data, timestamp, workspaceId
    id := idPrefix ++ ns ++ "-" ++ name ++ "-" ++ toString idTime })

/-- The `k8s.cluster.detail` event. -/
def publishDetail (ns name : String) (workspaceId : Option String) : SseProgram Unit := do
  let detail ← sse (.getCluster ns name)
  publishStamped "k8s.cluster.detail" "k8s-detail-" ns name workspaceId (.detail detail)

/-- The `k8s.cluster.events` event. -/
def publishEvents (ns name : String) (workspaceId : Option String) : SseProgram Unit := do
  let events ← sse (.listEvents ns (fieldSelector name))
  publishStamped "k8s.cluster.events" "k8s-events-" ns name workspaceId (.events ns name events)

/-- The `k8s.cluster.health` event. -/
def publishClusterHealth (ns name : String) (workspaceId : Option String) : SseProgram Unit := do
  let cr ← sse (.getCluster ns name)
  let health ← Coroutine.lift (extractHealth cr)
  publishStamped "k8s.cluster.health" "k8s-health-" ns name workspaceId (.health ns name health)

/-- The body of the loop over the clusters. -/
def publishCluster (cluster : Json) : SseProgram Unit := do
  match ← Coroutine.lift (clusterKey cluster) with
  | none => return ()
  | some (ns, name) =>
      let workspaceId ← Coroutine.lift (crWorkspaceId cluster)
      logged (publishDetail ns name workspaceId)
      logged (publishEvents ns name workspaceId)
      logged (publishClusterHealth ns name workspaceId)

/-- The loop over the clusters. -/
def publishClusters : List Json → SseProgram Unit
  | [] => return ()
  | cluster :: clusters => do
      publishCluster cluster
      publishClusters clusters

/-- `_publish_k8s`. -/
def publishK8s (config : SseConfig) : SseProgram Unit := do
  if config.broadcastPerConnection then
    if (← sse .subscriberCount) = 0 then return ()
    else logged do
      let (clusters, _) ← sse .listClusters
      publishClusters clusters
  else return ()

/-- `_collect_k8s_loop`. -/
def collectK8sLoop (config : SseConfig) : ℕ → SseProgram Unit
  | 0 => return ()
  | rounds + 1 => do
      let go ← (do publishK8s config; return true : SseProgram Bool).tryCatch fun e =>
        if e = .cancelled then return false
        else if e.isException then return true
        else throw e
      if go then
        sse .sleep
        collectK8sLoop config rounds
      else return ()

/-- The task `EventCollector.start` creates for the clusters. -/
def collectK8s (config : SseConfig) (rounds : ℕ) : SseProgram Unit :=
  if config.k8sManagementEnabled then collectK8sLoop config rounds else return ()

/-! ### The stream -/

/-- `_is_event_visible`. -/
def isEventVisible (event : Envelope) (callerOwnerId : String) : SseProgram Bool :=
  if ownerScoped event.event then
    isCrVisible (fun workspaceId => sse (.getWorkspace workspaceId)) event.workspaceId
      callerOwnerId true
  else return true

/-- The `try` of `_event_generator`: an event, or a heartbeat. -/
def nextItem (callerOwnerId subscriberId : String) : SseProgram Unit :=
  Coroutine.tryCatch (do
      let event ← sse (.queueGet subscriberId)
      if ← isEventVisible event callerOwnerId then
        let data ← Coroutine.lift event.data.dumps
        sse (.yield (.event event.event data event.id 5000))
      else return ())
    fun e => do
      if e = timeoutError then
        let now ← sse .now
        sse (.yield (.comment ("ping " ++ toString now)))
      else throw e

/-- The loop of `_event_generator`. -/
def eventLoop (callerOwnerId subscriberId : String) : ℕ → SseProgram Unit
  | 0 => return ()
  | rounds + 1 => do
      if ← sse .isDisconnected then return ()
      else
        nextItem callerOwnerId subscriberId
        eventLoop callerOwnerId subscriberId rounds

/-- `_event_generator`. -/
def eventGenerator (callerOwnerId subscriberId : String) (rounds : ℕ) : SseProgram Unit :=
  (eventLoop callerOwnerId subscriberId rounds).tryFinally (sse (.unsubscribe subscriberId))

/-- `{t.strip() for t in types.split(",") if t.strip()}`, unless the query has no `types`. -/
def eventTypes (types : Option String) : Option (List String) :=
  (types.filter (· ≠ "")).map fun types =>
    (((types.toList.splitOn ',').map Str.strip).filter (· ≠ [])).map String.ofList

/-- `event_stream`: the status and detail of a refusal, or `none` after the stream. -/
def eventStream (config : SseConfig) (callerOwnerId : String) (types : Option String)
    (rounds : ℕ) : SseProgram (Option (ℕ × String)) := do
  if config.sseEnabled then
    let subscriberId ← (some <$> sse (.subscribe (eventTypes types))).tryCatch fun e =>
      if e = connectionError then return none else throw e
    match subscriberId with
    | some subscriberId =>
        eventGenerator callerOwnerId subscriberId rounds
        return none
    | none => return some (429, "Too many SSE connections")
  else return some (404, "SSE streaming is disabled")

end ClusterManager.Events
