import ClusterManager.Lib.Interleaving
import ClusterManager.Lib.KeyedLocks
import ClusterManager.Lib.Numerals
import ClusterManager.Services.Connections

/-!
# The client manager

`ClientManager` caches one `AsyncClient` for each session and connection. Every call is a program
over the statements between its awaits; at an await it may be cancelled, and anything else may
happen meanwhile. A client is the number of its construction, and the pool keeps how often
`close()` was called on each.
-/

namespace ClusterManager.Clients

open Db Interleaving Numerals Services

/-- `_CacheKey`: the session, `none` on the REST path, and the connection. -/
abbrev CacheKey : Type := Option String × String

/-! ### What a client is built from -/

/-- `config.AS_TEND_INTERVAL`, and the target gate. -/
structure Settings where
  tendInterval : ℕ := 1000
  assertTargetsAllowed : TargetGate

/-- `parse_host_port`. -/
def parseHostPort (hostStr : Str) (defaultPort : ℤ) : Str × ℤ :=
  match hostStr with
  | '[' :: rest =>
      let (host, _, portStr) := Str.partition ']' rest
      match portStr with
      | ':' :: port => (host, (parseInt port).getD defaultPort)
      | _ => (host, defaultPort)
  | _ =>
      if hostStr.count ':' ≥ 2 then (hostStr, defaultPort)
      else
        -- the last colon is the only one
        match Str.partition ':' hostStr with
        | (host, true, port) => (host, (parseInt port).getD defaultPort)
        | _ => (hostStr, defaultPort)

/-- `as_config`. -/
structure ClientConfig where
  hosts : List (String × ℤ)
  tendInterval : ℕ
  /-- `user` and `password`. -/
  credentials : Option (String × String)

/-- The configuration of a profile: credentials only where both are given. -/
def clientConfig (settings : Settings) (profile : ConnectionProfile) : ClientConfig where
  hosts := profile.hosts.map fun h =>
    let (host, port) := parseHostPort h.toList profile.port
    (String.ofList host, port)
  tendInterval := settings.tendInterval
  credentials :=
    match profile.username, profile.password with
    | some username, some password =>
        if username ≠ "" ∧ password ≠ "" then some (username, password) else none
    | _, _ => none

/-- `_metric_attrs`. -/
def metricAttrs (key : CacheKey) : Dict String String :=
  [("asm.connection.id", key.2), ("asm.session.id", key.1.getD "rest")]

/-! ### Statements -/

/-- What `_logged_close` is told of a close. -/
inductive CloseReason
  /-- "cleanup after a failed connect". -/
  | cleanup
  /-- "replacing a stale cached client". -/
  | replacing
  | closeClient
  | closeSession (sessionId : String)
  /-- "close_all (shutdown)". -/
  | closeAll
  deriving DecidableEq

/-- What a call does between its awaits. -/
inductive PoolOp
  | acquireGlobal
  | releaseGlobal
  /-- The body of `_get_conn_lock`. -/
  | lockOf (key : CacheKey)
  | acquire (lock : ℕ)
  | release (lock : ℕ)
  /-- `self._clients.get(key)`. -/
  | cached (key : CacheKey)
  | isConnected (client : ℕ)
  | db (r : DbOp)
  /-- `AsyncClient(as_config)`. -/
  | construct (key : CacheKey) (config : ClientConfig)
  | connect (client : ℕ)
  | close (client : ℕ) (reason : CloseReason)
  /-- `self._clients[key] = client`. -/
  | publish (key : CacheKey) (client : ℕ)
  /-- `self._clients.pop(key, None)`. -/
  | popClient (key : CacheKey)
  /-- `info_cache.invalidate_connection`. -/
  | invalidateInfo (connId : String)
  /-- `info_cache.clear`. -/
  | clearInfo
  /-- The body of `close_session` under the global lock. -/
  | popSession (sessionId : String)
  /-- The body of `close_all` under the global lock. -/
  | popAll
  /-- `active_aerospike_connections.add`. -/
  | addGauge (n : ℤ) (attributes : Dict String String)

/-- What each statement returns. -/
abbrev PoolOp.Resp : PoolOp → Type
  | .lockOf _ => ℕ
  | .cached _ => Option ℕ
  | .isConnected _ => Bool
  | .db r => r.Resp
  | .construct _ _ => ℕ
  | .popClient _ => Option ℕ
  | .popSession _ => Dict CacheKey ℕ
  | .popAll => Dict CacheKey ℕ
  | _ => Unit

/-- The programs over these statements. -/
abbrev PoolProgram (α : Type) : Type := Coroutine PoolOp PoolOp.Resp Exc α

/-- One statement. -/
abbrev op (r : PoolOp) : PoolProgram r.Resp := Coroutine.call r

/-- `(AerospikeError, OSError)`. -/
def isCloseFailure (e : Exc) : Bool := e = .other "AerospikeError" ∨ e = .other "OSError"

/-- A `close` under `_logged_close`. -/
def loggedClose (client : ℕ) (reason : CloseReason) : PoolProgram Unit :=
  (op (.close client reason)).tryCatch fun e =>
    if isCloseFailure e then return () else throw e

/-! ### Calls -/

/-- `_get_conn_lock`. -/
def getConnLock (key : CacheKey) : PoolProgram ℕ := do
  op .acquireGlobal
  (op (.lockOf key)).tryFinally (op .releaseGlobal)

/-- Return the cached client if it is connected, else go on. -/
def connectedOr (key : CacheKey) (build : PoolProgram ℕ) : PoolProgram ℕ := do
  match ← op (.cached key) with
  | none => build
  | some client =>
      let connected ← op (.isConnected client)
      if connected then return client else build

/-- The error of `get_client` where there is no profile. -/
def profileNotFound (connId : String) : Exc :=
  .other ("ValueError: Connection profile '" ++ connId ++ "' not found")

/-- `client.connect()`, with the half-open client closed when it raises. -/
def connectOrClose (client : ℕ) : PoolProgram Unit :=
  (op (.connect client)).tryCatch fun e => do
    loggedClose client .cleanup
    throw e

/-- The part of `get_client` that builds a client from the stored profile. -/
def buildClient (settings : Settings) (key : CacheKey) : PoolProgram ℕ := do
  match ← op (.db (.getConnection key.2)) with
  | none => throw (profileNotFound key.2)
  | some profile =>
      Coroutine.lift (settings.assertTargetsAllowed profile.hosts profile.port)
      let client ← op (.construct key (clientConfig settings profile))
      connectOrClose client
      return client

/-- The part of `get_client` that closes a stale client. -/
def closeStale (key : CacheKey) : PoolProgram Unit := do
  match ← op (.cached key) with
  | none => return ()
  | some old =>
      loggedClose old .replacing
      op (.addGauge (-1) (metricAttrs key))

/-- `get_client`. -/
def getClient (settings : Settings) (key : CacheKey) : PoolProgram ℕ := do
  let lock ← getConnLock key
  op (.acquire lock)
  Coroutine.tryFinally (connectedOr key do
      let client ← buildClient settings key
      closeStale key
      op (.publish key client)
      op (.addGauge 1 (metricAttrs key))
      return client)
    (op (.release lock))

/-- The part of `close_client` for a client that was cached. -/
def closePopped (key : CacheKey) : Option ℕ → PoolProgram Unit
  | none => return ()
  | some client => do
      loggedClose client .closeClient
      op (.addGauge (-1) (metricAttrs key))

/-- `close_client`. -/
def closeClient (key : CacheKey) : PoolProgram Unit := do
  let lock ← getConnLock key
  op (.acquire lock)
  Coroutine.tryFinally (do
      let client ← op (.popClient key)
      op (.invalidateInfo key.2)
      closePopped key client)
    (op (.release lock))

/-- The loop of `close_session`. -/
def closeSessionClients (sessionId : String) : Dict CacheKey ℕ → PoolProgram Unit
  | [] => return ()
  | (key, client) :: rest => do
      op (.invalidateInfo key.2)
      loggedClose client (.closeSession sessionId)
      op (.addGauge (-1) [("asm.connection.id", key.2), ("asm.session.id", sessionId)])
      closeSessionClients sessionId rest

/-- `close_session`. -/
def closeSession : Option String → PoolProgram Unit
  | none => throw (.other ("ValueError: close_session requires a non-None session id; "
      ++ "use close_client/close_all instead"))
  | some sessionId => do
      op .acquireGlobal
      let popped ← (op (.popSession sessionId)).tryFinally (op .releaseGlobal)
      closeSessionClients sessionId popped

/-- The loop of `close_all`. -/
def closeAllClients : Dict CacheKey ℕ → PoolProgram Unit
  | [] => return ()
  | (_, client) :: rest => do
      loggedClose client .closeAll
      closeAllClients rest

/-- `close_all`. -/
def closeAll : PoolProgram Unit := do
  op .clearInfo
  op .acquireGlobal
  let popped ← (op .popAll).tryFinally (op .releaseGlobal)
  closeAllClients popped
  if popped.length ≠ 0 then op (.addGauge (-popped.length) []) else return ()

/-- A call of the manager. -/
inductive Call
  | getClient (key : CacheKey)
  | closeClient (key : CacheKey)
  | closeSession (sessionId : Option String)
  | closeAll

/-- `close_session` and `close_all` evict without the locks of the keys. -/
def Call.evictsInBulk : Call → Bool
  | .closeSession _ | .closeAll => true
  | _ => false

/-- The program of a call, and the client it returns if it is a `get_client`. -/
def Call.program (settings : Settings) : Call → PoolProgram (Option ℕ)
  | .getClient key => do return some (← Clients.getClient settings key)
  | .closeClient key => do
      Clients.closeClient key
      return none
  | .closeSession sessionId => do
      Clients.closeSession sessionId
      return none
  | .closeAll => do
      Clients.closeAll
      return none

/-! ### The pool -/

/-- An `AsyncClient`, how often it was closed, and how many writes its profile was read after. -/
structure Client where
  key : CacheKey
  config : ClientConfig
  closes : ℕ := 0
  readAt : ℕ

/-- The client with one more `close()`. -/
def Client.closedOnce (c : Client) : Client := { c with closes := c.closes + 1 }

/-- The pool, the tables behind it, and what the model keeps of both: every client constructed,
the writes of profiles so far, how many there had been when a call last read or wrote one, and
when a key was last evicted. -/
structure Pool where
  tables : Tables
  clients : Dict CacheKey ℕ := []
  locks : KeyedLocks CacheKey := {}
  globalLocked : Bool := false
  /-- The total of `active_aerospike_connections` over all attributes. -/
  gauge : ℤ := 0
  objects : List Client := []
  writes : ℕ := 0
  readAt : ℕ → ℕ := fun _ => 0
  wroteAt : ℕ → ℕ := fun _ => 0
  floor : CacheKey → ℕ := fun _ => 0

/-- How an await ends: it returns (`connected` is what `is_connected` says), or it raises. -/
inductive Outcome
  | returns (connected : Bool)
  | raises (e : Exc)
  deriving DecidableEq

namespace Pool

/-- `close()` was called on a client. -/
def closed (client : ℕ) (s : Pool) : Pool :=
  { s with objects := s.objects.modify client Client.closedOnce }

/-- The call that wrote a profile, if this one did. -/
def wrote : (r : DbOp) → Except Exc r.Resp → Bool
  | .updateConnection _ _ _ _, .ok (some _) => true
  | .deleteConnection _, .ok _ => true
  | _, _ => false

/-- The effect of a call into the `db` module. -/
def dbCall (rt : Runtime) (i : ℕ) (r : DbOp) (s : Pool) : Except Exc r.Resp × Pool :=
  let result := r.exec rt s.tables
  (result.1, if wrote r result.1 then
      { s with tables := result.2, writes := s.writes + 1,
               wroteAt := Function.update s.wroteAt i (s.writes + 1) }
    else { s with tables := result.2, readAt := Function.update s.readAt i s.writes })

/-- A statement of the `i`-th call returns, or the `db` module raises. `none`: not now. -/
def answer (rt : Runtime) (i : ℕ) (r : PoolOp) (connected : Bool) (s : Pool) :
    Option (Except Exc r.Resp × Pool) :=
  match r with
  | .acquireGlobal =>
    if s.globalLocked then none else some (.ok (), { s with globalLocked := true })
  | .releaseGlobal => some (.ok (), { s with globalLocked := false })
  | .lockOf key =>
      some (.ok (s.locks.obtain i key).1, { s with locks := (s.locks.obtain i key).2 })
  | .acquire lock => (s.locks.acquire i lock).map fun locks => (.ok (), { s with locks })
  | .release lock => some (.ok (), { s with locks := s.locks.release i lock })
  | .cached key => some (.ok (s.clients.get? key), s)
  | .isConnected _ => some (.ok connected, s)
  | .db r => some (s.dbCall rt i r)
  | .construct key config =>
      some (.ok s.objects.length,
        { s with objects := s.objects ++ [{ key, config, readAt := s.readAt i }] })
  | .connect _ => some (.ok (), s)
  | .close client _ => some (.ok (), s.closed client)
  | .publish key client => some (.ok (), { s with clients := s.clients.set key client })
  | .popClient key =>
      some (.ok (s.clients.get? key),
        { s with clients := s.clients.erase key, floor := Function.update s.floor key s.writes })
  | .invalidateInfo _ => some (.ok (), s)
  | .clearInfo => some (.ok (), s)
  | .popSession sessionId =>
      some (.ok (s.clients.filter fun entry => entry.1.1 = some sessionId),
        { s with clients := s.clients.filter fun entry => !(entry.1.1 = some sessionId : Bool)
                 locks := s.locks.drop fun key =>
                   key.1 = some sessionId ∧ (s.clients.get? key).isSome })
  | .popAll => some (.ok s.clients, { s with clients := [], locks := s.locks.drop fun _ => true })
  | .addGauge n _ => some (.ok (), { s with gauge := s.gauge + n })

/-- A statement of the `i`-th call raises. `none`: this one cannot. -/
def raise (i : ℕ) (r : PoolOp) (e : Exc) (s : Pool) : Option Pool :=
  match r with
  | .acquire lock => if e = .cancelled then some { s with locks := s.locks.giveUp i lock } else none
  | .acquireGlobal | .invalidateInfo _ | .clearInfo => if e = .cancelled then some s else none
  | .db _ | .construct _ _ | .connect _ => some s
  | .close client _ => some (s.closed client)
  | _ => none

/-- One statement of the `i`-th call. -/
def exec (rt : Runtime) (i : ℕ) (r : PoolOp) (outcome : Outcome) (s : Pool) :
    Option (Except Exc r.Resp × Pool) :=
  match outcome with
  | .returns connected => s.answer rt i r connected
  | .raises e => (s.raise i r e).map fun s => (.error e, s)

end Pool

/-- The calls of the manager over time. A step of the environment is any write to the tables. -/
def world (rt : Runtime) : World PoolOp PoolOp.Resp Exc Outcome Tables Pool where
  exec := Pool.exec rt
  env tables s := some { s with tables }

/-- The calls before their first step, over a pool without clients. -/
def start (settings : Settings) (tables : Tables) (calls : List Call) :
    Config PoolOp PoolOp.Resp Exc (Option ℕ) Pool :=
  .start { tables } (calls.map (Call.program settings))

/-! ### One connection -/

/-- A connection to one host. -/
def oneHost : ConnectionRow where
  id := "c"
  name := "c"
  hosts := ["h:3000"]
  port := 3000
  clusterName := none
  username := none
  password := none
  color := "#0097D3"
  note := none
  labels := none
  workspaceId := some defaultWorkspaceId
  createdAt := "0"
  updatedAt := "0"

/-- The tables with this connection alone. -/
def oneConnection : Tables where
  connections := .singleton oneHost
  workspaces := .empty
  setNotes := .empty
  recordNotes := .empty
  guides := .empty

/-- Every target is allowed. -/
def openSettings : Settings where
  assertTargetsAllowed _ _ := .ok ()

/-- The slot of the connection on the REST path. -/
def restKey : CacheKey := (none, "c")

/-- So many statements of a call return, and no client is connected. -/
abbrev returns {η : Type} (i n : ℕ) : List (Event Outcome η) :=
  List.replicate n (.task i (.returns false))

end ClusterManager.Clients
