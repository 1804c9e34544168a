import Mathlib.Algebra.Order.Ring.Nat
import Mathlib.Logic.Function.Basic
import ClusterManager.Lib.Trace

/-!
# The event stream of the browser

`subscribeEvents` keeps one `EventSource` open. A run is any order of what can happen in the tab:
a promise settles, a timer fires, a source opens or fails, the subscriber closes. Each of them runs
one stretch of the code (`Tab.step`); the clock counts milliseconds and does not go back.
-/

namespace ClusterManager.Ui

open Trace

/-- `RECONNECT_INITIAL_MS`. -/
def reconnectInitialMs : ℕ := 1000

/-- `RECONNECT_MAX_MS`. -/
def reconnectMaxMs : ℕ := 30000

/-! ### Tokens -/

/-- What `keycloak.updateToken` comes to, with the token the instance has then. It resolves too
where the token was still valid and nothing changed. -/
inductive UpdateToken
  | resolves (token : Option String)
  | rejects

/-- `refreshToken`, of the Keycloak instance if there is one. -/
def refreshToken : Option UpdateToken → Option String
  | some (.resolves token) => token
  | some .rejects => none
  | none => none

/-- A promise settles: `mintStreamTicket` gives a ticket or `null`, `refreshToken` what it makes of
Keycloak, or either throws. -/
inductive Settled
  | minted (ticket : Option String)
  | refreshed (keycloak : Option UpdateToken)
  | threw

/-- Whether a string is there and not empty. -/
def truthy (s : Option String) : Bool := (s.filter (· ≠ "")).isSome

/-! ### The tab -/

/-- `EventSource.readyState`. -/
inductive ReadyState
  | connecting
  | open
  | closed
  deriving DecidableEq

/-- What a stretch of the code awaits: `openConnection` its ticket, a token, or a ticket for the
new token; the error handler a token. -/
inductive Await
  | mint
  | refresh
  | remint
  | reauthorize
  deriving DecidableEq

/-- Why `openConnection` is called. -/
inductive Cause
  | initial
  | immediate
  | waited
  deriving DecidableEq

/-- What happened. -/
inductive Event
  /-- `openConnection` is called. -/
  | attempted (cause : Cause) (time : ℕ)
  | created (source : ℕ)
  | opened
  /-- The attempt under way failed: no ticket, or a source that is closed. -/
  | failed (time : ℕ)
  /-- The token refresh of the error handler gave a token. -/
  | reauthorized
  | closed
  deriving DecidableEq

/-- The variables of `subscribeEvents`, and beside them what the browser keeps: the state of each
`EventSource`, the timers that run with the time each is due, the promises that are awaited, the
clock, and what happened so far. -/
structure Tab where
  source : Option ℕ := none
  closed : Bool := false
  reconnectTimer : Option ℕ := none
  backoffMs : ℕ := reconnectInitialMs
  ready : ℕ → ReadyState := fun _ => .closed
  sources : ℕ := 0
  timers : List (ℕ × ℕ) := []
  timerIds : ℕ := 0
  awaiting : List Await := []
  clock : ℕ
  trace : List Event := []

namespace Tab

/-- An event happens. -/
def note (t : Tab) (e : Event) : Tab := { t with trace := t.trace ++ [e] }

/-- A promise is awaited. -/
def await (t : Tab) (a : Await) : Tab := { t with awaiting := t.awaiting ++ [a] }

/-- `scheduleReconnect`. -/
def scheduleReconnect (t : Tab) : Tab :=
  if t.closed then t
  else if t.reconnectTimer ≠ none then t
  else { t with
    backoffMs := min (t.backoffMs * 2) reconnectMaxMs
    timers := t.timers ++ [(t.timerIds, t.clock + t.backoffMs)]
    timerIds := t.timerIds + 1
    reconnectTimer := some t.timerIds }

/-- `source.close()`. -/
def closeSource (t : Tab) : Tab :=
  match t.source with
  | some source => { t with ready := Function.update t.ready source .closed }
  | none => t

/-- `new EventSource(url)` and its listeners. -/
def connect (t : Tab) : Tab :=
  { t with
    ready := Function.update t.ready t.sources .connecting
    source := some t.sources
    sources := t.sources + 1 }.note (.created t.sources)

/-- `openConnection` up to its first await. -/
def openConnection (t : Tab) (cause : Cause) (hasToken : Bool) : Tab :=
  let t := t.note (.attempted cause t.clock)
  if t.closed then t
  else
    let t := { t.closeSource with source := none }
    if hasToken then t.await .mint else t.connect

/-- `openConnection` from its last await on, with the ticket if there is one. -/
def ticketed (t : Tab) (ticket : Option String) : Tab :=
  if t.closed then t
  else if truthy ticket then t.connect
  else (t.note (.failed t.clock)).scheduleReconnect

/-- A promise settles; `none` where it cannot settle so. -/
def settle (t : Tab) (result : Settled) (hasToken : Bool) : Await → Option Tab
  | .mint =>
      match result with
      | .minted ticket =>
          some (if !truthy ticket && !t.closed then t.await .refresh else t.ticketed ticket)
      | .threw => some (t.ticketed none)
      | .refreshed _ => none
  | .refresh =>
      match result with
      | .refreshed keycloak =>
          some (if truthy (refreshToken keycloak) && !t.closed then t.await .remint
            else t.ticketed none)
      | .threw => some (t.ticketed none)
      | .minted _ => none
  | .remint =>
      match result with
      | .minted ticket => some (t.ticketed ticket)
      | .threw => some (t.ticketed none)
      | .refreshed _ => none
  | .reauthorize =>
      match result with
      | .refreshed keycloak =>
          some (if t.closed then t
            else if truthy (refreshToken keycloak) then
              ({ t with backoffMs := reconnectInitialMs }.note .reauthorized).openConnection
                .immediate hasToken
            else t.scheduleReconnect)
      | .threw => some (if t.closed then t else t.scheduleReconnect)
      | .minted _ => none

/-- The `open` event. -/
def sourceOpened (t : Tab) (source : ℕ) : Tab :=
  { t with
    ready := Function.update t.ready source .open
    backoffMs := reconnectInitialMs }.note .opened

/-- The `error` event of a source that the browser reconnects, or of one that it has closed. -/
def sourceFailed (t : Tab) (source : ℕ) (fatal : Bool) : Tab :=
  if fatal then
    let t := { t with ready := Function.update t.ready source .closed }
    if t.closed then t else (t.note (.failed t.clock)).await .reauthorize
  else { t with ready := Function.update t.ready source .connecting }

/-- `close`. -/
def close (t : Tab) : Tab :=
  let t := { t with closed := true }
  let t := match t.reconnectTimer with
    | some id => { t with timers := t.timers.filter (·.1 ≠ id), reconnectTimer := none }
    | none => t
  t.closeSource.note .closed

end Tab

/-! ### Runs -/

/-- What can happen next. Where a stretch calls `openConnection` it finds an access token in the
store or does not. -/
inductive Action
  | settle (i : ℕ) (result : Settled) (hasToken : Bool)
  | timer (id : ℕ) (hasToken : Bool)
  | opened (source : ℕ)
  | failed (source : ℕ) (fatal : Bool)
  | close

namespace Tab

/-- One stretch; `none` is one that cannot be: the clock does not go back, a timer does not fire
before it is due, and nothing is heard of a closed source. -/
def step (t : Tab) (now : ℕ) (action : Action) : Option Tab :=
  if now < t.clock then none
  else
    let t := { t with clock := now }
    match action with
    | .settle i result hasToken =>
        (t.awaiting[i]?).bind fun a =>
          { t with awaiting := t.awaiting.eraseIdx i }.settle result hasToken a
    | .timer id hasToken =>
        match t.timers.find? (·.1 = id) with
        | some timer =>
            if timer.2 ≤ now then
              some ({ t with
                timers := t.timers.filter (·.1 ≠ id)
                reconnectTimer := none }.openConnection .waited hasToken)
            else none
        | none => none
    | .opened source =>
        if t.ready source = .connecting then some (t.sourceOpened source) else none
    | .failed source fatal =>
        if t.ready source = .closed then none else some (t.sourceFailed source fatal)
    | .close => some t.close

/-- A run. -/
def run (t : Tab) : List (ℕ × Action) → Option Tab
  | [] => some t
  | (now, action) :: actions => (t.step now action).bind fun t => run t actions

/-- `subscribeEvents`. -/
def subscribe (hasToken : Bool) (now : ℕ) : Tab :=
  { clock := now : Tab }.openConnection .initial hasToken

end Tab

end ClusterManager.Ui
