import Mathlib.Data.Nat.Notation
import Mathlib.Logic.Function.Basic
import ClusterManager.Lib.Machine

/-!
# Requests to the API, and their tokens

Any number of `apiFetch` calls run next to each other. They share the access token, the flag that a
refresh is running, the Keycloak client, and the abort signals of their callers. The event stream
refreshes the token too. Answers come in any order, and between two `await`s of a call anything else
can happen.

`always_inv` says what every run keeps: a call sends its request twice at most and refreshes the
token once at most, and only requests in flight hold a timer or a listener. `refreshing_iff` says
along which runs the flag tells whether a refresh is running.
-/

namespace ClusterManager.Ui.ApiFetch

open Machine

/-- A string that is not empty. -/
def given (text : Option String) : Option String := text.filter (· ≠ "")

/-- The Keycloak client. -/
structure Keycloak where
  authenticated : Bool
  token : Option String

/-- A response. Without a body its text cannot be read. -/
structure Response where
  status : ℕ
  statusText : String
  isJson : Bool
  body : Option String

/-- What `apiFetch` throws or returns. `δ` are decoded JSON values. -/
inductive Outcome (δ : Type)
  | undefined
  | text (body : String)
  | json (value : δ)
  | apiError (status : ℕ) (message : String)
  /-- The error of `response.text()` or `response.json()` itself. -/
  | unreadable

/-- A decoded body: its value, and its `detail` where that is a string. -/
structure Decoded (δ : Type) where
  value : δ
  detail : Option String

variable {δ : Type} (decode : String → Option (Decoded δ))

/-- The end of `apiFetch`, once the response is not about the session any more. -/
def settle (r : Response) : Outcome δ :=
  if r.status = 204 then .undefined
  else if r.status = 202 then
    match r.body with
    | none => .unreadable
    | some body =>
        match decode body with
        | some decoded => .json decoded.value
        | none => .undefined
  else if ¬(200 ≤ r.status ∧ r.status ≤ 299) then
    let detail := if r.isJson then (r.body.bind decode).bind (·.detail) else none
    .apiError r.status
      ((given (some (detail.getD r.statusText))).getD ("HTTP " ++ toString r.status))
  else
    match r.body with
    | none => .unreadable
    | some body =>
        if r.isJson then
          match decode body with
          | some decoded => .json decoded.value
          | none => .unreadable
        else .text body

/-! ### The calls -/

/-- Where a call stands. -/
inductive Phase (δ : Type)
  /-- In `fetch`, for the first time or not: whether its timer still runs, and the signal its
  listener is on. -/
  | sending (first timer : Bool) (listening : Option ℕ)
  /-- In `import("@/lib/auth/keycloak")`. -/
  | importing
  /-- In `keycloak.updateToken`. -/
  | updating
  /-- `attemptTokenRefresh` has its result. -/
  | refreshed (newToken : Option String)
  | done (outcome : Outcome δ)

/-- A call of `apiFetch`: its url, the `Authorization` and the signal of its caller, and what it
did so far. -/
structure Call (δ : Type) where
  url : String
  authorization : Option String
  signal : Option ℕ
  /-- The tokens its requests were sent with. -/
  sent : List (Option String) := []
  refreshes : ℕ := 0
  phase : Phase δ

/-- What the calls share. -/
structure State (δ : Type) where
  accessToken : Option String := none
  refreshing : Bool := false
  keycloak : Option Keycloak := none
  /-- `getActiveApiUrl()`. -/
  apiUrl : Option String := none
  calls : List (Call δ) := []
  timers : ℕ := 0
  listeners : ℕ → ℕ := fun _ => 0
  aborted : ℕ → Bool := fun _ => false
  redirects : ℕ := 0
  /-- The calls of `refreshToken` that the event stream awaits. -/
  streamRefreshes : ℕ := 0

/-- The url of a call without a query: `API_PREFIX`, behind the url of the active cluster. -/
def buildUrl (path : String) (apiUrl : Option String) : String :=
  let base := if path.startsWith "/" then path else "/" ++ path
  let full := if base.startsWith "/api" then base else "/api" ++ base
  match given apiUrl with
  | some url => String.ofList (url.toList.reverse.dropWhile (· = '/')).reverse ++ full
  | none => full

namespace State

/-- `clear` of the auth store. -/
def clear (s : State δ) : State δ := { s with accessToken := none, refreshing := false }

/-- `syncTokenToStore`. -/
def syncTokenToStore (s : State δ) (kc : Keycloak) : State δ :=
  match kc.authenticated, given kc.token with
  | true, some token => { s with accessToken := some token }
  | _, _ => s.clear

/-- The signal that a request listens to. -/
def listeningTo (s : State δ) (c : Call δ) : Option ℕ := c.signal.filter fun sid => !s.aborted sid

/-- One listener more, or one less, on a signal. -/
def listen (s : State δ) (listening : Option ℕ) : ℕ → ℕ :=
  match listening with
  | some sid => Function.update s.listeners sid (s.listeners sid + 1)
  | none => s.listeners

def unlisten (s : State δ) (listening : Option ℕ) : ℕ → ℕ :=
  match listening with
  | some sid => Function.update s.listeners sid (s.listeners sid - 1)
  | none => s.listeners

/-- `executeRequest`, up to its `await`: the state, with the call to be put back. -/
def executeRequest (s : State δ) (c : Call δ) (first : Bool) : State δ × Call δ :=
  ({ s with timers := s.timers + 1, listeners := s.listen (s.listeningTo c) },
    { c with
      sent := c.sent ++ [if c.authorization.isSome then c.authorization else given s.accessToken]
      phase := .sending first true (s.listeningTo c) })

/-- The `finally` of `executeRequest`. -/
def release (s : State δ) (timer : Bool) (listening : Option ℕ) : State δ :=
  { s with timers := s.timers - timer.toNat, listeners := s.unlisten listening }

/-- A call is put back. -/
def put (s : State δ) (i : ℕ) (c : Call δ) : State δ := { s with calls := s.calls.set i c }

/-- The session is over: `redirectToLogin` and the error. -/
def expire (s : State δ) (i : ℕ) (c : Call δ) : State δ :=
  { s with redirects := s.redirects + 1 }.put i
    { c with phase := .done (.apiError 401 "Session expired") }

/-- The first or the second response of a call. -/
def respond (s : State δ) (i : ℕ) (c : Call δ) (first : Bool) (r : Response) : State δ :=
  if first then
    if r.status = 401 ∧ (given s.accessToken).isSome then s.put i { c with phase := .importing }
    else s.put i { c with phase := .done (settle decode r) }
  else if r.status = 401 then s.expire i c
  else s.put i { c with phase := .done (settle decode r) }

/-- `refreshToken`, up to its `await`. -/
def refreshToken (s : State δ) (i : ℕ) (c : Call δ) : State δ :=
  match s.keycloak with
  | none => s.put i { c with phase := .refreshed none }
  | some _ =>
      { s with refreshing := true }.put i
        { c with refreshes := c.refreshes + 1, phase := .updating }

/-- `refreshToken`, once the client is updated. -/
def updated (s : State δ) (i : ℕ) (c : Call δ) (kc : Keycloak) : State δ :=
  { { s with keycloak := some kc }.syncTokenToStore kc with refreshing := false }.put i
    { c with phase := .refreshed kc.token }

/-- `refreshToken`, once the update has failed. -/
def updateFailed (s : State δ) (i : ℕ) (c : Call δ) : State δ :=
  { s.clear with refreshing := false }.put i { c with phase := .refreshed none }

/-- `refreshToken` of the event stream, up to its `await`. -/
def streamRefreshToken (s : State δ) : State δ :=
  match s.keycloak with
  | none => s
  | some _ => { s with refreshing := true, streamRefreshes := s.streamRefreshes + 1 }

/-- `refreshToken` of the event stream, once the client is updated. -/
def streamUpdated (s : State δ) (kc : Keycloak) : State δ :=
  { { s with keycloak := some kc }.syncTokenToStore kc with
    refreshing := false, streamRefreshes := s.streamRefreshes - 1 }

/-- `refreshToken` of the event stream, once the update has failed. -/
def streamUpdateFailed (s : State δ) : State δ :=
  { s.clear with refreshing := false, streamRefreshes := s.streamRefreshes - 1 }

/-- `apiFetch` after `attemptTokenRefresh`. The response that is still there is the 401. -/
def resume (s : State δ) (i : ℕ) (c : Call δ) (newToken : Option String) : State δ :=
  match given newToken with
  | some _ => (s.executeRequest c false).1.put i (s.executeRequest c false).2
  | none => s.expire i c

end State

/-- What can happen. -/
inductive Event
  | start (path : String) (authorization : Option String) (signal : Option ℕ)
  /-- The timer of a request fires, or a signal aborts. -/
  | timeout (i : ℕ)
  | abort (sid : ℕ)
  | responds (i : ℕ) (r : Response)
  | rejects (i : ℕ) (message : String)
  | imports (i : ℕ)
  | importFails (i : ℕ)
  /-- `updateToken` resolves, and the client is as it is then; or it rejects. -/
  | updated (i : ℕ) (kc : Keycloak)
  | updateFails (i : ℕ)
  | resumes (i : ℕ)
  /-- The event stream refreshes the token, and its `updateToken` resolves or rejects. -/
  | streamRefreshes
  | streamUpdated (kc : Keycloak)
  | streamUpdateFails
  /-- `initKeycloak` is done. -/
  | initialised (kc : Keycloak)
  /-- A callback of the client: with what it has then, or that it was logged out. The refresh it
  makes of a token that expires ends in one of them. -/
  | synced (kc : Keycloak)
  | loggedOut
  | switchCluster (apiUrl : Option String)

/-- One event, if it can happen. -/
def step (s : State δ) : Event → Option (State δ)
  | .start path authorization signal =>
      let started := s.executeRequest
        { url := buildUrl path s.apiUrl, authorization := authorization, signal := signal,
          phase := .importing } true
      some { started.1 with calls := s.calls ++ [started.2] }
  | .timeout i => (s.calls[i]?).bind fun c =>
      match c.phase with
      | .sending first timer listening =>
          some ({ s with timers := s.timers - timer.toNat }.put i
            { c with phase := .sending first false listening })
      | _ => none
  | .abort sid => some { s with aborted := Function.update s.aborted sid true }
  | .responds i r => (s.calls[i]?).bind fun c =>
      match c.phase with
      | .sending first timer listening =>
          some ((s.release timer listening).respond decode i c first r)
      | _ => none
  | .rejects i message => (s.calls[i]?).bind fun c =>
      match c.phase with
      | .sending _ timer listening =>
          some ((s.release timer listening).put i { c with phase := .done (.apiError 0 message) })
      | _ => none
  | .imports i => (s.calls[i]?).bind fun c =>
      match c.phase with
      | .importing => some (s.refreshToken i c)
      | _ => none
  | .importFails i => (s.calls[i]?).bind fun c =>
      match c.phase with
      | .importing => some (s.put i { c with phase := .refreshed none })
      | _ => none
  | .updated i kc => (s.calls[i]?).bind fun c =>
      match c.phase with
      | .updating => some (s.updated i c kc)
      | _ => none
  | .updateFails i => (s.calls[i]?).bind fun c =>
      match c.phase with
      | .updating => some (s.updateFailed i c)
      | _ => none
  | .resumes i => (s.calls[i]?).bind fun c =>
      match c.phase with
      | .refreshed newToken => some (s.resume i c newToken)
      | _ => none
  | .streamRefreshes => some s.streamRefreshToken
  | .streamUpdated kc => if 0 < s.streamRefreshes then some (s.streamUpdated kc) else none
  | .streamUpdateFails => if 0 < s.streamRefreshes then some s.streamUpdateFailed else none
  | .initialised kc => some ({ s with keycloak := some kc }.syncTokenToStore kc)
  | .synced kc => some ({ s with keycloak := s.keycloak.map fun _ => kc }.syncTokenToStore kc)
  | .loggedOut => some s.clear
  | .switchCluster apiUrl => some { s with apiUrl := apiUrl }

/-! ### What has to hold -/

/-- The call holds a timer. -/
def Call.hasTimer (c : Call δ) : Bool :=
  match c.phase with
  | .sending _ timer _ => timer
  | _ => false

/-- The call has a listener on a signal. -/
def Call.listensTo (sid : ℕ) (c : Call δ) : Bool :=
  match c.phase with
  | .sending _ _ listening => listening = some sid
  | _ => false

/-- The call waits for `updateToken`. -/
def Call.isUpdating (c : Call δ) : Bool :=
  match c.phase with
  | .updating => true
  | _ => false

/-- A call of `refreshToken` is in flight. -/
def State.inRefresh (s : State δ) : Bool :=
  s.calls.any Call.isUpdating || decide (0 < s.streamRefreshes)

/-- The call is over. -/
def Call.isDone (c : Call δ) : Bool :=
  match c.phase with
  | .done _ => true
  | _ => false

/-- A call sends its request once, and once more after it has refreshed the token. -/
def Call.Bounded (c : Call δ) : Prop :=
  match c.phase with
  | .sending true _ _ | .importing => c.sent.length = 1 ∧ c.refreshes = 0
  | .sending false _ _ => c.sent.length = 2 ∧ c.refreshes = 1
  | .updating => c.sent.length = 1 ∧ c.refreshes = 1
  | .refreshed newToken => c.sent.length = 1 ∧ c.refreshes ≤ 1 ∧
      ((given newToken).isSome → c.refreshes = 1)
  | .done _ => (c.sent.length = 1 ∧ c.refreshes ≤ 1) ∨ (c.sent.length = 2 ∧ c.refreshes = 1)

/-- What every run keeps. -/
structure Inv (s : State δ) : Prop where
  bounded : ∀ c ∈ s.calls, c.Bounded
  timers : s.timers = s.calls.countP Call.hasTimer
  listeners : ∀ sid, s.listeners sid = s.calls.countP (Call.listensTo sid)
  refreshing : s.refreshing = true → s.inRefresh = true

/-- The flag tells whether a refresh is running. -/
def Told (s : State δ) : Prop := s.refreshing = s.inRefresh

/-- Nothing else than the `i`-th call waits for `updateToken`. -/
def Alone (s : State δ) (i : ℕ) : Prop :=
  (∀ j c, s.calls[j]? = some c → c.isUpdating = true → j = i) ∧ s.streamRefreshes = 0

/-- Nothing else than one refresh of the event stream waits for `updateToken`. -/
def StreamAlone (s : State δ) : Prop :=
  s.calls.any Call.isUpdating = false ∧ s.streamRefreshes = 1

/-- A refresh ends when no other one is running, and the token is dropped when none is. -/
def Unhurried (s : State δ) : Event → Prop
  | .updated i _ | .updateFails i => Alone s i
  | .streamUpdated _ | .streamUpdateFails => StreamAlone s
  | .initialised kc | .synced kc => (kc.authenticated = true ∧ (given kc.token).isSome) ∨
      s.inRefresh = false
  | .loggedOut => s.inRefresh = false
  | _ => True

variable {decode} {s s' : State δ} {i : ℕ} {c : Call δ}

/-! ### Counting -/

/-- One call of many is replaced. -/
theorem countP_set_add {α : Type} (p : α → Bool) {l : List α} {i : ℕ} {a : α} (b : α)
    (h : l[i]? = some a) :
    (l.set i b).countP p + (p a).toNat = l.countP p + (p b).toNat := by
  induction l generalizing i with
  | nil => cases h
  | cons x l ih =>
    cases i with
    | zero =>
      obtain rfl : x = a := by simpa using h
      rw [List.set_cons_zero, List.countP_cons, List.countP_cons]
      cases p x <;> cases p b <;> simp
    | succ i =>
      have := ih (i := i) (by simpa using h)
      rw [List.set_cons_succ, List.countP_cons, List.countP_cons]
      omega

theorem any_iff {α : Type} {p : α → Bool} {l : List α} :
    l.any p = true ↔ ∃ (j : ℕ) (a : α), l[j]? = some a ∧ p a = true := by
  rw [List.any_eq_true]
  constructor
  · rintro ⟨a, ha, hp⟩
    obtain ⟨j, hj⟩ := List.getElem?_of_mem ha
    exact ⟨j, a, hj, hp⟩
  · rintro ⟨j, a, hj, hp⟩
    exact ⟨a, List.mem_of_getElem? hj, hp⟩

/-- A call is replaced by one that is like it. -/
theorem any_set_same {α : Type} {p : α → Bool} {l : List α} {i : ℕ} {a b : α}
    (h : l[i]? = some a) (hp : p b = p a) : (l.set i b).any p = l.any p := by
  have hcount := countP_set_add p b h
  have hany : ∀ m : List α, m.any p = decide (0 < m.countP p) := by
    intro m
    rw [Bool.eq_iff_iff, decide_eq_true_eq, List.countP_pos_iff, List.any_eq_true]
  rw [hany, hany, show (l.set i b).countP p = l.countP p by rw [hp] at hcount; omega]

/-- A call is replaced by one that is not of the kind: the others remain. -/
theorem any_set_false {α : Type} {p : α → Bool} {l : List α} {i : ℕ} {b : α} (hb : p b = false) :
    (l.set i b).any p = false ↔ ∀ (j : ℕ) (a : α), l[j]? = some a → p a = true → j = i := by
  rw [← Bool.not_eq_true, any_iff]
  constructor
  · intro hnone j a hj hp
    by_contra hne
    exact hnone ⟨j, a, by rwa [List.getElem?_set_ne (Ne.symm hne)], hp⟩
  · rintro honly ⟨j, a, hj, hp⟩
    by_cases hij : j = i
    · subst hij
      rw [List.getElem?_set] at hj
      simp only [if_true] at hj
      split at hj
      · cases hj
        rw [hb] at hp
        cases hp
      · cases hj
    · rw [List.getElem?_set_ne (Ne.symm hij)] at hj
      exact hij (honly j a hj hp)

/-- A call is replaced by one that waits as it did. -/
theorem inRefresh_put (hc : s.calls[i]? = some c) {c' : Call δ}
    (hcalls : s'.calls = s.calls.set i c') (hstream : s'.streamRefreshes = s.streamRefreshes)
    (hsame : c'.isUpdating = c.isUpdating) : s'.inRefresh = s.inRefresh := by
  unfold State.inRefresh
  rw [hcalls, hstream, any_set_same hc hsame]

/-- Then the flag is up for the same reason. -/
theorem Inv.refreshing_put (hinv : Inv s) (hc : s.calls[i]? = some c) {c' : Call δ}
    (hcalls : s'.calls = s.calls.set i c') (hstream : s'.streamRefreshes = s.streamRefreshes)
    (hrefreshing : s'.refreshing = s.refreshing) (hsame : c'.isUpdating = c.isUpdating) :
    s'.refreshing = true → s'.inRefresh = true := by
  intro h
  rw [inRefresh_put hc hcalls hstream hsame]
  exact hinv.refreshing (hrefreshing ▸ h)

/-- A call is replaced, and the timers and listeners with it. -/
theorem Inv.put (hinv : Inv s) (hc : s.calls[i]? = some c) (c' : Call δ)
    (hcalls : s'.calls = s.calls.set i c') (hbounded : c'.Bounded)
    (htimers : s'.timers + c.hasTimer.toNat = s.timers + c'.hasTimer.toNat)
    (hlisteners : ∀ sid, s'.listeners sid + (c.listensTo sid).toNat =
      s.listeners sid + (c'.listensTo sid).toNat)
    (hrefreshing : s'.refreshing = true → s'.inRefresh = true) : Inv s' := by
  refine ⟨fun d hd => ?_, ?_, fun sid => ?_, hrefreshing⟩
  · rw [hcalls] at hd
    rcases List.mem_or_eq_of_mem_set hd with hd | rfl
    · exact hinv.bounded d hd
    · exact hbounded
  · have := countP_set_add Call.hasTimer c' hc
    rw [hcalls]
    have := hinv.timers
    omega
  · have := countP_set_add (Call.listensTo sid) c' hc
    rw [hcalls]
    have := hinv.listeners sid
    have := hlisteners sid
    omega

/-! ### What each part does -/

theorem listen_eq (listening : Option ℕ) (sid : ℕ) :
    s.listen listening sid = s.listeners sid + (decide (listening = some sid)).toNat := by
  cases listening with
  | none => simp [State.listen]
  | some sid' =>
    by_cases h : sid = sid'
    · subst h
      simp [State.listen]
    · simp [State.listen, Function.update_of_ne h, Ne.symm h]

/-- A listener that is there is taken away. -/
theorem unlisten_eq {listening : Option ℕ} {sid : ℕ}
    (h : (decide (listening = some sid)).toNat ≤ s.listeners sid) :
    s.unlisten listening sid + (decide (listening = some sid)).toNat = s.listeners sid := by
  cases listening with
  | none => simp [State.unlisten]
  | some sid' =>
    by_cases heq : sid = sid'
    · subst heq
      simp only [State.unlisten, Function.update_self, decide_true, Bool.toNat_true] at h ⊢
      omega
    · simp [State.unlisten, Function.update_of_ne heq, Ne.symm heq]

theorem le_countP {α : Type} (p : α → Bool) {l : List α} {a : α} (h : a ∈ l) :
    (p a).toNat ≤ l.countP p := by
  cases hp : p a with
  | false => exact Nat.zero_le _
  | true => exact List.countP_pos_iff.2 ⟨a, h, hp⟩

/-- A request that is over takes its timer and its listener along. -/
theorem Inv.release (hinv : Inv s) (hc : s.calls[i]? = some c) {first timer : Bool}
    {listening : Option ℕ} (hphase : c.phase = .sending first timer listening) :
    (s.release timer listening).timers + c.hasTimer.toNat = s.timers ∧
      ∀ sid, (s.release timer listening).listeners sid + (c.listensTo sid).toNat =
        s.listeners sid := by
  have hmem := List.mem_of_getElem? hc
  have htimer := le_countP Call.hasTimer hmem
  rw [← hinv.timers] at htimer
  simp only [Call.hasTimer, hphase] at htimer ⊢
  refine ⟨?_, fun sid => ?_⟩
  · show s.timers - timer.toNat + timer.toNat = s.timers
    omega
  · have hlistens := le_countP (Call.listensTo sid) hmem
    rw [← hinv.listeners sid] at hlistens
    simp only [Call.listensTo, hphase] at hlistens ⊢
    exact unlisten_eq hlistens

/-- A call at rest. -/
theorem quiet_of_phase
    (hphase : ∀ first timer listening, c.phase ≠ .sending first timer listening) :
    c.hasTimer = false ∧ ∀ sid, c.listensTo sid = false := by
  unfold Call.hasTimer Call.listensTo
  refine ⟨?_, fun sid => ?_⟩
  · split
    next first timer listening h => exact absurd h (hphase first timer listening)
    next => rfl
  · split
    next first timer listening h => exact absurd h (hphase first timer listening)
    next => rfl

/-- A call that holds nothing is replaced by one that holds nothing. -/
theorem Inv.putQuiet (hinv : Inv s) (hc : s.calls[i]? = some c) (c' : Call δ)
    (hquiet : c.hasTimer = false ∧ ∀ sid, c.listensTo sid = false)
    (hquiet' : c'.hasTimer = false ∧ ∀ sid, c'.listensTo sid = false) (hbounded : c'.Bounded)
    (hcalls : s'.calls = s.calls.set i c') (htimers : s'.timers = s.timers)
    (hlisteners : s'.listeners = s.listeners)
    (hrefreshing : s'.refreshing = true → s'.inRefresh = true) : Inv s' := by
  refine hinv.put hc c' hcalls hbounded ?_ (fun sid => ?_) hrefreshing
  · rw [hquiet.1, hquiet'.1, htimers]
  · rw [hquiet.2 sid, hquiet'.2 sid, hlisteners]

/-- A request that is over is replaced by what follows it. -/
theorem Inv.putReleased (hinv : Inv s) (hc : s.calls[i]? = some c) (c' : Call δ)
    {first timer : Bool} {listening : Option ℕ} (hphase : c.phase = .sending first timer listening)
    (hquiet' : c'.hasTimer = false ∧ ∀ sid, c'.listensTo sid = false) (hbounded : c'.Bounded)
    (hupdating : c'.isUpdating = false) (hcalls : s'.calls = s.calls.set i c')
    (htimers : s'.timers = (s.release timer listening).timers)
    (hlisteners : s'.listeners = (s.release timer listening).listeners)
    (hstream : s'.streamRefreshes = s.streamRefreshes)
    (hrefreshing : s'.refreshing = s.refreshing) : Inv s' := by
  obtain ⟨htimer, hlistener⟩ := hinv.release hc hphase
  have hsame : c'.isUpdating = c.isUpdating := by
    rw [hupdating]
    simp [Call.isUpdating, hphase]
  refine hinv.put hc c' hcalls hbounded ?_ (fun sid => ?_)
    (hinv.refreshing_put hc hcalls hstream hrefreshing hsame)
  · rw [hquiet'.1, htimers]
    exact htimer
  · rw [hquiet'.2 sid, hlisteners]
    exact hlistener sid

/-! ### Steps, one by one -/

/-- A call that was over after this many requests. -/
theorem bounded_done {outcome : Outcome δ} {first timer : Bool} {listening : Option ℕ}
    (hphase : c.phase = .sending first timer listening) (hbounded : c.Bounded) :
    Call.Bounded { c with phase := .done outcome } := by
  unfold Call.Bounded at hbounded ⊢
  rw [hphase] at hbounded
  cases first with
  | true => exact Or.inl ⟨hbounded.1, Nat.le_trans (Nat.le_of_eq hbounded.2) (Nat.zero_le 1)⟩
  | false => exact Or.inr hbounded

theorem inv_start (hinv : Inv s) (path : String) (authorization : Option String)
    (signal : Option ℕ) (hstep : step decode s (.start path authorization signal) = some s') :
    Inv s' := by
  cases hstep
  refine ⟨fun d hd => ?_, ?_, fun sid => ?_, fun h => ?_⟩
  · rcases List.mem_append.1 hd with hd | hd
    · exact hinv.bounded d hd
    · obtain rfl := List.mem_singleton.1 hd
      exact ⟨rfl, rfl⟩
  · show s.timers + 1 = _
    rw [hinv.timers, List.countP_append]
    rfl
  · show s.listen _ sid = _
    rw [listen_eq, hinv.listeners sid, List.countP_append, List.countP_singleton]
    simp only [State.executeRequest, Call.listensTo]
    split <;> simp_all
  · have hup := hinv.refreshing h
    unfold State.inRefresh at hup ⊢
    rw [List.any_append]
    rcases Bool.or_eq_true_iff.1 hup with hup | hup
    · rw [hup]
      rfl
    · exact Bool.or_eq_true_iff.2 (Or.inr hup)

theorem inv_respond (hinv : Inv s) (hc : s.calls[i]? = some c) {first timer : Bool}
    {listening : Option ℕ} (hphase : c.phase = .sending first timer listening) (r : Response) :
    Inv ((s.release timer listening).respond decode i c first r) := by
  have hbounded := hinv.bounded c (List.mem_of_getElem? hc)
  have hquiet : ∀ outcome : Outcome δ, Call.hasTimer { c with phase := .done outcome } = false ∧
      ∀ sid, Call.listensTo sid { c with phase := .done outcome } = false :=
    fun _ => ⟨rfl, fun _ => rfl⟩
  unfold State.respond
  cases first with
  | true =>
    rw [if_pos rfl]
    split
    · refine hinv.putReleased hc { c with phase := .importing } hphase ⟨rfl, fun _ => rfl⟩ ?_
        rfl rfl rfl rfl rfl rfl
      unfold Call.Bounded at hbounded ⊢
      rw [hphase] at hbounded
      exact hbounded
    · exact hinv.putReleased hc _ hphase (hquiet _) (bounded_done hphase hbounded) rfl rfl rfl
        rfl rfl rfl
  | false =>
    rw [if_neg nofun]
    split
    · exact hinv.putReleased hc _ hphase (hquiet _) (bounded_done hphase hbounded) rfl rfl rfl
        rfl rfl rfl
    · exact hinv.putReleased hc _ hphase (hquiet _) (bounded_done hphase hbounded) rfl rfl rfl
        rfl rfl rfl

theorem inv_timeout (hinv : Inv s) (hc : s.calls[i]? = some c) {first timer : Bool}
    {listening : Option ℕ} (hphase : c.phase = .sending first timer listening) :
    Inv ({ s with timers := s.timers - timer.toNat }.put i
      { c with phase := .sending first false listening }) := by
  have hbounded := hinv.bounded c (List.mem_of_getElem? hc)
  have htimer := (hinv.release hc hphase).1
  refine hinv.put hc { c with phase := .sending first false listening } rfl ?_ htimer
    (fun sid => ?_) (hinv.refreshing_put hc rfl rfl rfl (by simp [Call.isUpdating, hphase]))
  · unfold Call.Bounded at hbounded ⊢
    rw [hphase] at hbounded
    cases first <;> exact hbounded
  · simp only [Call.listensTo, hphase]
    rfl

theorem inv_refreshToken (hinv : Inv s) (hc : s.calls[i]? = some c)
    (hphase : c.phase = .importing) :
    Inv (s.refreshToken i c) := by
  have hbounded := hinv.bounded c (List.mem_of_getElem? hc)
  unfold Call.Bounded at hbounded
  rw [hphase] at hbounded
  have hquiet := quiet_of_phase (c := c) (by simp [hphase])
  cases hkeycloak : s.keycloak with
  | none =>
    have hstate : s.refreshToken i c = s.put i { c with phase := .refreshed none } := by
      simp only [State.refreshToken, hkeycloak]
    rw [hstate]
    exact hinv.putQuiet hc { c with phase := .refreshed none } hquiet ⟨rfl, fun _ => rfl⟩
      ⟨hbounded.1, Nat.le_trans (Nat.le_of_eq hbounded.2) (Nat.zero_le 1), nofun⟩ rfl rfl rfl
      (hinv.refreshing_put hc rfl rfl rfl (by simp [Call.isUpdating, hphase]))
  | some kc =>
    have hstate : s.refreshToken i c = { s with refreshing := true }.put i
        { c with refreshes := c.refreshes + 1, phase := .updating } := by
      simp only [State.refreshToken, hkeycloak]
    rw [hstate]
    refine hinv.putQuiet hc { c with refreshes := c.refreshes + 1, phase := .updating } hquiet
      ⟨rfl, fun _ => rfl⟩ ⟨hbounded.1, congrArg (· + 1) hbounded.2⟩ rfl rfl rfl fun _ => ?_
    obtain ⟨hlt, -⟩ := List.getElem?_eq_some_iff.1 hc
    exact Bool.or_eq_true_iff.2 (Or.inl (any_iff.2 ⟨i, _, List.getElem?_set_self hlt, rfl⟩))

/-- The end of a refresh: the flag is down. -/
theorem inv_refreshed (hinv : Inv s) (hc : s.calls[i]? = some c) (hphase : c.phase = .updating)
    (newToken : Option String)
    (hcalls : s'.calls = s.calls.set i { c with phase := .refreshed newToken })
    (htimers : s'.timers = s.timers) (hlisteners : s'.listeners = s.listeners)
    (hrefreshing : s'.refreshing = false) : Inv s' := by
  have hbounded := hinv.bounded c (List.mem_of_getElem? hc)
  unfold Call.Bounded at hbounded
  rw [hphase] at hbounded
  refine hinv.putQuiet hc { c with phase := .refreshed newToken }
    (quiet_of_phase (by simp [hphase])) ⟨rfl, fun _ => rfl⟩
    ⟨hbounded.1, Nat.le_of_eq hbounded.2, fun _ => hbounded.2⟩ hcalls htimers hlisteners fun h => ?_
  rw [hrefreshing] at h
  cases h

theorem inv_resume (hinv : Inv s) (hc : s.calls[i]? = some c) {newToken : Option String}
    (hphase : c.phase = .refreshed newToken) : Inv (s.resume i c newToken) := by
  have hbounded := hinv.bounded c (List.mem_of_getElem? hc)
  unfold Call.Bounded at hbounded
  rw [hphase] at hbounded
  obtain ⟨hsent, hrefreshes, hgiven⟩ := hbounded
  have hquiet := quiet_of_phase (c := c) (by simp [hphase])
  cases htoken : given newToken with
  | none =>
    have hstate : s.resume i c newToken = s.expire i c := by simp only [State.resume, htoken]
    rw [hstate]
    exact hinv.putQuiet hc { c with phase := .done (.apiError 401 "Session expired") } hquiet
      ⟨rfl, fun _ => rfl⟩ (Or.inl ⟨hsent, hrefreshes⟩) rfl rfl rfl
      (hinv.refreshing_put hc rfl rfl rfl (by simp [Call.isUpdating, hphase]))
  | some token =>
    have hstate : s.resume i c newToken =
        (s.executeRequest c false).1.put i (s.executeRequest c false).2 := by
      simp only [State.resume, htoken]
    rw [hstate]
    refine hinv.put hc (s.executeRequest c false).2 rfl ⟨?_, hgiven (by simp [htoken])⟩ ?_
      (fun sid => ?_) (hinv.refreshing_put hc rfl rfl rfl ?_)
    · show (c.sent ++ [_]).length = 2
      rw [List.length_append, hsent]
      rfl
    · rw [hquiet.1]
      rfl
    · rw [hquiet.2 sid]
      exact listen_eq _ _
    · simp [Call.isUpdating, hphase, State.executeRequest]

/-- A step that leaves the calls alone. -/
theorem Inv.same (hinv : Inv s) (hcalls : s'.calls = s.calls) (htimers : s'.timers = s.timers)
    (hlisteners : s'.listeners = s.listeners)
    (hrefreshing : s'.refreshing = true → s'.inRefresh = true) : Inv s' := by
  refine ⟨?_, ?_, ?_, hrefreshing⟩
  · rw [hcalls]
    exact hinv.bounded
  · rw [htimers, hcalls]
    exact hinv.timers
  · rw [hlisteners, hcalls]
    exact hinv.listeners

/-- What `syncTokenToStore` leaves alone. -/
theorem syncTokenToStore_frame (kc : Keycloak) : (s.syncTokenToStore kc).calls = s.calls ∧
    (s.syncTokenToStore kc).timers = s.timers ∧ (s.syncTokenToStore kc).listeners = s.listeners ∧
      (s.syncTokenToStore kc).streamRefreshes = s.streamRefreshes ∧
      (s.syncTokenToStore kc).refreshing =
        (s.refreshing && (kc.authenticated && (given kc.token).isSome)) := by
  unfold State.syncTokenToStore
  split
  next token hauth htoken => exact ⟨rfl, rfl, rfl, rfl, by simp [hauth, htoken]⟩
  next hno =>
    refine ⟨rfl, rfl, rfl, rfl, ?_⟩
    cases hauth : kc.authenticated with
    | false => simp [State.clear]
    | true =>
      cases htoken : given kc.token with
      | none => simp [State.clear]
      | some token => exact absurd htoken (hno token hauth)

theorem inRefresh_same (hcalls : s'.calls = s.calls)
    (hstream : s'.streamRefreshes = s.streamRefreshes) : s'.inRefresh = s.inRefresh := by
  rw [State.inRefresh, State.inRefresh, hcalls, hstream]

theorem Inv.sync (hinv : Inv s) (kc : Keycloak) : Inv (s.syncTokenToStore kc) := by
  obtain ⟨hcalls, htimers, hlisteners, hstream, hrefreshing⟩ := syncTokenToStore_frame (s := s) kc
  refine hinv.same hcalls htimers hlisteners fun h => ?_
  rw [hrefreshing, Bool.and_eq_true] at h
  exact (inRefresh_same hcalls hstream).trans (hinv.refreshing h.1)

/-- A refresh of the event stream that starts puts the flag up. -/
theorem inv_streamRefreshToken (hinv : Inv s) : Inv s.streamRefreshToken := by
  unfold State.streamRefreshToken
  cases s.keycloak with
  | none => exact hinv
  | some kc =>
    refine hinv.same rfl rfl rfl fun _ => ?_
    exact Bool.or_eq_true_iff.2 (Or.inr (decide_eq_true (Nat.succ_pos _)))

/-! ### Runs -/

theorem inv_step (e : Event) (hinv : Inv s) (hstep : step decode s e = some s') : Inv s' := by
  cases e with
  | start path authorization signal => exact inv_start hinv path authorization signal hstep
  | timeout i =>
    obtain ⟨c, hc, hstep⟩ := Option.bind_eq_some_iff.1 hstep
    split at hstep
    next hphase =>
      cases hstep
      exact inv_timeout hinv hc hphase
    next => cases hstep
  | abort sid =>
    cases hstep
    exact hinv.same rfl rfl rfl hinv.refreshing
  | responds i r =>
    obtain ⟨c, hc, hstep⟩ := Option.bind_eq_some_iff.1 hstep
    split at hstep
    next hphase =>
      cases hstep
      exact inv_respond hinv hc hphase r
    next => cases hstep
  | rejects i message =>
    obtain ⟨c, hc, hstep⟩ := Option.bind_eq_some_iff.1 hstep
    split at hstep
    next hphase =>
      cases hstep
      have hbounded := hinv.bounded c (List.mem_of_getElem? hc)
      exact hinv.putReleased hc _ hphase ⟨rfl, fun _ => rfl⟩ (bounded_done hphase hbounded) rfl
        rfl rfl rfl rfl rfl
    next => cases hstep
  | imports i =>
    obtain ⟨c, hc, hstep⟩ := Option.bind_eq_some_iff.1 hstep
    split at hstep
    next hphase =>
      cases hstep
      exact inv_refreshToken hinv hc hphase
    next => cases hstep
  | importFails i =>
    obtain ⟨c, hc, hstep⟩ := Option.bind_eq_some_iff.1 hstep
    split at hstep
    next hphase =>
      cases hstep
      have hbounded := hinv.bounded c (List.mem_of_getElem? hc)
      unfold Call.Bounded at hbounded
      rw [hphase] at hbounded
      exact hinv.putQuiet hc { c with phase := .refreshed none }
        (quiet_of_phase (by simp [hphase])) ⟨rfl, fun _ => rfl⟩
        ⟨hbounded.1, Nat.le_trans (Nat.le_of_eq hbounded.2) (Nat.zero_le 1), nofun⟩ rfl rfl rfl
        (hinv.refreshing_put hc rfl rfl rfl (by simp [Call.isUpdating, hphase]))
    next => cases hstep
  | updated i kc =>
    obtain ⟨c, hc, hstep⟩ := Option.bind_eq_some_iff.1 hstep
    split at hstep
    next hphase =>
      cases hstep
      obtain ⟨hcalls, htimers, hlisteners, -, -⟩ :=
        syncTokenToStore_frame (s := { s with keycloak := some kc }) kc
      refine inv_refreshed hinv hc hphase kc.token ?_ htimers hlisteners rfl
      exact congrArg (List.set · i _) hcalls
    next => cases hstep
  | updateFails i =>
    obtain ⟨c, hc, hstep⟩ := Option.bind_eq_some_iff.1 hstep
    split at hstep
    next hphase =>
      cases hstep
      exact inv_refreshed hinv hc hphase none rfl rfl rfl rfl
    next => cases hstep
  | resumes i =>
    obtain ⟨c, hc, hstep⟩ := Option.bind_eq_some_iff.1 hstep
    split at hstep
    next hphase =>
      cases hstep
      exact inv_resume hinv hc hphase
    next => cases hstep
  | streamRefreshes =>
    cases hstep
    exact inv_streamRefreshToken hinv
  | streamUpdated kc =>
    obtain ⟨-, hstep⟩ := Option.ite_none_right_eq_some.1 hstep
    cases hstep
    obtain ⟨hcalls, htimers, hlisteners, -, -⟩ :=
      syncTokenToStore_frame (s := { s with keycloak := some kc }) kc
    exact hinv.same hcalls htimers hlisteners nofun
  | streamUpdateFails =>
    obtain ⟨-, hstep⟩ := Option.ite_none_right_eq_some.1 hstep
    cases hstep
    exact hinv.same rfl rfl rfl nofun
  | initialised kc =>
    cases hstep
    have hclient : Inv { s with keycloak := some kc } :=
      hinv.same rfl rfl rfl hinv.refreshing
    exact hclient.sync kc
  | synced kc =>
    cases hstep
    have hclient : Inv { s with keycloak := s.keycloak.map fun _ => kc } :=
      hinv.same rfl rfl rfl hinv.refreshing
    exact hclient.sync kc
  | loggedOut =>
    cases hstep
    exact hinv.same rfl rfl rfl nofun
  | switchCluster apiUrl =>
    cases hstep
    exact hinv.same rfl rfl rfl hinv.refreshing

theorem inv_initial : Inv ({} : State δ) :=
  ⟨nofun, rfl, fun _ => rfl, nofun⟩

/-- Whatever the order of events: a call sends its request twice at most, and the second time after
one refresh; a timer or a listener is held by each request in flight that still has it, and by
nothing else; and the flag is up only while a refresh is running. -/
theorem always_inv (decode : String → Option (Decoded δ)) (es : List Event) :
    Always (step decode) Inv ({} : State δ) es :=
  always_of_step (fun _ e _ hinv hstep => inv_step e hinv hstep) inv_initial

/-- When all calls are over, nothing is held any more, and the flag is down unless the event stream
refreshes the token. -/
theorem Inv.at_rest (hinv : Inv s) (hdone : ∀ c ∈ s.calls, c.isDone = true) :
    s.timers = 0 ∧ (∀ sid, s.listeners sid = 0) ∧
      (s.streamRefreshes = 0 → s.refreshing = false) := by
  have hphase : ∀ c ∈ s.calls, ∃ outcome, c.phase = .done outcome := by
    intro c hc
    have := hdone c hc
    unfold Call.isDone at this
    split at this
    next outcome h => exact ⟨outcome, h⟩
    next => cases this
  refine ⟨?_, fun sid => ?_, fun hstream => ?_⟩
  · rw [hinv.timers, List.countP_eq_zero]
    intro c hc
    obtain ⟨outcome, h⟩ := hphase c hc
    simp [Call.hasTimer, h]
  · rw [hinv.listeners sid, List.countP_eq_zero]
    intro c hc
    obtain ⟨outcome, h⟩ := hphase c hc
    simp [Call.listensTo, h]
  · by_contra hup
    have hrefresh := hinv.refreshing (Bool.not_eq_false _ ▸ hup)
    rw [State.inRefresh, hstream, decide_eq_false (Nat.lt_irrefl 0), Bool.or_false] at hrefresh
    obtain ⟨c, hc, hupdating⟩ := List.any_eq_true.1 hrefresh
    obtain ⟨outcome, h⟩ := hphase c hc
    simp [Call.isUpdating, h] at hupdating

/-! ### The flag -/

/-- A call that does not wait for `updateToken` is replaced by another one. -/
theorem Told.put (htold : Told s) (hc : s.calls[i]? = some c) (hupdating : c.isUpdating = false)
    {c' : Call δ} (hupdating' : c'.isUpdating = false) (hcalls : s'.calls = s.calls.set i c')
    (hstream : s'.streamRefreshes = s.streamRefreshes)
    (hrefreshing : s'.refreshing = s.refreshing) : Told s' := by
  unfold Told
  rw [hrefreshing, inRefresh_put hc hcalls hstream (hupdating'.trans hupdating.symm)]
  exact htold

theorem respond_frame (decode : String → Option (Decoded δ)) (s : State δ) (i : ℕ) (c : Call δ)
    (first : Bool) (r : Response) : (s.respond decode i c first r).refreshing = s.refreshing ∧
      (s.respond decode i c first r).streamRefreshes = s.streamRefreshes ∧
      ∃ c', (s.respond decode i c first r).calls = s.calls.set i c' ∧ c'.isUpdating = false := by
  unfold State.respond
  split
  · split
    · exact ⟨rfl, rfl, _, rfl, rfl⟩
    · exact ⟨rfl, rfl, _, rfl, rfl⟩
  · split
    · exact ⟨rfl, rfl, _, rfl, rfl⟩
    · exact ⟨rfl, rfl, _, rfl, rfl⟩

theorem inRefresh_eq_false :
    s.inRefresh = false ↔ s.calls.any Call.isUpdating = false ∧ s.streamRefreshes = 0 := by
  simp [State.inRefresh]

/-- The flag after a refresh, and the calls that still wait. -/
theorem told_refreshed {newToken : Option String}
    (hcalls : s'.calls = s.calls.set i { c with phase := .refreshed newToken })
    (hstream : s'.streamRefreshes = s.streamRefreshes)
    (hrefreshing : s'.refreshing = false) : Told s' ↔ Alone s i := by
  unfold Told Alone
  rw [hrefreshing, eq_comm, inRefresh_eq_false, hcalls, hstream]
  exact and_congr_left' (any_set_false rfl)

/-- The flag after a refresh of the event stream. -/
theorem told_streamRefreshed (hpos : 0 < s.streamRefreshes) (hcalls : s'.calls = s.calls)
    (hstream : s'.streamRefreshes = s.streamRefreshes - 1) (hrefreshing : s'.refreshing = false) :
    Told s' ↔ StreamAlone s := by
  unfold Told StreamAlone
  rw [hrefreshing, eq_comm, inRefresh_eq_false, hcalls, hstream]
  exact and_congr_right' (by omega)

theorem told_sync (htold : Told s) (kc : Keycloak) : Told (s.syncTokenToStore kc) ↔
    (kc.authenticated = true ∧ (given kc.token).isSome) ∨ s.inRefresh = false := by
  obtain ⟨hcalls, -, -, hstream, hrefreshing⟩ := syncTokenToStore_frame (s := s) kc
  unfold Told at htold ⊢
  rw [inRefresh_same hcalls hstream, hrefreshing, htold]
  cases s.inRefresh <;> simp

theorem told_refreshToken (htold : Told s) (hc : s.calls[i]? = some c)
    (hphase : c.phase = .importing) : Told (s.refreshToken i c) := by
  have hupdating : c.isUpdating = false := by simp [Call.isUpdating, hphase]
  cases hkeycloak : s.keycloak with
  | none =>
    have hstate : s.refreshToken i c = s.put i { c with phase := .refreshed none } := by
      simp only [State.refreshToken, hkeycloak]
    rw [hstate]
    exact htold.put hc hupdating rfl rfl rfl rfl
  | some kc =>
    have hstate : s.refreshToken i c = { s with refreshing := true }.put i
        { c with refreshes := c.refreshes + 1, phase := .updating } := by
      simp only [State.refreshToken, hkeycloak]
    rw [hstate]
    obtain ⟨hlt, -⟩ := List.getElem?_eq_some_iff.1 hc
    exact (Bool.or_eq_true_iff.2 (Or.inl (any_iff.2 ⟨i, _, List.getElem?_set_self hlt, rfl⟩))).symm

theorem told_streamRefreshToken (htold : Told s) : Told s.streamRefreshToken := by
  unfold State.streamRefreshToken
  cases s.keycloak with
  | none => exact htold
  | some kc => exact (Bool.or_eq_true_iff.2 (Or.inr (decide_eq_true (Nat.succ_pos _)))).symm

theorem told_resume (htold : Told s) (hc : s.calls[i]? = some c) {newToken : Option String}
    (hphase : c.phase = .refreshed newToken) : Told (s.resume i c newToken) := by
  have hupdating : c.isUpdating = false := by simp [Call.isUpdating, hphase]
  unfold State.resume
  split
  · exact htold.put hc hupdating rfl rfl rfl rfl
  · exact htold.put hc hupdating rfl rfl rfl rfl

/-- The flag goes wrong only where a refresh ends next to another one, or the token is dropped while
a refresh is running. -/
theorem told_step (e : Event) (htold : Told s) (hstep : step decode s e = some s') :
    Told s' ↔ Unhurried s e := by
  cases e with
  | start path authorization signal =>
    cases hstep
    refine iff_of_true ?_ trivial
    refine Eq.trans htold (congrArg (· || decide (0 < s.streamRefreshes)) ?_)
    show s.calls.any Call.isUpdating = (s.calls ++ [_]).any Call.isUpdating
    rw [List.any_append]
    exact (Bool.or_false _).symm
  | timeout i =>
    obtain ⟨c, hc, hstep⟩ := Option.bind_eq_some_iff.1 hstep
    split at hstep
    next hphase =>
      cases hstep
      exact iff_of_true (htold.put hc (by simp [Call.isUpdating, hphase]) rfl rfl rfl rfl) trivial
    next => cases hstep
  | abort sid =>
    cases hstep
    exact iff_of_true htold trivial
  | responds i r =>
    obtain ⟨c, hc, hstep⟩ := Option.bind_eq_some_iff.1 hstep
    split at hstep
    next first timer listening hphase =>
      cases hstep
      obtain ⟨hrefreshing, hstream, c', hcalls, hupdating⟩ :=
        respond_frame decode (s.release timer listening) i c first r
      refine iff_of_true ?_ trivial
      exact htold.put hc (by simp [Call.isUpdating, hphase]) hupdating hcalls hstream hrefreshing
    next => cases hstep
  | rejects i message =>
    obtain ⟨c, hc, hstep⟩ := Option.bind_eq_some_iff.1 hstep
    split at hstep
    next hphase =>
      cases hstep
      exact iff_of_true (htold.put hc (by simp [Call.isUpdating, hphase]) rfl rfl rfl rfl) trivial
    next => cases hstep
  | imports i =>
    obtain ⟨c, hc, hstep⟩ := Option.bind_eq_some_iff.1 hstep
    split at hstep
    next hphase =>
      cases hstep
      exact iff_of_true (told_refreshToken htold hc hphase) trivial
    next => cases hstep
  | importFails i =>
    obtain ⟨c, hc, hstep⟩ := Option.bind_eq_some_iff.1 hstep
    split at hstep
    next hphase =>
      cases hstep
      exact iff_of_true (htold.put hc (by simp [Call.isUpdating, hphase]) rfl rfl rfl rfl) trivial
    next => cases hstep
  | updated i kc =>
    obtain ⟨c, hc, hstep⟩ := Option.bind_eq_some_iff.1 hstep
    split at hstep
    next hphase =>
      cases hstep
      obtain ⟨hcalls, -, -, hstream, -⟩ :=
        syncTokenToStore_frame (s := { s with keycloak := some kc }) kc
      exact told_refreshed (congrArg (List.set · i _) hcalls) hstream rfl
    next => cases hstep
  | updateFails i =>
    obtain ⟨c, hc, hstep⟩ := Option.bind_eq_some_iff.1 hstep
    split at hstep
    next hphase =>
      cases hstep
      exact told_refreshed rfl rfl rfl
    next => cases hstep
  | resumes i =>
    obtain ⟨c, hc, hstep⟩ := Option.bind_eq_some_iff.1 hstep
    split at hstep
    next hphase =>
      cases hstep
      exact iff_of_true (told_resume htold hc hphase) trivial
    next => cases hstep
  | streamRefreshes =>
    cases hstep
    exact iff_of_true (told_streamRefreshToken htold) trivial
  | streamUpdated kc =>
    obtain ⟨hpos, hstep⟩ := Option.ite_none_right_eq_some.1 hstep
    cases hstep
    obtain ⟨hcalls, -⟩ := syncTokenToStore_frame (s := { s with keycloak := some kc }) kc
    exact told_streamRefreshed hpos hcalls rfl rfl
  | streamUpdateFails =>
    obtain ⟨hpos, hstep⟩ := Option.ite_none_right_eq_some.1 hstep
    cases hstep
    exact told_streamRefreshed hpos rfl rfl rfl
  | initialised kc =>
    cases hstep
    have hclient : Told { s with keycloak := some kc } := htold
    exact told_sync hclient kc
  | synced kc =>
    cases hstep
    have hclient : Told { s with keycloak := s.keycloak.map fun _ => kc } := htold
    exact told_sync hclient kc
  | loggedOut =>
    cases hstep
    exact eq_comm
  | switchCluster apiUrl =>
    cases hstep
    exact iff_of_true htold trivial

/-- The flag tells all along a run whether a call of `refreshToken` is in flight, exactly if every
one of them ends when no other one is, and the token is never dropped while one is. -/
theorem refreshing_iff (decode : String → Option (Decoded δ)) (es : List Event) :
    Always (step decode) Told ({} : State δ) es ↔
      Guarded (step decode) Unhurried ({} : State δ) es :=
  always_iff_guarded (J := fun _ => True) (fun _ _ _ _ _ => trivial)
    (fun _ e _ _ htold hstep => told_step e htold hstep) trivial rfl

/-- Two calls refresh the token, and the first refresh is over. -/
def twoRefreshes : List Event :=
  [.initialised ⟨true, some "t"⟩, .start "/a" none none, .start "/b" none none,
    .responds 0 ⟨401, "", false, none⟩, .responds 1 ⟨401, "", false, none⟩, .imports 0, .imports 1,
    .updated 0 ⟨true, some "u"⟩]

theorem flag_down_early (decode : String → Option (Decoded δ)) :
    ¬Always (step decode) Told ({} : State δ) twoRefreshes := by
  intro h
  have hflag := h.run rfl
  exact absurd hflag nofun

end ClusterManager.Ui.ApiFetch
