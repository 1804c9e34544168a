import ClusterManager.Ui.SubscribeEvents

/-!
# How the stream is reopened

Who may go on with a subscription is one at a time: a live source, a timer, or a promise that is
awaited. So there is one timer at most and one source that is not closed, and after `close` no
source is created. The waits between attempts double, for as long as the token refresh of the error
handler gives a token only once between two `open` events: each time it does, the stream is
reopened at once and the envelope starts again.
-/

namespace ClusterManager.Ui

open Trace

/-! ### What a trace has to keep -/

/-- What happened since the last `open` event: the attempts made at once, those made after a wait,
how often the error handler got a token, and when an attempt last failed. -/
structure Streak where
  immediates : ℕ := 0
  waits : ℕ := 0
  reauthorized : ℕ := 0
  failedAt : Option ℕ := none

/-- The streak after one more event. -/
def Streak.after (s : Streak) : Event → Streak
  | .opened => {}
  | .attempted .immediate _ => { s with immediates := s.immediates + 1 }
  | .attempted .waited _ => { s with waits := s.waits + 1 }
  | .failed time => { s with failedAt := some time }
  | .reauthorized => { s with reauthorized := s.reauthorized + 1 }
  | .attempted .initial _ | .created _ | .closed => s

/-- The streak that a trace ends in. -/
def streak (past : List Event) : Streak := past.foldl Streak.after {}

@[simp] theorem streak_concat (past : List Event) (e : Event) :
    streak (past ++ [e]) = (streak past).after e := by
  simp [streak]

theorem streak_note (t : Tab) (e : Event) :
    streak (t.note e).trace = (streak t.trace).after e := streak_concat t.trace e

/-- The wait after `j` waits. -/
def delay (j : ℕ) : ℕ := min (2 ^ j * reconnectInitialMs) reconnectMaxMs

theorem delay_zero : delay 0 = reconnectInitialMs := rfl

theorem delay_succ (j : ℕ) : delay (j + 1) = min (delay j * 2) reconnectMaxMs := by
  unfold delay
  rw [pow_succ, Nat.mul_right_comm]
  omega

/-- Between two `open` events one attempt at most is made at once, and each that waits comes the
wait after the failure. -/
def Backoff (past : List Event) : Event → Prop
  | .attempted .immediate _ => (streak past).immediates = 0
  | .attempted .waited time =>
      ∃ failure, (streak past).failedAt = some failure ∧
        failure + delay (streak past).waits ≤ time
  | _ => True

/-- No source is created after `close`. -/
def NothingAfterClose (past : List Event) : Event → Prop
  | .created _ => .closed ∉ past
  | _ => True

/-- The error handler gets a token once between two `open` events, and before any wait. -/
def FirstRefresh (past : List Event) : Event → Prop
  | .reauthorized => (streak past).reauthorized = 0 ∧ (streak past).waits = 0
  | _ => True

/-! ### Whose turn it is -/

/-- Who goes on with the subscription. -/
inductive Turn
  | nobody
  | source (i : ℕ)
  | timer (id due : ℕ)
  | awaited (a : Await)

namespace Turn

/-- The timers that run. -/
def timers : Turn → List (ℕ × ℕ)
  | .timer id due => [(id, due)]
  | _ => []

/-- What is awaited. -/
def awaiting : Turn → List Await
  | .awaited a => [a]
  | _ => []

/-- The variable `reconnectTimer`. -/
def reconnectTimer : Turn → Option ℕ
  | .timer id _ => some id
  | _ => none

/-- Who goes on after `close`: only a promise is left. -/
def close : Turn → Turn
  | .awaited a => .awaited a
  | _ => .nobody

end Turn

/-- It is the turn of one, and nobody else's. Of a closed tab only a promise is left. -/
structure Sole (t : Tab) (turn : Turn) : Prop where
  timers : t.timers = turn.timers
  reconnectTimer : t.reconnectTimer = turn.reconnectTimer
  awaiting : t.awaiting = turn.awaiting
  live : ∀ i, t.ready i ≠ .closed ↔ turn = .source i
  source : ∀ i, turn = .source i → t.source = some i
  survives : t.closed = true → turn.close = turn
  closed : t.closed = true ↔ .closed ∈ t.trace
  nothing : Always NothingAfterClose t.trace

/-- The envelope, in a tab that is not closed: it is the wait that comes next. A timer is due the
wait after the failure, and the error handler awaits a token after one. -/
def Pace (t : Tab) : Turn → Prop
  | .timer _ due =>
      ∃ failure, (streak t.trace).failedAt = some failure ∧
        failure + delay (streak t.trace).waits ≤ due ∧
        t.backoffMs = delay ((streak t.trace).waits + 1)
  | .awaited .reauthorize =>
      (∃ failure, (streak t.trace).failedAt = some failure ∧ failure ≤ t.clock) ∧
        t.backoffMs = delay (streak t.trace).waits
  | _ => t.backoffMs = delay (streak t.trace).waits

/-- A trace is paced, and the envelope agrees with it. -/
structure Paced (t : Tab) (turn : Turn) : Prop where
  backoff : Always Backoff t.trace
  immediates : (streak t.trace).immediates = (streak t.trace).reauthorized
  pace : t.closed = false → Pace t turn

/-- What a step keeps. -/
structure Held (t : Tab) (turn : Turn) : Prop where
  sole : Sole t turn
  paced : Always FirstRefresh t.trace → Paced t turn

/-- An attempt has failed. -/
def Failed (t : Tab) : Prop :=
  ∃ failure, (streak t.trace).failedAt = some failure ∧ failure ≤ t.clock

/-! ### One turn at a time -/

/-- Where no source but the last one is live, closing it leaves none. -/
theorem Tab.closeSource_eq {t : Tab} (hlive : ∀ i, t.ready i ≠ .closed → t.source = some i) :
    t.closeSource = { t with ready := fun _ => .closed } := by
  have hready : ∀ i, t.source ≠ some i → t.ready i = .closed := fun i hi => by
    by_contra hne
    exact hi (hlive i hne)
  unfold Tab.closeSource
  split
  next source hsource =>
    have hall : Function.update t.ready source .closed = fun _ => .closed := by
      funext i
      by_cases heq : i = source
      · simp [heq]
      · rw [Function.update_of_ne heq, hready i (by simpa [hsource] using Ne.symm heq)]
    rw [hall]
  next hsource =>
    have hall : t.ready = fun _ => .closed := funext fun i => hready i (by simp [hsource])
    rw [← hall]

namespace Sole

variable {t : Tab} {turn : Turn}

theorem note (h : Sole t turn) (e : Event) (he : e ≠ .closed)
    (hnothing : NothingAfterClose t.trace e) : Sole (t.note e) turn where
  __ := h
  closed := by simpa [Tab.note, he.symm] using h.closed
  nothing := always_concat.mpr ⟨h.nothing, hnothing⟩

/-- The clock and the envelope say nothing of whose turn it is. -/
theorem timed (h : Sole t turn) (clock backoffMs : ℕ) :
    Sole { t with clock := clock, backoffMs := backoffMs } turn :=
  { h with }

/-- Nothing is created in a tab that is not closed before it is. -/
theorem not_closed (h : Sole t turn) (hclosed : t.closed = false) : .closed ∉ t.trace := by
  rw [← h.closed, hclosed]
  exact Bool.false_ne_true

/-- A reconnect is scheduled, since none is. -/
theorem scheduleReconnect_eq (h : Sole t .nobody) (hclosed : t.closed = false) :
    t.scheduleReconnect =
      { t with
        backoffMs := min (t.backoffMs * 2) reconnectMaxMs
        timers := t.timers ++ [(t.timerIds, t.clock + t.backoffMs)]
        timerIds := t.timerIds + 1
        reconnectTimer := some t.timerIds } := by
  have hnone : t.reconnectTimer = none := h.reconnectTimer
  unfold Tab.scheduleReconnect
  rw [if_neg (by simp [hclosed]), if_neg (by simp [hnone])]

theorem scheduleReconnect (h : Sole t .nobody) (hclosed : t.closed = false) :
    Sole t.scheduleReconnect (.timer t.timerIds (t.clock + t.backoffMs)) := by
  rw [h.scheduleReconnect_eq hclosed]
  exact
    { timers := by simp [h.timers, Turn.timers]
      reconnectTimer := rfl
      awaiting := h.awaiting
      live := fun i => by simpa using h.live i
      source := by simp
      survives := by simp [hclosed]
      closed := h.closed
      nothing := h.nothing }

theorem await (h : Sole t .nobody) (a : Await) : Sole (t.await a) (.awaited a) where
  timers := h.timers
  reconnectTimer := h.reconnectTimer
  awaiting := by simp [Tab.await, h.awaiting, Turn.awaiting]
  live i := by simpa [Tab.await] using h.live i
  source := by simp
  survives := fun _ => rfl
  closed := h.closed
  nothing := h.nothing

theorem connect (h : Sole t .nobody) (hclosed : t.closed = false) :
    Sole t.connect (.source t.sources) := by
  have hlive : ∀ i, Function.update t.ready t.sources .connecting i ≠ .closed ↔
      Turn.source t.sources = .source i := by
    intro i
    have hi := h.live i
    by_cases heq : i = t.sources
    · simp [heq]
    · rw [Function.update_of_ne heq, hi]
      simp [Ne.symm heq]
  refine note ?_ (.created t.sources) (by simp) (h.not_closed hclosed)
  exact
    { timers := h.timers
      reconnectTimer := h.reconnectTimer
      awaiting := h.awaiting
      live := hlive
      source := by simp
      survives := by simp [hclosed]
      closed := h.closed
      nothing := h.nothing }

theorem source_of_live (h : Sole t turn) {i : ℕ} (hi : t.ready i ≠ .closed) : t.source = some i :=
  h.source i ((h.live i).mp hi)

theorem closeSource (h : Sole t .nobody) : Sole { t.closeSource with source := none } .nobody := by
  rw [Tab.closeSource_eq fun i => h.source_of_live]
  exact { h with live := by simp, source := by simp }

theorem fired {id due : ℕ} (h : Sole t (.timer id due)) :
    Sole { t with timers := t.timers.filter (·.1 ≠ id), reconnectTimer := none } .nobody where
  timers := by simp [h.timers, Turn.timers]
  reconnectTimer := rfl
  awaiting := h.awaiting
  live i := by simpa using h.live i
  source := by simp
  survives := fun _ => rfl
  closed := h.closed
  nothing := h.nothing

theorem settled {a : Await} (h : Sole t (.awaited a)) : Sole { t with awaiting := [] } .nobody where
  timers := h.timers
  reconnectTimer := h.reconnectTimer
  awaiting := rfl
  live i := by simpa using h.live i
  source := by simp
  survives := fun _ => rfl
  closed := h.closed
  nothing := h.nothing

/-- A source that is live stays so while it is not closed. -/
theorem update {i : ℕ} {state : ReadyState} (h : Sole t (.source i)) (hstate : state ≠ .closed) :
    Sole { t with ready := Function.update t.ready i state } (.source i) := by
  refine { h with live := fun j => ?_ }
  by_cases heq : j = i
  · simp [heq, hstate]
  · simpa [Function.update_of_ne heq] using h.live j

/-- Once it is closed it is nobody's turn. -/
theorem ended {i : ℕ} (h : Sole t (.source i)) :
    Sole { t with ready := Function.update t.ready i .closed } .nobody where
  timers := h.timers
  reconnectTimer := h.reconnectTimer
  awaiting := h.awaiting
  live j := by
    by_cases heq : j = i
    · simp [heq]
    · simpa [Function.update_of_ne heq, Ne.symm heq] using h.live j
  source := by simp
  survives := fun _ => rfl
  closed := h.closed
  nothing := h.nothing

/-- `close` leaves no timer and no live source. -/
theorem close_eq (h : Sole t turn) :
    t.close =
      { t with
        closed := true
        timers := []
        reconnectTimer := none
        ready := fun _ => .closed
        trace := t.trace ++ [.closed] } := by
  have hlive : ∀ i, t.ready i ≠ .closed → t.source = some i := fun i => h.source_of_live
  have htimers := h.timers
  have hreconnect := h.reconnectTimer
  unfold Tab.close
  cases turn with
  | nobody | source _ | awaited _ =>
    simp only [Turn.timers, Turn.reconnectTimer] at htimers hreconnect
    simp only [hreconnect]
    rw [Tab.closeSource_eq (by exact hlive)]
    simp [Tab.note, htimers]
  | timer id due =>
    simp only [Turn.timers, Turn.reconnectTimer] at htimers hreconnect
    simp only [hreconnect]
    rw [Tab.closeSource_eq (by exact hlive)]
    simp [Tab.note, htimers]

theorem close (h : Sole t turn) : Sole t.close turn.close := by
  rw [h.close_eq]
  refine
    { timers := ?_
      reconnectTimer := ?_
      awaiting := ?_
      live := ?_
      source := ?_
      survives := ?_
      closed := by simp
      nothing := always_concat.mpr ⟨h.nothing, trivial⟩ }
  all_goals cases turn <;> simp [Turn.close, Turn.timers, Turn.reconnectTimer, h.awaiting,
    Turn.awaiting]

end Sole

/-! ### The envelope -/

namespace Held

variable {t : Tab} {turn : Turn}

theorem tick (h : Held t turn) {now : ℕ} (hnow : t.clock ≤ now) :
    Held { t with clock := now } turn where
  sole := h.sole.timed now t.backoffMs
  paced hfirst := by
    have hp := h.paced hfirst
    refine ⟨hp.backoff, hp.immediates, fun hclosed => ?_⟩
    have hpace := hp.pace hclosed
    cases turn with
    | awaited a =>
      cases a with
      | reauthorize =>
        obtain ⟨⟨failure, hfailure, hle⟩, hbackoff⟩ := hpace
        exact ⟨⟨failure, hfailure, hle.trans hnow⟩, hbackoff⟩
      | mint | refresh | remint => exact hpace
    | nobody | source _ | timer _ _ => exact hpace

theorem fail (h : Held t .nobody) : Held (t.note (.failed t.clock)) .nobody where
  sole := h.sole.note _ (by simp) trivial
  paced hfirst := by
    have hp := h.paced (always_concat.mp hfirst).1
    refine ⟨always_concat.mpr ⟨hp.backoff, trivial⟩, ?_, fun hclosed => ?_⟩
    · simpa [Tab.note, Streak.after] using hp.immediates
    · simpa [Pace, Tab.note, Streak.after] using hp.pace hclosed

theorem failed_note (t : Tab) : Failed (t.note (.failed t.clock)) :=
  ⟨t.clock, by simp [Tab.note, Streak.after], le_rfl⟩

/-- The wait is that of the envelope, and the envelope becomes the next. -/
theorem scheduleReconnect (h : Held t .nobody) (hclosed : t.closed = false)
    (hfailed : Always FirstRefresh t.trace → Failed t) :
    Held t.scheduleReconnect (.timer t.timerIds (t.clock + t.backoffMs)) where
  sole := h.sole.scheduleReconnect hclosed
  paced := by
    rw [h.sole.scheduleReconnect_eq hclosed]
    intro hfirst
    have hp := h.paced hfirst
    have hbackoff : t.backoffMs = delay (streak t.trace).waits := hp.pace hclosed
    refine ⟨hp.backoff, hp.immediates, fun _ => ?_⟩
    obtain ⟨failure, hfailure, hle⟩ := hfailed hfirst
    refine ⟨failure, hfailure, ?_, ?_⟩
    · rw [← hbackoff]
      omega
    · rw [delay_succ, ← hbackoff]

theorem await (h : Held t .nobody) {a : Await}
    (hfailed : a = .reauthorize → Always FirstRefresh t.trace → Failed t) :
    Held (t.await a) (.awaited a) where
  sole := h.sole.await a
  paced hfirst := by
    have hp := h.paced hfirst
    refine ⟨hp.backoff, hp.immediates, fun hclosed => ?_⟩
    cases a with
    | reauthorize => exact ⟨hfailed rfl hfirst, hp.pace hclosed⟩
    | mint | refresh | remint => exact hp.pace hclosed

theorem connect (h : Held t .nobody) (hclosed : t.closed = false) :
    Held t.connect (.source t.sources) where
  sole := h.sole.connect hclosed
  paced hfirst := by
    have hp := h.paced (always_concat.mp hfirst).1
    refine ⟨always_concat.mpr ⟨hp.backoff, trivial⟩, ?_, fun _ => ?_⟩
    · simpa [Tab.connect, Tab.note, Streak.after] using hp.immediates
    · simpa [Pace, Tab.connect, Tab.note, Streak.after] using hp.pace hclosed

theorem closeSource (h : Held t .nobody) :
    Held { t.closeSource with source := none } .nobody where
  sole := h.sole.closeSource
  paced := by
    rw [Tab.closeSource_eq fun i => h.sole.source_of_live]
    intro hfirst
    have hp := h.paced hfirst
    exact ⟨hp.backoff, hp.immediates, hp.pace⟩

/-- An attempt that may be made. -/
theorem openConnection {cause : Cause} (h : Held (t.note (.attempted cause t.clock)) .nobody)
    (hasToken : Bool) : ∃ turn, Held (t.openConnection cause hasToken) turn := by
  unfold Tab.openConnection
  cases hclosed : (t.note (.attempted cause t.clock)).closed with
  | true => exact ⟨.nobody, by simpa [hclosed] using h⟩
  | false =>
    have hclosed' : (t.note (.attempted cause t.clock)).closeSource.closed = false := by
      rw [Tab.closeSource_eq fun i => h.sole.source_of_live]
      exact hclosed
    cases hasToken with
    | true => exact ⟨_, by simpa [hclosed] using h.closeSource.await (a := .mint) (by simp)⟩
    | false => exact ⟨_, by simpa [hclosed] using h.closeSource.connect hclosed'⟩

theorem ticketed (h : Held t .nobody) (ticket : Option String) :
    ∃ turn, Held (t.ticketed ticket) turn := by
  unfold Tab.ticketed
  cases hclosed : t.closed with
  | true => exact ⟨.nobody, by simpa [hclosed] using h⟩
  | false =>
    cases hticket : truthy ticket with
    | true => exact ⟨_, by simpa [hclosed, hticket] using h.connect hclosed⟩
    | false =>
      have hsched := h.fail.scheduleReconnect hclosed fun _ => failed_note t
      exact ⟨_, by simpa [hclosed, hticket] using hsched⟩

/-- A timer fires, no earlier than it is due. -/
theorem fired {id due : ℕ} (h : Held t (.timer id due)) (hdue : due ≤ t.clock) :
    Held (({ t with
      timers := t.timers.filter (·.1 ≠ id)
      reconnectTimer := none } : Tab).note (.attempted .waited t.clock)) .nobody where
  sole := h.sole.fired.note _ (by simp) trivial
  paced hfirst := by
    have hp := h.paced (always_concat.mp hfirst).1
    have hopen : t.closed = false := by
      by_contra hclosed
      exact Turn.noConfusion (h.sole.survives (by simpa using hclosed))
    obtain ⟨failure, hfailure, hle, hbackoff⟩ := hp.pace hopen
    refine ⟨always_concat.mpr ⟨hp.backoff, failure, hfailure, hle.trans hdue⟩, ?_, fun _ => ?_⟩
    · simpa [Tab.note, Streak.after] using hp.immediates
    · simpa [Pace, Tab.note, Streak.after] using hbackoff

/-- The error handler got its first token, and the stream is opened again at once. -/
theorem reauthorized (h : Held t .nobody) :
    Held (({ t with backoffMs := reconnectInitialMs }.note .reauthorized).note
      (.attempted .immediate t.clock)) .nobody where
  sole :=
    have hsole := (h.sole.timed t.clock reconnectInitialMs).note .reauthorized (by simp) trivial
    hsole.note _ (by simp) trivial
  paced hfirst := by
    have hbefore := always_concat.mp (always_concat.mp hfirst).1
    have hp := h.paced hbefore.1
    obtain ⟨hnone, hwaits⟩ := hbefore.2
    have himmediates : (streak t.trace).immediates = 0 := hp.immediates.trans hnone
    refine ⟨always_concat.mpr ⟨always_concat.mpr ⟨hp.backoff, trivial⟩, ?_⟩, ?_, fun _ => ?_⟩
    · simpa [Backoff, streak_note, Streak.after] using himmediates
    · simpa [streak_note, Streak.after] using hp.immediates
    · have hwaits' : (streak t.trace).waits = 0 := hwaits
      simp only [Pace, streak_note, Streak.after, hwaits']
      exact delay_zero.symm

theorem settle {a : Await} {t' : Tab} {result : Settled} {hasToken : Bool} (h : Held t .nobody)
    (hfailed : t.closed = false → a = .reauthorize → Always FirstRefresh t.trace → Failed t)
    (hsettle : t.settle result hasToken a = some t') : ∃ turn, Held t' turn := by
  cases a with
  | mint =>
    cases result with
    | minted ticket =>
      obtain rfl := Option.some.inj hsettle
      split
      · exact ⟨_, h.await (by simp)⟩
      · exact h.ticketed ticket
    | threw =>
      obtain rfl := Option.some.inj hsettle
      exact h.ticketed none
    | refreshed keycloak => cases hsettle
  | refresh =>
    cases result with
    | refreshed keycloak =>
      obtain rfl := Option.some.inj hsettle
      split
      · exact ⟨_, h.await (by simp)⟩
      · exact h.ticketed none
    | threw =>
      obtain rfl := Option.some.inj hsettle
      exact h.ticketed none
    | minted ticket => cases hsettle
  | remint =>
    cases result with
    | minted ticket =>
      obtain rfl := Option.some.inj hsettle
      exact h.ticketed ticket
    | threw =>
      obtain rfl := Option.some.inj hsettle
      exact h.ticketed none
    | refreshed keycloak => cases hsettle
  | reauthorize =>
    cases result with
    | refreshed keycloak =>
      obtain rfl := Option.some.inj hsettle
      -- a tab that was closed meanwhile does nothing; a refresh with a token reopens at once
      split
      · exact ⟨_, h⟩
      · next hclosed =>
        split
        · exact h.reauthorized.openConnection hasToken
        · have hopen : t.closed = false := by simpa using hclosed
          exact ⟨_, h.scheduleReconnect hopen (hfailed hopen rfl)⟩
    | threw =>
      obtain rfl := Option.some.inj hsettle
      split
      · exact ⟨_, h⟩
      · next hclosed =>
        have hopen : t.closed = false := by simpa using hclosed
        exact ⟨_, h.scheduleReconnect hopen (hfailed hopen rfl)⟩
    | minted ticket => cases hsettle

theorem settled {a : Await} (h : Held t (.awaited a)) :
    Held { t with awaiting := [] } .nobody where
  sole := h.sole.settled
  paced hfirst := by
    have hp := h.paced hfirst
    refine ⟨hp.backoff, hp.immediates, fun hclosed => ?_⟩
    cases a with
    | reauthorize => exact (hp.pace hclosed).2
    | mint | refresh | remint => exact hp.pace hclosed

/-- After an `open` event the streak is empty and the envelope the first. -/
theorem sourceOpened {i : ℕ} (h : Held t (.source i)) : Held (t.sourceOpened i) (.source i) where
  sole :=
    have hopen : ReadyState.open ≠ .closed := by decide
    have hsole := (h.sole.update hopen).timed t.clock reconnectInitialMs
    hsole.note .opened (by simp) trivial
  paced hfirst := by
    have hp := h.paced (always_concat.mp hfirst).1
    refine ⟨always_concat.mpr ⟨hp.backoff, trivial⟩, ?_, fun _ => ?_⟩
    · simp [Tab.sourceOpened, Tab.note, Streak.after]
    · simp [Pace, Tab.sourceOpened, Tab.note, Streak.after, delay_zero]

theorem sourceFailed {i : ℕ} (h : Held t (.source i)) (fatal : Bool) :
    ∃ turn, Held (t.sourceFailed i fatal) turn := by
  unfold Tab.sourceFailed
  cases fatal with
  | false =>
    refine ⟨.source i, ⟨h.sole.update (by simp), fun hfirst => ?_⟩⟩
    have hp := h.paced hfirst
    exact ⟨hp.backoff, hp.immediates, hp.pace⟩
  | true =>
    have hended : Held { t with ready := Function.update t.ready i .closed } .nobody := by
      refine ⟨h.sole.ended, fun hfirst => ?_⟩
      have hp := h.paced hfirst
      exact ⟨hp.backoff, hp.immediates, hp.pace⟩
    simp only [if_true]
    split
    · exact ⟨_, hended⟩
    · exact ⟨_, hended.fail.await fun _ _ => failed_note _⟩

theorem close (h : Held t turn) : Held t.close turn.close where
  sole := h.sole.close
  paced := by
    rw [h.sole.close_eq]
    intro hfirst
    have hp := h.paced (always_concat.mp hfirst).1
    refine ⟨always_concat.mpr ⟨hp.backoff, trivial⟩, ?_, by simp⟩
    simpa [Streak.after] using hp.immediates

/-! ### Runs -/

/-- Whatever happens next, it is again the turn of one. -/
theorem step {t' : Tab} {now : ℕ} {action : Action} (h : Held t turn)
    (hstep : t.step now action = some t') : ∃ turn', Held t' turn' := by
  unfold Tab.step at hstep
  split at hstep
  · cases hstep
  next hnow =>
  have htick : Held { t with clock := now } turn := h.tick (by omega)
  cases action with
  | settle i result hasToken =>
    obtain ⟨a, ha, hsettle⟩ := Option.bind_eq_some_iff.mp hstep
    have hawaiting : t.awaiting[i]? = some a := ha
    rw [h.sole.awaiting] at hawaiting
    cases turn with
    | awaited b =>
      obtain ⟨rfl, rfl⟩ : i = 0 ∧ b = a := by
        cases i <;> simp_all [Turn.awaiting]
      have hempty : t.awaiting.eraseIdx 0 = [] := by simp [h.sole.awaiting, Turn.awaiting]
      rw [hempty] at hsettle
      refine htick.settled.settle (fun hclosed hb hfirst => ?_) hsettle
      subst hb
      exact ((htick.paced hfirst).pace hclosed).1
    | nobody | source _ | timer _ _ => simp [Turn.awaiting] at hawaiting
  | timer id hasToken =>
    simp only at hstep
    split at hstep
    next timer hfind =>
      have hmem := List.mem_of_find?_eq_some hfind
      have hid : timer.1 = id := by simpa using List.find?_some hfind
      replace hmem : timer ∈ turn.timers := h.sole.timers ▸ hmem
      cases turn with
      | timer id' due =>
        obtain rfl : timer = (id', due) := by simpa [Turn.timers] using hmem
        obtain rfl : id' = id := hid
        split at hstep
        next hdue =>
          obtain rfl := Option.some.inj hstep
          exact (htick.fired hdue).openConnection hasToken
        · cases hstep
      | nobody | source _ | awaited _ => simp [Turn.timers] at hmem
    · cases hstep
  | opened source =>
    simp only at hstep
    split at hstep
    next hready =>
      obtain rfl := Option.some.inj hstep
      obtain rfl := (htick.sole.live source).mp (by simp [hready])
      exact ⟨_, htick.sourceOpened⟩
    · cases hstep
  | failed source fatal =>
    simp only at hstep
    split at hstep
    · cases hstep
    next hready =>
      obtain rfl := Option.some.inj hstep
      obtain rfl := (htick.sole.live source).mp hready
      exact htick.sourceFailed fatal
  | close =>
    obtain rfl := Option.some.inj hstep
    exact ⟨_, htick.close⟩

theorem run {t' : Tab} {actions : List (ℕ × Action)} (h : Held t turn)
    (hrun : t.run actions = some t') : ∃ turn', Held t' turn' := by
  induction actions generalizing t turn with
  | nil =>
    obtain rfl := Option.some.inj hrun
    exact ⟨turn, h⟩
  | cons action actions ih =>
    obtain ⟨t₁, hstep, hrun⟩ := Option.bind_eq_some_iff.mp hrun
    obtain ⟨turn₁, h₁⟩ := h.step hstep
    exact ih h₁ hrun

end Held

/-- A subscription begins with its first attempt. -/
theorem held_subscribe (hasToken : Bool) (now : ℕ) :
    ∃ turn, Held (Tab.subscribe hasToken now) turn := by
  refine Held.openConnection ⟨?_, fun _ => ?_⟩ hasToken
  · exact
      { timers := rfl
        reconnectTimer := rfl
        awaiting := rfl
        live := by simp [Tab.note]
        source := by simp
        survives := fun _ => rfl
        closed := by simp [Tab.note]
        nothing := always_concat.mpr ⟨always_nil, trivial⟩ }
  · refine ⟨always_concat.mpr ⟨always_nil, trivial⟩, ?_, fun _ => ?_⟩
    · simp [Tab.note, streak, Streak.after]
    · simp [Pace, Tab.note, streak, Streak.after, delay_zero]

/-- **How the stream is reopened.** In every run there is one timer at most and one source that is
not closed, no source is created after `close`, and if the error handler gets a token once between
two `open` events, and before any wait, every attempt comes when it may. -/
theorem backoff_of_run {hasToken : Bool} {now : ℕ} {actions : List (ℕ × Action)} {t : Tab}
    (hrun : (Tab.subscribe hasToken now).run actions = some t) :
    t.timers.length ≤ 1 ∧ (∀ i j, t.ready i ≠ .closed → t.ready j ≠ .closed → i = j) ∧
      Always NothingAfterClose t.trace ∧
      (Always FirstRefresh t.trace → Always Backoff t.trace) := by
  obtain ⟨turn, hsubscribe⟩ := held_subscribe hasToken now
  obtain ⟨turn, hturn⟩ := hsubscribe.run hrun
  refine ⟨?_, fun i j hi hj => ?_, hturn.sole.nothing, fun hfirst => (hturn.paced hfirst).backoff⟩
  · rw [hturn.sole.timers]
    cases turn <;> simp [Turn.timers]
  · have hsource := hturn.sole.source_of_live hi
    rw [hturn.sole.source_of_live hj] at hsource
    exact (Option.some.inj hsource).symm

/-- A stream that is refused twice, with nobody signed in. -/
def refused : List (ℕ × Action) :=
  [(5, .failed 0 true), (6, .settle 0 (.refreshed none) false), (1006, .timer 0 false),
    (1010, .failed 1 true), (1011, .settle 0 (.refreshed none) false), (3011, .timer 1 false)]

theorem firstRefresh_of_not_mem {past : List Event} (h : .reauthorized ∉ past) :
    Always FirstRefresh past := by
  rintro before e after rfl
  cases e with
  | reauthorized => simp at h
  | _ => trivial

theorem backoff_of_refused :
    ∃ t, (Tab.subscribe false 0).run refused = some t ∧ Always Backoff t.trace := by
  have hruns : ((Tab.subscribe false 0).run refused).map Tab.trace =
      some [.attempted .initial 0, .created 0, .failed 5, .attempted .waited 1006, .created 1,
        .failed 1010, .attempted .waited 3011, .created 2] := rfl
  obtain ⟨t, hrun, htrace⟩ := Option.map_eq_some_iff.mp hruns
  refine ⟨t, hrun, (backoff_of_run hrun).2.2.2 (firstRefresh_of_not_mem ?_)⟩
  rw [htrace]
  decide

/-- A stream that is refused while the token is valid: each refresh resolves and changes nothing. -/
def forbidden : List (ℕ × Action) :=
  [(10, .settle 0 (.minted (some "ticket")) true), (20, .failed 0 true),
    (30, .settle 0 (.refreshed (some (.resolves (some "jwt")))) true),
    (40, .settle 0 (.minted (some "ticket")) true), (50, .failed 1 true),
    (60, .settle 0 (.refreshed (some (.resolves (some "jwt")))) true)]

/-- The stream is reopened at once after the first failure and after the second. -/
theorem reconnect_storm :
    ¬ ∀ hasToken now actions t, (Tab.subscribe hasToken now).run actions = some t →
      t.timers.length ≤ 1 ∧ (∀ i j, t.ready i ≠ .closed → t.ready j ≠ .closed → i = j) ∧
        Always NothingAfterClose t.trace ∧ Always Backoff t.trace := by
  intro h
  have hruns : ((Tab.subscribe true 0).run forbidden).map Tab.trace =
      some [.attempted .initial 0, .created 0, .failed 20, .reauthorized, .attempted .immediate 30,
        .created 1, .failed 50, .reauthorized, .attempted .immediate 60] := rfl
  obtain ⟨t, hrun, htrace⟩ := Option.map_eq_some_iff.mp hruns
  have hsecond := (h true 0 forbidden t hrun).2.2.2
    [.attempted .initial 0, .created 0, .failed 20, .reauthorized, .attempted .immediate 30,
      .created 1, .failed 50, .reauthorized]
    (.attempted .immediate 60) [] htrace
  simp [Backoff, streak, Streak.after] at hsecond

end ClusterManager.Ui
