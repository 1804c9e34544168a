import Mathlib.Data.Nat.Notation
import ClusterManager.Lib.Machine

/-!
# Reads that end with their client

`run_cancellable` runs a read as a task of its own, and asks between two waits whether the client
is still there. Each stretch of the coroutine between two awaits is a function of the call; what
can happen at an await is an event. While the work runs, `asyncio` may resume the call, another
task may cancel it, and the work may end or be cancelled by others.

`call_settles` says what holds of every call of which the probes raise nothing but `TimeoutError`
while the work runs. `call_abandons` is a call of which one does.
-/

namespace ClusterManager.Middleware

open Machine

/-- `ClientDisconnected`. -/
structure ClientDisconnected where
  label : String

/-- The text of the exception. -/
def ClientDisconnected.message (e : ClientDisconnected) : String :=
  "client disconnected during " ++ e.label ++ "; work cancelled"

/-- How a task ended. -/
inductive Outcome (α ε : Type)
  | returned (a : α)
  | raised (e : ε)
  | cancelled

/-- An exception as `run_cancellable` meets it. -/
inductive Raised (ε : Type)
  | clientDisconnected (e : ClientDisconnected)
  | cancelledError
  | error (e : ε)

/-- What becomes of `asyncio.wait_for(request.is_disconnected(), _PROBE_TIMEOUT_S)`. -/
inductive Probe (ε : Type)
  | answered (gone : Bool)
  | timeoutError
  | cancelledError
  | raised (e : ε)

/-- The four awaits, in the order of the source. -/
inductive Await
  | wait
  | probe
  | gather
  | gatherInHandler

/-- Where the call stands. -/
inductive Control (α ε : Type)
  | awaiting (a : Await)
  | done (result : Except (Raised ε) α)

/-- A call of `run_cancellable`, and what happened to it. -/
structure Call (α ε : Type) where
  label : String
  /-- The task `work`, once it ended. -/
  work : Option (Outcome α ε) := none
  control : Control α ε := .awaiting .wait
  /-- The work was asked to stop while it ran. -/
  workCancelled : Bool := false
  /-- The call was cancelled while it gathered the work. -/
  gatherCancelled : Bool := false
  callerCancelled : Bool := false
  /-- A probe said that the client is gone. -/
  reportedGone : Bool := false
  /-- What a probe raised. -/
  probeRaised : Option ε := none

variable {α ε : Type}

/-! ### The code between the awaits -/

/-- `work.result()`. -/
def Outcome.result : Outcome α ε → Except (Raised ε) α
  | returned a => .ok a
  | raised e => .error (.error e)
  | cancelled => .error .cancelledError

/-- `_client_is_gone`. -/
def clientIsGone : Probe ε → Except (Raised ε) Bool
  | .answered gone => .ok gone
  | .timeoutError => .ok false
  | .cancelledError => .error .cancelledError
  | .raised e => .error (.error e)

namespace Call

/-- `work.cancel()`, which does nothing to a task that has ended. -/
def cancelWork (c : Call α ε) : Call α ε :=
  { c with workCancelled := c.workCancelled || c.work.isNone }

/-- The call returns or raises. -/
def finish (c : Call α ε) (result : Except (Raised ε) α) : Call α ε :=
  { c with control := .done result }

/-- An exception inside `try`. The handler takes the work down with a cancelled call. -/
def raiseInTry (c : Call α ε) : Raised ε → Call α ε
  | .cancelledError => { c.cancelWork with control := .awaiting .gatherInHandler }
  | .clientDisconnected e => c.finish (.error (.clientDisconnected e))
  | .error e => c.finish (.error (.error e))

/-- `asyncio.wait` returns, with the work in `done` if it has ended. -/
def afterWait (c : Call α ε) : Call α ε :=
  match c.work with
  | some outcome =>
      match outcome.result with
      | .ok a => c.finish (.ok a)
      -- Work that was cancelled by others raises here and comes to the handler.
      | .error r => c.raiseInTry r
  | none => { c with control := .awaiting .probe }

/-- `_client_is_gone` returns or raises. -/
def afterProbe (c : Call α ε) : Except (Raised ε) Bool → Call α ε
  | .ok true => { c.cancelWork with control := .awaiting .gather }
  | .ok false => { c with control := .awaiting .wait }
  | .error r => c.raiseInTry r

/-- The first `asyncio.gather` ends. It raises if it was cancelled itself. -/
def afterGather (c : Call α ε) : Call α ε :=
  if c.gatherCancelled then { c with gatherCancelled := false }.raiseInTry .cancelledError
  else c.raiseInTry (.clientDisconnected ⟨c.label⟩)

/-- The `asyncio.gather` of the handler ends. Cancelled or not, a cancellation is raised. -/
def afterGatherInHandler (c : Call α ε) : Call α ε := c.finish (.error .cancelledError)

/-- The call before its first await. -/
def start (label : String) : Call α ε := { label }

end Call

/-! ### Steps -/

/-- What can happen. -/
inductive Event (α ε : Type)
  | workEnds (outcome : Outcome α ε)
  /-- The wait is over, because the work ended or because of its timeout. -/
  | waited
  | probed (p : Probe ε)
  | gathered
  /-- The call is cancelled. The scope in which a probe runs can absorb that. -/
  | cancelCaller (absorbed : Bool)

/-- What a probe comes to is noted before the code goes on. -/
def Call.note (c : Call α ε) : Probe ε → Call α ε
  | .answered gone => { c with reportedGone := c.reportedGone || gone }
  | .raised e => { c with probeRaised := some e }
  | .timeoutError | .cancelledError => c

/-- The call is cancelled at an await. A gather hands that on to the work and goes on until the
work has ended. -/
def Call.cancelAt (c : Call α ε) (absorbed : Bool) : Await → Call α ε
  | .wait => c.raiseInTry .cancelledError
  | .probe => if absorbed then c else c.raiseInTry .cancelledError
  -- `gather` cancels its children, and raises once they have ended.
  | .gather | .gatherInHandler => { c.cancelWork with gatherCancelled := true }

/-- One event. The call is cancelled once at most, and a gather ends after the work has. -/
def step (c : Call α ε) : Event α ε → Option (Call α ε)
  | .workEnds outcome => if c.work.isNone then some { c with work := some outcome } else none
  | .waited =>
      match c.control with
      | .awaiting .wait => some c.afterWait
      | _ => none
  | .probed p =>
      match c.control with
      | .awaiting .probe => some ((c.note p).afterProbe (clientIsGone p))
      | _ => none
  | .gathered =>
      match c.control, c.work with
      | .awaiting .gather, some _ => some c.afterGather
      | .awaiting .gatherInHandler, some _ => some c.afterGatherInHandler
      | _, _ => none
  | .cancelCaller absorbed =>
      match c.control, c.callerCancelled with
      | .awaiting a, false => some ({ c with callerCancelled := true }.cancelAt absorbed a)
      | _, _ => none

/-! ### What a call leaves behind -/

/-- The reason for a result: it is that of the work, or what a probe raised; the client was reported
gone; the call or the work was cancelled. -/
def Justified (c : Call α ε) : Except (Raised ε) α → Prop
  | .ok a => c.work = some (.returned a)
  | .error (.error e) => c.work = some (.raised e) ∨ c.probeRaised = some e
  | .error (.clientDisconnected e) => c.reportedGone = true ∧ e.label = c.label
  | .error .cancelledError => c.callerCancelled = true ∨ c.work = some .cancelled

/-- A call that is over leaves no work that runs, and has a reason for its result. The work is asked
to stop only for a client that was reported gone or with a cancelled call. -/
structure Settled (c : Call α ε) : Prop where
  done : ∀ result, c.control = .done result → c.work.isSome ∧ Justified c result
  kept : c.workCancelled = true → c.reportedGone = true ∨ c.callerCancelled = true

/-- What a probe raises other than `TimeoutError` does no harm: an error that finds the work ended,
or a cancellation after the call or the work was cancelled. -/
def Harmless (c : Call α ε) : Event α ε → Prop
  | .probed (.raised _) => c.work.isSome
  | .probed .cancelledError => c.callerCancelled = true ∨ c.work = some .cancelled
  | _ => True

/-- What is known where the call stands. -/
def Stands (c : Call α ε) : Control α ε → Prop
  | .awaiting .wait | .awaiting .probe => True
  | .awaiting .gather => c.reportedGone = true
  | .awaiting .gatherInHandler => c.callerCancelled = true ∨ c.work = some .cancelled
  | .done result => c.work.isSome ∧ Justified c result

/-- What every harmless event keeps. -/
structure Inv (c : Call α ε) : Prop where
  stands : Stands c c.control
  kept : c.workCancelled = true → c.reportedGone = true ∨ c.callerCancelled = true
  gatherCancelled : c.gatherCancelled = true → c.callerCancelled = true

variable {c c' : Call α ε}

theorem Inv.settled (h : Inv c) : Settled c where
  done result hdone := by
    have hstands := h.stands
    rwa [hdone] at hstands
  kept := h.kept

theorem inv_start (label : String) : Inv (.start label : Call α ε) :=
  ⟨trivial, nofun, nofun⟩

/-- A call that is over, with the work ended and a reason. -/
theorem Inv.finish (h : Inv c) {result : Except (Raised ε) α} (hwork : c.work.isSome)
    (hreason : Justified c result) : Inv (c.finish result) := by
  refine ⟨⟨hwork, ?_⟩, h.kept, h.gatherCancelled⟩
  match result, hreason with
  | .ok _, hreason => exact hreason
  | .error (.error _), hreason => exact hreason
  | .error (.clientDisconnected _), hreason => exact hreason
  | .error .cancelledError, hreason => exact hreason

/-- The work is asked to stop for a reason. -/
theorem kept_cancelWork (h : Inv c)
    (hreason : c.work = none → c.reportedGone = true ∨ c.callerCancelled = true) :
    c.cancelWork.workCancelled = true → c.reportedGone = true ∨ c.callerCancelled = true := by
  intro hcancel
  rcases Bool.or_eq_true_iff.1 hcancel with hbefore | hnone
  · exact h.kept hbefore
  · exact hreason (Option.isNone_iff_eq_none.1 hnone)

/-- The handler of a cancellation. -/
theorem Inv.handle (h : Inv c) (hreason : c.callerCancelled = true ∨ c.work = some .cancelled) :
    Inv (c.raiseInTry .cancelledError) := by
  refine ⟨hreason, kept_cancelWork h fun hnone => ?_, h.gatherCancelled⟩
  rcases hreason with hcaller | hwork
  · exact Or.inr hcaller
  · rw [hnone] at hwork
    cases hwork

/-- The work ended: its result is the result of the call, and a cancellation goes to the handler. -/
theorem Inv.afterWait (h : Inv c) : Inv c.afterWait := by
  unfold Call.afterWait
  split
  next outcome hwork =>
    have hsome : c.work.isSome := by rw [hwork]; rfl
    cases outcome with
    | returned a => exact h.finish hsome hwork
    | raised e => exact h.finish hsome (Or.inl hwork)
    | cancelled => exact h.handle (Or.inr hwork)
  next => exact ⟨trivial, h.kept, h.gatherCancelled⟩

/-- A harmless probe. Its answer is noted before the work is asked to stop. -/
theorem Inv.afterProbe (h : Inv c) {p : Probe ε} (hp : Harmless c (.probed p)) :
    Inv ((c.note p).afterProbe (clientIsGone p)) := by
  cases p with
  | answered gone =>
    cases gone with
    | true =>
      have hgone : (c.note (.answered true)).reportedGone = true := Bool.or_true _
      exact ⟨hgone, fun _ => Or.inl hgone, h.gatherCancelled⟩
    | false =>
      refine ⟨trivial, fun hcancel => ?_, h.gatherCancelled⟩
      rcases h.kept hcancel with hgone | hcaller
      · exact Or.inl (Bool.or_eq_true_iff.2 (Or.inl hgone))
      · exact Or.inr hcaller
  | timeoutError => exact ⟨trivial, h.kept, h.gatherCancelled⟩
  | cancelledError => exact h.handle hp
  | raised e => exact ⟨⟨hp, Or.inr rfl⟩, h.kept, h.gatherCancelled⟩

theorem Inv.afterGather (h : Inv c) (hc : c.control = .awaiting .gather) (hwork : c.work.isSome) :
    Inv c.afterGather := by
  have hgone : Stands c (.awaiting .gather) := hc ▸ h.stands
  unfold Call.afterGather
  split
  next hcancelled =>
    have hcaller := h.gatherCancelled hcancelled
    exact Inv.handle (c := { c with gatherCancelled := false }) ⟨h.stands, h.kept, nofun⟩
      (Or.inl hcaller)
  next => exact h.finish hwork ⟨hgone, rfl⟩

theorem Inv.afterGatherInHandler (h : Inv c) (hc : c.control = .awaiting .gatherInHandler)
    (hwork : c.work.isSome) : Inv c.afterGatherInHandler := by
  have hreason : Stands c (.awaiting .gatherInHandler) := hc ▸ h.stands
  exact h.finish hwork hreason

/-- The cancellation of the call is a reason to stop the work wherever it is met. -/
theorem Inv.cancelAt (h : Inv c) (absorbed : Bool) {a : Await} (hc : c.control = .awaiting a) :
    Inv ({ c with callerCancelled := true }.cancelAt absorbed a) := by
  have hstands : Stands { c with callerCancelled := true } (.awaiting a) := by
    have hstands : Stands c (.awaiting a) := hc ▸ h.stands
    cases a with
    | wait => trivial
    | probe => trivial
    | gather => exact hstands
    | gatherInHandler => exact Or.inl rfl
  have hinv : Inv { c with callerCancelled := true } :=
    ⟨by rw [show _ = Control.awaiting a from hc]; exact hstands, fun _ => Or.inr rfl, fun _ => rfl⟩
  cases a with
  | wait => exact hinv.handle (Or.inl rfl)
  | probe =>
    cases absorbed with
    | true => exact hinv
    | false => exact hinv.handle (Or.inl rfl)
  | gather => exact ⟨hinv.stands, fun _ => Or.inr rfl, fun _ => rfl⟩
  | gatherInHandler => exact ⟨hinv.stands, fun _ => Or.inr rfl, fun _ => rfl⟩

/-- The work ends while the call stands anywhere but at its end. -/
theorem Inv.workEnds (h : Inv c) {outcome : Outcome α ε} (hnone : c.work.isNone) :
    Inv { c with work := some outcome } := by
  refine ⟨?_, h.kept, h.gatherCancelled⟩
  have hstands := h.stands
  show Stands { c with work := some outcome } c.control
  rw [Option.isNone_iff_eq_none] at hnone
  match hcontrol : c.control, hstands with
  | .awaiting .wait, _ => trivial
  | .awaiting .probe, _ => trivial
  | .awaiting .gather, hgone => exact hgone
  | .awaiting .gatherInHandler, hreason =>
    rcases hreason with hcaller | hwork
    · exact Or.inl hcaller
    · rw [hnone] at hwork
      cases hwork
  | .done _, hdone =>
    have hsome : c.work.isSome := hdone.1
    rw [hnone] at hsome
    cases hsome

/-- A harmless event keeps what is known. -/
theorem inv_step (e : Event α ε) (h : Inv c) (he : Harmless c e) (hstep : step c e = some c') :
    Inv c' := by
  cases e with
  | workEnds outcome =>
    obtain ⟨hnone, rfl⟩ := by simpa [step] using hstep
    exact h.workEnds (Option.isNone_iff_eq_none.2 hnone)
  | waited =>
    simp only [step] at hstep
    split at hstep
    · cases hstep
      exact h.afterWait
    · cases hstep
  | probed p =>
    simp only [step] at hstep
    split at hstep
    · cases hstep
      exact h.afterProbe he
    · cases hstep
  | gathered =>
    simp only [step] at hstep
    split at hstep
    next hc hwork =>
      cases hstep
      exact h.afterGather hc (by rw [hwork]; rfl)
    next hc hwork =>
      cases hstep
      exact h.afterGatherInHandler hc (by rw [hwork]; rfl)
    next => cases hstep
  | cancelCaller absorbed =>
    simp only [step] at hstep
    split at hstep
    next a hc hcaller =>
      cases hstep
      exact h.cancelAt absorbed hc
    next => cases hstep

/-- However the work, the waits, the probes and a cancellation are interleaved: a call of which the
probes do no harm leaves no work that runs, and its result has its reason. -/
theorem call_settles (label : String) (es : List (Event α ε))
    (h : Guarded step Harmless (.start label) es) : Always step Settled (.start label) es :=
  (always_of_guarded (fun _ e _ hinv he hstep => inv_step e hinv he hstep) (inv_start label) h).imp
    fun _ => Inv.settled

/-- A probe that is not answered in time, then a cancellation, which the work obeys. -/
theorem call_settles_cancelled : Always step Settled (.start "scan" : Call ℕ String)
    [.waited, .probed .timeoutError, .cancelCaller false, .workEnds .cancelled, .gathered] := by
  refine call_settles "scan" _ ?_
  simp [Guarded, step, Harmless]

/-- A probe raises while the work runs: the call is over and the work is not. -/
theorem call_abandons : ¬∀ (label : String) (es : List (Event ℕ String)),
    Always step Settled (.start label) es := by
  intro h
  have hsettled := (h "scan" [.waited, .probed (.raised "RuntimeError")]).run rfl
  exact absurd (hsettled.done _ rfl).1 (by decide)

end ClusterManager.Middleware
