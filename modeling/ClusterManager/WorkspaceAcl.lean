import ClusterManager.Db.Requests

/-!
# Workspace visibility

The one rule of the REST gate and the SSE filter, over any program that can look a workspace up.
-/

namespace ClusterManager

open Db

section

variable {ρ : Type} {resp : ρ → Type}
  (getWorkspace : String → Coroutine ρ resp Exc (Option Workspace))

/-- Owned by the caller or by the system; a missing row is not. -/
def ownedOrShared (ws : Option Workspace) (callerOwnerId : String) : Bool :=
  ws.any fun ws => ws.ownerId = callerOwnerId ∨ ws.ownerId = systemOwnerId

/-- What the gates refuse by is the negation of the rule. -/
theorem foreign_iff {ws : Workspace} {callerOwnerId : String} :
    (ws.ownerId ≠ callerOwnerId ∧ ws.ownerId ≠ systemOwnerId) ↔
      ¬ownedOrShared (some ws) callerOwnerId = true := by
  rw [ownedOrShared, Option.any_some, decide_eq_true_iff, not_or]

/-- `is_workspace_visible`: permissive without a database. -/
def isWorkspaceVisible (workspaceId callerOwnerId : String) : Coroutine ρ resp Exc Bool :=
  (do return ownedOrShared (← getWorkspace workspaceId) callerOwnerId : Coroutine ρ resp Exc Bool)
    |>.tryCatch fun
      | .dbNotInitialized => return true
      | e => throw e

/-- `is_cr_visible`: an unlabelled CR is the system caller's alone. -/
def isCrVisible (workspaceId : Option String) (callerOwnerId : String) (strict : Bool := false) :
    Coroutine ρ resp Exc Bool :=
  match workspaceId with
  | none => return decide (callerOwnerId = systemOwnerId)
  | some workspaceId =>
      if strict then
        (do return ownedOrShared (← getWorkspace workspaceId) callerOwnerId :
          Coroutine ρ resp Exc Bool).tryCatch fun
            | .dbNotInitialized => return false
            | e => throw e
      else isWorkspaceVisible getWorkspace workspaceId callerOwnerId

/-- What the check asks of the lookup. -/
theorem safe_isWorkspaceVisible {σ : Type} {next : (r : ρ) → Except Exc (resp r) → σ → σ → Prop}
    {Φ : ρ → σ → Prop} {s : σ} {Q : Bool → σ → Prop} {E : Exc → σ → Prop}
    {workspaceId callerOwnerId : String} :
    (isWorkspaceVisible getWorkspace workspaceId callerOwnerId).Safe next Φ s Q E ↔
      (getWorkspace workspaceId).Safe next Φ s (fun ws => Q (ownedOrShared ws callerOwnerId))
        fun e s => if e = .dbNotInitialized then Q true s else E e s := by
  rw [isWorkspaceVisible, Coroutine.safe_tryCatch, Coroutine.safe_bind]
  refine iff_of_eq (congrArg _ (funext fun e => funext fun s => ?_))
  cases e <;> rfl

end

/-- What the rule says of a workspace id, given the tables. A row that cannot be read is nobody's. -/
def visibleIn (t : Tables) (callerOwnerId workspaceId : String) : Bool :=
  match Db.getWorkspace workspaceId t with
  | .ok ws => ownedOrShared ws callerOwnerId
  | .error _ => false

/-- What the rule says of the workspace of a CR. -/
def crVisibleIn (t : Tables) (callerOwnerId : String) : Option String → Bool
  | none => decide (callerOwnerId = systemOwnerId)
  | some workspaceId => visibleIn t callerOwnerId workspaceId

theorem visibleIn_of_ok {t : Tables} {callerOwnerId workspaceId : String} {ws : Option Workspace}
    (h : Db.getWorkspace workspaceId t = .ok ws) :
    visibleIn t callerOwnerId workspaceId = ownedOrShared ws callerOwnerId := by
  rw [visibleIn, h]

/-- A visible workspace was found. -/
theorem exists_of_visibleIn {t : Tables} {callerOwnerId workspaceId : String}
    (h : visibleIn t callerOwnerId workspaceId = true) :
    ∃ ws, Db.getWorkspace workspaceId t = .ok (some ws) ∧
      ownedOrShared (some ws) callerOwnerId = true := by
  unfold visibleIn at h
  split at h
  next found hfound =>
    cases found with
    | none => cases h
    | some ws => exact ⟨ws, hfound, h⟩
  next => cases h

end ClusterManager
