import Mathlib.Data.Nat.Notation

/-!
# Exceptions

The exceptions the modelled code raises, catches and turns into answers. `except Exception`
catches all of them but the two at the end, which derive from `BaseException` alone.
-/

namespace ClusterManager

/-- The exceptions of the modelled code. -/
inductive Exc
  /-- `DBNotInitialized`. -/
  | dbNotInitialized
  /-- A `UNIQUE` constraint refused a row. -/
  | integrityError
  /-- Any other error of the database driver. -/
  | databaseError (message : String)
  /-- pydantic's `ValidationError`. -/
  | validationError
  /-- `decrypt_password` met a token of another key. -/
  | kekMismatch
  /-- `ConnectionNotFoundError`. -/
  | connectionNotFound (connId : String)
  /-- `WorkspaceNotFoundError`. -/
  | workspaceNotFound (workspaceId : String)
  /-- `WorkspaceHasConnectionsError`. -/
  | workspaceHasConnections (workspaceId : String) (count : ℕ)
  /-- `WorkspaceIsDefaultError`. -/
  | workspaceIsDefault (workspaceId : String)
  /-- `BlockedConnectionTargetError`. -/
  | blockedTarget (host : String)
  /-- Python's `AttributeError`, `TypeError` and `KeyError` on a value of the wrong shape. -/
  | typeError
  /-- `K8sApiError`. -/
  | k8sApi (status : ℕ) (reason message : String)
  /-- FastAPI's `HTTPException`. -/
  | http (status : ℕ) (detail : String)
  /-- Any other subclass of `Exception`. -/
  | other (name : String)
  /-- `asyncio.CancelledError`. -/
  | cancelled
  /-- Any other `BaseException` that is no `Exception`. -/
  | baseException (name : String)
  deriving DecidableEq, Repr

/-- Whether `except Exception` catches it. -/
def Exc.isException : Exc → Bool
  | .cancelled => false
  | .baseException _ => false
  | _ => true

/-- The text the service layer gives its exceptions. -/
def Exc.message : Exc → String
  | .dbNotInitialized => "Database not initialized. Call init_db() first."
  | .kekMismatch =>
      "Failed to decrypt stored connection password: KEK mismatch. "
        ++ "If you recently rotated ACM_PASSWORD_KEK, you must re-encrypt "
        ++ "the password column with the new key (or restore the previous "
        ++ "key). For ephemeral-mode dev environments this is expected "
        ++ "after a restart — recreate the connection profile."
  | .connectionNotFound connId => "Connection '" ++ connId ++ "' not found"
  | .workspaceNotFound workspaceId => "Workspace '" ++ workspaceId ++ "' not found"
  | .workspaceHasConnections workspaceId count =>
      "Workspace '" ++ workspaceId ++ "' still has " ++ toString count ++ " connection(s). "
        ++ "Move or delete them before deleting the workspace."
  | .workspaceIsDefault _ => "The default workspace cannot be deleted"
  | .databaseError message => message
  | .k8sApi _ _ message => message
  | .http _ detail => detail
  | _ => ""

theorem ok_bind {ε α β : Type} {a : α} {f : α → Except ε β} : (.ok a : Except ε α) >>= f = f a :=
  rfl

theorem bind_eq_ok {ε α β : Type} {x : Except ε α} {f : α → Except ε β} {b : β} :
    x.bind f = .ok b ↔ ∃ a, x = .ok a ∧ f a = .ok b := by
  cases x <;> simp [Except.bind]

theorem map_eq_ok {ε α β : Type} {x : Except ε α} {f : α → β} {b : β} :
    x.map f = .ok b ↔ ∃ a, x = .ok a ∧ f a = b := by
  cases x <;> simp [Except.map]

theorem mapError_eq_ok {ε ε' α : Type} {x : Except ε α} {f : ε → ε'} {a : α} :
    x.mapError f = .ok a ↔ x = .ok a := by
  cases x with
  | ok b => exact ⟨fun h => congrArg Except.ok (Except.ok.inj h), fun h => congrArg _ h⟩
  | error e =>
    refine iff_of_false (fun h => ?_) fun h => ?_
    · cases h
    · cases h

/-- A computation that returned got there through its first step. -/
theorem exists_of_bind_ok {ε α β : Type} {x : Except ε α} {f : α → Except ε β} {b : β}
    (h : x >>= f = .ok b) : ∃ a, x = .ok a ∧ f a = .ok b :=
  bind_eq_ok.1 h

/-- A computation that raised did so in its first step or in the rest. -/
theorem exists_of_bind_error {ε α β : Type} {x : Except ε α} {f : α → Except ε β} {e : ε}
    (h : x >>= f = .error e) : x = .error e ∨ ∃ a, x = .ok a ∧ f a = .error e := by
  cases x with
  | error e' =>
    cases h
    exact Or.inl rfl
  | ok a => exact Or.inr ⟨a, rfl, h⟩

/-! ### Comprehensions -/

section Comprehension

variable {ε α β : Type}

/-- `[a for a in l if p(a)]`, where the condition may raise. -/
def filterE (p : α → Except ε Bool) : List α → Except ε (List α)
  | [] => .ok []
  | a :: l => do
      let keep ← p a
      let rest ← filterE p l
      return if keep then a :: rest else rest

theorem filterE_ok {p : α → Except ε Bool} {q : α → Bool} {l : List α}
    (h : ∀ a ∈ l, p a = .ok (q a)) : filterE p l = .ok (l.filter q) := by
  induction l with
  | nil => rfl
  | cons a l ih =>
    rw [filterE, h a List.mem_cons_self, ih fun b hb => h b (List.mem_cons_of_mem _ hb)]
    cases hq : q a <;> simp [hq, bind, Except.bind, pure, Except.pure]

theorem filterE_map {p : β → Except ε Bool} {f : α → β} {l : List α} :
    filterE p (l.map f) = (filterE (fun a => p (f a)) l).map (List.map f) := by
  induction l with
  | nil => rfl
  | cons a l ih =>
    simp only [List.map_cons, filterE, ih]
    cases p (f a) with
    | error e => rfl
    | ok keep =>
      cases filterE (fun a => p (f a)) l with
      | error e => rfl
      | ok rest => cases keep <;> rfl

/-- What a filter keeps that raised nothing. -/
theorem mem_filterE {p : α → Except ε Bool} {l l' : List α} (h : filterE p l = .ok l') :
    (∀ a ∈ l, ∃ keep, p a = .ok keep) ∧ ∀ a, a ∈ l' ↔ a ∈ l ∧ p a = .ok true := by
  induction l generalizing l' with
  | nil =>
    cases h
    simp
  | cons a l ih =>
    obtain ⟨keep, hkeep, h⟩ := exists_of_bind_ok h
    obtain ⟨rest, hrest, h⟩ := exists_of_bind_ok h
    obtain ⟨hall, hmem⟩ := ih hrest
    refine ⟨fun b hb => ?_, fun b => ?_⟩
    · rcases List.mem_cons.1 hb with rfl | hb
      · exact ⟨keep, hkeep⟩
      · exact hall b hb
    · cases keep with
      | true =>
        obtain rfl := Except.ok.inj h
        simp only [if_true, List.mem_cons, hmem]
        constructor
        · rintro (rfl | ⟨hb, hp⟩)
          · exact ⟨Or.inl rfl, hkeep⟩
          · exact ⟨Or.inr hb, hp⟩
        · rintro ⟨rfl | hb, hp⟩
          · exact Or.inl rfl
          · exact Or.inr ⟨hb, hp⟩
      | false =>
        obtain rfl := Except.ok.inj h
        simp only [Bool.false_eq_true, if_false, List.mem_cons, hmem]
        constructor
        · rintro ⟨hb, hp⟩
          exact ⟨Or.inr hb, hp⟩
        · rintro ⟨rfl | hb, hp⟩
          · rw [hkeep] at hp
            cases hp
          · exact ⟨hb, hp⟩

/-- A filter raises what its test raises. -/
theorem exists_of_filterE_error {p : α → Except ε Bool} {l : List α} {e : ε}
    (h : filterE p l = .error e) : ∃ a ∈ l, p a = .error e := by
  induction l with
  | nil => cases h
  | cons a l ih =>
    rcases exists_of_bind_error h with ha | ⟨keep, -, h⟩
    · exact ⟨a, List.mem_cons_self, ha⟩
    · rcases exists_of_bind_error h with hrest | ⟨rest, -, h⟩
      · obtain ⟨b, hb, hp⟩ := ih hrest
        exact ⟨b, List.mem_cons_of_mem _ hb, hp⟩
      · cases h

/-- An element of a mapped list comes from an element of the list, and each one gives one. -/
theorem mem_mapM {f : α → Except ε β} {l : List α} {l' : List β} (h : l.mapM f = .ok l') :
    (∀ b ∈ l', ∃ a ∈ l, f a = .ok b) ∧ ∀ a ∈ l, ∃ b ∈ l', f a = .ok b := by
  induction l generalizing l' with
  | nil =>
    cases h
    simp
  | cons a l ih =>
    rw [List.mapM_cons] at h
    obtain ⟨b, hb, h⟩ := exists_of_bind_ok h
    obtain ⟨rest, hrest, h⟩ := exists_of_bind_ok h
    cases h
    obtain ⟨hto, hfrom⟩ := ih hrest
    refine ⟨fun c hc => ?_, fun c hc => ?_⟩
    · rcases List.mem_cons.1 hc with rfl | hc
      · exact ⟨a, List.mem_cons_self, hb⟩
      · exact (hto c hc).imp fun _ h => ⟨List.mem_cons_of_mem _ h.1, h.2⟩
    · rcases List.mem_cons.1 hc with rfl | hc
      · exact ⟨b, List.mem_cons_self, hb⟩
      · exact (hfrom c hc).imp fun _ h => ⟨List.mem_cons_of_mem _ h.1, h.2⟩

/-- What is read off the elements of a mapped list can be read off the list. -/
theorem map_of_mapM {γ : Type} {f : α → Except ε β} {l : List α} {l' : List β}
    (h : l.mapM f = .ok l') {p : β → γ} {q : α → γ}
    (hf : ∀ a ∈ l, ∀ b, f a = .ok b → p b = q a) : l'.map p = l.map q := by
  induction l generalizing l' with
  | nil =>
    cases h
    rfl
  | cons a l ih =>
    rw [List.mapM_cons] at h
    obtain ⟨b, hb, h⟩ := exists_of_bind_ok h
    obtain ⟨rest, hrest, h⟩ := exists_of_bind_ok h
    cases h
    rw [List.map_cons, List.map_cons, hf a List.mem_cons_self b hb,
      ih hrest fun c hc => hf c (List.mem_cons_of_mem _ hc)]

/-- A list whose elements are all mapped the way a total function maps them. -/
theorem mapM_eq_ok_map {f : α → Except ε β} {g : α → β} {l : List α}
    (h : ∀ a ∈ l, f a = .ok (g a)) : l.mapM f = .ok (l.map g) := by
  induction l with
  | nil => rfl
  | cons a l ih =>
    rw [List.mapM_cons, h a List.mem_cons_self, ih fun b hb => h b (List.mem_cons_of_mem _ hb)]
    rfl

/-- A list is mapped if each of its elements is. -/
theorem exists_mapM {f : α → Except ε β} {l : List α} (h : ∀ a ∈ l, ∃ b, f a = .ok b) :
    ∃ l', l.mapM f = .ok l' := by
  induction l with
  | nil => exact ⟨[], rfl⟩
  | cons a l ih =>
    obtain ⟨b, hb⟩ := h a List.mem_cons_self
    obtain ⟨rest, hrest⟩ := ih fun c hc => h c (List.mem_cons_of_mem _ hc)
    exact ⟨b :: rest, by rw [List.mapM_cons, hb, hrest]; rfl⟩

/-- Mapping a list raises what the first element raises that raises anything. -/
theorem mapM_eq_error {f : α → Except ε β} {l : List α} {e : ε} : l.mapM f = .error e ↔
    ∃ before a after, l = before ++ a :: after ∧ (∀ d ∈ before, ∃ b, f d = .ok b) ∧
      f a = .error e := by
  constructor
  · intro h
    induction l with
    | nil => cases h
    | cons a l ih =>
      rw [List.mapM_cons] at h
      rcases exists_of_bind_error h with ha | ⟨b, hb, h⟩
      · exact ⟨[], a, l, rfl, by simp, ha⟩
      · rcases exists_of_bind_error h with hrest | ⟨rest, -, h⟩
        · obtain ⟨before, c, after, rfl, hbefore, hc⟩ := ih hrest
          exact ⟨a :: before, c, after, rfl, List.forall_mem_cons.2 ⟨⟨b, hb⟩, hbefore⟩, hc⟩
        · cases h
  · rintro ⟨before, a, after, rfl, hbefore, ha⟩
    induction before with
    | nil => rw [List.nil_append, List.mapM_cons, ha]; rfl
    | cons d before ih =>
      obtain ⟨⟨b, hb⟩, hbefore⟩ := List.forall_mem_cons.1 hbefore
      rw [List.cons_append, List.mapM_cons, hb, ih hbefore]
      rfl

end Comprehension

end ClusterManager
