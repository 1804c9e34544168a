import ClusterManager.Lib.FixedWindow
import ClusterManager.Lib.Table

/-!
# The rate limit of the copilot

`checkCopilotRateLimit` charges a call to the bucket of its key and to the bucket of all keys, where
both have room. A history is a list of calls with what each was answered and the state before and
after it; what a budget was charged is read off the admitted calls of the history.

`rate_limits_hold` is what the two budgets promise for every sequence of calls.
-/

namespace ClusterManager.Ui

open FixedWindow

/-- `WINDOW_MS`. -/
def windowMs : ℕ := 60000

/-- `MAX_TRACKED_KEYS`. -/
def maxTrackedKeys : ℕ := 10000

/-- `copilotRateLimits`. -/
structure RateLimits where
  perKeyPerMinute : ℕ
  globalPerMinute : ℕ

/-- `perKey` and `globalBucket`. -/
structure Limiter where
  perKey : Dict String Bucket := []
  globalBucket : Bucket := ⟨0, 0⟩

/-- `retryAfter`. -/
def retryAfter (bucket : Bucket) (now : ℕ) : ℕ := max 1 ((bucket.resetAt - now + 999) / 1000)

/-- `hasRoom`, with the bucket after it. -/
def hasRoom (bucket : Bucket) (limit now : ℕ) : Bool × Bucket :=
  let bucket := bucket.roll windowMs now
  (bucket.count < limit, bucket)

namespace Limiter

/-- The loop that prunes what has expired. -/
def prune (s : Limiter) (now : ℕ) : Limiter :=
  { s with perKey := s.perKey.filter fun entry => now < entry.2.resetAt }

/-- A bucket for the key, where there is one or room for one. -/
def track (s : Limiter) (key : String) (now : ℕ) : Limiter :=
  match s.perKey.get? key with
  | some _ => s
  | none =>
      let s := if maxTrackedKeys ≤ s.perKey.length then s.prune now else s
      if s.perKey.length < maxTrackedKeys then { s with perKey := s.perKey.set key ⟨0, 0⟩ } else s

/-- `checkCopilotRateLimit`. -/
def checkCopilotRateLimit (limits : RateLimits) (s : Limiter) (key : String) (now : ℕ) :
    Option ℕ × Limiter :=
  let s := s.track key now
  let (room, globalBucket) := hasRoom s.globalBucket limits.globalPerMinute now
  let s := { s with globalBucket }
  if !room then (some (retryAfter globalBucket now), s)
  else
    match s.perKey.get? key with
    | none => (none, { s with globalBucket := globalBucket.charge })
    | some bucket =>
        let (room, bucket) := hasRoom bucket limits.perKeyPerMinute now
        if !room then (some (retryAfter bucket now), { s with perKey := s.perKey.set key bucket })
        else
          (none, { perKey := s.perKey.set key bucket.charge
                   globalBucket := globalBucket.charge })

/-- The bucket of a key: one that was never charged where the key is not tracked. -/
def bucketOf (s : Limiter) (key : String) : Bucket := (s.perKey.get? key).getD ⟨0, 0⟩

end Limiter

/-! ### Histories -/

/-- A call that was answered, with the state before and after it. -/
structure CopilotCall where
  key : String
  now : ℕ
  retryAfter : Option ℕ
  before : Limiter
  after : Limiter

/-- The limiter and the calls it has answered. -/
structure CopilotHistory where
  limiter : Limiter := {}
  calls : List CopilotCall := []

/-- One more call. -/
def CopilotHistory.step (limits : RateLimits) (h : CopilotHistory) (call : String × ℕ) :
    CopilotHistory :=
  let (retryAfter, after) := h.limiter.checkCopilotRateLimit limits call.1 call.2
  { limiter := after
    calls := h.calls ++ [⟨call.1, call.2, retryAfter, h.limiter, after⟩] }

/-- The calls, each a key and a time, are answered in turn. -/
def CopilotHistory.run (limits : RateLimits) (h : CopilotHistory) (calls : List (String × ℕ)) :
    CopilotHistory :=
  calls.foldl (step limits) h

/-- What the bucket of all keys was charged. -/
def globalCharges (calls : List CopilotCall) : List Charge :=
  (calls.filter (·.retryAfter = none)).map fun c => ⟨c.now, c.after.globalBucket.resetAt⟩

/-- What the bucket of a key was charged, in the calls that found one. -/
def keyCharges (key : String) (calls : List CopilotCall) : List Charge :=
  (calls.filter fun c => c.retryAfter = none ∧ c.key = key).filterMap fun c =>
    (c.after.perKey.get? key).map fun bucket => ⟨c.now, bucket.resetAt⟩

namespace CopilotCall

/-- The bucket that rejected the call is full. -/
def RejectedBy (limits : RateLimits) (c : CopilotCall) (bucket : Bucket) : Prop :=
  (bucket = c.after.globalBucket ∧ limits.globalPerMinute ≤ bucket.count) ∨
    (c.after.globalBucket.count < limits.globalPerMinute ∧
      c.after.perKey.get? c.key = some bucket ∧ limits.perKeyPerMinute ≤ bucket.count)

/-- What holds of every call. -/
structure Lawful (limits : RateLimits) (c : CopilotCall) : Prop where
  /-- A call that is rejected is charged to no bucket. -/
  uncharged : c.retryAfter ≠ none → Uncharged c.before.globalBucket c.after.globalBucket ∧
    ∀ key, Uncharged (c.before.bucketOf key) (c.after.bucketOf key)
  /-- The bucket that rejected it has rolled over when it may be made again. -/
  retry : ∀ r, c.retryAfter = some r →
    ∃ bucket, c.RejectedBy limits bucket ∧ bucket.resetAt ≤ c.now + 1000 * r
  tracked : c.after.perKey.length ≤ maxTrackedKeys
  /-- A window that is running goes on. -/
  running : ∀ key bucket, c.before.perKey.get? key = some bucket → c.now < bucket.resetAt →
    ∃ bucket', c.after.perKey.get? key = some bucket' ∧ bucket'.resetAt = bucket.resetAt

end CopilotCall

/-- What a history keeps. -/
structure Metered (limits : RateLimits) (now : ℕ) (h : CopilotHistory) : Prop where
  nodup : (h.limiter.perKey.map Prod.fst).Nodup
  size : h.limiter.perKey.length ≤ maxTrackedKeys
  globalLedger : Ledger windowMs limits.globalPerMinute now h.limiter.globalBucket
    (globalCharges h.calls)
  keyLedger : ∀ key, Ledger windowMs limits.perKeyPerMinute now (h.limiter.bucketOf key)
    (keyCharges key h.calls)
  lawful : ∀ c ∈ h.calls, c.Lawful limits

variable {limits : RateLimits} {s : Limiter} {key : String} {now : ℕ}

theorem windowMs_pos : 0 < windowMs := by decide

/-- The time until a bucket rolls over is rounded up. -/
theorem resetAt_le_retryAfter (bucket : Bucket) (now : ℕ) :
    bucket.resetAt ≤ now + 1000 * retryAfter bucket now := by
  unfold retryAfter
  omega

/-! ### Tracking a key -/

namespace Limiter

theorem bucketOf_set {b : Bucket} {globalBucket : Bucket} (k : String) :
    (⟨s.perKey.set key b, globalBucket⟩ : Limiter).bucketOf k =
      if k = key then b else s.bucketOf k := by
  unfold bucketOf
  by_cases hk : k = key
  · rw [if_pos hk, hk, Dict.get?_set_self]
    rfl
  · rw [if_neg hk, Dict.get?_set_of_ne hk]

/-- What is the same in the map after the expired buckets, and only those, may have gone. -/
structure Carries (now : ℕ) (s t : Limiter) : Prop where
  nodup : (t.perKey.map Prod.fst).Nodup
  bucket : ∀ k, t.bucketOf k = s.bucketOf k ∨
    (t.bucketOf k = ⟨0, 0⟩ ∧ (s.bucketOf k).resetAt ≤ now)
  running : ∀ k b, s.perKey.get? k = some b → now < b.resetAt → t.perKey.get? k = some b

theorem Carries.refl (hnodup : (s.perKey.map Prod.fst).Nodup) : Carries now s s where
  nodup := hnodup
  bucket _ := Or.inl rfl
  running _ _ h _ := h

theorem carries_prune (hnodup : (s.perKey.map Prod.fst).Nodup) : Carries now s (s.prune now) := by
  have hget : ∀ k, (s.prune now).perKey.get? k = (s.perKey.get? k).filter (now < ·.resetAt) :=
    fun k => Dict.get?_filter hnodup
  refine ⟨(List.filter_sublist.map Prod.fst).nodup hnodup, fun k => ?_, fun k b hb hrun => ?_⟩
  · unfold bucketOf
    rw [hget]
    cases hk : s.perKey.get? k with
    | none => exact Or.inl rfl
    | some b =>
      by_cases hrun : now < b.resetAt
      · rw [Option.filter_some, if_pos (by simpa using hrun)]
        exact Or.inl rfl
      · rw [Option.filter_some, if_neg (by simpa using hrun)]
        exact Or.inr ⟨rfl, by simpa using hrun⟩
  · rw [hget, hb, Option.filter_some, if_pos (by simpa using hrun)]

/-- A new bucket stands for a key that has none. -/
theorem Carries.set {t : Limiter} (h : Carries now s t) (hnone : t.perKey.get? key = none) :
    Carries now s { t with perKey := t.perKey.set key ⟨0, 0⟩ } := by
  have hbucket : ∀ k, ({ t with perKey := t.perKey.set key ⟨0, 0⟩ } : Limiter).bucketOf k =
      t.bucketOf k := by
    intro k
    rw [bucketOf_set]
    split
    next heq => rw [heq, bucketOf, hnone]; rfl
    next => rfl
  refine ⟨Dict.nodup_keys_set h.nodup, fun k => ?_, fun k b hb hrun => ?_⟩
  · rw [hbucket]
    exact h.bucket k
  · have hk := h.running k b hb hrun
    have hne : k ≠ key := by
      rintro rfl
      rw [hnone] at hk
      cases hk
    rwa [Dict.get?_set_of_ne hne]

@[simp] theorem track_globalBucket : (s.track key now).globalBucket = s.globalBucket := by
  unfold track
  split
  · rfl
  · dsimp only
    split_ifs <;> rfl

/-- Tracking a key drops what has expired, and the map does not outgrow its bound. -/
theorem carries_track (hnodup : (s.perKey.map Prod.fst).Nodup)
    (hsize : s.perKey.length ≤ maxTrackedKeys) :
    Carries now s (s.track key now) ∧ (s.track key now).perKey.length ≤ maxTrackedKeys := by
  unfold track
  split
  next b hb => exact ⟨Carries.refl hnodup, hsize⟩
  next hnone =>
    have hpruned : ∃ t, t = (if maxTrackedKeys ≤ s.perKey.length then s.prune now else s) ∧
        Carries now s t ∧ t.perKey.get? key = none ∧ t.perKey.length ≤ maxTrackedKeys := by
      refine ⟨_, rfl, ?_⟩
      split
      next =>
        refine ⟨carries_prune hnodup, ?_, Nat.le_trans (List.length_filter_le _ _) hsize⟩
        exact (Dict.get?_filter hnodup).trans (by rw [hnone]; rfl)
      next => exact ⟨Carries.refl hnodup, hnone, hsize⟩
    obtain ⟨t, ht, hcarries, htnone, htsize⟩ := hpruned
    simp only [← ht]
    by_cases hroom : t.perKey.length < maxTrackedKeys
    · rw [if_pos hroom]
      refine ⟨hcarries.set htnone, ?_⟩
      show (t.perKey.set key ⟨0, 0⟩).length ≤ maxTrackedKeys
      rw [Dict.length_set, htnone]
      exact hroom
    · rw [if_neg hroom]
      exact ⟨hcarries, htsize⟩

end Limiter

/-! ### One call -/

/-- All a call can do to the limiter after its key was tracked: the budget of all keys is spent, the
key has no bucket, its budget is spent, or both are charged. -/
theorem Limiter.check_cases (limits : RateLimits) (s : Limiter) (key : String) (now : ℕ) :
    let t := s.track key now
    let g := s.globalBucket.roll windowMs now
    (limits.globalPerMinute ≤ g.count ∧
      s.checkCopilotRateLimit limits key now = (some (retryAfter g now), ⟨t.perKey, g⟩)) ∨
    (g.count < limits.globalPerMinute ∧ t.perKey.get? key = none ∧
      s.checkCopilotRateLimit limits key now = (none, ⟨t.perKey, g.charge⟩)) ∨
    (g.count < limits.globalPerMinute ∧ ∃ b, t.perKey.get? key = some b ∧
      ((limits.perKeyPerMinute ≤ (b.roll windowMs now).count ∧
        s.checkCopilotRateLimit limits key now =
          (some (retryAfter (b.roll windowMs now) now),
            ⟨t.perKey.set key (b.roll windowMs now), g⟩)) ∨
      ((b.roll windowMs now).count < limits.perKeyPerMinute ∧
        s.checkCopilotRateLimit limits key now =
          (none, ⟨t.perKey.set key (b.roll windowMs now).charge, g.charge⟩)))) := by
  dsimp only
  simp only [checkCopilotRateLimit, hasRoom, track_globalBucket]
  by_cases hg : (s.globalBucket.roll windowMs now).count < limits.globalPerMinute
  · right
    cases hb : (s.track key now).perKey.get? key with
    | none =>
      left
      simp [hg]
    | some b =>
      right
      by_cases hk : (b.roll windowMs now).count < limits.perKeyPerMinute
      · simp [hg, hk]
      · simp [hg, hk, Nat.not_lt.1 hk]
  · left
    simp [hg, Nat.not_lt.1 hg]

/-! ### What a history keeps -/

section Charges

variable {calls : List CopilotCall} {c : CopilotCall}

theorem globalCharges_rejected {r : ℕ} (h : c.retryAfter = some r) :
    globalCharges (calls ++ [c]) = globalCharges calls := by
  simp [globalCharges, List.filter_append, h]

theorem globalCharges_admitted (h : c.retryAfter = none) :
    globalCharges (calls ++ [c]) =
      globalCharges calls ++ [⟨c.now, c.after.globalBucket.resetAt⟩] := by
  simp [globalCharges, List.filter_append, h]

theorem keyCharges_rejected {r : ℕ} (h : c.retryAfter = some r) :
    keyCharges key (calls ++ [c]) = keyCharges key calls := by
  simp [keyCharges, List.filter_append, h]

theorem keyCharges_other (h : c.key ≠ key) :
    keyCharges key (calls ++ [c]) = keyCharges key calls := by
  simp [keyCharges, List.filter_append, h]

theorem keyCharges_untracked (h : c.after.perKey.get? c.key = none) :
    keyCharges key (calls ++ [c]) = keyCharges key calls := by
  by_cases hkey : c.key = key
  · subst hkey
    by_cases hr : c.retryAfter = none <;> simp [keyCharges, List.filter_append, h, hr]
  · exact keyCharges_other hkey

theorem keyCharges_admitted {bucket : Bucket} (h : c.retryAfter = none)
    (hbucket : c.after.perKey.get? c.key = some bucket) :
    keyCharges c.key (calls ++ [c]) = keyCharges c.key calls ++ [⟨c.now, bucket.resetAt⟩] := by
  simp [keyCharges, List.filter_append, h, hbucket]

end Charges

namespace Limiter

/-- Dropping what has expired charges nothing. -/
theorem Carries.uncharged {t : Limiter} (h : Carries now s t) (k : String) :
    Uncharged (s.bucketOf k) (t.bucketOf k) := by
  rcases h.bucket k with heq | ⟨heq, -⟩ <;> rw [heq]
  · exact Or.inl rfl
  · exact Or.inr rfl

/-- The ledger of every key after the expired buckets have gone. -/
theorem Carries.ledger {t : Limiter} {limit : ℕ} {charges : List Charge} (h : Carries now s t)
    {k : String} (hledger : Ledger windowMs limit now (s.bucketOf k) charges) :
    Ledger windowMs limit now (t.bucketOf k) charges := by
  rcases h.bucket k with heq | ⟨heq, hend⟩ <;> rw [heq]
  · exact hledger
  · exact hledger.forget hend

/-- A bucket that is put in place of the one of a key leaves a window that is running as it is. -/
theorem Carries.running_set {t : Limiter} {b b' : Bucket} {globalBucket : Bucket}
    (h : Carries now s t) (hb : t.perKey.get? key = some b)
    (hb' : now < b.resetAt → b'.resetAt = b.resetAt) {k : String} {bucket : Bucket}
    (hbucket : s.perKey.get? k = some bucket) (hrun : now < bucket.resetAt) :
    ∃ bucket', (⟨t.perKey.set key b', globalBucket⟩ : Limiter).perKey.get? k = some bucket' ∧
      bucket'.resetAt = bucket.resetAt := by
  have hk := h.running k bucket hbucket hrun
  by_cases heq : k = key
  · subst heq
    rw [hb] at hk
    cases hk
    exact ⟨b', Dict.get?_set_self, hb' hrun⟩
  · exact ⟨bucket, (Dict.get?_set_of_ne heq).trans hk, rfl⟩

theorem bucketOf_of_get? {b : Bucket} (h : s.perKey.get? key = some b) : s.bucketOf key = b := by
  rw [bucketOf, h]
  rfl

end Limiter

/-! ### One call keeps the ledgers -/

/-- The limiter of a call when its key was tracked, and the bucket of all keys rolled over. -/
structure Tracked (limits : RateLimits) (time : ℕ) (h : CopilotHistory) (t : Limiter)
    (g : Bucket) : Prop where
  carries : Limiter.Carries time h.limiter t
  size : t.perKey.length ≤ maxTrackedKeys
  globalLedger : Ledger windowMs limits.globalPerMinute time g (globalCharges h.calls)
  keyLedger : ∀ k, Ledger windowMs limits.perKeyPerMinute time (t.bucketOf k)
    (keyCharges k h.calls)
  inWindow : time < g.resetAt
  uncharged : Uncharged h.limiter.globalBucket g
  lawful : ∀ c ∈ h.calls, c.Lawful limits

theorem Metered.tracked {h : CopilotHistory} {time : ℕ} (hM : Metered limits now h)
    (hle : now ≤ time) (key : String) : Tracked limits time h (h.limiter.track key time)
      (h.limiter.globalBucket.roll windowMs time) := by
  obtain ⟨hcarries, hsize⟩ : Limiter.Carries time h.limiter (h.limiter.track key time) ∧
      (h.limiter.track key time).perKey.length ≤ maxTrackedKeys :=
    Limiter.carries_track hM.nodup hM.size
  exact
    { carries := hcarries
      size := hsize
      globalLedger := (hM.globalLedger.later hle).roll windowMs_pos
      keyLedger := fun k => hcarries.ledger ((hM.keyLedger k).later hle)
      inWindow := lt_resetAt_roll windowMs_pos
      uncharged := uncharged_roll
      lawful := hM.lawful }

namespace Tracked

variable {time : ℕ} {h : CopilotHistory} {t : Limiter} {g b b' : Bucket}

/-- The history with the call in it. -/
abbrev extend (h : CopilotHistory) (key : String) (time : ℕ) (answer : Option ℕ)
    (after : Limiter) : CopilotHistory :=
  ⟨after, h.calls ++ [⟨key, time, answer, h.limiter, after⟩]⟩

/-- The budget of all keys is spent. -/
theorem rejected (hT : Tracked limits time h t g) (hfull : limits.globalPerMinute ≤ g.count) :
    Metered limits time (extend h key time (some (retryAfter g time)) ⟨t.perKey, g⟩) := by
  refine ⟨hT.carries.nodup, hT.size, ?_, fun k => ?_, List.forall_mem_append.2 ⟨hT.lawful, ?_⟩⟩
  · rw [globalCharges_rejected rfl]
    exact hT.globalLedger
  · rw [keyCharges_rejected rfl]
    exact hT.keyLedger k
  · rw [List.forall_mem_singleton]
    exact
      { uncharged := fun _ => ⟨hT.uncharged, hT.carries.uncharged⟩
        retry := fun r hr => by
          cases hr
          exact ⟨g, Or.inl ⟨rfl, hfull⟩, resetAt_le_retryAfter g time⟩
        tracked := hT.size
        running := fun k b hk hrun => ⟨b, hT.carries.running k b hk hrun, rfl⟩ }

/-- The key is not tracked. -/
theorem untracked (hT : Tracked limits time h t g) (hroom : g.count < limits.globalPerMinute)
    (hnone : t.perKey.get? key = none) :
    Metered limits time (extend h key time none ⟨t.perKey, g.charge⟩) := by
  refine ⟨hT.carries.nodup, hT.size, ?_, fun k => ?_, List.forall_mem_append.2 ⟨hT.lawful, ?_⟩⟩
  · rw [globalCharges_admitted rfl]
    exact hT.globalLedger.charge hT.inWindow hroom
  · rw [keyCharges_untracked hnone]
    exact hT.keyLedger k
  · rw [List.forall_mem_singleton]
    exact
      { uncharged := fun hr => absurd rfl hr
        retry := fun r hr => by cases hr
        tracked := hT.size
        running := fun k b hk hrun => ⟨b, hT.carries.running k b hk hrun, rfl⟩ }

/-- The ledgers of the keys when the bucket of one is put back. -/
theorem keyLedger_set {charges : List Charge} (hT : Tracked limits time h t g) (key : String)
    (g' : Bucket) (hledger : Ledger windowMs limits.perKeyPerMinute time b' charges) (k : String) :
    Ledger windowMs limits.perKeyPerMinute time
      ((⟨t.perKey.set key b', g'⟩ : Limiter).bucketOf k)
      (if k = key then charges else keyCharges k h.calls) := by
  rw [Limiter.bucketOf_set]
  by_cases hk : k = key
  · rw [if_pos hk, if_pos hk]
    exact hledger
  · rw [if_neg hk, if_neg hk]
    exact hT.keyLedger k

theorem length_set (hT : Tracked limits time h t g) (hb : t.perKey.get? key = some b) :
    (t.perKey.set key b').length ≤ maxTrackedKeys := by
  rw [Dict.length_set, hb]
  exact hT.size

theorem ledger_roll (hT : Tracked limits time h t g) (hb : t.perKey.get? key = some b) :
    Ledger windowMs limits.perKeyPerMinute time (b.roll windowMs time) (keyCharges key h.calls) := by
  have hbucket := hT.keyLedger key
  rw [Limiter.bucketOf_of_get? hb] at hbucket
  exact hbucket.roll windowMs_pos

/-- The budget of the key is spent. -/
theorem rejected_key (hT : Tracked limits time h t g) (hroom : g.count < limits.globalPerMinute)
    (hb : t.perKey.get? key = some b)
    (hfull : limits.perKeyPerMinute ≤ (b.roll windowMs time).count) :
    Metered limits time (extend h key time (some (retryAfter (b.roll windowMs time) time))
      ⟨t.perKey.set key (b.roll windowMs time), g⟩) := by
  refine ⟨Dict.nodup_keys_set hT.carries.nodup, hT.length_set hb, ?_, fun k => ?_,
    List.forall_mem_append.2 ⟨hT.lawful, ?_⟩⟩
  · rw [globalCharges_rejected rfl]
    exact hT.globalLedger
  · rw [keyCharges_rejected rfl]
    have hledger := hT.keyLedger_set key g (hT.ledger_roll hb) k
    split at hledger
    next heq => rwa [heq] at hledger ⊢
    next => exact hledger
  · have huncharged : ∀ k, Uncharged (h.limiter.bucketOf k)
        ((⟨t.perKey.set key (b.roll windowMs time), g⟩ : Limiter).bucketOf k) := by
      intro k
      have hk := hT.carries.uncharged k
      rw [Limiter.bucketOf_set]
      split
      next heq =>
        rw [heq, Limiter.bucketOf_of_get? hb] at hk
        rw [heq]
        exact hk.trans uncharged_roll
      next => exact hk
    rw [List.forall_mem_singleton]
    exact
      { uncharged := fun _ => ⟨hT.uncharged, huncharged⟩
        retry := fun r hr => by
          cases hr
          exact ⟨_, Or.inr ⟨hroom, Dict.get?_set_self, hfull⟩, resetAt_le_retryAfter _ time⟩
        tracked := hT.length_set hb
        running := fun k bucket hk hrun =>
          hT.carries.running_set hb (fun hlt => by rw [roll_of_lt hlt]) hk hrun }

/-- Both budgets are charged. -/
theorem admitted (hT : Tracked limits time h t g) (hroom : g.count < limits.globalPerMinute)
    (hb : t.perKey.get? key = some b)
    (hkroom : (b.roll windowMs time).count < limits.perKeyPerMinute) :
    Metered limits time (extend h key time none
      ⟨t.perKey.set key (b.roll windowMs time).charge, g.charge⟩) := by
  refine ⟨Dict.nodup_keys_set hT.carries.nodup, hT.length_set hb, ?_, fun k => ?_,
    List.forall_mem_append.2 ⟨hT.lawful, ?_⟩⟩
  · rw [globalCharges_admitted rfl]
    exact hT.globalLedger.charge hT.inWindow hroom
  · have hledger := hT.keyLedger_set key g.charge
      ((hT.ledger_roll hb).charge (lt_resetAt_roll windowMs_pos) hkroom) k
    split at hledger
    next heq =>
      subst heq
      rwa [keyCharges_admitted (c := ⟨k, time, none, h.limiter, _⟩) rfl Dict.get?_set_self]
    next hne => rwa [keyCharges_other (c := ⟨key, time, none, h.limiter, _⟩) (Ne.symm hne)]
  · rw [List.forall_mem_singleton]
    exact
      { uncharged := fun hr => absurd rfl hr
        retry := fun r hr => by cases hr
        tracked := hT.length_set hb
        running := fun k bucket hk hrun =>
          hT.carries.running_set hb (fun hlt => by rw [roll_of_lt hlt]; rfl) hk hrun }

end Tracked

/-- One more call keeps the ledgers of both budgets. -/
theorem Metered.step {h : CopilotHistory} {call : String × ℕ} (hM : Metered limits now h)
    (hle : now ≤ call.2) : Metered limits call.2 (h.step limits call) := by
  have hT := hM.tracked hle call.1
  rcases Limiter.check_cases limits h.limiter call.1 call.2 with
    ⟨hfull, hcheck⟩ | ⟨hroom, hnone, hcheck⟩ | ⟨hroom, b, hb, ⟨hfull, hcheck⟩ | ⟨hkroom, hcheck⟩⟩ <;>
    simp only [CopilotHistory.step, hcheck]
  · exact hT.rejected hfull
  · exact hT.untracked hroom hnone
  · exact hT.rejected_key hroom hb hfull
  · exact hT.admitted hroom hb hkroom

theorem metered_start : Metered limits 0 {} where
  nodup := List.nodup_nil
  size := Nat.zero_le _
  globalLedger := Ledger.empty
  keyLedger _ := Ledger.empty
  lawful := by simp

/-- A history of calls in the order of their times. -/
theorem Metered.run {h : CopilotHistory} {calls : List (String × ℕ)} (hM : Metered limits now h)
    (hfrom : ∀ call ∈ calls, now ≤ call.2) (hclock : calls.Pairwise (·.2 ≤ ·.2)) :
    ∃ last, Metered limits last (h.run limits calls) := by
  induction calls generalizing h now with
  | nil => exact ⟨now, hM⟩
  | cons call calls ih =>
    rw [List.pairwise_cons] at hclock
    exact ih (hM.step (hfrom call List.mem_cons_self)) hclock.1 hclock.2

/-- **The two budgets.** For every sequence of calls in the order of their times, a window of the
bucket of all keys admits at most the limit and an interval of a minute at most twice the limit, a
window of the bucket of a key admits at most the limit of a key; and of every call, that it charges
nothing where it is rejected, that it may be made again when it was told to, that the map does not
outgrow its bound, and that every window that is running goes on. -/
theorem rate_limits_hold (limits : RateLimits) (calls : List (String × ℕ))
    (hclock : calls.Pairwise (·.2 ≤ ·.2)) :
    let h := CopilotHistory.run limits {} calls
    (∀ w, chargedTo (globalCharges h.calls) w ≤ limits.globalPerMinute) ∧
      (∀ t, chargedIn (globalCharges h.calls) t (t + windowMs) ≤ 2 * limits.globalPerMinute) ∧
      (∀ key w, chargedTo (keyCharges key h.calls) w ≤ limits.perKeyPerMinute) ∧
      ∀ c ∈ h.calls, c.Lawful limits := by
  obtain ⟨last, hM⟩ : ∃ last, Metered limits last (CopilotHistory.run limits {} calls) :=
    metered_start.run (fun _ _ => Nat.zero_le _) hclock
  exact ⟨hM.globalLedger.bounded, hM.globalLedger.interval_le, fun key => (hM.keyLedger key).bounded,
    hM.lawful⟩

/-- Of two calls of a key in one minute a limit of one admits the first. -/
theorem rate_limits_hold_twoCalls :
    chargedTo (keyCharges "a" (CopilotHistory.run ⟨1, 2⟩ {} [("a", 5), ("a", 7)]).calls) 60005 = 1 ∧
      (∀ key w, chargedTo (keyCharges key
        (CopilotHistory.run ⟨1, 2⟩ {} [("a", 5), ("a", 7)]).calls) w ≤ 1) :=
  ⟨by decide, (rate_limits_hold ⟨1, 2⟩ [("a", 5), ("a", 7)] (by decide)).2.2.1⟩

end ClusterManager.Ui
