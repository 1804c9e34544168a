import Mathlib.Algebra.BigOperators.Group.List.Basic
import Mathlib.Algebra.Ring.Int.Defs
import ClusterManager.Lib.Table

/-!
# Grouping

A loop over pairs that keeps one accumulator for each key in a dictionary. The accumulator under a
key is the fold over the values paired with it (`get?_accumulate`); where the order of two values
does not matter to the accumulator, the order of the pairs does not matter to the groups
(`get?_accumulate_perm`, `accumulate_perm`).

Keeping the first value, adding up and taking the least are the accumulators `keep`, `add` and
`least`.
-/

namespace Dict

variable {κ α β : Type} [DecidableEq κ] {f : Option α → β → α} {d e : Dict κ α} {k : κ}
  {pairs pairs' : List (κ × β)}

/-- One pair joins the group of its key. -/
def join (f : Option α → β → α) (d : Dict κ α) (p : κ × β) : Dict κ α :=
  d.set p.1 (f (d.get? p.1) p.2)

/-- All pairs join the groups of their keys, in order. -/
def accumulate (f : Option α → β → α) (d : Dict κ α) (pairs : List (κ × β)) : Dict κ α :=
  pairs.foldl (join f) d

/-- The values paired with a key, in order. -/
def valuesAt (pairs : List (κ × β)) (k : κ) : List β := (pairs.filter (·.1 = k)).map (·.2)

@[simp] theorem accumulate_nil : accumulate f d [] = d := rfl

@[simp] theorem accumulate_cons {p : κ × β} :
    accumulate f d (p :: pairs) = accumulate f (join f d p) pairs := rfl

/-- The accumulator of a key is the fold over the values paired with it. -/
theorem get?_accumulate : (accumulate f d pairs).get? k =
    (valuesAt pairs k).foldl (fun o b => some (f o b)) (d.get? k) := by
  induction pairs generalizing d with
  | nil => rfl
  | cons p pairs ih =>
    rw [accumulate_cons, ih]
    by_cases h : p.1 = k
    · subst h
      simp [valuesAt, join]
    · simp [valuesAt, join, h, get?_set_of_ne (Ne.symm h)]

/-- The groups are those there were and those of the pairs. -/
theorem mem_keys_accumulate : k ∈ (accumulate f d pairs).map Prod.fst ↔
    k ∈ d.map Prod.fst ∨ k ∈ pairs.map Prod.fst := by
  induction pairs generalizing d with
  | nil => simp
  | cons p pairs ih =>
    rw [accumulate_cons, ih, join, mem_keys_set, List.map_cons, List.mem_cons]
    tauto

/-- There is one group for each key. -/
theorem nodup_keys_accumulate (h : (d.map Prod.fst).Nodup) :
    ((accumulate f d pairs).map Prod.fst).Nodup := by
  induction pairs generalizing d with
  | nil => exact h
  | cons p pairs ih => exact ih (nodup_keys_set h)

/-- Two values of a group join it in either order. -/
def Commutes (f : Option α → β → α) : Prop :=
  ∀ o a b, f (some (f o a)) b = f (some (f o b)) a

/-- The order of the pairs does not matter to the accumulator of a key. -/
theorem get?_accumulate_perm (hf : Commutes f) (h : pairs.Perm pairs') :
    (accumulate f d pairs).get? k = (accumulate f d pairs').get? k := by
  rw [get?_accumulate, get?_accumulate]
  refine (List.Perm.map _ (h.filter _)).foldl_eq' ?_ _
  intro a _ b _ o
  exact congrArg some (hf o a b)

/-- Dictionaries with the same value under each key differ in their order only. -/
theorem perm_of_get?_eq (hd : (d.map Prod.fst).Nodup) (he : (e.map Prod.fst).Nodup)
    (h : ∀ k, d.get? k = e.get? k) : d.Perm e := by
  refine (List.perm_ext_iff_of_nodup hd.of_map he.of_map).2 ?_
  rintro ⟨k, a⟩
  rw [mem_iff_get? hd, mem_iff_get? he, h]

/-- The order of the pairs does not matter to the groups. -/
theorem accumulate_perm (hf : Commutes f) (hd : (d.map Prod.fst).Nodup)
    (h : pairs.Perm pairs') : (accumulate f d pairs).Perm (accumulate f d pairs') :=
  perm_of_get?_eq (nodup_keys_accumulate hd) (nodup_keys_accumulate hd)
    fun _ => get?_accumulate_perm hf h

/-! ### Accumulators -/

/-- The first value is kept. -/
def keep (o : Option α) (a : α) : α := o.getD a

/-- The values are added up. -/
def add (o : Option ℤ) (n : ℤ) : ℤ := o.getD 0 + n

/-- The least value is kept. -/
def least (o : Option ℤ) (n : ℤ) : ℤ := min (o.getD n) n

theorem commutes_add : Commutes add := by
  intro o a b
  simp only [add, Option.getD_some]
  omega

theorem commutes_least : Commutes least := by
  intro o a b
  cases o <;> simp only [least, Option.getD_some, Option.getD_none] <;> omega

/-- A key that is taken keeps its value. -/
theorem join_keep (d : Dict κ α) (p : κ × α) :
    join keep d p = if (d.get? p.1).isSome then d else d.set p.1 p.2 := by
  unfold join keep
  cases h : d.get? p.1 with
  | none => rfl
  | some a => exact set_of_get? h

theorem foldl_keep (l : List α) (a : α) :
    l.foldl (fun o b => some (keep o b)) (some a) = some a := by
  induction l with
  | nil => rfl
  | cons b l ih => simpa [keep] using ih

/-- The first value of a key is kept. -/
theorem get?_accumulate_keep {pairs : List (κ × α)} :
    (accumulate keep ([] : Dict κ α) pairs).get? k = (valuesAt pairs k).head? := by
  rw [get?_accumulate]
  cases valuesAt pairs k with
  | nil => rfl
  | cons a l => exact foldl_keep l a

theorem foldl_add (l : List ℤ) (n : ℤ) :
    l.foldl (fun o b => some (add o b)) (some n) = some (n + l.sum) := by
  induction l generalizing n with
  | nil => simp
  | cons b l ih =>
    rw [List.foldl_cons, ih, List.sum_cons, add, Option.getD_some, Int.add_assoc]

/-- The sum of the values of a key, if it has any. -/
theorem get?_accumulate_add {pairs : List (κ × ℤ)} :
    (accumulate add ([] : Dict κ ℤ) pairs).get? k =
      if valuesAt pairs k = [] then none else some (valuesAt pairs k).sum := by
  rw [get?_accumulate]
  cases valuesAt pairs k with
  | nil => rfl
  | cons a l =>
    rw [if_neg (List.cons_ne_nil a l), List.foldl_cons, foldl_add, List.sum_cons, add,
      get?_nil, Option.getD_none, Int.zero_add]

theorem foldl_least (l : List ℤ) (n : ℤ) :
    l.foldl (fun o b => some (least o b)) (some n) = some (l.foldl min n) := by
  induction l generalizing n with
  | nil => rfl
  | cons b l ih => exact ih (min n b)

/-- The least value of a key, if it has any. -/
theorem get?_accumulate_least {pairs : List (κ × ℤ)} :
    (accumulate least ([] : Dict κ ℤ) pairs).get? k = (valuesAt pairs k).min? := by
  rw [get?_accumulate]
  cases valuesAt pairs k with
  | nil => rfl
  | cons a l =>
    rw [List.foldl_cons, List.min?_cons', foldl_least, least, get?_nil, Option.getD_none,
      Int.min_self]

theorem mem_valuesAt {b : β} : b ∈ valuesAt pairs k ↔ (k, b) ∈ pairs := by
  unfold valuesAt
  constructor
  · intro h
    obtain ⟨p, hp, rfl⟩ := List.mem_map.1 h
    obtain ⟨hp, hk⟩ := List.mem_filter.1 hp
    rw [← of_decide_eq_true hk]
    exact hp
  · exact fun h => List.mem_map.2 ⟨(k, b), List.mem_filter.2 ⟨h, by simp⟩, rfl⟩

theorem valuesAt_eq_nil : valuesAt pairs k = [] ↔ k ∉ pairs.map Prod.fst := by
  rw [valuesAt, List.map_eq_nil_iff, List.filter_eq_nil_iff]
  simp only [decide_eq_true_eq, List.mem_map, not_exists, not_and]

/-- A dictionary pairs a key with its value alone. -/
theorem valuesAt_of_nodup (h : (d.map Prod.fst).Nodup) : valuesAt d k = (d.get? k).toList := by
  induction d with
  | nil => rfl
  | cons p d ih =>
    obtain ⟨hp, hd⟩ := List.nodup_cons.1 h
    by_cases hk : p.1 = k
    · subst hk
      have hnone : valuesAt d p.1 = [] := valuesAt_eq_nil.2 hp
      simp only [valuesAt, List.map_eq_nil_iff] at hnone
      simp [valuesAt, hnone, get?]
    · have hcons : valuesAt (p :: d) k = valuesAt d k := by simp [valuesAt, hk]
      rw [hcons, ih hd, get?, if_neg hk]

theorem valuesAt_perm (h : pairs.Perm pairs') : (valuesAt pairs k).Perm (valuesAt pairs' k) :=
  (h.filter _).map _

/-! ### What the groups hold together -/

section Contents

variable {γ : Type} {out : α → List γ} {val : β → γ}

theorem flatMap_join (hf : ∀ o b, out (f o b) = (o.elim [] out) ++ [val b]) (p : κ × β) :
    ((join f d p).flatMap fun e => out e.2).Perm ((d.flatMap fun e => out e.2) ++ [val p.2]) := by
  unfold join
  induction d with
  | nil => simp [set, get?, hf]
  | cons e d ih =>
    obtain ⟨k', a⟩ := e
    by_cases h : k' = p.1
    · simp only [set, get?, if_pos h, List.flatMap_cons, hf, Option.elim_some, List.append_assoc]
      exact List.perm_append_comm.append_left _
    · simp only [set, get?, if_neg h, List.flatMap_cons, List.append_assoc]
      exact ih.append_left _

/-- Where a value adds one item to its group, the groups hold the items of all values. -/
theorem flatMap_accumulate (hf : ∀ o b, out (f o b) = (o.elim [] out) ++ [val b]) :
    ((accumulate f d pairs).flatMap fun e => out e.2).Perm
      ((d.flatMap fun e => out e.2) ++ pairs.map fun p => val p.2) := by
  induction pairs generalizing d with
  | nil => simp
  | cons p pairs ih =>
    rw [accumulate_cons, List.map_cons, ← List.singleton_append, ← List.append_assoc]
    exact ih.trans ((flatMap_join hf p).append_right _)

end Contents

/-- In lists that share nothing an item is in one of them only. -/
theorem exists_filter_mem_eq {γ : Type} [DecidableEq γ] {l : List α} {out : α → List γ} {c : γ}
    (h : (l.flatMap out).Nodup) (hc : c ∈ l.flatMap out) :
    ∃ a, l.filter (c ∈ out ·) = [a] := by
  induction l with
  | nil => cases hc
  | cons a l ih =>
    rw [List.flatMap_cons, List.nodup_append] at h
    obtain ⟨-, hl, hdisjoint⟩ := h
    by_cases ha : c ∈ out a
    · refine ⟨a, ?_⟩
      have hnone : l.filter (c ∈ out ·) = [] := by
        refine List.filter_eq_nil_iff.2 fun b hb hcb => ?_
        exact hdisjoint c ha c (List.mem_flatMap.2 ⟨b, hb, of_decide_eq_true hcb⟩) rfl
      rw [List.filter_cons, if_pos (by simpa using ha), hnone]
    · rw [List.flatMap_cons, List.mem_append, or_iff_right ha] at hc
      obtain ⟨b, hb⟩ := ih hl hc
      exact ⟨b, by rw [List.filter_cons, if_neg (by simpa using ha), hb]⟩

end Dict
