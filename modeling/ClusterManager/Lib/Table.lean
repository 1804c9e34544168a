import Mathlib.Data.List.Nodup
import Mathlib.Data.List.Pairwise

/-!
# Tables and dictionaries

`Table α key` is a list of rows no two of which have the same primary key: the operations keep
the invariant, so a table that breaks it cannot be built. `Dict` is the insertion-ordered
dictionary: setting a key replaces its value in place or appends it.
-/

/-- The rows of a table, in the order they were inserted. -/
structure Table (α : Type) {κ : Type} (key : α → κ) where
  rows : List α
  nodup : (rows.map key).Nodup

namespace Table

variable {α κ : Type} [DecidableEq κ] {key : α → κ} {t : Table α key} {a b : α} {k : κ}

/-- The table without rows. -/
def empty : Table α key := ⟨[], List.nodup_nil⟩

/-- The table of one row. -/
def singleton (a : α) : Table α key := ⟨[a], List.nodup_singleton _⟩

instance : Membership α (Table α key) := ⟨fun t a => a ∈ t.rows⟩

omit [DecidableEq κ] in
theorem mem_def : a ∈ t ↔ a ∈ t.rows := Iff.rfl

/-- The row with a key. -/
def find? (t : Table α key) (k : κ) : Option α := t.rows.find? (key · = k)

/-- Add a row, unless its key is taken. -/
def insert? (t : Table α key) (a : α) : Option (Table α key) :=
  if h : key a ∈ t.rows.map key then none
  else some ⟨t.rows ++ [a], by
    rw [List.map_append, List.map_singleton]
    exact List.Nodup.append t.nodup (List.nodup_singleton _) (by simpa using h)⟩

/-- Rewrite the row with a key, keeping the key. -/
def update (t : Table α key) (k : κ) (f : α → α) (hf : ∀ a, key (f a) = key a) : Table α key :=
  ⟨t.rows.map fun a => if key a = k then f a else a, by
    have : (key ∘ fun a => if key a = k then f a else a) = key := by
      funext a
      by_cases h : key a = k <;> simp [h, hf]
    rw [List.map_map, this]
    exact t.nodup⟩

/-- Rewrite every row, keeping its key. -/
def map (t : Table α key) (f : α → α) (hf : ∀ a, key (f a) = key a) : Table α key :=
  ⟨t.rows.map f, by
    rw [List.map_map, show key ∘ f = key from funext hf]
    exact t.nodup⟩

/-- Remove the rows with a property. -/
def delete (t : Table α key) (p : α → Bool) : Table α key :=
  ⟨t.rows.filter (!p ·), t.nodup.sublist (List.filter_sublist.map key)⟩

/-- Add a row, or rewrite the row that has its key: the row that is stored then, and the table. -/
def upsert (t : Table α key) (a : α) (f : α → α) (hf : ∀ a, key (f a) = key a) :
    α × Table α key :=
  match t.insert? a with
  | some u => (a, u)
  | none => (((t.find? (key a)).map f).getD a, t.update (key a) f hf)

omit [DecidableEq κ] in
@[ext] theorem ext {t u : Table α key} (h : t.rows = u.rows) : t = u := by
  cases t; cases u; congr

omit [DecidableEq κ] in
theorem eq_of_key (ha : a ∈ t) (hb : b ∈ t) (h : key a = key b) : a = b :=
  List.inj_on_of_nodup_map t.nodup ha hb h

theorem find?_eq_some : t.find? k = some a ↔ a ∈ t ∧ key a = k := by
  constructor
  · intro h
    exact ⟨List.mem_of_find?_eq_some h, by simpa using List.find?_some h⟩
  · rintro ⟨ha, hk⟩
    cases h : t.find? k with
    | none => exact absurd hk (by simpa using List.find?_eq_none.1 h a ha)
    | some b =>
      have hb := List.find?_some h
      rw [eq_of_key ha (List.mem_of_find?_eq_some h) (by simp_all)]

theorem find?_eq_none : t.find? k = none ↔ ∀ a ∈ t, key a ≠ k := by
  simp [find?, mem_def]

omit [DecidableEq κ] in
@[simp] theorem mem_delete {p : α → Bool} : a ∈ t.delete p ↔ a ∈ t ∧ p a = false := by
  simp [delete, mem_def]

theorem insert?_eq_some {u : Table α key} :
    t.insert? a = some u ↔ (∀ b ∈ t, key b ≠ key a) ∧ u.rows = t.rows ++ [a] := by
  unfold insert?
  split
  next h =>
    obtain ⟨b, hb, hk⟩ := List.mem_map.1 h
    exact ⟨fun hu => (nomatch hu), fun hu => absurd hk (hu.1 b hb)⟩
  next h =>
    rw [Option.some.injEq]
    refine ⟨fun hu => ⟨by simpa [mem_def] using h, hu ▸ rfl⟩, fun hu => Table.ext hu.2.symm⟩

theorem mem_insert? {u : Table α key} (h : t.insert? a = some u) : b ∈ u ↔ b ∈ t ∨ b = a := by
  simp [mem_def, (insert?_eq_some.1 h).2]

theorem insert?_eq_none : t.insert? a = none ↔ ∃ b, t.find? (key a) = some b := by
  unfold insert?
  split
  next h =>
    obtain ⟨b, hb, hk⟩ := List.mem_map.1 h
    exact ⟨fun _ => ⟨b, find?_eq_some.2 ⟨hb, hk⟩⟩, fun _ => rfl⟩
  next h =>
    refine ⟨fun h => (by cases h), fun ⟨b, hb⟩ => ?_⟩
    obtain ⟨hb, hk⟩ := find?_eq_some.1 hb
    exact absurd (List.mem_map.2 ⟨b, hb, hk⟩) h

theorem mem_update {f : α → α} (hf : ∀ a, key (f a) = key a) :
    b ∈ t.update k f hf ↔ ∃ a ∈ t, b = if key a = k then f a else a := by
  simp [update, mem_def, eq_comm]

omit [DecidableEq κ] in
theorem mem_map {f : α → α} (hf : ∀ a, key (f a) = key a) :
    b ∈ t.map f hf ↔ ∃ a ∈ t, f a = b := by
  simp [map, mem_def]

theorem find?_map {f : α → α} (hf : ∀ a, key (f a) = key a) :
    (t.map f hf).find? k = (t.find? k).map f := by
  simp only [map, find?, List.find?_map]
  congr 2
  funext a
  simp [hf]

/-- The row under a key after the row under a key was rewritten. -/
theorem find?_update {f : α → α} (hf : ∀ a, key (f a) = key a) {j : κ} :
    (t.update k f hf).find? j = if j = k then (t.find? k).map f else t.find? j := by
  have hkey : (fun b => decide (key b = j)) ∘ (fun a => if key a = k then f a else a) =
      fun a => decide (key a = j) := by
    funext a
    by_cases h : key a = k <;> simp [h, hf]
  simp only [update, find?, List.find?_map, hkey]
  split
  next h =>
    subst h
    cases ha : t.rows.find? (key · = j) with
    | none => rfl
    | some a => simp [show key a = j by simpa using List.find?_some ha]
  next h =>
    cases ha : t.rows.find? (key · = j) with
    | none => rfl
    | some a => simp [show key a = j by simpa using List.find?_some ha, h]

/-- Rewriting under the key of a row rewrites that row alone. -/
theorem rows_update {f : α → α} (hf : ∀ a, key (f a) = key a) {before after : List α}
    (h : t.rows = before ++ a :: after) :
    (t.update (key a) f hf).rows = before ++ f a :: after := by
  have hnodup := t.nodup
  rw [h, List.map_append, List.map_cons, List.nodup_middle, List.nodup_cons] at hnodup
  have hother : ∀ b ∈ before ++ after, key b ≠ key a := by
    intro b hb hk
    exact hnodup.1 (by rw [← List.map_append, ← hk]; exact List.mem_map_of_mem hb)
  have hkeep : ∀ l : List α, (∀ b ∈ l, key b ≠ key a) →
      l.map (fun b => if key b = key a then f b else b) = l := by
    intro l hl
    exact (List.map_congr_left fun b hb => if_neg (hl b hb)).trans (List.map_id _)
  simp only [update, h, List.map_append, List.map_cons, if_true]
  rw [hkeep before fun b hb => hother b (List.mem_append_left _ hb),
    hkeep after fun b hb => hother b (List.mem_append_right _ hb)]

/-- A row under a key is rewritten. -/
theorem upsert_of_find?_eq_some {f : α → α} (hf : ∀ a, key (f a) = key a)
    (h : t.find? (key a) = some b) : t.upsert a f hf = (f b, t.update (key a) f hf) := by
  rw [upsert, insert?_eq_none.2 ⟨b, h⟩, h]
  rfl

/-- A row under a new key is added. -/
theorem upsert_of_find?_eq_none {f : α → α} (hf : ∀ a, key (f a) = key a)
    (h : t.find? (key a) = none) : ∃ u, t.insert? a = some u ∧ t.upsert a f hf = (a, u) := by
  cases hu : t.insert? a with
  | none =>
    obtain ⟨b, hb⟩ := insert?_eq_none.1 hu
    rw [h] at hb
    cases hb
  | some u => exact ⟨u, rfl, by rw [upsert, hu]⟩

/-- The row under a key after an upsert. -/
theorem find?_upsert {f : α → α} (hf : ∀ a, key (f a) = key a) :
    (t.upsert a f hf).2.find? k =
      if k = key a then some (t.upsert a f hf).1 else t.find? k := by
  cases hb : t.find? (key a) with
  | some b =>
    rw [upsert_of_find?_eq_some hf hb, find?_update]
    split
    · rw [hb]
      rfl
    · rfl
  | none =>
    obtain ⟨u, hu, hupsert⟩ := upsert_of_find?_eq_none hf hb
    rw [hupsert]
    split
    next hk => exact find?_eq_some.2 ⟨(mem_insert? hu).2 (Or.inr rfl), hk.symm⟩
    next hk =>
      ext b
      simp only [find?_eq_some, mem_insert? hu]
      constructor
      · rintro ⟨hmem | rfl, hkey⟩
        · exact ⟨hmem, hkey⟩
        · exact absurd hkey.symm hk
      · exact fun h => ⟨Or.inl h.1, h.2⟩

end Table

/-- A dictionary in insertion order. -/
abbrev Dict (κ α : Type) : Type := List (κ × α)

namespace Dict

variable {κ α : Type} [DecidableEq κ] {d : Dict κ α} {j k : κ} {a : α}

/-- The value under a key. -/
def get? : Dict κ α → κ → Option α
  | [], _ => none
  | (k', a) :: d, k => if k' = k then some a else get? d k

/-- Replace the value under a key, or append it. -/
def set : Dict κ α → κ → α → Dict κ α
  | [], k, a => [(k, a)]
  | (k', b) :: d, k, a => if k' = k then (k, a) :: d else (k', b) :: set d k a

/-- Remove a key. -/
def erase : Dict κ α → κ → Dict κ α
  | [], _ => []
  | (k', b) :: d, k => if k' = k then erase d k else (k', b) :: erase d k

/-- The dictionary of a list of pairs: the last pair of a key decides. -/
def ofPairs (pairs : List (κ × α)) : Dict κ α := pairs.foldl (fun d p => set d p.1 p.2) []

@[simp] theorem get?_nil : get? ([] : Dict κ α) k = none := rfl

@[simp] theorem get?_set_self : (set d k a).get? k = some a := by
  induction d with
  | nil => simp [set, get?]
  | cons p d ih =>
    obtain ⟨k', b⟩ := p
    by_cases h : k' = k <;> simp [set, get?, h, ih]

@[simp] theorem get?_set_of_ne (h : j ≠ k) : (set d k a).get? j = d.get? j := by
  induction d with
  | nil => simp [set, get?, Ne.symm h]
  | cons p d ih =>
    obtain ⟨k', b⟩ := p
    by_cases hk : k' = k
    · subst hk
      simp [set, get?, Ne.symm h]
    · simp [set, get?, hk, ih]

/-- Looking up in the graph of a function. -/
theorem get?_graph {keys : List κ} {f : κ → α} (h : k ∈ keys) :
    get? (keys.map fun k => (k, f k)) k = some (f k) := by
  induction keys with
  | nil => cases h
  | cons k' keys ih =>
    by_cases hk : k' = k
    · simp [get?, hk]
    · rw [List.map_cons, get?, if_neg hk]
      exact ih ((List.mem_cons.1 h).resolve_left (Ne.symm hk))

/-- Looking up in a dictionary with its values rewritten. -/
theorem get?_map_value {β : Type} {f : α → β} :
    get? (d.map fun p => (p.1, f p.2)) k = (d.get? k).map f := by
  induction d with
  | nil => rfl
  | cons p d ih =>
    obtain ⟨k', b⟩ := p
    by_cases h : k' = k <;> simp [get?, h, ih]

theorem mem_keys_iff : k ∈ d.map Prod.fst ↔ ∃ a, d.get? k = some a := by
  induction d with
  | nil => simp
  | cons p d ih =>
    obtain ⟨k', b⟩ := p
    by_cases h : k' = k
    · simp [get?, h]
    · simp only [List.map_cons, List.mem_cons, get?, h, if_false, ← ih, Ne.symm h, false_or]

/-- A key the dictionary does not have. -/
theorem get?_eq_none (h : k ∉ d.map Prod.fst) : d.get? k = none := by
  cases hget : d.get? k with
  | none => rfl
  | some a => exact absurd (mem_keys_iff.2 ⟨a, hget⟩) h

theorem mem_of_get?_eq_some (h : d.get? k = some a) : (k, a) ∈ d := by
  induction d with
  | nil => cases h
  | cons p d ih =>
    obtain ⟨k', b⟩ := p
    by_cases hk : k' = k
    · simp only [get?, hk, if_true, Option.some.injEq] at h
      simp [hk, h]
    · exact List.mem_cons_of_mem _ (ih (by simpa [get?, hk] using h))

theorem mem_set {p : κ × α} (h : p ∈ set d k a) : p ∈ d ∨ p = (k, a) := by
  induction d with
  | nil => exact Or.inr (List.mem_singleton.1 h)
  | cons q d ih =>
    obtain ⟨k', b⟩ := q
    by_cases hk : k' = k
    · rw [set, if_pos hk] at h
      rcases List.mem_cons.1 h with rfl | h
      · exact Or.inr rfl
      · exact Or.inl (List.mem_cons_of_mem _ h)
    · rw [set, if_neg hk] at h
      rcases List.mem_cons.1 h with rfl | h
      · exact Or.inl List.mem_cons_self
      · exact (ih h).imp_left (List.mem_cons_of_mem _)

theorem set_of_not_mem (h : k ∉ d.map Prod.fst) : set d k a = d ++ [(k, a)] := by
  induction d with
  | nil => rfl
  | cons q d ih =>
    obtain ⟨k', b⟩ := q
    rw [List.map_cons, List.mem_cons, not_or] at h
    rw [set, if_neg (Ne.symm h.1), ih h.2, List.cons_append]

/-- Setting a key to the value it has changes nothing. -/
theorem set_of_get? (h : d.get? k = some a) : set d k a = d := by
  induction d with
  | nil => cases h
  | cons q d ih =>
    obtain ⟨k', b⟩ := q
    by_cases hk : k' = k
    · simp only [get?, hk, if_true, Option.some.injEq] at h
      rw [set, if_pos hk, hk, h]
    · rw [set, if_neg hk, ih (by simpa [get?, hk] using h)]

theorem keys_set : (set d k a).map Prod.fst =
    if k ∈ d.map Prod.fst then d.map Prod.fst else d.map Prod.fst ++ [k] := by
  induction d with
  | nil => simp [set]
  | cons q d ih =>
    obtain ⟨k', b⟩ := q
    by_cases hk : k' = k
    · simp [set, hk]
    · rw [set, if_neg hk, List.map_cons, ih]
      by_cases hmem : k ∈ d.map Prod.fst <;> simp [hmem, Ne.symm hk]

/-- Setting a key that is there keeps the keys. -/
theorem keys_set_of_get? {b : α} (h : d.get? k = some b) :
    (set d k a).map Prod.fst = d.map Prod.fst := by
  rw [keys_set, if_pos (mem_keys_iff.2 ⟨b, h⟩)]

theorem mem_keys_set {j : κ} : j ∈ (set d k a).map Prod.fst ↔ j ∈ d.map Prod.fst ∨ j = k := by
  rw [keys_set]
  split
  next h => exact ⟨Or.inl, fun h' => h'.elim id fun h' => h' ▸ h⟩
  next h => simp

theorem nodup_keys_set (h : (d.map Prod.fst).Nodup) : ((set d k a).map Prod.fst).Nodup := by
  rw [keys_set]
  split
  next => exact h
  next hk => exact List.Nodup.append h (List.nodup_singleton k) (by simpa using hk)

theorem mem_of_mem_erase {p : κ × α} (h : p ∈ erase d k) : p ∈ d := by
  induction d with
  | nil => cases h
  | cons q d ih =>
    obtain ⟨k', b⟩ := q
    by_cases hk : k' = k
    · rw [erase, if_pos hk] at h
      exact List.mem_cons_of_mem _ (ih h)
    · rw [erase, if_neg hk] at h
      rcases List.mem_cons.1 h with rfl | h
      · exact List.mem_cons_self
      · exact List.mem_cons_of_mem _ (ih h)

@[simp] theorem get?_erase_self : (erase d k).get? k = none := by
  induction d with
  | nil => rfl
  | cons p d ih =>
    obtain ⟨k', b⟩ := p
    by_cases h : k' = k <;> simp [erase, get?, h, ih]

@[simp] theorem get?_erase_of_ne (h : j ≠ k) : (erase d k).get? j = d.get? j := by
  induction d with
  | nil => rfl
  | cons p d ih =>
    obtain ⟨k', b⟩ := p
    by_cases hk : k' = k
    · subst hk
      simp [erase, get?, ih, Ne.symm h]
    · simp [erase, get?, hk, ih]

/-- Looking up among the entries that are kept for their key. -/
theorem get?_filter_key {p : κ → Bool} :
    get? (d.filter fun entry => !p entry.1) k = if p k then none else d.get? k := by
  induction d with
  | nil => simp
  | cons q d ih =>
    obtain ⟨k', b⟩ := q
    by_cases hk : k' = k
    · subst hk
      cases hp : p k' with
      | true => simpa [hp] using ih
      | false => simp [hp, get?]
    · cases hp : p k' <;> simp [hp, get?, hk, ih]

/-- Looking up among the entries that are kept, where no key has two. -/
theorem get?_filter {p : κ × α → Bool} (hnodup : (d.map Prod.fst).Nodup) :
    get? (d.filter p) k = (d.get? k).filter fun a => p (k, a) := by
  induction d with
  | nil => rfl
  | cons q d ih =>
    obtain ⟨k', b⟩ := q
    rw [List.map_cons, List.nodup_cons] at hnodup
    by_cases hk : k' = k
    · subst hk
      have hnone : get? (d.filter p) k' = none := get?_eq_none fun h =>
        hnodup.1 ((List.filter_sublist.map Prod.fst).subset h)
      cases hp : p (k', b) with
      | true => simp [hp, get?, Option.filter_some]
      | false =>
        rw [List.filter_cons_of_neg (by simp [hp]), hnone]
        simp [hp, get?, Option.filter_some]
    · cases hp : p (k', b) <;> simp [hp, get?, hk, ih hnodup.2]

/-- Removing a key is keeping the entries of the others. -/
theorem erase_eq_filter : erase d k = d.filter fun entry => !(entry.1 = k : Bool) := by
  induction d with
  | nil => rfl
  | cons p d ih =>
    obtain ⟨k', b⟩ := p
    by_cases h : k' = k <;> simp [erase, h, ih]

theorem keys_erase :
    (erase d k).map Prod.fst = (d.map Prod.fst).filter fun j => !(j = k : Bool) := by
  rw [erase_eq_filter, List.filter_map]
  rfl

theorem get?_of_mem (hnodup : (d.map Prod.fst).Nodup) (h : (k, a) ∈ d) : d.get? k = some a := by
  induction d with
  | nil => cases h
  | cons p d ih =>
    obtain ⟨k', b⟩ := p
    rw [List.map_cons, List.nodup_cons] at hnodup
    rcases List.mem_cons.1 h with heq | h
    · cases heq
      simp [get?]
    · have hne : k' ≠ k := by
        rintro rfl
        exact hnodup.1 (List.mem_map.2 ⟨_, h, rfl⟩)
      rw [get?, if_neg hne]
      exact ih hnodup.2 h

theorem mem_iff_get? (hnodup : (d.map Prod.fst).Nodup) : (k, a) ∈ d ↔ d.get? k = some a :=
  ⟨get?_of_mem hnodup, mem_of_get?_eq_some⟩

/-- Pairs with distinct keys are a dictionary as they stand. -/
theorem ofPairs_of_nodup {pairs : List (κ × α)} (h : (pairs.map Prod.fst).Nodup) :
    ofPairs pairs = pairs := by
  have hfold : ∀ (d pairs : List (κ × α)), ((d ++ pairs).map Prod.fst).Nodup →
      pairs.foldl (fun d p => set d p.1 p.2) d = d ++ pairs := by
    intro d pairs
    induction pairs generalizing d with
    | nil => simp
    | cons p pairs ih =>
      intro hnodup
      have hfresh : p.1 ∉ d.map Prod.fst := by
        rw [List.map_append, List.map_cons, List.nodup_middle, List.nodup_cons] at hnodup
        exact fun h => hnodup.1 (List.mem_append_left _ h)
      rw [List.foldl_cons, set_of_not_mem hfresh, ih _ (by simpa using hnodup)]
      simp
  exact hfold [] pairs h

theorem length_set : (set d k a).length = if (d.get? k).isSome then d.length else d.length + 1 := by
  induction d with
  | nil => simp [set]
  | cons p d ih =>
    obtain ⟨k', b⟩ := p
    by_cases h : k' = k
    · simp [set, get?, h]
    · simp only [set, get?, h, if_false, List.length_cons, ih]
      split <;> rfl

/-- The entry of a key is the only one that is removed with it. -/
theorem length_erase (hnodup : (d.map Prod.fst).Nodup) :
    (erase d k).length = if (d.get? k).isSome then d.length - 1 else d.length := by
  induction d with
  | nil => simp [erase]
  | cons p d ih =>
    obtain ⟨k', b⟩ := p
    rw [List.map_cons, List.nodup_cons] at hnodup
    by_cases h : k' = k
    · subst h
      have hnone : ¬ (get? d k').isSome := fun hs =>
        hnodup.1 (mem_keys_iff.2 (Option.isSome_iff_exists.1 hs))
      rw [erase, if_pos rfl, ih hnodup.2, if_neg hnone]
      simp [get?]
    · rw [erase, if_neg h, List.length_cons, ih hnodup.2, get?, if_neg h]
      split
      next hs =>
        obtain ⟨a, ha⟩ := Option.isSome_iff_exists.1 hs
        have := List.length_pos_of_mem (mem_of_get?_eq_some ha)
        rw [List.length_cons]
        omega
      next => rfl

end Dict
