import Mathlib.Data.List.Perm.Basic
import Mathlib.Data.List.Induction
import Mathlib.Data.List.Sort
import ClusterManager.Lib.Table

/-!
# Lists that match up to order

`Matched R l m` pairs the elements of two lists off by a relation, in some order: two stores that
keep the same rows in encodings of their own. Filters, maps, appends and the operations of a table
keep it. Sorting by a key that is the same on both sides and that no two elements share pairs the
lists off in order. `Agrees R` relates two computations: both raise, or both return related
results.
-/

/-- Two lists are paired off by a relation, in some order. -/
def Matched {α β : Type} (R : α → β → Prop) (l : List α) (m : List β) : Prop :=
  ∃ l', List.Forall₂ R l l' ∧ l'.Perm m

/-- Two computations both raise, or return related results. -/
inductive Agrees {ε α β : Type} (R : α → β → Prop) : Except ε α → Except ε β → Prop
  | ok {a : α} {b : β} (h : R a b) : Agrees R (.ok a) (.ok b)
  | error (e e' : ε) : Agrees R (.error e) (.error e')

/-! ### Optional values -/

namespace Option.Rel

variable {α β : Type} {R S : α → β → Prop} {x : Option α} {y : Option β}

theorem mono (h : Option.Rel R x y) (hRS : ∀ a b, R a b → S a b) : Option.Rel S x y := by
  cases h with
  | none => exact .none
  | some hab => exact .some (hRS _ _ hab)

theorem eq {T : α → α → Prop} {x y : Option α} (h : Option.Rel T x y)
    (hT : ∀ a b, T a b → a = b) : x = y := by
  cases h with
  | none => rfl
  | some hab => rw [hT _ _ hab]

end Option.Rel

/-! ### Computations -/

namespace Agrees

variable {ε α β α' β' : Type} {R : α → β → Prop} {R' : α' → β' → Prop} {x : Except ε α}
  {y : Except ε β}

theorem bind {f : α → Except ε α'} {g : β → Except ε β'} (h : Agrees R x y)
    (hfg : ∀ a b, R a b → Agrees R' (f a) (g b)) : Agrees R' (x >>= f) (y >>= g) := by
  cases h with
  | ok h => exact hfg _ _ h
  | error e e' => exact .error e e'

theorem map {f : α → α'} {g : β → β'} (h : Agrees R x y) (hfg : ∀ a b, R a b → R' (f a) (g b)) :
    Agrees R' (x.map f) (y.map g) := by
  cases h with
  | ok h => exact .ok (hfg _ _ h)
  | error e e' => exact .error e e'

theorem mono {S : α → β → Prop} (h : Agrees R x y) (hRS : ∀ a b, R a b → S a b) :
    Agrees S x y := by
  cases h with
  | ok h => exact .ok (hRS _ _ h)
  | error e e' => exact .error e e'

/-- A computation agrees with itself where its results are related to themselves. -/
theorem refl {R : α → α → Prop} {x : Except ε α} (h : ∀ a, x = .ok a → R a a) : Agrees R x x := by
  cases x with
  | ok a => exact .ok (h a rfl)
  | error e => exact .error e e

/-- Agreement along two steps. -/
theorem comp {γ : Type} {S : β → γ → Prop} {z : Except ε γ} (h : Agrees R x y)
    (h' : Agrees S y z) : Agrees (Relation.Comp R S) x z := by
  cases h with
  | ok h =>
    cases h' with
    | ok h' => exact .ok ⟨_, h, h'⟩
  | error e e' =>
    cases h' with
    | error e' e'' => exact .error e e''

theorem mapM {f : α → Except ε α'} {g : β → Except ε β'} {l : List α} {m : List β}
    (h : List.Forall₂ R l m) (hfg : ∀ a b, R a b → Agrees R' (f a) (g b)) :
    Agrees (List.Forall₂ R') (l.mapM f) (m.mapM g) := by
  induction h with
  | nil => exact .ok .nil
  | cons hab h ih =>
    rw [List.mapM_cons, List.mapM_cons]
    exact (hfg _ _ hab).bind fun a b hR => ih.bind fun l m hF => .ok (.cons hR hF)

/-- Mapping a list in another order gives the results in another order. -/
theorem mapM_perm {f : α → Except ε α'} {l m : List α} (h : l.Perm m) :
    Agrees List.Perm (l.mapM f) (m.mapM f) := by
  induction h with
  | nil => exact .ok .nil
  | cons a h ih =>
    rw [List.mapM_cons, List.mapM_cons]
    exact (refl fun b _ => rfl).bind (R := Eq) fun b b' hb =>
      ih.bind fun l m hp => .ok (hb ▸ hp.cons b)
  | swap a b l =>
    simp only [List.mapM_cons]
    cases f a <;> cases f b <;> cases l.mapM f <;>
      first | exact .error _ _ | exact .ok (.swap _ _ _)
  | trans _ _ ih ih' => exact (ih.comp ih').mono fun _ _ ⟨_, hp, hp'⟩ => hp.trans hp'

theorem of_ok {a : α} {y : Except ε β} (h : Agrees R (.ok a) y) : ∃ b, y = .ok b ∧ R a b := by
  cases h with
  | ok h => exact ⟨_, rfl, h⟩

theorem of_ok_right {b : β} (h : Agrees R x (.ok b)) : ∃ a, x = .ok a ∧ R a b := by
  cases h with
  | ok h => exact ⟨_, rfl, h⟩

end Agrees

/-! ### Lists -/

namespace Matched

variable {α β α' β' : Type} {R : α → β → Prop} {R' : α' → β' → Prop} {l : List α} {m : List β}

theorem nil : Matched R [] [] := ⟨[], .nil, .nil⟩

theorem of_forall₂ (h : List.Forall₂ R l m) : Matched R l m := ⟨m, h, .refl m⟩

theorem perm {l m : List α} (h : Matched Eq l m) : l.Perm m := by
  obtain ⟨l', hF, hp⟩ := h
  rw [List.forall₂_eq_eq_eq] at hF
  exact hF ▸ hp

/-- The order of either list does not matter. -/
theorem of_perms {l₁ : List α} {m₁ : List β} (h : Matched R l m) (hl : l₁.Perm l)
    (hm : m.Perm m₁) : Matched R l₁ m₁ := by
  obtain ⟨l', hF, hp⟩ := h
  obtain ⟨l₂, hF', hp'⟩ := List.perm_comp_forall₂ hl hF
  exact ⟨l₂, hF', hp'.trans (hp.trans hm)⟩

theorem append {l₂ : List α} {m₂ : List β} (h : Matched R l m) (h₂ : Matched R l₂ m₂) :
    Matched R (l ++ l₂) (m ++ m₂) := by
  obtain ⟨l', hF, hp⟩ := h
  obtain ⟨l₂', hF₂, hp₂⟩ := h₂
  exact ⟨l' ++ l₂', List.rel_append hF hF₂, hp.append hp₂⟩

theorem singleton {a : α} {b : β} (h : R a b) : Matched R [a] [b] :=
  of_forall₂ (.cons h .nil)

theorem map {f : α → α'} {g : β → β'} (h : Matched R l m) (hfg : ∀ a b, R a b → R' (f a) (g b)) :
    Matched R' (l.map f) (m.map g) := by
  obtain ⟨l', hF, hp⟩ := h
  refine ⟨l'.map g, ?_, hp.map g⟩
  rw [List.forall₂_map_left_iff, List.forall₂_map_right_iff]
  exact hF.imp hfg

theorem filter {p : α → Bool} {q : β → Bool} (h : Matched R l m) (hpq : ∀ a b, R a b → p a = q b) :
    Matched R (l.filter p) (m.filter q) := by
  obtain ⟨l', hF, hp⟩ := h
  exact ⟨l'.filter q, List.rel_filter (fun a b hab => by simp only [hpq a b hab]) hF, hp.filter q⟩

theorem mono {S : α → β → Prop} (h : Matched R l m) (hRS : ∀ a b, R a b → S a b) :
    Matched S l m := by
  obtain ⟨l', hF, hp⟩ := h
  exact ⟨l', hF.imp hRS, hp⟩

theorem length_eq (h : Matched R l m) : l.length = m.length := by
  obtain ⟨l', hF, hp⟩ := h
  rw [hF.length_eq, hp.length_eq]

theorem countP_eq {p : α → Bool} {q : β → Bool} (h : Matched R l m)
    (hpq : ∀ a b, R a b → p a = q b) : l.countP p = m.countP q := by
  rw [List.countP_eq_length_filter, List.countP_eq_length_filter]
  exact (h.filter hpq).length_eq

theorem exists_right {a : α} (h : Matched R l m) (ha : a ∈ l) : ∃ b ∈ m, R a b := by
  obtain ⟨l', hF, hp⟩ := h
  obtain ⟨i, hi, rfl⟩ := List.getElem_of_mem ha
  have hi' : i < l'.length := hF.length_eq ▸ hi
  exact ⟨l'[i], hp.mem_iff.1 (List.getElem_mem hi'), hF.get hi hi'⟩

theorem exists_left {b : β} (h : Matched R l m) (hb : b ∈ m) : ∃ a ∈ l, R a b := by
  obtain ⟨l', hF, hp⟩ := h
  obtain ⟨i, hi, rfl⟩ := List.getElem_of_mem (hp.mem_iff.2 hb)
  have hi' : i < l.length := hF.length_eq ▸ hi
  exact ⟨l[i], List.getElem_mem hi', hF.get hi' hi⟩

/-- A reading that is the same on both sides reads the same lists, up to order. -/
theorem map_perm {γ : Type} {f : α → γ} {g : β → γ} (h : Matched R l m)
    (hfg : ∀ a b, R a b → f a = g b) : (l.map f).Perm (m.map g) :=
  (h.map hfg).perm

/-- Sorting by a key that both sides share, and no two elements have in common, pairs the lists
off in order. -/
theorem insertionSort {γ : Type} [LinearOrder γ] {f : α → γ} {g : β → γ} {r : α → α → Prop}
    {s : β → β → Prop} [DecidableRel r] [DecidableRel s] (h : Matched R l m)
    (hfg : ∀ a b, R a b → f a = g b) (hnodup : (l.map f).Nodup)
    (hr : ∀ a ∈ l, ∀ a' ∈ l, r a a' ↔ f a ≤ f a') (hs : ∀ b ∈ m, ∀ b' ∈ m, s b b' ↔ g b ≤ g b') :
    List.Forall₂ R (l.insertionSort r) (m.insertionSort s) := by
  have hl : l.insertionSort r = l.insertionSort fun a a' => f a ≤ f a' := by
    simpa using List.map_insertionSort r (fun a a' => f a ≤ f a') id l hr
  have hm : m.insertionSort s = m.insertionSort fun b b' => g b ≤ g b' := by
    simpa using List.map_insertionSort s (fun b b' => g b ≤ g b') id m hs
  rw [hl, hm]
  obtain ⟨l', hF, hp⟩ := h.of_perms (List.perm_insertionSort (fun a a' => f a ≤ f a') l)
    (List.perm_insertionSort (fun b b' => g b ≤ g b') m).symm
  have hkeys : l'.map g = (l.insertionSort fun a a' => f a ≤ f a').map f := by
    rw [← List.forall₂_eq_eq_eq, List.forall₂_map_left_iff, List.forall₂_map_right_iff]
    exact hF.flip.imp fun b a hab => (hfg a b hab).symm
  have hsorted : l'.Pairwise fun b b' => g b ≤ g b' := by
    rw [← List.pairwise_map, hkeys, List.pairwise_map]
    exact List.pairwise_insertionSort _ l
  have hinj : ∀ b b', b ∈ l' → b' ∈ l' → g b = g b' → b = b' := by
    have : (l'.map g).Nodup :=
      hkeys ▸ ((List.perm_insertionSort _ l).map f).nodup_iff.2 hnodup
    exact fun b b' hb hb' => List.inj_on_of_nodup_map this hb hb'
  have heq : l' = m.insertionSort fun b b' => g b ≤ g b' :=
    hp.eq_of_pairwise (fun b b' hb hb' h h' => hinj b b' hb (hp.mem_iff.2 hb') (h.antisymm h'))
      hsorted (List.pairwise_insertionSort _ m)
  exact heq ▸ hF

end Matched

/-! ### Tables -/

namespace Table

variable {α β κ : Type} [DecidableEq κ] {key : α → κ} {key' : β → κ} {R : α → β → Prop}
  {t : Table α key} {u : Table β key'} {a : α} {b : β} {k : κ}

/-- Two tables hold rows that match. -/
def Matches (R : α → β → Prop) (t : Table α key) (u : Table β key') : Prop :=
  Matched R t.rows u.rows

/-- The rows under a key are the one that is found. -/
theorem filter_key {p : α → Bool} (hp : ∀ a ∈ t, p a = true ↔ key a = k) :
    t.rows.filter p = (t.find? k).toList := by
  have hfilter : t.rows.filter p = t.rows.filter fun a => key a = k :=
    List.filter_congr fun a ha => by
      rw [Bool.eq_iff_iff, decide_eq_true_iff]
      exact hp a ha
  have hle : (t.rows.filter p).length ≤ 1 := by
    rw [hfilter, ← List.countP_eq_length_filter]
    have hcount := List.nodup_iff_count_le_one.1 t.nodup k
    rw [List.count, List.countP_map] at hcount
    refine le_of_eq_of_le (List.countP_congr fun a _ => ?_) hcount
    simp
  cases hfind : t.find? k with
  | none =>
    refine List.filter_eq_nil_iff.2 fun a ha hpa => ?_
    exact find?_eq_none.1 hfind a ha ((hp a ha).1 hpa)
  | some a =>
    obtain ⟨ha, hk⟩ := find?_eq_some.1 hfind
    have hmem : a ∈ t.rows.filter p := List.mem_filter.2 ⟨ha, (hp a ha).2 hk⟩
    obtain ⟨b, hb⟩ := List.length_eq_one_iff.1 (le_antisymm hle (List.length_pos_of_mem hmem))
    rw [hb] at hmem ⊢
    rw [List.mem_singleton.1 hmem]
    rfl

theorem Matches.find? (h : Matches R t u) (hkey : ∀ a b, R a b → key a = key' b) :
    Option.Rel R (t.find? k) (u.find? k) := by
  cases ht : t.find? k with
  | none =>
    have hu : u.find? k = none := find?_eq_none.2 fun b hb hk => by
      obtain ⟨a, ha, hab⟩ := Matched.exists_left h hb
      exact find?_eq_none.1 ht a ha ((hkey a b hab).trans hk)
    exact hu ▸ .none
  | some a =>
    obtain ⟨ha, hk⟩ := find?_eq_some.1 ht
    obtain ⟨b, hb, hab⟩ := Matched.exists_right h ha
    have hu : u.find? k = some b := find?_eq_some.2 ⟨hb, (hkey a b hab).symm.trans hk⟩
    exact hu ▸ .some hab

theorem Matches.insert? (h : Matches R t u) (hkey : ∀ a b, R a b → key a = key' b) (hab : R a b) :
    Option.Rel (Matches R) (t.insert? a) (u.insert? b) := by
  have hfind := h.find? (k := key a) hkey
  cases ht : t.insert? a with
  | none =>
    obtain ⟨a', ha'⟩ := insert?_eq_none.1 ht
    have hu : u.insert? b = none := insert?_eq_none.2 <| by
      rw [ha', hkey a b hab] at hfind
      cases hu : u.find? (key' b) with
      | none =>
        rw [hu] at hfind
        cases hfind
      | some b' => exact ⟨b', rfl⟩
    exact hu ▸ .none
  | some t' =>
    obtain ⟨hfresh, hrows⟩ := insert?_eq_some.1 ht
    cases hu : u.insert? b with
    | none =>
      obtain ⟨b', hb'⟩ := insert?_eq_none.1 hu
      rw [find?_eq_none.2 hfresh, hkey a b hab, hb'] at hfind
      cases hfind
    | some u' =>
      refine .some ?_
      rw [Matches, hrows, (insert?_eq_some.1 hu).2]
      exact Matched.append h (.singleton hab)

theorem Matches.update {f : α → α} {g : β → β} (hf : ∀ a, key (f a) = key a)
    (hg : ∀ b, key' (g b) = key' b) (h : Matches R t u) (hkey : ∀ a b, R a b → key a = key' b)
    (hfg : ∀ a b, R a b → key a = k → R (f a) (g b)) :
    Matches R (t.update k f hf) (u.update k g hg) := by
  refine Matched.map h fun a b hab => ?_
  rw [← hkey a b hab]
  by_cases hk : key a = k
  · rw [if_pos hk, if_pos hk]
    exact hfg a b hab hk
  · rw [if_neg hk, if_neg hk]
    exact hab

omit [DecidableEq κ] in
theorem Matches.delete {p : α → Bool} {q : β → Bool} (h : Matches R t u)
    (hpq : ∀ a b, R a b → p a = q b) : Matches R (t.delete p) (u.delete q) :=
  Matched.filter h fun a b hab => by rw [hpq a b hab]

end Table

/-! ### Dictionaries -/

namespace Dict

variable {κ α : Type} [DecidableEq κ] {d d' : Dict κ α} {k : κ} {a : α}
  {pairs pairs' : List (κ × α)}

/-- Dictionaries are compared without the order of their entries. -/
theorem get?_perm (h : d.Perm d') (hnodup : (d.map Prod.fst).Nodup) : d.get? k = d'.get? k := by
  have hnodup' : (d'.map Prod.fst).Nodup := (h.map Prod.fst).nodup_iff.1 hnodup
  refine Option.ext fun a => ?_
  rw [← mem_iff_get? hnodup, ← mem_iff_get? hnodup']
  exact h.mem_iff

theorem perm_of_get? (hnodup : (d.map Prod.fst).Nodup) (hnodup' : (d'.map Prod.fst).Nodup)
    (h : ∀ k, d.get? k = d'.get? k) : d.Perm d' := by
  refine (List.perm_ext_iff_of_nodup hnodup.of_map hnodup'.of_map).2 fun p => ?_
  rw [mem_iff_get? hnodup, mem_iff_get? hnodup', h]

theorem set_perm (h : d.Perm d') (hnodup : (d.map Prod.fst).Nodup) :
    (d.set k a).Perm (d'.set k a) := by
  have hnodup' : (d'.map Prod.fst).Nodup := (h.map Prod.fst).nodup_iff.1 hnodup
  refine perm_of_get? (nodup_keys_set hnodup) (nodup_keys_set hnodup') fun j => ?_
  by_cases hj : j = k
  · rw [hj, get?_set_self, get?_set_self]
  · rw [get?_set_of_ne hj, get?_set_of_ne hj, get?_perm h hnodup]

theorem ofPairs_concat (pairs : List (κ × α)) (p : κ × α) :
    ofPairs (pairs ++ [p]) = (ofPairs pairs).set p.1 p.2 := by
  rw [ofPairs, List.foldl_append]
  rfl

theorem nodup_keys_ofPairs (pairs : List (κ × α)) : ((ofPairs pairs).map Prod.fst).Nodup := by
  induction pairs using List.reverseRecOn with
  | nil => exact List.nodup_nil
  | append_singleton pairs p ih => exact ofPairs_concat pairs p ▸ nodup_keys_set ih

/-- Where a key always comes with one value, this is what is found under it. -/
theorem get?_ofPairs (h : ∀ p ∈ pairs, ∀ q ∈ pairs, p.1 = q.1 → p.2 = q.2) :
    (ofPairs pairs).get? k = some a ↔ (k, a) ∈ pairs := by
  induction pairs using List.reverseRecOn with
  | nil => simp [ofPairs]
  | append_singleton pairs p ih =>
    have hp : p ∈ pairs ++ [p] := List.mem_append_right _ (List.mem_singleton_self p)
    rw [ofPairs_concat]
    by_cases hk : k = p.1
    · rw [hk, get?_set_self, Option.some.injEq]
      constructor
      · rintro rfl
        exact hp
      · exact fun hmem => h p hp (p.1, a) hmem rfl
    · have hne : (k, a) ≠ p := fun heq => hk (congrArg Prod.fst heq)
      rw [get?_set_of_ne hk, List.mem_append, List.mem_singleton, or_iff_left hne]
      exact ih fun p hp q hq => h p (List.mem_append_left _ hp) q (List.mem_append_left _ hq)

theorem ofPairs_perm (h : ∀ p ∈ pairs, ∀ q ∈ pairs, p.1 = q.1 → p.2 = q.2)
    (hmem : ∀ p, p ∈ pairs ↔ p ∈ pairs') : (ofPairs pairs).Perm (ofPairs pairs') := by
  refine perm_of_get? (nodup_keys_ofPairs _) (nodup_keys_ofPairs _) fun k => Option.ext fun a => ?_
  have h' : ∀ p ∈ pairs', ∀ q ∈ pairs', p.1 = q.1 → p.2 = q.2 := fun p hp q hq =>
    h p ((hmem p).2 hp) q ((hmem q).2 hq)
  rw [get?_ofPairs h, get?_ofPairs h']
  exact hmem (k, a)

end Dict
