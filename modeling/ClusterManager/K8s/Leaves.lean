import ClusterManager.K8s.Spec

/-!
# The leaves of a value

A leaf of a JSON value is a scalar at the end of a path of keys and indices. One value is kept in
another if each of its leaves stands there too, at the same path. Leaving out an empty list or an
empty dictionary keeps every leaf; leaving out an empty text does not.
-/

namespace ClusterManager.Json

/-- One step into a value. -/
inductive Step
  | key (name : String)
  | index (i : ℕ)
  deriving DecidableEq

/-- The items of a list, none of any other value. -/
def items : Json → List Json
  | arr items => items
  | _ => []

/-- A value that is neither a list nor a dictionary. -/
def scalar? : Json → Option Json
  | arr _ => none
  | obj _ => none
  | leaf => some leaf

/-- The leaf at the end of a path. -/
def leafAt : Json → List Step → Option Json
  | value, [] => value.scalar?
  | value, .key name :: path => (Dict.get? value.fields name).bind (leafAt · path)
  | value, .index i :: path => (value.items[i]?).bind (leafAt · path)

/-- Every leaf of an optional value is one of another, at the same path. -/
def Kept (wanted emitted : Option Json) : Prop :=
  ∀ path leaf, wanted.bind (leafAt · path) = some leaf → emitted.bind (leafAt · path) = some leaf

/-- Nothing that is empty has a leaf. -/
theorem leafAt_of_not_truthy {value : Json} (hscalar : value.scalar? = none)
    (hempty : value.truthy = false) (path : List Step) : leafAt value path = none := by
  cases value with
  | arr items =>
    cases items with
    | nil =>
      cases path with
      | nil => rfl
      | cons step path => cases step <;> rfl
    | cons item items => cases hempty
  | obj fields =>
    cases fields with
    | nil =>
      cases path with
      | nil => rfl
      | cons step path => cases step <;> rfl
    | cons field fields => cases hempty
  | _ => cases hscalar

theorem Kept.refl (value : Option Json) : Kept value value := fun _ _ h => h

theorem kept_none (emitted : Option Json) : Kept none emitted := fun _ _ h => by cases h

/-- What is kept in nothing is kept in anything. -/
theorem Kept.of_none {wanted : Option Json} (h : Kept wanted none) (emitted : Option Json) :
    Kept wanted emitted := fun path leaf hleaf => by cases h path leaf hleaf

/-- A list or a dictionary keeps its leaves when it is left out for being empty. -/
theorem kept_whenTrue {value : Option Json} (h : ∀ v ∈ value, v.scalar? = none) :
    Kept value (whenTrue value) := by
  intro path leaf hleaf
  cases value with
  | none => exact hleaf
  | some v =>
    cases htruthy : v.truthy with
    | true =>
      rw [whenTrue, Option.filter_some, if_pos htruthy]
      exact hleaf
    | false =>
      rw [Option.bind_some, leafAt_of_not_truthy (h v rfl) htruthy] at hleaf
      cases hleaf

theorem kept_stringDictOf (d : Option (Dict String String)) :
    Kept (d.map stringDict) (stringDictOf d) :=
  kept_whenTrue fun v hv => by
    obtain ⟨d, -, rfl⟩ := Option.map_eq_some_iff.1 hv
    rfl

theorem kept_dictOf (d : Option JsonDict) : Kept (d.map JsonDict.json) (dictOf d) :=
  kept_whenTrue fun v hv => by
    obtain ⟨d, -, rfl⟩ := Option.map_eq_some_iff.1 hv
    rfl

theorem kept_dictsOf (items : Option (List JsonDict)) :
    Kept (items.map fun items => .arr (items.map JsonDict.json)) (dictsOf items) :=
  kept_whenTrue fun v hv => by
    obtain ⟨items, -, rfl⟩ := Option.map_eq_some_iff.1 hv
    rfl

/-- A text keeps its leaf exactly where it is not empty. -/
theorem kept_textOf_iff {text : Option String} :
    Kept (text.map .str) (textOf text) ↔ text ≠ some "" := by
  constructor
  · rintro h rfl
    cases h [] (.str "") rfl
  · intro h
    cases text with
    | none => exact Kept.refl _
    | some text =>
      have hne : text ≠ "" := fun he => h (by rw [he])
      simp only [textOf, whenTrue, Option.map_some, Option.filter_some, truthy, hne, ne_eq,
        not_false_eq_true, decide_true, if_true]
      exact Kept.refl _

/-- A list that is left out when it is empty keeps its leaves. -/
theorem kept_filter {α : Type} {items : Option (List α)} {build : List α → Json}
    (h : ∀ path, leafAt (build []) path = none) :
    Kept (items.map build) ((items.filter (!·.isEmpty)).map build) := by
  intro path leaf hleaf
  cases items with
  | none => exact hleaf
  | some items =>
    cases items with
    | nil =>
      rw [Option.map_some, Option.bind_some, h] at hleaf
      cases hleaf
    | cons item items => exact hleaf

/-! ### Dictionaries -/

/-- What is left of a path after its first key. -/
theorem bind_leafAt_key {value : Option Json} {key : String} {path : List Step} :
    value.bind (leafAt · (.key key :: path)) =
      (Dict.get? (value.getD .null).fields key).bind (leafAt · path) := by
  cases value <;> rfl

/-- A dictionary is kept if what stands under each key is. -/
theorem kept_obj_iff {wanted : Dict String Json} {emitted : Option Json} :
    Kept (some (.obj wanted)) emitted ↔
      ∀ key, Kept (Dict.get? wanted key) (Dict.get? (emitted.getD .null).fields key) := by
  constructor
  · intro h key path leaf hleaf
    rw [← bind_leafAt_key]
    exact h (.key key :: path) leaf hleaf
  · rintro h (_ | ⟨key | i, path⟩) leaf hleaf
    · cases hleaf
    · rw [bind_leafAt_key]
      exact h key path leaf hleaf
    · cases hleaf

theorem kept_str_iff {wanted emitted : Option String} :
    Kept (wanted.map .str) (emitted.map .str) ↔
      ∀ text, wanted = some text → emitted = some text := by
  constructor
  · rintro h text rfl
    have hleaf := h [] (.str text) rfl
    cases emitted with
    | none => cases hleaf
    | some text' =>
      cases hleaf
      rfl
  · intro h
    cases wanted with
    | none => exact kept_none _
    | some text =>
      rw [h text rfl]
      exact Kept.refl _

/-- What stands under a key of a dictionary of strings. -/
theorem get?_stringDict {d : Dict String String} {key : String} :
    Dict.get? (stringDict d).fields key = (Dict.get? d key).map .str := Dict.get?_map_value

theorem get?_stringDictOf {d : Option (Dict String String)} {key : String} :
    Dict.get? ((stringDictOf d).getD .null).fields key =
      (Dict.get? (d.getD []) key).map .str := by
  match d with
  | none => rfl
  | some [] => rfl
  | some (entry :: d) => exact get?_stringDict

/-- A dictionary of strings is kept if each of its entries is. -/
theorem kept_stringDict_iff {wanted emitted : Option (Dict String String)} :
    Kept (wanted.map stringDict) (stringDictOf emitted) ↔
      ∀ key value, Dict.get? (wanted.getD []) key = some value →
        Dict.get? (emitted.getD []) key = some value := by
  cases wanted with
  | none =>
    refine iff_of_true (kept_none _) fun key value h => ?_
    cases h
  | some d =>
    refine kept_obj_iff.trans (forall_congr' fun key => ?_)
    rw [get?_stringDictOf, ← kept_str_iff]
    exact Iff.of_eq (congrArg (Kept · _) get?_stringDict)

/-! ### Sections -/

/-- The entry of a section under a key. -/
theorem get?_present {entries : List (String × Option Json)} {key : String}
    (h : (entries.map Prod.fst).Nodup) :
    Dict.get? (present entries) key = (Dict.get? entries key).join := by
  induction entries with
  | nil => rfl
  | cons entry entries ih =>
    obtain ⟨k, value⟩ := entry
    rw [List.map_cons, List.nodup_cons] at h
    by_cases hk : k = key
    · subst hk
      cases value with
      | some value => simp [present, Dict.get?]
      | none =>
        have hrest := ih h.2
        rw [Dict.get?_eq_none h.1] at hrest
        simpa [present, Dict.get?] using hrest
    · have hrest := ih h.2
      cases value with
      | some value => simpa [present, Dict.get?, hk] using hrest
      | none => simpa [present, Dict.get?, hk] using hrest

/-- A text of a section, left out of another when it is empty. -/
theorem text_of_kept {wanted emitted : List (String × Option Json)} {key : String}
    {text : Option String}
    (h : Kept (Dict.get? (present wanted) key) (Dict.get? (present emitted) key))
    (hwanted : (wanted.map Prod.fst).Nodup) (hemitted : (emitted.map Prod.fst).Nodup)
    (hset : (key, text.map .str) ∈ wanted) (hleft : (key, textOf text) ∈ emitted) :
    text ≠ some "" := by
  rw [get?_present hwanted, get?_present hemitted, Dict.get?_of_mem hwanted hset,
    Dict.get?_of_mem hemitted hleft] at h
  exact kept_textOf_iff.1 h

/-- Two lists of entries with the same keys, each entry kept in the other one. -/
abbrev KeptEntries (wanted emitted : List (String × Option Json)) : Prop :=
  List.Forall₂ (fun w e => w.1 = e.1 ∧ Kept w.2 e.2) wanted emitted

theorem KeptEntries.get? {wanted emitted : List (String × Option Json)}
    (h : KeptEntries wanted emitted) (key : String) :
    Kept (Dict.get? wanted key).join (Dict.get? emitted key).join := by
  induction h with
  | nil => exact Kept.refl _
  | cons hentry hrest ih =>
    rename_i w e wanted emitted
    obtain ⟨k, value⟩ := w
    obtain ⟨k', value'⟩ := e
    obtain ⟨rfl, hkept⟩ := hentry
    by_cases hk : k = key
    · simpa [Dict.get?, hk] using hkept
    · simpa [Dict.get?, hk] using ih

theorem KeptEntries.keys {wanted emitted : List (String × Option Json)}
    (h : KeptEntries wanted emitted) : wanted.map Prod.fst = emitted.map Prod.fst := by
  induction h with
  | nil => rfl
  | cons hentry hrest ih => rw [List.map_cons, List.map_cons, hentry.1, ih]

/-- Sections with the same keys keep their entries one by one. -/
theorem kept_present {wanted emitted : List (String × Option Json)}
    (hnodup : (wanted.map Prod.fst).Nodup) (h : KeptEntries wanted emitted) (key : String) :
    Kept (Dict.get? (present wanted) key) (Dict.get? (present emitted) key) := by
  rw [get?_present hnodup, get?_present (h.keys ▸ hnodup)]
  exact h.get? key

/-- A section of one entry. -/
theorem kept_entry_iff {key : String} {value : Option Json} {emitted : Dict String Json} :
    Kept (some (.obj (present [(key, value)]))) (some (.obj emitted)) ↔
      Kept value (Dict.get? emitted key) := by
  have hnodup : ([(key, value)].map Prod.fst).Nodup := List.nodup_singleton key
  have hget : ∀ k, Dict.get? (present [(key, value)]) k = if key = k then value else none := by
    intro k
    rw [get?_present hnodup, Dict.get?]
    split <;> rfl
  rw [kept_obj_iff]
  constructor
  · intro h
    have hkey := h key
    rw [hget, if_pos rfl] at hkey
    exact hkey
  · intro h k
    rw [hget]
    by_cases hk : key = k
    · subst hk
      rw [if_pos rfl]
      exact h
    · rw [if_neg hk]
      exact kept_none _

end ClusterManager.Json
