import Mathlib.Data.Int.Notation
import ClusterManager.Errors
import ClusterManager.Lib.Table

/-!
# JSON values as Python sees them

Custom resources, request bodies and patches are decoded JSON. The operations are those the code
applies to them: `dict.get`, item assignment, `dict.setdefault`, `dict.pop` and the truth of
`a or b`; a value of the wrong shape raises. `mergePatch` is the merge patch the API server
applies.
-/

namespace ClusterManager

/-- A decoded JSON value. -/
inductive Json
  | null
  | bool (b : Bool)
  | num (n : ℤ)
  | str (s : String)
  | arr (items : List Json)
  | obj (fields : List (String × Json))

namespace Json

/-- `bool(value)`. -/
def truthy : Json → Bool
  | null => false
  | bool b => b
  | num n => n ≠ 0
  | str s => s ≠ ""
  | arr items => !items.isEmpty
  | obj fields => !fields.isEmpty

/-- `a or b`. -/
def or (a b : Json) : Json := if a.truthy then a else b

/-- `value.get(key, default)`. -/
def get (value : Json) (key : String) (default : Json := null) : Except Exc Json :=
  match value with
  | obj fields => .ok ((Dict.get? fields key).getD default)
  | _ => .error .typeError

/-- `value[key] = item`. -/
def setItem (value : Json) (key : String) (item : Json) : Except Exc Json :=
  match value with
  | obj fields => .ok (obj (Dict.set fields key item))
  | _ => .error .typeError

/-- `value.setdefault(key, default)`: the value with the key, and what is under it. -/
def setDefault (value : Json) (key : String) (default : Json) : Except Exc (Json × Json) :=
  match value with
  | obj fields =>
      match Dict.get? fields key with
      | some item => .ok (value, item)
      | none => .ok (obj (Dict.set fields key default), default)
  | _ => .error .typeError

/-- `value.pop(key, None)`: the value without the key. -/
def pop (value : Json) (key : String) : Except Exc Json :=
  match value with
  | obj fields => .ok (obj (Dict.erase fields key))
  | _ => .error .typeError

/-- The fields of an object, none of any other value. -/
def fields : Json → List (String × Json)
  | obj fields => fields
  | _ => []

/-- The value is a dictionary. -/
def IsDict (value : Json) : Prop := ∃ fields, value = obj fields

/-- What stands under a key, `null` if nothing does. -/
def under (value : Json) (key : String) : Json := (Dict.get? value.fields key).getD null

mutual

/-- The merge patch of a value: `null` removes a field, an object is merged, anything else
replaces. -/
def mergePatch (target : Json) : Json → Json
  | obj patch => obj (mergeFields target.fields patch)
  | null => null
  | bool b => bool b
  | num n => num n
  | str s => str s
  | arr items => arr items

/-- The fields of an object after a patch. -/
def mergeFields (target : List (String × Json)) : List (String × Json) → List (String × Json)
  | [] => target
  | (key, value) :: patch =>
      match value with
      | null => mergeFields (Dict.erase target key) patch
      | value =>
          mergeFields
            (Dict.set target key (mergePatch ((Dict.get? target key).getD null) value)) patch

end

/-- The value at the end of a path of keys. -/
def at? : Json → List String → Option Json
  | value, [] => some value
  | value, key :: path => (Dict.get? value.fields key).bind (at? · path)

/-- A value read under a key that an object has. -/
theorem get_obj {fields : List (String × Json)} {key : String} {default : Json} :
    get (obj fields) key default = .ok ((Dict.get? fields key).getD default) := rfl

theorem at?_cons {value : Json} {key : String} {path : List String} :
    at? value (key :: path) = (Dict.get? value.fields key).bind (at? · path) := rfl

/-- A path goes on in the fields of what stands under its first key. -/
theorem at?_cons_cons {value : Json} {key key' : String} {path : List String} :
    at? value (key :: key' :: path) =
      at? (.obj ((Dict.get? value.fields key).getD null).fields) (key' :: path) := by
  rw [at?_cons]
  cases Dict.get? value.fields key <;> rfl

theorem at?_singleton {value : Json} {key : String} :
    at? value [key] = Dict.get? value.fields key := by
  rw [at?_cons]
  cases Dict.get? value.fields key <;> rfl

/-! ### What a merge patch leaves under a key -/

/-- One entry of a patch on the fields of an object. -/
def mergeEntry (target : List (String × Json)) (key : String) (value : Json) :
    List (String × Json) :=
  match value with
  | null => Dict.erase target key
  | value => Dict.set target key (mergePatch ((Dict.get? target key).getD null) value)

theorem mergeFields_cons {target patch : List (String × Json)} {key : String} {value : Json} :
    mergeFields target ((key, value) :: patch) =
      mergeFields (mergeEntry target key value) patch := by
  cases value <;> rfl

theorem mergeEntry_of_ne_null {target : List (String × Json)} {key : String} {value : Json}
    (h : value ≠ null) : mergeEntry target key value =
      Dict.set target key (mergePatch ((Dict.get? target key).getD null) value) := by
  cases value with
  | null => exact absurd rfl h
  | _ => rfl

theorem get?_mergeEntry_of_ne {target : List (String × Json)} {j key : String} {value : Json}
    (h : j ≠ key) : Dict.get? (mergeEntry target key value) j = Dict.get? target j := by
  cases value <;> simp [mergeEntry, h]

theorem get?_mergeEntry_congr {target target' : List (String × Json)} {key : String}
    {value : Json} (h : Dict.get? target key = Dict.get? target' key) :
    Dict.get? (mergeEntry target key value) key =
      Dict.get? (mergeEntry target' key value) key := by
  cases value <;> simp [mergeEntry, h]

/-- A key the patch does not name keeps its value. -/
theorem get?_mergeFields_of_none {target patch : List (String × Json)} {key : String}
    (h : Dict.get? patch key = none) :
    Dict.get? (mergeFields target patch) key = Dict.get? target key := by
  induction patch generalizing target with
  | nil => rw [mergeFields]
  | cons entry patch ih =>
    obtain ⟨k, value⟩ := entry
    by_cases hk : k = key
    · simp [Dict.get?, hk] at h
    · rw [mergeFields_cons, ih (by simpa [Dict.get?, hk] using h),
        get?_mergeEntry_of_ne (Ne.symm hk)]

/-- A key of the patch has what its entry leaves. -/
theorem get?_mergeFields_of_some {target patch : List (String × Json)} {key : String}
    {value : Json} (hnodup : (patch.map Prod.fst).Nodup) (h : Dict.get? patch key = some value) :
    Dict.get? (mergeFields target patch) key = Dict.get? (mergeEntry target key value) key := by
  induction patch generalizing target with
  | nil => cases h
  | cons entry patch ih =>
    obtain ⟨k, v⟩ := entry
    rw [List.map_cons, List.nodup_cons] at hnodup
    rw [mergeFields_cons]
    by_cases hk : k = key
    · subst hk
      rw [Dict.get?, if_pos rfl, Option.some.injEq] at h
      rw [h, get?_mergeFields_of_none (Dict.get?_eq_none hnodup.1)]
    · rw [ih hnodup.2 (by simpa [Dict.get?, hk] using h)]
      exact get?_mergeEntry_congr (get?_mergeEntry_of_ne (Ne.symm hk))

/-- A key that the patch sets to `null` is gone. -/
theorem get?_mergeFields_of_null {target patch : List (String × Json)} {key : String}
    (hnodup : (patch.map Prod.fst).Nodup) (h : Dict.get? patch key = some null) :
    Dict.get? (mergeFields target patch) key = none := by
  rw [get?_mergeFields_of_some hnodup h, mergeEntry, Dict.get?_erase_self]

/-- Anything else under a key of the patch is merged into what the key has. -/
theorem get?_mergeFields_of_ne_null {target patch : List (String × Json)} {key : String}
    {value : Json} (hnodup : (patch.map Prod.fst).Nodup) (h : Dict.get? patch key = some value)
    (hne : value ≠ null) :
    Dict.get? (mergeFields target patch) key =
      some (mergePatch ((Dict.get? target key).getD null) value) := by
  rw [get?_mergeFields_of_some hnodup h]
  cases value with
  | null => exact absurd rfl hne
  | _ => exact Dict.get?_set_self

/-! ### Patches that remove nothing -/

mutual

/-- A member that is not null, whose dictionaries have distinct keys and no null member, at any
depth. A list is replaced as a whole, whatever stands in it. -/
def NullFree : Json → Prop
  | null => False
  | bool _ => True
  | num _ => True
  | str _ => True
  | arr _ => True
  | obj fields => (fields.map Prod.fst).Nodup ∧ NullFreeFields fields

/-- No field is null, at any depth. -/
def NullFreeFields : List (String × Json) → Prop
  | [] => True
  | (_, value) :: fields => NullFree value ∧ NullFreeFields fields

end

theorem nullFreeFields_iff {fields : List (String × Json)} :
    NullFreeFields fields ↔ ∀ entry ∈ fields, NullFree entry.2 := by
  induction fields with
  | nil => simp [NullFreeFields]
  | cons entry fields ih => rw [NullFreeFields, ih, List.forall_mem_cons]

mutual

/-- A patch that removes nothing, put on nothing, is what comes out. -/
theorem mergePatch_of_nullFree {target : Json} (htarget : target.fields = []) :
    ∀ {value : Json}, NullFree value → mergePatch target value = value
  | null, h => h.elim
  | bool _, _ => rfl
  | num _, _ => rfl
  | str _, _ => rfl
  | arr _, _ => rfl
  | obj fields, h => by
      rw [NullFree] at h
      rw [mergePatch, htarget, mergeFields_of_nullFree h.1 h.2 (by simp), List.nil_append]

/-- The fields of a patch that removes nothing are added to others. -/
theorem mergeFields_of_nullFree {target : List (String × Json)} :
    ∀ {fields : List (String × Json)}, (fields.map Prod.fst).Nodup → NullFreeFields fields →
      (∀ key ∈ fields.map Prod.fst, key ∉ target.map Prod.fst) →
      mergeFields target fields = target ++ fields
  | [], _, _, _ => by rw [mergeFields, List.append_nil]
  | (key, value) :: fields, hnodup, hfree, hdisjoint => by
      rw [NullFreeFields] at hfree
      rw [List.map_cons, List.nodup_cons] at hnodup
      have hkey : key ∉ target.map Prod.fst := hdisjoint key (by simp)
      have hvalue : mergePatch null value = value := mergePatch_of_nullFree rfl hfree.1
      have hentry : mergeEntry target key value = target ++ [(key, value)] := by
        have hne : value ≠ null := by
          rintro rfl
          exact hfree.1
        rw [mergeEntry_of_ne_null hne, Dict.get?_eq_none hkey, Option.getD_none, hvalue,
          Dict.set_of_not_mem hkey]
      have hrest : ∀ k ∈ fields.map Prod.fst, k ∉ (target ++ [(key, value)]).map Prod.fst := by
        intro k hk hmem
        rw [List.map_append, List.mem_append] at hmem
        obtain hmem | hmem := hmem
        · exact hdisjoint k (List.mem_cons_of_mem _ hk) hmem
        · exact hnodup.1 (List.mem_singleton.1 hmem ▸ hk)
      rw [mergeFields_cons, hentry, mergeFields_of_nullFree hnodup.2 hfree.2 hrest,
        List.append_assoc, List.singleton_append]

end

end Json

end ClusterManager
