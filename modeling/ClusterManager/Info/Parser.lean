import ClusterManager.Lib.Numerals
import ClusterManager.Lib.Table

/-!
# Info responses

The readers of `info_parser` for what nodes answer to an info command: key-value pairs, lists,
records of key-value pairs, and the values in them.
-/

namespace ClusterManager.Info

open Str Numerals

/-- A `key=value` part enters a dictionary; a part without `=` does not. -/
def putPart (result : Dict Str Str) (part : Str) : Dict Str Str :=
  if part.contains '=' then
    let (k, _, v) := partition '=' part
    result.set (strip k) (strip v)
  else result

/-- `parse_kv_pairs`. -/
def parseKvPairs (response : Str) (sep : Char) : Dict Str Str :=
  if response = [] then [] else ((strip response).splitOn sep).foldl putPart []

/-- `parse_list`. -/
def parseList (response : Str) (sep : Char) : List Str :=
  if response = [] ∨ strip response = [] then []
  else (((strip response).splitOn sep).filter (strip · ≠ [])).map strip

/-- One record of a response. -/
def parseRecord (recordStr : Str) (fieldSep : Char) : Dict Str Str :=
  ((strip recordStr).splitOn fieldSep).foldl putPart []

/-- `parse_records`. -/
def parseRecords (response : Str) (recordSep fieldSep : Char) : List (Dict Str Str) :=
  if response = [] ∨ strip response = [] then []
  else ((((strip response).splitOn recordSep).filter (strip · ≠ [])).map
    (parseRecord · fieldSep)).filter (· ≠ [])

/-- `safe_int`. -/
def safeInt (value : Option Str) (default : ℤ) : ℤ := (value.bind parseInt).getD default

/-- `safe_bool`. `lower` is `str.lower`. -/
def safeBool (lower : Str → Str) (value : Option Str) : Bool :=
  match value with
  | none => false
  | some value => lower (strip value) = "true".toList

theorem nodup_keys_putPart {result : Dict Str Str} (part : Str)
    (h : (result.map Prod.fst).Nodup) : ((putPart result part).map Prod.fst).Nodup := by
  unfold putPart
  split
  · exact Dict.nodup_keys_set h
  · exact h

theorem nodup_keys_foldl_putPart (parts : List Str) {result : Dict Str Str}
    (h : (result.map Prod.fst).Nodup) :
    ((parts.foldl putPart result).map Prod.fst).Nodup := by
  induction parts generalizing result with
  | nil => exact h
  | cons part parts ih => exact ih (nodup_keys_putPart part h)

/-- A response gives each of its keys one value. -/
theorem nodup_keys_parseKvPairs (response : Str) (sep : Char) :
    ((parseKvPairs response sep).map Prod.fst).Nodup := by
  unfold parseKvPairs
  split
  · exact List.nodup_nil
  · exact nodup_keys_foldl_putPart _ List.nodup_nil

/-- A printed sum is read back. -/
theorem safeInt_of_printInt {n default : ℤ} {text : Str} (h : printInt n = some text) :
    safeInt (some text) default = n := by
  rw [safeInt, Option.bind_some, parseInt_of_printInt h, Option.getD_some]

end ClusterManager.Info
