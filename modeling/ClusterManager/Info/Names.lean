import ClusterManager.Text

/-!
# Names that reach an info command

What a namespace, a set, an index, a UDF module and a bin may be called, as the request models
state it, and the backstops (`checked_ns`, `checked_info_name`, `checked_udf_filename`) in front of
the wire.
-/

namespace ClusterManager.Info

/-- A letter or digit of ASCII. -/
def isAlnum (c : Char) : Bool :=
  ('a' ≤ c && c ≤ 'z') || ('A' ≤ c && c ≤ 'Z') || ('0' ≤ c && c ≤ '9')

/-- A character of `INFO_NS_ARG_PATTERN`. -/
def isNsChar (c : Char) : Bool := isAlnum c || c = '_' || c = '-'

/-- A character of `UDF_FILENAME_PATTERN`. -/
def isUdfChar (c : Char) : Bool := isNsChar c || c = '.'

/-- A character of `INFO_NAME_ARG_PATTERN`: no control character, no blank, no `;` and no `:`. -/
def isInfoNameChar (c : Char) : Bool := 0x20 < c.toNat && c.toNat ≠ 0x7F && c ≠ ';' && c ≠ ':'

/-- A name of at most `max` characters, each of them allowed. -/
def isName (p : Char → Bool) (max : ℕ) (name : Str) : Bool :=
  name ≠ [] && name.length ≤ max && name.all p

/-- A `BinName` that `_validate_bin_names` accepts. -/
def isBinName (name : Str) : Bool :=
  name ≠ [] && name.length ≤ 15 && name.all (fun c => 0x20 ≤ c.toNat && c.toNat ≠ 0x7F) &&
    name.strip = name

/-- `InvalidInfoArgument`, with the value and the field its message names. -/
inductive InvalidInfoArgument
  | namespace (value : Str)
  | name (label : String) (value : Str)
  | udfFilename (value : Str)
  deriving DecidableEq

/-- `checked_ns`. -/
def checkedNs (ns : Str) : Except InvalidInfoArgument Str :=
  if isName isNsChar 31 ns then .ok ns else .error (.namespace ns)

/-- `checked_info_name`. -/
def checkedInfoName (value : Str) (label : String) : Except InvalidInfoArgument Str :=
  if value ≠ [] && value.all isInfoNameChar then .ok value else .error (.name label value)

/-- `checked_udf_filename`. -/
def checkedUdfFilename (filename : Str) : Except InvalidInfoArgument Str :=
  if isName isUdfChar 255 filename then .ok filename else .error (.udfFilename filename)

/-- What a request model accepts as an info name, the backstop accepts too. -/
theorem checkedInfoName_of_isName {max : ℕ} {value : Str} (label : String)
    (h : isName isInfoNameChar max value = true) : checkedInfoName value label = .ok value := by
  simp only [isName, Bool.and_eq_true] at h
  rw [checkedInfoName, if_pos (by simpa using ⟨by simpa using h.1.1, by simpa using h.2⟩)]

/-- A character that is not allowed does not occur in a name. -/
theorem not_mem_of_isName {p : Char → Bool} {max : ℕ} {name : Str} (h : isName p max name = true)
    {c : Char} (hc : p c = false) : c ∉ name := by
  intro hm
  simp only [isName, Bool.and_eq_true, List.all_eq_true] at h
  rw [h.2 c hm] at hc
  cases hc

/-- No line break occurs in the name of a bin. -/
theorem newline_not_mem_binName {name : Str} (h : isBinName name = true) : '\n' ∉ name := by
  intro hm
  simp only [isBinName, Bool.and_eq_true, List.all_eq_true, decide_eq_true_eq] at h
  exact absurd (h.1.2 '\n' hm).1 (by decide)

end ClusterManager.Info
