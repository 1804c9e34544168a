import ClusterManager.K8s.Quantity
import Mathlib.Data.List.Infix

/-!
# What the forms check of a cluster

The checks that the forms make of single fields before they send a cluster to the API: the name, the
image, the quantities of the resources, and the namespaces.
-/

namespace ClusterManager.Ui

open Decimals Numerals

/-! ### Texts of the browser -/

/-- The code points `trim` removes. -/
def trimCodes : List ℕ :=
  [0x09, 0x0A, 0x0B, 0x0C, 0x0D, 0x20, 0xA0, 0x1680, 0x2000, 0x2001, 0x2002, 0x2003, 0x2004,
    0x2005, 0x2006, 0x2007, 0x2008, 0x2009, 0x200A, 0x2028, 0x2029, 0x202F, 0x205F, 0x3000, 0xFEFF]

/-- A character that `trim` removes. -/
def isTrimmed (c : Char) : Bool := trimCodes.contains c.toNat

/-- `s.trim()`. -/
def trim (s : Str) : Str := (s.dropWhile isTrimmed).rdropWhile isTrimmed

theorem trim_trim (s : Str) : trim (trim s) = trim s := Str.dropEnds_dropEnds isTrimmed s

/-- `s.length`: UTF-16 code units. -/
def utf16Length (s : Str) : ℕ := (s.map fun c => if c.toNat < 0x10000 then 1 else 2).sum

/-- `CE_LIMITS.MAX_NODES`. -/
def maxNodes : ℤ := 8

/-- `CE_LIMITS.MAX_CE_NAMESPACES`. -/
def maxCeNamespaces : ℕ := 2

/-! ### The fields of the form -/

/-- The requests or the limits of `ResourceConfig`, as the form has them. -/
structure Quantities where
  cpu : Option String := none
  memory : Option String := none

/-- `ResourceConfig`, as the form has it. -/
structure Resources where
  requests : Option Quantities := none
  limits : Option Quantities := none

/-- `AerospikeNamespaceConfig`. No check reads the `storageEngine`. -/
structure AerospikeNamespaceConfig (σ : Type) where
  name : String
  replicationFactor : Option ℤ := none
  storageEngine : Option σ := none

/-! ### Checks -/

/-- `[a-z0-9]`. -/
def isNameEnd (c : Char) : Bool := ('a' ≤ c && c ≤ 'z') || isAsciiDigit c

/-- `[a-z0-9-]`. -/
def isNameChar (c : Char) : Bool := isNameEnd c || c == '-'

/-- `K8S_NAME_RE`. -/
def k8sNameRe : Str → Bool
  | [] => false
  | c :: rest =>
      isNameEnd c &&
        match rest.reverse with
        | [] => true
        | d :: middle => isNameEnd d && middle.all isNameChar

/-- `validateK8sName`. `none` is the `null` of a value that passes. -/
def validateK8sName (value : Str) : Option String :=
  if value = [] then some "Name is required"
  else if 63 < utf16Length value then some "Name must be 63 characters or less"
  else if !k8sNameRe value then
    some "Must be lowercase alphanumeric with hyphens, starting and ending with alphanumeric"
  else none

/-- `validateK8sCpu`. -/
def validateK8sCpu (value : String) : Option String :=
  if value = "" then some "CPU is required"
  else if (K8s.parseCpuMillis value).isNone then
    some "Invalid CPU format (e.g., '500m', '1', '2.5')"
  else none

/-- `validateK8sMemory`. -/
def validateK8sMemory (value : String) : Option String :=
  if value = "" then some "Memory is required"
  else if (K8s.memoryValue value.toList).isNone then
    some "Invalid memory format (e.g., '512Mi', '1Gi', '4Gi')"
  else none

/-- `validateImageNotEnterprise`. -/
def validateImageNotEnterprise (image : Str) : Option String :=
  if "enterprise".toList <:+: image.map Char.toLower then
    some "Enterprise images are not supported (CE only)"
  else none

/-- `parseCpuMillis`, of a value that `validateK8sCpu` passed. -/
def parseCpuMillis (cpu : String) : ℚ := (K8s.parseCpuMillis cpu).getD 0

/-- `parseMemoryBytes`. The API takes the floor of the same number. -/
def parseMemoryBytes (mem : String) : ℚ := (K8s.memoryValue mem.toList).getD 0

variable {σ : Type}

/-- `ns.replicationFactor ?? 1`. -/
def AerospikeNamespaceConfig.rf (ns : AerospikeNamespaceConfig σ) : ℤ := ns.replicationFactor.getD 1

/-- `validateNamespaces`. -/
def validateNamespaces (namespaces : List (AerospikeNamespaceConfig σ)) (clusterSize : ℤ) :
    Option String :=
  let names := namespaces.map fun ns => trim ns.name.toList
  if namespaces.length = 0 then some "At least one namespace is required"
  else if maxCeNamespaces < namespaces.length then
    some ("Aerospike CE supports at most " ++ toString maxCeNamespaces ++ " namespaces")
  else if names.any (·.length = 0) then some "All namespace names are required"
  else if names.dedup.length ≠ names.length then some "Namespace names must be unique"
  else namespaces.findSome? fun ns =>
    if clusterSize < ns.rf then
      some ("Namespace \"" ++ ns.name ++ "\" replication factor (" ++
        String.ofList (intText ns.rf) ++ ") exceeds cluster size (" ++
        String.ofList (intText clusterSize) ++ ")")
    else none

end ClusterManager.Ui
