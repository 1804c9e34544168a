import ClusterManager.K8s.Spec
import ClusterManager.Lib.Decimals

/-!
# Quantities of memory and of processor time

How the models read the quantities of a request, and what they accept as resources. The code reads
a quantity into a float; here it is the exact number.
-/

namespace ClusterManager.K8s

open Decimals

/-- `_MEMORY_UNITS`. -/
def memoryUnits : Char → Option ℕ
  | 'K' => some 1
  | 'M' => some 2
  | 'G' => some 3
  | 'T' => some 4
  | 'P' => some 5
  | 'E' => some 6
  | _ => none

/-- The bytes of a memory quantity, `[0-9]+(\.[0-9]+)?[KMGTPE]i`. -/
def memoryValue (mem : Str) : Option ℚ :=
  match mem.reverse with
  | 'i' :: unit :: number => do
      let exponent ← memoryUnits unit
      let value ← decimalValue number.reverse
      return value * 1024 ^ exponent
  | _ => none

/-- `parse_memory_bytes`. -/
def parseMemoryBytes (mem : String) : ℤ :=
  match memoryValue mem.toList with
  | some value => ⌊value⌋
  | none => 0

/-- `_parse_cpu_millis`, of a quantity `[0-9]+(\.[0-9]+)?m?`. -/
def parseCpuMillis (cpu : String) : Option ℚ :=
  if Str.endsWith cpu.toList 'm' then decimalValue cpu.toList.dropLast
  else (decimalValue cpu.toList).map (· * 1000)

/-- The quantities have the form the model asks for. -/
def ResourceSpec.Valid (spec : ResourceSpec) : Prop :=
  (parseCpuMillis spec.cpu).isSome ∧ (memoryValue spec.memory.toList).isSome

instance (spec : ResourceSpec) : Decidable spec.Valid :=
  inferInstanceAs (Decidable (_ ∧ _))

/-- `limits_gte_requests`, of quantities that have their form. -/
def ResourceConfig.Valid (resources : ResourceConfig) : Prop :=
  resources.requests.Valid ∧ resources.limits.Valid ∧
    (parseCpuMillis resources.requests.cpu).getD 0 ≤ (parseCpuMillis resources.limits.cpu).getD 0 ∧
      parseMemoryBytes resources.requests.memory ≤ parseMemoryBytes resources.limits.memory

instance (resources : ResourceConfig) : Decidable resources.Valid :=
  inferInstanceAs (Decidable (_ ∧ _ ∧ _ ∧ _))

/-- `ResourceConfig(...)`: a `ValidationError` where the model does not accept the values. -/
def checkResources (resources : ResourceConfig) : Except Exc ResourceConfig :=
  if resources.Valid then .ok resources else .error .validationError

end ClusterManager.K8s
