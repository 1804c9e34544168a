import Mathlib.Algebra.Ring.Nat
import ClusterManager.Text

/-!
# Addresses and networks

What the standard library makes of the text of an address (`ipAddress`) and of a network
(`ipNetwork`), and which addresses lie in a network. `none` is a `ValueError`.
-/

namespace ClusterManager

/-- An address, by its version and its value. -/
inductive IpAddress
  | v4 (value : ℕ)
  | v6 (value : ℕ)
  deriving DecidableEq

/-- A network: the address of the network and the length of its prefix. -/
inductive IpNetwork
  | v4 (network prefixlen : ℕ)
  | v6 (network prefixlen : ℕ)
  deriving DecidableEq

namespace IpAddress

/-- Whether a character is an ASCII digit. -/
def isDigit (c : Char) : Bool := '0' ≤ c ∧ c ≤ '9'

/-- `int(text, 10)` of digits. -/
def decimal (digits : Str) : ℕ := digits.foldl (fun n c => 10 * n + (c.toNat - '0'.toNat)) 0

/-- The value of a hexadecimal digit. -/
def hexDigit (c : Char) : Option ℕ :=
  if isDigit c then some (c.toNat - '0'.toNat)
  else if 'a' ≤ c ∧ c ≤ 'f' then some (c.toNat - 'a'.toNat + 10)
  else if 'A' ≤ c ∧ c ≤ 'F' then some (c.toNat - 'A'.toNat + 10)
  else none

/-! ### Version 4 -/

/-- `_parse_octet`. -/
def parseOctet (octet : Str) : Option ℕ :=
  if octet = [] ∨ octet.all isDigit = false ∨ 3 < octet.length then none
  else if octet ≠ ['0'] ∧ octet.head? = some '0' then none
  else if 255 < decimal octet then none
  else some (decimal octet)

/-- `_ip_int_from_string` of version 4. -/
def ipv4FromString (text : Str) : Option ℕ :=
  let octets := text.splitOn '.'
  if octets.length ≠ 4 then none
  else (octets.mapM parseOctet).map fun values => values.foldl (fun n octet => 256 * n + octet) 0

/-! ### Version 6 -/

/-- `_parse_hextet`. -/
def parseHextet (hextet : Str) : Option ℕ :=
  if hextet = [] ∨ 4 < hextet.length then none
  else (hextet.mapM hexDigit).map fun digits => digits.foldl (fun n d => 16 * n + d) 0

/-- The value of consecutive hextets. -/
def hextets (parts : List Str) : Option ℕ :=
  (parts.mapM parseHextet).map fun values => values.foldl (fun n hextet => 65536 * n + hextet) 0

/-- The parts of an address whose last part may be an address of version 4. -/
def expandIpv4 (parts : List Str) : Option (List Str) :=
  match parts.getLast? with
  | some last =>
      if '.' ∈ last then
        (ipv4FromString last).map fun value =>
          parts.dropLast ++ [Nat.toDigits 16 (value / 65536), Nat.toDigits 16 (value % 65536)]
      else some parts
  | none => some parts

/-- Where the parts between the first and the last are empty. -/
def emptyParts (parts : List Str) : List ℕ :=
  (List.range parts.length).filter fun i =>
    1 ≤ i ∧ i + 1 < parts.length ∧ parts[i]? = some []

/-- The value of the parts around a `::` at an index. -/
def aroundSkip (parts : List Str) (skip : ℕ) : Option ℕ :=
  let below := parts.length - skip - 1
  let partsHi := if parts.head? = some [] then skip - 1 else skip
  let partsLo := if parts.getLast? = some [] then below - 1 else below
  if parts.head? = some [] ∧ partsHi ≠ 0 then none
  else if parts.getLast? = some [] ∧ partsLo ≠ 0 then none
  else if 8 ≤ partsHi + partsLo then none
  else do
    let high ← hextets (parts.take partsHi)
    let low ← hextets (parts.drop (parts.length - partsLo))
    return high * 65536 ^ (8 - partsHi) + low

/-- `_ip_int_from_string` of version 6. -/
def ipv6FromString (text : Str) : Option ℕ :=
  let parts := text.splitOn ':'
  if parts.length < 3 then none
  else
    (expandIpv4 parts).bind fun parts =>
      if 9 < parts.length then none
      else
        match emptyParts parts with
        | [] => if parts.length ≠ 8 then none else hextets parts
        | [skip] => aroundSkip parts skip
        | _ => none

/-- `_split_scope_id`: the address without its scope. -/
def splitScopeId (text : Str) : Option Str :=
  match text.partition '%' with
  | (addr, false, _) => some addr
  | (addr, true, scope) => if scope = [] ∨ '%' ∈ scope then none else some addr

end IpAddress

open IpAddress

/-- `ipaddress.ip_address`. -/
def ipAddress (text : Str) : Option IpAddress :=
  if '/' ∈ text then none
  else
    match ipv4FromString text with
    | some value => some (.v4 value)
    | none => ((splitScopeId text).bind ipv6FromString).map .v6

namespace IpNetwork

/-- The netmask of a prefix. -/
def netmask (bits prefixlen : ℕ) : ℕ := (2 ^ prefixlen - 1) * 2 ^ (bits - prefixlen)

/-- `_prefix_from_prefix_string`. -/
def prefixFromPrefixString (bits : ℕ) (text : Str) : Option ℕ :=
  if text = [] ∨ text.all isDigit = false ∨ bits < decimal text then none else some (decimal text)

/-- `_prefix_from_ip_string`: a netmask, or else a hostmask. -/
def prefixFromIpString (text : Str) : Option ℕ :=
  (ipv4FromString text).bind fun value =>
    let lengths := List.range 33
    (lengths.find? fun n => netmask 32 n = value).or
      (lengths.find? fun n => netmask 32 n = 2 ^ 32 - 1 - value)

/-- The address of version 4 of a text. -/
def ipv4Of (text : Str) : Option ℕ :=
  match ipAddress text with
  | some (.v4 value) => some value
  | _ => none

/-- The address of version 6 of a text. -/
def ipv6Of (text : Str) : Option ℕ :=
  match ipAddress text with
  | some (.v6 value) => some value
  | _ => none

end IpNetwork

open IpNetwork

/-- `ipaddress.ip_network(text, strict=False)`, of a text with a slash. -/
def ipNetwork (text : Str) : Option IpNetwork :=
  match text.splitOn '/' with
  | [addr, mask] =>
      let v4 := do
        let value ← ipv4Of addr
        let prefixlen ← (prefixFromPrefixString 32 mask).or (prefixFromIpString mask)
        return IpNetwork.v4 (value &&& netmask 32 prefixlen) prefixlen
      let v6 := do
        let value ← ipv6Of addr
        let prefixlen ← prefixFromPrefixString 128 mask
        return IpNetwork.v6 (value &&& netmask 128 prefixlen) prefixlen
      v4.or v6
  | _ => none

/-- `address in network`. -/
def IpNetwork.contains : IpNetwork → IpAddress → Bool
  | .v4 network prefixlen, .v4 value => value &&& netmask 32 prefixlen = network
  | .v6 network prefixlen, .v6 value => value &&& netmask 128 prefixlen = network
  | _, _ => false

/-- A text without a dot, a colon and a scope is no address. -/
theorem ipAddress_eq_none {text : Str} (hdot : '.' ∉ text) (hcolon : ':' ∉ text)
    (hscope : '%' ∉ text) : ipAddress text = none := by
  have hv4 : ipv4FromString text = none := by
    rw [ipv4FromString, List.splitOn_eq_singleton hdot]
    rfl
  have hv6 : ipv6FromString text = none := by
    rw [ipv6FromString, List.splitOn_eq_singleton hcolon]
    rfl
  rw [ipAddress, splitScopeId, Str.partition_of_not_mem hscope, hv4]
  dsimp only
  rw [Option.bind_some, hv6]
  split <;> rfl

end ClusterManager
