import ClusterManager.Clients.Manager
import ClusterManager.Targets.InetAton

/-!
# The target gate

The addresses a connection may not be opened to (`isBlockedTarget`), the gate in front of the
connection services and of the client manager (`assertTargetsAllowed`), and the probe that has the
same check of its own (`testConnection`).
-/

namespace ClusterManager

/-! ### Blocked addresses -/

namespace IpAddress

/-- The address whose properties are reported: that of version 4 which is mapped. -/
def unmapped : IpAddress → IpAddress
  | .v6 value => if value / 2 ^ 32 = 65535 then .v4 (value % 2 ^ 32) else .v6 value
  | ip => ip

/-- `is_loopback`. -/
def isLoopback (ip : IpAddress) : Bool :=
  match ip.unmapped with
  | .v4 value => value / 2 ^ 24 = 127
  | .v6 value => value = 1

/-- `is_link_local`. -/
def isLinkLocal (ip : IpAddress) : Bool :=
  match ip.unmapped with
  | .v4 value => value / 2 ^ 16 = 0xA9FE
  | .v6 value => value / 2 ^ 118 = 0x3FA

/-- `is_unspecified`. -/
def isUnspecified (ip : IpAddress) : Bool :=
  match ip.unmapped with
  | .v4 value => value = 0
  | .v6 value => value = 0

/-- What the gate denies. -/
def isBlocked (ip : IpAddress) : Bool := ip.isLoopback || ip.isLinkLocal || ip.isUnspecified

end IpAddress

namespace Targets

open Clients Services

/-- `_parse_ip_literal`. `socket.inet_aton` raises for a null character. -/
def parseIpLiteral (candidate : Str) : Except Exc (Option IpAddress) :=
  match ipAddress candidate with
  | some ip => .ok (some ip)
  | none =>
      if Char.ofNat 0 ∈ candidate then .error (.other "ValueError: embedded null character")
      else .ok ((inetAton candidate).map .v4)

/-- The text without the brackets around it. -/
def unbracketed (candidate : Str) : Str :=
  if candidate.head? = some '[' ∧ candidate.endsWith ']' then candidate.tail.dropLast
  else candidate

/-- `is_blocked_target`. -/
def isBlockedTarget (allowPrivateTargets : Bool) (host : Str) : Except Exc Bool :=
  if allowPrivateTargets then .ok false
  else if host.strip = [] then .ok false
  else (parseIpLiteral (unbracketed host.strip)).map fun ip => ip.any IpAddress.isBlocked

variable (allowPrivateTargets : Bool)

/-- `assert_targets_allowed`. -/
def assertTargetsAllowed : List String → ℕ → Except Exc Unit
  | [], _ => .ok ()
  | hostStr :: hosts, defaultPort => do
      if ← isBlockedTarget allowPrivateTargets (parseHostPort hostStr.toList defaultPort).1
      then throw (.blockedTarget hostStr)
      else assertTargetsAllowed hosts defaultPort

/-! ### The probe -/

/-- `TestConnectionRequest`. -/
structure TestConnectionRequest where
  hosts : List String
  port : ℕ := 3000
  username : Option String := none
  password : Option String := none

/-- `TestConnectionResult`. -/
structure TestConnectionResult where
  success : Bool
  message : String

/-- What the client of a probe is built from. -/
structure ProbeConfig where
  hosts : List (String × ℤ)
  /-- `user` and `password`. -/
  credentials : Option (String × String)

/-- The calls into the driver. -/
inductive ProbeOp
  /-- `AsyncClient(config)`. -/
  | construct (config : ProbeConfig)
  | connect (client : ℕ)
  | isConnected (client : ℕ)
  | ping (client : ℕ)
  | close (client : ℕ)

/-- What each call returns. -/
abbrev ProbeOp.Resp : ProbeOp → Type
  | .construct _ => ℕ
  | .isConnected _ => Bool
  | _ => Unit

/-- The programs over these calls. -/
abbrev ProbeProgram (α : Type) : Type := Coroutine ProbeOp ProbeOp.Resp Exc α

/-- One call. -/
abbrev probe (r : ProbeOp) : ProbeProgram r.Resp := Coroutine.call r

/-- The loop over the hosts. -/
def anyBlocked (port : ℕ) : List String → Except Exc Bool
  | [] => .ok false
  | hostStr :: hosts => do
      if ← isBlockedTarget allowPrivateTargets (parseHostPort hostStr.toList port).1
      then return true
      else anyBlocked port hosts

/-- `config`. -/
def probeConfig (req : TestConnectionRequest) : ProbeConfig where
  hosts := req.hosts.map fun h =>
    let (host, port) := parseHostPort h.toList req.port
    (String.ofList host, port)
  credentials :=
    match req.username, req.password with
    | some username, some password =>
        if username ≠ "" ∧ password ≠ "" then some (username, password) else none
    | _, _ => none

/-- The part of `test_connection` between the construction of the client and its end. -/
def probeClient (hasPing : Bool) (client : ℕ) : ProbeProgram TestConnectionResult :=
  Coroutine.tryFinally (do
      probe (.connect client)
      let connected ← probe (.isConnected client)
      if connected then
        if hasPing then probe (.ping client)
        return ⟨true, "Connected successfully"⟩
      else return ⟨false, "Failed to connect"⟩)
    ((probe (.close client)).tryCatch fun e =>
      if isCloseFailure e then return () else throw e)

/-- `test_connection`. `hasPing` is whether the driver has a `ping`. -/
def testConnection (hasPing : Bool) (req : TestConnectionRequest) :
    ProbeProgram TestConnectionResult := do
  let blocked ← Coroutine.lift (anyBlocked allowPrivateTargets req.port req.hosts)
  if blocked then return ⟨false, "connection failed"⟩
  else
    Coroutine.tryCatch (do
        let client ← probe (.construct (probeConfig req))
        probeClient hasPing client)
      fun e => if e.isException then return ⟨false, "connection failed"⟩ else throw e

end Targets

end ClusterManager
