import ClusterManager.Text

/-!
# The info-command gate

The asinfo wire format carries reads and writes, and several commands in one frame. A command
is transmitted only after `assertReadOnly` or `assertWriteAllowed` accepted it: the frame holds
exactly one command (`assertSingleCommand`) and the verb of that command (`extractVerb`) is on
the list of the path it came in by. Both gates return the string to put on the wire.
-/

namespace ClusterManager.Info

open Str

/-- `READ_ONLY_INFO_VERBS`. -/
def readOnlyInfoVerbs : List Str :=
  ["version", "build", "build-os", "build-time", "node", "service", "services",
    "services-alumni", "nodes", "cluster-name", "cluster-stable", "cluster-generation",
    "cluster-info", "health-outliers", "health-stats", "namespaces", "namespace", "sets",
    "sindex", "statistics", "latencies", "udf-list", "roster", "racks"].map String.toList

/-- `WRITE_INFO_VERBS`. -/
def writeInfoVerbs : List Str :=
  ["set-config", "recluster", "log-set", "jobs"].map String.toList

/-- `ALLOWED_INFO_VERBS`. -/
def allowedInfoVerbs : List Str := readOnlyInfoVerbs ++ writeInfoVerbs

/-- `_VERB_TERMINATORS`. -/
def verbTerminators : List Char := [':', '/', ';', '\n', ' ', '\t']

/-- `_PATH_STYLE_VERBS`: the verbs that take `/`-separated arguments, and how many. -/
def pathStyleVerbs : List (Str × ℕ) :=
  [("namespace".toList, 1), ("sets".toList, 2), ("sindex".toList, 2), ("bins".toList, 1)]

/-- Which separator broke the single-command shape. -/
inductive NotSingleReason
  | embedded (name : String)
  | slashAfterVerb (verb : Str)
  | tooManySegments (count : ℕ) (verb : Str) (allowed : ℕ)
  | colonInPath
  | nonIdentifierPath
  | semicolonBeforeColon
  | secondColon
  | bareSegment
  deriving DecidableEq, Repr

/-- The text of a reason. `repr` is Python's `repr` of a string. -/
def NotSingleReason.text (repr : Str → String) : NotSingleReason → String
  | .embedded name => "embedded " ++ name ++ " — an asinfo command separator"
  | .slashAfterVerb verb => "'/' after a verb that takes no path arguments (" ++ repr verb ++ ")"
  | .tooManySegments count verb allowed =>
      toString count ++ " '/'-separated arguments; " ++ repr verb ++ " accepts at most "
        ++ toString allowed
  | .colonInPath => "':' inside a path argument"
  | .nonIdentifierPath => "non-identifier path argument"
  | .semicolonBeforeColon => "';' before the ':' argument separator"
  | .secondColon => "second ':' verb separator inside the argument section"
  | .bareSegment => "';'-separated segment that is not a key=value argument"

/-- `InfoCommandRejected` and its subclasses. -/
inductive InfoCommandRejected
  | verbNotAllowed (verb : Str)
  | writeVerbNotAllowed (verb : Str)
  | notSingle (reason : NotSingleReason)
  deriving DecidableEq, Repr

/-- The text each class gives its exception. -/
def InfoCommandRejected.message (repr : Str → String) : InfoCommandRejected → String
  | .verbNotAllowed verb =>
      "Verb " ++ repr verb ++ " is not on the read-only asinfo whitelist; pick from: "
        ++ "namespaces, version, nodes, statistics, latencies"
        ++ " (full list at info_verbs.READ_ONLY_INFO_VERBS)."
  | .writeVerbNotAllowed verb =>
      "Verb " ++ repr verb ++ " is not on the asinfo write allowlist; the write path accepts "
        ++ "jobs, log-set, recluster, set-config"
        ++ " plus every read-only verb (full lists at info_verbs.WRITE_INFO_VERBS /"
        ++ " READ_ONLY_INFO_VERBS). Destructive verbs such as 'truncate-namespace' are never"
        ++ " accepted here — use the dedicated typed route instead."
  | .notSingle reason =>
      "Command is not a single asinfo command (" ++ reason.text repr
        ++ "); the read-only endpoint accepts exactly one command per entry — submit each"
        ++ " command as its own element of 'commands'."

/-- `_SEPARATOR_NAMES.get(ch, "whitespace")`. -/
def separatorName : Char → String
  | '\n' => "newline"
  | '\r' => "carriage return"
  | ' ' => "space"
  | '\t' => "tab"
  | _ => "whitespace"

/-- The leading verb: the text ahead of the first terminator. -/
def extractVerb (command : Str) : Except InfoCommandRejected Str :=
  let cmd := strip command
  if cmd = [] then .error (.verbNotAllowed [])
  else .ok (verbTerminators.foldl (fun head sep => head.takeWhile (· ≠ sep)) cmd)

/-- One character of `_PATH_SEGMENT_RE`. -/
def isIdentChar (c : Char) : Bool :=
  ('A' ≤ c && c ≤ 'Z') || ('a' ≤ c && c ≤ 'z') || ('0' ≤ c && c ≤ '9') ||
    c = '_' || c = '.' || c = '$' || c = '-'

/-- `_PATH_SEGMENT_RE.match`. The `$` of the pattern also matches ahead of a final newline. -/
def pathSegmentRe (segment : Str) : Bool :=
  let core := if segment.endsWith '\n' then segment.dropLast else segment
  core ≠ [] && core.all isIdentChar

/-- One trailing `;` terminates a single command. -/
def commandBody (cmd : Str) : Str := if cmd.endsWith ';' then cmd.dropLast else cmd

/-- The framing of a command whose body holds a `/`. -/
def pathFraming (cmd body : Str) : Except InfoCommandRejected Str :=
  let parts := body.splitOn '/'
  let verb := parts.headD []
  let segments := parts.tail
  match pathStyleVerbs.lookup verb with
  | none => .error (.notSingle (.slashAfterVerb verb))
  | some allowed =>
    if allowed < segments.length then
      .error (.notSingle (.tooManySegments segments.length verb allowed))
    else
      match segments.find? (fun segment => !pathSegmentRe segment) with
      | some segment =>
        .error (.notSingle (if ':' ∈ segment then .colonInPath else .nonIdentifierPath))
      | none => .ok cmd

/-- The framing of a bare verb, or of a verb with a `:` argument section. -/
def argsFraming (cmd body : Str) : Except InfoCommandRejected Str :=
  let (head, colon, args) := body.partition ':'
  if ';' ∈ head then .error (.notSingle .semicolonBeforeColon)
  else if !colon then .ok cmd
  else if ':' ∈ args then .error (.notSingle .secondColon)
  else
    let segments := args.splitOn ';'
    if 1 < segments.length && !segments.all (fun s => s.contains '=') then
      .error (.notSingle .bareSegment)
    else .ok cmd

/-- The stripped command, when its frame holds one asinfo command. -/
def assertSingleCommand (command : Str) : Except InfoCommandRejected Str :=
  let cmd := strip command
  if cmd = [] then .error (.verbNotAllowed [])
  else
    match cmd.find? isSpace with
    | some ch => .error (.notSingle (.embedded (separatorName ch)))
    | none =>
      let body := commandBody cmd
      if '/' ∈ body then pathFraming cmd body else argsFraming cmd body

/-- `ValidatedInfoCommand`: the string to transmit, and its verb for telemetry. -/
structure ValidatedInfoCommand where
  command : Str
  verb : Str
  deriving DecidableEq, Repr

/-- The two checks both gates make, for a list of verbs and the error of a verb off the list. -/
def assertVerbIn (verbs : List Str) (reject : Str → InfoCommandRejected) (command : Str) :
    Except InfoCommandRejected ValidatedInfoCommand := do
  let validated ← assertSingleCommand command
  let verb ← extractVerb validated
  if verb ∈ verbs then pure ⟨validated, verb⟩ else throw (reject verb)

/-- `assert_read_only`. -/
def assertReadOnly (command : Str) : Except InfoCommandRejected ValidatedInfoCommand :=
  assertVerbIn readOnlyInfoVerbs .verbNotAllowed command

/-- `assert_write_allowed`. -/
def assertWriteAllowed (command : Str) : Except InfoCommandRejected ValidatedInfoCommand :=
  assertVerbIn allowedInfoVerbs .writeVerbNotAllowed command

end ClusterManager.Info
