import ClusterManager.Clients.Manager
import ClusterManager.Info.Grammar
import ClusterManager.Services.Gates

/-!
# The info endpoint

`POST /clusters/{conn_id}/info` runs the dependencies of its route, the write gate ahead of the
client, and then the route. `only_gated` says of every way its requests may be answered which
strings it hands to `client.info_all`.
-/

namespace ClusterManager.Info

open Db Services Clients

/-! ### The models -/

/-- `ExecuteInfoRequest`. -/
structure ExecuteInfoRequest where
  commands : List Str
  node : Option String := none
  readOnly : Bool := true
  commands_ne : commands ≠ []

/-- `body.node or None`. -/
def ExecuteInfoRequest.targetNode (body : ExecuteInfoRequest) : Option String :=
  body.node.filter (· ≠ "")

/-- `InfoCommandResult`. -/
structure InfoCommandResult where
  command : Str
  node : String := ""
  output : String := ""
  error : Option String := none

/-- `InfoNodeResult`. -/
structure InfoNodeResult where
  nodeName : String
  errorCode : ℤ
  response : String

/-! ### Requests -/

/-- What the endpoint awaits: a hit on a rate limit, what `get_client` awaits, and
`client.info_all`. -/
inductive InfoOp
  | hit (limit scope : String)
  | pool (r : PoolOp)
  | infoAll (client : ℕ) (command : Str)

/-- What each request gives. -/
abbrev InfoOp.Resp : InfoOp → Type
  | .hit _ _ => Bool
  | .pool r => r.Resp
  | .infoAll _ _ => List InfoNodeResult

/-- The programs over these requests. -/
abbrev InfoProgram (α : Type) : Type := Coroutine InfoOp InfoOp.Resp Exc α

/-- One request. -/
abbrev ask (r : InfoOp) : InfoProgram r.Resp := Coroutine.call r

/-- What was asked, and what it was answered. -/
abbrev InfoHistory : Type := Coroutine.History InfoOp InfoOp.Resp Exc

/-- The configuration of the endpoint, and Python's `repr`. -/
structure InfoSettings where
  allowInfoWrite : Bool
  limiterEnabled : Bool
  clients : Clients.Settings
  repr : Str → String

/-! ### The dependencies -/

/-- `consume_budget`. -/
def consumeBudget (settings : InfoSettings) (limit scope : String) : InfoProgram Bool :=
  if settings.limiterEnabled then ask (.hit limit scope) else return true

/-- `_assert_info_write_allowed`. -/
def assertInfoWriteAllowed (settings : InfoSettings) (body : ExecuteInfoRequest) :
    InfoProgram Unit :=
  if body.readOnly then return ()
  else if settings.allowInfoWrite = false then
    throw (.http 403 ("asinfo write passthrough is disabled; set ACM_ALLOW_INFO_WRITE=true "
      ++ "on the API to enable readOnly=false, or use readOnly=true for diagnostics."))
  else do
    let within ← consumeBudget settings "5/minute" "clusters:info:write"
    if within then return ()
    else throw (.http 429 "Rate limit exceeded: 5 per 1 minute (asinfo write passthrough)")

/-- The `ValueError`s of `get_client`. -/
def isValueError (connId : String) (e : Exc) : Bool :=
  match e with
  | .validationError | .blockedTarget _ => true
  | e => e = profileNotFound connId

/-- `(AerospikeError, ClusterError, ConnectionRefusedError, OSError)`. -/
def isConnectFailure (e : Exc) : Bool :=
  isCloseFailure e ∨ e = .other "ClusterError" ∨ e = .other "ConnectionRefusedError"

/-- `_get_client`, behind `_get_verified_connection`. -/
def getClientDependency (settings : InfoSettings) (connId callerOwnerId : String) :
    PoolProgram ℕ := do
  let connId ← (getVerifiedConnection connId callerOwnerId).embed PoolOp.db fun _ a => a
  (getClient settings.clients (none, connId)).tryCatch fun e =>
    if isValueError connId e then throw (connection404 connId)
    else if isConnectFailure e then
      throw (.http 503 ("Unable to connect to Aerospike cluster for connection '" ++ connId
        ++ "'"))
    else throw e

/-! ### The service -/

/-- The answer of a node, `none` where the service raises `NodeNotFoundError`. -/
def answerOf (nodeName : String) (results : List InfoNodeResult) : Option InfoNodeResult :=
  (results.find? fun r => r.nodeName = nodeName).filter fun r => r.errorCode = 0

/-- `execute_info`. -/
def executeInfo (client : ℕ) (command : Str) : InfoProgram (List InfoNodeResult) :=
  ask (.infoAll client command)

/-- `execute_info_on_node`; `none` is `NodeNotFoundError`. -/
def executeInfoOnNode (client : ℕ) (command : Str) (nodeName : String) :
    InfoProgram (Option String) := do
  let results ← executeInfo client command
  return (answerOf nodeName results).map InfoNodeResult.response

/-- `execute_info_read_only`; `none` is `NodeNotFoundError`. -/
def executeInfoReadOnly (settings : InfoSettings) (client : ℕ) (command : Str)
    (nodeName : Option String) : InfoProgram (Option (String × String)) := do
  let validated ← Coroutine.lift ((assertReadOnly command).mapError fun e =>
    Exc.other ("InfoCommandRejected: " ++ e.message settings.repr))
  let results ← executeInfo client validated.command
  let found : Option InfoNodeResult := match nodeName with
    | none => results.find? fun r => r.errorCode = 0
    | some nodeName => answerOf nodeName results
  return found.map fun r => (r.nodeName, r.response)

/-! ### The route -/

/-- The gate of a request. -/
def gate (readOnly : Bool) (command : Str) : Except InfoCommandRejected ValidatedInfoCommand :=
  if readOnly then assertReadOnly command else assertWriteAllowed command

/-- The answer to a command that the gate rejects. -/
def rejectedResponse (settings : InfoSettings) : InfoCommandRejected → Exc
  | .verbNotAllowed verb => .http 400 ("command '" ++ String.ofList verb
      ++ "' not in read-only whitelist; pass readOnly=false to allow")
  | e => .http 400 (e.message settings.repr)

/-- The loop that validates the commands. -/
def validated (settings : InfoSettings) (body : ExecuteInfoRequest) :
    Except Exc (List ValidatedInfoCommand) :=
  (body.commands.mapM (gate body.readOnly)).mapError (rejectedResponse settings)

/-- The row of a node that is not found. -/
def notFoundRow (cmd : Str) (node : String) : InfoCommandResult where
  command := cmd
  node := node
  error := some ("Node '" ++ node ++ "' not found or returned no usable response")

/-- The row of a node that answered a fan-out. -/
def nodeRow (cmd : Str) (r : InfoNodeResult) : InfoCommandResult where
  command := cmd
  node := r.nodeName
  output := r.response
  error := if r.errorCode ≠ 0 then some ("asinfo error_code=" ++ toString r.errorCode) else none

/-- One round of the loop over the validated commands. -/
def runCommand (settings : InfoSettings) (body : ExecuteInfoRequest) (client : ℕ) (cmd : Str) :
    InfoProgram (List InfoCommandResult) :=
  match body.targetNode with
  | some node =>
      if body.readOnly then do
        match ← executeInfoReadOnly settings client cmd (some node) with
        | none => return [notFoundRow cmd node]
        | some (node, response) => return [{ command := cmd, node, output := response }]
      else do
        match ← executeInfoOnNode client cmd node with
        | none => return [notFoundRow cmd node]
        | some response => return [{ command := cmd, node, output := response }]
  | none => do
      let nodeResults ← executeInfo client cmd
      if nodeResults.isEmpty then
        return [{ command := cmd, error := some "no nodes responded" }]
      else return nodeResults.map (nodeRow cmd)

/-- The loop. -/
def runCommands (settings : InfoSettings) (body : ExecuteInfoRequest) (client : ℕ) :
    List Str → InfoProgram (List InfoCommandResult)
  | [] => return []
  | cmd :: cmds => do
      let rows ← runCommand settings body client cmd
      let rest ← runCommands settings body client cmds
      return rows ++ rest

/-- The body of the route. -/
def executeInfoRoute (settings : InfoSettings) (body : ExecuteInfoRequest) (client : ℕ) :
    InfoProgram (List InfoCommandResult) := do
  let validated ← Coroutine.lift (validated settings body)
  runCommands settings body client (validated.map ValidatedInfoCommand.command)

/-- The dependencies, in the order in which the framework resolves them. -/
def infoDependencies (settings : InfoSettings) (body : ExecuteInfoRequest)
    (connId callerOwnerId : String) : InfoProgram ℕ := do
  assertInfoWriteAllowed settings body
  (getClientDependency settings connId callerOwnerId).embed InfoOp.pool fun _ a => a

/-- The endpoint: the dependencies and the route. -/
def infoEndpoint (settings : InfoSettings) (body : ExecuteInfoRequest)
    (connId callerOwnerId : String) : InfoProgram (List InfoCommandResult) := do
  let client ← infoDependencies settings body connId callerOwnerId
  executeInfoRoute settings body client

/-! ### What reaches the wire -/

/-- The string that a request hands to `client.info_all`. -/
def InfoOp.sends : InfoOp → Option Str
  | .infoAll _ command => some command
  | _ => none

/-- The strings that were handed to `client.info_all`. -/
def transmitted (past : InfoHistory) : List Str := past.filterMap fun x => x.1.sends

/-- A statement of the dependencies behind the gate ran: the first one of building a client. -/
def TouchesPool (past : InfoHistory) : Prop := ∃ x ∈ past, ∃ r, x.1 = .pool r

/-- What answers the requests, by what was answered before. -/
abbrev InfoOracle : Type := InfoHistory → (r : InfoOp) → Except Exc r.Resp

/-- `_assert_info_write_allowed` passed. -/
def GatePassed (settings : InfoSettings) (body : ExecuteInfoRequest) (oracle : InfoOracle) : Prop :=
  ((assertInfoWriteAllowed settings body).play oracle []).1 = .ok ()

/-- The loop over the commands was cut short by the exception of the last command it sent. -/
def CutShort (cmds : List Str) (past past' : InfoHistory) (e : Exc) : Prop :=
  ∃ sent cmd rest client, cmds = sent ++ cmd :: rest ∧
    transmitted past' = transmitted past ++ sent ++ [cmd] ∧
    past'.getLast? = some ⟨.infoAll client cmd, .error e⟩

/-- What a request of the endpoint hands over, and what it answers. Where every command passes its
gate and nothing is handed over, it is a dependency that has raised. -/
structure OnlyGated (settings : InfoSettings) (body : ExecuteInfoRequest)
    (connId callerOwnerId : String) (oracle : InfoOracle)
    (result : Except Exc (List InfoCommandResult)) (past : InfoHistory) : Prop where
  gated : ∀ sent ∈ transmitted past, ∃ command ∈ body.commands, ∃ v,
    gate body.readOnly command = .ok v ∧ v.command = sent
  allowed : body.readOnly = false → transmitted past ≠ [] ∨ TouchesPool past →
    GatePassed settings body oracle
  refused : ∀ command ∈ body.commands, ∀ e, gate body.readOnly command = .error e →
    transmitted past = [] ∧ ∃ e', result = .error e'
  inOrder : ∀ vs, body.commands.mapM (gate body.readOnly) = .ok vs →
    (∀ rows, result = .ok rows →
      transmitted past = vs.map ValidatedInfoCommand.command) ∧
    ∀ e, result = .error e →
      transmitted past = [] ∧
          ((infoDependencies settings body connId callerOwnerId).play oracle []).1 = .error e ∨
        CutShort (vs.map ValidatedInfoCommand.command) [] past e
  rows : ∀ rows, result = .ok rows → ∃ vs,
    body.commands.mapM (gate body.readOnly) = .ok vs ∧
      ∀ row ∈ rows, row.command ∈ vs.map ValidatedInfoCommand.command

section Wire

variable {settings : InfoSettings} {body : ExecuteInfoRequest} {client : ℕ} {cmd : Str}
  {cmds : List Str} {past : InfoHistory} {oracle : InfoOracle} {connId callerOwnerId : String}

open Coroutine

theorem transmitted_concat {r : InfoOp} {x : Except Exc r.Resp} :
    transmitted (past ++ [⟨r, x⟩]) = transmitted past ++ r.sends.toList := by
  cases h : r.sends <;> simp [transmitted, h]

theorem safe_executeInfo : (executeInfo client cmd).Safe recorded (fun _ _ => True) past
    (fun results past' => past' = past ++ [⟨.infoAll client cmd, .ok results⟩])
    fun e past' => past' = past ++ [⟨.infoAll client cmd, .error e⟩] := by
  exact safe_call.2 ⟨trivial, fun results past' h => h, fun e past' h => h⟩

/-- A command that the gate returned passes it again, unchanged. -/
theorem assertReadOnly_idem {v : ValidatedInfoCommand} (h : assertReadOnly cmd = .ok v) :
    assertReadOnly v.command = .ok v :=
  assertVerbIn_idem plain_of_mem_readOnly h

/-- One command is sent, and each row carries it. -/
theorem safe_runCommand (hvalid : body.readOnly = true → ∃ v, assertReadOnly cmd = .ok v ∧
      v.command = cmd) :
    (runCommand settings body client cmd).Safe recorded (fun _ _ => True) past
      (fun rows past' => transmitted past' = transmitted past ++ [cmd] ∧
        ∀ row ∈ rows, row.command = cmd)
      fun e past' => past' = past ++ [⟨.infoAll client cmd, .error e⟩] := by
  have hsent : ∀ x, transmitted (past ++ [⟨.infoAll client cmd, x⟩]) = transmitted past ++ [cmd] :=
    fun x => transmitted_concat
  unfold runCommand
  cases body.targetNode with
  | none =>
    refine safe_bind.2 (safe_executeInfo.mono ?_ fun e past' h => h)
    rintro results past' rfl
    split
    next => exact ⟨hsent _, by simp⟩
    next => exact ⟨hsent _, by simp [nodeRow]⟩
  | some node =>
    cases hread : body.readOnly with
    | true =>
      obtain ⟨v, hv, hcmd⟩ := hvalid hread
      simp only [if_true, executeInfoReadOnly, hv, safe_bind, safe_lift, safe_pure,
        Except.mapError]
      refine ⟨?_, by simp⟩
      rintro _ ⟨⟩
      rw [hcmd]
      refine safe_executeInfo.mono ?_ fun e past' h => h
      rintro results past' rfl
      cases answerOf node results with
      | none => exact ⟨hsent _, by simp [notFoundRow]⟩
      | some r => exact ⟨hsent _, by simp⟩
    | false =>
      simp only [executeInfoOnNode, safe_bind, safe_pure, Bool.false_eq_true, if_false]
      refine safe_executeInfo.mono ?_ fun e past' h => h
      rintro results past' rfl
      cases answerOf node results with
      | none => exact ⟨hsent _, by simp [notFoundRow]⟩
      | some r => exact ⟨hsent _, by simp⟩

/-- The loop sends its commands in order, up to the one whose exception ends it. -/
theorem safe_runCommands (hvalid : ∀ cmd ∈ cmds, body.readOnly = true →
      ∃ v, assertReadOnly cmd = .ok v ∧ v.command = cmd) :
    (runCommands settings body client cmds).Safe recorded (fun _ _ => True) past
      (fun rows past' => transmitted past' = transmitted past ++ cmds ∧
        ∀ row ∈ rows, row.command ∈ cmds)
      fun e past' => CutShort cmds past past' e := by
  induction cmds generalizing past with
  | nil => exact ⟨by simp, by simp⟩
  | cons cmd cmds ih =>
    rw [List.forall_mem_cons] at hvalid
    refine safe_bind.2 ((safe_runCommand hvalid.1).mono ?_ ?_)
    · rintro rows past' ⟨hsent, hrows⟩
      refine safe_bind.2 ((ih hvalid.2).mono ?_ ?_)
      · rintro rest past'' ⟨hsent', hrest⟩
        refine ⟨by rw [hsent', hsent, List.append_assoc]; rfl, ?_⟩
        intro row hrow
        rcases List.mem_append.1 hrow with hrow | hrow
        · exact List.mem_cons.2 (Or.inl (hrows row hrow))
        · exact List.mem_cons_of_mem _ (hrest row hrow)
      · rintro e past'' ⟨sent, cmd', rest, client', rfl, hsent', hlast⟩
        refine ⟨cmd :: sent, cmd', rest, client', rfl, ?_, hlast⟩
        rw [hsent', hsent]
        simp
    · rintro e past' rfl
      refine ⟨[], cmd, cmds, client, rfl, ?_, by simp⟩
      rw [transmitted_concat]
      simp [InfoOp.sends]

/-- What comes of the route: a command is rejected and nothing is sent, or all passed. -/
def Answered (body : ExecuteInfoRequest) (result : Except Exc (List InfoCommandResult))
    (past : InfoHistory) : Prop :=
  (transmitted past = [] ∧ (∃ e, body.commands.mapM (gate body.readOnly) = .error e) ∧
      ∃ e, result = .error e) ∨
    ∃ vs, body.commands.mapM (gate body.readOnly) = .ok vs ∧
      ((∃ rows, result = .ok rows ∧ transmitted past = vs.map ValidatedInfoCommand.command ∧
          ∀ row ∈ rows, row.command ∈ vs.map ValidatedInfoCommand.command) ∨
        ∃ e, result = .error e ∧ CutShort (vs.map ValidatedInfoCommand.command) [] past e)

theorem safe_executeInfoRoute (hpast : transmitted past = []) :
    (executeInfoRoute settings body client).Safe recorded (fun _ _ => True) past
      (fun rows => Answered body (.ok rows)) fun e => Answered body (.error e) := by
  unfold executeInfoRoute validated
  cases hmap : body.commands.mapM (gate body.readOnly) with
  | error e =>
    exact safe_bind.2 (safe_lift.2 ⟨fun _ h => (by cases h), fun e' _ =>
      Or.inl ⟨hpast, ⟨e, hmap⟩, e', rfl⟩⟩)
  | ok vs =>
    refine safe_bind.2 (safe_lift.2 ⟨?_, fun _ h => (by cases h)⟩)
    rintro _ ⟨⟩
    refine (safe_runCommands ?_).mono ?_ ?_
    · intro cmd hcmd hread
      obtain ⟨v, hv, rfl⟩ := List.mem_map.1 hcmd
      obtain ⟨command, -, hgate⟩ := (mem_mapM hmap).1 v hv
      rw [hread] at hgate
      exact ⟨v, assertReadOnly_idem hgate, rfl⟩
    · rintro rows past' ⟨hsent, hrows⟩
      rw [hpast, List.nil_append] at hsent
      exact Or.inr ⟨vs, hmap, Or.inl ⟨rows, rfl, hsent, hrows⟩⟩
    · rintro e past' ⟨sent, cmd, rest, client, heq, hsent, hlast⟩
      rw [hpast] at hsent
      exact Or.inr ⟨vs, hmap, Or.inr ⟨e, rfl, sent, cmd, rest, client, heq, hsent, hlast⟩⟩

/-- The dependencies behind the gate send no command. -/
theorem safe_dependency {p : PoolProgram ℕ} (hpast : transmitted past = []) :
    (p.embed InfoOp.pool fun _ a => a).Safe recorded (fun _ _ => True) past
      (fun _ past' => transmitted past' = []) fun _ past' => transmitted past' = [] := by
  refine safe_embed.2 (safe_of_preserved (I := fun past => transmitted past = []) ?_ hpast)
  rintro r x s s' ⟨y, -, rfl⟩ hs
  rw [transmitted_concat, hs]
  rfl

/-- The gate neither sends a command nor runs the dependencies behind it. -/
theorem safe_assertInfoWriteAllowed (settings : InfoSettings) (body : ExecuteInfoRequest) :
    (assertInfoWriteAllowed settings body).Safe recorded (fun _ _ => True) []
      (fun _ past' => transmitted past' = [] ∧ ¬ TouchesPool past')
      fun _ past' => transmitted past' = [] ∧ ¬ TouchesPool past' := by
  have hnil : transmitted [] = [] ∧ ¬ TouchesPool [] := ⟨rfl, by simp [TouchesPool]⟩
  have hhit : ∀ limit scope x, transmitted ([] ++ [⟨.hit limit scope, x⟩]) = [] ∧
      ¬ TouchesPool ([] ++ [⟨.hit limit scope, x⟩]) :=
    fun limit scope x => ⟨rfl, by simp [TouchesPool]⟩
  unfold assertInfoWriteAllowed consumeBudget
  split
  next => exact hnil
  next =>
    split
    next => exact hnil
    next =>
      split
      next =>
        refine safe_bind.2 (safe_call.2 ⟨trivial, ?_, ?_⟩)
        · rintro within past' rfl
          cases within with
          | true => exact hhit _ _ _
          | false => exact hhit _ _ _
        · rintro e past' rfl
          exact hhit _ _ _
      next => exact hnil

/-- The dependencies send no command, and get to the pool only through the gate. -/
theorem play_infoDependencies (settings : InfoSettings) (body : ExecuteInfoRequest)
    (connId callerOwnerId : String) (oracle : InfoOracle) :
    let x := (infoDependencies settings body connId callerOwnerId).play oracle []
    transmitted x.2 = [] ∧ (TouchesPool x.2 → GatePassed settings body oracle) ∧
      ∀ client, x.1 = .ok client → GatePassed settings body oracle := by
  have hgate := (safe_assertInfoWriteAllowed settings body).play oracle
  unfold infoDependencies GatePassed
  rw [play_bind]
  rcases hplay : (assertInfoWriteAllowed settings body).play oracle [] with ⟨e | ⟨⟩, past⟩
  · rw [hplay] at hgate
    exact ⟨hgate.1, fun h => absurd h hgate.2, fun _ h => (by cases h)⟩
  · rw [hplay] at hgate
    have hclient := (safe_dependency (p := getClientDependency settings connId callerOwnerId)
      hgate.1).play oracle
    refine ⟨?_, fun _ => rfl, fun _ _ => rfl⟩
    dsimp only
    split at hclient
    next hend => rwa [hend]
    next hend => rwa [hend]

/-- A dependency has raised. -/
theorem onlyGated_of_dependency {e : Exc} (hsent : transmitted past = [])
    (hallowed : TouchesPool past → GatePassed settings body oracle)
    (he : ((infoDependencies settings body connId callerOwnerId).play oracle []).1 = .error e) :
    OnlyGated settings body connId callerOwnerId oracle (.error e) past where
  gated := by simp [hsent]
  allowed := fun _ h => hallowed (h.resolve_left (absurd hsent))
  refused := fun _ _ _ _ => ⟨hsent, e, rfl⟩
  inOrder := by
    refine fun vs _ => ⟨by simp, ?_⟩
    rintro _ ⟨⟩
    exact Or.inl ⟨hsent, he⟩
  rows := by simp

/-- The dependencies have given the client, and the route was run. -/
theorem Answered.onlyGated {result : Except Exc (List InfoCommandResult)}
    (h : Answered body result past) (hpassed : GatePassed settings body oracle) :
    OnlyGated settings body connId callerOwnerId oracle result past := by
  rcases h with ⟨hsent, ⟨e, hreject⟩, e', rfl⟩ | ⟨vs, hvs, hanswer⟩
  · exact {
      gated := by simp [hsent]
      allowed := fun _ _ => hpassed
      refused := fun _ _ _ _ => ⟨hsent, e', rfl⟩
      inOrder := by
        intro vs hvs
        rw [hreject] at hvs
        cases hvs
      rows := by simp }
  · have hsent : ∀ sent ∈ transmitted past, sent ∈ vs.map ValidatedInfoCommand.command := by
      rcases hanswer with ⟨rows, -, hall, -⟩ | ⟨e, -, sent, cmd, rest, client, heq, hcut, -⟩
      · simp [hall]
      · rw [heq, hcut]
        intro c hc
        simpa [transmitted, or_assoc] using Or.inl hc
    exact {
      gated := by
        intro sent hmem
        obtain ⟨v, hv, rfl⟩ := List.mem_map.1 (hsent sent hmem)
        obtain ⟨command, hcommand, hgate⟩ := (mem_mapM hvs).1 v hv
        exact ⟨command, hcommand, v, hgate, rfl⟩
      allowed := fun _ _ => hpassed
      refused := by
        intro command hcommand e hreject
        obtain ⟨v, -, hgate⟩ := (mem_mapM hvs).2 command hcommand
        rw [hreject] at hgate
        cases hgate
      inOrder := by
        intro vs' hvs'
        obtain rfl := Except.ok.inj (hvs.symm.trans hvs')
        rcases hanswer with ⟨rows, rfl, hall, -⟩ | ⟨e, rfl, hcut⟩
        · exact ⟨fun _ _ => hall, by simp⟩
        · refine ⟨by simp, ?_⟩
          rintro _ ⟨⟩
          exact Or.inr hcut
      rows := by
        rintro rows rfl
        rcases hanswer with ⟨_, ⟨⟩, -, hrows⟩ | ⟨e, ⟨⟩, -⟩
        exact ⟨vs, hvs, hrows⟩ }

/-- Only gated commands reach the wire: for every body, and however the requests of the endpoint
are answered. -/
theorem only_gated {settings : InfoSettings} {body : ExecuteInfoRequest} {oracle : InfoOracle}
    {connId callerOwnerId : String} :
    OnlyGated settings body connId callerOwnerId oracle
      ((infoEndpoint settings body connId callerOwnerId).play oracle []).1
      ((infoEndpoint settings body connId callerOwnerId).play oracle []).2 := by
  obtain ⟨hsent, htouches, hpassed⟩ :=
    play_infoDependencies settings body connId callerOwnerId oracle
  unfold infoEndpoint
  rw [play_bind]
  rcases hplay : (infoDependencies settings body connId callerOwnerId).play oracle [] with
    ⟨e | client, past⟩
  · rw [hplay] at hsent htouches
    exact onlyGated_of_dependency hsent htouches (by rw [hplay])
  · rw [hplay] at hsent hpassed
    have hroute : (executeInfoRoute settings body client).Safe recorded (fun _ _ => True) past
        (fun rows => Answered body (.ok rows)) fun e => Answered body (.error e) :=
      safe_executeInfoRoute hsent
    have hanswered := hroute.play oracle
    dsimp only
    split at hanswered
    next rows past' hend =>
      rw [hend]
      exact hanswered.onlyGated (hpassed client rfl)
    next e past' hend =>
      rw [hend]
      exact hanswered.onlyGated (hpassed client rfl)

end Wire

/-- The connection is stored, its client is cached, and the cluster answers all but `node`. -/
def nodeTimesOut : InfoOracle := fun _ r =>
  match r with
  | .hit _ _ => .ok true
  | .pool (.db (.getConnection connId)) =>
      .ok (some {
        id := connId, name := "Local", hosts := ["127.0.0.1"], port := 3000, color := "#0097D3"
        labels := [("env", "default")], createdAt := "2026-01-01", updatedAt := "2026-01-01" })
  | .pool (.db (.getWorkspace workspaceId)) =>
      .ok (some {
        id := workspaceId, name := "Default", ownerId := systemOwnerId, createdAt := "2026-01-01"
        updatedAt := "2026-01-01" })
  | .pool (.lockOf _) => .ok 0
  | .pool (.cached _) => .ok (some 7)
  | .pool (.isConnected _) => .ok true
  | .pool .acquireGlobal | .pool .releaseGlobal | .pool (.acquire _) | .pool (.release _) => .ok ()
  | .infoAll _ command =>
      if command = "node".toList then .error (.other "AerospikeTimeout")
      else .ok [{ nodeName := "A1", errorCode := 0, response := "ok" }]
  | _ => .error (.other "unexpected")

/-- A write request of three commands, of which the second raises: the third is never sent. -/
theorem only_gated_cutShort :
    let settings : InfoSettings := {
      allowInfoWrite := true
      limiterEnabled := true
      clients := { assertTargetsAllowed := fun _ _ => .ok () }
      repr := String.ofList }
    let body : ExecuteInfoRequest := {
      commands := ["recluster:".toList, " node ".toList, "namespaces".toList]
      readOnly := false
      commands_ne := List.cons_ne_nil _ _ }
    let x := (infoEndpoint settings body "conn-1" "alice").play nodeTimesOut []
    OnlyGated settings body "conn-1" "alice" nodeTimesOut x.1 x.2 ∧
      transmitted x.2 = ["recluster:".toList, "node".toList] ∧
      x.1.isOk = false := by
  refine ⟨only_gated, by rfl, by rfl⟩

end ClusterManager.Info
