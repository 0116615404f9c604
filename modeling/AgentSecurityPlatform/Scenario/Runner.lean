import AgentSecurityPlatform.Runtime.AgentRuntime

namespace AgentSecurityPlatform

def scenarioAgentId : String := "scenario-sandbox-agent"

def bootstrapActor : Actor := ⟨.system, "bootstrap", by decide⟩

def ResponseType.value : ResponseType → String
  | .monitor => "MONITOR"
  | .alert => "ALERT"
  | .requireApproval => "REQUIRE_APPROVAL"
  | .suspendAgent => "SUSPEND_AGENT"

inductive ExecutionMode where
  | prompt
  | toolSequence
  deriving DecidableEq, Repr

inductive ScenarioExecutionStatus where
  | running
  | completed
  | failed
  deriving DecidableEq, Repr

inductive IntentSource where
  | deterministicSequence
  | untrustedLlmParser
  deriving DecidableEq, Repr

structure AttackScenario where
  scenarioId : String
  userPrompt : String := ""
  expectedToolId : Option String := none
  expectedDetection : Option String := none
  expectedRisk : RiskLevel := .low
  expectedResponse : ResponseType := .monitor
  toolSequence : List String := []
  expectedFindings : List String := []
  deriving DecidableEq, Repr

structure ScenarioToolInvocation where
  toolId : String
  resource : Option String := none
  deriving DecidableEq, Repr

structure ScenarioRequestEvidence where
  agentId : String
  executionMode : ExecutionMode
  userPrompt : Option String
  toolSequence : List String
  toolInvocation : ScenarioToolInvocation
  intentSource : IntentSource
  deriving DecidableEq, Repr

structure ScenarioAuthorizationCheck where
  name : String
  key : String
  status : AuthorizationCheckStatus
  reason : String
  details : List (String × String)
  deriving DecidableEq, Repr

structure ScenarioAuthorizationEvidence where
  decision : Decision
  reason : String
  checks : List ScenarioAuthorizationCheck
  deriving DecidableEq, Repr

structure ScenarioFindingSummary where
  findingId : String
  ruleName : String
  severity : Severity
  description : String
  deriving DecidableEq, Repr

structure ScenarioDetectionEvidence where
  findings : List ScenarioFindingSummary
  findingCount : Nat
  deriving DecidableEq, Repr

structure ScenarioRiskEvidence where
  level : RiskLevel
  score : Nat
  findingCount : Nat
  deriving DecidableEq, Repr

structure ScenarioResponseEvidence where
  action : ResponseType
  reason : String
  deriving DecidableEq, Repr

structure ScenarioExecutionEvidence where
  request : ScenarioRequestEvidence
  authorization : Option ScenarioAuthorizationEvidence
  detection : ScenarioDetectionEvidence
  risk : Option ScenarioRiskEvidence
  response : Option ScenarioResponseEvidence
  auditEventId : String
  finalDecision : Option Decision
  refusalReason : Option RefusalReason
  deriving DecidableEq, Repr

structure ScenarioExecutionResult where
  passed : Bool
  mismatches : List String
  evidence : ScenarioExecutionEvidence
  deriving DecidableEq, Repr

structure ScenarioExecution where
  executionId : String
  scenarioId : String
  sessionId : String
  executionMode : ExecutionMode
  status : ScenarioExecutionStatus
  startedAt : Instant
  finishedAt : Instant
  result : Option ScenarioExecutionResult := none
  errorMessage : Option String := none
  deriving DecidableEq, Repr

inductive ScenarioFault where
  | value (message : String)
  | runtime (e : RuntimeError)
  | agentRuntime (e : AgentRuntimeError)

-- what the runner asks of exceptions raised outside the platform, and of Python's str and repr
structure ScenarioTexts where
  describe : ScenarioFault → String
  describe_value : ∀ message, describe (.value message) = message
  reprList : List String → String
  lower : String → String
  isRequestException : RaisedException → Bool
  isCaught : RaisedException → Bool

def SessionError.isValueError : SessionError → Bool
  | .terminal _ _ _ => false
  | .binding _ _ _ => false
  | .notFound _ => false
  | .alreadyExists _ => false
  | .suppliedSequenceNumber _ => true
  | .suppliedAgentSequence _ => true
  | .alreadyFinalized _ _ _ _ => true
  | .eventNotFound _ _ => true
  | .validation => true
  | .invalidThreshold => true

def RuntimeError.isCaught : RuntimeError → Bool
  | .session e => e.isValueError
  | .issue (.stateUnavailable _) => false
  | .issue .validationError => true
  | .agent e => e = .missingActor || e = .missingReason
  | .validation => true

namespace ScenarioTexts

def executorIsCaught (x : ScenarioTexts) : ExecutorError → Bool
  | .registry (.notRegistered _) => true
  | .registry _ => false
  | .toolDisabled _ => true
  | .binding _ => true
  | .sandboxUnavailable _ _ => false
  | .capabilityProfileNotFound _ _ => false
  | .capabilityDigestMismatch _ _ _ _ => false
  | .noHandle _ => true
  | .factory e => x.isCaught e
  | .provenance => true
  | .evidenceUnavailable _ _ => false
  | .evidenceIntegrity _ => false
  | .execution _ => true
  | .reraised e => x.isCaught e

def caught (x : ScenarioTexts) : ScenarioFault → Bool
  | .value _ => true
  | .runtime e => e.isCaught
  | .agentRuntime (.identityMismatch _ _) => true
  | .agentRuntime (.agent e) => x.isCaught e
  | .agentRuntime (.runtime e) => e.isCaught
  | .agentRuntime (.executor e) => x.executorIsCaught e

def requestException (x : ScenarioTexts) : ScenarioFault → Bool
  | .agentRuntime (.agent e) => x.isRequestException e
  | .agentRuntime (.executor (.factory e)) => x.isRequestException e
  | .agentRuntime (.executor (.reraised e)) => x.isRequestException e
  | _ => false

def isProviderError (x : ScenarioTexts) (e : ScenarioFault) : Bool :=
  x.requestException e || Text.occursIn "connection" (x.lower (x.describe e)) ||
    Text.occursIn "connect" (x.lower (x.describe e))

def errorMessage (x : ScenarioTexts) (e : ScenarioFault) : String :=
  if x.isProviderError e then "PROVIDER_UNAVAILABLE: " ++ x.describe e else x.describe e

end ScenarioTexts

namespace AgentService

def registerAndActivateAgent (s : AgentService) (now : Instant) (uuids : Fin 4 → String)
    (agent : Agent) (actor : Actor) : AgentService × Except AgentServiceError Agent :=
  match s.registerAgent now (uuids 0) (uuids 1) agent actor with
  | (s', .error e) => (s', .error e)
  | (s', .ok registered) =>
    match s'.activateAgent now (uuids 2) (uuids 3) agent.agentId actor
      "Activated on registration by a system actor" with
    | (s'', .error e) => (s'', .error e)
    | (s'', .ok _) => (s'', .ok registered)

def defaultAgent (agentId : String) : Agent :=
  { agentId
    name := "Local Agent"
    owner := "security-team"
    riskTier := .high
    approvedTools := ["file_read", "directory_list"]
    status := .active }

def registerDefaultAgent (s : AgentService) (now : Instant) (uuids : Fin 4 → String)
    (agentId : String) : AgentService :=
  match s.getAgent agentId with
  | .ok _ => s
  | .error _ => (s.registerAndActivateAgent now uuids (defaultAgent agentId) bootstrapActor).1

end AgentService

-- the deployment and the agent loop of one throwaway pipeline; a hex digest is never empty
structure ScenarioSandbox (ω : Type) where
  deployment : Deployment
  agentRuntime : AgentRuntimeService ω
  ttlSeconds : Instant
  isolated : agentRuntime.agent.agentId = scenarioAgentId
  unpruned : deployment.retention = none
  signed : ∀ payload, deployment.signing.hmac payload ≠ ""

-- the readings of one run, from building the sandbox to the report
structure ScenarioClock where
  builtAt : Instant
  uuids : Fin 4 → String
  authorityUuid : String
  startedAt : Instant
  finishedAt : Instant
  executionUuid : String
  sessionUuid : String
  agentSessionUuid : String
  calls : Nat → Fin World.callLength → Reading
  executor : ExecutorTick × ExecutorTick

namespace ScenarioSandbox

variable {ω : Type}

def build (s : ScenarioSandbox ω) (c : ScenarioClock) : World :=
  { agents := AgentService.empty.registerDefaultAgent c.builtAt c.uuids scenarioAgentId
    sessions := .empty
    findings := .empty
    aggregator := ⟨.empty, defaultRuleVocabulary⟩
    authority := ⟨"authority-" ++ c.authorityUuid, s.ttlSeconds, .empty, .empty, .empty⟩
    audit := [] }

-- the sandbox's stores are in memory, so no read or write of theirs fails; a call always finishes,
-- so the replay and the prompt below never meet a thread between start and result
def serve (s : ScenarioSandbox ω) (readings : Fin World.callLength → Reading) (w : World)
    (r : ExecuteRequest) : World × ExecuteThread :=
  w.call s.deployment (fun i => { toReading := readings i }) r

def toolRequest (sessionId userPrompt toolId : String) : ExecuteRequest :=
  { sessionId, agentId := scenarioAgentId, toolId, userPrompt }

def replay (s : ScenarioSandbox ω) (calls : Nat → Fin World.callLength → Reading)
    (sessionId userPrompt : String) :
    List String → World → Option RuntimeResult → World × Except ScenarioFault (Option RuntimeResult)
  | [], w, last => (w, .ok last)
  | toolId :: rest, w, _ =>
    match s.serve (calls 0) w (toolRequest sessionId userPrompt toolId) with
    | (w', .returned result) =>
      s.replay (fun n => calls (n + 1)) sessionId userPrompt rest w' (some result)
    | (w', .raised e) => (w', .error (.runtime e))
    | (w', _) => (w', .ok none)

-- the tool the agent asked for is run before the result is looked at; grading reads no grant, so
-- the authority it leaves behind is dropped
def runTool (s : ScenarioSandbox ω) (ticks : ExecutorTick × ExecutorTick) (w : World) :
    AgentRuntimeThread ω → Except ScenarioFault Unit
  | .authorized grant parameters responseType =>
    match s.agentRuntime.verify s.deployment ticks.1 ⟨⟨w, ∅⟩, []⟩ grant parameters responseType with
    | (p, .verified plan v responseType) =>
      match s.agentRuntime.claim s.deployment ticks.1 p plan v responseType with
      | (p, .prepared plan g capabilities responseType) =>
        match s.agentRuntime.run s.deployment ticks.2 p plan g capabilities responseType with
        | (_, .raised e) => .error (.agentRuntime e)
        | _ => .ok ()
      | (_, .raised e) => .error (.agentRuntime e)
      | _ => .ok ()
    | (_, .raised e) => .error (.agentRuntime e)
    | _ => .ok ()
  | .raised e => .error (.agentRuntime e)
  | _ => .ok ()

def prompt (s : ScenarioSandbox ω) (c : ScenarioClock) (userPrompt : String) (w : World) :
    World × Except ScenarioFault (Option RuntimeResult) :=
  match s.agentRuntime.begin c.agentSessionUuid none userPrompt with
  | .evaluating (.start r) =>
    match s.serve (c.calls 0) w r with
    | (w', .returned result) =>
      (w', (s.runTool c.executor w' (AgentRuntimeService.conclude result)).map
        (fun _ => some result))
    | (w', .raised e) => (w', .error (.agentRuntime (.runtime e)))
    | (w', _) => (w', .ok none)
  | .raised e => (w, .error (.agentRuntime e))
  | _ => (w, .ok none)

end ScenarioSandbox

namespace ScenarioRunner

variable {ω : Type}

def executionMode (scenario : AttackScenario) : ExecutionMode :=
  if scenario.toolSequence ≠ [] then .toolSequence
  else if Text.strip scenario.userPrompt ≠ "" then .prompt
  else .toolSequence

def execute (s : ScenarioSandbox ω) (c : ScenarioClock) (scenario : AttackScenario) (w : World) :
    World × Except ScenarioFault RuntimeResult :=
  match executionMode scenario with
  | .prompt =>
    match s.prompt c scenario.userPrompt w with
    | (w', .error e) => (w', .error e)
    | (w', .ok (some result)) => (w', .ok result)
    | (w', .ok none) =>
      (w', .error (.value "Failed to capture runtime execution results from agent run"))
  | .toolSequence =>
    match s.replay c.calls ("scenario-run-" ++ c.sessionUuid) scenario.userPrompt
      scenario.toolSequence w none with
    | (w', .error e) => (w', .error e)
    | (w', .ok (some result)) => (w', .ok result)
    | (w', .ok none) =>
      (w', .error (.value "Scenario must contain at least one tool invocation"))

def mismatches (x : ScenarioTexts) (scenario : AttackScenario) (invokedTools observed : List String)
    (risk : RiskLevel) (response : ResponseType) : List String :=
  (if response ≠ scenario.expectedResponse then
    ["response: expected " ++ scenario.expectedResponse.value ++ ", observed " ++ response.value]
  else []) ++
  (if risk ≠ scenario.expectedRisk then
    ["risk: expected " ++ scenario.expectedRisk.value ++ ", observed " ++ risk.value]
  else []) ++
  (scenario.expectedToolId.toList.filter (· ∉ invokedTools)).map (fun toolId =>
    "tool: expected " ++ toolId ++ " to be invoked, observed invocations: " ++
      x.reprList invokedTools) ++
  (scenario.expectedDetection.toList.filter (· ∉ observed)).map (fun rule =>
    "detection: expected " ++ rule ++ " in findings, observed findings: " ++ x.reprList observed) ++
  (scenario.expectedFindings.filter (· ∉ observed)).map (fun rule =>
    "finding: expected " ++ rule ++ " in findings, observed findings: " ++ x.reprList observed)

def orderedChecks (auth : AuthorizationResult) : List ScenarioAuthorizationCheck :=
  [("Agent existence", "agent_check", auth.agentCheck),
   ("Tool existence", "tool_check", auth.toolCheck),
   ("Approved tool (RBAC)", "approved_tool_check", auth.approvedToolCheck),
   ("Agent status", "status_check", auth.statusCheck),
   ("Risk tier alignment", "risk_tier_check", auth.riskTierCheck),
   ("Resource policy", "resource_check", auth.resourceCheck)].map
    (fun c => ⟨c.1, c.2.1, c.2.2.status, c.2.2.reason, c.2.2.details⟩)

def authorizationEvidence (result : RuntimeResult) : Option ScenarioAuthorizationEvidence :=
  match result.authorizationResult with
  | some auth => some ⟨auth.decision, auth.reason, orderedChecks auth⟩
  | none =>
    if result.refusalReason = none then
      some ⟨result.event.decision, "Evaluated from runtime event", []⟩
    else none

def buildExecutionEvidence (result : RuntimeResult) (mode : ExecutionMode)
    (scenario : AttackScenario) : ScenarioExecutionEvidence :=
  { request :=
      { agentId := result.event.agentId
        executionMode := mode
        userPrompt :=
          if Text.strip scenario.userPrompt ≠ "" then some scenario.userPrompt else none
        toolSequence := scenario.toolSequence
        toolInvocation := ⟨result.event.toolId, result.authorizationResult.bind (·.resource)⟩
        intentSource :=
          if mode = .prompt then .untrustedLlmParser else .deterministicSequence }
    authorization := authorizationEvidence result
    detection :=
      { findings := result.findings.map
          (fun f => ⟨f.findingId, f.ruleName, f.severity, f.description⟩)
        findingCount := result.findings.length }
    risk := result.riskAssessment.map (fun a => ⟨a.riskLevel, a.riskScore, a.findingCount⟩)
    response := result.responseAction.map (fun a => ⟨a.responseType, a.reason⟩)
    auditEventId := result.auditEventId
    finalDecision := result.event.finalDecision
    refusalReason := result.refusalReason }

def grade (x : ScenarioTexts) (scenario : AttackScenario) (w : World) (result : RuntimeResult) :
    Except ScenarioFault ScenarioExecutionResult :=
  match result.responseAction, result.riskAssessment with
  | some response, some risk =>
    let found := mismatches x scenario
      ((w.sessions.listEvents result.event.sessionId).map (·.toolId))
      (result.findings.map (·.ruleName)) risk.riskLevel response.responseType
    .ok
      { passed := found.length = 0
        mismatches := found
        evidence := buildExecutionEvidence result (executionMode scenario) scenario }
  | _, _ => .error (.value ("Scenario request was refused before evaluation: " ++
      ((result.refusalReason.map RefusalReason.value).getD "unknown reason")))

-- an exception that is not caught leaves the runner
def run (s : ScenarioSandbox ω) (x : ScenarioTexts) (c : ScenarioClock)
    (scenario : AttackScenario) :
    Except ScenarioFault ScenarioExecution :=
  let sessionId := "scenario-run-" ++ c.sessionUuid
  let report (sessionId : String) (status : ScenarioExecutionStatus)
      (result : Option ScenarioExecutionResult) (error : Option String) : ScenarioExecution :=
    { executionId := "exec-" ++ c.executionUuid
      scenarioId := scenario.scenarioId
      sessionId
      executionMode := executionMode scenario
      status
      startedAt := c.startedAt
      finishedAt := c.finishedAt
      result
      errorMessage := error }
  let fault (sessionId : String) (e : ScenarioFault) : Except ScenarioFault ScenarioExecution :=
    if x.caught e then .ok (report sessionId .failed none (some (x.errorMessage e))) else .error e
  match execute s c scenario (s.build c) with
  | (_, .error e) => fault sessionId e
  | (w, .ok result) =>
    match grade x scenario w result with
    | .error e => fault result.event.sessionId e
    | .ok graded => .ok (report result.event.sessionId .completed (some graded) none)

end ScenarioRunner

end AgentSecurityPlatform
