import AgentSecurityPlatform.Executor.Executability

namespace AgentSecurityPlatform

open PythonJson

structure ToolInvocation where
  toolId : String
  parameters : Dict String String

namespace ToolInvocation

def parametersDict (i : ToolInvocation) : Parameters :=
  ⟨i.parameters.entries.map (fun e => (.text e.1, .text e.2)), by
    have hkeys : (i.parameters.entries.map (fun e =>
        (ParameterName.text e.1, ParameterValue.text e.2))).map Prod.fst =
        (i.parameters.entries.map Prod.fst).map ParameterName.text := by simp
    rw [hkeys]
    exact i.parameters.nodup.map (fun _ _ h => ParameterName.text.inj h)⟩

def modelDumpJson (i : ToolInvocation) : String :=
  (renderRaw .compact (keyed [("tool_id", .str (.ofString i.toolId)),
    ("parameters",
      keyed (i.parameters.entries.map (fun e => (e.1, .str (.ofString e.2)))))])).text

end ToolInvocation

structure EnterpriseAgent where
  agentId : String
  invoke : String → Except RaisedException ToolInvocation

structure AgentRuntimeResult (ω : Type) where
  decision : Decision
  responseType : ResponseType
  output : Option ω := none

inductive AgentRuntimeError where
  | identityMismatch (claimed requested : String)
  | agent (e : RaisedException)
  | runtime (e : RuntimeError)
  | executor (e : ExecutorError)

structure AgentRuntimeService (ω : Type) where
  agent : EnterpriseAgent
  toolRegistry : ExecutableRegistry
  sandbox : SandboxRequest → SandboxOutcome ω
  evidenceStore : Option EvidenceStore
  sha256 : Str → String
  computeOutputDigest : ω → Option String

inductive AgentRuntimeThread (ω : Type) where
  | start (agentId : Option String) (query : String)
  | evaluating (e : ExecuteThread)
  | authorized (grant : Option RuntimeExecutionGrant) (parameters : Parameters)
      (responseType : ResponseType)
  | verified (plan : ExecutionPlan) (v : Verification) (responseType : ResponseType)
  | prepared (plan : ExecutionPlan) (grant : RuntimeExecutionGrant)
      (capabilities : ExecutionCapabilities) (responseType : ResponseType)
  | finished (r : AgentRuntimeResult ω)
  | raised (e : AgentRuntimeError)

structure AgentTick where
  platform : Tick
  executor : ExecutorTick

-- the platform's own state, and what the sandbox was asked to run so far
structure AgentShared extends Shared where
  sandboxed : List SandboxRequest

inductive AgentPlatformThread (ω : Type) where
  | agent (s : AgentRuntimeService ω) (c : AgentRuntimeThread ω)
  | platform (e : PlatformThread)

def ExecutorCall.request? {ω : Type} : ExecutorCall ω → Option SandboxRequest
  | .sandboxExecute q _ => some q
  | _ => none

def requests {ω : Type} (calls : List (ExecutorCall ω)) : List SandboxRequest :=
  calls.filterMap ExecutorCall.request?

def Shared.withAuthority (p : Shared) (authority : ExecutionAuthority) : Shared :=
  { p with world := { p.world with authority } }

namespace AgentRuntimeService

variable {ω : Type}

def executor (d : Deployment) (s : AgentRuntimeService ω) : DefaultToolExecutor ω :=
  { hasAuthority := true
    evidenceStore := s.evidenceStore
    telemetryEmitter := none
    sandbox := some s.sandbox
    capabilityRegistry := some d.capabilities
    toolRegistry := some s.toolRegistry
    signing := d.signing
    capabilityHashing := d.capabilityHashing
    sha256 := s.sha256
    computeOutputDigest := s.computeOutputDigest }

def request (agentId query sessionId : String) (i : ToolInvocation) : ExecuteRequest :=
  { sessionId
    agentId
    toolId := i.toolId
    resource := i.parameters.get? resourceParameter
    userPrompt := query
    modelOutput := i.modelDumpJson
    toolOutput := ""
    parameters := i.parametersDict }

def begin (s : AgentRuntimeService ω) (sessionId : String) (agentId : Option String)
    (query : String) : AgentRuntimeThread ω :=
  if agentId.any (· ≠ s.agent.agentId) then
    .raised (.identityMismatch s.agent.agentId (agentId.getD ""))
  else
    match s.agent.invoke query with
    | .error e => .raised (.agent e)
    | .ok i =>
      .evaluating (.start (request ((nonEmpty agentId).getD s.agent.agentId) query sessionId i))

def conclude (result : RuntimeResult) : AgentRuntimeThread ω :=
  let decision := result.event.finalDecision.getD result.event.decision
  let responseType := (result.responseAction.map (·.responseType)).getD .monitor
  if decision ≠ .allow then .finished { decision, responseType }
  else
    .authorized result.authorization (result.authorizedParameters.getD .empty) responseType

def leave : ExecuteThread → AgentRuntimeThread ω
  | .returned result => conclude result
  | .raised error => .raised (.runtime error)
  | e => .evaluating e

def verify (d : Deployment) (s : AgentRuntimeService ω) (t : ExecutorTick) (p : AgentShared)
    (grant : Option RuntimeExecutionGrant) (parameters : Parameters) (responseType : ResponseType) :
    AgentShared × AgentRuntimeThread ω :=
  match (s.executor d).plan (.execute grant parameters none) with
  | .error e => (p, .raised (.executor e))
  | .ok plan =>
    let attempt := (s.executor d).verify t p.world.authority plan
    ({ p with toShared := p.withAuthority attempt.authority },
      match attempt.result with
      | .error e => .raised (.executor e)
      | .ok v => .verified plan v responseType)

def claim (d : Deployment) (s : AgentRuntimeService ω) (t : ExecutorTick) (p : AgentShared)
    (plan : ExecutionPlan) (v : Verification) (responseType : ResponseType) :
    AgentShared × AgentRuntimeThread ω :=
  let preparation := (s.executor d).claim t p.world.authority v
  ({ p with toShared := p.withAuthority preparation.authority },
    match preparation.result with
    | .error e => .raised (.executor e)
    | .ok (g, capabilities) => .prepared plan g capabilities responseType)

def answer (responseType : ResponseType) :
    Except ExecutorError (Option ω) → AgentRuntimeThread ω
  | .error e => .raised (.executor e)
  | .ok output => .finished { decision := .allow, responseType, output }

def run (d : Deployment) (s : AgentRuntimeService ω) (t : ExecutorTick) (p : AgentShared)
    (plan : ExecutionPlan) (g : RuntimeExecutionGrant) (capabilities : ExecutionCapabilities)
    (responseType : ResponseType) : AgentShared × AgentRuntimeThread ω :=
  match plan.tool with
  | .error e => (p, .raised (.executor e))
  | .ok tool =>
    let ran := (s.executor d).run t tool plan.parameters capabilities g plan.context
      plan.implementationId
    ({ p with sandboxed := p.sandboxed ++ requests ran.1 }, answer responseType ran.2)

def step (d : Deployment) (s : AgentRuntimeService ω) (t : AgentTick) (p : AgentShared) :
    AgentRuntimeThread ω → Option (AgentShared × AgentRuntimeThread ω)
  | .start agentId query => some (p, s.begin t.platform.uuid agentId query)
  | .evaluating e =>
    if e.finished then some (p, leave e)
    else if (e.waitsFor t.platform p.world).any (· ∈ p.held) then none
    else
      (p.world.execute d t.platform e).map
        (fun r => ({ p with toShared := { p.toShared with world := r.1 } }, .evaluating r.2))
  | .authorized grant parameters responseType =>
    some (s.verify d t.executor p grant parameters responseType)
  | .verified plan v responseType => some (s.claim d t.executor p plan v responseType)
  | .prepared plan g capabilities responseType =>
    some (s.run d t.executor p plan g capabilities responseType)
  | .finished _ => none
  | .raised _ => none

end AgentRuntimeService

namespace AgentRuntime

variable {ω : Type}

def step (d : Deployment) : Pool.Machine AgentTick AgentShared (AgentPlatformThread ω)
  | t, p, .agent s c => (s.step d t p c).map (fun r => (r.1, .agent s r.2))
  | t, p, .platform e =>
    (Platform.step d t.platform p.toShared e).map
      (fun r => ({ p with toShared := r.1 }, .platform r.2))

end AgentRuntime

end AgentSecurityPlatform
