import AgentSecurityPlatform.Execution.Receipts
import AgentSecurityPlatform.Executor.Registry
import AgentSecurityPlatform.Runtime.Request

namespace AgentSecurityPlatform

structure ToolExecutionError where
  toolId : String
  message : String
  cause : Option RaisedException := none
  evidenceFailure : Option ExecutionEvidenceIntegrityError := none
  deriving DecidableEq, Repr

inductive ExecutorError where
  | registry (e : RegistryError)
  | toolDisabled (toolId : String)
  | binding (e : ExecutionBindingError)
  | sandboxUnavailable (message toolId : String)
  | capabilityProfileNotFound (message : String) (toolId : Option String)
  | capabilityDigestMismatch (message : String) (expected : Option String) (actual toolId : String)
  | noHandle (e : ToolExecutionError)
  | factory (e : RaisedException)
  | provenance
  | evidenceUnavailable (toolId receiptId : String)
  | evidenceIntegrity (e : ExecutionEvidenceIntegrityError)
  | execution (e : ToolExecutionError)
  | reraised (e : RaisedException)
  deriving DecidableEq, Repr

structure RuntimeContext where
  sessionId : String
  requestId : String
  authenticatedAgent : String
  deriving DecidableEq, Repr

structure ExecutionProvenance where
  grantId : String
  agentId : String
  sessionId : String
  requestId : String
  toolId : String
  toolVersion : String
  implementationId : String
  deriving DecidableEq, Repr

-- the remaining fields are non-empty in every grant
def ExecutionProvenance.fromGrant (g : RuntimeExecutionGrant)
    (requestId implementationId : String) :
    Option ExecutionProvenance :=
  if requestId = "" ∨ implementationId = "" then none
  else
    some
      { grantId := g.grantId
        agentId := g.agentId
        sessionId := g.sessionId
        requestId
        toolId := g.binding.toolId
        toolVersion := g.binding.toolVersion
        implementationId }

structure StartedRecord where
  receiptId : String
  grantId : String
  sessionId : String
  agentId : String
  requestId : String
  toolId : String
  toolVersion : String
  implementationId : String
  bindingHash : String
  capabilityProfileId : Option String
  capabilityDigest : Option String
  declaredTimeoutSeconds : Instant
  startedAt : Timestamp
  monotonicStart : Instant
  deriving DecidableEq, Repr

inductive TelemetryEventType where
  | executionStarted
  | executionCompleted
  | executionFailed
  | executionEvidenceFailed
  deriving DecidableEq, Repr

structure BehavioralEvent where
  eventType : TelemetryEventType
  sessionId : String
  agentId : String
  traceId : String
  toolId : String
  executionTimeMs : Option Int := none
  errorCode : Option String := none
  deriving DecidableEq, Repr

structure SandboxRequest where
  tool : BaseTool
  parameters : Parameters
  capabilities : ExecutionCapabilities
  provenance : ExecutionProvenance
  implementationId : String
  toolVersion : String
  deriving DecidableEq

structure SandboxExecutionResult (ω : Type) where
  success : Bool
  output : Option ω := none
  outputDigest : Option String := none
  durationMs : Nat := 0
  errorType : Option String := none
  errorMessage : Option String := none
  deriving DecidableEq, Repr

inductive SandboxOutcome (ω : Type) where
  | returned (r : SandboxExecutionResult ω)
  | raised (e : RaisedException)
  deriving DecidableEq, Repr

def SandboxOutcome.failed {ω : Type} : SandboxOutcome ω → Bool
  | .returned r => !r.success
  | .raised _ => true

structure EvidenceStore where
  recordStarted : StartedRecord → Bool
  recordTerminal : String → TerminalOutcome → Bool

-- what the executor asked of its collaborators, with the answer each time
inductive ExecutorCall (ω : Type) where
  | verifyGrant (g : RuntimeExecutionGrant) (requested : ExecutionBinding) (ok : Bool)
  | claimGrant (g : RuntimeExecutionGrant) (requested : ExecutionBinding) (ok : Bool)
  | recordStarted (r : StartedRecord) (ok : Bool)
  | sandboxExecute (q : SandboxRequest) (o : SandboxOutcome ω)
  | recordTerminal (receiptId : String) (o : TerminalOutcome) (ok : Bool)
  | emit (e : BehavioralEvent) (ok : Bool)

structure ExecutorTick where
  verifiedAt : Instant
  claimedAt : Instant
  startedAt : Timestamp
  monotonicStart : Instant
  completedAt : Timestamp
  monotonicEnd : Instant
  requestUuid : String
  receiptUuid : String

structure DefaultToolExecutor (ω : Type) where
  hasAuthority : Bool
  evidenceStore : Option EvidenceStore
  telemetryEmitter : Option (BehavioralEvent → Bool)
  sandbox : Option (SandboxRequest → SandboxOutcome ω)
  capabilityRegistry : Option (Dict String ExecutionCapabilities)
  toolRegistry : Option ExecutableRegistry
  signing : Signing
  capabilityHashing : CapabilityHashing
  sha256 : PythonJson.Str → String
  computeOutputDigest : ω → Option String

structure Launch where
  tool : BaseTool
  grant : RuntimeExecutionGrant
  requestId : String
  receiptId : String

structure Preparation (ω : Type) where
  authority : ExecutionAuthority
  calls : List (ExecutorCall ω)
  result : Except ExecutorError (RuntimeExecutionGrant × ExecutionCapabilities)

structure Attempt (ω : Type) where
  authority : ExecutionAuthority
  calls : List (ExecutorCall ω)
  result : Except ExecutorError (Option ω)

inductive ExecutorRequest where
  | execute (grant : Option RuntimeExecutionGrant) (parameters : Parameters)
      (context : Option RuntimeContext)
  | executeDescriptor (descriptor : ExecutableDescriptor) (parameters : Parameters)
      (context : Option RuntimeContext) (grant : Option RuntimeExecutionGrant)
  | executeTool (tool : BaseTool) (parameters : Parameters) (context : Option RuntimeContext)
      (grant : Option RuntimeExecutionGrant) (implementationId : Option String)

def ExecutorRequest.grant : ExecutorRequest → Option RuntimeExecutionGrant
  | .execute grant _ _ => grant
  | .executeDescriptor _ _ _ grant => grant
  | .executeTool _ _ _ grant _ => grant

def rejectedEntry : List (ParameterName × ParameterValue) → Option String
  | [] => none
  | (.other _, _) :: _ => some "parameter names must be non-empty strings"
  | (.text name, value) :: es =>
    if name = "" then some "parameter names must be non-empty strings"
    else
      match value with
      | .text _ => rejectedEntry es
      | _ => some ("parameter '" ++ name ++ "' must be a string")

def bindingRejection (parameters : Parameters) : String :=
  (rejectedEntry parameters.entries).getD "operation cannot be expressed as an execution binding"

def classifyFailure (timeout resourceExhausted isolation interrupted : Bool) :
    ExecutionStatus × String :=
  if timeout then (.timeout, "EXECUTION_TIMEOUT")
  else if resourceExhausted then (.failed, "RESOURCE_EXHAUSTED")
  else if isolation then (.failed, "ISOLATION_FAILURE")
  else if interrupted then (.interrupted, "EXECUTION_INTERRUPTED")
  else (.failed, "TOOL_EXECUTION_ERROR")

def RaisedException.classify (e : RaisedException) : ExecutionStatus × String :=
  classifyFailure e.isTimeout e.isResourceExhausted e.isIsolation e.isInterrupted

def classifyErrorType (errorType : String) : ExecutionStatus × String :=
  classifyFailure (errorType ∈ ["SandboxTimeoutError", "TimeoutError"])
    (errorType ∈ ["SandboxResourceExhaustedError"])
    (errorType ∈ ["SandboxIsolationError", "PermissionError"])
    (errorType ∈ ["InterruptedError"])

def nonEmpty (s : Option String) : Option String := s.filter (· ≠ "")

def requireContextAgreesWithGrant (g : RuntimeExecutionGrant) (context : Option RuntimeContext)
    (toolId : String) : Except ExecutorError Unit :=
  match context with
  | none => .ok ()
  | some c =>
    if c.authenticatedAgent ≠ "" ∧ c.authenticatedAgent ≠ g.agentId then
      .error (.binding ⟨.identityMismatch, some toolId,
        "context agent does not match the agent the grant was issued for"⟩)
    else if c.sessionId ≠ "" ∧ c.sessionId ≠ g.sessionId then
      .error (.binding ⟨.identityMismatch, some toolId,
        "context session does not match the session the grant was issued for"⟩)
    else .ok ()

def verifyCapabilityBinding (h : CapabilityHashing) (g : RuntimeExecutionGrant)
    (c : ExecutionCapabilities) (toolId : String) : Except ExecutorError Unit :=
  match g.capabilityProfileId with
  | none =>
    .error (.capabilityProfileNotFound
      "Grant carries no capability profile binding, so its capabilities cannot be verified"
      (some toolId))
  | some profile =>
    if profile ≠ c.capabilityProfileId then
      .error (.capabilityDigestMismatch
        ("Capability profile mismatch: grant bound to '" ++ profile ++
          "', but resolved profile is '" ++ c.capabilityProfileId ++ "'")
        (some profile) c.capabilityProfileId toolId)
    else
      match g.capabilityDigest with
      | none =>
        .error (.capabilityDigestMismatch
          ("Grant bound to capability profile '" ++ profile ++
            "' carries no capability digest, so its capability binding cannot be verified")
          none (c.computeDigest h) toolId)
      | some expected =>
        if c.computeDigest h ≠ expected then
          .error (.capabilityDigestMismatch
            ("Capability digest mismatch for profile '" ++ c.capabilityProfileId ++
              "': expected digest '" ++ expected ++ "', actual computed digest is '" ++
              c.computeDigest h ++ "'")
            (some expected) (c.computeDigest h) toolId)
        else .ok ()

def instantiate (descriptor : ExecutableDescriptor) : Except ExecutorError BaseTool :=
  if !descriptor.enabled then .error (.toolDisabled descriptor.toolId)
  else
    match descriptor.instanceTool, descriptor.factory with
    | some tool, _ => .ok tool
    | none, some (.ok tool) => .ok tool
    | none, some (.error e) => .error (.factory e)
    | none, none =>
      .error (.noHandle
        { toolId := descriptor.toolId
          message := "Descriptor contains neither a BaseTool instance nor a factory" })

def Launch.event (l : Launch) (eventType : TelemetryEventType) (executionTimeMs : Option Int)
    (errorCode : Option String) : BehavioralEvent :=
  { eventType
    sessionId := l.grant.sessionId
    agentId := l.grant.agentId
    traceId := l.requestId
    toolId := l.tool.toolId
    executionTimeMs
    errorCode }

def ExecutorTick.elapsedMs (t : ExecutorTick) : Int := (t.monotonicEnd - t.monotonicStart).tdiv 1000

def requestIdOf (t : ExecutorTick) : Option RuntimeContext → String
  | none => "req-" ++ t.requestUuid
  | some c => c.requestId

namespace DefaultToolExecutor

variable {ω : Type}

def resolveCapabilities (x : DefaultToolExecutor ω) (g : RuntimeExecutionGrant) (toolId : String) :
    Except ExecutorError ExecutionCapabilities :=
  if x.sandbox.isNone then
    .error (.sandboxUnavailable
      ("No tool execution sandbox configured for tool '" ++ toolId ++ "'") toolId)
  else
    match nonEmpty g.capabilityProfileId with
    | none =>
      .error (.capabilityProfileNotFound
        ("Grant '" ++ g.grantId ++ "' does not have an explicit capability profile binding")
        (some toolId))
    | some profile =>
      match x.capabilityRegistry with
      | none =>
        .error (.capabilityProfileNotFound
          ("Capability profile '" ++ profile ++
            "' cannot be resolved: no capability registry configured on executor") (some toolId))
      | some registry =>
        match registry.get? profile with
        | none =>
          .error (.capabilityProfileNotFound
            ("Capability profile '" ++ profile ++ "' is not registered") none)
        | some capabilities =>
          (verifyCapabilityBinding x.capabilityHashing g capabilities toolId).map
            (fun _ => capabilities)

def admission (x : DefaultToolExecutor ω) (g : RuntimeExecutionGrant)
    (context : Option RuntimeContext)
    (toolId : String) : Except ExecutorError ExecutionCapabilities :=
  match requireContextAgreesWithGrant g context toolId with
  | .error e => .error e
  | .ok () => x.resolveCapabilities g toolId

def verifyAndPrepare (x : DefaultToolExecutor ω) (t : ExecutorTick) (a : ExecutionAuthority)
    (toolId toolVersion : String) (parameters : Parameters) (grant : Option RuntimeExecutionGrant)
    (context : Option RuntimeContext) : Preparation ω :=
  if !x.hasAuthority then
    ⟨a, [], .error (.binding ⟨.noAuthority, some toolId,
      "executor is not bound to an execution authority"⟩)⟩
  else
    match grant with
    | none => ⟨a, [], .error (.binding ⟨.missingGrant, some toolId, ""⟩)⟩
    | some g =>
      match ExecutionBinding.fromOperation toolId toolVersion parameters none with
      | none =>
        ⟨a, [], .error (.binding ⟨.invalidRequest, some toolId, bindingRejection parameters⟩)⟩
      | some requested =>
        match a.verifyGrant x.signing t.verifiedAt (.grant g) requested with
        | (verified, .error e) => ⟨verified, [.verifyGrant g requested false], .error (.binding e)⟩
        | (verified, .ok ()) =>
          match x.admission g context toolId with
          | .error e => ⟨verified, [.verifyGrant g requested true], .error e⟩
          | .ok capabilities =>
            match verified.claimGrant x.signing t.claimedAt (.grant g) requested with
            | (claimed, .error e) =>
              ⟨claimed, [.verifyGrant g requested true, .claimGrant g requested false],
                .error (.binding e)⟩
            | (claimed, .ok ()) =>
              ⟨claimed, [.verifyGrant g requested true, .claimGrant g requested true],
                .ok (g, capabilities)⟩

def emitted (x : DefaultToolExecutor ω) (e : BehavioralEvent) : List (ExecutorCall ω) :=
  match x.telemetryEmitter with
  | none => []
  | some emit => [.emit e (emit e)]

def recordTerminal (x : DefaultToolExecutor ω) (l : Launch) (o : TerminalOutcome) :
    List (ExecutorCall ω) × Option ExecutionEvidenceIntegrityError :=
  match x.evidenceStore with
  | none => ([], none)
  | some store =>
    if store.recordTerminal l.receiptId o then ([.recordTerminal l.receiptId o true], none)
    else
      (.recordTerminal l.receiptId o false ::
        x.emitted (l.event .executionEvidenceFailed none (some "EVIDENCE_INTEGRITY_FAILURE")),
        some ⟨l.tool.toolId, l.receiptId⟩)

def raisedOutcome (t : ExecutorTick) (e : RaisedException) : TerminalOutcome :=
  { status := e.classify.1
    completedAt := t.completedAt
    durationMs := t.elapsedMs
    errorType := some e.typeName
    errorCode := some e.classify.2 }

def raisedError (l : Launch) (e : RaisedException)
    (failure : Option ExecutionEvidenceIntegrityError) : ExecutorError :=
  if e.isToolError then .reraised { e with evidenceFailure := failure.or e.evidenceFailure }
  else
    .execution
      { toolId := l.tool.toolId
        message := e.message
        cause := some e
        evidenceFailure := failure }

def concludeRaised (x : DefaultToolExecutor ω) (t : ExecutorTick) (l : Launch)
    (e : RaisedException) : List (ExecutorCall ω) × Except ExecutorError (Option ω) :=
  let (recorded, failure) := x.recordTerminal l (raisedOutcome t e)
  (recorded ++ x.emitted (l.event .executionFailed (some t.elapsedMs) (some e.classify.2)),
    .error (raisedError l e failure))

def durationOf (t : ExecutorTick) (r : SandboxExecutionResult ω) : Int :=
  if r.durationMs = 0 then t.elapsedMs else r.durationMs

def successOutcome (x : DefaultToolExecutor ω) (t : ExecutorTick) (r : SandboxExecutionResult ω) :
    TerminalOutcome :=
  { status := .succeeded
    completedAt := t.completedAt
    durationMs := durationOf t r
    outputDigest := (nonEmpty r.outputDigest).or (r.output.bind x.computeOutputDigest) }

def errorTypeOf (r : SandboxExecutionResult ω) : String :=
  (nonEmpty r.errorType).getD "ToolExecutionError"

def failureOutcome (t : ExecutorTick) (r : SandboxExecutionResult ω) : TerminalOutcome :=
  { status := (classifyErrorType (errorTypeOf r)).1
    completedAt := t.completedAt
    durationMs := durationOf t r
    errorType := some (errorTypeOf r)
    errorCode := some (classifyErrorType (errorTypeOf r)).2 }

def failureError (l : Launch) (r : SandboxExecutionResult ω)
    (failure : Option ExecutionEvidenceIntegrityError) : ExecutorError :=
  .execution
    { toolId := l.tool.toolId
      message := (nonEmpty r.errorMessage).getD "Tool execution failed in sandbox"
      evidenceFailure := failure }

def concludeReturned (x : DefaultToolExecutor ω) (t : ExecutorTick) (l : Launch)
    (r : SandboxExecutionResult ω) : List (ExecutorCall ω) × Except ExecutorError (Option ω) :=
  if r.success then
    match x.recordTerminal l (x.successOutcome t r) with
    | (recorded, some failure) => (recorded, .error (.evidenceIntegrity failure))
    | (recorded, none) =>
      (recorded ++ x.emitted (l.event .executionCompleted (some (durationOf t r)) none),
        .ok r.output)
  else
    let (recorded, failure) := x.recordTerminal l (failureOutcome t r)
    (recorded ++ x.emitted (l.event .executionFailed (some (durationOf t r))
        (some (classifyErrorType (errorTypeOf r)).2)),
      .error (failureError l r failure))

-- the assertion that a sandbox is configured stands inside the guarded block
def dispatch (x : DefaultToolExecutor ω) (q : SandboxRequest) :
    List (ExecutorCall ω) × SandboxOutcome ω :=
  match x.sandbox with
  | none => ([], .raised { typeName := "AssertionError" })
  | some sandbox => ([.sandboxExecute q (sandbox q)], sandbox q)

def conclude (x : DefaultToolExecutor ω) (t : ExecutorTick) (l : Launch) :
    SandboxOutcome ω → List (ExecutorCall ω) × Except ExecutorError (Option ω)
  | .raised e => x.concludeRaised t l e
  | .returned r => x.concludeReturned t l r

def startedRecord (x : DefaultToolExecutor ω) (t : ExecutorTick) (l : Launch)
    (capabilities : ExecutionCapabilities) (implementationId : String) : StartedRecord :=
  { receiptId := l.receiptId
    grantId := l.grant.grantId
    sessionId := l.grant.sessionId
    agentId := l.grant.agentId
    requestId := l.requestId
    toolId := l.tool.toolId
    toolVersion := l.grant.binding.toolVersion
    implementationId
    bindingHash := x.sha256 l.grant.binding.canonicalJson
    capabilityProfileId := l.grant.capabilityProfileId
    capabilityDigest := l.grant.capabilityDigest
    declaredTimeoutSeconds := capabilities.resources.wallClockTimeoutSeconds
    startedAt := t.startedAt
    monotonicStart := t.monotonicStart }

def recordStarted (x : DefaultToolExecutor ω) (l : Launch) (s : StartedRecord) :
    List (ExecutorCall ω) × Option ExecutorError :=
  match x.evidenceStore with
  | none => ([], none)
  | some store =>
    if store.recordStarted s then ([.recordStarted s true], none)
    else
      (.recordStarted s false ::
        x.emitted (l.event .executionEvidenceFailed none (some "EVIDENCE_UNAVAILABLE")),
        some (.evidenceUnavailable l.tool.toolId l.receiptId))

def launch (x : DefaultToolExecutor ω) (t : ExecutorTick) (l : Launch) (parameters : Parameters)
    (capabilities : ExecutionCapabilities) (provenance : ExecutionProvenance)
    (implementationId : String) : List (ExecutorCall ω) × Except ExecutorError (Option ω) :=
  match x.recordStarted l (x.startedRecord t l capabilities implementationId) with
  | (recorded, some e) => (recorded, .error e)
  | (recorded, none) =>
    let (invoked, outcome) := x.dispatch
      { tool := l.tool
        parameters
        capabilities
        provenance
        implementationId
        toolVersion := l.grant.binding.toolVersion }
    let (concluded, result) := x.conclude t l outcome
    (recorded ++ x.emitted (l.event .executionStarted none none) ++ invoked ++ concluded, result)

def run (x : DefaultToolExecutor ω) (t : ExecutorTick) (tool : BaseTool) (parameters : Parameters)
    (capabilities : ExecutionCapabilities) (grant : RuntimeExecutionGrant)
    (context : Option RuntimeContext) (implementationId : Option String) :
    List (ExecutorCall ω) × Except ExecutorError (Option ω) :=
  match nonEmpty implementationId with
  | none =>
    ([], .error (.binding ⟨.noAuthority, some tool.toolId,
      "no implementation is declared for this tool, so the execution has no concrete identity " ++
        "to record or run"⟩))
  | some implementation =>
    match ExecutionProvenance.fromGrant grant (requestIdOf t context) implementation with
    | none => ([], .error .provenance)
    | some provenance =>
      x.launch t
        { tool
          grant
          requestId := requestIdOf t context
          receiptId := "rcpt-" ++ t.receiptUuid }
        parameters capabilities provenance implementation

def executeResolved (x : DefaultToolExecutor ω) (t : ExecutorTick) (a : ExecutionAuthority)
    (descriptor : ExecutableDescriptor) (parameters : Parameters)
    (context : Option RuntimeContext) (grant : Option RuntimeExecutionGrant) : Attempt ω :=
  if !descriptor.enabled then ⟨a, [], .error (.toolDisabled descriptor.toolId)⟩
  else
    let p := x.verifyAndPrepare t a descriptor.toolId descriptor.version parameters grant context
    match p.result with
    | .error e => ⟨p.authority, p.calls, .error e⟩
    | .ok (g, capabilities) =>
      match instantiate descriptor with
      | .error e => ⟨p.authority, p.calls, .error e⟩
      | .ok tool =>
        let (ran, result) :=
          x.run t tool parameters capabilities g context descriptor.implementationId
        ⟨p.authority, p.calls ++ ran, result⟩

def executeTool (x : DefaultToolExecutor ω) (t : ExecutorTick) (a : ExecutionAuthority)
    (tool : BaseTool) (parameters : Parameters) (context : Option RuntimeContext)
    (grant : Option RuntimeExecutionGrant) (implementationId : Option String) : Attempt ω :=
  let p := x.verifyAndPrepare t a tool.toolId tool.version parameters grant context
  match p.result with
  | .error e => ⟨p.authority, p.calls, .error e⟩
  | .ok (g, capabilities) =>
    let (ran, result) := x.run t tool parameters capabilities g context implementationId
    ⟨p.authority, p.calls ++ ran, result⟩

def execute (x : DefaultToolExecutor ω) (t : ExecutorTick) (a : ExecutionAuthority)
    (grant : Option RuntimeExecutionGrant) (parameters : Parameters)
    (context : Option RuntimeContext) : Attempt ω :=
  match grant with
  | none => ⟨a, [], .error (.binding ⟨.missingGrant, some "", ""⟩)⟩
  | some g =>
    match x.toolRegistry with
    | none =>
      ⟨a, [], .error (.binding ⟨.noAuthority, some g.binding.toolId,
        "executor is not bound to a tool registry and cannot materialise the implementation " ++
          "this grant authorises"⟩)⟩
    | some registry =>
      match registry.resolveVersion g.binding.toolId g.binding.toolVersion with
      | .error e => ⟨a, [], .error (.registry e)⟩
      | .ok descriptor => x.executeResolved t a descriptor parameters context (some g)

def serve (x : DefaultToolExecutor ω) (t : ExecutorTick) (a : ExecutionAuthority) :
    ExecutorRequest → Attempt ω
  | .execute grant parameters context => x.execute t a grant parameters context
  | .executeDescriptor descriptor parameters context grant =>
    x.executeResolved t a descriptor parameters context grant
  | .executeTool tool parameters context grant implementationId =>
    x.executeTool t a tool parameters context grant implementationId

end DefaultToolExecutor

end AgentSecurityPlatform
