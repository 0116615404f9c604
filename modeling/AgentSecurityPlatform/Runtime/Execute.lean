import AgentSecurityPlatform.Runtime.Request
import AgentSecurityPlatform.Runtime.World

namespace AgentSecurityPlatform

structure Reading where
  wall : Instant
  mono : Instant
  uuid : String
  deriving DecidableEq, Repr

structure Tick extends Reading where
  horizonFault : Bool := false
  evidenceFault : Option Nat := none
  deriving DecidableEq, Repr

inductive RefusalReason where
  | sessionBindingInvalid
  | postureReconciliationFailed
  | horizonUnavailable
  | evidenceRecordingFailed
  deriving DecidableEq, Repr

def RefusalReason.value : RefusalReason → String
  | .sessionBindingInvalid => "SESSION_BINDING_INVALID"
  | .postureReconciliationFailed => "POSTURE_RECONCILIATION_FAILED"
  | .horizonUnavailable => "HORIZON_UNAVAILABLE"
  | .evidenceRecordingFailed => "EVIDENCE_RECORDING_FAILED"

inductive ResponseType where
  | monitor
  | alert
  | requireApproval
  | suspendAgent
  deriving DecidableEq, Repr

def ResponseType.phrase : ResponseType → String
  | .monitor => "monitor"
  | .alert => "alert"
  | .requireApproval => "require approval"
  | .suspendAgent => "suspend agent"

def responseTypes : RiskLevel → ResponseType
  | .low => .monitor
  | .medium => .alert
  | .high => .requireApproval
  | .critical => .suspendAgent

structure ResponseAction where
  sessionId : String
  agentId : String
  riskLevel : RiskLevel
  responseType : ResponseType
  reason : String
  createdAt : Instant
  deriving DecidableEq, Repr

def recommendForLevel (now : Instant) (level : RiskLevel) (sessionId agentId : String) :
    ResponseAction :=
  { sessionId
    agentId
    riskLevel := level
    responseType := responseTypes level
    reason := level.value ++ " risk requires " ++ (responseTypes level).phrase
    createdAt := now }

structure RiskAssessment where
  sessionId : String
  agentId : String
  riskScore : Nat
  riskLevel : RiskLevel
  findingCount : Nat
  assessedAt : Instant
  deriving DecidableEq, Repr

def latestObserved (now : Instant) : List Finding → Instant
  | [] => now
  | f :: fs => fs.foldl (fun t g => max t g.observedAt) f.observedAt

def assessSession (now : Instant) (sessionId agentId : String) (findings : List Finding) :
    Option RiskAssessment :=
  if findings.all (fun f => f.sessionId = sessionId && f.agentId = agentId) then
    some
      { sessionId
        agentId
        riskScore := scoreFindings findings
        riskLevel := levelForScore (scoreFindings findings)
        findingCount := findings.length
        assessedAt := latestObserved now findings }
  else none

structure RuntimeResult where
  event : SessionEvent
  findings : List Finding
  riskAssessment : Option RiskAssessment := none
  enforcementPosture : Option AgentRiskPosture := none
  responseAction : Option ResponseAction := none
  refusalReason : Option RefusalReason := none
  authorization : Option RuntimeExecutionGrant := none
  authorizationResult : Option AuthorizationResult := none
  auditEventId : String
  deriving DecidableEq

inductive RuntimeError where
  | session (e : SessionError)
  | issue (e : IssueError)
  | agent (e : AgentServiceError)
  | validation
  deriving DecidableEq, Repr

structure Authorized extends Prepared where
  authorizationResult : Option AuthorizationResult
  deriving DecidableEq

namespace Authorized

def decision (s : Authorized) : Decision :=
  match s.authorizationResult with
  | none => .deny
  | some r => r.decision

def resolvedToolId (s : Authorized) : Option String :=
  if s.toolVersion.isSome ∨ s.authorizationResult.any (fun r => r.toolCheck.status = .passed) then
    some s.request.toolId
  else none

end Authorized

structure Captured extends Authorized where
  enforcement : Option AgentEnforcementState
  deriving DecidableEq

namespace Captured

def contextEpoch (s : Captured) : Nat := (s.enforcement.map (·.epoch)).getD 0

def baselineAgentSequence (s : Captured) : Nat :=
  (s.enforcement.map (·.baselineAgentSequence)).getD 0

def recoveryGeneration (s : Captured) : Nat :=
  (s.enforcement.map (·.recoveryGeneration)).getD 0

end Captured

structure Recorded extends Captured where
  event : SessionEvent
  deriving DecidableEq

def Recorded.horizonQuery (s : Recorded) (windowSeconds : Instant) : HorizonQuery :=
  { agentId := s.request.agentId
    scope := .agent
    sessionId := none
    windowSeconds
    evaluationTime := s.event.timestamp
    baselineAgentSequence := s.baselineAgentSequence }

structure Observed extends Recorded where
  contentFindings : List Finding
  eligibleEvents : List SessionEvent
  deriving DecidableEq

structure Detected extends Recorded where
  batch : List Finding
  deriving DecidableEq

structure Accepted extends Recorded where
  findings : List Finding
  deriving DecidableEq

structure Rated extends Accepted where
  riskAssessment : RiskAssessment
  deriving DecidableEq

structure Assessed extends Rated where
  posture : AgentRiskPosture
  deriving DecidableEq

structure Decided extends Assessed where
  response : ResponseAction
  finalDecision : Decision
  authorization : Option RuntimeExecutionGrant
  deriving DecidableEq

inductive ExecuteThread where
  | start (r : ExecuteRequest)
  | bound (s : Prepared)
  | bindingRefused (s : Prepared)
  | authorized (s : Authorized)
  | captured (s : Captured)
  | recorded (s : Recorded)
  | observed (s : Observed)
  | detected (s : Detected)
  | accepted (s : Accepted)
  | rated (s : Rated)
  | assessed (s : Assessed)
  | decided (s : Decided)
  | finalized (s : Decided)
  | withdrawn (s : Decided)
  | contained (s : Decided)
  | refusing (s : Recorded) (reason : RefusalReason) (findings : List Finding)
  | refused (s : Recorded) (reason : RefusalReason) (findings : List Finding)
  | returned (r : RuntimeResult)
  | raised (e : RuntimeError)

def ExecuteThread.finished : ExecuteThread → Bool
  | .returned _ => true
  | .raised _ => true
  | _ => false

def ExecuteThread.result : ExecuteThread → Option RuntimeResult
  | .returned result => some result
  | _ => none

theorem ExecuteThread.eq_returned {e : ExecuteThread} {result : RuntimeResult}
    (h : e.result = some result) : e = .returned result := by
  cases e with
  | returned r =>
    cases h
    rfl
  | _ => cases h

def escalate (decision : Decision) (response : ResponseType) : Decision :=
  match decision, response with
  | .allow, .suspendAgent => .deny
  | .allow, .requireApproval => .approvalRequired
  | d, _ => d

def withhold : Decision → Decision
  | .allow => .deny
  | d => d

def suspensionReason : String := "Runtime enforcement: risk posture requires suspension"

def FindingsService.recordNewUntil (s : FindingsService) (now : Instant) :
    Nat → List Finding → FindingsService × Option (List Finding)
  | _, [] => (s, some [])
  | k, f :: fs =>
    if s.findings.contains f.findingId then s.recordNewUntil now k fs
    else
      match k with
      | 0 => ((s.nextSequenceForAgent f.agentId).1, none)
      | k + 1 =>
        let (s', assigned) := s.recordFindingLocked f now
        let (s'', rest) := s'.recordNewUntil now k fs
        (s'', rest.map (assigned :: ·))

namespace World

def enforcementReader (w : World) : EnforcementReader :=
  fun agentId => .ok (w.agents.enforcement.getState agentId)

def bindSession (d : Deployment) (t : Tick) (w : World) (r : ExecuteRequest) :
    World × ExecuteThread :=
  match SessionService.bindOrValidate w.sessions r.sessionId r.agentId t.wall with
  | (sessions, .ok _) => ({ w with sessions }, .bound (d.prepare r))
  | (sessions, .error e) =>
    ({ w with sessions },
      if e.isBindingError then .bindingRefused (d.prepare r) else .raised (.session e))

def authorize (d : Deployment) (w : World) (s : Prepared) : Authorized :=
  { s with
    authorizationResult :=
      if s.operationIsMalformed then none
      else some (AuthorizationService.evaluate w.agents d.tools s.request.agentId s.request.toolId
        s.resource) }

def capture (w : World) (s : Authorized) : Captured :=
  { s with enforcement := (w.agents.getEnforcementState s.request.agentId).toOption }

def recordEvent (d : Deployment) (t : Tick) (w : World) (s : Captured) : World × ExecuteThread :=
  match SessionService.recordEvent d.retention w.sessions
    { sessionId := s.request.sessionId
      agentId := s.request.agentId
      toolId := s.request.toolId
      toolVersion := s.toolVersion
      decision := s.decision
      timestamp := t.wall } with
  | (sessions, .ok event) => ({ w with sessions }, .recorded { s with event })
  | (sessions, .error e) => ({ w with sessions }, .raised (.session e))

def observe (d : Deployment) (t : Tick) (w : World) (s : Recorded) : ExecuteThread :=
  match DetectionContext.construct s.request.sessionId s.request.agentId s.request.userPrompt
    s.request.modelOutput s.request.toolOutput s.event.sequenceNumber (s.resource.getD "") with
  | none => .raised .validation
  | some context =>
    if t.horizonFault then .refusing s .horizonUnavailable []
    else .observed
      { s with
        contentFindings := detectionEngine d.rules d.hashing context
        eligibleEvents := w.sessions.listEligibleEvents (s.horizonQuery d.windowSeconds) }

def priorFindings (w : World) (r : ExecuteRequest) : List Finding :=
  w.findings.listFindings { sessionId := some r.sessionId, agentId := some r.agentId }

def detect (d : Deployment) (t : Tick) (w : World) (s : Observed) : Detected :=
  { s with
    batch := s.contentFindings ++ detectExcessiveDenials d.hashing d.windowSeconds t.wall
      s.eligibleEvents s.event.timestamp (w.priorFindings s.request) s.recoveryGeneration }

def acceptEvidence (t : Tick) (w : World) (s : Detected) : World × ExecuteThread :=
  match t.evidenceFault with
  | none =>
    let (w', findings) := w.acceptFindings t.wall s.request.agentId s.batch
    (w', .accepted { s with findings })
  | some k =>
    match w.findings.recordNewUntil t.wall k s.batch with
    | (stored, some findings) =>
      ({ w with
          findings := stored
          aggregator := ingestAll w.aggregator t.wall s.request.agentId findings },
        .accepted { s with findings })
    | (stored, none) =>
      ({ w with findings := stored }, .refusing s.toRecorded .evidenceRecordingFailed [])

def rate (t : Tick) (w : World) (s : Accepted) : ExecuteThread :=
  match assessSession t.wall s.request.sessionId s.request.agentId (w.priorFindings s.request) with
  | none => .raised .validation
  | some riskAssessment => .rated { s with riskAssessment }

def assess (t : Tick) (w : World) (s : Rated) : World × ExecuteThread :=
  match w.assessAgentPosture t.wall s.request.agentId with
  | (w', none) => (w', .refusing s.toRecorded .postureReconciliationFailed s.findings)
  | (w', some posture) => (w', .assessed { s with posture })

def issueGrant (d : Deployment) (t : Tick) (w : World) (s : Assessed) (binding : ExecutionBinding)
    (decision : Decision) (profile digest : String) :
    ExecutionAuthority × Except IssueError (Option RuntimeExecutionGrant) :=
  w.authority.issue d.signing t.mono t.uuid (some w.enforcementReader) binding decision
    s.request.agentId s.request.sessionId (some s.contextEpoch) (some profile) (some digest)

def decide (d : Deployment) (t : Tick) (w : World) (s : Assessed) : World × ExecuteThread :=
  let response := recommendForLevel t.wall s.posture.riskLevel s.request.sessionId s.request.agentId
  let decision := escalate s.event.decision response.responseType
  match s.binding, d.capabilityBinding s.request.toolId with
  | some binding, some (profile, digest) =>
    match w.issueGrant d t s binding decision profile digest with
    | (authority, .error e) => ({ w with authority }, .raised (.issue e))
    | (authority, .ok (some grant)) =>
      ({ w with authority },
        .decided { s with response, finalDecision := decision, authorization := some grant })
    | (authority, .ok none) =>
      ({ w with authority },
        .decided { s with response, finalDecision := withhold decision, authorization := none })
  | _, _ =>
    (w, .decided { s with response, finalDecision := withhold decision, authorization := none })

def finalize (w : World) (s : Decided) : World × ExecuteThread :=
  match w.sessions.updateEventFinalDecision s.request.sessionId s.event.sequenceNumber
    s.finalDecision with
  | (sessions, .ok ()) =>
    ({ w with sessions },
      .finalized { s with event := { s.event with finalDecision := some s.finalDecision } })
  | (sessions, .error e) => ({ w with sessions }, .raised (.session e))

def withdraw (w : World) (agentId : String) : World :=
  { w with authority := (w.authority.suspendIssuance agentId).1 }

def suspensionTrigger (s : Decided) : EnforcementTrigger :=
  { sessionId := some s.request.sessionId
    riskLevel := some s.posture.riskLevel
    riskScore := some s.posture.riskScore
    findingIds := s.findings.map (·.findingId) }

def contain (t : Tick) (w : World) (s : Decided) : World × ExecuteThread :=
  match w.suspendAgent t.wall t.uuid s.request.agentId suspensionReason
    (some (suspensionTrigger s)) with
  | (w', .ok _) => (w', .contained s)
  | (w', .error (.agentNotFound _)) => (w', .contained s)
  | (w', .error e) => (w', .raised (.agent e))

def auditEventId (t : Tick) : String := "evt-" ++ t.uuid

def recordAudit (t : Tick) (w : World) (r : ExecuteRequest) (toolId toolVersion : Option String)
    (decision : Decision) : World :=
  { w with
    audit := w.audit ++
      [{ eventId := auditEventId t
         sessionId := r.sessionId
         agentId := r.agentId
         requestedToolId := r.toolId
         toolId
         toolVersion
         decision
         timestamp := t.wall }] }

def conclude (t : Tick) (w : World) (s : Decided) : World × ExecuteThread :=
  (w.recordAudit t s.request s.resolvedToolId s.toolVersion s.finalDecision,
    .returned
      { event := s.event
        findings := s.findings
        riskAssessment := some s.riskAssessment
        enforcementPosture := some s.posture
        responseAction := some s.response
        authorization := s.authorization
        authorizationResult := s.authorizationResult
        auditEventId := auditEventId t })

def refuseSessionBinding (t : Tick) (w : World) (s : Prepared) : World × ExecuteThread :=
  (w.recordAudit t s.request none none .deny,
    .returned
      { event :=
          { sessionId := s.request.sessionId
            agentId := s.request.agentId
            toolId := s.request.toolId
            decision := .deny
            finalDecision := some .deny
            timestamp := t.wall }
        findings := []
        refusalReason := some .sessionBindingInvalid
        auditEventId := auditEventId t })

def finalizeRefusedEvent (w : World) (s : Recorded) (reason : RefusalReason)
    (findings : List Finding) : World × ExecuteThread :=
  match w.sessions.updateEventFinalDecision s.request.sessionId s.event.sequenceNumber .deny with
  | (sessions, .ok ()) =>
    ({ w with sessions },
      .refused { s with event := { s.event with finalDecision := some .deny } } reason findings)
  | (sessions, .error e) => ({ w with sessions }, .raised (.session e))

def concludeRefusal (t : Tick) (w : World) (s : Recorded) (reason : RefusalReason)
    (findings : List Finding) : World × ExecuteThread :=
  (w.recordAudit t s.request s.resolvedToolId s.toolVersion .deny,
    .returned
      { event := s.event
        findings
        refusalReason := some reason
        auditEventId := auditEventId t })

def execute (d : Deployment) (t : Tick) (w : World) : ExecuteThread → Option (World × ExecuteThread)
  | .start r => some (w.bindSession d t r)
  | .bound s => some (w, .authorized (w.authorize d s))
  | .bindingRefused s => some (w.refuseSessionBinding t s)
  | .authorized s => some (w, .captured (w.capture s))
  | .captured s => some (w.recordEvent d t s)
  | .recorded s => some (w, w.observe d t s)
  | .observed s => some (w, .detected (w.detect d t s))
  | .detected s => some (w.acceptEvidence t s)
  | .accepted s => some (w, w.rate t s)
  | .rated s => some (w.assess t s)
  | .assessed s => some (w.decide d t s)
  | .decided s => some (w.finalize s)
  | .finalized s =>
    if s.response.responseType = .suspendAgent then
      some (w.withdraw s.request.agentId, .withdrawn s)
    else some (w.conclude t s)
  | .withdrawn s => some (w.contain t s)
  | .contained s => some (w.conclude t s)
  | .refusing s reason findings => some (w.finalizeRefusedEvent s reason findings)
  | .refused s reason findings => some (w.concludeRefusal t s reason findings)
  | .returned _ => none
  | .raised _ => none

theorem execute_finished {d : Deployment} {t : Tick} {w : World} {e : ExecuteThread}
    (he : e.finished = true) : w.execute d t e = none := by
  cases e with
  | returned r => rfl
  | raised e => rfl
  | _ => cases he

-- one request served on its own: the thread is stepped until it finishes or the ticks run out
def alone (d : Deployment) : List Tick → World → ExecuteThread → World × ExecuteThread
  | [], w, e => (w, e)
  | t :: ts, w, e =>
    match w.execute d t e with
    | none => (w, e)
    | some (w', e') => alone d ts w' e'

def callLength : Nat := 14

def call (d : Deployment) (ts : Fin callLength → Tick) (w : World) (r : ExecuteRequest) :
    World × ExecuteThread :=
  alone d (List.ofFn ts) w (.start r)

end World

end AgentSecurityPlatform
