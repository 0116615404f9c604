import AgentSecurityPlatform.Lifecycle.Enforcement

namespace AgentSecurityPlatform

def unassignedSequence : Nat := 0

inductive Severity where
  | low
  | medium
  | high
  | critical
  deriving DecidableEq, Repr

inductive FindingCategory where
  | promptInjection
  | dataExfiltration
  | privilegeEscalation
  | unauthorizedTool
  | sensitiveFileAccess
  | browserAbuse
  | secretLeakage
  | multiStepAttack
  | unknown
  deriving DecidableEq, Repr

inductive FindingStatus where
  | opened
  | acknowledged
  | resolved
  | falsePositive
  deriving DecidableEq, Repr

structure Finding where
  findingId : String
  sessionId : String
  agentId : String
  ruleId : String
  ruleName : String
  severity : Severity
  category : FindingCategory := .unknown
  status : FindingStatus := .opened
  description : String
  createdAt : Instant
  recordedAt : Option Instant := none
  evidenceEventSequences : List Nat := []
  recoveryGeneration : Nat := 0
  evidenceSequence : Nat := unassignedSequence
  deriving DecidableEq, Repr

def Finding.observedAt (f : Finding) : Instant := f.recordedAt.getD f.createdAt

structure FindingFilter where
  sessionId : Option String := none
  agentId : Option String := none
  severity : Option Severity := none
  category : Option FindingCategory := none
  status : Option FindingStatus := none
  ruleId : Option String := none
  recordedAfter : Option Instant := none

structure FindingsService where
  findings : Dict String Finding
  recordedAt : Dict String Instant
  agentSequences : Dict String Nat

namespace FindingsService

def empty : FindingsService := ⟨.empty, .empty, .empty⟩

def getAgentSequence (s : FindingsService) (agentId : String) : Nat :=
  s.agentSequences.getD agentId 0

def nextSequenceForAgent (s : FindingsService) (agentId : String) : FindingsService × Nat :=
  let seq := s.getAgentSequence agentId + 1
  ({ s with agentSequences := s.agentSequences.set agentId seq }, seq)

def recordFindingLocked (s : FindingsService) (finding : Finding) (now : Instant) :
    FindingsService × Finding :=
  match s.findings.get? finding.findingId with
  | some existing =>
    let (s', assignedSeq) :=
      if existing.evidenceSequence > unassignedSequence then (s, existing.evidenceSequence)
      else s.nextSequenceForAgent finding.agentId
    let recAt := s'.recordedAt.getD existing.findingId now
    let assigned := { finding with evidenceSequence := assignedSeq, recordedAt := some recAt }
    ({ s' with
        findings := s'.findings.set assigned.findingId assigned
        recordedAt :=
          if s'.recordedAt.contains assigned.findingId then s'.recordedAt
          else s'.recordedAt.set assigned.findingId now }, assigned)
  | none =>
    let (s', assignedSeq) := s.nextSequenceForAgent finding.agentId
    let assigned := { finding with evidenceSequence := assignedSeq, recordedAt := some now }
    ({ s' with
        findings := s'.findings.set assigned.findingId assigned
        recordedAt := s'.recordedAt.set assigned.findingId now }, assigned)

def recordFindings (s : FindingsService) (now : Instant) :
    List Finding → FindingsService × List Finding
  | [] => (s, [])
  | f :: fs =>
    let (s', assigned) := s.recordFindingLocked f now
    let (s'', rest) := s'.recordFindings now fs
    (s'', assigned :: rest)

def recordNewFindings (s : FindingsService) (now : Instant) :
    List Finding → FindingsService × List Finding
  | [] => (s, [])
  | f :: fs =>
    if s.findings.contains f.findingId then s.recordNewFindings now fs
    else
      let (s', assigned) := s.recordFindingLocked f now
      let (s'', rest) := s'.recordNewFindings now fs
      (s'', assigned :: rest)

def matchesFilter (s : FindingsService) (q : FindingFilter) (f : Finding) : Bool :=
  q.recordedAfter.all (fun t => (s.recordedAt.get? f.findingId).any (fun r => t < r)) &&
  q.sessionId.all (fun v => f.sessionId = v) &&
  q.agentId.all (fun v => f.agentId = v) &&
  q.severity.all (fun v => f.severity = v) &&
  q.category.all (fun v => f.category = v) &&
  q.status.all (fun v => f.status = v) &&
  q.ruleId.all (fun v => f.ruleId = v)

def listFindings (s : FindingsService) (q : FindingFilter) : List Finding :=
  s.findings.values.filter (s.matchesFilter q)

def captureEvidenceBaselineSequence (s : FindingsService) (agentId : String)
    (baselineAt : Instant) : Nat :=
  (((s.findings.values.filter (fun f => f.agentId = agentId)).filter
    (fun f => s.recordedAt.getD f.findingId baselineAt ≤ baselineAt)).map
      (·.evidenceSequence)).foldl max 0

def ofAgent (s : FindingsService) (agentId : String) : List Finding :=
  s.findings.values.filter (fun f => f.agentId = agentId)

theorem listFindings_agent (s : FindingsService) (agentId : String) :
    s.listFindings { agentId := some agentId } = s.ofAgent agentId := by
  unfold listFindings ofAgent
  congr 1
  funext f
  simp [matchesFilter]

end FindingsService

end AgentSecurityPlatform
