import AgentSecurityPlatform.Evidence.Findings

namespace AgentSecurityPlatform

def severityWeights : Severity → Nat
  | .low => 10
  | .medium => 25
  | .high => 50
  | .critical => 100

def scoreFindings (findings : List Finding) : Nat :=
  (findings.map (fun f => severityWeights f.severity)).sum

def levelForScore (riskScore : Nat) : RiskLevel :=
  if riskScore ≥ 100 then .critical
  else if riskScore ≥ 50 then .high
  else if riskScore ≥ 25 then .medium
  else .low

def defaultRuleVocabulary : List String :=
  ["PROMPT_INJECTION", "SENSITIVE_FILE_ACCESS", "DATA_EXFILTRATION", "EXCESSIVE_DENIALS"]

def activeStatuses : List FindingStatus := [.opened, .acknowledged]

inductive PostureState where
  | uninitialized
  | healthy
  | stale
  deriving DecidableEq, Repr

structure SeverityCounts where
  low : Nat := 0
  medium : Nat := 0
  high : Nat := 0
  critical : Nat := 0
  deriving DecidableEq, Repr

namespace SeverityCounts

def bump (c : SeverityCounts) : Severity → SeverityCounts
  | .low => { c with low := c.low + 1 }
  | .medium => { c with medium := c.medium + 1 }
  | .high => { c with high := c.high + 1 }
  | .critical => { c with critical := c.critical + 1 }

def score (c : SeverityCounts) : Nat :=
  c.low * severityWeights .low + c.medium * severityWeights .medium +
    c.high * severityWeights .high + c.critical * severityWeights .critical

theorem score_bump (c : SeverityCounts) (s : Severity) :
    (c.bump s).score = c.score + severityWeights s := by
  cases s <;> simp only [bump, score, severityWeights] <;> omega

end SeverityCounts

structure AgentRiskPosture where
  agentId : String
  state : PostureState
  riskScore : Nat
  riskLevel : RiskLevel
  findingCount : Nat
  baselineAt : Option Instant
  baselineEvidenceSequence : Nat
  lastAppliedSequence : Nat
  countsBySeverity : SeverityCounts
  countsByRule : Dict String Nat
  postureVersion : Nat
  assessedAt : Instant
  deriving DecidableEq

structure AgentRiskAggregate where
  agentId : String
  baselineAt : Option Instant
  baselineEvidenceSequence : Nat
  lastAppliedSequence : Nat
  ruleVocabulary : List String
  countsBySeverity : SeverityCounts
  countsByRule : Dict String Nat
  findingCount : Nat
  riskScore : Nat
  riskLevel : RiskLevel
  state : PostureState
  postureVersion : Nat
  assessedAt : Instant
  deriving DecidableEq

inductive ProjectionError where
  | agentMismatch
  | unassignedFinding
  | projectionInvariant
  deriving DecidableEq, Repr

namespace AgentRiskAggregate

def create (watermark : BaselineWatermark) (ruleVocabulary : List String) (now : Instant) :
    AgentRiskAggregate :=
  { agentId := watermark.agentId
    baselineAt := watermark.baselineAt
    baselineEvidenceSequence := watermark.baselineEvidenceSequence
    lastAppliedSequence := watermark.baselineEvidenceSequence
    ruleVocabulary
    countsBySeverity := {}
    countsByRule := .empty
    findingCount := 0
    riskScore := 0
    riskLevel := .low
    state := .healthy
    postureVersion := 1
    assessedAt := watermark.baselineAt.getD now }

def cursorInvariant (p : AgentRiskAggregate) : Bool :=
  p.baselineEvidenceSequence ≤ p.lastAppliedSequence

def recalculateScoreAndLevel (p : AgentRiskAggregate) : AgentRiskAggregate :=
  { p with
    riskScore := p.countsBySeverity.score
    riskLevel := levelForScore p.countsBySeverity.score }

def contribute (p : AgentRiskAggregate) (f : Finding) : AgentRiskAggregate :=
  if f.status ∈ activeStatuses then
    { p with
      countsBySeverity := p.countsBySeverity.bump f.severity
      countsByRule :=
        if f.ruleId ≠ "" ∧ f.ruleId ∈ p.ruleVocabulary then
          p.countsByRule.set f.ruleId (p.countsByRule.getD f.ruleId 0 + 1)
        else p.countsByRule
      findingCount := p.findingCount + 1 }
  else p

def goStale (p : AgentRiskAggregate) (now : Instant) : AgentRiskAggregate :=
  { p with state := .stale, assessedAt := now }

def applyFinding (p : AgentRiskAggregate) (now : Instant) (f : Finding) :
    AgentRiskAggregate × Except ProjectionError Bool :=
  if f.agentId ≠ p.agentId then (p, .error .agentMismatch)
  else if f.evidenceSequence ≤ unassignedSequence then (p, .error .unassignedFinding)
  else if f.evidenceSequence ≤ p.baselineEvidenceSequence then (p, .ok false)
  else if f.evidenceSequence ≤ p.lastAppliedSequence then (p, .ok false)
  else if p.baselineAt.any (fun b => f.observedAt ≤ b) then (p.goStale now, .ok false)
  else if f.evidenceSequence > p.lastAppliedSequence + 1 then (p.goStale now, .ok false)
  else
    let q := { p with lastAppliedSequence := f.evidenceSequence }
    if !q.cursorInvariant then (q, .error .projectionInvariant)
    else
      let r := if f.status ∈ activeStatuses then (q.contribute f).recalculateScoreAndLevel else q
      ({ r with postureVersion := r.postureVersion + 1, assessedAt := now }, .ok true)

def postBaseline (agentId : String) (watermark : BaselineWatermark) (f : Finding) : Bool :=
  f.agentId = agentId && watermark.baselineEvidenceSequence < f.evidenceSequence &&
    !watermark.baselineAt.any (fun b => f.observedAt ≤ b)

def cursorOf (watermark : BaselineWatermark) (postBaseline : List Finding) : Nat :=
  if postBaseline = [] then watermark.baselineEvidenceSequence
  else (postBaseline.map (·.evidenceSequence)).foldl max 0

def rebuildFromFindings (p : AgentRiskAggregate) (now : Instant) (findings : List Finding)
    (watermark : BaselineWatermark) : AgentRiskAggregate × Except ProjectionError Unit :=
  let post := findings.filter (postBaseline p.agentId watermark)
  let cleared : AgentRiskAggregate :=
    { p with
      baselineAt := watermark.baselineAt
      baselineEvidenceSequence := watermark.baselineEvidenceSequence
      countsBySeverity := {}
      countsByRule := .empty
      findingCount := 0
      lastAppliedSequence := cursorOf watermark post }
  let counted := (post.foldl contribute cleared).recalculateScoreAndLevel
  let q := { counted with
    state := .healthy
    postureVersion := counted.postureVersion + 1
    assessedAt := now }
  (q, if q.cursorInvariant then .ok () else .error .projectionInvariant)

def resetToBaseline (p : AgentRiskAggregate) (now : Instant) (watermark : BaselineWatermark) :
    AgentRiskAggregate × Except ProjectionError Unit :=
  let q := { p with
    baselineAt := watermark.baselineAt
    baselineEvidenceSequence := watermark.baselineEvidenceSequence
    lastAppliedSequence := watermark.baselineEvidenceSequence
    countsBySeverity := {}
    countsByRule := .empty
    findingCount := 0
    riskScore := 0
    riskLevel := .low
    state := .healthy
    postureVersion := p.postureVersion + 1
    assessedAt := watermark.baselineAt.getD now }
  (q, if q.cursorInvariant then .ok () else .error .projectionInvariant)

def markStale (p : AgentRiskAggregate) (now : Instant) : AgentRiskAggregate :=
  { p with state := .stale, assessedAt := now, postureVersion := p.postureVersion + 1 }

def snapshot (p : AgentRiskAggregate) : Except ProjectionError AgentRiskPosture :=
  if !p.cursorInvariant then .error .projectionInvariant
  else .ok
    { agentId := p.agentId
      state := p.state
      riskScore := p.riskScore
      riskLevel := p.riskLevel
      findingCount := p.findingCount
      baselineAt := p.baselineAt
      baselineEvidenceSequence := p.baselineEvidenceSequence
      lastAppliedSequence := p.lastAppliedSequence
      countsBySeverity := p.countsBySeverity
      countsByRule := p.countsByRule
      postureVersion := p.postureVersion
      assessedAt := p.assessedAt }

end AgentRiskAggregate

structure RiskAggregator where
  projections : Dict String AgentRiskAggregate
  ruleVocabulary : List String := defaultRuleVocabulary

namespace RiskAggregator

def uninitializedPosture (agentId : String) (now : Instant) : AgentRiskPosture :=
  { agentId
    state := .uninitialized
    riskScore := 0
    riskLevel := .low
    findingCount := 0
    baselineAt := none
    baselineEvidenceSequence := 0
    lastAppliedSequence := 0
    countsBySeverity := {}
    countsByRule := .empty
    postureVersion := 1
    assessedAt := now }

def getPosture (a : RiskAggregator) (now : Instant) (agentId : String) :
    Except ProjectionError AgentRiskPosture :=
  match a.projections.get? agentId with
  | none => .ok (uninitializedPosture agentId now)
  | some p => p.snapshot

def put (a : RiskAggregator) (agentId : String) (p : AgentRiskAggregate) : RiskAggregator :=
  { a with projections := a.projections.set agentId p }

def ingestFinding (a : RiskAggregator) (now : Instant) (f : Finding) :
    RiskAggregator × Except ProjectionError Bool :=
  match a.projections.get? f.agentId with
  | none => (a, .ok false)
  | some p =>
    match p.applyFinding now f with
    | (p', .ok applied) => (a.put f.agentId p', .ok applied)
    | (p', .error e) => (a.put f.agentId (p'.markStale now), .error e)

def markStale (a : RiskAggregator) (now : Instant) (agentId : String) : RiskAggregator :=
  match a.projections.get? agentId with
  | none => a
  | some p => a.put agentId (p.markStale now)

def projectionOr (a : RiskAggregator) (agentId : String) (watermark : BaselineWatermark)
    (now : Instant) : AgentRiskAggregate :=
  (a.projections.get? agentId).getD (.create watermark a.ruleVocabulary now)

def settle (a : RiskAggregator) (agentId : String) :
    AgentRiskAggregate × Except ProjectionError Unit →
      RiskAggregator × Except ProjectionError AgentRiskPosture
  | (p, .ok ()) => (a.put agentId p, p.snapshot)
  | (p, .error e) => (a.put agentId p, .error e)

def reconcileAgent (a : RiskAggregator) (now : Instant) (agentId : String)
    (findings : List Finding) (watermark : BaselineWatermark) :
    RiskAggregator × Except ProjectionError AgentRiskPosture :=
  a.settle agentId
    ((a.projectionOr agentId watermark now).rebuildFromFindings now findings watermark)

def resetToBaseline (a : RiskAggregator) (now : Instant) (watermark : BaselineWatermark) :
    RiskAggregator × Except ProjectionError AgentRiskPosture :=
  a.settle watermark.agentId
    ((a.projectionOr watermark.agentId watermark now).resetToBaseline now watermark)

end RiskAggregator

end AgentSecurityPlatform
