import AgentSecurityPlatform.Detection.Rules
import AgentSecurityPlatform.Session.Repository

namespace AgentSecurityPlatform

def excessiveDenialThreshold : Nat := 3

def defaultExcessiveDenialsWindowSeconds : Instant := 1800 * 1000000

def excessiveDenialsRuleName : String := "EXCESSIVE_DENIALS"

def sessionFindingNamespace (h : Hashing) : String :=
  h.uuid5 namespaceUrl "https://enterprise-agent-security-platform/findings/session"

def sessionFindingId (h : Hashing) (ruleName sessionId agentId : String) (threshold : Nat)
    (evidenceSequences : List Nat) (recoveryGeneration : Nat) : String :=
  h.uuid5 (sessionFindingNamespace h) (occurrenceId ruleName sessionId agentId
    [toString threshold, String.intercalate "," (evidenceSequences.map toString),
      toString recoveryGeneration])

def samePriorCrossing (agentId : String) (recoveryGeneration : Nat) (inWindow : List Nat)
    (prior : Finding) : Bool :=
  prior.ruleName = excessiveDenialsRuleName && prior.agentId = agentId &&
    prior.recoveryGeneration = recoveryGeneration && prior.evidenceEventSequences ≠ [] &&
    prior.evidenceEventSequences.any (· ∈ inWindow)

def crossingEvidence (denials : List SessionEvent) (priorFindings : List Finding)
    (agentId : String) (recoveryGeneration : Nat) : List Nat :=
  let useAgentSeq := denials.any (fun e => 0 < e.agentSequence)
  let inWindow :=
    if useAgentSeq then (denials.filter (fun e => 0 < e.agentSequence)).map (·.agentSequence)
    else denials.map (·.sequenceNumber)
  match priorFindings.find? (samePriorCrossing agentId recoveryGeneration inWindow) with
  | some prior => prior.evidenceEventSequences
  | none =>
    if useAgentSeq then
      ((denials.insertionSort (fun d e => d.agentSequence ≤ e.agentSequence)).take
        excessiveDenialThreshold).map (·.agentSequence)
    else
      ((denials.insertionSort (fun d e => d.timestamp < e.timestamp ∨
        (d.timestamp = e.timestamp ∧ d.sequenceNumber ≤ e.sequenceNumber))).take
          excessiveDenialThreshold).map (·.sequenceNumber)

def denialFinding (h : Hashing) (now : Instant) (priorFindings : List Finding)
    (recoveryGeneration : Nat) (agentId : String) (denials : List SessionEvent) :
    Option Finding :=
  if denials.length < excessiveDenialThreshold then none
  else
    match denials.head?, denials.getLast? with
    | some first, some last =>
      let evidence := crossingEvidence denials priorFindings agentId recoveryGeneration
      some
        { findingId := sessionFindingId h excessiveDenialsRuleName last.sessionId agentId
            excessiveDenialThreshold evidence recoveryGeneration
          sessionId := last.sessionId
          agentId
          ruleId := excessiveDenialsRuleName
          ruleName := excessiveDenialsRuleName
          severity := .medium
          description :=
            if denials.all (fun e => e.sessionId = first.sessionId) then
              "Session contains " ++ toString denials.length ++ " denied actions"
            else "Agent contains " ++ toString denials.length ++ " denied actions across sessions"
          createdAt := now
          evidenceEventSequences := evidence
          recoveryGeneration }
    | _, _ => none

def detectExcessiveDenials (h : Hashing) (windowSeconds now : Instant)
    (events : List SessionEvent) (evaluationTime : Instant) (priorFindings : List Finding)
    (recoveryGeneration : Nat) : List Finding :=
  let denied := events.filter (fun e => e.decision = .deny &&
    evaluationTime - windowSeconds ≤ e.timestamp && e.timestamp ≤ evaluationTime)
  (denied.map (·.agentId)).eraseDups.filterMap (fun agentId =>
    denialFinding h now priorFindings recoveryGeneration agentId
      (denied.filter (fun e => e.agentId = agentId)))

end AgentSecurityPlatform
