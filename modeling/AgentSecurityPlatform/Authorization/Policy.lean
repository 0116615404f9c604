import AgentSecurityPlatform.Lifecycle.Administrative

namespace AgentSecurityPlatform

inductive ToolRiskLevel where
  | low
  | medium
  | high
  | critical
  deriving DecidableEq, Repr

namespace ToolRiskLevel

def severity : ToolRiskLevel → Nat
  | .low => 0
  | .medium => 1
  | .high => 2
  | .critical => 3

def value : ToolRiskLevel → String
  | .low => "LOW"
  | .medium => "MEDIUM"
  | .high => "HIGH"
  | .critical => "CRITICAL"

end ToolRiskLevel

def RiskTier.value : RiskTier → String
  | .low => "LOW"
  | .medium => "MEDIUM"
  | .high => "HIGH"
  | .critical => "CRITICAL"

structure Tool where
  toolId : String
  version : String
  riskLevel : ToolRiskLevel
  enabled : Bool := true
  deriving DecidableEq, Repr

structure ToolDescriptor where
  toolId : String
  version : String
  category : String
  deriving DecidableEq, Repr

structure ToolRegistry where
  descriptors : Dict String (Dict String ToolDescriptor)

def ToolRegistry.resolve (r : ToolRegistry) (toolId : String) : Option ToolDescriptor :=
  match r.descriptors.get? toolId with
  | none => none
  | some versions =>
    match versions.values with
    | [descriptor] => some descriptor
    | _ => none

structure ToolFamilyGovernance where
  toolId : String
  riskLevel : ToolRiskLevel
  deriving DecidableEq, Repr

structure ToolService where
  tools : Dict (String × String) Tool

namespace ToolService

def getTool (s : ToolService) (toolId version : String) : Option Tool :=
  s.tools.get? (toolId, version)

def listVersions (s : ToolService) (toolId : String) : List Tool :=
  (s.tools.entries.filter (fun e => e.1.1 = toolId)).map Prod.snd

def familyExists (s : ToolService) (toolId : String) : Bool :=
  s.listVersions toolId ≠ []

def mostRestrictive (level : ToolRiskLevel) : List Tool → ToolRiskLevel
  | [] => level
  | t :: ts =>
    mostRestrictive (if level.severity < t.riskLevel.severity then t.riskLevel else level) ts

def getFamilyGovernance (s : ToolService) (toolId : String) : Option ToolFamilyGovernance :=
  match s.listVersions toolId with
  | [] => none
  | t :: ts => some ⟨toolId, mostRestrictive t.riskLevel ts⟩

def versionIsEnabled (s : ToolService) (toolId version : String) : Bool :=
  match s.getTool toolId version with
  | none => false
  | some t => t.enabled

theorem getFamilyGovernance_eq_none (s : ToolService) (toolId : String) :
    s.getFamilyGovernance toolId = none ↔ s.familyExists toolId = false := by
  unfold getFamilyGovernance familyExists
  cases s.listVersions toolId <;> simp

end ToolService

inductive AuthorizationCheckStatus where
  | passed
  | failed
  | notEvaluated
  deriving DecidableEq, Repr

structure AuthorizationCheck where
  status : AuthorizationCheckStatus
  reason : String
  code : Option String := none
  details : List (String × String) := []
  deriving DecidableEq, Repr

def notEvaluatedCheck (skippedAfter : String) : AuthorizationCheck :=
  ⟨.notEvaluated, "Skipped due to prior check failure", none, [("skipped_after", skippedAfter)]⟩

structure PolicyEvaluationResult where
  decision : Decision
  statusCheck : AuthorizationCheck
  riskTierCheck : AuthorizationCheck
  resourceCheck : AuthorizationCheck
  reason : String
  deriving DecidableEq, Repr

def protectedResources : List String := ["secrets.txt"]

def lifecycleDenial (agentId : String) (refusal : LifecycleRefusalCode) :
    PolicyEvaluationResult :=
  let reason := "Agent '" ++ agentId ++ "' may not execute: " ++ refusal.value
  { decision := .deny
    statusCheck := ⟨.failed, reason, some refusal.value,
      [("agent_id", agentId), ("lifecycle_refusal", refusal.value)]⟩
    riskTierCheck := notEvaluatedCheck "status_check"
    resourceCheck := notEvaluatedCheck "status_check"
    reason }

def riskTierPermits (agent : Agent) (tool : ToolFamilyGovernance) : Bool :=
  !(agent.riskTier = .low && (tool.riskLevel = .high || tool.riskLevel = .critical))

def resourceProtected (tool : ToolFamilyGovernance) (resource : Option String) : Bool :=
  tool.toolId = "file_read" && resource.any (· ∈ protectedResources)

def evaluatePolicy (agent : Agent) (tool : ToolFamilyGovernance) (resource : Option String)
    (lifecycleRefusal : Option LifecycleRefusalCode) : PolicyEvaluationResult :=
  match lifecycleRefusal with
  | some refusal => lifecycleDenial agent.agentId refusal
  | none =>
    let statusCheck : AuthorizationCheck :=
      ⟨.passed, "Agent '" ++ agent.agentId ++ "' is active", none, [("agent_id", agent.agentId)]⟩
    let tierDetails := [("risk_tier", agent.riskTier.value),
      ("tool_risk_level", tool.riskLevel.value)]
    if !riskTierPermits agent tool then
      let reason := "Agent risk tier '" ++ agent.riskTier.value ++
        "' cannot execute tool with risk level '" ++ tool.riskLevel.value ++ "'"
      { decision := .deny
        statusCheck
        riskTierCheck := ⟨.failed, reason, none, tierDetails⟩
        resourceCheck := notEvaluatedCheck "risk_tier_check"
        reason }
    else
      let riskTierCheck : AuthorizationCheck :=
        ⟨.passed, "Agent risk tier '" ++ agent.riskTier.value ++ "' permits tool risk level '" ++
          tool.riskLevel.value ++ "'", none, tierDetails⟩
      if resourceProtected tool resource then
        let reason := "Access to protected resource '" ++ resource.getD "None" ++ "' is denied"
        { decision := .deny
          statusCheck
          riskTierCheck
          resourceCheck := ⟨.failed, reason, none,
            [("resource", resource.getD "None"), ("tool_id", tool.toolId)]⟩
          reason }
      else
        let resourceCheck : AuthorizationCheck :=
          match resource with
          | some r =>
            ⟨.passed, "Access to resource '" ++ r ++ "' is permitted", none, [("resource", r)]⟩
          | none => ⟨.passed, "No resource restriction evaluated", none, []⟩
        if tool.riskLevel = .critical then
          ⟨.approvalRequired, statusCheck, riskTierCheck, resourceCheck,
            "Tool '" ++ tool.toolId ++ "' has CRITICAL risk level; human approval is required"⟩
        else ⟨.allow, statusCheck, riskTierCheck, resourceCheck, "All policy checks passed"⟩

theorem evaluatePolicy_allow {agent : Agent} {tool : ToolFamilyGovernance}
    {resource : Option String} {refusal : Option LifecycleRefusalCode}
    (h : (evaluatePolicy agent tool resource refusal).decision ≠ .deny) : refusal = none := by
  cases refusal with
  | none => rfl
  | some code => exact absurd rfl h

end AgentSecurityPlatform
