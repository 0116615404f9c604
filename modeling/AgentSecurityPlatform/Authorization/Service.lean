import AgentSecurityPlatform.Authorization.Policy
import AgentSecurityPlatform.Lifecycle.AgentService

namespace AgentSecurityPlatform

structure AuthorizationResult where
  decision : Decision
  agentId : String
  toolId : String
  resource : Option String
  agentCheck : AuthorizationCheck
  toolCheck : AuthorizationCheck
  approvedToolCheck : AuthorizationCheck
  statusCheck : AuthorizationCheck
  riskTierCheck : AuthorizationCheck
  resourceCheck : AuthorizationCheck
  reason : String
  deriving DecidableEq, Repr

namespace AuthorizationService

def agentUnregistered (agentId toolId : String) (resource : Option String) :
    AuthorizationResult :=
  let reason := "Agent '" ++ agentId ++ "' is not registered"
  { decision := .deny
    agentId
    toolId
    resource
    agentCheck := ⟨.failed, reason, none, [("agent_id", agentId)]⟩
    toolCheck := notEvaluatedCheck "agent_check"
    approvedToolCheck := notEvaluatedCheck "agent_check"
    statusCheck := notEvaluatedCheck "agent_check"
    riskTierCheck := notEvaluatedCheck "agent_check"
    resourceCheck := notEvaluatedCheck "agent_check"
    reason }

def evaluateAgent (agent : Agent) (tools : ToolService) (agentId toolId : String)
    (resource : Option String) (refusal : Option LifecycleRefusalCode) : AuthorizationResult :=
  let agentCheck : AuthorizationCheck :=
    ⟨.passed, "Agent '" ++ agentId ++ "' is registered", none, [("agent_id", agentId)]⟩
  match tools.getFamilyGovernance toolId with
  | none =>
    let reason := "Tool '" ++ toolId ++ "' is not registered"
    { decision := .deny
      agentId
      toolId
      resource
      agentCheck
      toolCheck := ⟨.failed, reason, none, [("tool_id", toolId)]⟩
      approvedToolCheck := notEvaluatedCheck "tool_check"
      statusCheck := notEvaluatedCheck "tool_check"
      riskTierCheck := notEvaluatedCheck "tool_check"
      resourceCheck := notEvaluatedCheck "tool_check"
      reason }
  | some governance =>
    let toolCheck : AuthorizationCheck :=
      ⟨.passed, "Tool '" ++ toolId ++ "' is registered", none, [("tool_id", toolId)]⟩
    if toolId ∉ agent.approvedTools then
      let reason := "Tool '" ++ toolId ++ "' is not approved for agent '" ++ agentId ++ "'"
      { decision := .deny
        agentId
        toolId
        resource
        agentCheck
        toolCheck
        approvedToolCheck := ⟨.failed, reason, none, [("tool_id", toolId), ("agent_id", agentId)]⟩
        statusCheck := notEvaluatedCheck "approved_tool_check"
        riskTierCheck := notEvaluatedCheck "approved_tool_check"
        resourceCheck := notEvaluatedCheck "approved_tool_check"
        reason }
    else
      let policy := evaluatePolicy agent governance resource refusal
      { decision := policy.decision
        agentId
        toolId
        resource
        agentCheck
        toolCheck
        approvedToolCheck :=
          ⟨.passed, "Tool '" ++ toolId ++ "' is approved for agent '" ++ agentId ++ "'", none,
            [("tool_id", toolId), ("agent_id", agentId)]⟩
        statusCheck := policy.statusCheck
        riskTierCheck := policy.riskTierCheck
        resourceCheck := policy.resourceCheck
        reason := policy.reason }

def evaluate (agents : AgentService) (tools : ToolService) (agentId toolId : String)
    (resource : Option String) : AuthorizationResult :=
  match agents.getAgent agentId with
  | .error _ => agentUnregistered agentId toolId resource
  | .ok agent =>
    evaluateAgent agent tools agentId toolId resource (agents.lifecycleRefusal agentId)

theorem evaluateAgent_permits {agent : Agent} {tools : ToolService} {agentId toolId : String}
    {resource : Option String} {refusal : Option LifecycleRefusalCode}
    (h : (evaluateAgent agent tools agentId toolId resource refusal).decision ≠ .deny) :
    refusal = none := by
  unfold evaluateAgent at h
  split at h
  · exact absurd rfl h
  · split at h
    · exact absurd rfl h
    · exact evaluatePolicy_allow h

end AuthorizationService

end AgentSecurityPlatform
