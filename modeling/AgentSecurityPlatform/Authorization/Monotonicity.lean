import AgentSecurityPlatform.Authorization.Service

namespace AgentSecurityPlatform

-- ALLOW < APPROVAL_REQUIRED < DENY
def Decision.restriction : Decision → Nat
  | .allow => 0
  | .approvalRequired => 1
  | .deny => 2

inductive ToolServiceError where
  | toolAlreadyExists (toolId version : String)
  | toolNotFound (toolId version : String)
  deriving DecidableEq, Repr

namespace ToolService

def save (s : ToolService) (tool : Tool) : ToolService :=
  ⟨s.tools.set (tool.toolId, tool.version) tool⟩

def registerTool (s : ToolService) (tool : Tool) : ToolService × Except ToolServiceError Tool :=
  match s.getTool tool.toolId tool.version with
  | some _ => (s, .error (.toolAlreadyExists tool.toolId tool.version))
  | none => (s.save tool, .ok tool)

def setEnabled (s : ToolService) (toolId version : String) (enabled : Bool) :
    ToolService × Except ToolServiceError Tool :=
  match s.getTool toolId version with
  | none => (s, .error (.toolNotFound toolId version))
  | some tool => (s.save { tool with enabled }, .ok { tool with enabled })

def disableTool (s : ToolService) (toolId version : String) :
    ToolService × Except ToolServiceError Tool :=
  s.setEnabled toolId version false

def enableTool (s : ToolService) (toolId version : String) :
    ToolService × Except ToolServiceError Tool :=
  s.setEnabled toolId version true

def Keyed (s : ToolService) : Prop :=
  ∀ toolId version tool, s.getTool toolId version = some tool →
    tool.toolId = toolId ∧ tool.version = version

theorem keyed_empty : Keyed ⟨.empty⟩ := by
  intro toolId version tool h
  cases h

theorem Keyed.save {s : ToolService} (h : s.Keyed) (tool : Tool) : (s.save tool).Keyed := by
  intro toolId version t ht
  simp only [ToolService.save, getTool, Dict.get?_set] at ht
  split at ht
  · rename_i hkey
    cases ht
    simp only [Prod.mk.injEq] at hkey
    exact hkey
  · exact h toolId version t ht

inductive Reachable : ToolService → Prop where
  | empty : Reachable ⟨.empty⟩
  | registerTool {s : ToolService} (tool : Tool) : Reachable s → Reachable (s.registerTool tool).1
  | setEnabled {s : ToolService} (toolId version : String) (enabled : Bool) :
      Reachable s → Reachable (s.setEnabled toolId version enabled).1

theorem Reachable.keyed {s : ToolService} (h : Reachable s) : s.Keyed := by
  induction h with
  | empty => exact keyed_empty
  | @registerTool s tool _ ih =>
    simp only [ToolService.registerTool]
    split
    · exact ih
    · exact ih.save tool
  | @setEnabled s toolId version enabled _ ih =>
    simp only [ToolService.setEnabled]
    split
    · exact ih
    · exact ih.save _

def levels (s : ToolService) (toolId : String) : List ToolRiskLevel :=
  (s.listVersions toolId).map (·.riskLevel)

def maxSeverity (s : ToolService) (toolId : String) : Option Nat :=
  ((s.levels toolId).map (·.severity)).max?

theorem mem_listVersions {s : ToolService} {toolId : String} {tool : Tool} :
    tool ∈ s.listVersions toolId ↔ ∃ version, s.getTool toolId version = some tool := by
  simp only [listVersions, List.mem_map, List.mem_filter, decide_eq_true_eq, getTool]
  constructor
  · rintro ⟨⟨⟨family, version⟩, t⟩, ⟨hmem, rfl⟩, rfl⟩
    exact ⟨version, (s.tools.mem_entries_iff _ _).mp hmem⟩
  · rintro ⟨version, hget⟩
    exact ⟨((toolId, version), tool), ⟨(s.tools.mem_entries_iff _ _).mpr hget, rfl⟩, rfl⟩

theorem severity_mostRestrictive (level : ToolRiskLevel) (versions : List Tool) :
    (mostRestrictive level versions).severity =
      (versions.map (·.riskLevel.severity)).foldl max level.severity := by
  induction versions generalizing level with
  | nil => rfl
  | cons tool versions ih =>
    simp only [mostRestrictive, ih, List.map_cons, List.foldl_cons]
    split
    · rename_i hlt
      rw [Nat.max_eq_right (Nat.le_of_lt hlt)]
    · rename_i hge
      rw [Nat.max_eq_left (Nat.le_of_not_lt hge)]

theorem severity_injective : Function.Injective ToolRiskLevel.severity := by
  intro a b h
  cases a <;> cases b <;> first | rfl | cases h

theorem getFamilyGovernance_severity (s : ToolService) (toolId : String) :
    (s.getFamilyGovernance toolId).map (·.riskLevel.severity) = s.maxSeverity toolId := by
  simp only [getFamilyGovernance, maxSeverity, levels]
  cases s.listVersions toolId with
  | nil => rfl
  | cons tool versions =>
    simp only [Option.map_some, severity_mostRestrictive, List.map_cons, List.max?_cons',
      List.map_map]
    rfl

theorem getFamilyGovernance_toolId {s : ToolService} {toolId : String}
    {governance : ToolFamilyGovernance} (h : s.getFamilyGovernance toolId = some governance) :
    governance.toolId = toolId := by
  simp only [getFamilyGovernance] at h
  split at h
  · cases h
  · cases h
    rfl

theorem getFamilyGovernance_congr {s s' : ToolService} {toolId : String}
    (h : s'.levels toolId = s.levels toolId) :
    s'.getFamilyGovernance toolId = s.getFamilyGovernance toolId := by
  have hseverity : (s'.getFamilyGovernance toolId).map (·.riskLevel.severity) =
      (s.getFamilyGovernance toolId).map (·.riskLevel.severity) := by
    simp only [getFamilyGovernance_severity, maxSeverity, h]
  cases hg' : s'.getFamilyGovernance toolId with
  | none =>
    rw [hg', Option.map_none, eq_comm, Option.map_eq_none_iff] at hseverity
    exact hseverity.symm
  | some governance' =>
    rw [hg', Option.map_some, eq_comm, Option.map_eq_some_iff] at hseverity
    obtain ⟨governance, hg, hlevel⟩ := hseverity
    have htool := (getFamilyGovernance_toolId hg).trans (getFamilyGovernance_toolId hg').symm
    have hlevel' := severity_injective hlevel
    cases governance
    cases governance'
    simp_all only

theorem levels_register {s : ToolService} {tool : Tool}
    (hnew : s.getTool tool.toolId tool.version = none) (toolId : String) :
    (s.save tool).levels toolId =
      s.levels toolId ++ if tool.toolId = toolId then [tool.riskLevel] else [] := by
  simp only [levels, listVersions, save, Dict.entries_set_of_absent _ _ _ hnew,
    List.filter_append, List.map_append]
  congr 1
  by_cases hfamily : tool.toolId = toolId
  · simp [hfamily]
  · simp [hfamily]

theorem levels_setEnabled {s : ToolService} (hkeyed : s.Keyed) (toolId version : String)
    (enabled : Bool) (family : String) :
    (s.setEnabled toolId version enabled).1.levels family = s.levels family := by
  simp only [setEnabled]
  cases hget : s.getTool toolId version with
  | none => rfl
  | some tool =>
    obtain ⟨rfl, rfl⟩ := hkeyed toolId version tool hget
    obtain ⟨before, after, hentries, hset⟩ :=
      s.tools.entries_set_of_present (tool.toolId, tool.version) { tool with enabled } hget
    simp only [levels, listVersions, save, hset, hentries, List.filter_append, List.map_append,
      List.filter_cons]
    split
    · rfl
    · rfl

theorem maxSeverity_concat {s s' : ToolService} {toolId : String} {added : List ToolRiskLevel}
    (h : s'.levels toolId = s.levels toolId ++ added) {severity : Nat}
    (hmax : s.maxSeverity toolId = some severity) :
    ∃ severity', s'.maxSeverity toolId = some severity' ∧ severity ≤ severity' := by
  simp only [maxSeverity, h, List.map_append] at hmax ⊢
  cases hlevels : (s.levels toolId).map (·.severity) with
  | nil => simp [hlevels] at hmax
  | cons first rest =>
    rw [hlevels, List.max?_cons', Option.some.injEq] at hmax
    refine ⟨_, List.max?_cons', ?_⟩
    rw [List.append_eq, List.foldl_append, hmax]
    generalize added.map (·.severity) = more
    clear hmax
    induction more generalizing severity with
    | nil => exact Nat.le_refl _
    | cons level more ih =>
      rw [List.foldl_cons]
      exact (Nat.le_max_left severity level).trans ih

end ToolService

theorem riskTierPermits_iff {agent : Agent} {tool : ToolFamilyGovernance} :
    riskTierPermits agent tool = true ↔
      (agent.riskTier = .low → tool.riskLevel.severity < ToolRiskLevel.high.severity) := by
  cases htier : agent.riskTier <;> cases hlevel : tool.riskLevel <;>
    simp [riskTierPermits, htier, hlevel, ToolRiskLevel.severity]

theorem evaluatePolicy_decision (agent : Agent) (tool : ToolFamilyGovernance)
    (resource : Option String) :
    (evaluatePolicy agent tool resource none).decision =
      if riskTierPermits agent tool = false ∨ resourceProtected tool resource = true then .deny
      else if tool.riskLevel = .critical then .approvalRequired else .allow := by
  simp only [evaluatePolicy]
  cases riskTierPermits agent tool with
  | false => rfl
  | true =>
    cases resourceProtected tool resource with
    | true => rfl
    | false =>
      simp only [Bool.not_true, Bool.false_eq_true, Bool.true_eq_false, or_self, ↓reduceIte]
      split
      · rfl
      · rfl

theorem evaluatePolicy_mono {agent : Agent} {tool tool' : ToolFamilyGovernance}
    (htool : tool'.toolId = tool.toolId)
    (hseverity : tool.riskLevel.severity ≤ tool'.riskLevel.severity) (resource : Option String)
    (refusal : Option LifecycleRefusalCode) :
    (evaluatePolicy agent tool resource refusal).decision.restriction ≤
      (evaluatePolicy agent tool' resource refusal).decision.restriction := by
  cases refusal with
  | some refusal => exact Nat.le_refl _
  | none =>
    have hprotected : resourceProtected tool' resource = resourceProtected tool resource := by
      simp only [resourceProtected, htool]
    have htier : riskTierPermits agent tool = false → riskTierPermits agent tool' = false := by
      intro hrefused
      by_contra hpermitted
      rw [Bool.not_eq_false, riskTierPermits_iff] at hpermitted
      rw [← Bool.not_eq_true, riskTierPermits_iff] at hrefused
      exact hrefused fun hlow => Nat.lt_of_le_of_lt hseverity (hpermitted hlow)
    have hcritical : tool.riskLevel = .critical → tool'.riskLevel = .critical := by
      intro hc
      rw [hc] at hseverity
      cases hl : tool'.riskLevel <;> simp_all [ToolRiskLevel.severity]
    simp only [evaluatePolicy_decision, hprotected]
    grind [Decision.restriction]

namespace AuthorizationService

structure Authorized (agents : AgentService) (tools : ToolService) (agentId toolId : String)
    (resource : Option String) (agent : Agent) (administrative : AgentAdministrativeState)
    (severity : Nat) : Prop where
  registered : agents.agents.get agentId = some agent
  version : ∃ version tool, tools.getTool toolId version = some tool
  approved : toolId ∈ agent.approvedTools
  recorded : agents.administrative.getState agentId = some administrative
  active : administrative.state = .active
  notSuspended : isSuspended (agents.enforcement.getState agentId) = false
  maximum : tools.maxSeverity toolId = some severity
  belowCritical : severity < ToolRiskLevel.critical.severity
  lowTier : agent.riskTier = .low → severity < ToolRiskLevel.high.severity
  unprotected : ¬ (toolId = "file_read" ∧ ∃ r ∈ protectedResources, resource = some r)

variable {agents : AgentService} {tools tools' : ToolService} {agentId toolId : String}
  {resource : Option String}

theorem lifecycleRefusal_eq_none : agents.lifecycleRefusal agentId = none ↔
    isSuspended (agents.enforcement.getState agentId) = false ∧
      ∃ s, agents.administrative.getState agentId = some s ∧ s.state = .active := by
  rw [AgentService.lifecycleRefusal, evaluateLifecycleAuthorization_eq_none]
  simp only [true_and]

theorem severity_lt_critical {level : ToolRiskLevel} :
    level.severity < ToolRiskLevel.critical.severity ↔ level ≠ .critical := by
  cases level <;> simp [ToolRiskLevel.severity]

theorem resourceProtected_eq_false {tool : ToolFamilyGovernance} :
    resourceProtected tool resource = false ↔
      ¬ (tool.toolId = "file_read" ∧ ∃ r ∈ protectedResources, resource = some r) := by
  cases resource with
  | none => simp [resourceProtected]
  | some r => simp [resourceProtected]

theorem evaluateAgent_allow_iff {agent : Agent} {refusal : Option LifecycleRefusalCode} :
    (evaluateAgent agent tools agentId toolId resource refusal).decision = .allow ↔
      ∃ governance, tools.getFamilyGovernance toolId = some governance ∧
        toolId ∈ agent.approvedTools ∧ refusal = none ∧
        riskTierPermits agent governance = true ∧
        resourceProtected governance resource = false ∧ governance.riskLevel ≠ .critical := by
  simp only [evaluateAgent]
  cases tools.getFamilyGovernance toolId with
  | none => simp
  | some governance =>
    by_cases happroved : toolId ∈ agent.approvedTools
    · simp only [happroved, not_true_eq_false, ↓reduceIte, Option.some.injEq, exists_eq_left',
        true_and]
      cases refusal with
      | some code => simp [evaluatePolicy, lifecycleDenial]
      | none =>
        rw [evaluatePolicy_decision]
        grind
    · simp [happroved]

theorem evaluate_allow_iff :
    (evaluate agents tools agentId toolId resource).decision = .allow ↔
      ∃ agent administrative severity,
        Authorized agents tools agentId toolId resource agent administrative severity := by
  simp only [evaluate, AgentService.getAgent]
  constructor
  · intro hallow
    cases hrecord : agents.agents.get agentId with
    | none => simp only [hrecord, agentUnregistered, reduceCtorEq] at hallow
    | some agent =>
      simp only [hrecord, evaluateAgent_allow_iff, lifecycleRefusal_eq_none] at hallow
      obtain ⟨governance, hgovernance, happroved, ⟨hsuspended, state, hstate, hactive⟩, htier,
        hprotected, hcritical⟩ := hallow
      have hmax : tools.maxSeverity toolId = some governance.riskLevel.severity := by
        rw [← ToolService.getFamilyGovernance_severity, hgovernance, Option.map_some]
      have hexists : tools.listVersions toolId ≠ [] := by
        intro hnil
        simp only [ToolService.getFamilyGovernance, hnil, reduceCtorEq] at hgovernance
      obtain ⟨tool, htool⟩ := List.exists_mem_of_ne_nil _ hexists
      obtain ⟨version, hversion⟩ := ToolService.mem_listVersions.mp htool
      rw [resourceProtected_eq_false, ToolService.getFamilyGovernance_toolId hgovernance]
        at hprotected
      exact ⟨agent, state, governance.riskLevel.severity,
        { registered := hrecord
          version := ⟨version, tool, hversion⟩
          approved := happroved
          recorded := hstate
          active := hactive
          notSuspended := hsuspended
          maximum := hmax
          belowCritical := severity_lt_critical.mpr hcritical
          lowTier := riskTierPermits_iff.mp htier
          unprotected := hprotected }⟩
  · rintro ⟨agent, administrative, severity, h⟩
    have hmax := h.maximum
    rw [← ToolService.getFamilyGovernance_severity, Option.map_eq_some_iff] at hmax
    obtain ⟨governance, hgovernance, rfl⟩ := hmax
    simp only [h.registered, evaluateAgent_allow_iff, lifecycleRefusal_eq_none]
    refine ⟨governance, hgovernance, h.approved,
      ⟨h.notSuspended, administrative, h.recorded, h.active⟩, riskTierPermits_iff.mpr h.lowTier,
      ?_, severity_lt_critical.mp h.belowCritical⟩
    rw [resourceProtected_eq_false, ToolService.getFamilyGovernance_toolId hgovernance]
    exact h.unprotected

theorem evaluate_congr (h : tools'.getFamilyGovernance toolId = tools.getFamilyGovernance toolId) :
    evaluate agents tools' agentId toolId resource =
      evaluate agents tools agentId toolId resource := by
  simp only [evaluate, evaluateAgent, h]

theorem evaluateAgent_mono {agent : Agent} {refusal : Option LifecycleRefusalCode}
    (hsome : ∀ severity, tools.maxSeverity toolId = some severity →
      ∃ severity', tools'.maxSeverity toolId = some severity' ∧ severity ≤ severity')
    (hnone : tools.maxSeverity toolId = none → tools'.maxSeverity toolId = none) :
    (evaluateAgent agent tools agentId toolId resource refusal).decision.restriction ≤
      (evaluateAgent agent tools' agentId toolId resource refusal).decision.restriction := by
  simp only [← ToolService.getFamilyGovernance_severity] at hsome hnone
  simp only [evaluateAgent]
  cases hgovernance : tools.getFamilyGovernance toolId with
  | none =>
    rw [hgovernance, Option.map_none, Option.map_eq_none_iff] at hnone
    rw [hnone rfl]
  | some governance =>
    rw [hgovernance] at hsome
    obtain ⟨severity', hsome', hle⟩ := hsome _ rfl
    obtain ⟨governance', hgovernance', rfl⟩ := Option.map_eq_some_iff.mp hsome'
    have htool := (ToolService.getFamilyGovernance_toolId hgovernance').trans
      (ToolService.getFamilyGovernance_toolId hgovernance).symm
    rw [hgovernance']
    by_cases happroved : toolId ∈ agent.approvedTools
    · simp only [happroved, not_true_eq_false, ↓reduceIte]
      exact evaluatePolicy_mono htool hle resource refusal
    · simp only [happroved, not_false_eq_true, ↓reduceIte, Nat.le_refl]

theorem evaluate_mono
    (hsome : ∀ severity, tools.maxSeverity toolId = some severity →
      ∃ severity', tools'.maxSeverity toolId = some severity' ∧ severity ≤ severity')
    (hnone : tools.maxSeverity toolId = none → tools'.maxSeverity toolId = none) :
    (evaluate agents tools agentId toolId resource).decision.restriction ≤
      (evaluate agents tools' agentId toolId resource).decision.restriction := by
  simp only [evaluate]
  cases agents.getAgent agentId with
  | error _ => exact Nat.le_refl _
  | ok agent => exact evaluateAgent_mono hsome hnone

theorem evaluate_registerTool {tool : Tool} (hfamily : tools.familyExists tool.toolId = true) :
    (evaluate agents tools agentId toolId resource).decision.restriction ≤
      (evaluate agents (tools.registerTool tool).1 agentId toolId
        resource).decision.restriction := by
  simp only [ToolService.registerTool]
  cases hget : tools.getTool tool.toolId tool.version with
  | some existing => exact Nat.le_refl _
  | none =>
    have hlevels := ToolService.levels_register hget toolId
    refine evaluate_mono (fun severity => ToolService.maxSeverity_concat hlevels) ?_
    intro hnone
    have hother : tool.toolId ≠ toolId := by
      rintro rfl
      rw [← ToolService.getFamilyGovernance_severity, Option.map_eq_none_iff,
        ToolService.getFamilyGovernance_eq_none, hfamily] at hnone
      cases hnone
    rw [if_neg hother, List.append_nil] at hlevels
    rw [ToolService.maxSeverity, hlevels]
    exact hnone

theorem evaluate_setEnabled (hkeyed : tools.Keyed) (family version : String) (enabled : Bool) :
    evaluate agents (tools.setEnabled family version enabled).1 agentId toolId resource =
      evaluate agents tools agentId toolId resource :=
  evaluate_congr (ToolService.getFamilyGovernance_congr
    (ToolService.levels_setEnabled hkeyed family version enabled toolId))

theorem authorization_exact_and_monotone (agents : AgentService) {tools : ToolService}
    (hkeyed : tools.Keyed) (agentId toolId : String) (resource : Option String) :
    ((evaluate agents tools agentId toolId resource).decision = .allow ↔
      ∃ agent administrative severity,
        Authorized agents tools agentId toolId resource agent administrative severity) ∧
    (∀ tool : Tool, tools.familyExists tool.toolId = true →
      (evaluate agents tools agentId toolId resource).decision.restriction ≤
        (evaluate agents (tools.registerTool tool).1 agentId toolId
          resource).decision.restriction) ∧
    (∀ family version : String,
      evaluate agents (tools.disableTool family version).1 agentId toolId resource =
        evaluate agents tools agentId toolId resource ∧
      evaluate agents (tools.enableTool family version).1 agentId toolId resource =
        evaluate agents tools agentId toolId resource) :=
  ⟨evaluate_allow_iff, fun _ hfamily => evaluate_registerTool hfamily,
    fun family version => ⟨evaluate_setEnabled hkeyed family version false,
      evaluate_setEnabled hkeyed family version true⟩⟩

def sampleAgents : AgentService :=
  ((AgentService.empty.registerAgent 1 "t1" "c1"
    ⟨"agent-1", "Agent", "owner", .medium, ["ticket_read"], .registered⟩).1.activateAgent 2 "t2"
      "c2" "agent-1" systemRegistrationActor).1

def sampleTools : ToolService :=
  ⟨Dict.empty.set ("ticket_read", "1.0") ⟨"ticket_read", "1.0", .low, true⟩⟩

theorem authorization_exact_and_monotone_sample :
    ((evaluate sampleAgents sampleTools "agent-1" "ticket_read" none).decision = .allow ↔
      ∃ agent administrative severity,
        Authorized sampleAgents sampleTools "agent-1" "ticket_read" none agent administrative
          severity) ∧
    (evaluate sampleAgents sampleTools "agent-1" "ticket_read" none).decision = .allow ∧
    (evaluate sampleAgents (sampleTools.disableTool "ticket_read" "1.0").1 "agent-1" "ticket_read"
      none).decision = .allow := by
  have hkeyed : sampleTools.Keyed :=
    ToolService.keyed_empty.save ⟨"ticket_read", "1.0", .low, true⟩
  have h := authorization_exact_and_monotone sampleAgents hkeyed "agent-1" "ticket_read" none
  have hallow : (evaluate sampleAgents sampleTools "agent-1" "ticket_read" none).decision =
      .allow := by decide +kernel
  refine ⟨h.1, hallow, ?_⟩
  rw [(h.2.2 "ticket_read" "1.0").1, hallow]

end AuthorizationService

end AgentSecurityPlatform
