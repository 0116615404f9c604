import AgentSecurityPlatform.Authorization.Service

namespace AgentSecurityPlatform

inductive PlaneRead (α : Type) where
  | answers (value : Option α)
  | raises
  deriving DecidableEq, Repr

namespace PlaneRead

variable {α : Type}

def value : PlaneRead α → Option α
  | .answers value => value
  | .raises => none

def available : PlaneRead α → Bool
  | .answers _ => true
  | .raises => false

end PlaneRead

-- the four lifecycle reads of one evaluation, in the order they are made
structure LifecycleReadings where
  agentEnforcement : PlaneRead AgentEnforcementState
  agentAdministrative : PlaneRead AgentAdministrativeState
  planeAdministrative : PlaneRead AgentAdministrativeState
  planeEnforcement : PlaneRead AgentEnforcementState

inductive AgentReadError where
  | agentNotFound
  | enforcementStateUnavailable
  | administrativeStateUnavailable
  deriving DecidableEq, Repr

namespace LifecycleReadings

def ofState (agents : AgentService) (agentId : String) : LifecycleReadings where
  agentEnforcement := .answers (agents.enforcement.getState agentId)
  agentAdministrative := .answers (agents.administrative.getState agentId)
  planeAdministrative := .answers (agents.administrative.getState agentId)
  planeEnforcement := .answers (agents.enforcement.getState agentId)

def getAgent (r : LifecycleReadings) (record : Option Agent) : Except AgentReadError Agent :=
  match record with
  | none => .error .agentNotFound
  | some agent =>
    match r.agentEnforcement with
    | .raises => .error .enforcementStateUnavailable
    | .answers enforcement =>
      match r.agentAdministrative with
      | .raises => .error .administrativeStateUnavailable
      | .answers administrative =>
        .ok { agent with status := AgentService.projectStatus administrative enforcement }

def lifecycleRefusal (r : LifecycleReadings) : Option LifecycleRefusalCode :=
  evaluateLifecycleAuthorization r.planeAdministrative.value r.planeAdministrative.available
    r.planeEnforcement.value r.planeEnforcement.available

def administrativeAvailable (r : LifecycleReadings) : Bool :=
  r.agentAdministrative.available && r.planeAdministrative.available

def enforcementAvailable (r : LifecycleReadings) : Bool :=
  r.agentEnforcement.available && r.planeEnforcement.available

def failing (r : LifecycleReadings) : List LifecycleRefusalCode :=
  failingLifecycleConditions r.planeAdministrative.value r.administrativeAvailable
    r.planeEnforcement.value r.enforcementAvailable

end LifecycleReadings

def MostSignificant (failing : List LifecycleRefusalCode) (code : LifecycleRefusalCode) : Prop :=
  code ∈ failing ∧
    ∀ other ∈ failing, refusalPrecedence.idxOf code ≤ refusalPrecedence.idxOf other

theorem mem_refusalPrecedence (code : LifecycleRefusalCode) : code ∈ refusalPrecedence := by
  cases code <;> decide

theorem mostSignificant_of_find {failing : List LifecycleRefusalCode} {code : LifecycleRefusalCode}
    (h : refusalPrecedence.find? (· ∈ failing) = some code) : MostSignificant failing code := by
  obtain ⟨hmem, before, after, hsplit, hbefore⟩ := List.find?_eq_some_iff_append.mp h
  have hnodup : refusalPrecedence.Nodup := by decide
  refine ⟨by simpa using hmem, ?_⟩
  intro other hother
  have hother' : other ∉ before := fun hin => by simpa [hother] using hbefore other hin
  have hcode : code ∉ before := by
    intro hin
    rw [hsplit] at hnodup
    exact (List.nodup_append.mp hnodup).2.2 code hin code (List.mem_cons_self ..) rfl
  rw [hsplit, List.idxOf_append_of_notMem hcode, List.idxOf_append_of_notMem hother',
    List.idxOf_cons_self]
  omega

theorem evaluateLifecycleAuthorization_mostSignificant
    {administrative : Option AgentAdministrativeState}
    {enforcement : Option AgentEnforcementState} {aok eok : Bool}
    (h : failingLifecycleConditions administrative aok enforcement eok ≠ []) :
    ∃ code, evaluateLifecycleAuthorization administrative aok enforcement eok = some code ∧
      MostSignificant (failingLifecycleConditions administrative aok enforcement eok) code := by
  obtain ⟨some_failing, hsome⟩ := List.exists_mem_of_ne_nil _ h
  have hfound : (refusalPrecedence.find?
      (· ∈ failingLifecycleConditions administrative aok enforcement eok)).isSome := by
    rw [List.find?_isSome]
    exact ⟨some_failing, mem_refusalPrecedence some_failing, by simpa using hsome⟩
  obtain ⟨code, hcode⟩ := Option.isSome_iff_exists.mp hfound
  refine ⟨code, ?_, mostSignificant_of_find hcode⟩
  simp only [evaluateLifecycleAuthorization, if_neg h, hcode, Option.getD_some]

namespace AuthorizationService

def postureUnavailable (agentId toolId : String) (resource : Option String) :
    AuthorizationResult :=
  let reason := "Security posture authority unavailable (fail-closed)"
  { decision := .deny
    agentId
    toolId
    resource
    agentCheck := ⟨.failed, reason, none, [("agent_id", agentId)]⟩
    toolCheck := notEvaluatedCheck "agent_check"
    approvedToolCheck := notEvaluatedCheck "agent_check"
    statusCheck := notEvaluatedCheck "agent_check"
    riskTierCheck := notEvaluatedCheck "agent_check"
    resourceCheck := notEvaluatedCheck "agent_check"
    reason }

def evaluateReadings (record : Option Agent) (tools : ToolService) (r : LifecycleReadings)
    (agentId toolId : String) (resource : Option String) :
    Except AgentReadError AuthorizationResult :=
  match r.getAgent record with
  | .error .agentNotFound => .ok (agentUnregistered agentId toolId resource)
  | .error .enforcementStateUnavailable => .ok (postureUnavailable agentId toolId resource)
  | .error .administrativeStateUnavailable => .error .administrativeStateUnavailable
  | .ok agent => .ok (evaluateAgent agent tools agentId toolId resource r.lifecycleRefusal)

theorem evaluateReadings_ofState (agents : AgentService) (tools : ToolService)
    (agentId toolId : String) (resource : Option String) :
    evaluateReadings (agents.agents.get agentId) tools (.ofState agents agentId) agentId toolId
      resource = .ok (evaluate agents tools agentId toolId resource) := by
  simp only [evaluateReadings, LifecycleReadings.getAgent, evaluate, AgentService.getAgent]
  cases agents.agents.get agentId with
  | none => rfl
  | some agent => rfl

def Approved (agent : Agent) (tools : ToolService) (toolId : String) : Prop :=
  tools.familyExists toolId = true ∧ toolId ∈ agent.approvedTools

theorem evaluateAgent_refused {agent : Agent} {tools : ToolService} {toolId : String}
    (happroved : Approved agent tools toolId) (agentId : String) (resource : Option String)
    (code : LifecycleRefusalCode) :
    (evaluateAgent agent tools agentId toolId resource (some code)).decision = .deny ∧
      (evaluateAgent agent tools agentId toolId resource (some code)).statusCheck =
        (lifecycleDenial agent.agentId code).statusCheck := by
  obtain ⟨hfamily, hmem⟩ := happroved
  simp only [evaluateAgent]
  cases hgovernance : tools.getFamilyGovernance toolId with
  | none =>
    rw [ToolService.getFamilyGovernance_eq_none, hfamily] at hgovernance
    cases hgovernance
  | some governance =>
    simp only [hmem, not_true_eq_false, ↓reduceIte]
    exact ⟨rfl, rfl⟩

variable (record : Option Agent) (tools : ToolService) (r : LifecycleReadings)
  (agentId toolId : String) (resource : Option String)

def Returns : Prop :=
  ∃ result, evaluateReadings record tools r agentId toolId resource = .ok result

def DeniesOutage : Prop :=
  r.administrativeAvailable = false ∨ r.enforcementAvailable = false →
    ∀ result, evaluateReadings record tools r agentId toolId resource = .ok result →
      result.decision = .deny

def SurfacesRefusal : Prop :=
  ∀ agent, record = some agent → Approved agent tools toolId → r.failing ≠ [] →
    ∃ result code, evaluateReadings record tools r agentId toolId resource = .ok result ∧
      MostSignificant r.failing code ∧ result.decision = .deny ∧
      result.statusCheck.status = .failed ∧ result.statusCheck.code = some code.value

structure OutageDenied : Prop where
  returns : Returns record tools r agentId toolId resource
  denies : DeniesOutage record tools r agentId toolId resource
  surfaces : SurfacesRefusal record tools r agentId toolId resource

variable {record tools r agentId toolId resource}

theorem denies_outage : DeniesOutage record tools r agentId toolId resource := by
  intro hdown result hresult
  simp only [evaluateReadings] at hresult
  split at hresult
  · cases hresult
    rfl
  · cases hresult
    rfl
  · cases hresult
  · rename_i agent hagent
    cases hresult
    by_contra hdecision
    have hrefusal := evaluateAgent_permits hdecision
    simp only [LifecycleReadings.lifecycleRefusal] at hrefusal
    obtain ⟨hadministrative, henforcement, -, -⟩ :=
      evaluateLifecycleAuthorization_eq_none.mp hrefusal
    simp only [LifecycleReadings.getAgent] at hagent
    simp only [LifecycleReadings.administrativeAvailable, LifecycleReadings.enforcementAvailable,
      hadministrative, henforcement, Bool.and_true] at hdown
    cases record with
    | none => cases hagent
    | some agent' =>
      rcases henf : r.agentEnforcement with enforcement | _
      · rcases hadm : r.agentAdministrative with administrative | _
        · simp only [henf, hadm, PlaneRead.available, Bool.true_eq_false, or_self] at hdown
        · simp only [henf, hadm] at hagent
          cases hagent
      · simp only [henf] at hagent
        cases hagent

theorem returns_iff : Returns record tools r agentId toolId resource ↔
    record = none ∨ r.agentEnforcement.available = false ∨
      r.agentAdministrative.available = true := by
  simp only [Returns, evaluateReadings, LifecycleReadings.getAgent]
  cases record with
  | none => simp
  | some agent =>
    cases r.agentEnforcement with
    | raises => simp [PlaneRead.available]
    | answers enforcement => cases r.agentAdministrative <;> simp [PlaneRead.available]

theorem surfaces_of_available (henf : r.agentEnforcement.available = true)
    (hadm : r.agentAdministrative.available = true) :
    SurfacesRefusal record tools r agentId toolId resource := by
  intro agent hrecord happroved hfailing
  have hconditions : r.failing = failingLifecycleConditions r.planeAdministrative.value
      r.planeAdministrative.available r.planeEnforcement.value r.planeEnforcement.available := by
    simp only [LifecycleReadings.failing, LifecycleReadings.administrativeAvailable,
      LifecycleReadings.enforcementAvailable, henf, hadm, Bool.true_and]
  rw [hconditions] at hfailing ⊢
  obtain ⟨code, hcode, hmost⟩ := evaluateLifecycleAuthorization_mostSignificant hfailing
  cases hagentEnf : r.agentEnforcement with
  | raises => simp [hagentEnf, PlaneRead.available] at henf
  | answers enforcement =>
    cases hagentAdm : r.agentAdministrative with
    | raises => simp [hagentAdm, PlaneRead.available] at hadm
    | answers administrative =>
      let projected : Agent :=
        { agent with status := AgentService.projectStatus administrative enforcement }
      have happroved' : Approved projected tools toolId := happroved
      obtain ⟨hdeny, hstatus⟩ := evaluateAgent_refused happroved' agentId resource code
      refine ⟨evaluateAgent projected tools agentId toolId resource (some code), code, ?_, hmost,
        hdeny, ?_, ?_⟩
      · simp only [evaluateReadings, LifecycleReadings.getAgent, hrecord, hagentEnf, hagentAdm,
          LifecycleReadings.lifecycleRefusal, hcode]
        rfl
      · rw [hstatus]
        rfl
      · rw [hstatus]
        rfl

theorem failing_of_enforcement (h : r.agentEnforcement.available = false) : r.failing ≠ [] := by
  simp [LifecycleReadings.failing, LifecycleReadings.enforcementAvailable, h,
    failingLifecycleConditions, failingEnforcementConditions]

theorem failing_of_administrative (h : r.agentAdministrative.available = false) :
    r.failing ≠ [] := by
  simp [LifecycleReadings.failing, LifecycleReadings.administrativeAvailable, h,
    failingLifecycleConditions, failingAdministrativeConditions]

theorem surfaces_iff : SurfacesRefusal record tools r agentId toolId resource ↔
    ∀ agent, record = some agent → Approved agent tools toolId →
      r.agentEnforcement.available = true ∧ r.agentAdministrative.available = true := by
  constructor
  · intro hsurfaces agent hrecord happroved
    cases henf : r.agentEnforcement with
    | raises =>
      have hdown : r.agentEnforcement.available = false := by rw [henf]; rfl
      obtain ⟨result, code, hresult, -, -, hfailed, -⟩ :=
        hsurfaces agent hrecord happroved (failing_of_enforcement hdown)
      simp only [evaluateReadings, LifecycleReadings.getAgent, hrecord, henf, Except.ok.injEq]
        at hresult
      rw [← hresult] at hfailed
      cases hfailed
    | answers enforcement =>
      cases hadm : r.agentAdministrative with
      | answers administrative => exact ⟨rfl, rfl⟩
      | raises =>
        have hdown : r.agentAdministrative.available = false := by rw [hadm]; rfl
        obtain ⟨result, code, hresult, -⟩ :=
          hsurfaces agent hrecord happroved (failing_of_administrative hdown)
        simp only [evaluateReadings, LifecycleReadings.getAgent, hrecord, henf, hadm] at hresult
        cases hresult
  · intro hanswers agent hrecord happroved
    obtain ⟨henf, hadm⟩ := hanswers agent hrecord happroved
    exact surfaces_of_available henf hadm agent hrecord happroved

def OutageHandled (record : Option Agent) (tools : ToolService) (r : LifecycleReadings)
    (toolId : String) : Prop :=
  ∀ agent, record = some agent →
    (r.agentEnforcement.available = true ∧ r.agentAdministrative.available = true) ∨
      (r.agentEnforcement.available = false ∧ ¬ Approved agent tools toolId)

theorem lifecycle_outage_denied_iff :
    (OutageDenied record tools r agentId toolId resource ↔ OutageHandled record tools r toolId) ∧
      (Returns record tools r agentId toolId resource ∧
          DeniesOutage record tools r agentId toolId resource ↔
        record = none ∨ r.agentEnforcement.available = false ∨
          r.agentAdministrative.available = true) ∧
      (r.agentEnforcement.available = true ∧ r.agentAdministrative.available = true →
        SurfacesRefusal record tools r agentId toolId resource) := by
  refine ⟨⟨?_, ?_⟩, ⟨fun h => returns_iff.mp h.1, fun h => ⟨returns_iff.mpr h, denies_outage⟩⟩,
    fun h => surfaces_of_available h.1 h.2⟩
  · intro hdenied agent hrecord
    by_cases happroved : Approved agent tools toolId
    · exact Or.inl (surfaces_iff.mp hdenied.surfaces agent hrecord happroved)
    · rcases returns_iff.mp hdenied.returns with hnone | henf | hadm
      · rw [hrecord] at hnone
        cases hnone
      · exact Or.inr ⟨henf, happroved⟩
      · cases henf : r.agentEnforcement.available with
        | false => exact Or.inr ⟨rfl, happroved⟩
        | true => exact Or.inl ⟨rfl, hadm⟩
  · intro hhandled
    refine ⟨returns_iff.mpr ?_, denies_outage, surfaces_iff.mpr ?_⟩
    · cases hrecord : record with
      | none => exact Or.inl rfl
      | some agent =>
        rcases hhandled agent hrecord with ⟨-, hadm⟩ | ⟨henf, -⟩
        · exact Or.inr (Or.inr hadm)
        · exact Or.inr (Or.inl henf)
    · intro agent hrecord happroved
      rcases hhandled agent hrecord with hanswers | ⟨-, hunapproved⟩
      · exact hanswers
      · exact absurd happroved hunapproved

theorem administrative_outage_escapes :
    ¬ OutageDenied (some ⟨"agent-1", "Agent", "owner", .medium, ["ticket_read"], .registered⟩)
      ⟨Dict.empty.set ("ticket_read", "1.0") ⟨"ticket_read", "1.0", .low, true⟩⟩
      { agentEnforcement := .answers none
        agentAdministrative := .raises
        planeAdministrative := .raises
        planeEnforcement := .answers none } "agent-1" "ticket_read" none := by
  rintro ⟨⟨result, hresult⟩, -, -⟩
  cases hresult

end AuthorizationService

end AgentSecurityPlatform
