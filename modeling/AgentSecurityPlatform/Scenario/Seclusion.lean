import AgentSecurityPlatform.Crossings.Archive
import AgentSecurityPlatform.Posture.Laundering
import AgentSecurityPlatform.Posture.PartialWrite
import AgentSecurityPlatform.Scenario.Runner

namespace AgentSecurityPlatform

def Finding.InScenario (sessionId : String) (f : Finding) : Prop :=
  f.sessionId = sessionId ∧ f.agentId = scenarioAgentId ∧ f.status = .opened

theorem detectionEngine_opened {rules : List ContentRule} {h : Hashing} {c : DetectionContext}
    {f : Finding} (hf : f ∈ detectionEngine rules h c) : f.status = .opened := by
  obtain ⟨rule, -, hf⟩ := List.mem_flatMap.mp hf
  cases rule with
  | promptInjection =>
    simp only [ContentRule.evaluate, promptInjectionRule] at hf
    split at hf
    · cases hf
    · obtain rfl := List.mem_singleton.mp hf
      rfl
  | sensitiveFileAccess =>
    simp only [ContentRule.evaluate, sensitiveFileAccessRule] at hf
    split at hf
    · cases hf
    · obtain rfl := List.mem_singleton.mp hf
      rfl
  | dataExfiltration =>
    simp only [ContentRule.evaluate, dataExfiltrationRule] at hf
    split at hf
    · obtain rfl := List.mem_singleton.mp hf
      rfl
    · cases hf

theorem detectExcessiveDenials_inScenario {h : Hashing} {windowSeconds now evaluationTime : Instant}
    {events : List SessionEvent} {priors : List Finding} {generation : Nat} {sessionId : String}
    (hevents : ∀ e ∈ events, e.sessionId = sessionId ∧ e.agentId = scenarioAgentId) {f : Finding}
    (hf : f ∈ detectExcessiveDenials h windowSeconds now events evaluationTime priors generation) :
    f.InScenario sessionId := by
  rw [detectExcessiveDenials_agent (fun e he => (hevents e he).2)] at hf
  simp only [denialFinding, Option.mem_toList] at hf
  split at hf
  · cases hf
  · split at hf
    · rename_i first last hfirst hlast
      cases hf
      have hmem := List.mem_of_getLast? hlast
      exact ⟨(hevents last (List.mem_filter.mp hmem).1).1, rfl, rfl⟩
    · cases hf

theorem AgentRiskAggregate.Summarises.scored {p : AgentRiskAggregate} {m : BaselineWatermark}
    {findings : List Finding} (h : p.Summarises m findings)
    (hactive : ∀ f ∈ findings, f.active = true) :
    p.riskLevel = levelForScore (scoreFindings findings) := by
  have hcounts : p.countsBySeverity = (Tally.ofFindings p.ruleVocabulary findings).bySeverity :=
    congrArg Tally.bySeverity h.tally
  rw [h.level, h.score, hcounts, (Tally.ofFindings_counts p.ruleVocabulary hactive).2.2]

-- the one session of a pipeline that nobody else uses and nobody ends
structure SecludedSessions (sessionId : String) (r : SessionRepository) : Prop where
  events : ∀ x ∈ r.events, x.sessionId = sessionId
  live : r.tombstones = .empty
  owner : ∀ s, r.sessions.get? sessionId = some s → s.agentId = scenarioAgentId

namespace SecludedSessions

variable {sessionId : String} {r : SessionRepository}

theorem bind (h : SecludedSessions sessionId r) (now : Instant) :
    ∃ r' s, SessionService.bindOrValidate r sessionId scenarioAgentId now = (r', .ok s) ∧
      SecludedSessions sessionId r' ∧ r'.events = r.events ∧
      ∃ s, r'.sessions.get? sessionId = some s := by
  have hlive : r.tombstones.get? sessionId = none := by rw [h.live]; rfl
  simp only [SessionService.bindOrValidate, SessionRepository.bindOrCreateSession, hlive]
  cases hget : r.sessions.get? sessionId with
  | none =>
    refine ⟨_, _, rfl, ⟨h.events, h.live, ?_⟩, rfl, by simp [SessionRepository.withSessions]⟩
    intro s hs
    simp only [SessionRepository.withSessions, Dict.get?_set, if_true, Option.some.injEq] at hs
    rw [← hs]
  | some existing =>
    have howner := h.owner existing hget
    simp only [howner, ne_eq, not_true_eq_false, if_false]
    refine ⟨_, _, rfl, ⟨h.events, h.live, ?_⟩, rfl, by simp [SessionRepository.withSessions]⟩
    intro s hs
    simp only [SessionRepository.withSessions, Dict.get?_set, if_true, Option.some.injEq] at hs
    rw [← hs]

theorem record (h : SecludedSessions sessionId r) {active : Session}
    (hactive : r.sessions.get? sessionId = some active) {e : SessionEvent}
    (hs : e.sessionId = sessionId) (ha : e.agentId = scenarioAgentId)
    (hn : e.sequenceNumber = 0) (hm : e.agentSequence = 0) :
    ∃ r' x, SessionService.recordEvent none r e = (r', .ok x) ∧ SecludedSessions sessionId r' ∧
      r'.events.map (·.toolId) = r.events.map (·.toolId) ++ [e.toolId] := by
  subst hs
  have hlive : r.tombstones.get? e.sessionId = none := by rw [h.live]; rfl
  have howner : active.agentId = e.agentId := (h.owner active hactive).trans ha.symm
  refine ⟨(r.appendEvent e active).1, (r.appendEvent e active).2, ?_, ⟨?_, h.live, ?_⟩, ?_⟩
  · simp [SessionService.recordEvent, SessionRepository.recordEvent, hlive, hactive, howner, hn, hm,
      SessionService.pruneEvents]
  · intro x hx
    simp only [SessionRepository.appendEvent] at hx
    rcases List.mem_append.mp hx with hx | hx
    · exact h.events x hx
    · rw [List.mem_singleton.mp hx]
  · intro s hs
    simp only [SessionRepository.appendEvent, Dict.get?_set, if_true, Option.some.injEq] at hs
    rw [← hs]
    exact h.owner active hactive
  · simp [SessionRepository.appendEvent]

theorem finalize (h : SecludedSessions sessionId r) {e : SessionEvent}
    (hp : SessionRepository.Pending r.events e) (hk : r.Known e.sessionId) (decision : Decision) :
    ∃ r', r.updateEventFinalDecision e.sessionId e.sequenceNumber decision = (r', .ok ()) ∧
      SecludedSessions sessionId r' ∧ r'.events.map (·.toolId) = r.events.map (·.toolId) := by
  have hlive : r.getTombstone e.sessionId = none := by
    rw [SessionRepository.getTombstone, h.live]
    rfl
  obtain ⟨r', hu, hevents⟩ :=
    SessionRepository.updateEventFinalDecision_pending decision hp hk hlive
  obtain ⟨hsessions, htombstones, -⟩ :=
    r.updateEventFinalDecision_counters e.sessionId e.sequenceNumber decision
  rw [hu] at hsessions htombstones
  obtain ⟨before, hbefore, -⟩ := hp.last
  rw [hbefore, List.dropLast_concat] at hevents
  refine ⟨r', hu, ⟨?_, htombstones.trans h.live, hsessions ▸ h.owner⟩, by simp [hevents, hbefore]⟩
  intro x hx
  rw [hevents] at hx
  rcases List.mem_append.mp hx with hx | hx
  · exact h.events x (by rw [hbefore]; exact List.mem_append_left _ hx)
  · rw [List.mem_singleton.mp hx]
    exact h.events e (by rw [hbefore]; simp)

end SecludedSessions

namespace World

variable {w v : World} {sessionId : String} {now : Instant}

def recorded (w : World) : List Finding := w.findings.findings.values

def recordedScore (w : World) : Nat := scoreFindings w.recorded

def recordedLevel (w : World) : RiskLevel := levelForScore w.recordedScore

def freshBaseline : BaselineWatermark := { agentId := scenarioAgentId, baselineAt := none }

-- a pipeline that only the scenario agent uses, in one session, and that never recovers
structure Secluded (sessionId : String) (w : World) : Prop where
  structural : w.Structural
  projected : w.Projected
  unbased : w.persistedBaseline scenarioAgentId = freshBaseline
  own : ∀ f ∈ w.recorded, f.InScenario sessionId
  sessions : SecludedSessions sessionId w.sessions
  issuer : w.authority.authorityId ≠ ""

theorem Secluded.congr (h : w.Secluded sessionId) (hagents : v.agents = w.agents)
    (hfindings : v.findings = w.findings) (haggregator : v.aggregator = w.aggregator)
    (hsessions : SecludedSessions sessionId v.sessions) (hissuer : v.authority.authorityId ≠ "") :
    v.Secluded sessionId := by
  obtain ⟨agents, sessions, findings, aggregator, authority, audit⟩ := v
  cases hagents
  cases hfindings
  cases haggregator
  exact ⟨⟨h.structural.grounded, h.structural.sequenced, h.structural.baseline,
    h.structural.anchored⟩, h.projected, h.unbased, h.own, hsessions, hissuer⟩

theorem Secluded.owned (h : w.Secluded sessionId) :
    w.postBaselineOf scenarioAgentId = w.recorded ∧ ∀ f ∈ w.recorded, f.active = true := by
  have hagent : w.findings.ofAgent scenarioAgentId = w.recorded := by
    apply List.filter_eq_self.mpr
    intro f hf
    exact decide_eq_true (h.own f hf).2.1
  constructor
  · rw [postBaselineOf, hagent, h.unbased]
    apply List.filter_eq_self.mpr
    intro f hf
    have hpos := (h.structural.sequenced.positioned f hf).1
    simp [AgentRiskAggregate.postBaseline, freshBaseline, (h.own f hf).2.1, hpos]
  · intro f hf
    simp [Finding.active, activeStatuses, (h.own f hf).2.2]

theorem Secluded.priorFindings (h : w.Secluded sessionId) {r : ExecuteRequest}
    (hs : r.sessionId = sessionId) (ha : r.agentId = scenarioAgentId) :
    w.priorFindings r = w.recorded := by
  apply List.filter_eq_self.mpr
  intro f hf
  obtain ⟨hfs, hfa, -⟩ := h.own f hf
  simp [FindingsService.matchesFilter, hfs, hfa, hs, ha]

-- the score of a request is taken over every finding of the run so far
structure Rates (w : World) (risk : RiskAssessment) : Prop where
  score : risk.riskScore = w.recordedScore
  level : risk.riskLevel = w.recordedLevel

theorem Secluded.assessSession (h : w.Secluded sessionId) (now : Instant) {r : ExecuteRequest}
    (hs : r.sessionId = sessionId) (ha : r.agentId = scenarioAgentId) :
    ∃ risk, AgentSecurityPlatform.assessSession now r.sessionId r.agentId (w.priorFindings r) =
      some risk ∧ w.Rates risk := by
  have hall : w.recorded.all (fun f => f.sessionId = r.sessionId && f.agentId = r.agentId) =
    true := by
    rw [List.all_eq_true]
    intro f hf
    simp [(h.own f hf).1, (h.own f hf).2.1, hs, ha]
  rw [h.priorFindings hs ha]
  exact ⟨_, by rw [AgentSecurityPlatform.assessSession, if_pos hall], rfl, rfl⟩

theorem assessAgentPosture_some (hst : w.Structural) (now : Instant) (agentId : String) :
    ∃ posture, (w.assessAgentPosture now agentId).2 = some posture := by
  obtain ⟨hanch, -, hhealthy, hok⟩ :=
    (w.aggregator.projectionOr agentId
      (w.persistedBaseline agentId) now).rebuildFromFindings_summarises
        now (w.findings.ofAgent agentId) (w.persistedBaseline agentId)
  have hreconciled : ∃ posture, (w.reconcilePosture now agentId).2 = some posture := by
    unfold reconcilePosture RiskAggregator.reconcileAgent
    rw [storedBaseline_eq hst.grounded, FindingsService.listFindings_agent,
      ← Prod.mk.eta (p := AgentRiskAggregate.rebuildFromFindings _ _ _ _), hok]
    simp [RiskAggregator.settle, hanch.snapshot, hhealthy]
  unfold assessAgentPosture
  split
  · rename_i e he
    unfold RiskAggregator.getPosture at he
    split at he
    · cases he
    · rename_i q hq
      rw [(hst.anchored agentId q hq).snapshot] at he
      cases he
  · split
    · exact ⟨_, rfl⟩
    · exact hreconciled

theorem Secluded.assessed (h : w.Secluded sessionId) {posture : AgentRiskPosture}
    (hp : (w.assessAgentPosture now scenarioAgentId).2 = some posture) :
    posture.riskLevel = w.recordedLevel := by
  obtain ⟨hpost, hactive⟩ := h.owned
  have hsnapshot : ∃ p : AgentRiskAggregate, p.snapshot = .ok posture ∧
      p.Summarises (w.persistedBaseline scenarioAgentId) w.recorded := by
    obtain ⟨-, ⟨p, hget, hsnap, hhealthy⟩ | hsnap⟩ := assessed_healthy h.structural hp
    · exact ⟨p, hsnap, hpost ▸ h.projected _ p hget hhealthy⟩
    · have hsum := ((w.aggregator.projectionOr scenarioAgentId
        (w.persistedBaseline scenarioAgentId) now).rebuildFromFindings_summarises now
          (w.findings.ofAgent scenarioAgentId) (w.persistedBaseline scenarioAgentId)).2.1
      rw [(projectionOr_identity h.structural scenarioAgentId _ now rfl).1] at hsum
      exact ⟨_, hsnap, hpost ▸ hsum⟩
  obtain ⟨p, hsnap, hsum⟩ := hsnapshot
  have hlevel := hsum.scored hactive
  unfold AgentRiskAggregate.snapshot at hsnap
  split at hsnap
  · cases hsnap
  · cases hsnap
    exact hlevel

-- a step of the evidence stores that leaves the findings and the baseline alone
theorem Secluded.posture (h : w.Secluded sessionId) (p : PostureStep) (hread : w.ReadsPresent p)
    (hfindings : (w.posture p).findings = w.findings)
    (hbaseline : (w.posture p).persistedBaseline scenarioAgentId =
      w.persistedBaseline scenarioAgentId) (hsessions : (w.posture p).sessions = w.sessions)
    (hauthority : (w.posture p).authority = w.authority) : (w.posture p).Secluded sessionId := by
  refine ⟨structural_step h.structural p, projected_step h.structural h.projected p hread,
    hbaseline.trans h.unbased, ?_, hsessions ▸ h.sessions, hauthority ▸ h.issuer⟩
  rw [recorded, hfindings]
  exact h.own

theorem acceptFindings_added (w : World) (now : Instant) (agentId : String) (batch : List Finding) :
    ∃ added, (w.acceptFindings now agentId batch).1.recorded = w.recorded ++ added ∧
      ∀ f ∈ added, FindingsService.Stamps batch f := by
  have huncut : w.findings.recordNewUntil now batch.length batch = _ :=
    FindingsService.recordNewUntil_enough (le_refl _)
  obtain ⟨added, hadded, hstamped⟩ := (FindingsService.recordNewUntil_extends huncut).values
  exact ⟨added, hadded, fun f hf => (hstamped f hf).2⟩

theorem Secluded.accept (h : w.Secluded sessionId) (now : Instant) (agentId : String)
    {batch : List Finding} (hbatch : ∀ f ∈ batch, f.InScenario sessionId) :
    (w.acceptFindings now agentId batch).1.Secluded sessionId ∧
      (w.acceptFindings now agentId batch).1.recorded =
        w.recorded ++ (w.acceptFindings now agentId batch).2 := by
  let p : PostureStep := ⟨now, now, "", "", .accept agentId batch⟩
  have hvalues : (w.acceptFindings now agentId batch).1.recorded =
      w.recorded ++ (w.acceptFindings now agentId batch).2 :=
    (FindingsService.recordNewFindings_records h.structural.sequenced now batch).values
  refine ⟨⟨structural_step h.structural p, projected_step h.structural h.projected p trivial,
    h.unbased, ?_, h.sessions, h.issuer⟩, hvalues⟩
  obtain ⟨added, hadded, hstamped⟩ := w.acceptFindings_added now agentId batch
  intro f hf
  rw [hadded] at hf
  rcases List.mem_append.mp hf with hf | hf
  · exact h.own f hf
  · obtain ⟨g, hg, n, t, rfl⟩ := hstamped f hf
    exact hbatch g hg

theorem Secluded.assess (h : w.Secluded sessionId) (now : Instant) :
    (w.assessAgentPosture now scenarioAgentId).1.Secluded sessionId ∧
      (w.assessAgentPosture now scenarioAgentId).1.findings = w.findings ∧
      (w.assessAgentPosture now scenarioAgentId).1.sessions = w.sessions := by
  have hkept : (w.assessAgentPosture now scenarioAgentId).1.findings = w.findings ∧
      (w.assessAgentPosture now scenarioAgentId).1.sessions = w.sessions ∧
      (w.assessAgentPosture now scenarioAgentId).1.agents = w.agents ∧
      (w.assessAgentPosture now scenarioAgentId).1.authority = w.authority := by
    unfold assessAgentPosture reconcilePosture
    repeat' split
    all_goals exact ⟨rfl, rfl, rfl, rfl⟩
  obtain ⟨hfindings, hsessions, hagents, hauthority⟩ := hkept
  let p : PostureStep := ⟨now, now, "", "", .assess scenarioAgentId⟩
  refine ⟨h.posture p trivial hfindings ?_ hsessions hauthority, hfindings, hsessions⟩
  exact persistedBaseline_congr (congrArg AgentService.enforcement hagents) scenarioAgentId

theorem Secluded.suspend (h : w.Secluded sessionId) (now : Instant) (uuid agentId reason : String)
    (trigger : Option EnforcementTrigger) :
    (w.suspendAgent now uuid agentId reason trigger).1.Secluded sessionId := by
  let p : PostureStep := ⟨now, now, uuid, "", .suspend agentId reason trigger⟩
  obtain ⟨heff, -⟩ := effect_suspend h.structural.grounded (s := p) agentId reason trigger
  refine h.posture p trivial rfl ?_ rfl rfl
  cases heff with
  | quiet hsame _ => exact hsame.baseline scenarioAgentId
  | staled _ hsame _ => exact hsame.baseline scenarioAgentId
  | rebuilt _ hsame _ => exact hsame.baseline scenarioAgentId
  | accepted _ _ hop _ _ => cases hop
  | reinstated _ _ _ hop _ _ _ _ => cases hop
  | repaired _ hop _ _ => cases hop

end World

end AgentSecurityPlatform
