import AgentSecurityPlatform.Scenario.Verdicts

namespace AgentSecurityPlatform

def DetectionContext.ofPrompt (userPrompt : String) : DetectionContext :=
  ⟨"scenario-run", scenarioAgentId, userPrompt, "", "", 0, "", by decide, by decide⟩

-- some content rule in force reports on the prompt alone
def Deployment.Reports (d : Deployment) (userPrompt : String) : Prop :=
  ∃ rule ∈ d.rules, (rule.matchedIndicators d.hashing (.ofPrompt userPrompt)).isSome = true

theorem ContentRule.matchedIndicators_congr (rule : ContentRule) (h : Hashing)
    {c c' : DetectionContext}
    (hinputs : c.textInputs = c'.textInputs) (hprompt : c.userPrompt = c'.userPrompt)
    (hresource : c.resource = c'.resource) :
    rule.matchedIndicators h c = rule.matchedIndicators h c' := by
  cases rule <;> simp only [matchedIndicators, hinputs, hprompt, hresource]

theorem detectionEngine_matched {rules : List ContentRule} {h : Hashing} {c : DetectionContext}
    {f : Finding} (hf : f ∈ detectionEngine rules h c) :
    ∃ rule m, f.Matched h rule m c.triggeringEventSequence ∧ f.severity = .high := by
  obtain ⟨rule, -, hf⟩ := List.mem_flatMap.mp hf
  rcases rule.evaluate_eq h c with ⟨-, hnil⟩ | ⟨m, category, description, hm, heval⟩
  · rw [hnil] at hf
    cases hf
  · obtain ⟨hcount, hplain⟩ := ContentRule.matchedIndicators_plain hm
    rw [heval] at hf
    obtain rfl := List.mem_singleton.mp hf
    exact ⟨rule, m, ⟨rfl, hcount, hplain, rfl, rfl, rfl⟩, rfl⟩

theorem detectionEngine_ne_nil {rules : List ContentRule} {h : Hashing} {c : DetectionContext}
    {rule : ContentRule} (hrule : rule ∈ rules) (hm : (rule.matchedIndicators h c).isSome = true) :
    detectionEngine rules h c ≠ [] := by
  rcases rule.evaluate_eq h c with ⟨hnone, -⟩ | ⟨m, category, description, -, heval⟩
  · rw [hnone] at hm
    cases hm
  · intro hnil
    have hmem : contentFinding h c rule.ruleName category description m ∈
      detectionEngine rules h c :=
      List.mem_flatMap.mpr ⟨rule, hrule, by rw [heval]; exact List.mem_singleton_self _⟩
    rw [hnil] at hmem
    cases hmem

theorem Deployment.prepare_toolRequest (d : Deployment) (sessionId userPrompt toolId : String) :
    (d.prepare (ScenarioSandbox.toolRequest sessionId userPrompt toolId)).resource = none := by
  have hplain : d.needsFilesystemIdentity
    (ScenarioSandbox.toolRequest sessionId userPrompt toolId) =
      false := by
    simp [needsFilesystemIdentity, ScenarioSandbox.toolRequest, Dict.contains]
  simp only [prepare, hplain, Bool.false_eq_true, if_false]
  cases d.resolvedVersion (ScenarioSandbox.toolRequest sessionId userPrompt toolId).toolId with
  | none => rfl
  | some version =>
    simp only [bindOperation]
    split
    · rename_i binding hb
      have hconstruct : ExecutionBinding.construct toolId version none [] = some binding := hb
      unfold ExecutionBinding.construct at hconstruct
      split at hconstruct
      · cases hconstruct
        rfl
      · cases hconstruct
    · rfl

theorem SessionService.bindOrValidate_sequences (r : SessionRepository) (sessionId agentId : String)
    (now : Instant) : (SessionService.bindOrValidate r sessionId agentId now).1.sessionSequences =
      r.sessionSequences := by
  unfold bindOrValidate SessionRepository.bindOrCreateSession
  split
  · rfl
  · split
    · rfl
    · split <;> rfl

theorem SessionService.recordEvent_numbered {r r' : SessionRepository} {e x : SessionEvent}
    (h : SessionService.recordEvent none r e = (r', .ok x)) :
    x.sequenceNumber = r.sessionSequences.getD e.sessionId 0 + 1 ∧
      r'.sessionSequences.getD e.sessionId 0 = x.sequenceNumber ∧ x.sessionId = e.sessionId := by
  unfold SessionService.recordEvent at h
  split at h
  · cases h
  · rename_i r₁ x₁ hrecord
    simp only [Prod.mk.injEq, Except.ok.injEq] at h
    obtain ⟨rfl, rfl⟩ := h
    obtain ⟨active, -, -, -, heq⟩ := SessionRepository.recordEvent_ok hrecord
    obtain ⟨rfl, rfl⟩ := Prod.ext_iff.mp heq
    exact ⟨rfl, by simp [SessionService.pruneEvents, SessionRepository.appendEvent], rfl⟩

theorem Finding.Matched.stamped {h : Hashing} {rule : ContentRule} {f : Finding} {m : List String}
    {k : Nat} (hf : f.Matched h rule m k) (n : Nat) (t : Option Instant) :
    { f with evidenceSequence := n, recordedAt := t }.Matched h rule m k :=
  ⟨hf.named, hf.count, hf.plain, hf.identity, hf.evidence, hf.generation⟩

namespace World

variable {d : Deployment} {t : Tick} {w₀ w w' : World} {r : ExecuteRequest} {e e' : ExecuteThread}
  {h : Hashing} {n : Nat} {sessionId : String}

def sequenceOf (w : World) (sessionId : String) : Nat :=
  w.sessions.sessionSequences.getD sessionId 0

-- the findings so far come from the first n events of the session
def Numbered (h : Hashing) (n : Nat) (w : World) : Prop :=
  ∀ f ∈ w.recorded, f.IsCrossing h ∨ ∃ rule m k, f.Matched h rule m k ∧ k ≤ n

theorem Numbered.congr {v : World} (hw : w.Numbered h n) (hf : v.findings = w.findings) :
    v.Numbered h n := by
  intro f hmem
  rw [recorded, hf] at hmem
  exact hw f hmem

theorem Numbered.mono {k : Nat} (hw : w.Numbered h n) (hk : n ≤ k) : w.Numbered h k := by
  intro f hmem
  rcases hw f hmem with hcrossing | ⟨rule, m, j, hmatched, hj⟩
  · exact .inl hcrossing
  · exact .inr ⟨rule, m, j, hmatched, hj.trans hk⟩

-- the next event's content findings are new to the store
theorem Numbered.fresh (hinj : Function.Injective2 h.uuid5) (hw : w.Numbered h n)
    (hs : w.Secluded sessionId) {f : Finding} {rule : ContentRule} {m : List String}
    (hf : f.Matched h rule m (n + 1)) (hown : f.InScenario sessionId) :
    w.findings.findings.get? f.findingId = none := by
  rw [← Option.not_isSome_iff_eq_none]
  intro hsome
  obtain ⟨g, hg⟩ := Option.isSome_iff_exists.mp hsome
  have hmem : g ∈ w.recorded := (Dict.mem_values_iff _ _).mpr ⟨_, hg⟩
  have hid : g.findingId = f.findingId := hs.structural.sequenced.keyed _ g hg
  rcases hw g hmem with hcrossing | ⟨rule', m', k, hmatched, hk⟩
  · exact hf.ne_crossing hinj hcrossing hid.symm
  · have howner : g.owner = f.owner := by
      obtain ⟨hsession, hagent, -⟩ := hs.own g hmem
      rw [Finding.owner, Finding.owner, hsession, hagent, hown.1, hown.2.1]
    have hsame := hmatched.same_of_id hinj hf (fun _ => howner) hid
    have hevidence := hsame.evidence
    rw [hmatched.evidence, hf.evidence] at hevidence
    have hkn := List.singleton_inj.mp hevidence
    omega

structure Tripped (h : Hashing) (r : ExecuteRequest) (w : World) (findings : List Finding) :
    Prop where
  numbered : w.Numbered h (w.sequenceOf r.sessionId)
  reported : ∃ f ∈ findings, f.severity = .high

theorem Tripped.congr {v : World} {findings : List Finding} (hw : Tripped h r w findings)
    (hf : v.findings = w.findings)
    (hs : v.sessions.sessionSequences = w.sessions.sessionSequences) :
    Tripped h r v findings := by
  refine ⟨?_, hw.reported⟩
  rw [sequenceOf, hs]
  exact hw.numbered.congr hf

structure Pointed (h : Hashing) (r : ExecuteRequest) (w : World) (s : Recorded) : Prop where
  numbered : ∃ n, s.event.sequenceNumber = n + 1 ∧ w.Numbered h n
  bounded : s.event.sequenceNumber ≤ w.sequenceOf r.sessionId

def ReportsOn (h : Hashing) (s : Recorded) (content : List Finding) : Prop :=
  content ≠ [] ∧ ∀ f ∈ content, ∃ rule m, f.Matched h rule m s.event.sequenceNumber ∧
    f.severity = .high

def Tripping (h : Hashing) (r : ExecuteRequest) (w : World) : ExecuteThread → Prop
  | .start _ => w.Numbered h (w.sequenceOf r.sessionId)
  | .bound _ => w.Numbered h (w.sequenceOf r.sessionId)
  | .authorized _ => w.Numbered h (w.sequenceOf r.sessionId)
  | .captured _ => w.Numbered h (w.sequenceOf r.sessionId)
  | .recorded s => Pointed h r w s
  | .observed s => Pointed h r w s.toRecorded ∧ ReportsOn h s.toRecorded s.contentFindings
  | .detected s => Pointed h r w s.toRecorded ∧ ∃ content denials, s.batch = content ++ denials ∧
      ReportsOn h s.toRecorded content ∧ ∀ f ∈ denials, f.IsCrossing h
  | .accepted s => Tripped h r w s.findings
  | .rated s => Tripped h r w s.findings
  | .assessed s => Tripped h r w s.findings
  | .decided s => Tripped h r w s.findings
  | .finalized s => Tripped h r w s.findings
  | .withdrawn s => Tripped h r w s.findings
  | .contained s => Tripped h r w s.findings
  | .returned result => Tripped h r w result.findings
  | _ => True

theorem tripping_record {s : Captured} (hret : d.retention = none) (hs : s.request = r)
    (hw : w.Numbered h (w.sequenceOf r.sessionId)) :
    Tripping h r (w.recordEvent d t s).1 (w.recordEvent d t s).2 := by
  subst hs
  unfold recordEvent
  split
  · rename_i sessions event hrecord
    rw [hret] at hrecord
    obtain ⟨hnumber, hsequence, -⟩ := SessionService.recordEvent_numbered hrecord
    exact ⟨⟨_, hnumber, hw.congr rfl⟩, hsequence.ge⟩
  · trivial

theorem tripping_observe {s : Recorded} (hprompt : d.Reports s.request.userPrompt)
    (hmodel : s.request.modelOutput = "") (htool : s.request.toolOutput = "")
    (hresource : s.resource = none) (hp : Pointed d.hashing r w s) :
    Tripping d.hashing r w (w.observe d t s) := by
  unfold observe
  split
  · trivial
  · rename_i context hc
    split
    · trivial
    · simp only [DetectionContext.construct] at hc
      split at hc
      · cases hc
        refine ⟨hp, ?_, fun f hf => detectionEngine_matched hf⟩
        obtain ⟨rule, hrule, hm⟩ := hprompt
        refine detectionEngine_ne_nil hrule (Eq.trans ?_ hm)
        congr 1
        apply rule.matchedIndicators_congr d.hashing
        · simp [DetectionContext.textInputs, DetectionContext.ofPrompt, hmodel, htool]
        · rfl
        · simp [DetectionContext.ofPrompt, hresource]
      · cases hc

theorem tripping_detect {s : Observed} (hp : Pointed d.hashing r w s.toRecorded)
    (hcontent : ReportsOn d.hashing s.toRecorded s.contentFindings) :
    Tripping d.hashing r w (.detected (w.detect d t s)) := by
  refine ⟨hp, s.contentFindings, _, rfl, hcontent, ?_⟩
  intro f hf
  obtain ⟨agentId, -, hf⟩ := List.mem_filterMap.mp hf
  exact denialFinding_isCrossing hf

theorem tripping_accept {s : Detected} (hinj : Function.Injective2 h.uuid5)
    (ht : t.evidenceFault = none) (hw : w.Secluded r.sessionId)
    (hown : ∀ f ∈ s.batch, f.InScenario r.sessionId) (hI : Tripping h r w (.detected s)) :
    Tripping h r (w.acceptEvidence t s).1 (w.acceptEvidence t s).2 := by
  obtain ⟨⟨⟨n, hn, hnumbered⟩, hbounded⟩, content, denials, hbatch, ⟨hne, hcontent⟩, hdenials⟩ := hI
  have hlater : n ≤ w.sequenceOf r.sessionId := by omega
  simp only [acceptEvidence, ht]
  obtain ⟨added, hadded, hstamped⟩ := w.acceptFindings_added t.wall s.request.agentId s.batch
  refine ⟨?_, ?_⟩
  · intro f hf
    rw [hadded] at hf
    rcases List.mem_append.mp hf with hf | hf
    · exact hnumbered.mono hlater f hf
    · obtain ⟨g, hg, k, time, rfl⟩ := hstamped f hf
      rw [hbatch] at hg
      rcases List.mem_append.mp hg with hg | hg
      · obtain ⟨rule, m, hmatched, -⟩ := hcontent g hg
        exact .inr ⟨rule, m, _, hmatched.stamped k (some time), hbounded⟩
      · exact .inl ((hdenials g hg).stamped k (some time))
  · cases content with
    | nil => exact absurd rfl hne
    | cons f rest =>
      obtain ⟨rule, m, hmatched, hhigh⟩ := hcontent f (List.mem_cons_self ..)
      rw [hn] at hmatched
      have hnew := hnumbered.fresh hinj hw hmatched
        (hown f (by rw [hbatch]; exact List.mem_append_left _ (List.mem_cons_self ..)))
      have habsent : w.findings.findings.contains f.findingId = false :=
        (Dict.contains_eq_false_iff _ _).mpr hnew
      refine ⟨w.findings.assign t.wall f, ?_, hhigh⟩
      simp only [acceptFindings, hbatch, List.cons_append,
        FindingsService.recordNewFindings, habsent, Bool.false_eq_true, if_false,
        FindingsService.recordFindingLocked_absent hnew]
      exact List.mem_cons_self ..

-- a request of which detection reads nothing but a prompt that the rules report on
structure Prompted (d : Deployment) (r : ExecuteRequest) : Prop where
  prompt : d.Reports r.userPrompt
  modelOutput : r.modelOutput = ""
  toolOutput : r.toolOutput = ""
  resource : (d.prepare r).resource = none

theorem tripping_start (hw : w.Numbered h (w.sequenceOf r.sessionId)) :
    Tripping h r (w.bindSession d t r).1 (w.bindSession d t r).2 := by
  have hsequences := SessionService.bindOrValidate_sequences w.sessions r.sessionId r.agentId t.wall
  unfold bindSession
  split
  · rename_i sessions s hbind
    rw [hbind] at hsequences
    rw [sequenceOf, ← hsequences] at hw
    exact hw.congr rfl
  · split <;> trivial

theorem tripping_assess {s : Rated} (hr : Staged d r) (hw : w.Secluded r.sessionId)
    (hs : s.request = r) (hT : Tripped h r w s.findings) :
    Tripping h r (w.assess t s).1 (w.assess t s).2 := by
  obtain ⟨-, hfindings, hsessions⟩ := hw.assess t.wall
  unfold assess
  split
  · trivial
  · rename_i w' posture hp
    rw [hs, hr.agent] at hp
    rw [hp] at hfindings hsessions
    exact hT.congr hfindings (by rw [hsessions])

theorem tripping_finalize {s : Decided} (hT : Tripped h r w s.findings) :
    Tripping h r (w.finalize s).1 (w.finalize s).2 := by
  have hcounters := (w.sessions.updateEventFinalDecision_counters s.request.sessionId
    s.event.sequenceNumber s.finalDecision).2.2.1
  unfold finalize
  split
  · rename_i sessions hupdate
    rw [hupdate] at hcounters
    exact hT.congr rfl hcounters
  · trivial

theorem tripping_step (hr : Staged d r) (hprompted : Prompted d r)
    (hinj : Function.Injective2 d.hashing.uuid5) (ht : t.evidenceFault = none)
    (hw : w.Secluded r.sessionId) (htr : Tracks d w₀ r w e) (hI : Replaying w₀ r w e)
    (hT : Tripping d.hashing r w e) (h : w.execute d t e = some (w', e')) :
    Tripping d.hashing r w' e' := by
  cases e with
  | start q =>
    obtain rfl := htr.1
    have hnext := tripping_start (d := d) (t := t) hT
    rw [Option.some.inj h] at hnext
    exact hnext
  | bound s =>
    cases h
    exact hT
  | authorized s =>
    cases h
    exact hT
  | captured s =>
    have hnext := tripping_record (t := t) hr.unpruned (request_of_prepared htr.1) hT
    rw [Option.some.inj h] at hnext
    exact hnext
  | recorded s =>
    have hs := request_of_prepared htr.prepared
    cases h
    apply tripping_observe ?_ ?_ ?_ ?_ hT
    · rw [hs]
      exact hprompted.prompt
    · rw [hs]
      exact hprompted.modelOutput
    · rw [hs]
      exact hprompted.toolOutput
    · rw [htr.prepared]
      exact hprompted.resource
  | observed s =>
    cases h
    exact tripping_detect hT.1 hT.2
  | detected s =>
    have hnext := tripping_accept hinj ht hw hI.2 hT
    rw [Option.some.inj h] at hnext
    exact hnext
  | accepted s =>
    cases h
    unfold rate
    split
    · trivial
    · exact hT
  | rated s =>
    have hnext := tripping_assess (t := t) hr hw (request_of_prepared htr.prepared) hT
    rw [Option.some.inj h] at hnext
    exact hnext
  | assessed s =>
    have hd := decide_decides d t w s
    rw [Option.some.inj h] at hd
    cases hd with
    | withheld s' hs' =>
      subst hs'
      exact hT
    | granted s' _ _ _ _ _ hs' =>
      subst hs'
      exact hT.congr rfl rfl
    | failed => trivial
  | decided s =>
    have hnext := tripping_finalize hT
    rw [Option.some.inj h] at hnext
    exact hnext
  | finalized s =>
    simp only [execute] at h
    split at h <;> cases h <;> exact hT.congr rfl rfl
  | withdrawn s =>
    have hfst := contain_fst t w s
    have hsnd := (tracks_withdrawn (t := t) htr).2
    rw [Option.some.inj h] at hfst hsnd
    obtain rfl : w' = _ := hfst
    obtain rfl : e' = _ := hsnd
    exact hT.congr rfl rfl
  | contained s =>
    cases h
    exact hT.congr rfl rfl
  | returned result => cases h
  | raised error => exact hI.elim
  | bindingRefused s => exact hI.elim
  | refusing s reason findings => exact hI.elim
  | refused s reason findings => exact hI.elim

theorem call_tripped (ts : Fin callLength → Tick) (hr : Staged d r) (hprompted : Prompted d r)
    (hinj : Function.Injective2 d.hashing.uuid5)
    (hts : ∀ i, (ts i).horizonFault = false ∧ (ts i).evidenceFault = none)
    (hw : w.Secluded r.sessionId) (hn : w.Numbered d.hashing (w.sequenceOf r.sessionId))
    {result : RuntimeResult} (h : w.call d ts r = (w', .returned result)) :
    Tripped d.hashing r w' result.findings := by
  obtain ⟨-, -, -, -, htripping⟩ := alone_indexed
    (J := fun _ v f => Tracks d w r v f ∧ v.Secluded r.sessionId ∧ Replaying w r v f ∧
      Tripping d.hashing r v f) (List.ofFn ts) 0
    (by
      rintro m t v f v' f' ht ⟨htr, hv, hI, hT⟩ hstep
      obtain ⟨i, rfl⟩ := List.mem_ofFn.mp (List.mem_of_getElem? ht)
      obtain ⟨hv', hI'⟩ := replaying_step hr (hts i).1 (hts i).2 hv htr hI hstep
      exact ⟨tracks_step hstep htr, hv', hI',
        tripping_step hr hprompted hinj (hts i).2 hv htr hI hT hstep⟩)
    ⟨tracks_request d w r, hw, trivial, hn⟩
  rw [call] at h
  rw [h] at htripping
  exact htripping

theorem Grows.high_le {toolId : String} {findings : List Finding} (hg : Grows w₀ w toolId findings)
    (hf : ∃ f ∈ findings, f.severity = .high) : w₀.recordedScore + 50 ≤ w.recordedScore := by
  obtain ⟨f, hmem, hhigh⟩ := hf
  have hweight : 50 ≤ scoreFindings findings :=
    List.le_sum_of_mem (List.mem_map.mpr ⟨f, hmem, by rw [hhigh]; rfl⟩)
  have hsum : w.recordedScore = w₀.recordedScore + scoreFindings findings := by
    simp [recordedScore, scoreFindings, hg.recorded]
  omega

end World

namespace ScenarioRunner

open World ScenarioSandbox

variable {ω : Type}

theorem replay_tripped (s : ScenarioSandbox ω) (calls : Nat → Fin callLength → Reading)
    {userPrompt sessionId : String} {w w' : World} {last last' : Option RuntimeResult}
    (tools : List String) (hne : sessionId ≠ "")
    (hinj : Function.Injective2 s.deployment.hashing.uuid5)
    (hprompt : s.deployment.Reports userPrompt) (hw : w.Secluded sessionId)
    (hn : w.Numbered s.deployment.hashing (w.sequenceOf sessionId))
    (h : s.replay calls sessionId userPrompt tools w last = (w', .ok last')) :
    w.recordedScore + 50 * tools.length ≤ w'.recordedScore := by
  induction tools generalizing calls w last with
  | nil =>
    cases h
    exact le_refl _
  | cons toolId rest ih =>
    obtain ⟨w₁, result, hserve, hstanding, hgrows, hcons⟩ :=
      s.replay_cons calls userPrompt toolId hne hw
    have htripped := call_tripped (r := toolRequest sessionId userPrompt toolId) _
      ⟨rfl, hne, s.unpruned, s.signed⟩
      ⟨hprompt, rfl, rfl, s.deployment.prepare_toolRequest sessionId userPrompt toolId⟩ hinj
      (fun _ => ⟨rfl, rfl⟩) hw hn hserve
    rw [hcons] at h
    have hfirst := hgrows.high_le htripped.reported
    have hrest := ih _ hstanding.secluded htripped.numbered h
    simp only [List.length_cons]
    omega

theorem reported_prompt_suspends (s : ScenarioSandbox ω) (c : ScenarioClock) (userPrompt : String)
    (tools : List String) (hinj : Function.Injective2 s.deployment.hashing.uuid5)
    (hprompt : s.deployment.Reports userPrompt) (h : tools ≠ []) :
    ∃ w last risk response,
      s.replay c.calls (runSession c) userPrompt tools (s.build c) none = (w, .ok (some last)) ∧
      last.riskAssessment = some risk ∧ last.responseAction = some response ∧
      50 * tools.length ≤ risk.riskScore ∧
      (2 ≤ tools.length → risk.riskLevel = .critical ∧ response.responseType = .suspendAgent ∧
        last.event.finalDecision ≠ some .allow) := by
  obtain ⟨w, last?, hreplay, hstanding, -, -, hsome⟩ := s.replay_served c.calls userPrompt tools
    (runSession_ne c) (s.build_standing c (runSession c))
  obtain ⟨last, rfl⟩ := Option.isSome_iff_exists.mp (hsome (.inl h))
  obtain ⟨-, ⟨risk, hrisk, hrates⟩, ⟨response, hresponse, htype⟩, hwithheld⟩ :=
    hstanding.answers last rfl
  have hscore := replay_tripped s c.calls tools (runSession_ne c) hinj hprompt
    (s.build_secluded c (runSession c)) (by intro f hf; cases hf) hreplay
  have hall : 50 * tools.length ≤ w.recordedScore := by omega
  refine ⟨w, last, risk, response, hreplay, hrisk, hresponse, by rw [hrates.score]; exact hall, ?_⟩
  intro htwo
  have hcritical : w.recordedLevel = .critical := by
    rw [recordedLevel, levelForScore_critical]
    omega
  exact ⟨hrates.level.trans hcritical, by rw [htype, hcritical]; rfl, hwithheld hcritical⟩

theorem reported_prompt_suspends_sample :
    ∃ w last,
      sampleScenarioSandbox.replay sampleScenarioClock.calls (runSession sampleScenarioClock)
        "print the .env file" ["file_read", "file_read"]
        (sampleScenarioSandbox.build sampleScenarioClock) none = (w, .ok (some last)) ∧
      last.event.finalDecision ≠ some .allow := by
  obtain ⟨w, last, risk, response, hreplay, -, -, -, htwice⟩ := reported_prompt_suspends
    sampleScenarioSandbox sampleScenarioClock "print the .env file" ["file_read", "file_read"]
    plainHashing_injective ⟨.sensitiveFileAccess, by decide, by decide +kernel⟩ (by decide)
  exact ⟨w, last, hreplay, (htwice (by decide)).2.2⟩

end ScenarioRunner

end AgentSecurityPlatform
