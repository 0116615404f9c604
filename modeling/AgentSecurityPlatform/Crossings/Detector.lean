import AgentSecurityPlatform.Detection.ExcessiveDenials

namespace AgentSecurityPlatform

def withinWindow (windowSeconds evaluationTime : Instant) (e : SessionEvent) : Bool :=
  e.decision = .deny && evaluationTime - windowSeconds ≤ e.timestamp && e.timestamp ≤ evaluationTime

structure Finding.IsCrossing (h : Hashing) (f : Finding) : Prop where
  rule : f.ruleName = excessiveDenialsRuleName
  identity : f.findingId = sessionFindingId h excessiveDenialsRuleName f.sessionId f.agentId
    excessiveDenialThreshold f.evidenceEventSequences f.recoveryGeneration
  evidence : f.evidenceEventSequences ≠ []

structure Finding.IsContent (h : Hashing) (f : Finding) : Prop where
  rule : f.ruleName ≠ excessiveDenialsRuleName
  separator : '|' ∉ f.ruleName.toList
  identity : ∃ details, f.findingId = h.uuid5 namespaceUrl (occurrenceId f.ruleName f.sessionId
    f.agentId details)

section Identity

variable {h : Hashing} {f g : Finding}

theorem excessiveDenialsRuleName_plain : '|' ∉ excessiveDenialsRuleName.toList := by decide

theorem evidenceText_plain (evidence : List Nat) :
    '|' ∉ (String.intercalate "," (evidence.map toString)).toList := by
  rw [String.toList_intercalate]
  intro hmem
  induction evidence with
  | nil => simp at hmem
  | cons n ns ih =>
    cases ns with
    | nil =>
      have hn : '|' ∉ n.repr.toList := Text.notMem_repr (by decide) n
      exact hn (by simpa using hmem)
    | cons m ms =>
      simp only [List.map_cons, List.intercalate_cons_cons, List.mem_append] at hmem ih
      rcases hmem with (hn | hsep) | hrest
      · exact Text.notMem_repr (by decide) n hn
      · simp at hsep
      · exact ih hrest

theorem evidenceText_injective {evidence evidence' : List Nat} (hne : evidence ≠ [])
    (hne' : evidence' ≠ [])
    (he : String.intercalate "," (evidence.map toString) =
      String.intercalate "," (evidence'.map toString)) : evidence = evidence' := by
  have hdigits (ns : List Nat) : ∀ x ∈ ns.map (toString : Nat → String), ',' ∉ x.toList := by
    intro x hx
    obtain ⟨n, -, rfl⟩ := List.mem_map.mp hx
    exact Text.notMem_repr (by decide) n
  have hmap := Text.intercalate_injective ',' (by decide) (hdigits evidence) (hdigits evidence')
    (by simpa using hne) (by simpa using hne') he
  exact List.map_injective_iff.mpr Text.repr_injective hmap

theorem Finding.IsCrossing.ne_content (hinj : Function.Injective2 h.uuid5) (hf : f.IsCrossing h)
    (hg : g.IsContent h) : f.findingId ≠ g.findingId := by
  intro hid
  obtain ⟨details, hdetails⟩ := hg.identity
  rw [hf.identity, hdetails] at hid
  have hname := (hinj hid).2
  simp only [occurrenceId, List.cons_append] at hname
  exact hg.rule (Text.intercalate_cons_injective '|' (by decide) excessiveDenialsRuleName_plain
    hg.separator hname).1.symm

end Identity

theorem contentFinding_isContent {h : Hashing} {c : DetectionContext} {rule : String}
    {category : FindingCategory} {description : String} {matched : List String}
    (hrule : rule ≠ excessiveDenialsRuleName) (hsep : '|' ∉ rule.toList) :
    (contentFinding h c rule category description matched).IsContent h :=
  ⟨hrule, hsep, _, rfl⟩

theorem detectionEngine_isContent {rules : List ContentRule} {h : Hashing} {c : DetectionContext}
    {f : Finding} (hf : f ∈ detectionEngine rules h c) :
    f.IsContent h ∧ f.sessionId = c.sessionId ∧ f.agentId = c.agentId := by
  obtain ⟨rule, -, hf⟩ := List.mem_flatMap.mp hf
  cases rule with
  | promptInjection =>
    simp only [ContentRule.evaluate, promptInjectionRule] at hf
    split at hf
    · cases hf
    · obtain rfl := List.mem_singleton.mp hf
      exact ⟨contentFinding_isContent (by decide) (by decide), rfl, rfl⟩
  | sensitiveFileAccess =>
    simp only [ContentRule.evaluate, sensitiveFileAccessRule] at hf
    split at hf
    · cases hf
    · obtain rfl := List.mem_singleton.mp hf
      exact ⟨contentFinding_isContent (by decide) (by decide), rfl, rfl⟩
  | dataExfiltration =>
    simp only [ContentRule.evaluate, dataExfiltrationRule] at hf
    split at hf
    · obtain rfl := List.mem_singleton.mp hf
      exact ⟨contentFinding_isContent (by decide) (by decide), rfl, rfl⟩
    · cases hf

section Detector

variable {h : Hashing} {windowSeconds now evaluationTime : Instant}
  {events denials : List SessionEvent} {priors : List Finding} {agentId : String} {generation : Nat}

theorem eraseDups_of_forall_eq {α : Type} [BEq α] [LawfulBEq α] {a : α} {l : List α} (hne : l ≠ [])
    (hl : ∀ x ∈ l, x = a) : l.eraseDups = [a] := by
  cases l with
  | nil => exact absurd rfl hne
  | cons b l =>
    obtain rfl := hl b (by simp)
    have hnone : l.filter (fun x => !x == b) = [] := by
      rw [List.filter_eq_nil_iff]
      intro x hx
      simp [hl x (by simp [hx])]
    rw [List.eraseDups_cons, hnone]
    rfl

theorem detectExcessiveDenials_eq (denied : List SessionEvent)
    (hd : events.filter (withinWindow windowSeconds evaluationTime) = denied) :
    detectExcessiveDenials h windowSeconds now events evaluationTime priors generation =
      (denied.map (·.agentId)).eraseDups.filterMap (fun agentId =>
        denialFinding h now priors generation agentId
          (denied.filter (fun e => e.agentId = agentId))) := by
  subst hd
  rfl

theorem detectExcessiveDenials_agent (hagent : ∀ e ∈ events, e.agentId = agentId) :
    detectExcessiveDenials h windowSeconds now events evaluationTime priors generation =
      (denialFinding h now priors generation agentId
        (events.filter (withinWindow windowSeconds evaluationTime))).toList := by
  have hdenied : ∀ e ∈ events.filter (withinWindow windowSeconds evaluationTime),
      e.agentId = agentId := fun e he => hagent e (List.mem_filter.mp he).1
  rw [detectExcessiveDenials_eq _ rfl]
  generalize events.filter (withinWindow windowSeconds evaluationTime) = denied at hdenied
  cases denied with
  | nil => rfl
  | cons e es =>
    have hids : ((e :: es).map (·.agentId)).eraseDups = [agentId] := by
      apply eraseDups_of_forall_eq (by simp)
      intro x hx
      obtain ⟨d, hd, rfl⟩ := List.mem_map.mp hx
      exact hdenied d hd
    have hall : (e :: es).filter (fun d => d.agentId = agentId) = e :: es := by
      rw [List.filter_eq_self]
      intro d hd
      simp [hdenied d hd]
    rw [hids]
    simp only [List.filterMap_cons, List.filterMap_nil, hall]
    cases denialFinding h now priors generation agentId (e :: es) <;> rfl

end Detector

end AgentSecurityPlatform
