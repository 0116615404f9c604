import AgentSecurityPlatform.Approval.Workers

namespace AgentSecurityPlatform

namespace ContinuationPool

variable {p q : ContinuationPool} {l : Nat × ReferencedRows} {w w' : ContinuationWork}

def Allowed (a b : ContinuationState) : Prop := (a, b) ∈ allowedContinuationTransitions

def Terminal (s : ContinuationState) : Prop := s = .rejected ∨ s = .expired ∨ s = .consumed

def Moves (c c' : StoredContinuation) : Prop :=
  ∃ t : ContinuationTransition, t.check = .ok () ∧ c.state = t.fromState ∧ c' = c.move t

variable {c c' : StoredContinuation}

theorem Moves.allowed (h : Moves c c') : Allowed c.state c'.state := by
  obtain ⟨t, hcheck, hfrom, rfl⟩ := h
  rw [hfrom]
  exact t.check_allowed hcheck

theorem not_allowed_terminal {a b : ContinuationState} (ha : Terminal a) : ¬ Allowed a b := by
  rcases ha with rfl | rfl | rfl <;> simp [Allowed, allowedContinuationTransitions]

theorem allowed_approved {b : ContinuationState} (h : Allowed .approved b) : b = .consumed := by
  simpa [Allowed, allowedContinuationTransitions] using h

theorem moves_binding (h : Relation.ReflTransGen Moves c c') : c'.binding = c.binding := by
  induction h with
  | refl => rfl
  | tail _ hmove ih =>
    obtain ⟨t, -, -, rfl⟩ := hmove
    exact ih

theorem moves_allowed (h : Relation.ReflTransGen Moves c c') :
    Relation.ReflTransGen Allowed c.state c'.state := by
  induction h with
  | refl => exact .refl
  | tail _ hmove ih => exact ih.tail hmove.allowed

theorem moves_terminal (h : Relation.ReflTransGen Moves c c') (hc : Terminal c.state) : c' = c := by
  induction h with
  | refl => rfl
  | tail _ hmove ih =>
    subst ih
    exact absurd hmove.allowed (not_allowed_terminal hc)

-- from APPROVED the only move is into CONSUMED, and that move keeps approved_by
theorem moves_approver (h : Relation.ReflTransGen Moves c c') (hc : c.state = .approved) :
    (c'.state = .approved ∨ c'.state = .consumed) ∧ c'.approvedBy = c.approvedBy := by
  induction h with
  | refl => exact ⟨.inl hc, rfl⟩
  | tail _ hmove ih =>
    obtain ⟨hstate | hstate, happrover⟩ := ih
    · have hto := hmove.allowed
      rw [hstate] at hto
      have hconsumed := allowed_approved hto
      obtain ⟨t, -, -, rfl⟩ := hmove
      have htoState : t.toState = .consumed := hconsumed
      refine ⟨.inr hconsumed, ?_⟩
      simp only [StoredContinuation.move, ContinuationTransition.writtenApprover, htoState]
      exact happrover
    · have hto := hmove.allowed
      rw [hstate] at hto
      exact absurd hto (not_allowed_terminal (.inr (.inr rfl)))

variable {f f' : String → Option StoredContinuation}

theorem Effect.step (h : Effect f f' w w') {g : String} (hc : f g = some c) :
    ∃ c', f' g = some c' ∧ (c' = c ∨ Moves c c') := by
  cases h with
  | idle hlost hsame => exact ⟨c, by rw [hsame, hc], .inl rfl⟩
  | created grant new hcall hreply hnew hstate hset =>
    refine ⟨c, ?_, .inl rfl⟩
    rw [hset, Function.update_of_ne]
    · exact hc
    · rintro rfl
      rw [hc] at hnew
      cases hnew
  | moved t old hcall hwon hcheck hfound hfrom hset =>
    rcases eq_or_ne g t.grantId with rfl | hne
    · rw [hc] at hfound
      cases hfound
      exact ⟨c.move t, by rw [hset, Function.update_self], .inr ⟨t, hcheck, hfrom, rfl⟩⟩
    · exact ⟨c, by rw [hset, Function.update_of_ne hne, hc], .inl rfl⟩

theorem Effect.new (h : Effect f f' w w') {g : String} (hnone : f g = none) (hc : f' g = some c) :
    ∃ grant, w = .start (.create grant) ∧ grant.grantId = g ∧ c.state = grant.state := by
  cases h with
  | idle hlost hsame =>
    rw [hsame, hnone] at hc
    cases hc
  | created grant new hcall hreply hnew hstate hset =>
    rcases eq_or_ne g grant.grantId with rfl | hne
    · rw [hset, Function.update_self] at hc
      cases hc
      exact ⟨grant, hcall, rfl, hstate⟩
    · rw [hset, Function.update_of_ne hne, hnone] at hc
      cases hc
  | moved t old hcall hwon hcheck hfound hfrom hset =>
    rcases eq_or_ne g t.grantId with rfl | hne
    · rw [hnone] at hfound
      cases hfound
    · rw [hset, Function.update_of_ne hne, hnone] at hc
      cases hc

theorem Effect.won (h : Effect f f' w w') {t : ContinuationTransition} (ht : w.attempt = some t)
    (hwon : w'.won = true) :
    (∃ c, f t.grantId = some c ∧ c.state = t.fromState) ∧
      (t.fromState, t.toState) ∈ allowedContinuationTransitions ∧
      ∃ c, f' t.grantId = some c ∧ c.state = t.toState := by
  cases h with
  | idle hlost hsame =>
    rw [hwon] at hlost
    cases hlost
  | created grant new hcall hreply hnew hstate hset =>
    rw [hcall] at ht
    cases ht
  | moved t' old hcall hdone hcheck hfound hfrom hset =>
    rw [ht] at hcall
    cases hcall
    refine ⟨⟨old, hfound, hfrom⟩, t.check_allowed hcheck, old.move t, ?_, rfl⟩
    rw [hset, Function.update_self]

-- the states written for one continuation, in the order in which they were stored
def written (grantId : String) (p : ContinuationPool) (l : Nat × ReferencedRows) :
    List ContinuationState :=
  match Pool.fire ContinuationWork.step p l with
  | none => []
  | some q =>
    if (q.shared.stored grantId).map (·.state) = (p.shared.stored grantId).map (·.state) then []
    else ((q.shared.stored grantId).map (·.state)).toList

-- the workers whose transition into CONSUMED returned True for this continuation
def claimed (grantId : String) (p : ContinuationPool) (l : Nat × ReferencedRows) : List Nat :=
  match p.threads[l.1]?.bind ContinuationWork.attempt, Pool.fire ContinuationWork.step p l with
  | some t, some q =>
    if t.grantId = grantId ∧ t.toState = .consumed ∧
      q.threads[l.1]?.any ContinuationWork.won then [l.1]
    else []
  | _, _ => []

structure Path (g : String) (es : List ContinuationState) (p : ContinuationPool) : Prop where
  locked : Locked p
  chain : es.IsChain Allowed
  last : es.getLast? = (p.shared.stored g).map (·.state)

theorem Path.fire {g : String} {es : List ContinuationState} (h : Path g es p)
    (hfresh : FreshCreate p l) (hf : Pool.fire ContinuationWork.step p l = some q) :
    Path g (es ++ written g p l) q := by
  obtain ⟨w, w', -, -, heffect⟩ := h.locked.effect hfresh hf
  simp only [written, hf]
  split
  · rename_i hsame
    rw [List.append_nil]
    exact ⟨h.locked.fire hf, h.chain, by rw [hsame, h.last]⟩
  · rename_i hdiff
    cases hq : q.shared.stored g with
    | none =>
      cases hp : p.shared.stored g with
      | none => simp [hp, hq] at hdiff
      | some c =>
        obtain ⟨c', hc', -⟩ := heffect.step hp
        rw [hq] at hc'
        cases hc'
    | some c' =>
      refine ⟨h.locked.fire hf, List.isChain_append.mpr ⟨h.chain, .singleton _, ?_⟩, ?_⟩
      · intro a ha b hb
        rw [h.last] at ha
        obtain ⟨c, hc, rfl⟩ := Option.map_eq_some_iff.mp ha
        obtain rfl : c'.state = b := by simpa using hb
        obtain ⟨c₁, hc₁, hmove⟩ := heffect.step hc
        rw [hq] at hc₁
        cases hc₁
        rcases hmove with rfl | hmove
        · simp [hq, hc] at hdiff
        · exact hmove.allowed
      · simp [hq]

structure Claimed (g : String) (es : List Nat) (p : ContinuationPool) : Prop where
  locked : Locked p
  once : es.length ≤ 1
  consumed : es ≠ [] → ∃ c, p.shared.stored g = some c ∧ c.state = .consumed

theorem Claimed.fire {g : String} {es : List Nat} (h : Claimed g es p)
    (hfresh : FreshCreate p l) (hf : Pool.fire ContinuationWork.step p l = some q) :
    Claimed g (es ++ claimed g p l) q := by
  obtain ⟨w, w', hw, hw', heffect⟩ := h.locked.effect hfresh hf
  have hkept : es ≠ [] → ∃ c, q.shared.stored g = some c ∧ c.state = .consumed := by
    intro hes
    obtain ⟨c, hc, hconsumed⟩ := h.consumed hes
    obtain ⟨c', hc', rfl | hmove⟩ := heffect.step hc
    · exact ⟨c', hc', hconsumed⟩
    · exact absurd hmove.allowed (not_allowed_terminal (.inr (.inr hconsumed)))
  simp only [claimed, hw, hf, Option.bind_some]
  cases ht : w.attempt with
  | none =>
    rw [List.append_nil]
    exact ⟨h.locked.fire hf, h.once, hkept⟩
  | some t =>
    dsimp only
    split
    · rename_i hclaim
      obtain ⟨rfl, hto, hwon⟩ := hclaim
      rw [hw'] at hwon
      obtain ⟨⟨c, hc, hfrom⟩, hallowed, c', hc', hstate⟩ := heffect.won ht hwon
      -- an earlier claim would have left the continuation CONSUMED, which no transition starts from
      have hempty : es = [] := by
        by_contra hes
        obtain ⟨c₁, hc₁, hconsumed⟩ := h.consumed hes
        rw [hc] at hc₁
        cases hc₁
        rw [← hfrom] at hallowed
        exact not_allowed_terminal (.inr (.inr hconsumed)) hallowed
      subst hempty
      exact ⟨h.locked.fire hf, by simp, fun _ => ⟨c', hc', hstate.trans hto⟩⟩
    · rw [List.append_nil]
      exact ⟨h.locked.fire hf, h.once, hkept⟩

-- what an earlier state says about every later one
structure Sequenced (p q : ContinuationPool) : Prop where
  path : ∀ g c, p.shared.stored g = some c → ∃ c', q.shared.stored g = some c' ∧
    c'.binding = c.binding ∧ Relation.ReflTransGen Allowed c.state c'.state
  terminal : ∀ g c, p.shared.stored g = some c → Terminal c.state → q.shared.stored g = some c
  approver : ∀ g c, p.shared.stored g = some c → c.state = .approved →
    ∃ c', q.shared.stored g = some c' ∧ (c'.state = .approved ∨ c'.state = .consumed) ∧
      c'.approvedBy = c.approvedBy

-- what one step does to each continuation
structure StepLaw (p q : ContinuationPool) (l : Nat × ReferencedRows) : Prop where
  created : ∀ g c, p.shared.stored g = none → q.shared.stored g = some c →
    ∃ grant, p.threads[l.1]? = some (.start (.create grant)) ∧ grant.grantId = g ∧
      c.state = grant.state
  moved : ∀ g c c', p.shared.stored g = some c → q.shared.stored g = some c' → c' ≠ c →
    Allowed c.state c'.state ∧ (c'.state = .approved →
      ∃ operator, c'.approvedBy = some operator ∧ Text.strip operator ≠ "")
  silent : ∀ w, q.threads[l.1]? = some w → w.accepted = false → q.shared.stored = p.shared.stored

theorem Moves.approver (h : Moves c c') (hto : c'.state = .approved) :
    ∃ operator, c'.approvedBy = some operator ∧ Text.strip operator ≠ "" := by
  obtain ⟨t, hcheck, -, rfl⟩ := h
  have htoState : t.toState = .approved := hto
  have hblank := t.check_approver hcheck htoState
  cases hoperator : t.approvedBy with
  | none => simp [isBlank, hoperator] at hblank
  | some operator =>
    refine ⟨operator, ?_, ?_⟩
    · simp only [StoredContinuation.move, ContinuationTransition.writtenApprover,
        htoState, hoperator]
    · simp only [isBlank, hoperator, Bool.or_eq_false_iff, decide_eq_false_iff_not] at hblank
      exact hblank.2

theorem Locked.stepLaw (h : Locked p) (hfresh : FreshCreate p l)
    (hf : Pool.fire ContinuationWork.step p l = some q) : StepLaw p q l := by
  obtain ⟨w, w', hw, hw', heffect⟩ := h.effect hfresh hf
  refine ⟨?_, ?_, ?_⟩
  · intro g c hnone hc
    rw [hw]
    obtain ⟨grant, rfl, hg, hstate⟩ := heffect.new hnone hc
    exact ⟨grant, rfl, hg, hstate⟩
  · intro g c c' hc hc' hne
    obtain ⟨c₁, hc₁, hmove⟩ := heffect.step hc
    rw [hc'] at hc₁
    cases hc₁
    rcases hmove with rfl | hmove
    · exact absurd rfl hne
    · exact ⟨hmove.allowed, hmove.approver⟩
  · intro w₁ hw₁ hrefused
    rw [hw'] at hw₁
    cases hw₁
    cases heffect with
    | idle hlost hsame => exact hsame
    | created grant new hcall hreply hnew hstate hset =>
      rw [hreply] at hrefused
      cases hrefused
    | moved t old hcall hwon hcheck hfound hfrom hset =>
      rw [hwon] at hrefused
      cases hrefused

structure Later (p q : ContinuationPool) : Prop where
  locked : Locked q
  moves : ∀ g c, p.shared.stored g = some c → ∃ c', q.shared.stored g = some c' ∧
    Relation.ReflTransGen Moves c c'

theorem Locked.later {ls : List (Nat × ReferencedRows)} (h : Locked p)
    (hfresh : Pool.AllSteps ContinuationWork.step FreshCreate ls p)
    (hr : Pool.run ContinuationWork.step ls p = some q) : Later p q := by
  refine Pool.run_invariant_of_steps FreshCreate (Later p) ?_ hfresh
    ⟨h, fun g c hc => ⟨c, hc, .refl⟩⟩ hr
  intro p₁ l p₂ hnew h₁ hf
  obtain ⟨w, w', -, -, heffect⟩ := h₁.locked.effect hnew hf
  refine ⟨h₁.locked.fire hf, ?_⟩
  intro g c hc
  obtain ⟨c₁, hc₁, hmoves⟩ := h₁.moves g c hc
  obtain ⟨c₂, hc₂, rfl | hmove⟩ := heffect.step hc₁
  · exact ⟨c₂, hc₂, hmoves⟩
  · exact ⟨c₂, hc₂, hmoves.tail hmove⟩

theorem Later.sequenced (h : Later p q) : Sequenced p q := by
  refine ⟨?_, ?_, ?_⟩
  · intro g c hc
    obtain ⟨c', hc', hmoves⟩ := h.moves g c hc
    exact ⟨c', hc', moves_binding hmoves, moves_allowed hmoves⟩
  · intro g c hc hterminal
    obtain ⟨c', hc', hmoves⟩ := h.moves g c hc
    rw [hc', moves_terminal hmoves hterminal]
  · intro g c hc happroved
    obtain ⟨c', hc', hmoves⟩ := h.moves g c hc
    exact ⟨c', hc', moves_approver hmoves happroved⟩

def Empty (b : ContinuationBackend) : Prop :=
  b = .inMemory ⟨.empty⟩ ∨ ∃ driver, b = .sql (.empty driver)

theorem Empty.stored {b : ContinuationBackend} (h : Empty b) (g : String) : b.stored g = none := by
  rcases h with rfl | ⟨driver, rfl⟩ <;> rfl

theorem locked_start {b : ContinuationBackend} (hb : Empty b) (calls : List ContinuationCall) :
    Locked ⟨b, calls.map .start⟩ := by
  have hidle : ∀ (i : Nat) (row : ApprovalContinuationModel) (t : ContinuationTransition),
      (calls.map ContinuationWork.start)[i]? ≠ some (.holding row t) := by
    intro i row t h
    rw [List.getElem?_map] at h
    obtain ⟨call, -, hcall⟩ := Option.map_eq_some_iff.mp h
    cases hcall
  refine ⟨?_, fun i row t h => absurd h (hidle i row t),
    fun i j row row' t t' h => absurd h (hidle i row t)⟩
  rintro s g row rfl hrow
  rcases hb with hb | ⟨driver, hb⟩ <;> cases hb
  cases hrow

theorem continuation_claimed_once (b : ContinuationBackend) (hb : Empty b)
    (calls : List ContinuationCall) (ls : List (Nat × ReferencedRows)) (q : ContinuationPool)
    (h : Pool.run ContinuationWork.step ls ⟨b, calls.map .start⟩ = some q)
    (hfresh : Pool.AllSteps ContinuationWork.step FreshCreate ls ⟨b, calls.map .start⟩) :
    (∀ g, (Pool.trace ContinuationWork.step (written g) ls ⟨b, calls.map .start⟩).IsChain Allowed) ∧
      (∀ g, (Pool.trace ContinuationWork.step (claimed g) ls ⟨b, calls.map .start⟩).length ≤ 1) ∧
      (∀ ls₁ ls₂, ls = ls₁ ++ ls₂ → ∃ p : ContinuationPool,
        Pool.run ContinuationWork.step ls₁ ⟨b, calls.map .start⟩ = some p ∧ Sequenced p q) ∧
      ∀ ls₁ l ls₂, ls = ls₁ ++ l :: ls₂ → ∃ p₁ p₂ : ContinuationPool,
        Pool.run ContinuationWork.step ls₁ ⟨b, calls.map .start⟩ = some p₁ ∧
          Pool.fire ContinuationWork.step p₁ l = some p₂ ∧ StepLaw p₁ p₂ l := by
  have hstart := locked_start hb calls
  refine ⟨?_, ?_, ?_, ?_⟩
  · intro g
    have hpath := Pool.run_trace_invariant_of_steps (written g) FreshCreate (Path g)
      (fun es p l q hnew hes hf => hes.fire hnew hf) hfresh []
      ⟨hstart, .nil, by simp [hb.stored]⟩ h
    exact hpath.chain
  · intro g
    have hclaimed := Pool.run_trace_invariant_of_steps (claimed g) FreshCreate (Claimed g)
      (fun es p l q hnew hes hf => hes.fire hnew hf) hfresh []
      ⟨hstart, by simp, fun he => absurd rfl he⟩ h
    exact hclaimed.once
  · rintro ls₁ ls₂ rfl
    obtain ⟨p, hrun, hrest⟩ := Pool.run_append h
    have hp := hstart.later hfresh.append_left hrun
    exact ⟨p, hrun, (hp.locked.later (hfresh.append_right hrun) hrest).sequenced⟩
  · rintro ls₁ l ls₂ rfl
    obtain ⟨p₁, hrun, hrest⟩ := Pool.run_append h
    obtain ⟨p₂, hf, -⟩ := Pool.run_cons hrest
    have hp := hstart.later hfresh.append_left hrun
    exact ⟨p₁, p₂, hrun, hf, hp.locked.stepLaw (hfresh.append_right hrun).1 hf⟩

def sampleBinding : ContinuationBinding PythonValue :=
  { grantId := "grant-1", sessionId := "session-1", agentId := "agent-1", toolId := "ticket_read"
    toolVersion := "1.0.0", executionParameters := .mappingProxy []
    originatingAuditEventId := "event-1", riskScore := 40, requiredResponse := "REQUIRE_APPROVAL"
    enforcementEpoch := 0, createdAt := .utc 0, expiresAt := .utc 100, named := by decide }

def sampleDriver : Driver := ⟨.wallClock, PythonJson.FloatText.read⟩

def sampleRows : ReferencedRows := ⟨["session-1"], ["agent-1"], [("ticket_read", "1.0.0")]⟩

def approval : ContinuationCall :=
  .transition ⟨"grant-1", .pending, .approved, none, some "operator"⟩

def consumption : ContinuationCall :=
  .transition ⟨"grant-1", .approved, .consumed, some (.utc 5), none⟩

-- two workers claim the same approved continuation
def racingCalls : List ContinuationCall :=
  [.create ⟨sampleBinding, .pending, none, none, none, none⟩, approval, consumption, consumption]

def racingTurns : List (Nat × ReferencedRows) :=
  [0, 1, 1, 2, 2, 3, 3].map (fun i => (i, sampleRows))

theorem continuation_claimed_once_race : ∃ q : ContinuationPool,
    Pool.run ContinuationWork.step racingTurns
        ⟨.sql (.empty sampleDriver), racingCalls.map .start⟩ = some q ∧
      (Pool.trace ContinuationWork.step (claimed "grant-1") racingTurns
        ⟨.sql (.empty sampleDriver), racingCalls.map .start⟩).length ≤ 1 := by
  have hsome : (Pool.run ContinuationWork.step racingTurns
      ⟨.sql (.empty sampleDriver), racingCalls.map .start⟩).isSome = true := by
    decide +kernel
  obtain ⟨q, hq⟩ := Option.isSome_iff_exists.mp hsome
  exact ⟨q, hq, (continuation_claimed_once _ (.inr ⟨_, rfl⟩) racingCalls racingTurns q hq
    (by decide +kernel)).2.1 "grant-1"⟩

def recreatingCalls : List ContinuationCall :=
  racingCalls.take 3 ++ racingCalls.take 3

def recreatingTurns : List (Nat × ReferencedRows) :=
  (List.range 6).map (fun i => (i, sampleRows))

-- the second create_continuation of grant-1 puts it back to PENDING, and it is claimed again
theorem recreated_continuation_claimed_twice :
    (Pool.run ContinuationWork.step recreatingTurns
        ⟨.inMemory ⟨.empty⟩, recreatingCalls.map .start⟩).isSome ∧
      ¬ (Pool.trace ContinuationWork.step (claimed "grant-1") recreatingTurns
        ⟨.inMemory ⟨.empty⟩, recreatingCalls.map .start⟩).length ≤ 1 ∧
      Pool.trace ContinuationWork.step (written "grant-1") recreatingTurns
          ⟨.inMemory ⟨.empty⟩, recreatingCalls.map .start⟩ =
        [.pending, .approved, .consumed, .pending, .approved, .consumed] := by
  decide +kernel

end ContinuationPool

end AgentSecurityPlatform
