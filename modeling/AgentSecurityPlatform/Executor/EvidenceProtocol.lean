import AgentSecurityPlatform.Executor.Preparation

namespace AgentSecurityPlatform

namespace ExecutorCall

variable {ω : Type}

def isEmit : ExecutorCall ω → Bool
  | .emit _ _ => true
  | _ => false

end ExecutorCall

def ExecutorError.attach (failure : ExecutionEvidenceIntegrityError) : ExecutorError → ExecutorError
  | .execution e => .execution { e with evidenceFailure := some failure }
  | .reraised e => .reraised { e with evidenceFailure := some failure }
  | e => e

def executionError {ω : Type} (toolId : String) : SandboxOutcome ω → ExecutorError
  | .raised e =>
    if e.isToolError then .reraised e
    else .execution { toolId, message := e.message, cause := some e }
  | .returned r =>
    .execution
      { toolId, message := (nonEmpty r.errorMessage).getD "Tool execution failed in sandbox" }

structure StartedRecord.Attributes (s : StartedRecord) (sha256 : PythonJson.Str → String)
    (g : RuntimeExecutionGrant) : Prop where
  grantId : s.grantId = g.grantId
  agentId : s.agentId = g.agentId
  sessionId : s.sessionId = g.sessionId
  toolVersion : s.toolVersion = g.binding.toolVersion
  bindingHash : s.bindingHash = sha256 g.binding.canonicalJson
  capabilityProfileId : s.capabilityProfileId = g.capabilityProfileId
  capabilityDigest : s.capabilityDigest = g.capabilityDigest

-- how a call ends once the sandbox has answered and the terminal record was attempted
structure Concludes {ω : Type} (toolId receiptId : String) (o : SandboxOutcome ω)
    (outcome : TerminalOutcome) (ok : Bool) (result : Except ExecutorError (Option ω)) : Prop where
  failed : o.failed = true → outcome.status ≠ .succeeded ∧
    result = .error (if ok then executionError toolId o
      else (executionError toolId o).attach ⟨toolId, receiptId⟩)
  succeeded : o.failed = false → outcome.status = .succeeded ∧
    if ok then ∃ r, o = .returned r ∧ result = .ok r.output
    else result = .error (.evidenceIntegrity ⟨toolId, receiptId⟩)

def silent {ω : Type} (calls : List (ExecutorCall ω)) : List (ExecutorCall ω) :=
  calls.filter (fun c => !c.isEmit)

namespace DefaultToolExecutor

variable {ω : Type} {x : DefaultToolExecutor ω} {t : ExecutorTick} {a : ExecutionAuthority}
  {l : Launch} {store : EvidenceStore}

theorem emitted_isEmit (x : DefaultToolExecutor ω) (e : BehavioralEvent) :
    ∀ c ∈ x.emitted e, c.isEmit = true := by
  intro c hc
  unfold emitted at hc
  split at hc
  · cases hc
  · rw [List.mem_singleton.mp hc]
    rfl

theorem classifyFailure_ne_succeeded (timeout resourceExhausted isolation interrupted : Bool) :
    (classifyFailure timeout resourceExhausted isolation interrupted).1 ≠ .succeeded := by
  unfold classifyFailure
  split_ifs <;> simp

inductive RunShape (x : DefaultToolExecutor ω) (g : RuntimeExecutionGrant) :
    List (ExecutorCall ω) → Except ExecutorError (Option ω) → Prop where
  | refused (e : ExecutorError) : RunShape x g [] (.error e)
  | unrecorded (s : StartedRecord) (emits : List (ExecutorCall ω)) (e : ExecutorError)
      (hs : s.Attributes x.sha256 g) (he : ∀ c ∈ emits, c.isEmit = true) :
      RunShape x g (.recordStarted s false :: emits) (.error e)
  | recorded (s : StartedRecord) (q : SandboxRequest) (o : SandboxOutcome ω)
      (outcome : TerminalOutcome) (ok : Bool) (emits emits' : List (ExecutorCall ω))
      (result : Except ExecutorError (Option ω)) (hs : s.Attributes x.sha256 g)
      (he : ∀ c ∈ emits, c.isEmit = true) (he' : ∀ c ∈ emits', c.isEmit = true)
      (hc : Concludes q.tool.toolId s.receiptId o outcome ok result) :
      RunShape x g
        (.recordStarted s true :: (emits ++
          .sandboxExecute q o :: .recordTerminal s.receiptId outcome ok :: emits')) result

inductive Serves (x : DefaultToolExecutor ω) (t : ExecutorTick) (a : ExecutionAuthority)
    (req : ExecutorRequest) : Attempt ω → Prop where
  | refused (authority : ExecutionAuthority) (calls : List (ExecutorCall ω)) (e : ExecutorError)
      (hc : ∀ c ∈ calls, (∃ g requested ok, c = .verifyGrant g requested ok) ∨
        ∃ g requested, c = .claimGrant g requested false) :
      Serves x t a req ⟨authority, calls, .error e⟩
  | claimed (g : RuntimeExecutionGrant) (requested : ExecutionBinding)
      (authority : ExecutionAuthority) (ran : List (ExecutorCall ω))
      (result : Except ExecutorError (Option ω)) (hg : req.grant = some g)
      (hv : ExecutionAuthority.Claimable x.signing a t.verifiedAt g requested)
      (hspent : authority.outstanding.get? g.grantId = none) (hran : RunShape x g ran result) :
      Serves x t a req
        ⟨authority, .verifyGrant g requested true :: .claimGrant g requested true :: ran, result⟩

section Telemetry

variable (x) (emitter : Option (BehavioralEvent → Bool))

end Telemetry

theorem mem_emits {c : ExecutorCall ω} {emits : List (ExecutorCall ω)}
    (he : ∀ c ∈ emits, c.isEmit = true) (hc : c.isEmit = false) : c ∉ emits := by
  intro hmem
  rw [he c hmem] at hc
  cases hc

theorem mem_recorded {c started invoked recorded : ExecutorCall ω}
    {emits emits' : List (ExecutorCall ω)} (he : ∀ c ∈ emits, c.isEmit = true)
    (he' : ∀ c ∈ emits', c.isEmit = true) (hc : c.isEmit = false) :
    c ∈ started :: (emits ++ invoked :: recorded :: emits') ↔
      c = started ∨ c = invoked ∨ c = recorded := by
  simp only [List.mem_cons, List.mem_append, mem_emits he hc, mem_emits he' hc, or_false, false_or]

namespace RunShape

variable {g : RuntimeExecutionGrant} {ran : List (ExecutorCall ω)}
  {result : Except ExecutorError (Option ω)}

-- the only shape with a sandbox call is the recorded one
theorem invoked (h : RunShape x g ran result) {q : SandboxRequest} {o : SandboxOutcome ω}
    (hmem : .sandboxExecute q o ∈ ran) :
    ∃ s outcome ok emits emits', (∀ c ∈ emits, c.isEmit = true) ∧
      (∀ c ∈ emits', c.isEmit = true) ∧
      ran = .recordStarted s true :: (emits ++
        .sandboxExecute q o :: .recordTerminal s.receiptId outcome ok :: emits') ∧
      Concludes q.tool.toolId s.receiptId o outcome ok result := by
  cases h with
  | refused e => cases hmem
  | unrecorded s emits e hs he =>
    rcases List.mem_cons.mp hmem with heq | hmem
    · cases heq
    · exact absurd hmem (mem_emits he rfl)
  | recorded s q' o' outcome ok emits emits' _ hs he he' hc =>
    rw [mem_recorded he he' rfl] at hmem
    rcases hmem with heq | heq | heq
    · cases heq
    · cases heq
      exact ⟨s, outcome, ok, emits, emits', he, he', rfl, hc⟩
    · cases heq

theorem returned (h : RunShape x g ran result) {output : Option ω} (hr : result = .ok output) :
    ∃ s q answer outcome, .recordStarted s true ∈ ran ∧
      .sandboxExecute q (.returned answer) ∈ ran ∧ answer.output = output ∧
      .recordTerminal s.receiptId outcome true ∈ ran ∧ outcome.status = .succeeded := by
  cases h with
  | refused e => cases hr
  | unrecorded s emits e hs he => cases hr
  | recorded s q o outcome ok emits emits' _ hs he he' hc =>
    cases hf : o.failed with
    | true =>
      rw [(hc.failed hf).2] at hr
      cases hr
    | false =>
      obtain ⟨hstatus, hresult⟩ := hc.succeeded hf
      cases ok with
      | false =>
        rw [if_neg (by simp)] at hresult
        rw [hresult] at hr
        cases hr
      | true =>
        obtain ⟨answer, rfl, hanswer⟩ := hresult
        rw [hanswer] at hr
        cases hr
        exact ⟨s, q, answer, outcome, by simp, by simp, rfl, by simp, hstatus⟩

end RunShape

end DefaultToolExecutor

end AgentSecurityPlatform
