import AgentSecurityPlatform.Containment.Stranding

namespace AgentSecurityPlatform

inductive ReinstateFault where
  | captureWatermark
  | reinstateAgent
  | resetToBaseline
  | resumeIssuance
  | finalCheck
  deriving DecidableEq, Repr

structure ReinstateCall where
  baselineAt : Instant
  now : Instant
  uuid : String
  actor : String
  reason : String
  deriving DecidableEq, Repr

inductive ReinstateFailure where
  | raised (fault : ReinstateFault)
  | refused (e : CoordinatorError)
  deriving DecidableEq, Repr

namespace World

-- reinstate with an exception raised at one of its steps, before that step takes effect
def reinstateAttempt (w : World) (agentId : String) (c : ReinstateCall)
    (fault : Option ReinstateFault) : World × Except ReinstateFailure Agent :=
  if fault = some .captureWatermark then (w, .error (.raised .captureWatermark))
  else
    let watermark := w.captureWatermark c.baselineAt agentId
    if fault = some .reinstateAgent then (w, .error (.raised .reinstateAgent))
    else
      match w.agents.reinstateAgent c.now c.uuid agentId c.actor c.reason (some watermark) with
      | (agents, .error e) => ({ w with agents }, .error (.refused (.agent e)))
      | (agents, .ok agent) =>
        if fault = some .resetToBaseline then
          ({ w with agents }, .error (.raised .resetToBaseline))
        else
          match w.aggregator.resetToBaseline c.now watermark with
          | (aggregator, .error e) =>
            ({ w with agents, aggregator }, .error (.refused (.projection e)))
          | (aggregator, .ok _) =>
            if fault = some .resumeIssuance then
              ({ w with agents, aggregator }, .error (.raised .resumeIssuance))
            else
              let w' := { w with agents, aggregator }.resumeIssuance agentId
              if fault = some .finalCheck then (w', .error (.raised .finalCheck))
              else
                match w'.containmentCleared agentId with
                | .error e => (w', .error (.refused e))
                | .ok () => (w', .ok agent)

theorem reinstateAttempt_none (w : World) (agentId : String) (c : ReinstateCall) :
    w.reinstateAttempt agentId c none =
      ((w.reinstate c.baselineAt c.now c.uuid agentId c.actor c.reason).1,
        (w.reinstate c.baselineAt c.now c.uuid agentId c.actor c.reason).2.mapError .refused) := by
  simp only [reinstateAttempt, reinstate, reduceCtorEq, if_false]
  rcases w.agents.reinstateAgent c.now c.uuid agentId c.actor c.reason
    (some (w.captureWatermark c.baselineAt agentId)) with ⟨agents, e | agent⟩
  · rfl
  · rcases w.aggregator.resetToBaseline c.now (w.captureWatermark c.baselineAt agentId) with
      ⟨aggregator, e | posture⟩
    · rfl
    · simp only
      cases (resumeIssuance { w with agents, aggregator } agentId).containmentCleared agentId
        <;> rfl

end World

namespace AgentService

variable {s : AgentService} {agentId actor reason : String}

end AgentService

namespace World

variable {w : World} {agentId : String} {c retry : ReinstateCall}

end World

def ReinstateFault.late : ReinstateFault → Bool
  | .captureWatermark => false
  | .reinstateAgent => false
  | _ => true

namespace World

variable {w : World} {agentId : String} {c retry : ReinstateCall}

end World

def sampleReinstatement : ReinstateCall := ⟨60, 61, "u", "operator", "reviewed"⟩

namespace World

end World

end AgentSecurityPlatform
