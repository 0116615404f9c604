import AgentSecurityPlatform.Library.Run
import AgentSecurityPlatform.Sandbox.Reconciliation

namespace AgentSecurityPlatform

inductive ResourceControl where
  | memory
  | cpu
  deriving DecidableEq, Repr

def ResourceControl.name : ResourceControl → String
  | .memory => "memory"
  | .cpu => "cpu"

inductive ResourceControlOutcome where
  | enforced
  | unsupported
  | failed
  deriving DecidableEq, Repr

def ResourceControlOutcome.value : ResourceControlOutcome → String
  | .enforced => "ENFORCED"
  | .unsupported => "UNSUPPORTED"
  | .failed => "FAILED"

structure ResourceControlAssessment where
  control : ResourceControl
  outcome : ResourceControlOutcome
  detail : String := ""
  deriving DecidableEq, Repr

namespace ResourceControlAssessment

def established (a : ResourceControlAssessment) : Bool := a.outcome = .enforced

def describe (a : ResourceControlAssessment) : String :=
  a.control.name ++ "=" ++ a.outcome.value ++
    (if a.detail = "" then "" else " (" ++ a.detail ++ ")")

end ResourceControlAssessment

-- the soft and hard limit a process has set; none where it runs under the inherited one
abbrev Rlimits := ResourceControl → Option (Nat × Nat)

-- what setrlimit answers: none where it sets the limit, else the exception
abbrev KernelAnswers := Rlimits → ResourceControl → Nat × Nat → Option String

structure Host where
  posix : Bool := true
  available : ResourceControl → Bool := fun _ => true

def setrlimit (kernel : KernelAnswers) (set : Rlimits) (control : ResourceControl)
    (value : Nat × Nat) : Rlimits × Option String :=
  match kernel set control value with
  | none => (Function.update set control (some value), none)
  | some exception => (set, some exception)

def cpuSeconds (maxCpuSeconds : Instant) : Nat := (maxCpuSeconds / 1000000).toNat + 1

def generousMemoryProbeBytes : Nat := 64 * 1024 * 1024 * 1024

def ceiling (maxMemoryBytes : Nat) (maxCpuSeconds : Instant) : ResourceControl → Nat × Nat
  | .memory => (maxMemoryBytes, maxMemoryBytes)
  | .cpu => (cpuSeconds maxCpuSeconds, cpuSeconds maxCpuSeconds + 1)

namespace Host

def unavailable (control : ResourceControl) : String :=
  match control with
  | .memory => "RLIMIT_AS is not available on this platform"
  | .cpu => "RLIMIT_CPU is not available on this platform"

def probeMemory (h : Host) (kernel : KernelAnswers) (set : Rlimits) (maxMemoryBytes : Nat) :
    Rlimits × ResourceControlAssessment :=
  if h.available .memory = false then (set, ⟨.memory, .unsupported, unavailable .memory⟩)
  else
    match setrlimit kernel set .memory (maxMemoryBytes, maxMemoryBytes) with
    | (set, none) => (set, ⟨.memory, .enforced, ""⟩)
    | (set, some err) =>
      match setrlimit kernel set .memory (generousMemoryProbeBytes, generousMemoryProbeBytes) with
      | (set, none) => (set, ⟨.memory, .failed, err⟩)
      | (set, some _) => (set, ⟨.memory, .unsupported, err⟩)

def probeCpu (h : Host) (kernel : KernelAnswers) (set : Rlimits) (maxCpuSeconds : Instant) :
    Rlimits × ResourceControlAssessment :=
  if h.available .cpu = false then (set, ⟨.cpu, .unsupported, unavailable .cpu⟩)
  else
    match setrlimit kernel set .cpu (cpuSeconds maxCpuSeconds, cpuSeconds maxCpuSeconds + 1) with
    | (set, none) => (set, ⟨.cpu, .enforced, ""⟩)
    | (set, some err) => (set, ⟨.cpu, .failed, err⟩)

-- the throwaway process of the probe, which sets its own limits
def probeSource (h : Host) (kernel : KernelAnswers) (maxMemoryBytes : Nat)
    (maxCpuSeconds : Instant) : List ResourceControlAssessment :=
  let memory := h.probeMemory kernel (fun _ => none) maxMemoryBytes
  let cpu := h.probeCpu kernel memory.1 maxCpuSeconds
  [memory.2, cpu.2]

end Host

inductive ProbeRun where
  | answered (kernel : KernelAnswers)
  | broke (exception : String)

abbrev AssessmentCache := Dict (Nat × Instant) (List ResourceControlAssessment)

namespace Host

def assessFresh (h : Host) (maxMemoryBytes : Nat) (maxCpuSeconds : Instant) (probe : ProbeRun) :
    List ResourceControlAssessment :=
  if h.posix = false then
    [.memory, .cpu].map fun control =>
      ⟨control, .unsupported, "POSIX resource limits are unavailable on this platform"⟩
  else
    match probe with
    | .answered kernel => h.probeSource kernel maxMemoryBytes maxCpuSeconds
    | .broke exception =>
      [.memory, .cpu].map fun control =>
        ⟨control, .failed, "resource control probe failed: " ++ exception⟩

def assessResourceControls (h : Host) (cache : AssessmentCache) (maxMemoryBytes : Nat)
    (maxCpuSeconds : Instant) (probe : ProbeRun) :
    AssessmentCache × List ResourceControlAssessment :=
  match cache.get? (maxMemoryBytes, maxCpuSeconds) with
  | some cached => (cache, cached)
  | none =>
    let result := h.assessFresh maxMemoryBytes maxCpuSeconds probe
    (cache.set (maxMemoryBytes, maxCpuSeconds) result, result)

def applyControl (h : Host) (kernel : KernelAnswers) (set : Rlimits) (control : ResourceControl)
    (configured : Prop) [Decidable configured] (value : Nat × Nat) : Rlimits × List String :=
  if h.available control = true ∧ configured then
    match setrlimit kernel set control value with
    | (set, none) => (set, [])
    | (set, some exception) => (set, [control.name ++ ": " ++ exception])
  else (set, [])

-- the limits of the forked child before exec, or the RuntimeError that aborts the launch
def applyResourceControls (h : Host) (kernel : KernelAnswers) (maxMemoryBytes : Nat)
    (maxCpuSeconds : Instant) : Except String Rlimits :=
  let memory := h.applyControl kernel (fun _ => none) .memory (0 < maxMemoryBytes)
    (maxMemoryBytes, maxMemoryBytes)
  let cpu := h.applyControl kernel memory.1 .cpu (0 < maxCpuSeconds)
    (cpuSeconds maxCpuSeconds, cpuSeconds maxCpuSeconds + 1)
  match memory.2 ++ cpu.2 with
  | [] => .ok cpu.1
  | failures =>
    .error ("sandbox resource controls could not be established: " ++
      String.intercalate "; " failures)

end Host

-- limits the model validators have accepted
structure AcceptedLimits extends ResourceLimits where
  accepted : ∃ given : ResourceLimits, given.construct = some toResourceLimits

structure LaunchRequest where
  toolId : String
  limits : AcceptedLimits
  probe : ProbeRun
  kernel : KernelAnswers := fun _ _ _ => none
  popenError : Option String := none

inductive LaunchOutcome where
  | refused (message : String)
  | notLaunched (message : String)
  | started (set : Rlimits) (degraded : List ResourceControlAssessment)

namespace LaunchRequest

def blocks (r : LaunchRequest) (a : ResourceControlAssessment) : Bool :=
  a.outcome = .failed ∨ (a.outcome = .unsupported ∧ a.control.name ∈ r.limits.requiredControls)

def refusal (blocking : List ResourceControlAssessment) : String :=
  "Required sandbox resource controls could not be established, " ++
    "so the workload was not started: " ++ String.intercalate "; " (blocking.map (·.describe))

def launchFailure (r : LaunchRequest) (exception : String) : String :=
  "Failed to launch sandbox subprocess for tool '" ++ r.toolId ++ "': " ++ exception

def isEnforced (assessments : List ResourceControlAssessment) (control : ResourceControl) : Bool :=
  assessments.any (fun a => a.control = control ∧ a.established = true)

def effectiveMemory (r : LaunchRequest) (assessments : List ResourceControlAssessment) : Nat :=
  if isEnforced assessments .memory then r.limits.maxMemoryBytes else 0

def effectiveCpu (r : LaunchRequest) (assessments : List ResourceControlAssessment) : Instant :=
  if isEnforced assessments .cpu then r.limits.maxCpuSeconds else 0

-- preexec_fn runs in the child and only on POSIX
def popen (h : Host) (r : LaunchRequest) (assessments : List ResourceControlAssessment) :
    Except String Rlimits :=
  match r.popenError with
  | some exception => .error exception
  | none =>
    if h.posix then
      (h.applyResourceControls r.kernel (r.effectiveMemory assessments)
        (r.effectiveCpu assessments)).mapError fun _ => "Exception occurred in preexec_fn."
    else .ok fun _ => none

def launch (h : Host) (r : LaunchRequest) (assessments : List ResourceControlAssessment) :
    LaunchOutcome :=
  let blocking := assessments.filter r.blocks
  if blocking ≠ [] then .refused (refusal blocking)
  else
    match popen h r assessments with
    | .error exception => .notLaunched (r.launchFailure exception)
    | .ok set => .started set (assessments.filter (fun a => a.established = false))

def step (h : Host) (cache : AssessmentCache) (r : LaunchRequest) :
    AssessmentCache × LaunchOutcome :=
  let assessed :=
    h.assessResourceControls cache r.limits.maxMemoryBytes r.limits.maxCpuSeconds r.probe
  (assessed.1, r.launch h assessed.2)

end LaunchRequest

-- one assessment for each control, and no limit called enforced that the host cannot set
structure ControlsAssessed (h : Host) (assessments : List ResourceControlAssessment) : Prop where
  controls : assessments.map (·.control) = [.memory, .cpu]
  enforceable : ∀ a ∈ assessments, a.established = true →
    h.posix = true ∧ h.available a.control = true

namespace Host

variable {h : Host}

theorem probeMemory_control (kernel : KernelAnswers) (set : Rlimits) (maxMemoryBytes : Nat) :
    (h.probeMemory kernel set maxMemoryBytes).2.control = .memory := by
  unfold probeMemory
  split
  · rfl
  · split
    · rfl
    · split <;> rfl

theorem probeCpu_control (kernel : KernelAnswers) (set : Rlimits) (maxCpuSeconds : Instant) :
    (h.probeCpu kernel set maxCpuSeconds).2.control = .cpu := by
  unfold probeCpu
  split
  · rfl
  · split <;> rfl

theorem probeMemory_established {kernel : KernelAnswers} {set : Rlimits} {maxMemoryBytes : Nat}
    (he : (h.probeMemory kernel set maxMemoryBytes).2.established = true) :
    h.available .memory = true := by
  unfold probeMemory at he
  split at he
  · simp [ResourceControlAssessment.established] at he
  · rename_i ha
    simpa using ha

theorem probeCpu_established {kernel : KernelAnswers} {set : Rlimits} {maxCpuSeconds : Instant}
    (he : (h.probeCpu kernel set maxCpuSeconds).2.established = true) :
    h.available .cpu = true := by
  unfold probeCpu at he
  split at he
  · simp [ResourceControlAssessment.established] at he
  · rename_i ha
    simpa using ha

theorem assessed_probeSource (hp : h.posix = true) (kernel : KernelAnswers) (maxMemoryBytes : Nat)
    (maxCpuSeconds : Instant) :
    ControlsAssessed h (h.probeSource kernel maxMemoryBytes maxCpuSeconds) := by
  refine ⟨?_, ?_⟩
  · simp only [probeSource, List.map_cons, List.map_nil, probeMemory_control, probeCpu_control]
  · intro a ha he
    simp only [probeSource, List.mem_cons, List.not_mem_nil, or_false] at ha
    obtain rfl | rfl := ha
    · rw [probeMemory_control]
      exact ⟨hp, probeMemory_established he⟩
    · rw [probeCpu_control]
      exact ⟨hp, probeCpu_established he⟩

theorem assessed_uniform (outcome : ResourceControlOutcome) (ho : outcome ≠ .enforced)
    (detail : String) :
    ControlsAssessed h ([.memory, .cpu].map fun control => ⟨control, outcome, detail⟩) := by
  refine ⟨rfl, ?_⟩
  intro a ha he
  obtain ⟨control, -, rfl⟩ := List.mem_map.mp ha
  simp only [ResourceControlAssessment.established, decide_eq_true_eq] at he
  exact (ho he).elim

theorem assessed_assessFresh (maxMemoryBytes : Nat) (maxCpuSeconds : Instant) (probe : ProbeRun) :
    ControlsAssessed h (h.assessFresh maxMemoryBytes maxCpuSeconds probe) := by
  unfold assessFresh
  split
  · exact assessed_uniform .unsupported (by decide) _
  · rename_i hp
    split
    · exact assessed_probeSource (by simpa using hp) _ _ _
    · exact assessed_uniform .failed (by decide) _

end Host

def AssessmentCache.Sound (h : Host) (cache : AssessmentCache) : Prop :=
  ∀ key assessments, cache.get? key = some assessments → ControlsAssessed h assessments

namespace Host

variable {h : Host} {cache : AssessmentCache}

theorem assessed_assess (hc : cache.Sound h) (maxMemoryBytes : Nat) (maxCpuSeconds : Instant)
    (probe : ProbeRun) :
    ControlsAssessed h (h.assessResourceControls cache maxMemoryBytes maxCpuSeconds probe).2 := by
  unfold assessResourceControls
  split
  · exact hc _ _ ‹_›
  · exact assessed_assessFresh _ _ _

theorem cached_assess (cache : AssessmentCache) (maxMemoryBytes : Nat) (maxCpuSeconds : Instant)
    (probe : ProbeRun) :
    (h.assessResourceControls cache maxMemoryBytes maxCpuSeconds probe).1.get?
        (maxMemoryBytes, maxCpuSeconds) =
      some (h.assessResourceControls cache maxMemoryBytes maxCpuSeconds probe).2 := by
  unfold assessResourceControls
  split
  · assumption
  · rw [Dict.get?_set, if_pos rfl]

theorem get?_assess_of_cached {key : Nat × Instant} {cached : List ResourceControlAssessment}
    (hk : cache.get? key = some cached) (maxMemoryBytes : Nat) (maxCpuSeconds : Instant)
    (probe : ProbeRun) :
    (h.assessResourceControls cache maxMemoryBytes maxCpuSeconds probe).1.get? key =
      some cached := by
  unfold assessResourceControls
  split
  · exact hk
  · rename_i hnone
    rw [Dict.get?_set, if_neg, hk]
    rintro rfl
    rw [hk] at hnone
    cases hnone

theorem sound_assess (hc : cache.Sound h) (maxMemoryBytes : Nat) (maxCpuSeconds : Instant)
    (probe : ProbeRun) :
    (h.assessResourceControls cache maxMemoryBytes maxCpuSeconds probe).1.Sound h := by
  intro key assessments hk
  by_cases he : key = (maxMemoryBytes, maxCpuSeconds)
  · subst he
    rw [cached_assess] at hk
    cases hk
    exact assessed_assess hc _ _ _
  · unfold assessResourceControls at hk
    split at hk
    · exact hc _ _ hk
    · rw [Dict.get?_set, if_neg (Ne.symm he)] at hk
      exact hc _ _ hk

theorem applyControl_ok {kernel : KernelAnswers} {set : Rlimits} {control : ResourceControl}
    {configured : Prop} [Decidable configured] {value : Nat × Nat}
    (hf : (h.applyControl kernel set control configured value).2 = []) :
    (h.applyControl kernel set control configured value).1 =
      if h.available control = true ∧ configured then Function.update set control (some value)
      else set := by
  unfold applyControl setrlimit at hf ⊢
  split_ifs at hf ⊢
  · cases hk : kernel set control value with
    | none => rfl
    | some exception => simp [hk] at hf
  · rfl

theorem applyResourceControls_ok {kernel : KernelAnswers} {maxMemoryBytes : Nat}
    {maxCpuSeconds : Instant} {set : Rlimits}
    (ha : h.applyResourceControls kernel maxMemoryBytes maxCpuSeconds = .ok set) :
    set .memory = (if h.available .memory = true ∧ 0 < maxMemoryBytes then
        some (maxMemoryBytes, maxMemoryBytes) else none) ∧
      set .cpu = (if h.available .cpu = true ∧ 0 < maxCpuSeconds then
        some (cpuSeconds maxCpuSeconds, cpuSeconds maxCpuSeconds + 1) else none) := by
  simp only [applyResourceControls] at ha
  split at ha
  · rename_i hf
    cases ha
    obtain ⟨hm, hcpu⟩ := List.append_eq_nil_iff.mp hf
    rw [applyControl_ok hcpu, applyControl_ok hm]
    constructor <;> split_ifs <;> simp
  · cases ha

end Host

namespace AcceptedLimits

theorem construct_eq {given limits : ResourceLimits} (h : given.construct = some limits) :
    0 < limits.maxMemoryBytes ∧ 0 < limits.maxCpuSeconds ∧
      ∀ name ∈ limits.requiredControls, name ∈ knownControls := by
  unfold ResourceLimits.construct at h
  split_ifs at h with hc
  obtain ⟨hm, -, hcpu, -, -, -, -, hk⟩ := hc
  cases h
  refine ⟨hm, hcpu, ?_⟩
  intro name hn
  rw [NetworkInput.mem_sortedTexts] at hn
  simpa using List.all_eq_true.mp hk name hn

theorem memory_pos (l : AcceptedLimits) : 0 < l.maxMemoryBytes := by
  obtain ⟨given, h⟩ := l.accepted
  exact (construct_eq h).1

theorem cpu_pos (l : AcceptedLimits) : 0 < l.maxCpuSeconds := by
  obtain ⟨given, h⟩ := l.accepted
  exact (construct_eq h).2.1

theorem control_known (l : AcceptedLimits) {name : String} (hn : name ∈ l.requiredControls) :
    ∃ control : ResourceControl, control.name = name := by
  obtain ⟨given, h⟩ := l.accepted
  have hk := (construct_eq h).2.2 name hn
  simp only [knownControls, List.mem_cons, List.not_mem_nil, or_false] at hk
  obtain rfl | rfl := hk
  · exact ⟨.memory, rfl⟩
  · exact ⟨.cpu, rfl⟩

end AcceptedLimits

namespace ControlsAssessed

variable {h : Host} {assessments : List ResourceControlAssessment}

theorem unique (ha : ControlsAssessed h assessments) {a b : ResourceControlAssessment}
    (hm : a ∈ assessments) (hn : b ∈ assessments) (hc : a.control = b.control) : a = b :=
  List.inj_on_of_nodup_map (by rw [ha.controls]; decide) hm hn hc

theorem covers (ha : ControlsAssessed h assessments) (control : ResourceControl) :
    ∃ a ∈ assessments, a.control = control := by
  have hc : control ∈ assessments.map (·.control) := by
    rw [ha.controls]
    cases control <;> simp
  exact List.mem_map.mp hc

theorem isEnforced_eq (ha : ControlsAssessed h assessments) {a : ResourceControlAssessment}
    (hm : a ∈ assessments) : LaunchRequest.isEnforced assessments a.control = a.established := by
  cases he : a.established with
  | true => exact List.any_eq_true.mpr ⟨a, hm, by simp [he]⟩
  | false =>
    apply List.any_eq_false.mpr
    intro b hb
    simp only [decide_eq_true_eq, not_and]
    intro hc
    rw [ha.unique hb hm hc, he]
    decide

end ControlsAssessed

namespace LaunchRequest

variable {h : Host} {r : LaunchRequest} {assessments : List ResourceControlAssessment}
  {set : Rlimits} {degraded : List ResourceControlAssessment}

theorem popen_ok (ha : ControlsAssessed h assessments) (hp : popen h r assessments = .ok set)
    {a : ResourceControlAssessment} (hm : a ∈ assessments) :
    set a.control = if a.established = true then
      some (ceiling r.limits.maxMemoryBytes r.limits.maxCpuSeconds a.control) else none := by
  unfold popen at hp
  split at hp
  · cases hp
  · split at hp
    · rename_i hposix
      have hok : h.applyResourceControls r.kernel (r.effectiveMemory assessments)
          (r.effectiveCpu assessments) = .ok set := by
        cases hr : h.applyResourceControls r.kernel (r.effectiveMemory assessments)
          (r.effectiveCpu assessments) with
        | ok s =>
          rw [hr] at hp
          exact congrArg Except.ok (Except.ok.inj hp)
        | error e =>
          rw [hr] at hp
          cases hp
      obtain ⟨hmem, hcpu⟩ := Host.applyResourceControls_ok hok
      have he := ha.isEnforced_eq hm
      have havail := ha.enforceable a hm
      cases hc : a.control with
      | memory =>
        rw [hc] at he havail
        rw [hmem, effectiveMemory, he]
        cases hest : a.established with
        | true => simp [(havail hest).2, r.limits.memory_pos, ceiling]
        | false => simp
      | cpu =>
        rw [hc] at he havail
        rw [hcpu, effectiveCpu, he]
        cases hest : a.established with
        | true => simp [(havail hest).2, r.limits.cpu_pos, ceiling]
        | false => simp
    · rename_i hposix
      cases hp
      have hest : a.established = false := by
        by_contra hne
        exact hposix (ha.enforceable a hm (by simpa using hne)).1
      simp [hest]

theorem launch_started (ha : ControlsAssessed h assessments)
    (hs : r.launch h assessments = .started set degraded) (control : ResourceControl) :
    (set control = some (ceiling r.limits.maxMemoryBytes r.limits.maxCpuSeconds control) ∧
      ∀ a ∈ degraded, a.control ≠ control) ∨
    (control.name ∉ r.limits.requiredControls ∧ set control = none ∧
      ∃ a ∈ degraded, a.control = control ∧ a.outcome = .unsupported) := by
  simp only [launch] at hs
  split at hs
  · cases hs
  · rename_i hblock
    split at hs
    · cases hs
    · rename_i set' hp
      cases hs
      obtain ⟨a, hm, rfl⟩ := ha.covers control
      have hset := popen_ok ha hp hm
      have hfree : r.blocks a = false := by
        by_contra hb
        simp only [ne_eq, not_not, List.filter_eq_nil_iff] at hblock
        exact hblock a hm (by simpa using hb)
      cases hest : a.established with
      | true =>
        left
        rw [hset, if_pos hest]
        refine ⟨rfl, ?_⟩
        intro b hb hc
        obtain ⟨hbm, hbest⟩ := List.mem_filter.mp hb
        rw [ha.unique hbm hm hc, hest] at hbest
        simp at hbest
      | false =>
        right
        simp only [blocks, decide_eq_false_iff_not, not_or, not_and] at hfree
        have hout : a.outcome = .unsupported := by
          cases ho : a.outcome with
          | enforced => simp [ResourceControlAssessment.established, ho] at hest
          | unsupported => rfl
          | failed => exact (hfree.1 ho).elim
        refine ⟨hfree.2 hout, ?_, a, List.mem_filter.mpr ⟨hm, by simp [hest]⟩, rfl, hout⟩
        rw [hset, if_neg (by simp [hest])]

theorem sound_after (h : Host) (earlier : List LaunchRequest) :
    AssessmentCache.Sound h (Run.final (step h) .empty earlier) := by
  apply Run.final_invariant (step h) (AssessmentCache.Sound h) (fun _ => True)
  · intro key assessments hk
    cases hk
  · exact fun _ _ => trivial
  · exact fun cache r _ hc => Host.sound_assess hc _ _ _

theorem workload_starts_controlled (h : Host) (earlier : List LaunchRequest) (r : LaunchRequest)
    (set : Rlimits) (degraded : List ResourceControlAssessment)
    (hs : (step h (Run.final (step h) .empty earlier) r).2 = .started set degraded) :
    (∀ name ∈ r.limits.requiredControls, ∃ control : ResourceControl, control.name = name ∧
      set control = some (ceiling r.limits.maxMemoryBytes r.limits.maxCpuSeconds control)) ∧
    ∀ control : ResourceControl,
      (set control = some (ceiling r.limits.maxMemoryBytes r.limits.maxCpuSeconds control) ∧
        ∀ a ∈ degraded, a.control ≠ control) ∨
      (control.name ∉ r.limits.requiredControls ∧ set control = none ∧
        ∃ a ∈ degraded, a.control = control ∧ a.outcome = .unsupported) := by
  have ha := Host.assessed_assess (sound_after h earlier) r.limits.maxMemoryBytes
    r.limits.maxCpuSeconds r.probe
  have hall := launch_started ha hs
  refine ⟨?_, hall⟩
  intro name hn
  obtain ⟨control, rfl⟩ := r.limits.control_known hn
  obtain ⟨hset, -⟩ | ⟨hfree, -⟩ := hall control
  · exact ⟨control, rfl, hset⟩
  · exact (hfree hn).elim

def sampleLimits : AcceptedLimits :=
  { requiredControls := ["cpu"]
    accepted := ⟨{ requiredControls := ["cpu"] }, by decide +kernel⟩ }

-- a kernel that takes no memory limit at all, as Darwin's
def sampleRequest : LaunchRequest :=
  { toolId := "file_read", limits := sampleLimits
    probe := .answered fun _ control _ => if control = .memory then some "ValueError" else none }

theorem workload_starts_controlled_sample :
    (∀ name ∈ sampleLimits.requiredControls, ∃ control : ResourceControl, control.name = name ∧
      Function.update (fun _ => none) ResourceControl.cpu (some (6, 7)) control =
        some (ceiling sampleLimits.maxMemoryBytes sampleLimits.maxCpuSeconds control)) ∧
    ∀ control : ResourceControl,
      (Function.update (fun _ => none) ResourceControl.cpu (some (6, 7)) control =
        some (ceiling sampleLimits.maxMemoryBytes sampleLimits.maxCpuSeconds control) ∧
        ∀ a ∈ [ResourceControlAssessment.mk .memory .unsupported "ValueError"],
          a.control ≠ control) ∨
      (control.name ∉ sampleLimits.requiredControls ∧
        Function.update (fun _ => none) ResourceControl.cpu (some (6, 7)) control = none ∧
        ∃ a ∈ [ResourceControlAssessment.mk .memory .unsupported "ValueError"],
          a.control = control ∧ a.outcome = .unsupported) :=
  workload_starts_controlled {} [sampleRequest] sampleRequest
    (Function.update (fun _ => none) ResourceControl.cpu (some (6, 7)))
    [⟨.memory, .unsupported, "ValueError"⟩] rfl

theorem launch_refused_iff {message : String} :
    r.launch h assessments = .refused message ↔
      assessments.filter r.blocks ≠ [] ∧ message = refusal (assessments.filter r.blocks) := by
  simp only [launch]
  split
  · rename_i hb
    simp [hb, eq_comm]
  · rename_i hb
    simp only [hb, false_and, iff_false]
    split <;> simp

theorem get?_final {cache : AssessmentCache} {key : Nat × Instant}
    {cached : List ResourceControlAssessment} (hk : cache.get? key = some cached)
    (later : List LaunchRequest) : (Run.final (step h) cache later).get? key = some cached :=
  Run.final_invariant (step h) (fun c => c.get? key = some cached) (fun _ => True) cache later hk
    (fun _ _ => trivial) fun _ _ _ hc => Host.get?_assess_of_cached hc _ _ _

-- the first launch under some limits decides for all later ones, whatever the host answers then
theorem launch_refusal_final (h : Host) (earlier between : List LaunchRequest)
    (r later : LaunchRequest)
    (hl : later.limits.toResourceLimits = r.limits.toResourceLimits) (message : String) :
    (step h (Run.final (step h) .empty (earlier ++ r :: between)) later).2 = .refused message ↔
      (step h (Run.final (step h) .empty earlier) r).2 = .refused message := by
  have hblocks : later.blocks = r.blocks := by
    funext a
    simp only [blocks, hl]
  have hkey := get?_final (h := h) (Host.cached_assess (h := h)
    (Run.final (step h) .empty earlier) r.limits.maxMemoryBytes r.limits.maxCpuSeconds r.probe)
    between
  have hfinal : Run.final (step h) .empty (earlier ++ r :: between) =
      Run.final (step h) (h.assessResourceControls (Run.final (step h) .empty earlier)
        r.limits.maxMemoryBytes r.limits.maxCpuSeconds r.probe).1 between := by
    rw [Run.final_append]
    rfl
  simp only [step, launch_refused_iff, hblocks]
  rw [hfinal, Host.assessResourceControls, hl, hkey]

theorem launch_refusal_final_sample :
    (step {} (Run.final (step {}) .empty
      ([] ++ { sampleRequest with probe := .broke "TimeoutExpired" } :: [])) sampleRequest).2 =
      .refused (refusal ([.memory, .cpu].map fun control =>
        ⟨control, .failed, "resource control probe failed: " ++ "TimeoutExpired"⟩)) :=
  (launch_refusal_final {} [] [] { sampleRequest with probe := .broke "TimeoutExpired" }
    sampleRequest rfl _).mpr rfl

end LaunchRequest

end AgentSecurityPlatform
