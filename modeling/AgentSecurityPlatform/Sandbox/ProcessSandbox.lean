import AgentSecurityPlatform.Sandbox.OutputCollection
import AgentSecurityPlatform.Sandbox.ResourceControls
import AgentSecurityPlatform.Sandbox.Runner

namespace AgentSecurityPlatform

open PythonJson

-- an execute call with capabilities the model validators accepted
structure SandboxCall (u : UnicodeData) where
  tool : BaseTool
  parameters : Mapping := .empty
  capabilities : SandboxCapabilities u
  provenance : ExecutionProvenance
  implementationId : Option String := none
  toolVersion : Option String := none
  accepted : ∃ given : ResourceLimits, given.construct = some capabilities.resources

-- what the operating system, the clock and the libraries answer during one call
structure SandboxWorld where
  probe : ProbeRun
  kernel : KernelAnswers := fun _ _ _ => none
  popenError : Option String := none
  workspaceExists : String → Bool := fun _ => true
  scratchPath : String
  startMonotonic : Instant := 0
  collection : List CollectAction
  collectException : RaisedException
  descriptorException : RaisedException
  durationMs : Nat := 0
  decode : List UInt8 → String
  reprFloat : Instant → String
  reading : ProcessToolExecutionSandbox.ResultReading
  sha256 : String → String

namespace ProcessToolExecutionSandbox

variable {u : UnicodeData}

def unavailable (message : String) : SandboxOutcome Value :=
  .raised { typeName := "SandboxUnavailableError", message }

def timeoutError (w : SandboxWorld) (c : SandboxCall u) : SandboxOutcome Value :=
  .raised
    { typeName := "SandboxTimeoutError"
      message := "Tool '" ++ c.tool.toolId ++ "' exceeded wall-clock timeout of " ++
        w.reprFloat c.capabilities.resources.wallClockTimeoutSeconds ++ "s" }

def exhaustedError (c : SandboxCall u) : SandboxOutcome Value :=
  .raised
    { typeName := "SandboxResourceExhaustedError"
      message := "Tool '" ++ c.tool.toolId ++ "' exceeded output size limit of " ++
        toString c.capabilities.resources.maxOutputBytes ++ " bytes" }

def collectLimits (w : SandboxWorld) (c : SandboxCall u) : CollectLimits :=
  { maxOutputBytes := c.capabilities.resources.maxOutputBytes
    deadline := w.startMonotonic + c.capabilities.resources.wallClockTimeoutSeconds }

def collected (w : SandboxWorld) (c : SandboxCall u) : Collection :=
  .after (collectLimits w c) w.collection

def workerOutput (w : SandboxWorld) (c : SandboxCall u) : WorkerOutput :=
  { stdout := w.decode ((collected w c).collector.collected .stdout)
    stderr := w.decode ((collected w c).collector.collected .stderr)
    durationMs := w.durationMs }

-- none while the collection goes on
def collectResult (w : SandboxWorld) (c : SandboxCall u) : Option (SandboxOutcome Value) :=
  match (collected w c).collector.point with
  | .ended .timedOut => some (timeoutError w c)
  | .ended .exhausted => some (exhaustedError c)
  | .ended .raised => some (.raised w.collectException)
  | .ended .finished => some (parseResult w.reading w.sha256 (workerOutput w c))
  | _ => none

def launchRequest (w : SandboxWorld) (c : SandboxCall u) : LaunchRequest :=
  { toolId := c.tool.toolId
    limits := ⟨c.capabilities.resources, c.accepted⟩
    probe := w.probe
    kernel := w.kernel
    popenError := w.popenError }

def scratch (w : SandboxWorld) (c : SandboxCall u) : Option String :=
  if c.capabilities.filesystem.allowTempWrites then some w.scratchPath else none

def sent (w : SandboxWorld) (c : SandboxCall u) (implementationId : String) :
    Option ToolExecutionDescriptor :=
  descriptor c.tool c.parameters c.capabilities c.provenance implementationId c.toolVersion
    (scratch w c)

def executeProcess (h : Host) (w : SandboxWorld) (cache : AssessmentCache) (c : SandboxCall u)
    (implementationId : String) : AssessmentCache × Option (SandboxOutcome Value) :=
  match sent w c implementationId with
  | none => (cache, some (.raised w.descriptorException))
  | some _ =>
    match (launchRequest w c).step h cache with
    | (cache, .refused message) => (cache, some (unavailable message))
    | (cache, .notLaunched message) => (cache, some (unavailable message))
    | (cache, .started _ _) => (cache, collectResult w c)

def execute (h : Host) (w : SandboxWorld) (cache : AssessmentCache) (c : SandboxCall u) :
    AssessmentCache × Option (SandboxOutcome Value) :=
  match nonEmpty c.implementationId with
  | none =>
    (cache, some (unavailable ("No implementation is registered for tool '" ++ c.tool.toolId ++
      "': execution requires an explicitly declared implementation_id, and one is never " ++
      "inferred from the tool identity")))
  | some implementationId =>
    if w.workspaceExists c.capabilities.filesystem.workspaceRoot then
      executeProcess h w cache c implementationId
    else
      (cache, some (unavailable ("Workspace root directory does not exist: '" ++
        c.capabilities.filesystem.workspaceRoot ++ "'")))

-- calls one after another in one platform process, each in a world of its own
def step (h : Host) (cache : AssessmentCache) (call : SandboxWorld × SandboxCall u) :
    AssessmentCache × Option (SandboxOutcome Value) :=
  execute h call.1 cache call.2

variable {h : Host} {w : SandboxWorld} {cache : AssessmentCache} {c : SandboxCall u}
  {implementationId : String} {d : ToolExecutionDescriptor}

theorem execute_started (hid : nonEmpty c.implementationId = some implementationId)
    (hexists : w.workspaceExists c.capabilities.filesystem.workspaceRoot = true)
    (hd : sent w c implementationId = some d) {set : Rlimits}
    {degraded : List ResourceControlAssessment}
    (hstarted : ((launchRequest w c).step h cache).2 = .started set degraded) :
    (execute h w cache c).2 = collectResult w c := by
  have hstep : (launchRequest w c).step h cache =
      (((launchRequest w c).step h cache).1, .started set degraded) :=
    Prod.ext rfl hstarted
  simp only [execute, hid, hexists, ↓reduceIte, executeProcess, hd]
  rw [hstep]

def utf8 (text : String) : List UInt8 := text.toUTF8.data.toList

-- the child wrote this text to stdout, all of it before its exit, and nobody wrote after
structure WroteExactly (col : Collection) (text : String) : Prop where
  before_exit : col.child.writtenAtExit .stdout = utf8 text
  nothing_after : (col.child.pipe .stdout).written = utf8 text
  read : .stdout ∉ col.collector.lost

theorem WroteExactly.collected_eq {limits : CollectLimits} {actions : List CollectAction}
    {text : String} (hw : WroteExactly (.after limits actions) text)
    (hended : (Collection.after limits actions).collector.point = .ended .finished) :
    (Collection.after limits actions).collector.collected .stdout = utf8 text := by
  have hs := Collection.sound_after limits actions
  have he := hs.established
  rw [hended] at he
  have hin := he.1.1.2 .stdout (by simp) hw.read
  have hout := hs.in_order.prefix_written .stdout
  rw [hw.before_exit] at hin
  rw [hw.nothing_after] at hout
  exact hout.eq_of_length_le hin.length_le

theorem sandbox_transparent {e : RunnerEnvironment u}
    (hdecode : ∀ text, w.decode (utf8 text) = text) (hreading : w.reading.Plain)
    (hid : nonEmpty c.implementationId = some implementationId)
    (hexists : w.workspaceExists c.capabilities.filesystem.workspaceRoot = true)
    (hd : sent w c implementationId = some d)
    (hloads : ToolExecutionDescriptor.Loads e.readFloat d.toDescriptorFields) {set : Rlimits}
    {degraded : List ResourceControlAssessment}
    (hstarted : ((launchRequest w c).step h cache).2 = .started set degraded)
    (hended : (collected w c).collector.point = .ended .finished)
    (hwrote : WroteExactly (collected w c) (SandboxRunner.runHeadless e d.toJson).stdout)
    (hprinted : (SandboxRunner.dispatch e (SandboxRunner.received d)).printed = "")
    (hresult : RunLoads w.reading.readFloat
      (SandboxRunner.dispatch e (SandboxRunner.received d))) :
    (execute h w cache c).2 = some (.returned (resultOfRun w.sha256 (workerOutput w c)
      (SandboxRunner.dispatch e (SandboxRunner.received d)))) := by
  rw [execute_started hid hexists hd hstarted, collectResult, hended]
  rw [SandboxRunner.runHeadless_toJson hloads] at hwrote
  refine congrArg some (parseResult_run hreading hprinted hresult ?_)
  exact (congrArg w.decode (hwrote.collected_eq hended)).trans (hdecode _)

-- the worker wrote one JSON object, with a success that reads as true and members that fit a result
structure Answers (rd : ResultReading) (output : WorkerOutput) (r : SandboxExecutionResult Value)
    (members : List (Str × Value)) : Prop where
  object : loads rd.readFloat (Text.strip output.stdout) = some (.object members)
  success : (member members "success").bind rd.bool = some true
  exitCode : (member members "exit_code").all rd.exitCode = true
  output : r.output = present ((member members "output").getD .null)

theorem parsedResult_answers {rd : ResultReading} {sha256 : String → String} {output : WorkerOutput}
    {members : List (Str × Value)} {r : SandboxExecutionResult Value}
    (h : parsedResult rd sha256 output members = .returned r) (hr : r.success = true) :
    (member members "success").bind rd.bool = some true ∧
      (member members "exit_code").all rd.exitCode = true ∧
      r.output = present ((member members "output").getD .null) := by
  simp only [parsedResult] at h
  split at h
  · rename_i success errorType errorMessage hsuccess hcode _ _
    cases h
    obtain rfl : success = true := hr
    refine ⟨?_, hcode, rfl⟩
    cases hm : member members "success" with
    | none =>
      rw [hm] at hsuccess
      cases hsuccess
    | some v =>
      rw [hm] at hsuccess
      exact hsuccess
  · cases h

theorem parseResult_answers {rd : ResultReading} {sha256 : String → String} {output : WorkerOutput}
    {r : SandboxExecutionResult Value} (h : parseResult rd sha256 output = .returned r)
    (hr : r.success = true) : ∃ members, Answers rd output r members := by
  simp only [parseResult] at h
  split at h
  · cases h
    cases hr
  · split at h
    · rename_i members hobject
      obtain ⟨hsuccess, hcode, houtput⟩ := parsedResult_answers h hr
      exact ⟨members, hobject, hsuccess, hcode, houtput⟩
    · cases h
    · cases h
      cases hr

-- what stands before a result is handed to the executor
structure Confined (h : Host) (w : SandboxWorld) (cache : AssessmentCache) (c : SandboxCall u)
    (r : SandboxExecutionResult Value) (set : Rlimits)
    (degraded : List ResourceControlAssessment) : Prop where
  declared : ∃ implementationId, c.implementationId = some implementationId ∧ implementationId ≠ ""
  workspace : w.workspaceExists c.capabilities.filesystem.workspaceRoot = true
  started : ((launchRequest w c).step h cache).2 = .started set degraded
  required : ∀ name ∈ c.capabilities.resources.requiredControls, ∃ control : ResourceControl,
    control.name = name ∧ set control = some (ceiling c.capabilities.resources.maxMemoryBytes
      c.capabilities.resources.maxCpuSeconds control)
  reported : ∀ control : ResourceControl,
    set control = some (ceiling c.capabilities.resources.maxMemoryBytes
      c.capabilities.resources.maxCpuSeconds control) ∨ ∃ a ∈ degraded, a.control = control
  cleaned : (collected w c).child.groupSignalled = true
  exited : (collected w c).child.exited = true
  bounded : ((collected w c).collector.collected .stdout).length +
    ((collected w c).collector.collected .stderr).length ≤ c.capabilities.resources.maxOutputBytes
  in_order : ∀ s, (collected w c).collector.collected s <+: ((collected w c).child.pipe s).written
  answered : r.success = true → ∃ members, Answers w.reading (workerOutput w c) r members

theorem sound_calls (h : Host) (earlier : List (SandboxWorld × SandboxCall u)) :
    AssessmentCache.Sound h (Run.final (step h) .empty earlier) := by
  apply Run.final_invariant (step h) (AssessmentCache.Sound h) (fun _ => True)
  · intro key assessments hk
    cases hk
  · exact fun _ _ => trivial
  · intro cache call _ hc
    have hstep : ((launchRequest call.1 call.2).step h cache).1.Sound h :=
      Host.sound_assess hc _ _ _
    simp only [step, execute]
    split
    · exact hc
    · split
      · simp only [executeProcess]
        split
        · exact hc
        · split <;> rename_i hs <;> rw [hs] at hstep <;> exact hstep
      · exact hc

theorem collectResult_returned {r : SandboxExecutionResult Value}
    (hr : collectResult w c = some (.returned r)) :
    (collected w c).collector.point = .ended .finished ∧
      parseResult w.reading w.sha256 (workerOutput w c) = .returned r := by
  unfold collectResult at hr
  split at hr
  · cases hr
  · cases hr
  · cases hr
  · exact ⟨by assumption, Option.some.inj hr⟩
  · cases hr

theorem execute_returned {r : SandboxExecutionResult Value}
    (hr : (execute h w cache c).2 = some (.returned r)) :
    ∃ implementationId set degraded, nonEmpty c.implementationId = some implementationId ∧
      w.workspaceExists c.capabilities.filesystem.workspaceRoot = true ∧
      ((launchRequest w c).step h cache).2 = .started set degraded ∧
      collectResult w c = some (.returned r) := by
  simp only [execute] at hr
  split at hr
  · cases hr
  · rename_i implementationId hid
    split at hr
    · rename_i hexists
      simp only [executeProcess] at hr
      split at hr
      · cases hr
      · split at hr
        · cases hr
        · cases hr
        · rename_i set degraded hs
          exact ⟨implementationId, set, degraded, hid, hexists, by rw [hs], hr⟩
    · cases hr

theorem sandbox_result_confined (h : Host) (earlier : List (SandboxWorld × SandboxCall u))
    (w : SandboxWorld) (c : SandboxCall u) (r : SandboxExecutionResult Value)
    (hr : (execute h w (Run.final (step h) .empty earlier) c).2 = some (.returned r)) :
    ∃ set degraded, Confined h w (Run.final (step h) .empty earlier) c r set degraded := by
  obtain ⟨implementationId, set, degraded, hid, hexists, hstarted, hcollect⟩ := execute_returned hr
  have hassessed := Host.assessed_assess (sound_calls h earlier)
    (launchRequest w c).limits.maxMemoryBytes (launchRequest w c).limits.maxCpuSeconds
    (launchRequest w c).probe
  have hcontrols := LaunchRequest.launch_started hassessed hstarted
  have hs := Collection.sound_after (collectLimits w c) w.collection
  have he := hs.established
  obtain ⟨hended, hparsed⟩ := collectResult_returned hcollect
  rw [collected] at hended
  rw [hended] at he
  obtain ⟨⟨⟨hexited, -⟩, hbounded⟩, hcleaned⟩ := he
  refine ⟨set, degraded, ?_⟩
  constructor
  case declared =>
    obtain ⟨hsome, hne⟩ := Option.filter_eq_some_iff.mp hid
    exact ⟨implementationId, hsome, by simpa using hne⟩
  case workspace => exact hexists
  case started => exact hstarted
  case required =>
    intro name hn
    obtain ⟨control, rfl⟩ := (launchRequest w c).limits.control_known hn
    obtain ⟨hset, -⟩ | ⟨hfree, -⟩ := hcontrols control
    · exact ⟨control, rfl, hset⟩
    · exact (hfree hn).elim
  case reported =>
    intro control
    obtain ⟨hset, -⟩ | ⟨-, -, a, ha, hc, -⟩ := hcontrols control
    · exact .inl hset
    · exact .inr ⟨a, ha, hc⟩
  case cleaned => exact hcleaned
  case exited => exact hexited
  case bounded => exact hs.in_order.total ▸ hbounded
  case in_order => exact hs.in_order.prefix_written
  case answered => exact parseResult_answers hparsed

section Samples

-- a child that writes these bytes to stdout and exits
def plainActions (bytes : List UInt8) : List CollectAction :=
  [.collect {}, .write .stdout bytes, .collect {}, .collect {}, .collect {}, .exit] ++
    List.replicate 6 (.collect {})

theorem plainActions_collected (limits : CollectLimits) (hd : 0 < limits.deadline)
    (bytes : List UInt8) (hb : bytes.length ≤ limits.maxOutputBytes) :
    (Collection.after limits (plainActions bytes)).collector.point = .ended .finished ∧
      (Collection.after limits (plainActions bytes)).child.writtenAtExit .stdout = bytes ∧
      ((Collection.after limits (plainActions bytes)).child.pipe .stdout).written = bytes ∧
      (Collection.after limits (plainActions bytes)).collector.lost = [] := by
  have hdeadline : ¬ limits.deadline ≤ 0 := by omega
  have hlimit : ¬ limits.maxOutputBytes < bytes.length := by omega
  by_cases hbytes : bytes = []
  · subst hbytes
    simp [plainActions, Collection.after, Run.final, Collection.step, Collection.collect,
      Collection.goTo, Collection.checkLimit, Collection.read, ChildProcess.write,
      ChildProcess.exit, ChildProcess.kill, hdeadline, List.replicate]
  · simp [plainActions, Collection.after, Run.final, Collection.step, Collection.collect,
      Collection.goTo, Collection.checkLimit, Collection.read, Collection.take, ChildProcess.write,
      ChildProcess.exit, ChildProcess.kill, hdeadline, hlimit, hbytes, List.replicate]

def sampleDecode (bytes : List UInt8) : String := (String.fromUTF8? ⟨bytes.toArray⟩).getD ""

theorem sampleDecode_utf8 (text : String) : sampleDecode (utf8 text) = text := by
  have h : (⟨(utf8 text).toArray⟩ : ByteArray) = text.toByteArray := rfl
  rw [sampleDecode, h, String.fromUTF8?, dif_pos text.isValidUTF8]
  rfl

def sampleConfinement : SandboxCapabilities .ascii :=
  { capabilityProfileId := "profile-file_read"
    filesystem := { workspaceRoot := "/srv/files" }
    destinations := [] }

theorem sampleConfinement_accepted :
    ∃ given : ResourceLimits, given.construct = some sampleConfinement.resources :=
  ⟨{}, by decide +kernel⟩

def sampleCall : SandboxCall .ascii :=
  { tool := ⟨"file_read", "1.0.0"⟩
    parameters := textParameters (sampleParameters (.ofString "notes.txt"))
    capabilities := sampleConfinement
    provenance := sampleProvenance
    implementationId := some "file_read_v1"
    accepted := sampleConfinement_accepted }

-- an implementation that returns the parameter it was given
def echoQuery : ToolImplementation .ascii := fun parameters _ _ _ =>
  { outcome := .returned ((parameters.field "query").getD .null) }

def sampleEnvironment : RunnerEnvironment .ascii :=
  { registry := ({} : SandboxExecutionRegistry .ascii).register (.ofString "file_read_v1") echoQuery
    files := SandboxCapabilities.sampleFiles
    runtimeDirs := []
    ports := samplePorts
    readFloat := FloatText.read
    sanitizeErrorMessage := id
    parseErrorText := fun _ => "Expecting value: line 1 column 1 (char 0)"
    keyErrorText := fun _ => "not packaged" }

theorem sampleIds_ne : Str.ofString "file_read" ≠ [] ∧ Str.ofString "file_read_v1" ≠ [] := by
  decide

def sampleDescriptor : ToolExecutionDescriptor :=
  ⟨{ toolId := .ofString "file_read"
     implementationId := .ofString "file_read_v1"
     parameters := textParameters (sampleParameters (.ofString "notes.txt"))
     grantId := some (.ofString "grant-1")
     sessionId := some (.ofString "session-1")
     agentId := some (.ofString "agent-1")
     requestId := some (.ofString "request-1")
     filesystem := some sampleConfinement.filesystem.modelDump
     network := some sampleConfinement.networkDump }, sampleIds_ne.1, sampleIds_ne.2⟩

def sampleReport : RunnerReport := .success (.str (.ofString "notes.txt"))

def sampleWorld : SandboxWorld :=
  { probe := .answered fun _ _ _ => none
    scratchPath := "/tmp/sandbox_scratch_1"
    collection := plainActions (utf8 (dumps .standard (.object sampleReport.payload)))
    collectException := { typeName := "BrokenPipeError", message := "[Errno 32] Broken pipe" }
    descriptorException := { typeName := "ValidationError", message := "1 validation error" }
    durationMs := 25
    decode := sampleDecode
    reprFloat := fun _ => "10.0"
    reading := DefaultToolExecutor.sampleReading
    sha256 := DefaultToolExecutor.sampleSha }

theorem sampleDescriptor_loads :
    ToolExecutionDescriptor.Loads FloatText.read sampleDescriptor.toDescriptorFields := by
  constructor
  case texts => simp [sampleDescriptor, joinPairs_ofString]
  case parameters =>
    apply loadable_textParameters
    intro e he
    rw [List.mem_singleton.mp he]
    exact ⟨unpaired_of_isText (isText_ofString "query"),
      unpaired_of_isText (isText_ofString "notes.txt")⟩
  case filesystem =>
    rintro m ⟨⟩
    exact loadable_filesystem sampleConfinement.filesystem
  case network =>
    rintro m ⟨⟩
    exact loadable_network sampleConfinement

theorem sampleDispatch :
    SandboxRunner.dispatch sampleEnvironment (SandboxRunner.received sampleDescriptor) =
      .wrote "" sampleReport := by
  obtain ⟨fsGuard, hfs⟩ : ∃ g, SandboxRunner.filesystemGuard sampleEnvironment.files
      sampleEnvironment.runtimeDirs (SandboxRunner.received sampleDescriptor) = some g := by
    simp only [SandboxRunner.filesystemGuard, SandboxRunner.scratchDir, SandboxRunner.received,
      sampleDescriptor, ToolExecutionDescriptor.sortedFields, Option.map_some,
      Option.bind_eq_bind, Option.bind_some, FilesystemSandboxGuard.fromMapping_dump]
    exact ⟨_, rfl⟩
  obtain ⟨netGuard, hnet⟩ : ∃ g, SandboxRunner.networkGuard .ascii sampleEnvironment.ports
      (SandboxRunner.received sampleDescriptor) = some g := by
    have hempty : sampleConfinement.destinations = [] →
        sampleConfinement.network.allowedDestinations = [] := fun _ => rfl
    simp only [SandboxRunner.networkGuard, SandboxRunner.received, sampleDescriptor,
      ToolExecutionDescriptor.sortedFields, Option.map_some,
      NetworkSandboxGuard.fromMapping_dump sampleEnvironment.ports hempty]
    exact ⟨_, rfl⟩
  have hfn : (SandboxRunner.implementations sampleEnvironment).resolve
      (SandboxRunner.received sampleDescriptor).implementationId = some echoQuery := rfl
  rw [SandboxRunner.dispatch, hfn]
  simp only [hfs, hnet]
  rfl

theorem sample_sent : sent sampleWorld sampleCall "file_read_v1" = some sampleDescriptor := by
  rw [sent, descriptor, ToolExecutionDescriptor.construct]
  exact dif_pos sampleIds_ne

theorem sample_started : ∃ set degraded,
    ((launchRequest sampleWorld sampleCall).step {} .empty).2 = .started set degraded :=
  ⟨_, _, rfl⟩

theorem sample_collected :
    (collected sampleWorld sampleCall).collector.point = .ended .finished ∧
      WroteExactly (collected sampleWorld sampleCall)
        (dumps .standard (.object sampleReport.payload)) := by
  have hlength : (utf8 (dumps .standard (.object sampleReport.payload))).length ≤
      (collectLimits sampleWorld sampleCall).maxOutputBytes := by decide +kernel
  obtain ⟨hended, hexit, hwritten, hlost⟩ := plainActions_collected
    (collectLimits sampleWorld sampleCall) (by decide +kernel) _ hlength
  have hnone : (collected sampleWorld sampleCall).collector.lost = [] := hlost
  exact ⟨hended, hexit, hwritten, by simp [hnone]⟩

theorem sandbox_transparent_sample :
    (execute {} sampleWorld .empty sampleCall).2 =
      some (.returned (resultOf DefaultToolExecutor.sampleSha 25 sampleReport)) := by
  obtain ⟨set, degraded, hstarted⟩ := sample_started
  obtain ⟨hended, hwrote⟩ := sample_collected
  have hstdout : (SandboxRunner.runHeadless sampleEnvironment sampleDescriptor.toJson).stdout =
      dumps .standard (.object sampleReport.payload) := by
    rw [SandboxRunner.runHeadless_toJson sampleDescriptor_loads, sampleDispatch]
    exact String.empty_append
  have h := sandbox_transparent (e := sampleEnvironment) sampleDecode_utf8
    ⟨fun _ => rfl, fun _ => rfl⟩ (by decide) rfl sample_sent sampleDescriptor_loads hstarted hended
    (by rwa [hstdout])
    (by rw [sampleDispatch]; rfl)
    (by rw [sampleDispatch]; exact joinPairs_ofString "notes.txt")
  rw [sampleDispatch] at h
  exact h

theorem sandbox_result_confined_sample :
    ∃ r set degraded, r.success = true ∧
      Confined {} sampleWorld .empty sampleCall r set degraded := by
  obtain ⟨set, degraded, hstarted⟩ := sample_started
  obtain ⟨hended, hwrote⟩ := sample_collected
  have hstdout : (workerOutput sampleWorld sampleCall).stdout =
      dumps .standard (.object sampleReport.payload) :=
    (congrArg sampleDecode (hwrote.collected_eq hended)).trans (sampleDecode_utf8 _)
  have hloads : ReportLoads sampleWorld.reading.readFloat sampleReport :=
    joinPairs_ofString "notes.txt"
  have hparsed : parseResult sampleWorld.reading sampleWorld.sha256
      (workerOutput sampleWorld sampleCall) = _ :=
    parseResult_report ⟨fun _ => rfl, fun _ => rfl⟩ hloads hstdout
  have hreturned := execute_started (h := {}) (by decide) rfl sample_sent hstarted
  rw [collectResult, hended, hparsed] at hreturned
  obtain ⟨set', degraded', hconfined⟩ :=
    sandbox_result_confined {} [] sampleWorld sampleCall _ hreturned
  exact ⟨_, set', degraded', rfl, hconfined⟩

end Samples

end ProcessToolExecutionSandbox

end AgentSecurityPlatform
