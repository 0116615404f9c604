import AgentSecurityPlatform.Executor.OutputDigest
import AgentSecurityPlatform.Sandbox.BoundaryCrossing

namespace AgentSecurityPlatform

open PythonJson

-- how an implementation ends: json.dumps refuses some results, and a BaseException is not caught
inductive HandlerOutcome where
  | returned (result : Value)
  | unserialisable (e : RaisedException)
  | raised (e : RaisedException)
  | exited

structure HandlerRun where
  printed : String := ""
  outcome : HandlerOutcome

structure ToolContext where
  grantId : Option Str
  sessionId : Option Str
  agentId : Option Str
  requestId : Option Str
  workspaceRoot : Value
  scratchDir : Option Str

abbrev ToolImplementation (u : UnicodeData) :=
  Mapping → ToolContext → Option FilesystemSandboxGuard → Option (NetworkSandboxGuard u) →
    HandlerRun

structure SandboxExecutionRegistry (u : UnicodeData) where
  implementations : Dict Str (ToolImplementation u) := .empty

namespace SandboxExecutionRegistry

variable {u : UnicodeData}

def register (r : SandboxExecutionRegistry u) (implementationId : Str) (fn : ToolImplementation u) :
    SandboxExecutionRegistry u :=
  ⟨r.implementations.set implementationId fn⟩

def resolve (r : SandboxExecutionRegistry u) (implementationId : Str) :
    Option (ToolImplementation u) :=
  r.implementations.get? implementationId

def registerAll (r : SandboxExecutionRegistry u) (handlers : List (Str × ToolImplementation u)) :
    SandboxExecutionRegistry u :=
  handlers.foldl (fun r h => r.register h.1 h.2) r

end SandboxExecutionRegistry

structure RunnerEnvironment (u : UnicodeData) where
  registry : SandboxExecutionRegistry u := {}
  testingHandlers : Option (List (Str × ToolImplementation u)) := none
  files : Filesystem
  runtimeDirs : List PosixPath
  ports : PortReading
  readFloat : List Char → Value
  sanitizeErrorMessage : String → String
  parseErrorText : String → String
  keyErrorText : Str → String

inductive RunnerReport where
  | success (result : Value)
  | failure (errorType errorMessage : String)

-- crashed: a traceback on stderr, or nothing at all, and no payload
inductive RunnerRun where
  | wrote (printed : String) (report : RunnerReport)
  | crashed (printed : String)

namespace SandboxRunner

variable {u : UnicodeData}

def errorPayload (errorType errorMessage : String) : List (Str × Value) :=
  [(.ofString "success", .bool false), (.ofString "output", .null), (.ofString "exit_code", .int 1),
    (.ofString "error_type", .str (.ofString errorType)),
    (.ofString "error_message", .str (.ofString errorMessage))]

def context (d : ToolExecutionDescriptor) : ToolContext :=
  { grantId := d.grantId
    sessionId := d.sessionId
    agentId := d.agentId
    requestId := d.requestId
    workspaceRoot := (d.filesystem.bind (·.field "workspace_root")).getD .null
    scratchDir := d.scratchDir }

def finish (e : RunnerEnvironment u) (run : HandlerRun) : RunnerRun :=
  match run.outcome with
  | .returned result => .wrote run.printed (.success result)
  | .unserialisable exc | .raised exc =>
    .wrote run.printed (.failure exc.typeName (e.sanitizeErrorMessage exc.message))
  | .exited => .crashed run.printed

def implementations (e : RunnerEnvironment u) : SandboxExecutionRegistry u :=
  match e.testingHandlers with
  | none => e.registry
  | some handlers => e.registry.registerAll handlers

def dispatch (e : RunnerEnvironment u) (d : ToolExecutionDescriptor) : RunnerRun :=
  match (implementations e).resolve d.implementationId with
  | none =>
    .wrote "" (.failure "ImplementationNotFoundError"
      (e.sanitizeErrorMessage (e.keyErrorText d.implementationId)))
  | some fn =>
    match filesystemGuard e.files e.runtimeDirs d, networkGuard u e.ports d with
    | some fsGuard, some netGuard => finish e (fn d.parameters (context d) fsGuard netGuard)
    | _, _ => .crashed ""

def runHeadless (e : RunnerEnvironment u) (rawInput : String) : RunnerRun :=
  if Text.strip rawInput = "" then
    .wrote "" (.failure "EmptyInputError" "No execution descriptor received on stdin.")
  else
    match ToolExecutionDescriptor.fromJson e.readFloat rawInput with
    | none =>
      .wrote "" (.failure "DescriptorParseError"
        (e.sanitizeErrorMessage (e.parseErrorText rawInput)))
    | some d => dispatch e d

end SandboxRunner

def RunnerReport.payload : RunnerReport → List (Str × Value)
  | .success result => ProcessToolExecutionSandbox.successPayload result
  | .failure errorType errorMessage => SandboxRunner.errorPayload errorType errorMessage

def RunnerRun.printed : RunnerRun → String
  | .wrote printed _ => printed
  | .crashed printed => printed

def RunnerRun.stdout : RunnerRun → String
  | .wrote printed report => printed ++ dumps .standard (.object report.payload)
  | .crashed printed => printed

namespace ProcessToolExecutionSandbox

open SandboxRunner

variable {rd : ResultReading} {sha256 : String → String} {w : WorkerOutput}

theorem renderMembers_closed (seps : Separators) (ms : List (Str × Value)) :
    ∃ body, renderMembers id escapeAscii seps ms = body ++ ['}'] := by
  induction ms with
  | nil => exact ⟨[], rfl⟩
  | cons m ms ih =>
    obtain ⟨body, hbody⟩ := ih
    rw [renderMembers, hbody]
    exact ⟨_, (List.append_assoc _ _ _).symm⟩

theorem render_object (seps : Separators) (ms : List (Str × Value)) :
    ∃ body, render seps (.object ms) = '{' :: (body ++ ['}']) := by
  cases ms with
  | nil => exact ⟨[], rfl⟩
  | cons m ms =>
    obtain ⟨body, hbody⟩ := renderMembers_closed seps ms
    rw [render, renderWith, hbody, ← List.append_assoc]
    exact ⟨_, rfl⟩

theorem strip_dumps_object (seps : Separators) (ms : List (Str × Value)) :
    Text.strip (dumps seps (.object ms)) = dumps seps (.object ms) := by
  obtain ⟨body, hbody⟩ := render_object seps ms
  rw [Text.strip_eq, dumps, String.toList_ofList, hbody, Text.stripChars_eq_self]
  · simp only [List.head?_cons, Option.mem_def, Option.some.injEq, forall_eq']
    decide
  · rw [← List.cons_append, List.getLast?_concat]
    simp only [Option.mem_def, Option.some.injEq, forall_eq']
    decide

theorem dumps_object_ne (seps : Separators) (ms : List (Str × Value)) :
    dumps seps (.object ms) ≠ "" := by
  intro h
  obtain ⟨body, hbody⟩ := render_object seps ms
  have hchars := congrArg String.toList h
  rw [dumps, String.toList_ofList, hbody] at hchars
  cases hchars

theorem parseResult_payload {payload : List (Str × Value)}
    (hpayload : Loadable rd.readFloat (.object payload))
    (hstdout : w.stdout = dumps .standard (.object payload)) :
    parseResult rd sha256 w = parsedResult rd sha256 w payload := by
  have hloads : loads rd.readFloat (dumps .standard (.object payload)) = some (.object payload) :=
    loads_dumps .standard hpayload
  simp only [parseResult, hstdout, strip_dumps_object, dumps_object_ne, ↓reduceIte, hloads]

theorem loadable_errorPayload (readFloat : List Char → Value) (errorType errorMessage : String) :
    Loadable readFloat (.object (errorPayload errorType errorMessage)) := by
  have hkeys : (errorPayload errorType errorMessage).map Prod.fst =
      (successPayload .null).map Prod.fst := rfl
  have htext (text : String) : Loadable readFloat (.str (.ofString text)) :=
    joinPairs_ofString text
  exact ⟨by rw [hkeys]; decide, rfl, trivial, rfl, trivial, rfl, trivial, rfl, htext errorType, rfl,
    htext errorMessage, trivial⟩

theorem parsedResult_error (hbool : rd.bool (.bool false) = some false)
    (hcode : rd.exitCode (.int 1) = true) (errorType errorMessage : String) :
    parsedResult rd sha256 w (errorPayload errorType errorMessage) = .returned
      { success := false
        durationMs := w.durationMs
        errorType := some errorType
        errorMessage := some errorMessage } := by
  have hmembers : member (errorPayload errorType errorMessage) "success" = some (.bool false) ∧
      member (errorPayload errorType errorMessage) "output" = some .null ∧
      member (errorPayload errorType errorMessage) "exit_code" = some (.int 1) ∧
      member (errorPayload errorType errorMessage) "error_type" =
        some (.str (.ofString errorType)) ∧
      member (errorPayload errorType errorMessage) "error_message" =
        some (.str (.ofString errorMessage)) := by
    refine ⟨rfl, ?_, ?_, ?_, ?_⟩ <;> rfl
  obtain ⟨hsuccess, houtput, hexit, htype, hmessage⟩ := hmembers
  simp only [parsedResult, hsuccess, houtput, hexit, htype, hmessage, Option.elim_some,
    Option.all_some, Option.getD_some, hbool, hcode, optionalText, Str.encodeUtf8_ofString,
    Option.map_some, present, OutputDigest.sandboxDigest]

-- how a report reaches the executor
def resultOf (sha256 : String → String) (durationMs : Nat) :
    RunnerReport → SandboxExecutionResult Value
  | .success result =>
    { success := true
      output := present result
      outputDigest := OutputDigest.sandboxDigest sha256 result
      durationMs }
  | .failure errorType errorMessage =>
    { success := false
      durationMs
      errorType := some errorType
      errorMessage := some errorMessage }

-- a runner that printed nothing else; without a payload its stderr is the message
def resultOfRun (sha256 : String → String) (w : WorkerOutput) :
    RunnerRun → SandboxExecutionResult Value
  | .wrote _ report => resultOf sha256 w.durationMs report
  | .crashed _ =>
    { success := false
      durationMs := w.durationMs
      errorType := some "EmptyOutputError"
      errorMessage :=
        some (if Text.strip w.stderr = "" then "No output returned from sandbox runner."
        else Text.strip w.stderr) }

def ReportLoads (readFloat : List Char → Value) : RunnerReport → Prop
  | .success result => Loadable readFloat result
  | .failure _ _ => True

def RunLoads (readFloat : List Char → Value) : RunnerRun → Prop
  | .wrote _ report => ReportLoads readFloat report
  | .crashed _ => True

-- pydantic reads a JSON boolean and a JSON integer as themselves
structure ResultReading.Plain (rd : ResultReading) : Prop where
  bool : ∀ b, rd.bool (.bool b) = some b
  exitCode : ∀ n, rd.exitCode (.int n) = true

theorem parseResult_report (hrd : rd.Plain) {report : RunnerReport}
    (hloads : ReportLoads rd.readFloat report)
    (hstdout : w.stdout = dumps .standard (.object report.payload)) :
    parseResult rd sha256 w = .returned (resultOf sha256 w.durationMs report) := by
  cases report with
  | success result =>
    exact parseResult_runner sha256 hloads hstdout (hrd.bool true) (hrd.exitCode 0)
  | failure errorType errorMessage =>
    rw [parseResult_payload (loadable_errorPayload _ _ _) hstdout]
    exact parsedResult_error (hrd.bool false) (hrd.exitCode 1) errorType errorMessage

theorem parseResult_run (hrd : rd.Plain) {run : RunnerRun} (hprinted : run.printed = "")
    (hloads : RunLoads rd.readFloat run) (hstdout : w.stdout = run.stdout) :
    parseResult rd sha256 w = .returned (resultOfRun sha256 w run) := by
  cases run with
  | wrote printed report =>
    cases hprinted
    exact parseResult_report hrd hloads (hstdout.trans String.empty_append)
  | crashed printed =>
    cases hprinted
    have hempty : Text.strip w.stdout = "" := by rw [hstdout]; rfl
    rw [parseResult, if_pos hempty]
    rfl

end ProcessToolExecutionSandbox

namespace SandboxRunner

variable {u : UnicodeData}

-- the descriptor as the runner reads it
def received (d : ToolExecutionDescriptor) : ToolExecutionDescriptor :=
  ⟨ToolExecutionDescriptor.sortedFields d.toDescriptorFields, d.toolId_ne, d.implementationId_ne⟩

theorem runHeadless_toJson {e : RunnerEnvironment u} {d : ToolExecutionDescriptor}
    (h : ToolExecutionDescriptor.Loads e.readFloat d.toDescriptorFields) :
    runHeadless e d.toJson = dispatch e (received d) := by
  have htext : Text.strip d.toJson ≠ "" := by
    rw [ToolExecutionDescriptor.toJson, ToolExecutionDescriptor.sorted_mapping,
      ProcessToolExecutionSandbox.strip_dumps_object]
    exact ProcessToolExecutionSandbox.dumps_object_ne _ _
  rw [runHeadless, if_neg htext, ToolExecutionDescriptor.fromJson_toJson h]
  rfl

end SandboxRunner

end AgentSecurityPlatform
