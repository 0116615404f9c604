import AgentSecurityPlatform.Executor.EvidenceProtocol
import AgentSecurityPlatform.Library.IpAddress
import AgentSecurityPlatform.Library.PythonJsonEncodings
import AgentSecurityPlatform.Library.PythonJsonRoundTrip

namespace AgentSecurityPlatform

open PythonJson

namespace OutputDigest

def computeOutputDigest (sha256 : String → String) (output : Value) : Option String :=
  match output with
  | .null => none
  | output =>
    if finite output then ((renderRaw .compact (sorted output)).encodeUtf8).map sha256 else none

def sandboxDigest (sha256 : String → String) (output : Value) : Option String :=
  match output with
  | .null => none
  | output => some (sha256 (dumps .compact (sorted output)))

-- the output digests agree on these
structure Portable (output : Value) : Prop where
  finite : finite output = true
  ascii : ∀ c ∈ codePoints output, c.val ≤ 126

theorem sandboxDigest_eq_iff {sha256 : String → String} (hsha : Function.Injective sha256)
    {output : Value} (hne : output ≠ .null) :
    sandboxDigest sha256 output = computeOutputDigest sha256 output ↔ Portable output := by
  have hsandbox : sandboxDigest sha256 output = some (sha256 (dumps .compact (sorted output))) := by
    rw [sandboxDigest.eq_2]
    exact hne
  have hcompute : computeOutputDigest sha256 output =
      if finite output then ((renderRaw .compact (sorted output)).encodeUtf8).map sha256
      else none := by
    rw [computeOutputDigest.eq_2]
    exact hne
  have htext : (renderRaw .compact (sorted output)).encodeUtf8 =
      some (dumps .compact (sorted output)) ↔ ∀ c ∈ codePoints output, c.val ≤ 126 := by
    rw [Str.encodeUtf8_eq_some, dumps, String.toList_ofList, eq_comm, render_eq_raw_iff]
    simp only [codePoints_sorted]
  rw [hsandbox, hcompute]
  constructor
  · intro hsame
    split at hsame
    · rename_i hfinite
      obtain ⟨text, hencoded, hdigest⟩ := Option.map_eq_some_iff.mp hsame.symm
      rw [hsha hdigest] at hencoded
      exact ⟨hfinite, htext.mp hencoded⟩
    · cases hsame
  · intro hportable
    rw [if_pos hportable.finite, htext.mpr hportable.ascii, Option.map_some]

theorem sandboxDigest_ne (sha256 : String → String) {output : Value} (hne : output ≠ .null) :
    ∃ text, sandboxDigest sha256 output = some (sha256 text) := by
  refine ⟨dumps .compact (sorted output), ?_⟩
  rw [sandboxDigest.eq_2]
  exact hne

end OutputDigest

namespace ProcessToolExecutionSandbox

open OutputDigest

-- how json and the result model read what the worker wrote, and the texts of their errors
structure ResultReading where
  readFloat : List Char → Value
  bool : Value → Option Bool
  exitCode : Value → Bool
  decodeError : String → String
  attributeError : Value → String
  validationError : Value → String

structure WorkerOutput where
  stdout : String
  stderr : String
  durationMs : Nat

def member (ms : List (Str × Value)) (key : String) : Option Value := ms.lookup (.ofString key)

def present : Value → Option Value
  | .null => none
  | v => some v

def optionalText : Option Value → Option (Option String)
  | none => some none
  | some .null => some none
  | some (.str s) => s.encodeUtf8.map some
  | _ => none

def parsedResult (rd : ResultReading) (sha256 : String → String) (w : WorkerOutput)
    (ms : List (Str × Value)) : SandboxOutcome Value :=
  let output := (member ms "output").getD .null
  match (member ms "success").elim (some false) rd.bool, (member ms "exit_code").all rd.exitCode,
    optionalText (member ms "error_type"), optionalText (member ms "error_message") with
  | some success, true, some errorType, some errorMessage =>
    .returned
      { success
        output := present output
        outputDigest := sandboxDigest sha256 output
        durationMs := w.durationMs
        errorType
        errorMessage }
  | _, _, _, _ =>
    .raised { typeName := "ValidationError", message := rd.validationError (.object ms) }

def parseResult (rd : ResultReading) (sha256 : String → String) (w : WorkerOutput) :
    SandboxOutcome Value :=
  let rawStdout := Text.strip w.stdout
  if rawStdout = "" then
    let rawStderr := Text.strip w.stderr
    .returned
      { success := false
        durationMs := w.durationMs
        errorType := some "EmptyOutputError"
        errorMessage := some (if rawStderr = "" then "No output returned from sandbox runner."
          else rawStderr) }
  else
    match loads rd.readFloat rawStdout with
    | some (.object ms) => parsedResult rd sha256 w ms
    | some parsed =>
      .raised { typeName := "AttributeError", message := rd.attributeError parsed }
    | none =>
      .returned
        { success := false
          durationMs := w.durationMs
          errorType := some "JSONDecodeError"
          errorMessage := some ("Failed to parse runner output: " ++ rd.decodeError rawStdout) }

-- what the runner writes when the tool returned
def successPayload (result : Value) : List (Str × Value) :=
  [(.ofString "success", .bool true), (.ofString "output", result),
    (.ofString "exit_code", .int 0), (.ofString "error_type", .null),
    (.ofString "error_message", .null)]

def runnerStdout (result : Value) : String := dumps .standard (.object (successPayload result))

theorem loadable_payload {readFloat : List Char → Value} {result : Value}
    (h : Loadable readFloat result) : Loadable readFloat (.object (successPayload result)) := by
  have hkeys : (successPayload result).map Prod.fst =
      (successPayload .null).map Prod.fst := rfl
  refine ⟨by rw [hkeys]; decide, rfl, trivial, rfl, h, rfl, trivial, rfl, trivial, rfl,
    trivial, trivial⟩

theorem strip_runnerStdout (result : Value) :
    Text.strip (runnerStdout result) = runnerStdout result := by
  obtain ⟨body, hbody⟩ : ∃ body, render .standard (.object (successPayload result)) =
      '{' :: (body ++ ['}']) := by
    simp only [render, successPayload, renderWith, renderMembers, List.map_id, id,
      ← List.append_assoc]
    exact ⟨_, rfl⟩
  rw [Text.strip_eq, runnerStdout, dumps, String.toList_ofList, hbody, Text.stripChars_eq_self]
  · simp only [List.head?_cons, Option.mem_def, Option.some.injEq, forall_eq']
    decide
  · rw [← List.cons_append, List.getLast?_concat]
    simp only [Option.mem_def, Option.some.injEq, forall_eq']
    decide

theorem runnerStdout_ne (result : Value) : runnerStdout result ≠ "" := by
  intro h
  have hchars := congrArg String.toList h
  rw [runnerStdout, dumps, String.toList_ofList] at hchars
  simp [render, successPayload, renderWith] at hchars

-- what a tool returned comes back as the runner wrote it
theorem parseResult_runner {rd : ResultReading} (sha256 : String → String) {w : WorkerOutput}
    {result : Value} (hresult : Loadable rd.readFloat result)
    (hstdout : w.stdout = runnerStdout result)
    (hbool : rd.bool (.bool true) = some true) (hcode : rd.exitCode (.int 0) = true) :
    parseResult rd sha256 w = .returned
      { success := true
        output := present result
        outputDigest := sandboxDigest sha256 result
        durationMs := w.durationMs } := by
  have hloads : loads rd.readFloat (runnerStdout result) = some (.object (successPayload result)) :=
    loads_dumps .standard (loadable_payload hresult)
  simp only [parseResult, hstdout, strip_runnerStdout, runnerStdout_ne, ↓reduceIte, hloads]
  have hmembers : member (successPayload result) "success" = some (.bool true) ∧
      member (successPayload result) "output" = some result ∧
      member (successPayload result) "exit_code" = some (.int 0) ∧
      member (successPayload result) "error_type" = some .null ∧
      member (successPayload result) "error_message" = some .null := by
    refine ⟨rfl, ?_, ?_, ?_, ?_⟩ <;> rfl
  obtain ⟨hsuccess, houtput, hexit, htype, hmessage⟩ := hmembers
  simp only [parsedResult, hsuccess, houtput, hexit, htype, hmessage, Option.elim_some,
    Option.all_some, Option.getD_some, hbool, hcode, optionalText]

theorem present_eq_some {v output : Value} (h : present v = some output) :
    v = output ∧ output ≠ .null := by
  simp only [present] at h
  split at h
  · cases h
  · rename_i hne
    cases h
    exact ⟨rfl, hne⟩

theorem present_eq_none {v : Value} (h : present v = none) : v = .null := by
  simp only [present] at h
  split at h
  · rfl
  · cases h

theorem parseResult_success {rd : ResultReading} {sha256 : String → String} {w : WorkerOutput}
    {r : SandboxExecutionResult Value} (h : parseResult rd sha256 w = .returned r)
    (hsuccess : r.success = true) :
    ∃ output, r.output = present output ∧ r.outputDigest = sandboxDigest sha256 output := by
  simp only [parseResult] at h
  split at h
  · cases h
    cases hsuccess
  · split at h
    · rename_i ms _
      simp only [parsedResult] at h
      split at h
      · cases h
        exact ⟨_, rfl, rfl⟩
      · cases h
    · cases h
    · cases h
      cases hsuccess

end ProcessToolExecutionSandbox

namespace DefaultToolExecutor

section Terminal

variable {ω : Type} {x : DefaultToolExecutor ω} {t : ExecutorTick} {l : Launch}

theorem notMem_emitted (e : BehavioralEvent) {id : String} {o : TerminalOutcome} {ok : Bool} :
    .recordTerminal id o ok ∉ x.emitted e := by
  intro h
  cases emitted_isEmit x e _ h

theorem mem_recordTerminal {o outcome : TerminalOutcome} {id : String} {ok : Bool}
    (h : .recordTerminal id outcome ok ∈ (x.recordTerminal l o).1) : outcome = o := by
  simp only [recordTerminal] at h
  split at h
  · cases h
  · split at h
    · cases List.mem_singleton.mp h
      rfl
    · rcases List.mem_cons.mp h with h | h
      · cases h
        rfl
      · exact absurd h (notMem_emitted _)

-- a success that was recorded is that of the result the sandbox returned
theorem mem_conclude {s : SandboxOutcome ω} {outcome : TerminalOutcome} {id : String} {ok : Bool}
    (h : .recordTerminal id outcome ok ∈ (x.conclude t l s).1)
    (hsucceeded : outcome.status = .succeeded) :
    ∃ r, s = .returned r ∧ r.success = true ∧ outcome = x.successOutcome t r ∧
      ∀ output, (x.conclude t l s).2 = .ok output → output = r.output := by
  cases s with
  | raised e =>
    rcases List.mem_append.mp h with h | h
    · rw [mem_recordTerminal h] at hsucceeded
      exact absurd hsucceeded (classifyFailure_ne_succeeded _ _ _ _)
    · exact absurd h (notMem_emitted _)
  | returned r =>
    refine ⟨r, rfl, ?_⟩
    simp only [conclude, concludeReturned] at h ⊢
    cases hsuccess : r.success with
    | false =>
      simp only [hsuccess, Bool.false_eq_true, ↓reduceIte] at h
      rcases List.mem_append.mp h with h | h
      · rw [mem_recordTerminal h] at hsucceeded
        exact absurd hsucceeded (classifyFailure_ne_succeeded _ _ _ _)
      · exact absurd h (notMem_emitted _)
    | true =>
      simp only [hsuccess, ↓reduceIte] at h ⊢
      generalize hrecorded : x.recordTerminal l (x.successOutcome t r) = recorded at h ⊢
      obtain ⟨calls, failure⟩ := recorded
      cases failure with
      | some failure =>
        refine ⟨trivial, mem_recordTerminal (by rw [hrecorded]; exact h), ?_⟩
        intro output houtput
        cases houtput
      | none =>
        refine ⟨trivial, ?_, ?_⟩
        · rcases List.mem_append.mp h with h | h
          · exact mem_recordTerminal (by rw [hrecorded]; exact h)
          · exact absurd h (notMem_emitted _)
        · intro output houtput
          cases houtput
          rfl

theorem mem_launch {parameters : Parameters} {capabilities : ExecutionCapabilities}
    {provenance : ExecutionProvenance} {implementationId : String} {outcome : TerminalOutcome}
    {id : String} {ok : Bool} {sandbox : SandboxRequest → SandboxOutcome ω}
    (hsandbox : x.sandbox = some sandbox)
    (h : .recordTerminal id outcome ok ∈
      (x.launch t l parameters capabilities provenance implementationId).1)
    (hsucceeded : outcome.status = .succeeded) :
    ∃ q r, sandbox q = .returned r ∧ r.success = true ∧ outcome = x.successOutcome t r ∧
      ∀ output, (x.launch t l parameters capabilities provenance implementationId).2 = .ok output →
        output = r.output := by
  have hstarted : .recordTerminal id outcome ok ∉
      (x.recordStarted l (x.startedRecord t l capabilities implementationId)).1 := by
    intro hin
    simp only [recordStarted] at hin
    split at hin
    · cases hin
    · split at hin
      · cases List.mem_singleton.mp hin
      · rcases List.mem_cons.mp hin with hin | hin
        · cases hin
        · exact notMem_emitted _ hin
  simp only [launch] at h ⊢
  generalize x.recordStarted l (x.startedRecord t l capabilities implementationId) = started
    at h hstarted ⊢
  obtain ⟨recorded, failure⟩ := started
  cases failure with
  | some failure => exact absurd h hstarted
  | none =>
    simp only [dispatch, hsandbox, List.mem_append, List.mem_singleton, reduceCtorEq,
      or_false] at h ⊢
    rcases h with (h | h) | h
    · exact absurd h hstarted
    · exact absurd h (notMem_emitted _)
    · obtain ⟨r, hreturned, hsuccess, houtcome, hresult⟩ := mem_conclude h hsucceeded
      exact ⟨_, r, hreturned, hsuccess, houtcome, hresult⟩

theorem mem_run {tool : BaseTool} {parameters : Parameters} {capabilities : ExecutionCapabilities}
    {grant : RuntimeExecutionGrant} {context : Option RuntimeContext}
    {implementationId : Option String} {outcome : TerminalOutcome} {id : String} {ok : Bool}
    {sandbox : SandboxRequest → SandboxOutcome ω} (hsandbox : x.sandbox = some sandbox)
    (h : .recordTerminal id outcome ok ∈
      (x.run t tool parameters capabilities grant context implementationId).1)
    (hsucceeded : outcome.status = .succeeded) :
    ∃ q r, sandbox q = .returned r ∧ r.success = true ∧ outcome = x.successOutcome t r ∧
      ∀ output, (x.run t tool parameters capabilities grant context implementationId).2 =
        .ok output → output = r.output := by
  simp only [run] at h ⊢
  split at h
  · cases h
  · split at h
    · cases h
    · exact mem_launch hsandbox h hsucceeded

end Terminal

open OutputDigest

variable {x : DefaultToolExecutor Value} {t : ExecutorTick} {sha256 : String → String}

theorem output_digest_canonical_iff (hsha : Function.Injective sha256)
    (hhex : ∀ text, sha256 text ≠ "")
    (hcompute : x.computeOutputDigest = OutputDigest.computeOutputDigest sha256)
    (rd : ProcessToolExecutionSandbox.ResultReading)
    (worker : SandboxRequest → ProcessToolExecutionSandbox.WorkerOutput)
    (hsandbox : x.sandbox =
      some (fun q => ProcessToolExecutionSandbox.parseResult rd sha256 (worker q)))
    (tool : BaseTool) (parameters : Parameters) (capabilities : ExecutionCapabilities)
    (grant : RuntimeExecutionGrant) (context : Option RuntimeContext)
    (implementationId : Option String) {id : String} {outcome : TerminalOutcome} {ok : Bool}
    {output : Option Value}
    (hrecorded : .recordTerminal id outcome ok ∈
      (x.run t tool parameters capabilities grant context implementationId).1)
    (hsucceeded : outcome.status = .succeeded)
    (hreturned : (x.run t tool parameters capabilities grant context implementationId).2 =
      .ok output) :
    outcome.outputDigest = output.bind (OutputDigest.computeOutputDigest sha256) ↔
      ∀ v ∈ output, Portable v := by
  obtain ⟨q, r, hr, hsuccess, rfl, hresult⟩ := mem_run hsandbox hrecorded hsucceeded
  obtain ⟨v, houtput, hdigest⟩ := ProcessToolExecutionSandbox.parseResult_success hr hsuccess
  obtain rfl := hresult output hreturned
  simp only [successOutcome, hdigest, houtput, hcompute]
  cases hv : ProcessToolExecutionSandbox.present v with
  | none =>
    have hnull := ProcessToolExecutionSandbox.present_eq_none hv
    subst hnull
    simp [sandboxDigest, nonEmpty]
  | some w =>
    obtain ⟨rfl, hne⟩ := ProcessToolExecutionSandbox.present_eq_some hv
    obtain ⟨text, htext⟩ := sandboxDigest_ne sha256 hne
    have hkept : (nonEmpty (sandboxDigest sha256 v)).or
        ((some v).bind (OutputDigest.computeOutputDigest sha256)) = sandboxDigest sha256 v := by
      simp [htext, nonEmpty, hhex text]
    rw [hkept, Option.bind_some, sandboxDigest_eq_iff hsha hne]
    simp

def sampleReading : ProcessToolExecutionSandbox.ResultReading where
  readFloat := FloatText.read
  bool := fun
    | .bool b => some b
    | _ => none
  exitCode := fun
    | .int _ => true
    | _ => false
  decodeError := fun _ => "Expecting value: line 1 column 1 (char 0)"
  attributeError := fun _ => "object has no attribute 'get'"
  validationError := fun _ => "1 validation error for SandboxExecutionResult"

def sampleSha (text : String) : String := "sha256:" ++ text

theorem sampleSha_injective : Function.Injective sampleSha := by
  intro s t h
  have hchars := congrArg String.toList h
  simp only [sampleSha, String.toList_append, List.append_cancel_left_eq] at hchars
  exact String.toList_inj.mp hchars

theorem sampleSha_ne (text : String) : sampleSha text ≠ "" := by
  intro h
  have hchars := congrArg String.toList h
  simp [sampleSha, String.toList_append] at hchars

def sampleWorker (result : Value) (_ : SandboxRequest) : ProcessToolExecutionSandbox.WorkerOutput :=
  { stdout := ProcessToolExecutionSandbox.runnerStdout result
    stderr := ""
    durationMs := 25 }

-- an executor over the process sandbox, whose tool returns the given value
def digestingExecutor (result : Value) : DefaultToolExecutor Value :=
  { hasAuthority := true
    evidenceStore := some ⟨fun _ => true, fun _ _ => true⟩
    telemetryEmitter := none
    sandbox := some (fun q =>
      ProcessToolExecutionSandbox.parseResult sampleReading sampleSha (sampleWorker result q))
    capabilityRegistry := none
    toolRegistry := none
    signing := .reference
    capabilityHashing := sampleHashing
    sha256 := fun text => sampleSha text.text
    computeOutputDigest := OutputDigest.computeOutputDigest sampleSha }

def digestingRun (result : Value) :
    List (ExecutorCall Value) × Except ExecutorError (Option Value) :=
  (digestingExecutor result).run sampleTick ⟨"read_file", "1.0.0"⟩ .empty sampleProfile
    sampleGranted none (some "file_read")

def digestingOutcome (result : Value) : TerminalOutcome :=
  { status := .succeeded
    completedAt := sampleTick.completedAt
    durationMs := 25
    outputDigest := sandboxDigest sampleSha result }

theorem digestingRun_succeeds {result : Value} (hresult : Loadable FloatText.read result)
    (hne : result ≠ .null) :
    .recordTerminal "rcpt-r1" (digestingOutcome result) true ∈ (digestingRun result).1 ∧
      (digestingRun result).2 = .ok (some result) := by
  have hparsed (q : SandboxRequest) :
      ProcessToolExecutionSandbox.parseResult sampleReading sampleSha (sampleWorker result q) =
        .returned
          { success := true
            output := some result
            outputDigest := sandboxDigest sampleSha result
            durationMs := 25 } := by
    have hread : Loadable sampleReading.readFloat result := hresult
    have h := ProcessToolExecutionSandbox.parseResult_runner sampleSha hread
      (rfl : (sampleWorker result q).stdout = _) rfl rfl
    rwa [ProcessToolExecutionSandbox.present.eq_2 _ hne] at h
  obtain ⟨text, htext⟩ := sandboxDigest_ne sampleSha hne
  have hkept : (nonEmpty (sandboxDigest sampleSha result)).or
      ((some result).bind (OutputDigest.computeOutputDigest sampleSha)) =
        sandboxDigest sampleSha result := by
    simp [htext, nonEmpty, sampleSha_ne text]
  have hprovenance : ∃ provenance,
      ExecutionProvenance.fromGrant sampleGranted (requestIdOf sampleTick none) "file_read" =
        some provenance := ⟨_, rfl⟩
  obtain ⟨provenance, hprovenance⟩ := hprovenance
  have himplementation : nonEmpty (some "file_read") = some "file_read" := by decide
  simp only [digestingRun, run, himplementation, hprovenance, launch, digestingExecutor,
    recordStarted, dispatch, hparsed, conclude, concludeReturned, recordTerminal, emitted,
    successOutcome, hkept, ↓reduceIte, digestingOutcome, durationOf]
  refine ⟨?_, trivial⟩
  rw [List.append_nil, List.mem_append]
  exact Or.inr (List.mem_singleton.mpr rfl)

def asciiOutput : Value := .object [(.ofString "status", .str (.ofString "open"))]

def accentedOutput : Value := .str [⟨0xe9, by decide⟩]

theorem output_digest_canonical_sample :
    (digestingOutcome asciiOutput).outputDigest =
      OutputDigest.computeOutputDigest sampleSha asciiOutput := by
  have hloadable : Loadable FloatText.read asciiOutput := by
    refine ⟨by decide, rfl, rfl, trivial⟩
  obtain ⟨hrecorded, hreturned⟩ := digestingRun_succeeds hloadable (by nofun)
  refine (output_digest_canonical_iff sampleSha_injective sampleSha_ne rfl sampleReading
    (sampleWorker asciiOutput) rfl _ _ _ _ _ _ hrecorded rfl hreturned).mpr ?_
  intro v hv
  cases hv
  have hascii : (codePoints asciiOutput).all (fun c => c.val ≤ 126) = true := by decide +kernel
  exact ⟨rfl, by simpa using hascii⟩

theorem output_digest_diverges :
    .recordTerminal "rcpt-r1" (digestingOutcome accentedOutput) true ∈
        (digestingRun accentedOutput).1 ∧
      (digestingOutcome accentedOutput).status = .succeeded ∧
      (digestingRun accentedOutput).2 = .ok (some accentedOutput) ∧
      (digestingOutcome accentedOutput).outputDigest = some "sha256:\"\\u00e9\"" ∧
      OutputDigest.computeOutputDigest sampleSha accentedOutput = some "sha256:\"é\"" := by
  have hloadable : Loadable FloatText.read accentedOutput := rfl
  obtain ⟨hrecorded, hreturned⟩ := digestingRun_succeeds hloadable (by nofun)
  exact ⟨hrecorded, rfl, hreturned, by decide +kernel, by decide +kernel⟩

end DefaultToolExecutor

end AgentSecurityPlatform
