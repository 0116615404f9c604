import AgentSecurityPlatform.Sandbox.FixedPoints
import AgentSecurityPlatform.Sandbox.Runner

namespace AgentSecurityPlatform

open PythonJson Resolution FileTree

-- what the worker finds on its host, and what its standard library answers there
structure WorkspaceHost where
  tree : FileTree
  workingDirectory : PosixPath
  casefold : String → String
  windowsAbsolute : String → Bool
  files : Filesystem
  resolve : String → Except RaisedException String
  rendered : Value → String
  readText : Nat → Except RaisedException String
  lookupException : LookupError → String → RaisedException
  unpairedException : Str → RaisedException

def identityError (message : String) : RaisedException :=
  { typeName := "FilesystemResourceIdentityError", message }

def permissionError (message : String) : RaisedException :=
  { typeName := "PermissionError", message }

def sortedNames (names : List String) : List String := names.insertionSort (· ≤ ·)

theorem readCall_announced : ∀ m, some "r" = some m → OpenFlag.mutates 524288 = true →
    writesMode m = true := by
  intro m _ h
  cases h

-- path.open() for text: mode r, and the flags O_RDONLY | O_CLOEXEC
def readCall (target : PosixPath) : OpenCall :=
  { target := .text target.text
    mode := some "r"
    flags := 524288
    announced := readCall_announced }

namespace WorkspaceHost

variable (host : WorkspaceHost) (u : UnicodeData) (guard : Option FilesystemSandboxGuard)

-- the guard is active while the implementation runs
def audit (event : FileEvent) : Except String Unit :=
  match guard with
  | none => .ok ()
  | some g => FilesystemSandboxGuard.auditHook u host.files { g with active := true } event

def resolverOf (workspace : String) : Except RaisedException FilesystemResourceIdentityResolver :=
  match host.resolve workspace with
  | .error e => .error e
  | .ok resolved =>
    match FilesystemResourceIdentityResolver.init host.tree host.casefold host.windowsAbsolute
        host.workingDirectory resolved with
    | .error message => .error (identityError message)
    | .ok r => .ok r

-- the directories a spelling is looked up in, from the workspace root to the parent of the target
def scanned (r : FilesystemResourceIdentityResolver) (target : PosixPath) : List PosixPath :=
  (List.range (target.parts.length - r.place.spelled.length)).map
    (fun n => ⟨"/", target.parts.take (r.place.spelled.length + n)⟩)

def scans (r : FilesystemResourceIdentityResolver) (target : PosixPath) : Bool :=
  (scanned r target).all (fun dir => host.audit u guard (.scandir (.text dir.text)) = .ok ())

def resolveForExecution (r : FilesystemResourceIdentityResolver) (path : String) :
    Except RaisedException PosixPath :=
  match r.resolveForExecution path with
  | .returns target =>
    if host.scans u guard r target then .ok target
    else .error (identityError "cannot inspect filesystem path components safely")
  | .rejects (.refused message) => .error (identityError message)
  | .raises error => .error (host.lookupException error path)
  | .rejects .unresolved | .running =>
    .error (identityError "filesystem path is outside the workspace or cannot be resolved safely")

-- what the tools share: resolve the path again, look at what is there, and use it if it is the
-- right kind
def visit {α : Type} (notFound wrongKind : String)
    (use : PosixPath → List String → NodeKind → Option (Except RaisedException α))
    (r : FilesystemResourceIdentityResolver) (path : String) : Except RaisedException α :=
  match host.resolveForExecution u guard r path with
  | .error e => .error e
  | .ok target =>
    match r.tree.stat target with
    | none => .error { typeName := "FileNotFoundError", message := notFound ++ path }
    | some p =>
      match (r.tree.kind p.entry).bind (use target p.entry) with
      | none => .error { typeName := "ValueError", message := wrongKind ++ path }
      | some result => result

end WorkspaceHost

def audited {α : Type} (check : Except String Unit) (result : Except RaisedException α) :
    Except RaisedException α :=
  match check with
  | .error message => .error (permissionError message)
  | .ok () => result

namespace FileReadTool

variable (host : WorkspaceHost) (u : UnicodeData) (guard : Option FilesystemSandboxGuard)

def readFile (target : PosixPath) (_ : List String) :
    NodeKind → Option (Except RaisedException String)
  | .file inode =>
    some (audited (host.audit u guard (.openFile (readCall target))) (host.readText inode))
  | _ => none

def read : FilesystemResourceIdentityResolver → String → Except RaisedException String :=
  host.visit u guard "File not found: " "Not a file: " (readFile host u guard)

end FileReadTool

namespace DirectoryListTool

variable (host : WorkspaceHost) (u : UnicodeData) (guard : Option FilesystemSandboxGuard)

def entries (r : FilesystemResourceIdentityResolver) (target : PosixPath) (entry : List String) :
    NodeKind → Option (Except RaisedException (List String))
  | .directory =>
    some (audited (host.audit u guard (.listdir (.text target.text)))
      (.ok (sortedNames (r.tree.names entry))))
  | _ => none

def listDirectory (r : FilesystemResourceIdentityResolver) :
    String → Except RaisedException (List String) :=
  host.visit u guard "Directory not found: " "Not a directory: " (entries host u guard r) r

end DirectoryListTool

namespace SandboxExecutionRegistry

variable (host : WorkspaceHost) {u : UnicodeData}

def requireWorkspaceRoot (context : ToolContext) : Except RaisedException String :=
  if truthy context.workspaceRoot then
    .ok ((textOf context.workspaceRoot).getD (host.rendered context.workspaceRoot))
  else
    .error
      (permissionError ("Execution refused: no workspace_root was supplied by the capability " ++
      "descriptor, so the filesystem boundary is undefined"))

-- parameters["path"] as the resolver takes it
def pathParameter (parameters : Mapping) : Except RaisedException String :=
  match parameters.field "path" with
  | none => .error { typeName := "KeyError", message := "'path'" }
  | some (.str s) =>
    match s.encodeUtf8 with
    | none => .error (host.unpairedException s)
    | some path => .ok path
  | some _ => .error (identityError "filesystem path must be non-empty")

-- a tool is built for the workspace before it reads its parameter
def runTool {α : Type} (tool : FilesystemResourceIdentityResolver → String →
    Except RaisedException α)
    (present : α → Value) (parameters : Mapping) (context : ToolContext) :
    Except RaisedException Value :=
  match requireWorkspaceRoot host context with
  | .error e => .error e
  | .ok workspace =>
    match host.resolverOf workspace with
    | .error e => .error e
    | .ok r =>
      match pathParameter host parameters with
      | .error e => .error e
      | .ok path => (tool r path).map present

def ended (result : Except RaisedException Value) : HandlerRun :=
  { outcome :=
      match result with
      | .error e => .raised e
      | .ok value => .returned value }

def textValue (text : String) : Value := .str (.ofString text)

def runFileRead : ToolImplementation u := fun parameters context guard _ =>
  ended (runTool host (FileReadTool.read host u guard) textValue parameters context)

def runDirectoryList : ToolImplementation u := fun parameters context guard _ =>
  ended (runTool host (DirectoryListTool.listDirectory host u guard) textArray parameters context)

def createDefaultExecutionRegistry : SandboxExecutionRegistry u :=
  (({} : SandboxExecutionRegistry u).register (.ofString "file_read_v1")
    (runFileRead host)).register
    (.ofString "directory_list_v1") (runDirectoryList host)

end SandboxExecutionRegistry

-- the production runner on a host
def WorkspaceHost.runner {u : UnicodeData} (host : WorkspaceHost) (e : RunnerEnvironment u) :
    RunnerEnvironment u :=
  { e with
    registry := SandboxExecutionRegistry.createDefaultExecutionRegistry host
    testingHandlers := none
    files := host.files }

namespace FilesystemResourceIdentityResolver

variable {r : FilesystemResourceIdentityResolver} {path : String} {names : List String}

theorem init_ok {tree : FileTree} {casefold : String → String} {windowsAbsolute : String → Bool}
    {workingDirectory : PosixPath} {workspaceRoot : String} {place : Place}
    (hstat : tree.stat (workingDirectory.join (.parse workspaceRoot)) = some place)
    (hdirectory : tree.kind place.entry = some .directory) :
    init tree casefold windowsAbsolute workingDirectory workspaceRoot =
      .ok ⟨tree, casefold, windowsAbsolute, place, FileTree.stat_spells hstat, hdirectory⟩ := by
  unfold init
  split
  · rename_i hnone
    rw [hstat] at hnone
    cases hnone
  · rename_i found hfound
    have hsame := hfound
    rw [hstat] at hsame
    cases hsame
    exact dif_pos hdirectory

-- the path is the canonical name of an entry at or below the workspace root that is no link
structure Names (r : FilesystemResourceIdentityResolver) (path : String) (names : List String) :
    Prop where
  canonical : r.canonicalize path = returns path
  text : path = PosixPath.text ⟨"", names⟩
  settled : r.tree.Settled (r.place.entry ++ names)

theorem Names.plain (h : r.Names path names) : ∀ name ∈ names, PlainName name :=
  plain_below h.settled.1

theorem Names.stat (h : r.Names path names) :
    r.tree.stat ⟨"/", r.place.spelled ++ names⟩ =
      some ⟨r.place.spelled ++ names, r.place.entry ++ names⟩ :=
  stat_of_spells (r.spells.extend h.settled) "/"

theorem Names.denotes (h : r.Names path names) :
    r.denotes path = some (r.place.entry ++ names) := by
  have hcandidate : r.candidate path = ⟨"/", r.place.spelled ++ names⟩ := by
    rw [candidate, h.text, PosixPath.parse_text h.plain]
    rfl
  rw [FilesystemResourceIdentityResolver.denotes, hcandidate, h.stat]
  rfl

theorem text_injective {names names' : List String} (h : ∀ name ∈ names, PlainName name)
    (h' : ∀ name ∈ names', PlainName name)
    (heq : PosixPath.text ⟨"", names⟩ = PosixPath.text ⟨"", names'⟩) : names = names' := by
  have hparsed := congrArg PosixPath.parse heq
  rw [PosixPath.parse_text h, PosixPath.parse_text h'] at hparsed
  exact congrArg PosixPath.parts hparsed

theorem kind_above {t : FileTree} {entry below : List String}
    (h : (t.kind (entry ++ below)).isSome = true) : (t.kind entry).isSome = true := by
  induction below using List.reverseRecOn with
  | nil => simpa using h
  | append_singleton below name ih =>
    rw [← List.append_assoc] at h
    exact ih (by rw [t.parent_directory _ _ h]; rfl)

-- what is there leaves nothing missing on the way to it
theorem SoundAt.missing_nil {t : FileTree} {x : Reached} (h : t.SoundAt x)
    (hkind : (t.kind (x.entry ++ x.missing)).isSome = true) : x.missing = [] := by
  cases hm : x.missing with
  | nil => rfl
  | cons first rest =>
    exfalso
    have hfirst : (t.kind (x.entry ++ [first])).isSome = true := by
      rw [hm, List.append_cons] at hkind
      exact kind_above hkind
    have hfind := h.absent first (by simp [hm])
    rw [t.find_self _ _ ((t.mem_names _ _).mpr hfirst)] at hfind
    cases hfind

theorem Names.accepted (h : r.Names path names) {given : String} {x : Reached} {below : List String}
    (haccepted : Accepted r given path x below) : below = names ∧ x.missing = [] := by
  have hnames : below ++ x.missing = names :=
    text_injective haccepted.plain h.plain (haccepted.text.symm.trans h.text)
  have hentry : x.entry ++ x.missing = r.place.entry ++ names := by
    rw [haccepted.entry, List.append_assoc, hnames]
  have hmissing := SoundAt.missing_nil haccepted.sound (by rw [hentry]; exact h.settled.1)
  exact ⟨by rw [← hnames, hmissing, List.append_nil], hmissing⟩

theorem resolveForExecution_iff {target : PosixPath} :
    r.resolveForExecution path = .returns target ↔
    ∃ names, r.Names path names ∧ target = ⟨"/", r.place.spelled ++ names⟩ := by
  constructor
  · intro h
    have hcanonical : r.canonicalize path = returns path := by
      simp only [resolveForExecution] at h
      split at h
      · cases h
      · cases h
      · rename_i current hcurrent
        split at h
        · cases h
        · rename_i hsame
          rw [hcurrent, not_not.mp hsame]
    obtain ⟨x, below, haccepted⟩ := accepted_of_canonicalize hcanonical
    by_cases hmissing : x.missing = []
    · rw [haccepted.execution_existing hmissing hcanonical] at h
      cases h
      have htext := haccepted.text
      rw [hmissing, List.append_nil] at htext
      exact ⟨below, ⟨hcanonical, htext, haccepted.settled⟩, rfl⟩
    · rw [haccepted.execution_missing hmissing hcanonical] at h
      cases h
  · rintro ⟨names, h, rfl⟩
    obtain ⟨x, below, haccepted⟩ := accepted_of_canonicalize h.canonical
    obtain ⟨rfl, hmissing⟩ := h.accepted haccepted
    exact haccepted.execution_existing hmissing h.canonical

end FilesystemResourceIdentityResolver

open FilesystemResourceIdentityResolver

section Tools

variable {host : WorkspaceHost} {u : UnicodeData} {guard : Option FilesystemSandboxGuard}
  {r : FilesystemResourceIdentityResolver} {path : String}

theorem WorkspaceHost.resolveForExecution_ok_iff {target : PosixPath} :
    host.resolveForExecution u guard r path = .ok target ↔
      r.resolveForExecution path = .returns target ∧ host.scans u guard r target = true := by
  simp only [WorkspaceHost.resolveForExecution]
  split
  · rename_i found hfound
    simp only [hfound, FilesystemResourceIdentityResolver.ExecutionTarget.returns.injEq]
    split
    · rename_i hscans
      constructor
      · intro h
        cases h
        exact ⟨rfl, hscans⟩
      · rintro ⟨rfl, -⟩
        rfl
    · rename_i hscans
      constructor
      · nofun
      · rintro ⟨rfl, h⟩
        exact absurd h hscans
  all_goals
    rename_i hfound
    simp [hfound]

theorem WorkspaceHost.visit_ok_iff {α : Type} {notFound wrongKind : String} {a : α}
    {use : PosixPath → List String → NodeKind → Option (Except RaisedException α)} :
    host.visit u guard notFound wrongKind use r path = .ok a ↔
      ∃ names kind, r.Names path names ∧
        host.scans u guard r ⟨"/", r.place.spelled ++ names⟩ = true ∧
        r.tree.kind (r.place.entry ++ names) = some kind ∧
        use ⟨"/", r.place.spelled ++ names⟩ (r.place.entry ++ names) kind = some (.ok a) := by
  constructor
  · intro h
    simp only [visit] at h
    split at h
    · cases h
    · rename_i target htarget
      obtain ⟨hreturns, hscans⟩ := resolveForExecution_ok_iff.mp htarget
      obtain ⟨names, hnames, rfl⟩ := resolveForExecution_iff.mp hreturns
      obtain ⟨kind, hkind⟩ := Option.isSome_iff_exists.mp hnames.settled.1
      simp only [hnames.stat, hkind, Option.bind_some] at h
      split at h
      · cases h
      · rename_i result hresult
        exact ⟨names, kind, hnames, hscans, hkind, by rw [hresult, h]⟩
  · rintro ⟨names, kind, hnames, hscans, hkind, huse⟩
    have htarget : host.resolveForExecution u guard r path = .ok ⟨"/", r.place.spelled ++ names⟩ :=
      resolveForExecution_ok_iff.mpr ⟨resolveForExecution_iff.mpr ⟨names, hnames, rfl⟩, hscans⟩
    simp only [visit, htarget, hnames.stat, hkind, Option.bind_some, huse]

theorem audited_ok_iff {α : Type} {check : Except String Unit} {result : Except RaisedException α}
    {a : α} : audited check result = .ok a ↔ check = .ok () ∧ result = .ok a := by
  cases check with
  | error message => simp [audited]
  | ok value => simp [audited]

theorem FileReadTool.read_ok_iff {text : String} : read host u guard r path = .ok text ↔
    ∃ names inode, r.Names path names ∧
      host.scans u guard r ⟨"/", r.place.spelled ++ names⟩ = true ∧
      r.tree.kind (r.place.entry ++ names) = some (.file inode) ∧
      host.audit u guard (.openFile (readCall ⟨"/", r.place.spelled ++ names⟩)) = .ok () ∧
      host.readText inode = .ok text := by
  rw [read, WorkspaceHost.visit_ok_iff]
  constructor
  · rintro ⟨names, kind, hnames, hscans, hkind, huse⟩
    cases kind with
    | file inode =>
      exact ⟨names, inode, hnames, hscans, hkind, audited_ok_iff.mp (Option.some.inj huse)⟩
    | _ => cases huse
  · rintro ⟨names, inode, hnames, hscans, hkind, hread⟩
    exact ⟨names, .file inode, hnames, hscans, hkind, congrArg some (audited_ok_iff.mpr hread)⟩

theorem DirectoryListTool.listDirectory_ok_iff {found : List String} :
    listDirectory host u guard r path = .ok found ↔
      ∃ names, r.Names path names ∧
        host.scans u guard r ⟨"/", r.place.spelled ++ names⟩ = true ∧
        r.tree.kind (r.place.entry ++ names) = some .directory ∧
        host.audit u guard (.listdir (.text (PosixPath.text ⟨"/", r.place.spelled ++ names⟩))) =
          .ok () ∧
        found = sortedNames (r.tree.names (r.place.entry ++ names)) := by
  rw [listDirectory, WorkspaceHost.visit_ok_iff]
  constructor
  · rintro ⟨names, kind, hnames, hscans, hkind, huse⟩
    cases kind with
    | directory =>
      obtain ⟨haudit, hfound⟩ := audited_ok_iff.mp (Option.some.inj huse)
      cases hfound
      exact ⟨names, hnames, hscans, hkind, haudit, rfl⟩
    | _ => cases huse
  · rintro ⟨names, hnames, hscans, hkind, haudit, rfl⟩
    exact ⟨names, .directory, hnames, hscans, hkind,
      congrArg some (audited_ok_iff.mpr ⟨haudit, rfl⟩)⟩

end Tools

namespace SandboxExecutionRegistry

variable {host : WorkspaceHost} {u : UnicodeData} {parameters : Mapping} {context : ToolContext}

theorem pathParameter_ok_iff {path : String} : pathParameter host parameters = .ok path ↔
    parameters.field "path" = some (.str (.ofString path)) := by
  simp only [pathParameter]
  split
  · rename_i hfield
    simp [hfield]
  · rename_i s hfield
    simp only [hfield, Option.some.injEq, Value.str.injEq]
    split
    · rename_i hnone
      constructor
      · nofun
      · rintro rfl
        rw [Str.encodeUtf8_ofString] at hnone
        cases hnone
    · rename_i text htext
      have hs : s = .ofString text := Str.encodeUtf8_eq_some.mp htext
      constructor
      · intro h
        cases h
        exact hs
      · intro h
        rw [h, Str.encodeUtf8_ofString] at htext
        rw [Option.some.inj htext]
  · rename_i value hother hfield
    simp only [hfield, Option.some.injEq]
    constructor
    · nofun
    · intro h
      exact (hother _ h).elim

-- the workspace a tool is confined to, and the path it is given there
structure Called (host : WorkspaceHost) (parameters : Mapping) (context : ToolContext)
    (r : FilesystemResourceIdentityResolver) (path : String) : Prop where
  workspace : ∃ root, requireWorkspaceRoot host context = .ok root ∧ host.resolverOf root = .ok r
  parameter : parameters.field "path" = some (.str (.ofString path))

theorem runTool_ok_iff {α : Type}
    {tool : FilesystemResourceIdentityResolver → String → Except RaisedException α}
    {present : α → Value} {result : Value} :
    runTool host tool present parameters context = .ok result ↔
      ∃ r path a, Called host parameters context r path ∧ tool r path = .ok a ∧
        result = present a := by
  constructor
  · intro h
    simp only [runTool] at h
    split at h
    · cases h
    · rename_i root hroot
      split at h
      · cases h
      · rename_i r hr
        split at h
        · cases h
        · rename_i path hpath
          cases ha : tool r path with
          | error e =>
            rw [ha] at h
            cases h
          | ok a =>
            rw [ha] at h
            cases h
            exact ⟨r, path, a, ⟨⟨root, hroot, hr⟩, pathParameter_ok_iff.mp hpath⟩, ha, rfl⟩
  · rintro ⟨r, path, a, ⟨⟨root, hroot, hr⟩, hparameter⟩, ha, rfl⟩
    simp only [runTool, hroot, hr, pathParameter_ok_iff.mpr hparameter, ha]
    rfl

theorem ended_returned_iff {result : Except RaisedException Value} {value : Value} :
    (ended result).outcome = .returned value ↔ result = .ok value := by
  cases result with
  | error e => simp [ended]
  | ok found => simp [ended]

theorem packaged_ids : Str.ofString "directory_list_v1" ≠ Str.ofString "file_read_v1" := by decide

theorem resolve_default {implementationId : Str} {fn : ToolImplementation u} :
    (createDefaultExecutionRegistry host).resolve implementationId = some fn ↔
      implementationId = .ofString "file_read_v1" ∧ fn = runFileRead host ∨
        implementationId = .ofString "directory_list_v1" ∧ fn = runDirectoryList host := by
  have hempty : ({} : SandboxExecutionRegistry u).implementations.get? implementationId = none :=
    rfl
  simp only [createDefaultExecutionRegistry, register, resolve, Dict.get?_set, hempty]
  split
  · rename_i hid
    subst hid
    simp [packaged_ids, eq_comm]
  · rename_i hlist
    split
    · rename_i hid
      subst hid
      simp [packaged_ids.symm, eq_comm]
    · rename_i hread
      simp [Ne.symm hread, Ne.symm hlist]

-- what an implementation returns for the entry below the workspace root that its path names
inductive Delivers (host : WorkspaceHost) (u : UnicodeData) (guard : Option FilesystemSandboxGuard)
    (r : FilesystemResourceIdentityResolver) (names : List String) : Str → Value → Prop
  | file (inode : Nat) (text : String)
      (hkind : r.tree.kind (r.place.entry ++ names) = some (.file inode))
      (haudit : host.audit u guard (.openFile (readCall ⟨"/", r.place.spelled ++ names⟩)) = .ok ())
      (hread : host.readText inode = .ok text) :
      Delivers host u guard r names (.ofString "file_read_v1") (textValue text)
  | directory (hkind : r.tree.kind (r.place.entry ++ names) = some .directory)
      (haudit : host.audit u guard
        (.listdir (.text (PosixPath.text ⟨"/", r.place.spelled ++ names⟩))) =
        .ok ()) :
      Delivers host u guard r names (.ofString "directory_list_v1")
        (textArray (sortedNames (r.tree.names (r.place.entry ++ names))))

theorem Delivers.packaged {guard : Option FilesystemSandboxGuard}
    {r : FilesystemResourceIdentityResolver} {names : List String} {implementationId : Str}
    {result : Value} (h : Delivers host u guard r names implementationId result) :
    implementationId = .ofString "file_read_v1" ∨
      implementationId = .ofString "directory_list_v1" := by
  cases h with
  | file => exact .inl rfl
  | directory => exact .inr rfl

structure Answers (host : WorkspaceHost) (u : UnicodeData) (guard : Option FilesystemSandboxGuard)
    (implementationId : Str) (parameters : Mapping) (context : ToolContext)
    (r : FilesystemResourceIdentityResolver) (path : String) (names : List String)
    (result : Value) : Prop where
  called : Called host parameters context r path
  named : r.Names path names
  scans : host.scans u guard r ⟨"/", r.place.spelled ++ names⟩ = true
  delivers : Delivers host u guard r names implementationId result

theorem runFileRead_iff {guard : Option FilesystemSandboxGuard}
    {network : Option (NetworkSandboxGuard u)} {result : Value} :
    (runFileRead host parameters context guard network).outcome = .returned result ↔
      ∃ r path names,
        Answers host u guard (.ofString "file_read_v1") parameters context r path names result := by
  rw [runFileRead, ended_returned_iff, runTool_ok_iff]
  constructor
  · rintro ⟨r, path, text, hcalled, htext, rfl⟩
    obtain ⟨names, inode, hnames, hscans, hkind, haudit, hread⟩ := FileReadTool.read_ok_iff.mp htext
    exact ⟨r, path, names, hcalled, hnames, hscans, .file inode text hkind haudit hread⟩
  · rintro ⟨r, path, names, hcalled, hnames, hscans, hdelivers⟩
    generalize hid : Str.ofString "file_read_v1" = implementationId at hdelivers
    cases hdelivers with
    | file inode text hkind haudit hread =>
      exact ⟨r, path, text, hcalled,
        FileReadTool.read_ok_iff.mpr ⟨names, inode, hnames, hscans, hkind, haudit, hread⟩, rfl⟩
    | directory hkind haudit => exact (packaged_ids hid.symm).elim

theorem runDirectoryList_iff {guard : Option FilesystemSandboxGuard}
    {network : Option (NetworkSandboxGuard u)} {result : Value} :
    (runDirectoryList host parameters context guard network).outcome = .returned result ↔
      ∃ r path names,
        Answers host u guard (.ofString "directory_list_v1") parameters context r path names
          result := by
  rw [runDirectoryList, ended_returned_iff, runTool_ok_iff]
  constructor
  · rintro ⟨r, path, found, hcalled, hfound, rfl⟩
    obtain ⟨names, hnames, hscans, hkind, haudit, rfl⟩ :=
      DirectoryListTool.listDirectory_ok_iff.mp hfound
    exact ⟨r, path, names, hcalled, hnames, hscans, .directory hkind haudit⟩
  · rintro ⟨r, path, names, hcalled, hnames, hscans, hdelivers⟩
    generalize hid : Str.ofString "directory_list_v1" = implementationId at hdelivers
    cases hdelivers with
    | file inode text hkind haudit hread => exact (packaged_ids hid).elim
    | directory hkind haudit =>
      exact ⟨r, path, _, hcalled,
        DirectoryListTool.listDirectory_ok_iff.mpr ⟨names, hnames, hscans, hkind, haudit, rfl⟩, rfl⟩

end SandboxExecutionRegistry

namespace SandboxRunner

open SandboxExecutionRegistry

variable {u : UnicodeData} {host : WorkspaceHost} {e : RunnerEnvironment u} {printed : String}
  {result : Value}

-- a request the production runner accepted, with the guards it ran under
structure Accepts (host : WorkspaceHost) (e : RunnerEnvironment u) (rawInput : String)
    (d : ToolExecutionDescriptor) (guard : Option FilesystemSandboxGuard) : Prop where
  present : Text.strip rawInput ≠ ""
  descriptor : ToolExecutionDescriptor.fromJson e.readFloat rawInput = some d
  filesystem : filesystemGuard host.files e.runtimeDirs d = some guard
  network : (networkGuard u e.ports d).isSome = true

theorem finish_success_iff {run : HandlerRun} :
    finish e run = .wrote printed (.success result) ↔
      run.printed = printed ∧ run.outcome = .returned result := by
  unfold finish
  split
  all_goals
    rename_i houtcome
    simp [houtcome]

theorem dispatch_success_iff {d : ToolExecutionDescriptor} :
    dispatch (host.runner e) d = .wrote printed (.success result) ↔
      printed = "" ∧ ∃ guard, filesystemGuard host.files e.runtimeDirs d = some guard ∧
        (networkGuard u e.ports d).isSome = true ∧ ∃ r path names,
          Answers host u guard d.implementationId d.parameters (context d) r path names result := by
  have hresolve (fn : ToolImplementation u) :
      (implementations (host.runner e)).resolve d.implementationId = some fn ↔
        d.implementationId = .ofString "file_read_v1" ∧ fn = runFileRead host ∨
          d.implementationId = .ofString "directory_list_v1" ∧ fn = runDirectoryList host :=
    resolve_default
  have houtcome {fn : ToolImplementation u} (hfn : (implementations (host.runner e)).resolve
      d.implementationId = some fn) (guard : Option FilesystemSandboxGuard)
      (network : Option (NetworkSandboxGuard u)) :
      (fn d.parameters (context d) guard network).outcome = .returned result ↔ ∃ r path names,
        Answers host u guard d.implementationId d.parameters (context d) r path names result := by
    rcases (hresolve fn).mp hfn with ⟨hid, rfl⟩ | ⟨hid, rfl⟩
    · rw [hid]
      exact runFileRead_iff
    · rw [hid]
      exact runDirectoryList_iff
  have hprinted {fn : ToolImplementation u} (hfn : (implementations (host.runner e)).resolve
      d.implementationId = some fn) (guard : Option FilesystemSandboxGuard)
      (network : Option (NetworkSandboxGuard u)) :
      (fn d.parameters (context d) guard network).printed = "" := by
    rcases (hresolve fn).mp hfn with ⟨-, rfl⟩ | ⟨-, rfl⟩ <;> rfl
  unfold dispatch
  split
  · rename_i hnone
    constructor
    · nofun
    · rintro ⟨-, guard, -, -, r, path, names, hanswers⟩
      rcases hanswers.delivers.packaged with hid | hid
      · have hsome := (hresolve (runFileRead host)).mpr (.inl ⟨hid, rfl⟩)
        rw [hnone] at hsome
        cases hsome
      · have hsome := (hresolve (runDirectoryList host)).mpr (.inr ⟨hid, rfl⟩)
        rw [hnone] at hsome
        cases hsome
  · rename_i fn hfn
    split
    · rename_i guard network hguard hnetwork
      have hguard' : filesystemGuard host.files e.runtimeDirs d = some guard := hguard
      have hnetwork' : networkGuard u e.ports d = some network := hnetwork
      rw [finish_success_iff, houtcome hfn, hprinted hfn]
      simp [hguard', hnetwork', eq_comm]
    · rename_i hneither
      constructor
      · nofun
      · rintro ⟨-, guard, hguard, hnetwork, -⟩
        obtain ⟨network, hnetwork⟩ := Option.isSome_iff_exists.mp hnetwork
        exact (hneither guard network hguard hnetwork).elim

theorem packaged_success_iff (host : WorkspaceHost) (e : RunnerEnvironment u)
    (rawInput printed : String) (result : Value) :
    runHeadless (host.runner e) rawInput = .wrote printed (.success result) ↔
      printed = "" ∧ ∃ d guard, Accepts host e rawInput d guard ∧ ∃ r path names,
        Answers host u guard d.implementationId d.parameters (context d) r path names result := by
  simp only [runHeadless]
  split
  · rename_i hblank
    constructor
    · intro hwrote
      cases hwrote
    · rintro ⟨-, d, guard, haccepts, -⟩
      exact absurd hblank haccepts.present
  · rename_i hpresent
    split
    · rename_i hnone
      constructor
      · intro hwrote
        cases hwrote
      · rintro ⟨-, d, guard, haccepts, -⟩
        have hsome : none = some d := hnone.symm.trans haccepts.descriptor
        cases hsome
    · rename_i d hd
      rw [dispatch_success_iff]
      constructor
      · rintro ⟨rfl, guard, hguard, hnetwork, hanswers⟩
        exact ⟨rfl, d, guard, ⟨hpresent, hd, hguard, hnetwork⟩, hanswers⟩
      · rintro ⟨rfl, d', guard, haccepts, hanswers⟩
        have hsame : some d = some d' := hd.symm.trans haccepts.descriptor
        cases hsame
        exact ⟨rfl, guard, haccepts.filesystem, haccepts.network, hanswers⟩

end SandboxRunner

end AgentSecurityPlatform
