import AgentSecurityPlatform.Library.IpAddress
import AgentSecurityPlatform.Library.PosixPath

namespace AgentSecurityPlatform

-- a filesystem as Path.resolve and os.fsdecode see it; resolve is none where it raises
structure Filesystem where
  resolve : PosixPath → Option PosixPath
  fsdecode : List UInt8 → String

inductive AuditTarget where
  | absent
  | descriptor (fd : Int)
  | text (path : String)
  | bytes (path : List UInt8)
  deriving DecidableEq, Repr

def AuditTarget.path (fs : Filesystem) : AuditTarget → Option String
  | absent => none
  | descriptor _ => none
  | text path => some path
  | bytes path => some (fs.fsdecode path)

def devnull : String := "/dev/null"

def writesMode (mode : String) : Bool :=
  mode.toList.any (fun c => c = 'w' || c = 'a' || c = 'x' || c = '+')

namespace OpenFlag

def wronly : Nat := 1
def rdwr : Nat := 2
def creat : Nat := 64
def trunc : Nat := 512
def append : Nat := 1024

def writeMask : Nat := wronly ||| rdwr ||| creat ||| append ||| trunc

def mutates (flags : Nat) : Bool := flags &&& (wronly ||| rdwr ||| creat ||| trunc) ≠ 0

end OpenFlag

-- the interpreter derives the flags of a builtin open from its mode
structure OpenCall where
  target : AuditTarget
  mode : Option String
  flags : Nat
  announced : ∀ m, mode = some m → OpenFlag.mutates flags = true → writesMode m = true

inductive FileEvent where
  | openFile (call : OpenCall)
  | listdir (target : AuditTarget)
  | scandir (target : AuditTarget)
  | mkdir (target : AuditTarget)
  | rmdir (target : AuditTarget)
  | remove (target : AuditTarget)
  | unlink (target : AuditTarget)
  | chmod (target : AuditTarget)
  | rename (src dst : AuditTarget)
  | replace (src dst : AuditTarget)
  | symlink (src dst : AuditTarget)
  | link (src dst : AuditTarget)

structure FilesystemSandboxGuard where
  workspaceRoot : PosixPath
  allowedSubpaths : List String := []
  readOnly : Bool := true
  allowTempWrites : Bool := false
  scratchDir : Option PosixPath := none
  platformRoot : Option PosixPath := none
  runtimeDirs : List PosixPath := []
  active : Bool := false

namespace FilesystemSandboxGuard

def redacted (reason : String) : String := reason ++ ": [REDACTED_PATH]"

def subpath (g : FilesystemSandboxGuard) (sub : String) : PosixPath :=
  g.workspaceRoot.join (.parse sub)

def inScratch (g : FilesystemSandboxGuard) (resolved : PosixPath) : Bool :=
  g.scratchDir.any (fun scratch => resolved.isRelativeTo scratch)

def sensitiveName (u : UnicodeData) (name : String) : Bool :=
  let nameLower := u.lower name
  ".env".toList.isPrefixOf name.toList || Text.occursIn "jwt" nameLower ||
    Text.occursIn "secret" nameLower || Text.occursIn "password" nameLower

def checkWrite (g : FilesystemSandboxGuard) (resolved : PosixPath) : Except String Unit :=
  if g.readOnly then
    if g.allowTempWrites && g.scratchDir.isSome then
      if !g.inScratch resolved then
        .error (redacted "Filesystem write forbidden in read-only sandbox outside scratch")
      else .ok ()
    else .error (redacted "Filesystem modification is forbidden in read-only sandbox")
  else if g.inScratch resolved then .ok ()
  else if !resolved.isRelativeTo g.workspaceRoot then
    .error (redacted "Filesystem write outside workspace is forbidden")
  else if g.allowedSubpaths ≠ [] ∧
      g.allowedSubpaths.any (fun sub => resolved.isRelativeTo (g.subpath sub)) = false then
    .error (redacted "Filesystem write outside allowed subpaths is forbidden")
  else .ok ()

def checkRead (g : FilesystemSandboxGuard) (resolved : PosixPath) : Except String Unit :=
  if g.inScratch resolved then .ok ()
  else if resolved.isRelativeTo g.workspaceRoot then
    if g.allowedSubpaths ≠ [] ∧
        g.allowedSubpaths.any (fun sub => resolved.isRelativeTo (g.subpath sub) ||
          (g.subpath sub).isRelativeTo resolved) = false ∧ resolved ≠ g.workspaceRoot then
      .error (redacted "Filesystem read outside allowed subpaths is forbidden")
    else .ok ()
  else if g.runtimeDirs.any (fun dir => resolved.isRelativeTo dir) then .ok ()
  else .error (redacted "Filesystem read outside workspace is forbidden")

def checkAccess (u : UnicodeData) (fs : Filesystem) (g : FilesystemSandboxGuard)
    (target : AuditTarget) (isWrite : Bool) : Except String Unit :=
  if !g.active then .ok ()
  else
    match target.path fs with
    | none => .ok ()
    | some path =>
      if Text.strip path = "" then .ok ()
      else if path = devnull then .ok ()
      else
        let targetPath := PosixPath.parse path
        match fs.resolve (if targetPath.isAbsolute then targetPath
          else g.workspaceRoot.join targetPath) with
        | none => .error (redacted "Invalid path access")
        | some resolved =>
          if sensitiveName u resolved.name then
            .error (redacted "Access to sensitive file forbidden")
          else if g.platformRoot.any (fun root => resolved.isRelativeTo root) &&
              !resolved.isRelativeTo g.workspaceRoot then
            .error (redacted "Access to platform internals outside workspace forbidden")
          else if isWrite then g.checkWrite resolved
          else g.checkRead resolved

def openIsWrite (call : OpenCall) : Bool :=
  match call.mode with
  | some mode => writesMode mode
  | none => call.flags &&& OpenFlag.writeMask ≠ 0

def checkBoth (first second : Except String Unit) : Except String Unit :=
  match first with
  | .error reason => .error reason
  | .ok () => second

def auditHook (u : UnicodeData) (fs : Filesystem) (g : FilesystemSandboxGuard) :
    FileEvent → Except String Unit
  | .openFile call => g.checkAccess u fs call.target (openIsWrite call)
  | .listdir target => g.checkAccess u fs target false
  | .scandir target => g.checkAccess u fs target false
  | .mkdir target => g.checkAccess u fs target true
  | .rmdir target => g.checkAccess u fs target true
  | .remove target => g.checkAccess u fs target true
  | .unlink target => g.checkAccess u fs target true
  | .chmod target => g.checkAccess u fs target true
  | .rename src dst => checkBoth (g.checkAccess u fs src true) (g.checkAccess u fs dst true)
  | .replace src dst => checkBoth (g.checkAccess u fs src true) (g.checkAccess u fs dst true)
  | .symlink src dst => checkBoth (g.checkAccess u fs dst true) (g.checkAccess u fs src false)
  | .link src dst => checkBoth (g.checkAccess u fs dst true) (g.checkAccess u fs src false)

end FilesystemSandboxGuard

-- what the operation behind an event does to the paths it names
def FileEvent.mutated : FileEvent → List AuditTarget
  | .openFile call => if OpenFlag.mutates call.flags then [call.target] else []
  | .listdir _ => []
  | .scandir _ => []
  | .mkdir target => [target]
  | .rmdir target => [target]
  | .remove target => [target]
  | .unlink target => [target]
  | .chmod target => [target]
  | .rename src dst => [src, dst]
  | .replace src dst => [src, dst]
  | .symlink _ dst => [dst]
  | .link _ dst => [dst]

def FileEvent.onlyRead : FileEvent → List AuditTarget
  | .openFile call => if OpenFlag.mutates call.flags then [] else [call.target]
  | .listdir target => [target]
  | .scandir target => [target]
  | .symlink src _ => [src]
  | .link src _ => [src]
  | _ => []

-- where the operating system finds a path from a working directory; the empty path names nothing
def Filesystem.location (fs : Filesystem) (cwd : PosixPath) (path : String) : Option PosixPath :=
  if path = "" then none else fs.resolve (cwd.join (.parse path))

end AgentSecurityPlatform
