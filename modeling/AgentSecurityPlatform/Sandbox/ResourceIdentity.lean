import AgentSecurityPlatform.Library.FileTree
import AgentSecurityPlatform.Library.Text

namespace AgentSecurityPlatform

-- unresolved stands for the OSError, RuntimeError and ValueError that canonicalize translates
inductive IdentityError where
  | refused (message : String)
  | unresolved
  deriving DecidableEq, Repr

-- running is a loop that has not ended within its iterations
inductive Resolution (α : Type) where
  | returns (value : α)
  | raises (error : IdentityError)
  | running
  deriving DecidableEq, Repr

namespace Resolution

def bind {α β : Type} (x : Resolution α) (f : α → Resolution β) : Resolution β :=
  match x with
  | returns value => f value
  | raises error => raises error
  | running => running

instance : Monad Resolution where
  pure := returns
  bind := bind

instance : LawfulMonad Resolution :=
  LawfulMonad.mk' Resolution
    (fun x => by cases x <;> rfl)
    (fun _ _ => rfl)
    (fun x _ _ => by cases x <;> rfl)

def refuse {α : Type} (message : String) : Resolution α := raises (.refused message)

end Resolution

open Resolution

structure FilesystemResourceIdentityResolver where
  tree : FileTree
  casefold : String → String
  windowsAbsolute : String → Bool
  place : Place
  spells : tree.Spells place.spelled place.entry
  directory : tree.kind place.entry = some .directory

namespace FilesystemResourceIdentityResolver

def init (tree : FileTree) (casefold : String → String) (windowsAbsolute : String → Bool)
    (workingDirectory : PosixPath) (workspaceRoot : String) :
    Except String FilesystemResourceIdentityResolver :=
  match h : tree.stat (workingDirectory.join (.parse workspaceRoot)) with
  | none => .error "filesystem workspace root cannot be resolved safely"
  | some place =>
    if hdir : tree.kind place.entry = some .directory then
      .ok ⟨tree, casefold, windowsAbsolute, place, FileTree.stat_spells h, hdir⟩
    else .error "filesystem workspace root is not a directory"

variable (r : FilesystemResourceIdentityResolver)

def workspaceRoot : PosixPath := ⟨"/", r.place.spelled⟩

def requireInside (path : PosixPath) : Resolution PosixPath :=
  if path.isRelativeTo r.workspaceRoot then returns path
  else refuse "filesystem path resolves outside the workspace"

def ancestorsBelowRoot : Nat → PosixPath → List PosixPath → Resolution (List PosixPath)
  | 0, _, _ => running
  | iterations + 1, current, ancestors =>
    match r.tree.samefile current r.workspaceRoot with
    | none => refuse "cannot verify filesystem path containment safely"
    | some true => returns ancestors
    | some false =>
      if current.parent = current then refuse "filesystem path resolves outside the workspace"
      else ancestorsBelowRoot iterations current.parent (ancestors ++ [current])

def spellComponent (current requested : PosixPath) : Resolution PosixPath :=
  match r.tree.scandir current with
  | none => refuse "cannot inspect filesystem path components safely"
  | some entries =>
    if requested.name ∈ entries then returns (current.child requested.name)
    else
      match entries.filter (fun name =>
        r.tree.samefile requested (current.child name) = some true) with
      | [name] => returns (current.child name)
      | _ => refuse "filesystem path component has ambiguous case identity"

def filesystemSpelling (path : PosixPath) : Resolution PosixPath := do
  let ancestors ← r.ancestorsBelowRoot (path.parts.length + 1) path []
  ancestors.reverse.foldlM r.spellComponent r.workspaceRoot

def resolveExisting (path : PosixPath) : Resolution PosixPath :=
  match r.tree.resolve path with
  | none => raises .unresolved
  | some resolved => r.filesystemSpelling resolved

def present (path : PosixPath) : Bool := r.tree.pathExists path || r.tree.isSymlink path

def existingAncestor : Nat → PosixPath → List String → Resolution (PosixPath × List String)
  | 0, _, _ => running
  | iterations + 1, ancestor, missingSuffix =>
    if r.present ancestor then returns (ancestor, missingSuffix)
    else if ancestor.parent = ancestor then
      refuse "filesystem path has no resolvable existing ancestor"
    else existingAncestor iterations ancestor.parent (ancestor.name :: missingSuffix)

def replayComponent (current : PosixPath) (component : String) : Resolution PosixPath :=
  if component = "" ∨ component = "." then returns current
  else if component = ".." then r.requireInside current.parent
  else if r.present (current.child component) then do
    let resolved ← r.resolveExisting (current.child component)
    r.requireInside resolved
  else r.requireInside (current.child component)

def resolveExistingOrMissing (candidate : PosixPath) : Resolution PosixPath :=
  if r.present candidate then r.resolveExisting candidate
  else do
    let found ← r.existingAncestor (candidate.parts.length + 1) candidate []
    let resolved ← r.resolveExisting found.1
    let start ← r.requireInside resolved
    found.2.foldlM r.replayComponent start

def validateRelativeFrom : Nat → List String → Bool
  | _, [] => true
  | depth, component :: components =>
    if component = "" ∨ component = "." then validateRelativeFrom depth components
    else if component = ".." then
      match depth with
      | 0 => false
      | depth + 1 => validateRelativeFrom depth components
    else validateRelativeFrom (depth + 1) components

def validateRelativeParentSegments (path : List Char) : Bool :=
  validateRelativeFrom 0 ((path.splitOn '/').map String.ofList)

def components (path : PosixPath) : List String :=
  if path.anchor = "" then path.parts else path.anchor :: path.parts

def samePrefix (path : PosixPath) : Bool :=
  ((components path).zip (components r.workspaceRoot)).all
    (fun pair => r.casefold pair.1 = r.casefold pair.2) &&
    (components r.workspaceRoot).length ≤ (components path).length

def validateAbsoluteParentSegments (path : PosixPath) : Option String :=
  if r.samePrefix path then
    if validateRelativeParentSegments
        (['/'].intercalate (((components path).drop (components r.workspaceRoot).length).map
          String.toList)) then none
    else some "relative filesystem path escapes the workspace"
  else if ".." ∈ components path then
    some "absolute filesystem path with parent traversal is ambiguous"
  else none

def validateParentSegments (path : String) : Option String :=
  if (PosixPath.parse path).isAbsolute then r.validateAbsoluteParentSegments (.parse path)
  else if validateRelativeParentSegments path.toList then none
  else some "relative filesystem path escapes the workspace"

def candidate (path : String) : PosixPath := r.workspaceRoot.join (.parse path)

def relativeTo (path : PosixPath) : Resolution (List String) :=
  if path.isRelativeTo r.workspaceRoot then
    returns (path.parts.drop r.workspaceRoot.parts.length)
  else raises .unresolved

def relativeTarget (path : String) : Resolution (List String) := do
  let resolved ← r.resolveExistingOrMissing (r.candidate path)
  r.relativeTo resolved

def canonicalize (path : String) : Resolution String :=
  if path = "" then refuse "filesystem path must be non-empty"
  else if '\x00' ∈ path.toList then refuse "filesystem path contains a null byte"
  else if '\\' ∈ path.toList ∨ r.windowsAbsolute path then
    refuse "filesystem path must use unambiguous POSIX separators"
  else
    match r.validateParentSegments path with
    | some message => refuse message
    | none =>
      match r.relativeTarget path with
      | running => running
      | raises (.refused message) => refuse message
      | raises .unresolved =>
        refuse "filesystem path is outside the workspace or cannot be resolved safely"
      | returns relative => returns (PosixPath.text ⟨"", relative⟩)

inductive ExecutionTarget where
  | returns (target : PosixPath)
  | rejects (error : IdentityError)
  | raises (error : LookupError)
  | running
  deriving DecidableEq, Repr

def resolveForExecution (identity : String) : ExecutionTarget :=
  match r.canonicalize identity with
  | .running => .running
  | .raises error => .rejects error
  | .returns current =>
    if current ≠ identity then
      .rejects (.refused "filesystem resource identity changed after authorization")
    else
      match r.tree.resolve (r.candidate identity) with
      | none => .raises (r.tree.resolveFailure (r.candidate identity))
      | some resolved =>
        match r.filesystemSpelling resolved with
        | .running => .running
        | .raises error => .rejects error
        | .returns target => .returns target

end FilesystemResourceIdentityResolver

end AgentSecurityPlatform
