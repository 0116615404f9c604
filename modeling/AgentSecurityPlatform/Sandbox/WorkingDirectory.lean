import AgentSecurityPlatform.Sandbox.FileAccess
import AgentSecurityPlatform.Library.Refinement

namespace AgentSecurityPlatform

-- the directory descriptors given with the paths: dir_fd, or src_dir_fd and dst_dir_fd
structure DirFds where
  src : Option Int := none
  dst : Option Int := none
  deriving DecidableEq, Repr

structure PathAccess where
  target : AuditTarget
  mutates : Bool
  dirFd : Option Int
  deriving DecidableEq, Repr

namespace FileEvent

-- what the operating system is asked for; the hook looks at the paths only
def accesses (fds : DirFds) : FileEvent → List PathAccess
  | .openFile call => [⟨call.target, OpenFlag.mutates call.flags, fds.src⟩]
  | .listdir target => [⟨target, false, none⟩]
  | .scandir target => [⟨target, false, none⟩]
  | .mkdir target => [⟨target, true, fds.src⟩]
  | .rmdir target => [⟨target, true, fds.src⟩]
  | .remove target => [⟨target, true, fds.src⟩]
  | .unlink target => [⟨target, true, fds.src⟩]
  | .chmod target => [⟨target, true, fds.src⟩]
  | .rename src dst => [⟨src, true, fds.src⟩, ⟨dst, true, fds.dst⟩]
  | .replace src dst => [⟨src, true, fds.src⟩, ⟨dst, true, fds.dst⟩]
  | .symlink src dst => [⟨dst, true, fds.dst⟩, ⟨src, false, none⟩]
  | .link src dst => [⟨dst, true, fds.dst⟩, ⟨src, false, fds.src⟩]

theorem mem_checks_of_access {e : FileEvent} {fds : DirFds} {a : PathAccess}
    (h : a ∈ e.accesses fds) : ∃ w, (a.target, w) ∈ e.checks ∧ (a.mutates = true → w = true) := by
  cases e with
  | openFile call =>
    obtain rfl := List.mem_singleton.mp h
    exact ⟨_, List.mem_singleton_self _, openIsWrite_of_mutates⟩
  | listdir target | scandir target =>
    obtain rfl := List.mem_singleton.mp h
    exact ⟨false, List.mem_singleton_self _, id⟩
  | mkdir target | rmdir target | remove target | unlink target | chmod target =>
    obtain rfl := List.mem_singleton.mp h
    exact ⟨true, List.mem_singleton_self _, fun _ => rfl⟩
  | rename src dst | replace src dst =>
    simp only [accesses, List.mem_cons, List.not_mem_nil, or_false] at h
    rcases h with rfl | rfl
    · exact ⟨true, by simp [checks], fun _ => rfl⟩
    · exact ⟨true, by simp [checks], fun _ => rfl⟩
  | symlink src dst | link src dst =>
    simp only [accesses, List.mem_cons, List.not_mem_nil, or_false] at h
    rcases h with rfl | rfl
    · exact ⟨true, by simp [checks], fun _ => rfl⟩
    · exact ⟨false, by simp [checks], id⟩

end FileEvent

@[ext]
structure ToolProcess where
  cwd : PosixPath
  descriptors : Int → Option PosixPath

namespace ToolProcess

-- a directory descriptor starts the lookup of a relative path; an absolute one ignores it
def location (fs : Filesystem) (p : ToolProcess) (dirFd : Option Int) (path : String) :
    Option PosixPath :=
  match dirFd with
  | none => fs.location p.cwd path
  | some fd =>
    if (PosixPath.parse path).isAbsolute then fs.location p.cwd path
    else (p.descriptors fd).bind (fun directory => fs.location directory path)

def directoryOf (fs : Filesystem) (p : ToolProcess) : AuditTarget → Option PosixPath
  | .descriptor fd => p.descriptors fd
  | target => (target.path fs).bind (fs.location p.cwd)

end ToolProcess

-- what tool code can do; the hook passes os.chdir over, and os.dup, os.close and the like
inductive ToolOperation where
  | chdir (directory : AuditTarget)
  | descriptor (fd : Int) (directory : Option PosixPath)
  | audited (event : FileEvent) (fds : DirFds)

namespace ToolOperation

def perform (u : UnicodeData) (fs : Filesystem) (isDir : PosixPath → Bool)
    (g : FilesystemSandboxGuard) (p : ToolProcess) :
    ToolOperation → ToolProcess × Except String Unit
  | chdir target =>
    match p.directoryOf fs target with
    | none => (p, .ok ())
    | some directory => (if isDir directory then { p with cwd := directory } else p, .ok ())
  | descriptor fd directory =>
    ({ p with descriptors := fun k => if k = fd then directory else p.descriptors k }, .ok ())
  | audited event _ => (p, g.auditHook u fs event)

-- what the guard resolves a name to before it checks it
def guardLocation (fs : Filesystem) (g : FilesystemSandboxGuard) (path : String) :
    Option PosixPath :=
  if Text.strip path = "" then none else fs.location g.workspaceRoot path

def Agrees (fs : Filesystem) (g : FilesystemSandboxGuard) (p : ToolProcess) (e : FileEvent)
    (fds : DirFds) : Prop :=
  ∀ a ∈ e.accesses fds, ∀ path, a.target.path fs = some path →
    (PosixPath.parse path).isAbsolute = false →
      ∀ location, p.location fs a.dirFd path = some location →
        guardLocation fs g path = some location

def Permitted (fs : Filesystem) (g : FilesystemSandboxGuard) (p : ToolProcess) (e : FileEvent)
    (fds : DirFds) : Prop :=
  ∀ a ∈ e.accesses fds, ∀ path, a.target.path fs = some path → path ≠ devnull →
    ∀ location, p.location fs a.dirFd path = some location →
      (a.mutates = true → g.MayMutate location) ∧ g.MayRead location

-- a named path is not blank, and no descriptor starts it anywhere but at the workspace
structure Rooted (fs : Filesystem) (g : FilesystemSandboxGuard) (p : ToolProcess) (a : PathAccess)
    (path : String) : Prop where
  nonblank : path ≠ "" → Text.strip path ≠ ""
  based : ∀ fd directory, a.dirFd = some fd → (PosixPath.parse path).isAbsolute = false →
    p.descriptors fd = some directory → directory = g.workspaceRoot

def Stays (fs : Filesystem) (isDir : PosixPath → Bool) (g : FilesystemSandboxGuard)
    (p : ToolProcess) : ToolOperation → Prop
  | chdir target => ∀ directory, p.directoryOf fs target = some directory →
      isDir directory = true → directory = g.workspaceRoot
  | descriptor _ _ => True
  | audited event fds => ∀ a ∈ event.accesses fds, ∀ path, a.target.path fs = some path →
      Rooted fs g p a path

variable {u : UnicodeData} {fs : Filesystem} {isDir : PosixPath → Bool}
  {g : FilesystemSandboxGuard} {p : ToolProcess} {op : ToolOperation} {ops : List ToolOperation}

theorem perform_stays (h : op.Stays fs isDir g p) (hcwd : p.cwd = g.workspaceRoot) :
    (op.perform u fs isDir g p).1.cwd = g.workspaceRoot := by
  cases op with
  | audited event fds => exact hcwd
  | descriptor fd directory => exact hcwd
  | chdir target =>
    simp only [perform]
    split
    · exact hcwd
    · rename_i directory hdirectory
      split
      · rename_i hdir
        exact h directory hdirectory hdir
      · exact hcwd

theorem final_stays (h : Run.Meets (perform u fs isDir g) (fun p op => op.Stays fs isDir g p) p ops)
    (hcwd : p.cwd = g.workspaceRoot) :
    (Run.final (perform u fs isDir g) p ops).cwd = g.workspaceRoot :=
  Run.invariant_of_meets (I := fun p => p.cwd = g.workspaceRoot)
    (fun _ _ hs hcwd => perform_stays hs hcwd) h hcwd

-- where the lookup of a rooted path starts makes no difference
theorem Rooted.location {a : PathAccess} {path : String} {found : PosixPath}
    (h : Rooted fs g p a path) (hcwd : p.cwd = g.workspaceRoot)
    (hfound : p.location fs a.dirFd path = some found) :
    fs.location g.workspaceRoot path = some found := by
  simp only [ToolProcess.location, hcwd] at hfound
  split at hfound
  · exact hfound
  · rename_i fd hfd
    split at hfound
    · exact hfound
    · rename_i hrelative
      obtain ⟨directory, hopen, hlocation⟩ := Option.bind_eq_some_iff.mp hfound
      rw [← h.based fd directory hfd (by simpa using hrelative) hopen]
      exact hlocation

theorem Rooted.strip_ne {a : PathAccess} {path : String} {found : PosixPath}
    (h : Rooted fs g p a path) (hfound : fs.location g.workspaceRoot path = some found) :
    Text.strip path ≠ "" := by
  apply h.nonblank
  rintro rfl
  cases hfound

theorem agrees_of_stays {e : FileEvent} {fds : DirFds} (hcwd : p.cwd = g.workspaceRoot)
    (h : (ToolOperation.audited e fds).Stays fs isDir g p) : Agrees fs g p e fds := by
  intro a ha path hpath _ found hfound
  have hrooted := h a ha path hpath
  have hlocation := hrooted.location hcwd hfound
  rw [guardLocation, if_neg (hrooted.strip_ne hlocation), hlocation]

theorem permitted_of_stays {e : FileEvent} {fds : DirFds} (hactive : g.active = true)
    (hcwd : p.cwd = g.workspaceRoot) (h : (ToolOperation.audited e fds).Stays fs isDir g p)
    (hok : g.auditHook u fs e = .ok ()) : Permitted fs g p e fds := by
  intro a ha path hpath hnull found hfound
  have hrooted := h a ha path hpath
  have hlocation := hrooted.location hcwd hfound
  obtain ⟨w, hchecked, hwrite⟩ := FileEvent.mem_checks_of_access ha
  have hcheck := FilesystemSandboxGuard.auditHook_ok_iff.mp hok (a.target, w) hchecked
  obtain ⟨hmutate, hread⟩ := FilesystemSandboxGuard.checked_mayRead hactive hcheck hpath
    (hrooted.strip_ne hlocation) hnull hlocation
  exact ⟨fun hm => hmutate (hwrite hm), hread⟩

theorem checked_location_used (u : UnicodeData) (fs : Filesystem) (isDir : PosixPath → Bool)
    (g : FilesystemSandboxGuard) (hactive : g.active = true) (descriptors : Int → Option PosixPath)
    (ops : List ToolOperation)
    (hstays : Run.Meets (perform u fs isDir g) (fun p op => op.Stays fs isDir g p)
      ⟨g.workspaceRoot, descriptors⟩ ops)
    (pre post : List ToolOperation) (op : ToolOperation) (hops : ops = pre ++ op :: post) :
    let p := Run.final (perform u fs isDir g) ⟨g.workspaceRoot, descriptors⟩ pre
    p.cwd = g.workspaceRoot ∧ ∀ e fds, op = .audited e fds →
      (op.perform u fs isDir g p).2 = .ok () →
      Agrees fs g p e fds ∧ Permitted fs g p e fds := by
  intro p
  subst hops
  obtain ⟨hpre, hop, -⟩ := Run.meets_append.mp hstays
  have hcwd : p.cwd = g.workspaceRoot := final_stays hpre rfl
  refine ⟨hcwd, ?_⟩
  rintro e fds rfl hok
  exact ⟨agrees_of_stays hcwd hop, permitted_of_stays hactive hcwd hop hok⟩

def sampleRead (path : String) : ToolOperation :=
  .audited (.openFile ⟨.text path, some "rb", 0, fun m _ hmutates => by cases hmutates⟩) {}

open FilesystemSandboxGuard

def samplePerform (g : FilesystemSandboxGuard) :
    ToolProcess → ToolOperation → ToolProcess × Except String Unit :=
  perform .ascii lexicalFilesystem (fun _ => true) g

def sampleProcess : ToolProcess := ⟨sampleReadOnly.workspaceRoot, fun _ => none⟩

theorem checked_location_used_sample :
    Run.Meets (samplePerform sampleReadOnly)
        (fun p op => op.Stays lexicalFilesystem (fun _ => true) sampleReadOnly p)
        sampleProcess [.chdir (.text "."), sampleRead "data.txt"] ∧
      (Run.final (samplePerform sampleReadOnly) sampleProcess [.chdir (.text ".")]).cwd =
        sampleReadOnly.workspaceRoot := by
  have hfacts : sampleProcess.directoryOf lexicalFilesystem (.text ".") =
        some sampleReadOnly.workspaceRoot ∧ Text.strip "data.txt" ≠ "" := by
    decide +kernel
  obtain ⟨hdot, hblank⟩ := hfacts
  have hstays : Run.Meets (samplePerform sampleReadOnly)
      (fun p op => op.Stays lexicalFilesystem (fun _ => true) sampleReadOnly p)
      sampleProcess [.chdir (.text "."), sampleRead "data.txt"] := by
    refine ⟨?_, ?_, trivial⟩
    · intro directory hdirectory _
      rw [hdot] at hdirectory
      exact (Option.some.inj hdirectory).symm
    · intro a ha path hpath
      obtain rfl := List.mem_singleton.mp ha
      cases hpath
      refine ⟨fun _ => hblank, ?_⟩
      intro fd directory hfd
      cases hfd
  exact ⟨hstays,
    (checked_location_used .ascii lexicalFilesystem (fun _ => true) sampleReadOnly rfl _ _
    hstays [.chdir (.text ".")] [] _ rfl).1⟩

def strayProcess : ToolProcess := ⟨⟨"/", ["etc"]⟩, fun _ => none⟩

def etcOpen : ToolProcess :=
  ⟨sampleWritable.workspaceRoot, fun fd => if fd = 3 then some ⟨"/", ["etc"]⟩ else none⟩

-- the second tool stays in its working directory and starts from /etc, which is open as 3
theorem chdir_escapes :
    Run.final (samplePerform sampleReadOnly) sampleProcess [.chdir (.text "/etc")] = strayProcess ∧
      (samplePerform sampleReadOnly strayProcess (sampleRead "passwd")).2 = .ok () ∧
      guardLocation lexicalFilesystem sampleReadOnly "passwd" =
        some ⟨"/", ["srv", "work", "passwd"]⟩ ∧
      strayProcess.location lexicalFilesystem none "passwd" = some ⟨"/", ["etc", "passwd"]⟩ ∧
      ¬ sampleReadOnly.MayRead ⟨"/", ["etc", "passwd"]⟩ ∧
      (samplePerform sampleWritable etcOpen (.audited (.mkdir (.text "sub")) ⟨some 3, none⟩)).2 =
        .ok () ∧
      guardLocation lexicalFilesystem sampleWritable "sub" = some ⟨"/", ["srv", "work", "sub"]⟩ ∧
      etcOpen.location lexicalFilesystem (some 3) "sub" = some ⟨"/", ["etc", "sub"]⟩ ∧
      ¬ sampleWritable.MayMutate ⟨"/", ["etc", "sub"]⟩ := by
  have hread : ¬ sampleReadOnly.MayRead ⟨"/", ["etc", "passwd"]⟩ := by
    rintro (hscratch | ⟨hin, -⟩ | ⟨dir, hdir, -⟩)
    · cases hscratch
    · revert hin
      decide +kernel
    · cases hdir
  have hwrite : ¬ sampleWritable.MayMutate ⟨"/", ["etc", "sub"]⟩ := by
    rintro (hscratch | ⟨-, hin, -⟩)
    · cases hscratch
    · revert hin
      decide +kernel
  have hmoved : (Run.final (samplePerform sampleReadOnly) sampleProcess
      [.chdir (.text "/etc")]).cwd = strayProcess.cwd := by
    decide +kernel
  refine ⟨?_, ?_, ?_, ?_, hread, ?_, ?_, ?_, hwrite⟩
  · exact ToolProcess.ext hmoved rfl
  all_goals decide +kernel

end ToolOperation

end AgentSecurityPlatform
