import AgentSecurityPlatform.Sandbox.Filesystem
import Mathlib.Data.List.TakeWhile

namespace AgentSecurityPlatform

namespace FilesystemSandboxGuard

variable {u : UnicodeData} {fs : Filesystem} {g : FilesystemSandboxGuard} {p : PosixPath}
  {target : AuditTarget} {path : String}

def MayMutate (g : FilesystemSandboxGuard) (p : PosixPath) : Prop :=
  g.inScratch p = true ∨ g.readOnly = false ∧ p.isRelativeTo g.workspaceRoot = true ∧
    (g.allowedSubpaths = [] ∨ ∃ sub ∈ g.allowedSubpaths, p.isRelativeTo (g.subpath sub) = true)

def MayRead (g : FilesystemSandboxGuard) (p : PosixPath) : Prop :=
  g.inScratch p = true ∨
    (p.isRelativeTo g.workspaceRoot = true ∧ (g.allowedSubpaths = [] ∨ p = g.workspaceRoot ∨
      ∃ sub ∈ g.allowedSubpaths, p.isRelativeTo (g.subpath sub) = true ∨
        (g.subpath sub).isRelativeTo p = true)) ∨
    ∃ dir ∈ g.runtimeDirs, p.isRelativeTo dir = true

theorem MayMutate.mayRead (h : g.MayMutate p) : g.MayRead p := by
  rcases h with hs | ⟨-, hroot, hsub⟩
  · exact .inl hs
  · refine .inr (.inl ⟨hroot, ?_⟩)
    rcases hsub with hnil | ⟨sub, hmem, hin⟩
    · exact .inl hnil
    · exact .inr (.inr ⟨sub, hmem, .inl hin⟩)

theorem checkWrite_ok (h : g.checkWrite p = .ok ()) : g.MayMutate p := by
  simp only [checkWrite] at h
  split at h
  · split at h
    · split at h
      · cases h
      · rename_i hs
        exact .inl (by simpa using hs)
    · cases h
  · rename_i hro
    split at h
    · rename_i hs
      exact .inl hs
    · split at h
      · cases h
      · rename_i hroot
        split at h
        · cases h
        · rename_i hsub
          refine .inr ⟨by simpa using hro, by simpa using hroot, ?_⟩
          by_cases hnil : g.allowedSubpaths = []
          · exact .inl hnil
          · simp only [not_and, Bool.not_eq_false] at hsub
            obtain ⟨sub, hmem, hin⟩ := List.any_eq_true.mp (hsub hnil)
            exact .inr ⟨sub, hmem, hin⟩

theorem checkRead_ok (h : g.checkRead p = .ok ()) : g.MayRead p := by
  simp only [checkRead] at h
  split at h
  · rename_i hs
    exact .inl hs
  · split at h
    · rename_i hroot
      split at h
      · cases h
      · rename_i hsub
        refine .inr (.inl ⟨hroot, ?_⟩)
        by_cases hnil : g.allowedSubpaths = []
        · exact .inl hnil
        · by_cases hself : p = g.workspaceRoot
          · exact .inr (.inl hself)
          · simp only [not_and, not_not] at hsub
            obtain ⟨sub, hmem, hin⟩ := List.any_eq_true.mp
              (Bool.of_not_eq_false (fun hf => hself (hsub hnil hf)))
            exact .inr (.inr ⟨sub, hmem, by simpa using hin⟩)
    · split at h
      · rename_i hdir
        obtain ⟨dir, hmem, hin⟩ := List.any_eq_true.mp hdir
        exact .inr (.inr ⟨dir, hmem, hin⟩)
      · cases h

theorem location_root (g : FilesystemSandboxGuard) (hne : path ≠ "") :
    fs.location g.workspaceRoot path =
      fs.resolve (if (PosixPath.parse path).isAbsolute then .parse path
        else g.workspaceRoot.join (.parse path)) := by
  simp only [Filesystem.location, if_neg hne]
  split
  · rename_i habs
    rw [PosixPath.join_absolute habs]
  · rfl

-- a path that is neither blank nor the null device is checked where it leads from the workspace
theorem checkAccess_ok (hactive : g.active = true) (hpath : target.path fs = some path)
    (hblank : Text.strip path ≠ "") (hnull : path ≠ devnull) {isWrite : Bool}
    (h : g.checkAccess u fs target isWrite = .ok ()) :
    ∃ p, fs.location g.workspaceRoot path = some p ∧
      (if isWrite then g.checkWrite p else g.checkRead p) = .ok () := by
  have hne : path ≠ "" := by
    rintro rfl
    exact hblank rfl
  rw [location_root g hne]
  simp only [checkAccess, hactive, Bool.not_true, Bool.false_eq_true, if_false, hpath,
    if_neg hblank, if_neg hnull] at h
  split at h
  · cases h
  · rename_i resolved hres
    split at h
    · cases h
    · split at h
      · cases h
      · exact ⟨resolved, hres, h⟩

theorem checkAccess_blank (hpath : target.path fs = some path) (hblank : Text.strip path = "")
    (isWrite : Bool) : g.checkAccess u fs target isWrite = .ok () := by
  simp [checkAccess, hpath, hblank]

end FilesystemSandboxGuard

namespace FileEvent

-- the checks the hook makes for an event, in order
def checks : FileEvent → List (AuditTarget × Bool)
  | .openFile call => [(call.target, FilesystemSandboxGuard.openIsWrite call)]
  | .listdir target => [(target, false)]
  | .scandir target => [(target, false)]
  | .mkdir target => [(target, true)]
  | .rmdir target => [(target, true)]
  | .remove target => [(target, true)]
  | .unlink target => [(target, true)]
  | .chmod target => [(target, true)]
  | .rename src dst => [(src, true), (dst, true)]
  | .replace src dst => [(src, true), (dst, true)]
  | .symlink src dst => [(dst, true), (src, false)]
  | .link src dst => [(dst, true), (src, false)]

theorem openIsWrite_of_mutates {call : OpenCall} (h : OpenFlag.mutates call.flags = true) :
    FilesystemSandboxGuard.openIsWrite call = true := by
  simp only [FilesystemSandboxGuard.openIsWrite]
  split
  · rename_i mode hmode
    exact call.announced mode hmode h
  · simp only [OpenFlag.mutates, ne_eq, decide_eq_true_eq] at h ⊢
    intro hzero
    apply h
    have hmask : OpenFlag.writeMask = (OpenFlag.wronly ||| OpenFlag.rdwr ||| OpenFlag.creat |||
        OpenFlag.trunc) ||| OpenFlag.append := by decide
    rw [hmask, Nat.and_or_distrib_left, Nat.or_eq_zero_iff] at hzero
    exact hzero.1

theorem mem_checks_of_mutated {e : FileEvent} {t : AuditTarget} (h : t ∈ e.mutated) :
    (t, true) ∈ e.checks := by
  cases e with
  | openFile call =>
    simp only [mutated] at h
    split at h
    · rename_i hm
      obtain rfl := List.mem_singleton.mp h
      simp [checks, openIsWrite_of_mutates hm]
    · cases h
  | listdir | scandir => cases h
  | mkdir | rmdir | remove | unlink | chmod => simpa [mutated, checks] using h
  | rename | replace => simpa [mutated, checks] using h
  | symlink | link => simpa [mutated, checks] using h

theorem mem_checks_of_onlyRead {e : FileEvent} {t : AuditTarget} (h : t ∈ e.onlyRead) :
    ∃ w, (t, w) ∈ e.checks := by
  cases e with
  | openFile call =>
    simp only [onlyRead] at h
    split at h
    · cases h
    · obtain rfl := List.mem_singleton.mp h
      exact ⟨_, List.mem_singleton_self _⟩
  | listdir | scandir => exact ⟨false, by simpa [onlyRead, checks] using h⟩
  | mkdir | rmdir | remove | unlink | chmod => cases h
  | rename | replace => cases h
  | symlink | link => exact ⟨false, by simp_all [onlyRead, checks]⟩

end FileEvent

namespace FilesystemSandboxGuard

variable {u : UnicodeData} {fs : Filesystem} {g : FilesystemSandboxGuard} {e : FileEvent}
  {cwd : PosixPath}

theorem checkBoth_ok_iff {first second : Except String Unit} :
    checkBoth first second = .ok () ↔ first = .ok () ∧ second = .ok () := by
  cases first with
  | error reason => simp [checkBoth]
  | ok => simp [checkBoth]

theorem auditHook_ok_iff :
    g.auditHook u fs e = .ok () ↔ ∀ c ∈ e.checks, g.checkAccess u fs c.1 c.2 = .ok () := by
  cases e <;> simp [auditHook, FileEvent.checks, checkBoth_ok_iff]

structure Contained (fs : Filesystem) (g : FilesystemSandboxGuard) (cwd : PosixPath)
    (e : FileEvent) : Prop where
  mutated : ∀ t ∈ e.mutated, ∀ path, t.path fs = some path → path ≠ devnull →
    ∀ p, fs.location cwd path = some p → g.MayMutate p
  onlyRead : ∀ t ∈ e.onlyRead, ∀ path, t.path fs = some path → path ≠ devnull →
    ∀ p, fs.location cwd path = some p → g.MayRead p

def BlanksMayMutate (fs : Filesystem) (g : FilesystemSandboxGuard) : Prop :=
  ∀ path, path ≠ "" → Text.strip path = "" → ∀ p, fs.location g.workspaceRoot path = some p →
    g.MayMutate p

theorem checked_mayRead {t : AuditTarget} {w : Bool} {path : String} {p : PosixPath}
    (hactive : g.active = true) (hok : g.checkAccess u fs t w = .ok ())
    (hpath : t.path fs = some path) (hblank : Text.strip path ≠ "") (hnull : path ≠ devnull)
    (hp : fs.location g.workspaceRoot path = some p) :
    (w = true → g.MayMutate p) ∧ g.MayRead p := by
  obtain ⟨q, hq, hcheck⟩ := checkAccess_ok hactive hpath hblank hnull hok
  rw [hq] at hp
  cases hp
  cases w with
  | true =>
    have hmut := checkWrite_ok hcheck
    exact ⟨fun _ => hmut, hmut.mayRead⟩
  | false => exact ⟨by simp, checkRead_ok hcheck⟩

theorem contained_of_nonblank (hactive : g.active = true) (hok : g.auditHook u fs e = .ok ())
    (hblank : ∀ c ∈ e.checks, ∀ path, c.1.path fs = some path → path ≠ "" →
      Text.strip path = "" → ∀ p, fs.location g.workspaceRoot path = some p → g.MayMutate p) :
    Contained fs g g.workspaceRoot e := by
  have hcheck : ∀ t w, (t, w) ∈ e.checks → ∀ path, t.path fs = some path → path ≠ devnull →
      ∀ p, fs.location g.workspaceRoot path = some p →
        (w = true → g.MayMutate p) ∧ g.MayRead p := by
    intro t w hmem path hpath hnull p hp
    by_cases hb : Text.strip path = ""
    · have hne : path ≠ "" := by
        rintro rfl
        simp [Filesystem.location] at hp
      have hmut := hblank (t, w) hmem path hpath hne hb p hp
      exact ⟨fun _ => hmut, hmut.mayRead⟩
    · exact checked_mayRead hactive (auditHook_ok_iff.mp hok (t, w) hmem) hpath hb hnull hp
  constructor
  · intro t ht path hpath hnull p hp
    exact (hcheck t true (FileEvent.mem_checks_of_mutated ht) path hpath hnull p hp).1 rfl
  · intro t ht path hpath hnull p hp
    obtain ⟨w, hmem⟩ := FileEvent.mem_checks_of_onlyRead ht
    exact (hcheck t w hmem path hpath hnull p hp).2

theorem strip_devnull : Text.strip devnull ≠ "" := by decide

theorem file_access_contained_iff (u : UnicodeData) (fs : Filesystem) (g : FilesystemSandboxGuard)
    (hactive : g.active = true) :
    (∀ e, g.auditHook u fs e = .ok () → Contained fs g g.workspaceRoot e) ↔
      BlanksMayMutate fs g := by
  constructor
  · intro hall path hne hblank p hp
    have hok : g.checkAccess u fs (.text path) true = .ok () := checkAccess_blank rfl hblank true
    have hnull : path ≠ devnull := by
      rintro rfl
      exact strip_devnull hblank
    exact (hall (.mkdir (.text path)) hok).mutated (.text path) (by simp [FileEvent.mutated])
      path rfl hnull p hp
  · intro hblanks e hok
    exact contained_of_nonblank hactive hok (fun c _ path _ => hblanks path)

theorem isSpace_of_strip {path : String} (h : Text.strip path = "") :
    ∀ c ∈ path.toList, Text.isSpace c = true := by
  have hnil : Text.stripChars Text.isSpace path.toList = [] := by
    have hlist := congrArg String.toList h
    simpa [Text.strip_eq] using hlist
  simp only [Text.stripChars, List.reverse_eq_nil_iff, List.dropWhile_eq_nil_iff,
    List.mem_reverse] at hnil
  rw [← List.dropWhile_eq_nil_iff]
  cases hd : path.toList.dropWhile Text.isSpace with
  | nil => rfl
  | cons c cs =>
    have hspace : Text.isSpace c = true := hnil c (by simp [hd])
    have hhead : c ∈ (path.toList.dropWhile Text.isSpace).head? := by simp [hd]
    have hnone := Text.head?_dropWhile hhead
    rw [hspace] at hnone
    cases hnone

theorem parse_blank {path : String} (hne : path ≠ "") (hblank : Text.strip path = "") :
    PosixPath.parse path = ⟨"", [path]⟩ := by
  have hspace := isSpace_of_strip hblank
  have hslash : '/' ∉ path.toList := by
    intro hmem
    have h := hspace _ hmem
    revert h
    decide
  have hdot : path ≠ "." := by
    rintro rfl
    revert hblank
    decide
  have hanchor : PosixPath.parseAnchor path.toList = "" := by
    cases hl : path.toList with
    | nil => rfl
    | cons c cs =>
      have hc : c ≠ '/' := by
        rintro rfl
        exact hslash (by simp [hl])
      simp only [PosixPath.parseAnchor]
      split <;> simp_all
  simp [PosixPath.parse, hanchor, PosixPath.parseParts, List.splitOn_eq_singleton hslash, hne, hdot]

-- a filesystem without symbolic links
def lexicalFilesystem : Filesystem where
  resolve p := some ⟨p.anchor, p.parts.foldl
    (fun dir part => if part = ".." then dir.dropLast else dir ++ [part]) []⟩
  fsdecode path := String.ofList (path.map (fun b => Char.ofNat b.toNat))

def sampleWritable : FilesystemSandboxGuard :=
  { workspaceRoot := .parse "/srv/work", readOnly := false, active := true }

theorem file_access_contained_sample :
    sampleWritable.active = true ∧
      ∀ e, sampleWritable.auditHook .ascii lexicalFilesystem e = .ok () →
      Contained lexicalFilesystem sampleWritable sampleWritable.workspaceRoot e := by
  have hblanks : BlanksMayMutate lexicalFilesystem sampleWritable := by
    intro path hne hblank p hp
    have hdots : path ≠ ".." := by
      rintro rfl
      revert hblank
      decide
    have hroot : sampleWritable.workspaceRoot = ⟨"/", ["srv", "work"]⟩ := by decide
    rw [Filesystem.location, if_neg hne, parse_blank hne hblank, hroot] at hp
    simp only [PosixPath.join, PosixPath.isAbsolute, lexicalFilesystem] at hp
    obtain rfl : ⟨"/", ["srv", "work", path]⟩ = p := by simpa [hdots] using hp
    refine .inr ⟨rfl, ?_, .inl rfl⟩
    rw [hroot]
    simp [PosixPath.isRelativeTo]
  exact ⟨rfl, (file_access_contained_iff .ascii lexicalFilesystem sampleWritable rfl).mpr hblanks⟩

def sampleReadOnly : FilesystemSandboxGuard :=
  { workspaceRoot := .parse "/srv/work", active := true }

def sampleBlankWrite : FileEvent :=
  .openFile ⟨.text " ", some "wb",
    OpenFlag.wronly ||| OpenFlag.creat ||| OpenFlag.trunc, by
      intro m hm
      cases hm
      decide⟩

theorem blank_write_escapes :
    sampleReadOnly.active = true ∧
      sampleReadOnly.auditHook .ascii lexicalFilesystem sampleBlankWrite = .ok () ∧
      ¬ Contained lexicalFilesystem sampleReadOnly sampleReadOnly.workspaceRoot
        sampleBlankWrite := by
  refine ⟨rfl, by decide +kernel, fun hc => ?_⟩
  have hlocation : lexicalFilesystem.location sampleReadOnly.workspaceRoot " " =
      some ⟨"/", ["srv", "work", " "]⟩ := by
    decide +kernel
  have hmut := hc.mutated (.text " ") (by decide +kernel) " " rfl (by decide) _ hlocation
  rcases hmut with hscratch | ⟨hwritable, -⟩
  · cases hscratch
  · cases hwritable

end FilesystemSandboxGuard

end AgentSecurityPlatform
