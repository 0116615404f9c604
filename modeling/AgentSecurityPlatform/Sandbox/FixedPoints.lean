import AgentSecurityPlatform.Sandbox.AliasFreedom

namespace AgentSecurityPlatform

open Resolution FileTree

namespace FilesystemResourceIdentityResolver

variable {r : FilesystemResourceIdentityResolver} {path identity : String} {x : Reached}
  {below : List String}

structure FixedPoint (r : FilesystemResourceIdentityResolver) (identity : String) : Prop where
  canonical : r.canonicalize identity = returns identity
  execution : (∃ target entry, r.resolveForExecution identity = .returns target ∧
      target.isRelativeTo r.workspaceRoot = true ∧ r.denotes identity = some entry ∧
        (r.tree.stat target).map Place.entry = some entry) ∨
    r.resolveForExecution identity = .raises .notFound

-- the names on the way from the workspace root to where a request leads
def namesTo (r : FilesystemResourceIdentityResolver) (x : Reached) : List String :=
  x.entry.drop r.place.entry.length ++ x.missing

structure ReadsBack (r : FilesystemResourceIdentityResolver) (path : String)
    (x : Reached) : Prop where
  target : r.target path = some x
  unescaped : ∀ name ∈ r.namesTo x, '\\' ∉ name.toList
  relative : r.windowsAbsolute (PosixPath.text ⟨"", r.namesTo x⟩) = false
  parent : x.missing = [] ∨ r.tree.kind x.entry = some .directory

section Existing

theorem samefile_spelled {spelled entry : List String} (h : r.tree.Spells spelled entry)
    (hne : entry ≠ r.place.entry) :
    r.tree.samefile ⟨"/", spelled⟩ r.workspaceRoot = some false := by
  simp only [samefile, stat_of_spells h, stat_workspaceRoot, sameObject, r.directory]
  split
  · rename_i hkind
    simp [hne]
  · rename_i hkind
    cases hkind
  · rfl

theorem samefile_root : r.tree.samefile r.workspaceRoot r.workspaceRoot = some true := by
  simp only [samefile, stat_workspaceRoot, sameObject_self (settled_directory r.directory)]

theorem spellComponent_own {name : String} (h : r.tree.Settled (r.place.entry ++ below ++ [name])) :
    r.spellComponent ⟨"/", r.place.spelled ++ below⟩ ⟨"/", r.place.spelled ++ below ++ [name]⟩ =
      returns ⟨"/", r.place.spelled ++ below ++ [name]⟩ := by
  have hstat := stat_of_spells (r.spells.extend (settled_of_directory_below h.1)) "/"
  have hdir : r.tree.kind (r.place.entry ++ below) = some .directory :=
    r.tree.parent_directory _ _ h.1
  have hscan : r.tree.scandir ⟨"/", r.place.spelled ++ below⟩ =
      some (r.tree.names (r.place.entry ++ below)) := by
    simp only [scandir, hstat, hdir, if_true]
  have hname : PosixPath.name ⟨"/", r.place.spelled ++ below ++ [name]⟩ = name := by
    simp [PosixPath.name]
  have hmem : name ∈ r.tree.names (r.place.entry ++ below) := (r.tree.mem_names _ _).mpr h.1
  simp only [spellComponent, hscan, hname, hmem, if_true]
  rfl

theorem ancestorsBelowRoot_own {iterations : Nat} (h : r.tree.Settled (r.place.entry ++ below))
    (hlt : below.length < iterations) (ancestors : List PosixPath) :
    ∃ chain, r.ancestorsBelowRoot iterations ⟨"/", r.place.spelled ++ below⟩ ancestors =
        returns (ancestors ++ chain) ∧
      chain.reverse.foldlM r.spellComponent r.workspaceRoot =
        returns ⟨"/", r.place.spelled ++ below⟩ := by
  induction below using List.reverseRecOn generalizing iterations ancestors with
  | nil =>
    cases iterations with
    | zero => cases hlt
    | succ iterations =>
      refine ⟨[], ?_, ?_⟩
      · have hroot : (⟨"/", r.place.spelled ++ []⟩ : PosixPath) = r.workspaceRoot := by
          simp [workspaceRoot]
        rw [hroot, ancestorsBelowRoot, samefile_root, List.append_nil]
      · simp [workspaceRoot]
        rfl
  | append_singleton front name ih =>
    cases iterations with
    | zero => omega
    | succ iterations =>
      rw [← List.append_assoc] at h
      have hne : r.place.entry ++ front ++ [name] ≠ r.place.entry := by
        intro heq
        have hlength := congrArg List.length heq
        simp at hlength
      have hspells : r.tree.Spells (r.place.spelled ++ front ++ [name])
          (r.place.entry ++ front ++ [name]) := by
        rw [List.append_assoc] at h
        rw [List.append_assoc, List.append_assoc]
        exact r.spells.extend h
      have hparent : PosixPath.parent ⟨"/", r.place.spelled ++ front ++ [name]⟩ =
          ⟨"/", r.place.spelled ++ front⟩ := by
        simp [PosixPath.parent]
      have hmoved : (⟨"/", r.place.spelled ++ front⟩ : PosixPath) ≠
          ⟨"/", r.place.spelled ++ front ++ [name]⟩ := by
        intro heq
        have hlength := congrArg (fun p => p.parts.length) heq
        simp at hlength
      have hlt' : front.length < iterations := by
        rw [List.length_append, List.length_singleton] at hlt
        omega
      obtain ⟨chain, hfound, hspell⟩ := ih (settled_of_directory_below h.1) hlt'
        (ancestors ++ [⟨"/", r.place.spelled ++ front ++ [name]⟩])
      rw [← List.append_assoc]
      refine ⟨⟨"/", r.place.spelled ++ front ++ [name]⟩ :: chain, ?_, ?_⟩
      · rw [ancestorsBelowRoot, samefile_spelled hspells hne]
        simp only [hparent, if_neg hmoved]
        rw [hfound, List.append_assoc, List.singleton_append]
      · rw [List.reverse_cons, List.foldlM_append, hspell]
        exact bind_returns.mpr ⟨_, rfl, bind_returns.mpr ⟨_, spellComponent_own h, rfl⟩⟩

theorem resolve_own (h : r.tree.Settled (r.place.entry ++ below)) :
    r.tree.resolve ⟨"/", r.place.spelled ++ below⟩ = some ⟨"/", r.place.spelled ++ below⟩ := by
  rw [resolve, stat_of_spells (r.spells.extend h) "/", Option.map_some]

theorem filesystemSpelling_own (h : r.tree.Settled (r.place.entry ++ below)) :
    r.filesystemSpelling ⟨"/", r.place.spelled ++ below⟩ =
      returns ⟨"/", r.place.spelled ++ below⟩ := by
  have hlt : below.length < (r.place.spelled ++ below).length + 1 := by
    rw [List.length_append]
    omega
  obtain ⟨chain, hfound, hspell⟩ := ancestorsBelowRoot_own h hlt []
  rw [filesystemSpelling, hfound]
  exact hspell

theorem resolveExisting_own (h : r.tree.Settled (r.place.entry ++ below)) :
    r.resolveExisting ⟨"/", r.place.spelled ++ below⟩ =
      returns ⟨"/", r.place.spelled ++ below⟩ := by
  rw [resolveExisting, resolve_own h]
  exact filesystemSpelling_own h

end Existing

section Missing

theorem inside_workspaceRoot (names : List String) :
    PosixPath.isRelativeTo ⟨"/", r.place.spelled ++ names⟩ r.workspaceRoot = true := by
  simp [PosixPath.isRelativeTo, workspaceRoot]

theorem present_absent {current : PosixPath} {part : String} {p : Place}
    (hwalk : r.tree.walk .root current.parts = some p) (hup : part ≠ "..")
    (hfind : r.tree.find p.entry part = none) : r.present (current.child part) = false := by
  have hstat : r.tree.stat (current.child part) = none := by
    simp only [stat, PosixPath.child]
    rw [walk_append, hwalk, Option.bind_some, walk_absent hfind hup]
  have hlink : r.tree.isSymlink (current.child part) = false := by
    simp [isSymlink, PosixPath.child, hwalk, hfind]
  rw [present, pathExists, hstat, hlink]
  rfl

theorem Stands.child_absent {current : PosixPath} {part : String} (h : Stands r current x below)
    (hup : part ≠ "..") (hfind : x.missing = [] → r.tree.find x.entry part = none) :
    r.present (current.child part) = false := by
  by_cases hempty : x.missing = []
  · have hwalk : r.tree.walk .root current.parts = some ⟨r.place.spelled ++ below, x.entry⟩ := by
      rw [h.path, hempty, List.append_nil]
      exact h.walk_existing
    exact present_absent hwalk hup (hfind hempty)
  · exact h.not_present hempty

theorem Stands.extend {current : PosixPath} {part : String} (h : Stands r current x below)
    (hup : part ≠ "..") (hfind : x.missing = [] → r.tree.find x.entry part = none) :
    Stands r (current.child part) ⟨x.entry, x.missing ++ [part]⟩ below := by
  refine ⟨⟨h.sound.settled, fun y hy => ?_, fun y hy => ?_⟩, h.entry, ?_⟩
  · by_cases hempty : x.missing = []
    · obtain rfl : part = y := by simpa [hempty] using hy
      exact hfind hempty
    · rw [List.head?_append_of_ne_nil _ hempty] at hy
      exact h.sound.absent y hy
  · rcases List.mem_append.mp hy with hy | hy
    · exact h.sound.names y hy
    · rw [List.mem_singleton.mp hy]
      exact hup
  · rw [h.path]
    simp [PosixPath.child]

theorem replay_own {current : PosixPath} {names : List String} (h : Stands r current x below)
    (hplain : ∀ name ∈ names, PlainName name)
    (hfind : x.missing = [] → ∀ name ∈ names.head?, r.tree.find x.entry name = none) :
    names.foldlM r.replayComponent current =
      returns ⟨"/", r.place.spelled ++ below ++ (x.missing ++ names)⟩ := by
  induction names generalizing current x with
  | nil =>
    rw [List.foldlM_nil, h.path, List.append_nil]
    rfl
  | cons name names ih =>
    have hname := hplain name (by simp)
    have habsent : x.missing = [] → r.tree.find x.entry name = none :=
      fun hempty => hfind hempty name (by simp)
    have hchild : r.requireInside (current.child name) = returns (current.child name) := by
      rw [requireInside, h.path, PosixPath.child, List.append_assoc, List.append_assoc,
        inside_workspaceRoot, if_pos rfl]
    have hreplay : r.replayComponent current name = returns (current.child name) := by
      rw [replayComponent, if_neg (by simp [hname.nonempty, hname.not_here]), if_neg hname.not_up,
        h.child_absent hname.not_up habsent]
      exact hchild
    have hrest := ih (h.extend hname.not_up habsent) (fun y hy => hplain y (by simp [hy]))
      (fun hempty => by simp at hempty)
    rw [List.foldlM_cons, hreplay]
    refine bind_returns.mpr ⟨_, rfl, ?_⟩
    simpa using hrest

theorem absent_below {base : PosixPath} {p : Place} (hstat : r.tree.stat base = some p)
    {front : List String} {name : String} (hplain : ∀ y ∈ front ++ [name], PlainName y)
    (hfind : ∀ y ∈ (front ++ [name]).head?, r.tree.find p.entry y = none) :
    r.present (PosixPath.child ⟨base.anchor, base.parts ++ front⟩ name) = false := by
  have hwalk : r.tree.walk .root base.parts = some p := hstat
  cases front with
  | nil =>
    rw [← List.append_nil base.parts] at hwalk
    exact present_absent hwalk (hplain name (by simp)).not_up (hfind name (by simp))
  | cons first front =>
    have hdir : r.tree.walk .root (base.parts ++ (first :: front)) = none := by
      rw [walk_append, hwalk, Option.bind_some,
        walk_absent (hfind first (by simp)) (hplain first (by simp)).not_up]
    exact present_below_missing hdir

theorem head?_front {front : List String} {name y : String} (h : y ∈ front.head?) :
    y ∈ (front ++ [name]).head? := by
  cases front with
  | nil => cases h
  | cons first front => simpa using h

theorem existingAncestor_own {iterations : Nat} {base : PosixPath} {p : Place}
    (hstat : r.tree.stat base = some p) {names : List String}
    (hplain : ∀ name ∈ names, PlainName name)
    (hfind : ∀ name ∈ names.head?, r.tree.find p.entry name = none)
    (hlt : names.length < iterations) (suffix : List String) :
    r.existingAncestor iterations ⟨base.anchor, base.parts ++ names⟩ suffix =
      returns (base, names ++ suffix) := by
  induction names using List.reverseRecOn generalizing iterations suffix with
  | nil =>
    cases iterations with
    | zero => cases hlt
    | succ iterations =>
      have hpresent : r.present base = true := by
        simp [present, pathExists, hstat]
      rw [List.append_nil, existingAncestor, if_pos hpresent, List.nil_append]
  | append_singleton front name ih =>
    cases iterations with
    | zero => omega
    | succ iterations =>
      have hpath : (⟨base.anchor, base.parts ++ (front ++ [name])⟩ : PosixPath) =
          PosixPath.child ⟨base.anchor, base.parts ++ front⟩ name := by
        simp [PosixPath.child]
      have hparent : (PosixPath.child ⟨base.anchor, base.parts ++ front⟩ name).parent =
          ⟨base.anchor, base.parts ++ front⟩ := by
        simp [PosixPath.parent, PosixPath.child]
      have hmoved : (⟨base.anchor, base.parts ++ front⟩ : PosixPath) ≠
          PosixPath.child ⟨base.anchor, base.parts ++ front⟩ name := by
        intro heq
        have hlength := congrArg (fun q => q.parts.length) heq
        simp [PosixPath.child] at hlength
      have hlt' : front.length < iterations := by
        rw [List.length_append, List.length_singleton] at hlt
        omega
      have hlast : (PosixPath.child ⟨base.anchor, base.parts ++ front⟩ name).name = name := by
        simp [PosixPath.name, PosixPath.child]
      have hrest := ih (fun y hy => hplain y (by simp [hy])) (fun y hy => hfind y (head?_front hy))
        hlt' (name :: suffix)
      rw [hpath, existingAncestor, absent_below hstat hplain hfind]
      simp only [hparent, if_neg hmoved, hlast]
      simpa using hrest

end Missing

section Accepted

theorem Accepted.namesTo_eq (h : Accepted r path identity x below) :
    r.namesTo x = below ++ x.missing := by
  rw [namesTo, h.entry, List.drop_left]

theorem Accepted.settled (h : Accepted r path identity x below) :
    r.tree.Settled (r.place.entry ++ below) := by
  rw [← h.entry]
  exact h.sound.settled

theorem Accepted.stands (h : Accepted r path identity x below) :
    Stands r ⟨"/", r.place.spelled ++ below⟩ ⟨x.entry, []⟩ below :=
  ⟨⟨h.sound.settled, by simp, by simp⟩, h.entry, by simp⟩

theorem Accepted.resolves (h : Accepted r path identity x below) :
    r.resolveExistingOrMissing ⟨"/", r.place.spelled ++ (below ++ x.missing)⟩ =
      returns ⟨"/", r.place.spelled ++ (below ++ x.missing)⟩ := by
  have hown := resolveExisting_own h.settled
  have hplain : ∀ name ∈ x.missing, PlainName name :=
    fun name hname => h.plain name (by simp [hname])
  rcases List.eq_nil_or_concat x.missing with hempty | ⟨front, name, hmissing⟩
  · have hpresent : r.present ⟨"/", r.place.spelled ++ below⟩ = true := by
      simp [present, pathExists, h.stat_below]
    rw [hempty, List.append_nil, resolveExistingOrMissing, if_pos hpresent]
    exact hown
  · rw [List.concat_eq_append] at hmissing
    have habsent : r.present ⟨"/", r.place.spelled ++ (below ++ x.missing)⟩ = false := by
      have hplain' := hplain
      have hfind := h.sound.absent
      rw [hmissing] at hplain' hfind
      have hchild := absent_below h.stat_below hplain' hfind
      simpa [PosixPath.child, hmissing] using hchild
    have hlt : x.missing.length < (r.place.spelled ++ (below ++ x.missing)).length + 1 := by
      rw [List.length_append, List.length_append]
      omega
    have hfound := existingAncestor_own h.stat_below hplain h.sound.absent hlt []
    rw [List.append_assoc, List.append_nil] at hfound
    have hinside : r.requireInside ⟨"/", r.place.spelled ++ below⟩ =
        returns ⟨"/", r.place.spelled ++ below⟩ := by
      rw [requireInside, inside_workspaceRoot, if_pos rfl]
    have hreplay := replay_own h.stands hplain (fun _ => h.sound.absent)
    rw [List.nil_append, List.append_assoc] at hreplay
    rw [resolveExistingOrMissing, habsent]
    exact bind_returns.mpr
      ⟨_, hfound, bind_returns.mpr ⟨_, hown, bind_returns.mpr ⟨_, hinside, hreplay⟩⟩⟩

theorem Accepted.relativeTarget (h : Accepted r path identity x below) :
    r.relativeTarget identity = returns (below ++ x.missing) := by
  have hcandidate := h.candidate_identity
  refine bind_returns.mpr ⟨⟨"/", r.place.spelled ++ (below ++ x.missing)⟩, ?_, ?_⟩
  · rw [hcandidate]
    exact h.resolves
  · rw [relativeTo, inside_workspaceRoot, if_pos rfl]
    simp [workspaceRoot]

theorem validateRelativeFrom_names {parts : List String} (h : ∀ part ∈ parts, part ≠ "..")
    (depth : Nat) : validateRelativeFrom depth parts = true := by
  induction parts generalizing depth with
  | nil => rfl
  | cons part parts ih =>
    have hrest := ih (fun y hy => h y (by simp [hy]))
    simp only [validateRelativeFrom, if_neg (h part (by simp))]
    split
    · exact hrest depth
    · exact hrest (depth + 1)

theorem Accepted.parent_segments (h : Accepted r path identity x below) :
    r.validateParentSegments identity = none := by
  have hparse : (PosixPath.parse identity).isAbsolute = false := by
    rw [h.text, PosixPath.parse_text h.plain]
    rfl
  have hparts : ∀ part ∈ (identity.toList.splitOn '/').map String.ofList, part ≠ ".." := by
    intro part hpart
    obtain ⟨cs, hcs, rfl⟩ := List.mem_map.mp hpart
    rcases h.relative with rfl | hplain
    · revert cs
      decide
    · exact (hplain cs hcs).not_up
  rw [validateParentSegments, hparse, if_neg Bool.false_ne_true, validateRelativeParentSegments,
    validateRelativeFrom_names hparts, if_pos rfl]

theorem no_null_below {t : FileTree} {entry names : List String}
    (h : (t.kind (entry ++ names)).isSome = true) : ∀ name ∈ names, '\x00' ∉ name.toList := by
  induction names using List.reverseRecOn with
  | nil => simp
  | append_singleton front last ih =>
    rw [← List.append_assoc] at h
    intro name hname
    rcases List.mem_append.mp hname with hname | hname
    · exact ih (by rw [t.parent_directory _ _ h]; rfl) name hname
    · rw [List.mem_singleton.mp hname]
      exact t.no_null _ _ _ (find_of_kind h)

theorem candidate_no_null (hpath : '\x00' ∉ path.toList) {part : String}
    (h : part ∈ (r.candidate path).parts) : '\x00' ∉ part.toList := by
  simp only [candidate, PosixPath.join] at h
  split at h
  · exact fun hc => hpath (PosixPath.mem_of_mem_parts h hc)
  · rcases List.mem_append.mp h with h | h
    · exact r.spells.no_null part h
    · exact fun hc => hpath (PosixPath.mem_of_mem_parts h hc)

theorem Accepted.no_null (h : Accepted r path identity x below) (hpath : '\x00' ∉ path.toList) :
    '\x00' ∉ identity.toList := by
  rw [h.text, PosixPath.mem_text (by decide) (by decide)]
  rintro ⟨name, hname, hc⟩
  rcases List.mem_append.mp hname with hname | hname
  · exact no_null_below h.settled.1 name hname hc
  · rcases reach_missing h.target name hname with hnone | hpart
    · cases hnone
    · exact candidate_no_null hpath hpart hc

theorem Accepted.nonempty (h : Accepted r path identity x below) : identity ≠ "" := by
  rcases h.relative with rfl | hplain
  · decide
  · rintro rfl
    exact (hplain [] (by simp)).nonempty rfl

theorem no_null_of_canonicalize (h : r.canonicalize path = returns identity) :
    '\x00' ∉ path.toList := by
  intro hnull
  simp only [canonicalize] at h
  split at h
  · cases h
  · cases h

theorem Accepted.canonicalize_iff (h : Accepted r path identity x below)
    (hpath : '\x00' ∉ path.toList) : r.canonicalize identity = returns identity ↔
      '\\' ∉ identity.toList ∧ r.windowsAbsolute identity = false := by
  rw [canonicalize, if_neg h.nonempty, if_neg (h.no_null hpath)]
  constructor
  · intro hret
    split at hret
    · cases hret
    · rename_i hseparators
      simpa using hseparators
  · rintro ⟨hslash, hwindows⟩
    rw [if_neg (by simp [hslash, hwindows]), h.parent_segments, h.relativeTarget]
    exact congrArg returns h.text.symm

end Accepted

section Execution

theorem step_absent {p : Place} {part : String} {f : Place → List String → Option Place}
    (hup : part ≠ "..") (h : r.tree.find p.entry part = none) : r.tree.step f p part = none := by
  simp only [step, if_neg hup, h]

theorem Accepted.execution_existing (h : Accepted r path identity x below) (hempty : x.missing = [])
    (hcanonical : r.canonicalize identity = returns identity) :
    r.resolveForExecution identity = .returns ⟨"/", r.place.spelled ++ below⟩ := by
  have hcandidate := h.candidate_identity
  rw [hempty, List.append_nil] at hcandidate
  simp only [resolveForExecution, hcanonical, ne_eq, not_true_eq_false, if_false, hcandidate,
    resolve_own h.settled, filesystemSpelling_own h.settled]

theorem Accepted.execution_missing (h : Accepted r path identity x below) (hne : x.missing ≠ [])
    (hcanonical : r.canonicalize identity = returns identity) :
    r.resolveForExecution identity =
      .raises (if r.tree.kind x.entry = some .directory then .notFound else .notADirectory) := by
  obtain ⟨first, rest, hmissing⟩ := List.exists_cons_of_ne_nil hne
  have hcandidate := h.candidate_identity
  have hfind := h.sound.absent first (by simp [hmissing])
  have hup := h.sound.names first (by simp [hmissing])
  have hbase : r.tree.walk .root (r.place.spelled ++ below) =
      some ⟨r.place.spelled ++ below, x.entry⟩ := h.stat_below
  rw [hmissing, ← List.append_assoc] at hcandidate
  have hnone : r.tree.resolve (r.candidate identity) = none := by
    rw [hcandidate, resolve, stat, walk_append, hbase, Option.bind_some, walk_absent hfind hup,
      Option.map_none]
  have hfailure : r.tree.resolveFailure (r.candidate identity) =
      if r.tree.kind x.entry = some .directory then .notFound else .notADirectory := by
    rw [hcandidate, resolveFailure, failureIn_append hbase, failureIn, step_absent hup hfind]
    by_cases hkind : r.tree.kind x.entry = some .directory
    · simp [stepFailure, hkind, hfind]
    · simp [stepFailure, hkind]
  simp only [resolveForExecution, hcanonical, ne_eq, not_true_eq_false, if_false, hnone, hfailure]

theorem Accepted.fixedPoint_iff (h : Accepted r path identity x below)
    (hpath : '\x00' ∉ path.toList) : r.FixedPoint identity ↔
      ('\\' ∉ identity.toList ∧ r.windowsAbsolute identity = false) ∧
        (x.missing = [] ∨ r.tree.kind x.entry = some .directory) := by
  rw [← h.canonicalize_iff hpath]
  constructor
  · intro hfixed
    refine ⟨hfixed.canonical, ?_⟩
    by_cases hempty : x.missing = []
    · exact .inl hempty
    · right
      have hmissing := h.execution_missing hempty hfixed.canonical
      by_contra hkind
      rw [if_neg hkind] at hmissing
      rcases hfixed.execution with ⟨target, entry, hreturns, -⟩ | hraises
      · rw [hmissing] at hreturns
        cases hreturns
      · rw [hmissing] at hraises
        cases hraises
  · rintro ⟨hcanonical, hparent⟩
    refine ⟨hcanonical, ?_⟩
    by_cases hempty : x.missing = []
    · left
      have hentry : r.target path = some ⟨x.entry, []⟩ := by
        rw [h.target, ← hempty]
      refine ⟨_, x.entry, h.execution_existing hempty hcanonical, inside_workspaceRoot below,
        h.denotes_identity hentry, ?_⟩
      rw [h.stat_below, Option.map_some]
    · right
      rw [h.execution_missing hempty hcanonical, if_pos (hparent.resolve_left hempty)]

end Execution

theorem identity_fixed_point_iff (r : FilesystemResourceIdentityResolver)
    (h : r.canonicalize path = returns identity) :
    r.FixedPoint identity ↔ ∃ x, ReadsBack r path x := by
  obtain ⟨x, below, haccepted⟩ := accepted_of_canonicalize h
  have hnames := haccepted.namesTo_eq
  have htext := haccepted.text
  rw [← hnames] at htext
  have hslash : '\\' ∉ identity.toList ↔ ∀ name ∈ r.namesTo x, '\\' ∉ name.toList := by
    rw [htext, PosixPath.mem_text (by decide) (by decide)]
    simp
  rw [haccepted.fixedPoint_iff (no_null_of_canonicalize h), hslash]
  constructor
  · rintro ⟨⟨hunescaped, hrelative⟩, hparent⟩
    exact ⟨x, haccepted.target, hunescaped, htext ▸ hrelative, hparent⟩
  · rintro ⟨y, hreads⟩
    have hsame := hreads.target
    rw [haccepted.target] at hsame
    cases hsame
    exact ⟨⟨hreads.unescaped, htext ▸ hreads.relative⟩, hreads.parent⟩

theorem identity_fixed_point_sample :
    sampleResolver.canonicalize "notes/missing/../latest" = returns "secrets.txt" ∧
      sampleResolver.FixedPoint "secrets.txt" := by
  have hlink : sampleResolver.canonicalize "notes/missing/../latest" = returns "secrets.txt" := by
    decide +kernel
  have hreads : ∃ x, ReadsBack sampleResolver "notes/missing/../latest" x := by
    refine ⟨⟨["srv", "work", "secrets.txt"], []⟩, by decide +kernel, ?_, rfl, .inl rfl⟩
    decide +kernel
  exact ⟨hlink, (identity_fixed_point_iff sampleResolver hlink).mpr hreads⟩

def backslashTable : Table :=
  [([], .directory), (["work"], .directory), (["work", "a\\b"], .file 3),
    (["work", "link"], .symlink ⟨"", ["a\\b"]⟩), (["work", "notes.txt"], .file 4)]

theorem backslashTable_sound : TableSound backslashTable id :=
  .of_names (by decide +kernel) (by decide +kernel) (by decide +kernel) (by decide +kernel)

def backslashTree : FileTree := ofTable backslashTable id 4 backslashTable_sound

theorem backslashTree_root : backslashTree.stat (.parse "/work") = some ⟨["work"], ["work"]⟩ := by
  decide +kernel

def backslashResolver : FilesystemResourceIdentityResolver where
  tree := backslashTree
  casefold := id
  windowsAbsolute _ := false
  place := ⟨["work"], ["work"]⟩
  spells := stat_spells backslashTree_root
  directory := by decide +kernel

theorem identity_not_fixed :
    backslashResolver.canonicalize "link" = returns "a\\b" ∧
      backslashResolver.canonicalize "a\\b" =
        refuse "filesystem path must use unambiguous POSIX separators" ∧
      backslashResolver.canonicalize "notes.txt/x" = returns "notes.txt/x" ∧
      backslashResolver.resolveForExecution "notes.txt/x" = .raises .notADirectory ∧
      ¬ backslashResolver.FixedPoint "a\\b" ∧ ¬ backslashResolver.FixedPoint "notes.txt/x" := by
  have hlink : backslashResolver.canonicalize "link" = returns "a\\b" := by decide +kernel
  have hback : backslashResolver.canonicalize "a\\b" =
      refuse "filesystem path must use unambiguous POSIX separators" := by decide +kernel
  have hbelow : backslashResolver.canonicalize "notes.txt/x" = returns "notes.txt/x" := by
    decide +kernel
  have hraises : backslashResolver.resolveForExecution "notes.txt/x" = .raises .notADirectory := by
    decide +kernel
  refine ⟨hlink, hback, hbelow, hraises, fun hfixed => ?_, fun hfixed => ?_⟩
  · have hcanonical := hfixed.canonical
    rw [hback] at hcanonical
    cases hcanonical
  · rcases hfixed.execution with ⟨target, entry, hreturns, -⟩ | hfound
    · rw [hraises] at hreturns
      cases hreturns
    · rw [hraises] at hfound
      cases hfound

end FilesystemResourceIdentityResolver

end AgentSecurityPlatform
