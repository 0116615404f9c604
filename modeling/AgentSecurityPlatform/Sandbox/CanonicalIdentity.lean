import AgentSecurityPlatform.Sandbox.ResourceIdentity

namespace AgentSecurityPlatform

namespace Resolution

variable {α β : Type}

theorem bind_returns {x : Resolution α} {f : α → Resolution β} {b : β} :
    (x >>= f) = returns b ↔ ∃ a, x = returns a ∧ f a = returns b := by
  cases x with
  | returns value =>
    constructor
    · exact fun h => ⟨value, rfl, h⟩
    · rintro ⟨a, ha, h⟩
      cases ha
      exact h
  | raises error => exact ⟨nofun, nofun⟩
  | running => exact ⟨nofun, nofun⟩

theorem bind_ends {x : Resolution α} {f : α → Resolution β} (hx : x ≠ running)
    (hf : ∀ a, f a ≠ running) : (x >>= f) ≠ running := by
  cases x with
  | returns value => exact hf value
  | raises error => exact nofun
  | running => exact absurd rfl hx

theorem foldlM_ends {f : β → α → Resolution β} (hf : ∀ b a, f b a ≠ running) (xs : List α) (b : β) :
    xs.foldlM f b ≠ running := by
  induction xs generalizing b with
  | nil => exact nofun
  | cons x xs ih =>
    rw [List.foldlM_cons]
    exact bind_ends (hf b x) ih

end Resolution

open Resolution FileTree

namespace FilesystemResourceIdentityResolver

variable {r : FilesystemResourceIdentityResolver}

section Termination

theorem parent_length {path : PosixPath} (h : path.parent ≠ path) :
    path.parent.parts.length < path.parts.length := by
  obtain ⟨anchor, parts⟩ := path
  cases parts with
  | nil => exact absurd rfl h
  | cons part parts => simp [PosixPath.parent]

theorem ancestorsBelowRoot_ends (r : FilesystemResourceIdentityResolver) {iterations : Nat}
    {current : PosixPath} (h : current.parts.length < iterations) (ancestors : List PosixPath) :
    r.ancestorsBelowRoot iterations current ancestors ≠ running := by
  induction iterations generalizing current ancestors with
  | zero => omega
  | succ iterations ih =>
    simp only [ancestorsBelowRoot]
    split
    · exact nofun
    · exact nofun
    · split
      · exact nofun
      · rename_i hparent
        have hlt := parent_length hparent
        exact ih (by omega) _

theorem existingAncestor_ends (r : FilesystemResourceIdentityResolver) {iterations : Nat}
    {ancestor : PosixPath} (h : ancestor.parts.length < iterations) (missingSuffix : List String) :
    r.existingAncestor iterations ancestor missingSuffix ≠ running := by
  induction iterations generalizing ancestor missingSuffix with
  | zero => omega
  | succ iterations ih =>
    simp only [existingAncestor]
    split
    · exact nofun
    · split
      · exact nofun
      · rename_i hparent
        have hlt := parent_length hparent
        exact ih (by omega) _

theorem spellComponent_ends (current requested : PosixPath) :
    r.spellComponent current requested ≠ running := by
  simp only [spellComponent]
  split
  · exact nofun
  · split
    · exact nofun
    · split
      · exact nofun
      · exact nofun

theorem requireInside_ends (path : PosixPath) : r.requireInside path ≠ running := by
  simp only [requireInside]
  split
  · exact nofun
  · exact nofun

theorem resolveExisting_ends (path : PosixPath) : r.resolveExisting path ≠ running := by
  simp only [resolveExisting]
  split
  · exact nofun
  · exact bind_ends (r.ancestorsBelowRoot_ends (Nat.lt_succ_self _) [])
      (fun ancestors => foldlM_ends spellComponent_ends _ _)

theorem replayComponent_ends (current : PosixPath) (component : String) :
    r.replayComponent current component ≠ running := by
  simp only [replayComponent]
  split
  · exact nofun
  · split
    · exact requireInside_ends _
    · split
      · exact bind_ends (resolveExisting_ends _) requireInside_ends
      · exact requireInside_ends _

theorem relativeTarget_ends (path : String) : r.relativeTarget path ≠ running := by
  refine bind_ends ?_ (fun resolved => ?_)
  · simp only [resolveExistingOrMissing]
    split
    · exact resolveExisting_ends _
    · refine bind_ends (r.existingAncestor_ends (Nat.lt_succ_self _) []) (fun found => ?_)
      refine bind_ends (resolveExisting_ends _) (fun resolved => ?_)
      exact bind_ends (requireInside_ends _) (fun start => foldlM_ends replayComponent_ends _ _)
  · simp only [relativeTo]
    split
    · exact nofun
    · exact nofun

theorem canonicalize_ends (path : String) : r.canonicalize path ≠ running := by
  have hends := relativeTarget_ends (r := r) path
  simp only [canonicalize]
  split
  · exact nofun
  · split
    · exact nofun
    · split
      · exact nofun
      · split
        · exact nofun
        · split
          · rename_i hrun
            exact absurd hrun hends
          · exact nofun
          · exact nofun
          · exact nofun

end Termination

section Spelling

theorem stat_of_spells {spelled entry : List String} (h : r.tree.Spells spelled entry)
    (anchor : String) : r.tree.stat ⟨anchor, spelled⟩ = some ⟨spelled, entry⟩ :=
  h.walk

theorem stat_workspaceRoot : r.tree.stat r.workspaceRoot = some r.place :=
  r.spells.walk

theorem samefile_workspaceRoot {path : PosixPath} {p : Place} (hstat : r.tree.stat path = some p)
    (h : r.tree.samefile path r.workspaceRoot = some true) : p.entry = r.place.entry := by
  simp only [samefile, hstat, stat_workspaceRoot, Option.some.injEq, sameObject, r.directory] at h
  split at h
  · rename_i hkind
    exact of_decide_eq_true h
  · rename_i hkind
    cases hkind
  · cases h

theorem sameObject_self {t : FileTree} {entry : List String} (h : t.Settled entry) :
    t.sameObject entry entry = true := by
  obtain ⟨hsome, hlink⟩ := h
  obtain ⟨kind, hkind⟩ := Option.isSome_iff_exists.mp hsome
  simp only [isLink, hkind] at hlink
  cases kind with
  | directory => simp [sameObject, hkind]
  | file inode => simp [sameObject, hkind]
  | symlink target => simp at hlink

theorem spellComponent_spec {spelled below : List String} {part name : String} {q : PosixPath}
    (hspells : r.tree.Spells spelled (r.place.entry ++ below)) (hup : part ≠ "..")
    (hfind : r.tree.find (r.place.entry ++ below) part = some name)
    (hlink : r.tree.isLink (r.place.entry ++ below ++ [name]) = false)
    (h : r.spellComponent ⟨"/", r.place.spelled ++ below⟩ ⟨"/", spelled ++ [part]⟩ = returns q) :
    q = ⟨"/", r.place.spelled ++ below ++ [name]⟩ := by
  have hcurrent := r.spells.extend hspells.settled
  have hscan : r.tree.scandir ⟨"/", r.place.spelled ++ below⟩ =
      some (r.tree.names (r.place.entry ++ below)) := by
    simp only [scandir, stat_of_spells hcurrent, directory_of_find hfind, if_true]
  have hname : PosixPath.name ⟨"/", spelled ++ [part]⟩ = part := by simp [PosixPath.name]
  simp only [spellComponent, hscan, hname] at h
  split at h
  · rename_i hexact
    cases h
    have hself := r.tree.find_self _ _ hexact
    rw [hfind] at hself
    cases hself
    rfl
  · have hrequested := stat_of_spells (hspells.child hup hfind hlink) "/"
    have hentry : r.tree.Settled (r.place.entry ++ below ++ [name]) := ⟨kind_of_find hfind, hlink⟩
    have hchild := hcurrent.child (plain_of_kind hentry.1).not_up (find_of_kind hentry.1) hlink
    have hmatch : name ∈ (r.tree.names (r.place.entry ++ below)).filter (fun n =>
        r.tree.samefile ⟨"/", spelled ++ [part]⟩
          (PosixPath.child ⟨"/", r.place.spelled ++ below⟩ n) = some true) := by
      refine List.mem_filter.mpr ⟨r.tree.find_mem _ _ _ hfind, decide_eq_true ?_⟩
      simp only [samefile, PosixPath.child, hrequested, stat_of_spells hchild]
      rw [sameObject_self hentry]
    split at h
    · rename_i only hfilter
      rw [hfilter, List.mem_singleton] at hmatch
      cases h
      rw [hmatch]
      rfl
    · cases h

theorem ancestorsBelowRoot_spec {iterations : Nat} {spelled entry : List String}
    (hspells : r.tree.Spells spelled entry) {ancestors found : List PosixPath}
    (h : r.ancestorsBelowRoot iterations ⟨"/", spelled⟩ ancestors = returns found) :
    ∃ below chain, entry = r.place.entry ++ below ∧ found = ancestors ++ chain ∧
      ∀ q, chain.reverse.foldlM r.spellComponent r.workspaceRoot = returns q →
        q = ⟨"/", r.place.spelled ++ below⟩ := by
  induction iterations generalizing spelled entry ancestors with
  | zero => cases h
  | succ iterations ih =>
    simp only [ancestorsBelowRoot] at h
    split at h
    · cases h
    · rename_i hsame
      cases h
      refine ⟨[], [], ?_, by simp, ?_⟩
      · simpa using samefile_workspaceRoot (stat_of_spells hspells "/") hsame
      · intro q hq
        cases hq
        simp [workspaceRoot]
    · split at h
      · cases h
      · rename_i hparent
        cases hspells with
        | root => exact absurd rfl hparent
        | @child front way part name hfront hup hfind hlink =>
          have hstep : PosixPath.parent ⟨"/", front ++ [part]⟩ = ⟨"/", front⟩ := by
            simp [PosixPath.parent]
          rw [hstep] at h
          obtain ⟨below, chain, rfl, rfl, hchain⟩ := ih hfront h
          refine ⟨below ++ [name], ⟨"/", front ++ [part]⟩ :: chain, by simp, by simp, ?_⟩
          intro q hq
          rw [List.reverse_cons, List.foldlM_append] at hq
          obtain ⟨q', hq', hlast⟩ := bind_returns.mp hq
          rw [hchain q' hq', List.foldlM_cons] at hlast
          obtain ⟨q'', hspell, hdone⟩ := bind_returns.mp hlast
          cases hdone
          rw [← List.append_assoc]
          exact spellComponent_spec hfront hup hfind hlink hspell

theorem resolveExisting_spec {path q : PosixPath} (h : r.resolveExisting path = returns q) :
    ∃ p below, r.tree.stat path = some p ∧ p.entry = r.place.entry ++ below ∧
      q = ⟨"/", r.place.spelled ++ below⟩ := by
  simp only [resolveExisting, resolve] at h
  cases hstat : r.tree.stat path with
  | none => simp [hstat] at h
  | some p =>
    simp only [hstat, Option.map_some] at h
    obtain ⟨found, hfound, hspell⟩ := bind_returns.mp h
    obtain ⟨below, chain, hentry, rfl, hchain⟩ := ancestorsBelowRoot_spec (stat_spells hstat) hfound
    exact ⟨p, below, rfl, hentry, hchain q (by simpa using hspell)⟩

end Spelling

section Replay

-- the replayed path is the workspace root, entry names below it, and names that lead to nothing
structure Stands (r : FilesystemResourceIdentityResolver) (current : PosixPath) (x : Reached)
    (below : List String) : Prop where
  sound : r.tree.SoundAt x
  entry : x.entry = r.place.entry ++ below
  path : current = ⟨"/", r.place.spelled ++ below ++ x.missing⟩

variable {current q : PosixPath} {x : Reached} {below : List String} {part : String}

theorem Stands.walk_existing (h : Stands r current x below) :
    r.tree.walk .root (r.place.spelled ++ below) = some ⟨r.place.spelled ++ below, x.entry⟩ := by
  have hsettled := h.sound.settled
  rw [h.entry] at hsettled ⊢
  exact (r.spells.extend hsettled).walk

theorem walk_absent {p : Place} {names : List String} (h : r.tree.find p.entry part = none)
    (hup : part ≠ "..") : r.tree.walk p (part :: names) = none := by
  simp [walk, step, hup, h]

theorem Stands.walk_missing (h : Stands r current x below) (hne : x.missing ≠ [])
    (names : List String) : r.tree.walk .root (current.parts ++ names) = none := by
  obtain ⟨first, rest, hmissing⟩ := List.exists_cons_of_ne_nil hne
  have habsent := h.sound.absent first (by simp [hmissing])
  have hup := h.sound.names first (by simp [hmissing])
  rw [h.path, hmissing]
  simp only [List.append_assoc, List.cons_append]
  rw [← List.append_assoc, walk_append, h.walk_existing, Option.bind_some, walk_absent habsent hup]

theorem present_below_missing (h : r.tree.walk .root current.parts = none) :
    r.present (current.child part) = false := by
  have hstat : r.tree.stat (current.child part) = none := by
    simp only [stat, PosixPath.child]
    rw [walk_append, h, Option.bind_none]
  have hlink : r.tree.isSymlink (current.child part) = false := by
    simp [isSymlink, PosixPath.child, h]
  rw [present, pathExists, hstat, hlink]
  rfl

theorem Stands.not_present (h : Stands r current x below) (hne : x.missing ≠ []) :
    r.present (current.child part) = false := by
  have hdir : r.tree.walk .root current.parts = none := by simpa using h.walk_missing hne []
  exact present_below_missing hdir

theorem Stands.stat_child (h : Stands r current x below) (hempty : x.missing = []) :
    r.tree.stat (current.child part) =
      r.tree.step (r.tree.follow r.tree.linkDepth) ⟨r.place.spelled ++ below, x.entry⟩ part := by
  simp only [stat, PosixPath.child, h.path, hempty, List.append_nil]
  rw [walk_append, h.walk_existing, Option.bind_some, walk_singleton]

theorem Stands.present_of_find (h : Stands r current x below) (hempty : x.missing = [])
    (hup : part ≠ "..") {name : String} (hfind : r.tree.find x.entry part = some name) :
    r.present (current.child part) = true := by
  rw [present, Bool.or_eq_true]
  cases hlink : r.tree.isLink (x.entry ++ [name]) with
  | false =>
    left
    rw [pathExists, h.stat_child hempty, step_of_find hup hfind hlink]
    rfl
  | true =>
    right
    have hdir : current.parts = r.place.spelled ++ below := by
      rw [h.path, hempty, List.append_nil]
    simp [isSymlink, PosixPath.child, hup, hdir, h.walk_existing, hfind, hlink]

theorem requireInside_spec {path : PosixPath} (h : r.requireInside path = returns q) :
    q = path ∧ path.isRelativeTo r.workspaceRoot = true := by
  simp only [requireInside] at h
  split at h
  · rename_i hinside
    cases h
    exact ⟨rfl, hinside⟩
  · cases h

theorem spelled_nil_of_parent (h : PosixPath.isRelativeTo ⟨"/", r.place.spelled.dropLast⟩
    r.workspaceRoot = true) : r.place.spelled = [] := by
  simp only [PosixPath.isRelativeTo, workspaceRoot, decide_true, Bool.true_and,
    List.isPrefixOf_iff_prefix] at h
  have hlength := h.length_le
  rw [List.length_dropLast] at hlength
  by_contra hne
  have hpos := List.length_pos_of_ne_nil hne
  omega

theorem entry_nil_of_spelled {t : FileTree} {entry : List String} (h : t.Spells [] entry) :
    entry = [] := by
  generalize hs : ([] : List String) = spelled at h
  cases h with
  | root => rfl
  | child _ _ _ _ => simp at hs

theorem replay_parent (h : Stands r current x below)
    (hq : r.requireInside current.parent = returns q) :
    ∃ x' below', r.tree.reachStep x ".." = some x' ∧ Stands r q x' below' := by
  obtain ⟨rfl, hinside⟩ := requireInside_spec hq
  have hsound (x' : Reached) (hstep : r.tree.reachStep x ".." = some x') : r.tree.SoundAt x' :=
    reachStep_sound h.sound hstep
  by_cases hempty : x.missing = []
  · have hstep : r.tree.reachStep x ".." = some ⟨x.entry.dropLast, []⟩ := by
      simp [reachStep, hempty]
    rcases List.eq_nil_or_concat below with rfl | ⟨front, name, rfl⟩
    · have hnil : r.place.spelled = [] := by
        apply spelled_nil_of_parent
        simpa [h.path, hempty, PosixPath.parent] using hinside
      have hroot : r.place.entry = [] := by
        have hspells := r.spells
        rw [hnil] at hspells
        exact entry_nil_of_spelled hspells
      refine ⟨_, [], hstep, hsound _ hstep, ?_, ?_⟩
      · simp [h.entry, hroot]
      · simp [h.path, hempty, PosixPath.parent, hnil]
    · refine ⟨_, front, hstep, hsound _ hstep, ?_, ?_⟩
      · simp [h.entry, ← List.append_assoc]
      · simp [h.path, hempty, PosixPath.parent, ← List.append_assoc]
  · have hstep : r.tree.reachStep x ".." = some ⟨x.entry, x.missing.dropLast⟩ := by
      simp [reachStep, hempty]
    refine ⟨_, below, hstep, hsound _ hstep, h.entry, ?_⟩
    simp only [h.path, PosixPath.parent]
    rw [List.dropLast_append_of_ne_nil hempty]

theorem replay_name (h : Stands r current x below) (hup : part ≠ "..")
    (hq : (if r.present (current.child part) then do
        let resolved ← r.resolveExisting (current.child part)
        r.requireInside resolved
      else r.requireInside (current.child part)) = returns q) :
    ∃ x' below', r.tree.reachStep x part = some x' ∧ Stands r q x' below' := by
  have hsound (x' : Reached) (hstep : r.tree.reachStep x part = some x') : r.tree.SoundAt x' :=
    reachStep_sound h.sound hstep
  by_cases hempty : x.missing = []
  · split at hq
    · obtain ⟨resolved, hresolved, hinside⟩ := bind_returns.mp hq
      obtain ⟨rfl, -⟩ := requireInside_spec hinside
      obtain ⟨p, below', hstat, hentry, hpath⟩ := resolveExisting_spec hresolved
      rw [h.stat_child hempty] at hstat
      have hstep := reachStep_of_step hstat
      have hx : (⟨x.entry, []⟩ : Reached) = x := by rw [← hempty]
      simp only [hx] at hstep
      exact ⟨_, below', hstep, hsound _ hstep, hentry, by simpa using hpath⟩
    · rename_i habsent
      obtain ⟨rfl, -⟩ := requireInside_spec hq
      have hfind : r.tree.find x.entry part = none := by
        cases hfind : r.tree.find x.entry part with
        | none => rfl
        | some name => exact absurd (h.present_of_find hempty hup hfind) habsent
      have hstep : r.tree.reachStep x part = some ⟨x.entry, [part]⟩ := by
        simp [reachStep, hup, hempty, hfind]
      refine ⟨_, below, hstep, hsound _ hstep, h.entry, ?_⟩
      simp [h.path, hempty, PosixPath.child]
  · have hstep : r.tree.reachStep x part = some ⟨x.entry, x.missing ++ [part]⟩ := by
      simp [reachStep, hup, hempty]
    rw [h.not_present hempty] at hq
    obtain ⟨rfl, -⟩ := requireInside_spec hq
    refine ⟨_, below, hstep, hsound _ hstep, h.entry, ?_⟩
    simp [h.path, PosixPath.child]

theorem replayComponent_spec (h : Stands r current x below) (hpart : part ≠ "" ∧ part ≠ ".")
    (hq : r.replayComponent current part = returns q) :
    ∃ x' below', r.tree.reachStep x part = some x' ∧ Stands r q x' below' := by
  simp only [replayComponent] at hq
  rw [if_neg (by simp [hpart])] at hq
  split at hq
  · rename_i hup
    rw [hup]
    exact replay_parent h hq
  · rename_i hup
    exact replay_name h hup hq

theorem replay_spec {suffix : List String} (h : Stands r current x below)
    (hparts : ∀ part ∈ suffix, part ≠ "" ∧ part ≠ ".")
    (hq : suffix.foldlM r.replayComponent current = returns q) :
    ∃ x' below', r.tree.reach x suffix = some x' ∧ Stands r q x' below' := by
  induction suffix generalizing current x below with
  | nil =>
    cases hq
    exact ⟨x, below, rfl, h⟩
  | cons part suffix ih =>
    rw [List.foldlM_cons] at hq
    obtain ⟨current', hcurrent, hrest⟩ := bind_returns.mp hq
    obtain ⟨x', below', hstep, hstands⟩ := replayComponent_spec h (hparts part (by simp)) hcurrent
    obtain ⟨x'', below'', hreach, hfinal⟩ := ih hstands (fun y hy => hparts y (by simp [hy])) hrest
    refine ⟨x'', below'', ?_, hfinal⟩
    rw [reach, List.foldlM_cons, hstep]
    exact hreach

theorem stands_of_stat {path : PosixPath} {p : Place} (hstat : r.tree.stat path = some p)
    (hentry : p.entry = r.place.entry ++ below) :
    Stands r ⟨"/", r.place.spelled ++ below⟩ ⟨p.entry, []⟩ below := by
  refine ⟨⟨(stat_spells hstat).settled, by simp, by simp⟩, hentry, by simp⟩

theorem reach_of_stat {path : PosixPath} {p : Place} (h : r.tree.stat path = some p) :
    r.tree.reach ⟨[], []⟩ path.parts = some ⟨p.entry, []⟩ :=
  reach_of_walk (p := .root) h

theorem existingAncestor_spec {iterations : Nat} {ancestor : PosixPath}
    {missing suffix : List String}
    (h : r.existingAncestor iterations ancestor missing = returns (q, suffix)) :
    q.parts ++ suffix = ancestor.parts ++ missing := by
  induction iterations generalizing ancestor missing with
  | zero => cases h
  | succ iterations ih =>
    simp only [existingAncestor] at h
    split at h
    · cases h
      rfl
    · split at h
      · cases h
      · rename_i hparent
        rw [ih h]
        obtain ⟨anchor, parts⟩ := ancestor
        rcases List.eq_nil_or_concat parts with rfl | ⟨front, last, rfl⟩
        · exact absurd rfl hparent
        · simp [PosixPath.parent, PosixPath.name]

theorem resolveExistingOrMissing_spec {candidate : PosixPath}
    (hparts : ∀ part ∈ candidate.parts, part ≠ "" ∧ part ≠ ".")
    (h : r.resolveExistingOrMissing candidate = returns q) :
    ∃ x below, r.tree.reach ⟨[], []⟩ candidate.parts = some x ∧ Stands r q x below := by
  simp only [resolveExistingOrMissing] at h
  split at h
  · obtain ⟨p, below, hstat, hentry, rfl⟩ := resolveExisting_spec h
    exact ⟨_, below, reach_of_stat hstat, stands_of_stat hstat hentry⟩
  · obtain ⟨⟨ancestor, suffix⟩, hfound, hrest⟩ := bind_returns.mp h
    obtain ⟨resolved, hresolved, hrest⟩ := bind_returns.mp hrest
    obtain ⟨start, hstart, hreplay⟩ := bind_returns.mp hrest
    obtain ⟨rfl, -⟩ := requireInside_spec hstart
    obtain ⟨p, below, hstat, hentry, rfl⟩ := resolveExisting_spec hresolved
    have hsplit : ancestor.parts ++ suffix = candidate.parts := by
      simpa using existingAncestor_spec hfound
    have hsuffix : ∀ part ∈ suffix, part ≠ "" ∧ part ≠ "." := by
      intro part hpart
      exact hparts part (by simp [← hsplit, hpart])
    obtain ⟨x, below', hreach, hstands⟩ := replay_spec (stands_of_stat hstat hentry) hsuffix hreplay
    refine ⟨x, below', ?_, hstands⟩
    have hprefix : r.tree.reach ⟨[], []⟩ ancestor.parts = some ⟨p.entry, []⟩ := reach_of_stat hstat
    rw [← hsplit, reach_append, hprefix]
    exact hreach

end Replay

end FilesystemResourceIdentityResolver

end AgentSecurityPlatform
