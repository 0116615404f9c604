import AgentSecurityPlatform.Library.PosixPath

inductive LookupError where
  | notFound
  | notADirectory
  | loop
  deriving DecidableEq, Repr

inductive NodeKind where
  | directory
  | file (inode : Nat)
  | symlink (target : PosixPath)
  deriving DecidableEq, Repr

-- an entry is named by the entry names on its way from the root; find is what a lookup selects
structure FileTree where
  kind : List String → Option NodeKind
  names : List String → List String
  find : List String → String → Option String
  linkDepth : Nat
  root_directory : kind [] = some .directory
  parent_directory : ∀ dir name, (kind (dir ++ [name])).isSome = true → kind dir = some .directory
  mem_names : ∀ dir name, name ∈ names dir ↔ (kind (dir ++ [name])).isSome = true
  find_mem : ∀ dir text name, find dir text = some name → name ∈ names dir
  find_self : ∀ dir name, name ∈ names dir → find dir name = some name
  plain : ∀ dir text name, find dir text = some name → PlainName text
  no_null : ∀ dir text name, find dir text = some name → '\x00' ∉ text.toList

-- a location without links: the names that were asked for, and the entries they selected
structure Place where
  spelled : List String
  entry : List String
  deriving DecidableEq, Repr

namespace Place

def root : Place := ⟨[], []⟩

def parent (p : Place) : Place := ⟨p.spelled.dropLast, p.entry.dropLast⟩

def linkStart (p : Place) (target : PosixPath) : Place := if target.isAbsolute then root else p

theorem linkStart_entry {p q : Place} (h : p.entry = q.entry) (target : PosixPath) :
    (p.linkStart target).entry = (q.linkStart target).entry := by
  simp only [linkStart]
  split
  · rfl
  · exact h

end Place

-- an existing entry, and names below it that lead to nothing
structure Reached where
  entry : List String
  missing : List String
  deriving DecidableEq, Repr

namespace FileTree

variable {t : FileTree} {p q : Place} {f : Place → List String → Option Place}

def step (t : FileTree) (follow : Place → List String → Option Place) (p : Place) (part : String) :
    Option Place :=
  if part = ".." then
    if t.kind p.entry = some .directory then some p.parent else none
  else
    match t.find p.entry part with
    | none => none
    | some name =>
      match t.kind (p.entry ++ [name]) with
      | some (.symlink target) => follow (p.linkStart target) target.parts
      | _ => some ⟨p.spelled ++ [part], p.entry ++ [name]⟩

-- links nested deeper than the bound are a loop
def follow (t : FileTree) : Nat → Place → List String → Option Place
  | 0, _, _ => none
  | depth + 1, p, parts => parts.foldlM (t.step (t.follow depth)) p

def walk (t : FileTree) (p : Place) (parts : List String) : Option Place :=
  parts.foldlM (t.step (t.follow t.linkDepth)) p

def reachStep (t : FileTree) (r : Reached) (part : String) : Option Reached :=
  if part = ".." then
    if r.missing = [] then some ⟨r.entry.dropLast, []⟩ else some ⟨r.entry, r.missing.dropLast⟩
  else if r.missing ≠ [] then some ⟨r.entry, r.missing ++ [part]⟩
  else
    match t.find r.entry part with
    | none => some ⟨r.entry, [part]⟩
    | some name =>
      match t.kind (r.entry ++ [name]) with
      | some (.symlink target) =>
        (t.follow t.linkDepth (Place.linkStart ⟨[], r.entry⟩ target) target.parts).map
          (⟨·.entry, []⟩)
      | _ => some ⟨r.entry ++ [name], []⟩

-- where a path leads when names that select nothing are kept, and a parent segment takes one back
def reach (t : FileTree) (r : Reached) (parts : List String) : Option Reached :=
  parts.foldlM t.reachStep r

def stat (t : FileTree) (path : PosixPath) : Option Place := t.walk .root path.parts

def pathExists (t : FileTree) (path : PosixPath) : Bool := (t.stat path).isSome

def isLink (t : FileTree) (entry : List String) : Bool :=
  match t.kind entry with
  | some (.symlink _) => true
  | _ => false

def isSymlink (t : FileTree) (path : PosixPath) : Bool :=
  match path.parts.getLast? with
  | none => false
  | some last =>
    last ≠ ".." && (t.walk .root path.parts.dropLast).any (fun dir =>
      (t.find dir.entry last).any (fun name => t.isLink (dir.entry ++ [name])))

def resolve (t : FileTree) (path : PosixPath) : Option PosixPath :=
  (t.stat path).map (fun p => ⟨"/", p.spelled⟩)

def stepFailure (t : FileTree) (inside : Place → List String → LookupError) (p : Place)
    (part : String) : LookupError :=
  if t.kind p.entry ≠ some .directory then .notADirectory
  else
    match t.find p.entry part with
    | none => .notFound
    | some name =>
      match t.kind (p.entry ++ [name]) with
      | some (.symlink target) => inside (p.linkStart target) target.parts
      | _ => .notFound

def failureIn (t : FileTree) (follow : Place → List String → Option Place)
    (inside : Place → List String → LookupError) : Place → List String → LookupError
  | _, [] => .loop
  | p, part :: rest =>
    match t.step follow p part with
    | some q => failureIn t follow inside q rest
    | none => t.stepFailure inside p part

def followFailure (t : FileTree) : Nat → Place → List String → LookupError
  | 0, _, _ => .loop
  | depth + 1, p, parts => t.failureIn (t.follow depth) (t.followFailure depth) p parts

-- what a strict resolution of a path that does not resolve raises
def resolveFailure (t : FileTree) (path : PosixPath) : LookupError :=
  t.failureIn (t.follow t.linkDepth) (t.followFailure t.linkDepth) .root path.parts

def sameObject (t : FileTree) (entry entry' : List String) : Bool :=
  match t.kind entry, t.kind entry' with
  | some .directory, some .directory => entry = entry'
  | some (.file inode), some (.file inode') => inode = inode'
  | _, _ => false

def samefile (t : FileTree) (path path' : PosixPath) : Option Bool :=
  match t.stat path, t.stat path' with
  | some p, some p' => some (t.sameObject p.entry p'.entry)
  | _, _ => none

def scandir (t : FileTree) (path : PosixPath) : Option (List String) :=
  match t.stat path with
  | none => none
  | some p => if t.kind p.entry = some .directory then some (t.names p.entry) else none

section Entries

theorem kind_of_find {dir : List String} {text name : String} (h : t.find dir text = some name) :
    (t.kind (dir ++ [name])).isSome = true :=
  (t.mem_names dir name).mp (t.find_mem dir text name h)

theorem directory_of_find {dir : List String} {text name : String}
    (h : t.find dir text = some name) :
    t.kind dir = some .directory :=
  t.parent_directory dir name (kind_of_find h)

-- an entry that is there and is no link
def Settled (t : FileTree) (entry : List String) : Prop :=
  (t.kind entry).isSome = true ∧ t.isLink entry = false

theorem settled_directory {entry : List String} (h : t.kind entry = some .directory) :
    t.Settled entry := by
  simp [Settled, isLink, h]

theorem settled_of_directory_below {entry : List String} {name : String}
    (h : (t.kind (entry ++ [name])).isSome = true) : t.Settled entry :=
  settled_directory (t.parent_directory entry name h)

theorem settled_dropLast {entry : List String} (h : t.Settled entry) :
    t.Settled entry.dropLast := by
  rcases List.eq_nil_or_concat entry with rfl | ⟨front, name, rfl⟩
  · exact h
  · rw [List.concat_eq_append, List.dropLast_concat]
    rw [List.concat_eq_append] at h
    exact settled_of_directory_below h.1

end Entries

section Walking

theorem walk_append (t : FileTree) (p : Place) (xs ys : List String) :
    t.walk p (xs ++ ys) = (t.walk p xs).bind (fun q => t.walk q ys) :=
  List.foldlM_append

theorem walk_singleton (t : FileTree) (p : Place) (part : String) :
    t.walk p [part] = t.step (t.follow t.linkDepth) p part := by
  simp [walk]

-- what is selected does not depend on how the way there was spelled
def EntryDetermined (f : Place → List String → Option Place) : Prop :=
  ∀ p q parts, p.entry = q.entry → (f p parts).map Place.entry = (f q parts).map Place.entry

theorem step_entry (hf : EntryDetermined f) (hpq : p.entry = q.entry) (part : String) :
    (t.step f p part).map Place.entry = (t.step f q part).map Place.entry := by
  simp only [step, hpq]
  by_cases hup : part = ".."
  · rw [if_pos hup, if_pos hup]
    split
    · simp [Place.parent, hpq]
    · rfl
  · rw [if_neg hup, if_neg hup]
    split
    · rfl
    · split
      · rename_i target _
        exact hf _ _ _ (Place.linkStart_entry hpq target)
      · rfl

theorem foldlM_step_entry (hf : EntryDetermined f) :
    EntryDetermined (fun p parts => parts.foldlM (t.step f) p) := by
  intro p q parts hpq
  induction parts generalizing p q with
  | nil => exact congrArg some hpq
  | cons part parts ih =>
    have hstep : (t.step f p part).map Place.entry = (t.step f q part).map Place.entry :=
      step_entry hf hpq part
    simp only [List.foldlM_cons, Option.bind_eq_bind]
    cases hp : t.step f p part with
    | none =>
      rw [hp, Option.map_none, eq_comm, Option.map_eq_none_iff] at hstep
      rw [hstep]
    | some p' =>
      rw [hp, Option.map_some, eq_comm, Option.map_eq_some_iff] at hstep
      obtain ⟨q', hq, hentry⟩ := hstep
      rw [hq]
      exact ih p' q' hentry.symm

theorem follow_entry (t : FileTree) (depth : Nat) : EntryDetermined (t.follow depth) := by
  induction depth with
  | zero => exact fun _ _ _ _ => rfl
  | succ depth ih => exact foldlM_step_entry ih

end Walking

section Spelling

inductive Spells (t : FileTree) : List String → List String → Prop where
  | root : Spells t [] []
  | child {spelled entry : List String} {part name : String} (h : Spells t spelled entry)
      (hup : part ≠ "..") (hfind : t.find entry part = some name)
      (hlink : t.isLink (entry ++ [name]) = false) : Spells t (spelled ++ [part]) (entry ++ [name])

theorem Spells.settled {spelled entry : List String} (h : t.Spells spelled entry) :
    t.Settled entry := by
  cases h with
  | root => exact settled_directory t.root_directory
  | child _ _ hfind hlink => exact ⟨kind_of_find hfind, hlink⟩

theorem Spells.dropLast {spelled entry : List String} (h : t.Spells spelled entry) :
    t.Spells spelled.dropLast entry.dropLast := by
  cases h with
  | root => exact .root
  | child h _ _ _ => simpa using h

theorem Spells.plain {spelled entry : List String} (h : t.Spells spelled entry) :
    ∀ part ∈ spelled, PlainName part := by
  induction h with
  | root => simp
  | child _ _ hfind _ ih =>
    intro part hpart
    rcases List.mem_append.mp hpart with hpart | hpart
    · exact ih part hpart
    · rw [List.mem_singleton.mp hpart]
      exact t.plain _ _ _ hfind

theorem Spells.no_null {spelled entry : List String} (h : t.Spells spelled entry) :
    ∀ part ∈ spelled, '\x00' ∉ part.toList := by
  induction h with
  | root => simp
  | child _ _ hfind _ ih =>
    intro part hpart
    rcases List.mem_append.mp hpart with hpart | hpart
    · exact ih part hpart
    · rw [List.mem_singleton.mp hpart]
      exact t.no_null _ _ _ hfind

theorem step_of_find {part name : String} (hup : part ≠ "..")
    (hfind : t.find p.entry part = some name) (hlink : t.isLink (p.entry ++ [name]) = false) :
    t.step f p part = some ⟨p.spelled ++ [part], p.entry ++ [name]⟩ := by
  simp only [step, if_neg hup, hfind]
  split
  · rename_i target hkind
    simp [isLink, hkind] at hlink
  · rfl

theorem Spells.walk {spelled entry : List String} (h : t.Spells spelled entry) :
    t.walk .root spelled = some ⟨spelled, entry⟩ := by
  induction h with
  | root => rfl
  | child _ hup hfind hlink ih =>
    rw [walk_append, ih, Option.bind_some, walk_singleton, step_of_find hup hfind hlink]

theorem step_spells (hf : ∀ p parts q, t.Spells p.spelled p.entry → f p parts = some q →
      t.Spells q.spelled q.entry)
    (hp : t.Spells p.spelled p.entry) {part : String} (h : t.step f p part = some q) :
    t.Spells q.spelled q.entry := by
  simp only [step] at h
  split at h
  · split at h
    · cases h
      exact hp.dropLast
    · cases h
  · rename_i hup
    split at h
    · cases h
    · rename_i name hfind
      split at h
      · rename_i target _
        refine hf _ _ _ ?_ h
        simp only [Place.linkStart]
        split
        · exact .root
        · exact hp
      · cases h
        refine .child hp hup hfind ?_
        simp only [isLink]

theorem foldlM_step_spells (hf : ∀ p parts q, t.Spells p.spelled p.entry → f p parts = some q →
      t.Spells q.spelled q.entry) (p : Place) (parts : List String) (q : Place)
    (hp : t.Spells p.spelled p.entry) (h : parts.foldlM (t.step f) p = some q) :
    t.Spells q.spelled q.entry := by
  induction parts generalizing p with
  | nil =>
    cases h
    exact hp
  | cons part parts ih =>
    rw [List.foldlM_cons] at h
    obtain ⟨p', hstep, hrest⟩ := Option.bind_eq_some_iff.mp h
    exact ih p' (step_spells hf hp hstep) hrest

theorem follow_spells (t : FileTree) (depth : Nat) (p : Place) (parts : List String) (q : Place)
    (hp : t.Spells p.spelled p.entry) (h : t.follow depth p parts = some q) :
    t.Spells q.spelled q.entry := by
  induction depth generalizing p parts q with
  | zero => cases h
  | succ depth ih =>
    exact foldlM_step_spells (fun p parts q hp h => ih p parts q hp h) p parts q hp h

theorem walk_spells {parts : List String} (hp : t.Spells p.spelled p.entry)
    (h : t.walk p parts = some q) : t.Spells q.spelled q.entry :=
  foldlM_step_spells (t.follow_spells t.linkDepth) p parts q hp h

theorem stat_spells {path : PosixPath} (h : t.stat path = some p) : t.Spells p.spelled p.entry :=
  walk_spells .root h

theorem find_of_kind {entry : List String} {name : String}
    (h : (t.kind (entry ++ [name])).isSome = true) : t.find entry name = some name :=
  t.find_self entry name ((t.mem_names entry name).mpr h)

theorem plain_of_kind {entry : List String} {name : String}
    (h : (t.kind (entry ++ [name])).isSome = true) : PlainName name :=
  t.plain entry name name (find_of_kind h)

-- an entry's own names spell it
theorem Spells.extend {spelled entry : List String} (h : t.Spells spelled entry)
    {below : List String} (hbelow : t.Settled (entry ++ below)) :
    t.Spells (spelled ++ below) (entry ++ below) := by
  induction below using List.reverseRecOn with
  | nil => simpa using h
  | append_singleton below name ih =>
    rw [← List.append_assoc] at hbelow ⊢
    rw [← List.append_assoc]
    exact .child (ih (settled_of_directory_below hbelow.1)) (plain_of_kind hbelow.1).not_up
      (find_of_kind hbelow.1) hbelow.2

theorem plain_below {entry below : List String} (h : (t.kind (entry ++ below)).isSome = true) :
    ∀ name ∈ below, PlainName name := by
  induction below using List.reverseRecOn with
  | nil => simp
  | append_singleton below name ih =>
    rw [← List.append_assoc] at h
    intro x hx
    rcases List.mem_append.mp hx with hx | hx
    · exact ih (by rw [t.parent_directory _ _ h]; rfl) x hx
    · rw [List.mem_singleton.mp hx]
      exact plain_of_kind h

end Spelling

theorem failureIn_append {inside : Place → List String → LookupError} {parts rest : List String}
    (h : parts.foldlM (t.step f) p = some q) :
    t.failureIn f inside p (parts ++ rest) = t.failureIn f inside q rest := by
  induction parts generalizing p with
  | nil =>
    cases h
    rfl
  | cons part parts ih =>
    rw [List.foldlM_cons] at h
    obtain ⟨p', hstep, hrest⟩ := Option.bind_eq_some_iff.mp h
    rw [List.cons_append, failureIn, hstep]
    exact ih hrest

section Reaching

theorem reach_append (t : FileTree) (r : Reached) (xs ys : List String) :
    t.reach r (xs ++ ys) = (t.reach r xs).bind (fun r' => t.reach r' ys) :=
  List.foldlM_append

theorem reachStep_of_step {part : String} (h : t.step (t.follow t.linkDepth) p part = some q) :
    t.reachStep ⟨p.entry, []⟩ part = some ⟨q.entry, []⟩ := by
  simp only [step] at h
  simp only [reachStep]
  split at h
  · rename_i hup
    rw [if_pos hup]
    split at h
    · cases h
      rfl
    · cases h
  · rename_i hup
    rw [if_neg hup]
    simp only [ne_eq, not_true_eq_false, if_false]
    split at h
    · cases h
    · rename_i name hfind
      split at h
      · rename_i target hkind
        have hentry := follow_entry t t.linkDepth (Place.linkStart ⟨[], p.entry⟩ target)
          (p.linkStart target) target.parts
            (Place.linkStart_entry (p := ⟨[], p.entry⟩) (q := p) rfl target)
        rw [h, Option.map_some, Option.map_eq_some_iff] at hentry
        obtain ⟨q', hq, heq⟩ := hentry
        simp only [hq, Option.map_some, heq]
      · cases h
        rfl

theorem reach_of_walk {parts : List String} (h : t.walk p parts = some q) :
    t.reach ⟨p.entry, []⟩ parts = some ⟨q.entry, []⟩ := by
  induction parts generalizing p with
  | nil =>
    cases h
    rfl
  | cons part parts ih =>
    rw [walk, List.foldlM_cons] at h
    obtain ⟨p', hstep, hrest⟩ := Option.bind_eq_some_iff.mp h
    rw [reach, List.foldlM_cons, reachStep_of_step hstep]
    exact ih hrest

-- the entry is there, and the first missing name selects nothing in it
structure SoundAt (t : FileTree) (r : Reached) : Prop where
  settled : t.Settled r.entry
  absent : ∀ part ∈ r.missing.head?, t.find r.entry part = none
  names : ∀ part ∈ r.missing, part ≠ ".."

theorem head?_dropLast {xs : List String} {x : String} (h : x ∈ xs.dropLast.head?) :
    x ∈ xs.head? := by
  cases xs with
  | nil => exact h
  | cons y ys =>
    cases ys with
    | nil => simp at h
    | cons z zs => simpa using h

theorem Spells.of_settled {entry : List String} (h : t.Settled entry) : t.Spells entry entry := by
  have hbelow : t.Settled ([] ++ entry) := h
  exact Spells.root.extend hbelow

theorem reachStep_sound {r r' : Reached} (hr : t.SoundAt r) {part : String}
    (h : t.reachStep r part = some r') : t.SoundAt r' := by
  simp only [reachStep] at h
  split at h
  · split at h
    · cases h
      exact ⟨settled_dropLast hr.settled, by simp, by simp⟩
    · cases h
      exact ⟨hr.settled, fun x hx => hr.absent x (head?_dropLast hx),
        fun x hx => hr.names x (List.dropLast_subset _ hx)⟩
  · rename_i hup
    split at h
    · rename_i hmissing
      cases h
      refine ⟨hr.settled, fun x hx => hr.absent x ?_, fun x hx => ?_⟩
      · rw [List.head?_append_of_ne_nil _ hmissing] at hx
        exact hx
      · rcases List.mem_append.mp hx with hx | hx
        · exact hr.names x hx
        · rw [List.mem_singleton.mp hx]
          exact hup
    · split at h
      · rename_i hfind
        cases h
        refine ⟨hr.settled, fun x hx => ?_, fun x hx => ?_⟩
        · obtain rfl : part = x := by simpa using hx
          exact hfind
        · rw [List.mem_singleton.mp hx]
          exact hup
      · rename_i name hfind
        split at h
        · rename_i target hkind
          obtain ⟨p, hp, heq⟩ := Option.map_eq_some_iff.mp h
          cases heq
          refine ⟨?_, by simp, by simp⟩
          have hentry := follow_entry t t.linkDepth (Place.linkStart ⟨[], r.entry⟩ target)
            (Place.linkStart ⟨r.entry, r.entry⟩ target) target.parts
            (Place.linkStart_entry (p := ⟨[], r.entry⟩) (q := ⟨r.entry, r.entry⟩) rfl target)
          rw [hp, Option.map_some, eq_comm, Option.map_eq_some_iff] at hentry
          obtain ⟨q, hq, heq⟩ := hentry
          have hstart : t.Spells (Place.linkStart ⟨r.entry, r.entry⟩ target).spelled
              (Place.linkStart ⟨r.entry, r.entry⟩ target).entry := by
            simp only [Place.linkStart]
            split
            · exact .root
            · exact .of_settled hr.settled
          rw [← heq]
          exact (follow_spells t t.linkDepth _ _ q hstart hq).settled
        · rename_i hlink
          cases h
          refine ⟨⟨kind_of_find hfind, ?_⟩, by simp, by simp⟩
          simp only [isLink]

theorem reachStep_missing {r r' : Reached} {part : String} (h : t.reachStep r part = some r') :
    ∀ x ∈ r'.missing, x ∈ r.missing ∨ x = part := by
  intro x hx
  simp only [reachStep] at h
  split at h
  · split at h
    · cases h
      cases hx
    · cases h
      exact .inl (List.dropLast_subset _ hx)
  · split at h
    · cases h
      simpa using hx
    · split at h
      · cases h
        exact .inr (by simpa using hx)
      · split at h
        · obtain ⟨p, -, heq⟩ := Option.map_eq_some_iff.mp h
          cases heq
          cases hx
        · cases h
          cases hx

theorem reach_missing {r r' : Reached} {parts : List String} (h : t.reach r parts = some r') :
    ∀ x ∈ r'.missing, x ∈ r.missing ∨ x ∈ parts := by
  induction parts generalizing r with
  | nil =>
    cases h
    exact fun x hx => .inl hx
  | cons part parts ih =>
    rw [reach, List.foldlM_cons] at h
    obtain ⟨y, hstep, hrest⟩ := Option.bind_eq_some_iff.mp h
    intro x hx
    rcases ih hrest x hx with hmem | hmem
    · rcases reachStep_missing hstep x hmem with hmem | rfl
      · exact .inl hmem
      · exact .inr (by simp)
    · exact .inr (by simp [hmem])

theorem reach_names {entry missing names : List String} (hne : missing ≠ [])
    (hnames : ∀ x ∈ names, x ≠ "..") :
    t.reach ⟨entry, missing⟩ names = some ⟨entry, missing ++ names⟩ := by
  induction names generalizing missing with
  | nil => simp [reach]
  | cons x xs ih =>
    have hstep : t.reachStep ⟨entry, missing⟩ x = some ⟨entry, missing ++ [x]⟩ := by
      simp only [reachStep, if_neg (hnames x (by simp)), if_pos hne]
    have hrest := ih (List.append_ne_nil_of_right_ne_nil missing (List.cons_ne_nil x []))
      (fun y hy => hnames y (by simp [hy]))
    rw [List.append_assoc] at hrest
    rw [reach, List.foldlM_cons, hstep]
    exact hrest

-- a missing path is reached again by its own spelling
theorem SoundAt.reach_self {r : Reached} (hr : t.SoundAt r) :
    t.reach ⟨r.entry, []⟩ r.missing = some r := by
  obtain ⟨entry, missing⟩ := r
  cases missing with
  | nil => rfl
  | cons x xs =>
    have hstep : t.reachStep ⟨entry, []⟩ x = some ⟨entry, [x]⟩ := by
      simp only [reachStep, if_neg (hr.names x (by simp)), hr.absent x (by simp)]
      rfl
    rw [reach, List.foldlM_cons, hstep]
    exact reach_names (by simp) (fun y hy => hr.names y (by simp [hy]))

end Reaching

section Tables

abbrev Table := List (List String × NodeKind)

def tableNames (table : Table) (dir : List String) : List String :=
  table.filterMap (fun row => if row.1.dropLast = dir then row.1.getLast? else none)

theorem mem_tableNames {table : Table} {dir : List String} {name : String} :
    name ∈ tableNames table dir ↔ ∃ row ∈ table, row.1 = dir ++ [name] := by
  rw [tableNames, List.mem_filterMap]
  refine exists_congr (fun row => and_congr_right (fun _ => ?_))
  constructor
  · intro h
    split at h
    · rename_i hdir
      obtain ⟨front, hfront⟩ := List.getLast?_eq_some_iff.mp h
      rw [hfront, List.dropLast_concat] at hdir
      rw [hfront, hdir]
    · cases h
  · intro h
    simp [h]

theorem lookup_isSome {table : Table} {path : List String} :
    (table.lookup path).isSome = true ↔ ∃ row ∈ table, row.1 = path := by
  induction table with
  | nil => simp
  | cons row table ih =>
    obtain ⟨first, kind⟩ := row
    by_cases h : path = first
    · simp [h]
    · have hne : ¬ first = path := fun heq => h heq.symm
      have hbeq : (path == first) = false := by simpa using h
      simp only [List.lookup_cons, hbeq, ih, List.exists_mem_cons_iff, hne, false_or]

-- every row stands in a directory of the table, and names that fold together are one entry
structure TableSound (table : Table) (fold : String → String) : Prop where
  root : table.lookup [] = some .directory
  parent : ∀ row ∈ table, row.1 ≠ [] → table.lookup row.1.dropLast = some .directory
  plain : ∀ row ∈ table, ∀ name ∈ row.1.getLast?, PlainName name
  no_null : ∀ row ∈ table, ∀ name ∈ row.1.getLast?, '\x00' ∉ name.toList
  folded : ∀ row ∈ table, ∀ row' ∈ table, row.1.dropLast = row'.1.dropLast →
    row.1.getLast?.map fold = row'.1.getLast?.map fold → row.1 = row'.1

theorem TableSound.of_names {table : Table} {fold : String → String}
    (hroot : table.lookup [] = some .directory)
    (hparent : ∀ row ∈ table, row.1 ≠ [] → table.lookup row.1.dropLast = some .directory)
    (hnames : ∀ row ∈ table, ∀ name ∈ row.1.getLast?, name ≠ "" ∧ name ≠ "." ∧ name ≠ ".." ∧
      '/' ∉ name.toList ∧ '\x00' ∉ name.toList)
    (hfolded : ∀ row ∈ table, ∀ row' ∈ table, row.1.dropLast = row'.1.dropLast →
      row.1.getLast?.map fold = row'.1.getLast?.map fold → row.1 = row'.1) :
    TableSound table fold := by
  refine ⟨hroot, hparent, fun row hrow name hname => ?_,
    fun row hrow name hname => (hnames row hrow name hname).2.2.2.2, hfolded⟩
  obtain ⟨h1, h2, h3, h4, -⟩ := hnames row hrow name hname
  exact ⟨h1, h2, h3, h4⟩

def tableFind (table : Table) (fold : String → String) (dir : List String) (text : String) :
    Option String :=
  if text ≠ "" ∧ text ≠ "." ∧ text ≠ ".." ∧ '/' ∉ text.toList ∧ '\x00' ∉ text.toList then
    (tableNames table dir).find? (fun name => fold name = fold text)
  else none

theorem plain_of_tableNames {table : Table} {fold : String → String} (h : TableSound table fold)
    {dir : List String} {name : String} (hname : name ∈ tableNames table dir) : PlainName name := by
  obtain ⟨row, hrow, hpath⟩ := mem_tableNames.mp hname
  exact h.plain row hrow name (by simp [hpath])

def ofTable (table : Table) (fold : String → String) (linkDepth : Nat)
    (h : TableSound table fold) : FileTree where
  kind path := table.lookup path
  names := tableNames table
  find := tableFind table fold
  linkDepth
  root_directory := h.root
  parent_directory dir name hsome := by
    obtain ⟨row, hrow, hpath⟩ := lookup_isSome.mp hsome
    simpa [hpath] using h.parent row hrow (by simp [hpath])
  mem_names dir name := by rw [mem_tableNames, lookup_isSome]
  find_mem dir text name hfind := by
    rw [tableFind] at hfind
    split at hfind
    · exact List.mem_of_find?_eq_some hfind
    · cases hfind
  find_self dir name hname := by
    have hplain := plain_of_tableNames h hname
    obtain ⟨row, hrow, hpath⟩ := mem_tableNames.mp hname
    have hnull := h.no_null row hrow name (by simp [hpath])
    rw [tableFind, if_pos ⟨hplain.nonempty, hplain.not_here, hplain.not_up, hplain.no_slash, hnull⟩]
    have hsome : ((tableNames table dir).find? (fun other => fold other = fold name)).isSome =
      true :=
      List.find?_isSome.mpr ⟨name, hname, by simp⟩
    obtain ⟨found, hfound⟩ := Option.isSome_iff_exists.mp hsome
    obtain ⟨row', hrow', hpath'⟩ := mem_tableNames.mp (List.mem_of_find?_eq_some hfound)
    have hfold : fold found = fold name := by simpa using List.find?_some hfound
    have hsame := h.folded row' hrow' row hrow (by simp [hpath, hpath'])
      (by simp [hpath, hpath', hfold])
    rw [hpath, hpath'] at hsame
    rw [hfound, (List.cons.inj (List.append_cancel_left hsame)).1]
  plain dir text name hfind := by
    rw [tableFind] at hfind
    split at hfind
    · rename_i hplain
      exact ⟨hplain.1, hplain.2.1, hplain.2.2.1, hplain.2.2.2.1⟩
    · cases hfind
  no_null dir text name hfind := by
    rw [tableFind] at hfind
    split at hfind
    · rename_i hplain
      exact hplain.2.2.2.2
    · cases hfind

end Tables

end FileTree
