import Mathlib.Data.List.Basic
import Mathlib.Tactic

structure PlainName (name : String) : Prop where
  nonempty : name ≠ ""
  not_here : name ≠ "."
  not_up : name ≠ ".."
  no_slash : '/' ∉ name.toList

structure PosixPath where
  anchor : String
  parts : List String
  deriving DecidableEq, Repr

namespace PosixPath

def parseAnchor : List Char → String
  | '/' :: '/' :: '/' :: _ => "/"
  | '/' :: '/' :: _ => "//"
  | '/' :: _ => "/"
  | _ => ""

def parseParts (cs : List Char) : List String :=
  ((cs.splitOn '/').map String.ofList).filter (fun part => part ≠ "" ∧ part ≠ ".")

def parse (s : String) : PosixPath := ⟨parseAnchor s.toList, parseParts s.toList⟩

def isAbsolute (p : PosixPath) : Bool := p.anchor ≠ ""

def join (p q : PosixPath) : PosixPath :=
  if q.isAbsolute then q else ⟨p.anchor, p.parts ++ q.parts⟩

def isRelativeTo (p base : PosixPath) : Bool :=
  p.anchor = base.anchor && base.parts.isPrefixOf p.parts

def text (p : PosixPath) : String :=
  if p.parts = [] then (if p.anchor = "" then "." else p.anchor)
  else p.anchor ++ String.intercalate "/" p.parts

def name (p : PosixPath) : String := p.parts.getLast?.getD ""

def parent (p : PosixPath) : PosixPath := ⟨p.anchor, p.parts.dropLast⟩

def child (p : PosixPath) (name : String) : PosixPath := ⟨p.anchor, p.parts ++ [name]⟩

theorem join_absolute {p q : PosixPath} (h : q.isAbsolute = true) : p.join q = q := by
  simp [join, h]

theorem notMem_of_mem_splitOn {c : Char} {cs xs : List Char} (h : xs ∈ cs.splitOn c) : c ∉ xs := by
  induction cs generalizing xs with
  | nil =>
    rw [List.splitOn_nil, List.mem_singleton] at h
    simp [h]
  | cons d cs ih =>
    rw [List.splitOn_cons_eq_if_modifyHead] at h
    split at h
    · rcases List.mem_cons.mp h with rfl | h
      · simp
      · exact ih h
    · rename_i hne
      obtain ⟨first, rest, hsplit⟩ := List.exists_cons_of_ne_nil (List.splitOn_ne_nil c cs)
      rw [hsplit, List.modifyHead_cons] at h
      rcases List.mem_cons.mp h with rfl | h
      · rw [List.mem_cons, not_or]
        exact ⟨fun hcd => hne (by simp [hcd]), ih (by simp [hsplit])⟩
      · exact ih (by simp [hsplit, h])

theorem mem_of_mem_splitOn {c d : Char} {cs xs : List Char} (h : xs ∈ cs.splitOn c) (hd : d ∈ xs) :
    d ∈ cs := by
  induction cs generalizing xs with
  | nil =>
    rw [List.splitOn_nil, List.mem_singleton] at h
    simp [h] at hd
  | cons e cs ih =>
    rw [List.splitOn_cons_eq_if_modifyHead] at h
    split at h
    · rcases List.mem_cons.mp h with rfl | h
      · cases hd
      · exact List.mem_cons_of_mem _ (ih h hd)
    · obtain ⟨first, rest, hsplit⟩ := List.exists_cons_of_ne_nil (List.splitOn_ne_nil c cs)
      rw [hsplit, List.modifyHead_cons] at h
      rcases List.mem_cons.mp h with rfl | h
      · rcases List.mem_cons.mp hd with rfl | hd
        · simp
        · exact List.mem_cons_of_mem _ (ih (by simp [hsplit]) hd)
      · exact List.mem_cons_of_mem _ (ih (by simp [hsplit, h]) hd)

theorem mem_of_mem_parts {s part : String} {c : Char} (h : part ∈ (parse s).parts)
    (hc : c ∈ part.toList) : c ∈ s.toList := by
  simp only [parse, parseParts, List.mem_filter, List.mem_map] at h
  obtain ⟨⟨cs, hcs, rfl⟩, -⟩ := h
  rw [String.toList_ofList] at hc
  exact mem_of_mem_splitOn hcs hc

theorem parts_plain {s part : String} (h : part ∈ (parse s).parts) (hup : part ≠ "..") :
    PlainName part := by
  simp only [parse, parseParts, List.mem_filter, List.mem_map, decide_eq_true_eq] at h
  obtain ⟨⟨cs, hcs, rfl⟩, hempty, hdot⟩ := h
  refine ⟨hempty, hdot, hup, ?_⟩
  rw [String.toList_ofList]
  exact notMem_of_mem_splitOn hcs

theorem splitOn_text {names : List String} (hne : names ≠ []) (h : ∀ n ∈ names, '/' ∉ n.toList) :
    (text ⟨"", names⟩).toList.splitOn '/' = names.map String.toList := by
  have hslash : "/".toList = ['/'] := rfl
  simp only [text, if_neg hne, String.empty_append, String.toList_intercalate, hslash]
  apply List.splitOn_intercalate
  · simpa using h
  · simpa using hne

theorem mem_text {names : List String} {c : Char} (hslash : c ≠ '/') (hdot : c ≠ '.') :
    c ∈ (text ⟨"", names⟩).toList ↔ ∃ name ∈ names, c ∈ name.toList := by
  have hjoin (first : String) (rest : List String) :
      c ∈ (String.intercalate "/" (first :: rest)).toList ↔
        ∃ name ∈ first :: rest, c ∈ name.toList := by
    have hsep : "/".toList = ['/'] := rfl
    induction rest generalizing first with
    | nil => simp
    | cons second rest ih =>
      have hrest := ih second
      rw [String.intercalate_cons_cons, String.toList_append, String.toList_append, List.mem_append,
        List.mem_append, hsep, List.mem_singleton]
      simp only [hslash, or_false, hrest, List.mem_cons, exists_eq_or_imp]
  cases names with
  | nil =>
    have hhere : ".".toList = ['.'] := rfl
    simp [text, hhere, hdot]
  | cons first rest =>
    simp only [text, if_neg (List.cons_ne_nil first rest), String.empty_append]
    exact hjoin first rest

theorem parseAnchor_of_split {cs first : List Char} {rest : List (List Char)}
    (h : cs.splitOn '/' = first :: rest) (hne : first ≠ []) : parseAnchor cs = "" := by
  cases cs with
  | nil => rfl
  | cons c cs =>
    have hc : c ≠ '/' := by
      rintro rfl
      rw [List.splitOn_cons_eq_if_modifyHead, if_pos (by simp)] at h
      exact hne (List.cons.inj h).1.symm
    simp [parseAnchor, hc]

theorem parse_text {names : List String} (h : ∀ n ∈ names, PlainName n) :
    parse (text ⟨"", names⟩) = ⟨"", names⟩ := by
  cases names with
  | nil => decide
  | cons name names =>
    have hsplit := splitOn_text (List.cons_ne_nil name names) (fun n hn => (h n hn).no_slash)
    have hfirst : name.toList ≠ [] := by
      simpa using (h name (by simp)).nonempty
    have hparts : parseParts (text ⟨"", name :: names⟩).toList = name :: names := by
      rw [parseParts, hsplit, List.map_map]
      simp only [Function.comp_def, String.ofList_toList, List.map_id']
      apply List.filter_eq_self.mpr
      intro n hn
      simp [(h n hn).nonempty, (h n hn).not_here]
    rw [parse, hparts, parseAnchor_of_split hsplit hfirst]

end PosixPath
