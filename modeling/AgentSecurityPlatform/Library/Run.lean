import Mathlib.Data.List.Basic
import Mathlib.Tactic

namespace Run

variable {σ ι ω : Type}

def final (step : σ → ι → σ × ω) (s : σ) : List ι → σ
  | [] => s
  | i :: is => final step (step s i).1 is

def history (step : σ → ι → σ × ω) (s : σ) : List ι → List (ι × ω)
  | [] => []
  | i :: is => (i, (step s i).2) :: history step (step s i).1 is

theorem final_append (step : σ → ι → σ × ω) (s : σ) (is js : List ι) :
    final step s (is ++ js) = final step (final step s is) js := by
  induction is generalizing s with
  | nil => rfl
  | cons i is ih => exact ih _

theorem history_append (step : σ → ι → σ × ω) (s : σ) (is js : List ι) :
    history step s (is ++ js) = history step s is ++ history step (final step s is) js := by
  induction is generalizing s with
  | nil => rfl
  | cons i is ih => simp only [List.cons_append, history, final, ih]

theorem map_fst_history (step : σ → ι → σ × ω) (s : σ) (is : List ι) :
    (history step s is).map Prod.fst = is := by
  induction is generalizing s with
  | nil => rfl
  | cons i is ih => simp [history, ih]

theorem length_history (step : σ → ι → σ × ω) (s : σ) (is : List ι) :
    (history step s is).length = is.length := by
  rw [← List.length_map Prod.fst, map_fst_history]

theorem history_split (step : σ → ι → σ × ω) (s : σ) {is : List ι} {pre post : List (ι × ω)}
    {e : ι × ω} (h : history step s is = pre ++ e :: post) :
    ∃ is₁ is₂, is = is₁ ++ e.1 :: is₂ ∧ pre = history step s is₁ ∧
      e.2 = (step (final step s is₁) e.1).2 ∧
      post = history step (final step s (is₁ ++ [e.1])) is₂ := by
  induction is generalizing s pre with
  | nil => simp [history] at h
  | cons i is ih =>
    cases pre with
    | nil =>
      simp only [history, List.nil_append, List.cons.injEq] at h
      obtain ⟨rfl, rfl⟩ := h
      exact ⟨[], is, rfl, rfl, rfl, rfl⟩
    | cons d pre =>
      simp only [history, List.cons_append, List.cons.injEq] at h
      obtain ⟨rfl, h⟩ := h
      obtain ⟨is₁, is₂, rfl, rfl, he, rfl⟩ := ih _ h
      exact ⟨i :: is₁, is₂, rfl, rfl, he, rfl⟩

theorem mem_history (step : σ → ι → σ × ω) (s : σ) (is js : List ι) (i : ι) :
    (i, (step (final step s is) i).2) ∈ history step s (is ++ i :: js) := by
  rw [history_append]
  simp [history]

theorem history_invariant (step : σ → ι → σ × ω) (I : List (ι × ω) → σ → Prop) (s : σ) (is : List ι)
    (h0 : I [] s)
    (hstep : ∀ pre i post, is = pre ++ i :: post → I (history step s pre) (final step s pre) →
      I (history step s pre ++ [(i, (step (final step s pre) i).2)])
        (step (final step s pre) i).1) :
    I (history step s is) (final step s is) := by
  induction is using List.reverseRecOn with
  | nil => exact h0
  | append_singleton pre i ih =>
    have hpre : I (history step s pre) (final step s pre) := by
      apply ih
      intro p j q he
      exact hstep p j (q ++ [i]) (by simp [he])
    have h := hstep pre i [] rfl hpre
    rw [history_append, final_append]
    exact h

theorem final_invariant (step : σ → ι → σ × ω) (I : σ → Prop) (P : ι → Prop) (s : σ) (is : List ι)
    (h0 : I s) (hP : ∀ i ∈ is, P i) (hstep : ∀ s i, P i → I s → I (step s i).1) :
    I (final step s is) := by
  induction is generalizing s with
  | nil => exact h0
  | cons i is ih =>
    exact ih _ (hstep s i (hP i (by simp)) h0) (fun j hj => hP j (by simp [hj]))

end Run

structure Pool (σ τ : Type) where
  shared : σ
  threads : List τ

namespace Pool

variable {σ τ ι : Type}

abbrev Machine (ι σ τ : Type) := ι → σ → τ → Option (σ × τ)

def fire (m : Machine ι σ τ) (p : Pool σ τ) (l : Nat × ι) : Option (Pool σ τ) :=
  match p.threads[l.1]? with
  | none => none
  | some t =>
    match m l.2 p.shared t with
    | none => none
    | some (s, t') => some ⟨s, p.threads.set l.1 t'⟩

def run (m : Machine ι σ τ) : List (Nat × ι) → Pool σ τ → Option (Pool σ τ)
  | [], p => some p
  | l :: ls, p =>
    match fire m p l with
    | none => none
    | some q => run m ls q

def AllSteps (m : Machine ι σ τ) (P : Pool σ τ → Nat × ι → Prop) :
    List (Nat × ι) → Pool σ τ → Prop
  | [], _ => True
  | l :: ls, p => P p l ∧ ∀ q, fire m p l = some q → AllSteps m P ls q

instance decidableAllSteps (m : Machine ι σ τ) (P : Pool σ τ → Nat × ι → Prop)
    [∀ p l, Decidable (P p l)] : ∀ ls p, Decidable (AllSteps m P ls p)
  | [], _ => isTrue trivial
  | l :: ls, p =>
    match h : fire m p l with
    | none => decidable_of_iff (P p l) (by simp [AllSteps, h])
    | some q =>
      have := decidableAllSteps m P ls q
      decidable_of_iff (P p l ∧ AllSteps m P ls q) (by simp [AllSteps, h])

theorem fire_eq_some {m : Machine ι σ τ} {p q : Pool σ τ} {l : Nat × ι} (h : fire m p l = some q) :
    ∃ t t', p.threads[l.1]? = some t ∧ m l.2 p.shared t = some (q.shared, t') ∧
      q.threads = p.threads.set l.1 t' := by
  unfold fire at h
  split at h
  · cases h
  · rename_i t ht
    split at h
    · cases h
    · rename_i s t' hm
      cases h
      exact ⟨t, t', ht, hm, rfl⟩

theorem run_cons {m : Machine ι σ τ} {p q : Pool σ τ} {l : Nat × ι} {ls : List (Nat × ι)}
    (h : run m (l :: ls) p = some q) : ∃ r, fire m p l = some r ∧ run m ls r = some q := by
  simp only [run] at h
  split at h
  · cases h
  · rename_i r hr
    exact ⟨r, hr, h⟩

theorem run_append {m : Machine ι σ τ} {p q : Pool σ τ} {ls ks : List (Nat × ι)}
    (h : run m (ls ++ ks) p = some q) : ∃ r, run m ls p = some r ∧ run m ks r = some q := by
  induction ls generalizing p with
  | nil => exact ⟨p, rfl, h⟩
  | cons l ls ih =>
    obtain ⟨r, hf, hr⟩ := run_cons h
    obtain ⟨r', h1, h2⟩ := ih hr
    exact ⟨r', by simp only [run, hf, h1], h2⟩

theorem run_snoc {m : Machine ι σ τ} {p q : Pool σ τ} {ls : List (Nat × ι)} {l : Nat × ι}
    (h : run m ls p = some q) : run m (ls ++ [l]) p = fire m q l := by
  induction ls generalizing p with
  | nil =>
    cases h
    simp only [List.nil_append, run]
    cases fire m q l <;> rfl
  | cons k ls ih =>
    obtain ⟨r, hf, hr⟩ := run_cons h
    simp only [List.cons_append, run, hf]
    exact ih hr

theorem AllSteps.append_left {m : Machine ι σ τ} {P : Pool σ τ → Nat × ι → Prop}
    {ls ks : List (Nat × ι)} {p : Pool σ τ} (h : AllSteps m P (ls ++ ks) p) :
    AllSteps m P ls p := by
  induction ls generalizing p with
  | nil => trivial
  | cons l ls ih => exact ⟨h.1, fun q hq => ih (h.2 q hq)⟩

theorem AllSteps.append_right {m : Machine ι σ τ} {P : Pool σ τ → Nat × ι → Prop}
    {ls ks : List (Nat × ι)} {p q : Pool σ τ} (h : AllSteps m P (ls ++ ks) p)
    (hr : run m ls p = some q) : AllSteps m P ks q := by
  induction ls generalizing p with
  | nil =>
    cases hr
    exact h
  | cons l ls ih =>
    obtain ⟨r, hf, hr⟩ := run_cons hr
    exact ih (h.2 r hf) hr

theorem run_invariant_of_steps {m : Machine ι σ τ} (P : Pool σ τ → Nat × ι → Prop)
    (I : Pool σ τ → Prop) (hstep : ∀ p l q, P p l → I p → fire m p l = some q → I q)
    {ls : List (Nat × ι)} {p q : Pool σ τ} (hP : AllSteps m P ls p) (hI : I p)
    (h : run m ls p = some q) : I q := by
  induction ls generalizing p with
  | nil =>
    simp only [run, Option.some.injEq] at h
    exact h ▸ hI
  | cons l ls ih =>
    obtain ⟨r, hf, hr⟩ := run_cons h
    exact ih (hP.2 r hf) (hstep p l r hP.1 hI hf) hr

theorem allSteps_true (m : Machine ι σ τ) (ls : List (Nat × ι)) (p : Pool σ τ) :
    AllSteps m (fun _ _ => True) ls p := by
  induction ls generalizing p with
  | nil => trivial
  | cons l ls ih => exact ⟨trivial, fun q _ => ih q⟩

theorem allSteps_after (m : Machine ι σ τ) (before ls : List (Nat × ι)) (p q : Pool σ τ)
    (h : run m before p = some q) :
    AllSteps m (fun r _ => ∃ pre post, before ++ ls = pre ++ post ∧ run m pre p = some r) ls q := by
  induction ls generalizing before q with
  | nil => trivial
  | cons l ls ih =>
    refine ⟨⟨before, l :: ls, rfl, h⟩, ?_⟩
    intro r hf
    have hrun : run m (before ++ [l]) p = some r := by
      rw [run_snoc h]
      exact hf
    have hrest := ih (before ++ [l]) r hrun
    rw [List.append_assoc] at hrest
    exact hrest

theorem allSteps_visited (m : Machine ι σ τ) (ls : List (Nat × ι)) (p : Pool σ τ) :
    AllSteps m (fun q _ => ∃ pre post, ls = pre ++ post ∧ run m pre p = some q) ls p :=
  allSteps_after m [] ls p p rfl

theorem run_invariant {m : Machine ι σ τ} (I : Pool σ τ → Prop)
    (hstep : ∀ p l q, I p → fire m p l = some q → I q)
    {ls : List (Nat × ι)} {p q : Pool σ τ} (hI : I p) (h : run m ls p = some q) : I q :=
  run_invariant_of_steps (fun _ _ => True) I (fun p l q _ hI hf => hstep p l q hI hf)
    (allSteps_true m ls p) hI h

variable {ε : Type}

def trace (m : Machine ι σ τ) (f : Pool σ τ → Nat × ι → List ε) : List (Nat × ι) → Pool σ τ → List ε
  | [], _ => []
  | l :: ls, p =>
    match fire m p l with
    | none => []
    | some q => f p l ++ trace m f ls q

theorem trace_cons {m : Machine ι σ τ} (f : Pool σ τ → Nat × ι → List ε) {p q : Pool σ τ}
    {l : Nat × ι} (ls : List (Nat × ι)) (h : fire m p l = some q) :
    trace m f (l :: ls) p = f p l ++ trace m f ls q := by
  simp only [trace, h]

theorem run_trace_invariant_of_steps {m : Machine ι σ τ} (f : Pool σ τ → Nat × ι → List ε)
    (P : Pool σ τ → Nat × ι → Prop) (I : List ε → Pool σ τ → Prop)
    (hstep : ∀ es p l q, P p l → I es p → fire m p l = some q → I (es ++ f p l) q)
    {ls : List (Nat × ι)} {p q : Pool σ τ} (hP : AllSteps m P ls p) (es : List ε) (hI : I es p)
    (h : run m ls p = some q) : I (es ++ trace m f ls p) q := by
  induction ls generalizing p es with
  | nil =>
    simp only [run, Option.some.injEq] at h
    simpa [trace, h] using hI
  | cons l ls ih =>
    obtain ⟨r, hf, hr⟩ := run_cons h
    rw [trace_cons f ls hf, ← List.append_assoc]
    exact ih (hP.2 r hf) (es ++ f p l) (hstep es p l r hP.1 hI hf) hr

theorem run_trace_invariant {m : Machine ι σ τ} (f : Pool σ τ → Nat × ι → List ε)
    (I : List ε → Pool σ τ → Prop)
    (hstep : ∀ es p l q, I es p → fire m p l = some q → I (es ++ f p l) q)
    {ls : List (Nat × ι)} {p q : Pool σ τ} (es : List ε) (hI : I es p) (h : run m ls p = some q) :
    I (es ++ trace m f ls p) q :=
  run_trace_invariant_of_steps f (fun _ _ => True) I (fun es p l q _ hI hf => hstep es p l q hI hf)
    (allSteps_true m ls p) es hI h

end Pool
