import AgentSecurityPlatform.Library.Run

namespace Pool

variable {σ τ ι : Type} {m : Machine ι σ τ} {p q : Pool σ τ} {i : Nat} {l : Nat × ι}
  {ls : List (Nat × ι)} {t t' : τ}

theorem fire_of_step (ht : p.threads[l.1]? = some t) {s : σ}
    (hm : m l.2 p.shared t = some (s, t')) :
    fire m p l = some ⟨s, p.threads.set l.1 t'⟩ := by
  simp only [fire, ht, hm]

theorem run_trans {ks : List (Nat × ι)} {r : Pool σ τ} (h₁ : run m ls p = some r)
    (h₂ : run m ks r = some q) : run m (ls ++ ks) p = some q := by
  induction ls generalizing p with
  | nil =>
    simp only [run, Option.some.injEq] at h₁
    rw [h₁]
    exact h₂
  | cons l ls ih =>
    obtain ⟨r', hf, hr⟩ := run_cons h₁
    simp only [List.cons_append, run, hf]
    exact ih hr

theorem fire_idle (hl : l.1 ≠ i) (h : fire m p l = some q) : q.threads[i]? = p.threads[i]? := by
  obtain ⟨t, t', -, -, hq⟩ := fire_eq_some h
  rw [hq, List.getElem?_set_ne hl]

theorem run_idle (hls : ∀ l ∈ ls, l.1 ≠ i) (h : run m ls p = some q) :
    q.threads[i]? = p.threads[i]? := by
  induction ls generalizing p with
  | nil =>
    simp only [run, Option.some.injEq] at h
    rw [h]
  | cons l ls ih =>
    obtain ⟨r, hf, hr⟩ := run_cons h
    rw [ih (fun k hk => hls k (by simp [hk])) hr, fire_idle (hls l (by simp)) hf]

theorem fire_set_idle (hl : l.1 ≠ i) (u : τ) (h : fire m p l = some q) :
    fire m ⟨p.shared, p.threads.set i u⟩ l = some ⟨q.shared, q.threads.set i u⟩ := by
  obtain ⟨t, t', ht, hm, hq⟩ := fire_eq_some h
  have ht' : (p.threads.set i u)[l.1]? = some t := by
    rw [List.getElem?_set_ne (Ne.symm hl), ht]
  rw [fire_of_step (p := ⟨p.shared, p.threads.set i u⟩) ht' hm, hq]
  simp only [List.set_comm _ _ hl]

theorem run_set_idle (hls : ∀ l ∈ ls, l.1 ≠ i) (u : τ) (h : run m ls p = some q) :
    run m ls ⟨p.shared, p.threads.set i u⟩ = some ⟨q.shared, q.threads.set i u⟩ := by
  induction ls generalizing p with
  | nil =>
    simp only [run, Option.some.injEq] at h ⊢
    rw [h]
  | cons l ls ih =>
    obtain ⟨r, hf, hr⟩ := run_cons h
    simp only [run, fire_set_idle (hls l (by simp)) u hf]
    exact ih (fun k hk => hls k (by simp [hk])) hr

def Simulates (m : Machine ι σ τ) (R : τ → τ → Prop) : Prop :=
  ∀ a s t u s' t', R t u → m a s t = some (s', t') → ∃ u', m a s u = some (s', u') ∧ R t' u'

theorem Simulates.fire {R : τ → τ → Prop} (hR : Simulates m R) {u : τ} (ht : p.threads[i]? = some t)
    (hu : R t u) (h : fire m p l = some q) : ∃ t' u', q.threads[i]? = some t' ∧ R t' u' ∧
      Pool.fire m ⟨p.shared, p.threads.set i u⟩ l = some ⟨q.shared, q.threads.set i u'⟩ := by
  by_cases hl : l.1 = i
  · obtain ⟨t₀, t', ht₀, hm, hq⟩ := fire_eq_some h
    rw [hl, ht] at ht₀
    cases ht₀
    obtain ⟨u', hm', hR'⟩ := hR _ _ _ _ _ _ hu hm
    have hi : i < p.threads.length := (List.getElem?_eq_some_iff.mp ht).1
    have hget : (p.threads.set i u)[l.1]? = some u := by
      rw [hl, List.getElem?_set_self hi]
    refine ⟨t', u', ?_, hR', ?_⟩
    · rw [hq, hl, List.getElem?_set_self hi]
    · rw [fire_of_step (p := ⟨p.shared, p.threads.set i u⟩) hget hm', hq, hl]
      simp only [List.set_set]
  · refine ⟨t, u, ?_, hu, fire_set_idle hl u h⟩
    rw [fire_idle hl h, ht]

theorem Simulates.run {R : τ → τ → Prop} (hR : Simulates m R) {u : τ} (ht : p.threads[i]? = some t)
    (hu : R t u) (h : run m ls p = some q) : ∃ t' u', q.threads[i]? = some t' ∧ R t' u' ∧
      Pool.run m ls ⟨p.shared, p.threads.set i u⟩ = some ⟨q.shared, q.threads.set i u'⟩ := by
  induction ls generalizing p t u with
  | nil =>
    simp only [Pool.run, Option.some.injEq] at h
    subst h
    exact ⟨t, u, ht, hu, rfl⟩
  | cons l ls ih =>
    obtain ⟨r, hf, hr⟩ := run_cons h
    obtain ⟨t', u', ht', hu', hf'⟩ := hR.fire ht hu hf
    obtain ⟨t'', u'', ht'', hu'', hr'⟩ := ih ht' hu' hr
    exact ⟨t'', u'', ht'', hu'', by simpa only [Pool.run, hf'] using hr'⟩

end Pool
