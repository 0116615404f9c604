import AgentSecurityPlatform.Library.Run

namespace Run

variable {σ τ ι ω υ : Type}

def Meets (step : σ → ι → σ × ω) (P : σ → ι → Prop) : σ → List ι → Prop
  | _, [] => True
  | s, i :: is => P s i ∧ Meets step P (step s i).1 is

instance decidableMeets (step : σ → ι → σ × ω) (P : σ → ι → Prop) [∀ s i, Decidable (P s i)] :
    ∀ s is, Decidable (Meets step P s is)
  | _, [] => isTrue trivial
  | s, i :: is =>
    have := decidableMeets step P (step s i).1 is
    inferInstanceAs (Decidable (P s i ∧ Meets step P (step s i).1 is))

variable {step : σ → ι → σ × ω} {P Q : σ → ι → Prop} {s : σ} {is js : List ι}

theorem Meets.mono (h : Meets step P s is) (hPQ : ∀ s i, P s i → Q s i) : Meets step Q s is := by
  induction is generalizing s with
  | nil => trivial
  | cons i is ih => exact ⟨hPQ s i h.1, ih h.2⟩

theorem meets_of_forall {P : ι → Prop} (s : σ) (h : ∀ i ∈ is, P i) :
    Meets step (fun _ i => P i) s is := by
  induction is generalizing s with
  | nil => trivial
  | cons i is ih =>
    exact ⟨h i (by simp), ih _ (fun j hj => h j (List.mem_cons_of_mem i hj))⟩

theorem Meets.and (hP : Meets step P s is) (hQ : Meets step Q s is) :
    Meets step (fun s i => P s i ∧ Q s i) s is := by
  induction is generalizing s with
  | nil => trivial
  | cons i is ih => exact ⟨⟨hP.1, hQ.1⟩, ih hP.2 hQ.2⟩

theorem meets_append : Meets step P s (is ++ js) ↔
    Meets step P s is ∧ Meets step P (final step s is) js := by
  induction is generalizing s with
  | nil => simp [Meets, final]
  | cons i is ih =>
    simp only [List.cons_append, Meets, final, ih]
    tauto

theorem invariant_of_meets {I : σ → Prop} (hstep : ∀ s i, P s i → I s → I (step s i).1)
    (h : Meets step P s is) (hI : I s) : I (final step s is) := by
  induction is generalizing s with
  | nil => exact hI
  | cons i is ih => exact ih h.2 (hstep s i h.1 hI)

def replies (step : σ → ι → σ × ω) (s : σ) (is : List ι) : List ω :=
  (history step s is).map Prod.snd

theorem replies_append (s : σ) (is js : List ι) :
    replies step s (is ++ js) = replies step s is ++ replies step (final step s is) js := by
  simp only [replies, history_append, List.map_append]

theorem length_replies (s : σ) (is : List ι) : (replies step s is).length = is.length := by
  rw [replies, List.length_map, length_history]

-- two services answer alike from related states, for the calls that meet the condition
structure Refines (f : σ → ι → σ × ω) (g : τ → ι → τ × υ) (P : σ → ι → Prop) (R : σ → τ → Prop)
    (S : ω → υ → Prop) : Prop where
  reply : ∀ s t i, R s t → P s i → S (f s i).2 (g t i).2
  next : ∀ s t i, R s t → P s i → R (f s i).1 (g t i).1

variable {f : σ → ι → σ × ω} {g : τ → ι → τ × υ} {R : σ → τ → Prop} {S : ω → υ → Prop} {t : τ}

theorem Refines.final (h : Refines f g P R S) (hR : R s t) (hP : Meets f P s is) :
    R (final f s is) (Run.final g t is) := by
  induction is generalizing s t with
  | nil => exact hR
  | cons i is ih => exact ih (h.next s t i hR hP.1) hP.2

theorem Refines.replies (h : Refines f g P R S) (hR : R s t) (hP : Meets f P s is) :
    List.Forall₂ S (replies f s is) (Run.replies g t is) := by
  induction is generalizing s t with
  | nil => exact .nil
  | cons i is ih => exact .cons (h.reply s t i hR hP.1) (ih (h.next s t i hR hP.1) hP.2)

theorem Refines.replies_eq {g : τ → ι → τ × ω} (h : Refines f g P R Eq) (hR : R s t)
    (hP : Meets f P s is) : Run.replies f s is = Run.replies g t is :=
  List.forall₂_eq_eq_eq ▸ h.replies hR hP

-- replies that agree once each is looked at through its own view
theorem Refines.replies_map_eq {χ : Type} {view : ω → χ} {view' : υ → χ}
    (h : Refines f g P R (fun a b => view a = view' b)) (hR : R s t) (hP : Meets f P s is) :
    (Run.replies f s is).map view = (Run.replies g t is).map view' := by
  have hreplies := h.replies hR hP
  rw [← List.forall₂_eq_eq_eq, List.forall₂_map_left_iff, List.forall₂_map_right_iff]
  exact hreplies

end Run
