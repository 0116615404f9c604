import Mathlib.Algebra.Order.Group.Multiset
import Mathlib.Tactic

-- queue.Queue; a maxsize of zero or less means no bound
structure BoundedQueue (α : Type) where
  maxsize : Int
  items : List α := []
  unfinishedTasks : Nat := 0

namespace BoundedQueue

variable {α : Type}

def full (q : BoundedQueue α) : Bool := 0 < q.maxsize && q.maxsize ≤ q.items.length

def putNowait (q : BoundedQueue α) (a : α) : Option (BoundedQueue α) :=
  if q.full then none
  else some { q with items := q.items ++ [a], unfinishedTasks := q.unfinishedTasks + 1 }

def get (q : BoundedQueue α) : Option (α × BoundedQueue α) :=
  match q.items with
  | [] => none
  | a :: items => some (a, { q with items })

def taskDone (q : BoundedQueue α) : Option (BoundedQueue α) :=
  if q.unfinishedTasks = 0 then none
  else some { q with unfinishedTasks := q.unfinishedTasks - 1 }

theorem putNowait_eq_some {q r : BoundedQueue α} {a : α} (h : q.putNowait a = some r) :
    r.items = q.items ++ [a] ∧ r.unfinishedTasks = q.unfinishedTasks + 1 := by
  simp only [putNowait] at h
  split at h
  · cases h
  · cases h
    exact ⟨rfl, rfl⟩

theorem putNowait_eq_none {q : BoundedQueue α} {a : α} (h : q.putNowait a = none) :
    q.items ≠ [] := by
  simp only [putNowait, full, Bool.and_eq_true, decide_eq_true_eq] at h
  split at h
  · rename_i hfull
    intro hitems
    rw [hitems, List.length_nil] at hfull
    omega
  · cases h

theorem get_eq_some {q r : BoundedQueue α} {a : α} (h : q.get = some (a, r)) :
    q.items = a :: r.items ∧ r.unfinishedTasks = q.unfinishedTasks := by
  simp only [get] at h
  split at h
  · cases h
  · rename_i hitems
    cases h
    exact ⟨hitems, rfl⟩

theorem taskDone_eq_some {q : BoundedQueue α} (h : 0 < q.unfinishedTasks) :
    q.taskDone = some { q with unfinishedTasks := q.unfinishedTasks - 1 } :=
  if_neg (Nat.ne_of_gt h)

end BoundedQueue
