import Mathlib.Data.Finset.Basic
import Mathlib.Logic.Function.Iterate

/-! # Interleavings of independent tasks

A family of tasks that share nothing: a poll advances one of them and leaves the others
alone. Whatever the order of the polls, a task is as far as its own polls brought it. -/
namespace LibraryInterleavings

section Family

variable {ι α : Type*} [DecidableEq ι] (step : ι → α → α)

def poll (tasks : ι → α) (i : ι) : ι → α := Function.update tasks i (step i (tasks i))

def interleave (tasks : ι → α) (polls : List ι) : ι → α := polls.foldl (poll step) tasks

theorem interleave_apply (tasks : ι → α) (polls : List ι) (i : ι) :
    interleave step tasks polls i = (step i)^[polls.count i] (tasks i) := by
  induction polls generalizing tasks with
  | nil => rfl
  | cons j rest ih =>
    rw [interleave, List.foldl_cons, ← interleave, ih, poll]
    by_cases same : i = j
    · rw [same, Function.update_self, List.count_cons_self, Function.iterate_succ_apply]
    · rw [Function.update_of_ne same, List.count_cons_of_ne (Ne.symm same)]

end Family

section Task

variable {α : Type*} {step : α → α} {a b c : α}

/-- Polled often enough, the task that stands at `a` comes to `b`. -/
def Reaches (step : α → α) (a b : α) : Prop := ∃ n, step^[n] a = b

theorem Reaches.refl (a : α) : Reaches step a a := ⟨0, rfl⟩

theorem Reaches.trans : Reaches step a b → Reaches step b c → Reaches step a c := by
  rintro ⟨n, rfl⟩ ⟨m, rfl⟩
  exact ⟨m + n, Function.iterate_add_apply step m n a⟩

theorem Reaches.cons (rest : Reaches step (step a) c) : Reaches step a c := by
  obtain ⟨n, rfl⟩ := rest
  exact ⟨n + 1, Function.iterate_succ_apply step n a⟩

/-- Where a task comes to rest it stays, so it comes to rest in one place only. -/
theorem Reaches.at_rest (reaches : Reaches step a b) (rests : step b = b) :
    ∃ enough, ∀ n, enough ≤ n → step^[n] a = b := by
  obtain ⟨enough, rfl⟩ := reaches
  refine ⟨enough, fun n order => ?_⟩
  obtain ⟨more, rfl⟩ := Nat.exists_eq_add_of_le' order
  rw [Function.iterate_add_apply]
  exact Function.iterate_fixed rests more

theorem Reaches.rest_unique (reaches : Reaches step a b) (rests : step b = b)
    (also : Reaches step a c) (alsoRests : step c = c) : c = b := by
  obtain ⟨n, left⟩ := reaches.at_rest rests
  obtain ⟨m, right⟩ := also.at_rest alsoRests
  rw [← left (max n m) (le_max_left n m), right (max n m) (le_max_right n m)]

theorem Reaches.count_le (reaches : Reaches step a b) (rests : step b = b) (count : α → ℕ)
    (grows : ∀ a, count a ≤ count (step a)) (n : ℕ) : count (step^[n] a) ≤ count b := by
  obtain ⟨enough, settles⟩ := reaches.at_rest rests
  have climbs : ∀ m a, count a ≤ count (step^[m] a) := by
    intro m
    induction m with
    | zero => exact fun a => le_rfl
    | succ m ih =>
      intro a
      rw [Function.iterate_succ_apply]
      exact (grows a).trans (ih (step a))
  rw [← settles (enough + n) (Nat.le_add_right enough n), Function.iterate_add_apply]
  exact climbs enough _

end Task

end LibraryInterleavings
