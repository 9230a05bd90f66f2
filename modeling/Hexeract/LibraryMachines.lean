import Mathlib.Data.List.Basic
import Mathlib.Logic.Basic

/-! # Runs of guarded machines

A machine says in which states an event may happen and what it then does. A run is the
list of its events, so that a statement about a run can split it at any point. -/
namespace LibraryMachines

structure Machine (σ ε : Type*) where
  enabled : σ → ε → Prop
  next : σ → ε → σ

variable {σ ε : Type*} (M : Machine σ ε)

def Machine.run (s : σ) (events : List ε) : σ := events.foldl M.next s

/-- Every event of the run was enabled where it happened. -/
def Machine.Allowed : σ → List ε → Prop
  | _, [] => True
  | s, e :: rest => M.enabled s e ∧ Machine.Allowed (M.next s e) rest

instance Machine.decidableAllowed [∀ s e, Decidable (M.enabled s e)] :
    ∀ s events, Decidable (M.Allowed s events)
  | _, [] => isTrue trivial
  | s, e :: rest =>
    have := Machine.decidableAllowed (M.next s e) rest
    inferInstanceAs (Decidable (M.enabled s e ∧ M.Allowed (M.next s e) rest))

/-- The same machine, whose events also have to meet a condition. -/
def Machine.under (condition : σ → ε → Prop) : Machine σ ε where
  enabled := fun s e => M.enabled s e ∧ condition s e
  next := M.next

instance Machine.decidableUnder [∀ s e, Decidable (M.enabled s e)] (condition : σ → ε → Prop)
    [∀ s e, Decidable (condition s e)] (s : σ) (e : ε) :
    Decidable ((M.under condition).enabled s e) :=
  inferInstanceAs (Decidable (M.enabled s e ∧ condition s e))

variable {M}

@[simp] theorem run_nil (s : σ) : M.run s [] = s := rfl

@[simp] theorem run_cons (s : σ) (e : ε) (rest : List ε) :
    M.run s (e :: rest) = M.run (M.next s e) rest := rfl

theorem run_append (s : σ) (l k : List ε) : M.run s (l ++ k) = M.run (M.run s l) k :=
  List.foldl_append

theorem allowed_append {s : σ} {l k : List ε} :
    M.Allowed s (l ++ k) ↔ M.Allowed s l ∧ M.Allowed (M.run s l) k := by
  induction l generalizing s with
  | nil => simp [Machine.Allowed]
  | cons e rest ih => simp [Machine.Allowed, ih, and_assoc]

theorem allowed_of_under {condition : σ → ε → Prop} {s : σ} {events : List ε}
    (allowed : (M.under condition).Allowed s events) : M.Allowed s events := by
  induction events generalizing s with
  | nil => trivial
  | cons e rest ih => exact ⟨allowed.1.1, ih allowed.2⟩

/-- What every enabled event preserves holds at the end of every run. -/
theorem invariant_of_steps {I : σ → Prop} {s : σ} {events : List ε} (start : I s)
    (step : ∀ t e, I t → M.enabled t e → I (M.next t e)) (allowed : M.Allowed s events) :
    I (M.run s events) := by
  induction events generalizing s with
  | nil => exact start
  | cons e rest ih => exact ih (step s e start allowed.1) allowed.2

/-- The same for the runs whose events meet a condition. -/
theorem invariant_under_condition {condition : σ → ε → Prop} {I : σ → Prop} {s : σ}
    {events : List ε} (start : I s)
    (step : ∀ t e, I t → M.enabled t e → condition t e → I (M.next t e))
    (allowed : (M.under condition).Allowed s events) : I (M.run s events) :=
  @invariant_of_steps σ ε (M.under condition) I s events start
    (fun t e held enabled => step t e held enabled.1 enabled.2) allowed

/-- A relation that every enabled event respects relates the two ends of every run. -/
theorem related_of_steps {R : σ → σ → Prop} (refl : ∀ s, R s s)
    (trans : ∀ s t u, R s t → R t u → R s u) {s : σ} {events : List ε}
    (step : ∀ t e, M.enabled t e → R t (M.next t e)) (allowed : M.Allowed s events) :
    R s (M.run s events) := by
  induction events generalizing s with
  | nil => exact refl s
  | cons e rest ih => exact trans _ _ _ (step s e allowed.1) (ih allowed.2)

/-- Where every event of one machine is matched by a run of the other, so is every run. -/
theorem simulated_of_steps {σ' ε' : Type*} {N : Machine σ' ε'} {R : σ → σ' → Prop}
    (step : ∀ s t e, R s t → M.enabled s e →
      ∃ image, N.Allowed t image ∧ R (M.next s e) (N.run t image))
    {s : σ} {t : σ'} {events : List ε} (start : R s t) (allowed : M.Allowed s events) :
    ∃ image, N.Allowed t image ∧ R (M.run s events) (N.run t image) := by
  induction events generalizing s t with
  | nil => exact ⟨[], trivial, start⟩
  | cons e rest ih =>
    obtain ⟨first, ran, related⟩ := step s t e start allowed.1
    obtain ⟨others, more, reached⟩ := ih related allowed.2
    refine ⟨first ++ others, allowed_append.mpr ⟨ran, more⟩, ?_⟩
    rw [run_append]
    exact reached

end LibraryMachines
