import Mathlib.Data.List.Basic
import Mathlib.Logic.Function.Basic

/-! # Codes that are read from the left

A code gives every symbol a word. If the word a text starts with tells its symbol, and with it
the place where the word ends, then a text made of words is read in one way only. -/
namespace LibraryCodes

variable {α γ : Type*} {code : α → List γ}

/-- The first symbol and what follows its word are determined by the text. -/
def ReadsBack (code : α → List γ) : Prop :=
  ∀ a b x y, code a ++ x = code b ++ y → a = b ∧ x = y

/-- A word that ends with a symbol of its own is told from what follows it. -/
theorem closed_word_inj {stop : γ} {l k x y : List γ} (hl : stop ∉ l) (hk : stop ∉ k)
    (same : l ++ stop :: x = k ++ stop :: y) : l = k ∧ x = y := by
  induction l generalizing k with
  | nil =>
    cases k with
    | nil => exact ⟨rfl, (List.cons.inj same).2⟩
    | cons b k => exact absurd (List.cons.inj same).1 (List.ne_of_not_mem_cons hk)
  | cons a l ih =>
    cases k with
    | nil => exact absurd (List.cons.inj same).1.symm (List.ne_of_not_mem_cons hl)
    | cons b k =>
      obtain ⟨rfl, rest⟩ := List.cons.inj same
      obtain ⟨rfl, tail⟩ := ih (List.not_mem_of_not_mem_cons hl)
        (List.not_mem_of_not_mem_cons hk) rest
      exact ⟨rfl, tail⟩

theorem flatMap_injective (reads : ReadsBack code) (nonempty : ∀ a, code a ≠ []) :
    Function.Injective fun l : List α => l.flatMap code := by
  intro l k same
  dsimp only at same
  induction l generalizing k with
  | nil =>
    cases k with
    | nil => rfl
    | cons b k =>
      rw [List.flatMap_nil, List.flatMap_cons, List.nil_eq, List.append_eq_nil_iff] at same
      exact absurd same.1 (nonempty b)
  | cons a l ih =>
    cases k with
    | nil =>
      rw [List.flatMap_nil, List.flatMap_cons, List.append_eq_nil_iff] at same
      exact absurd same.1 (nonempty a)
    | cons b k =>
      rw [List.flatMap_cons, List.flatMap_cons] at same
      obtain ⟨rfl, rest⟩ := reads a b _ _ same
      rw [ih rest]

theorem flatMap_locate {l : List α} {before after : List γ} {c : γ}
    (text : l.flatMap code = before ++ c :: after) :
    ∃ front a back u v, l = front ++ a :: back ∧ code a = u ++ c :: v ∧
      before = front.flatMap code ++ u ∧ after = v ++ back.flatMap code := by
  induction l generalizing before with
  | nil => simp at text
  | cons a l ih =>
    rw [List.flatMap_cons] at text
    rcases List.append_eq_append_iff.mp text with ⟨u, rfl, rest⟩ | ⟨v, word, rest⟩
    · obtain ⟨front, b, back, u, v, rfl, word, rfl, rfl⟩ := ih rest
      exact ⟨a :: front, b, back, u, v, rfl, word, by simp, rfl⟩
    · cases v with
      | nil =>
        obtain ⟨front, b, back, u, v, rfl, word', start, rfl⟩ := @ih [] rest.symm
        refine ⟨a :: front, b, back, u, v, rfl, word', ?_, rfl⟩
        rw [List.flatMap_cons, List.append_assoc, ← start, List.append_nil, word, List.append_nil]
      | cons d v =>
        obtain ⟨rfl, rfl⟩ := List.cons.inj rest
        exact ⟨[], a, l, before, v, rfl, word, rfl, rfl⟩

end LibraryCodes
