import Mathlib.Data.List.Infix

/-! # Splitting a list at a pattern

The first occurrence of a pattern, the last occurrence of an element and the repeated
removal of a leading pattern. -/
namespace LibrarySplitting

variable {α : Type*} [DecidableEq α]

def splitOnce (pattern : List α) : List α → Option (List α × List α)
  | [] => if pattern = [] then some ([], []) else none
  | x :: l =>
    if pattern.isPrefixOf (x :: l) then some ([], (x :: l).drop pattern.length)
    else (splitOnce pattern l).map fun parts => (x :: parts.1, parts.2)

def rsplitOnce (separator : α) : List α → Option (List α × List α)
  | [] => none
  | x :: l =>
    match rsplitOnce separator l with
    | some parts => some (x :: parts.1, parts.2)
    | none => if x = separator then some ([], l) else none

def trimTimes (pattern : List α) : ℕ → List α → List α
  | 0, l => l
  | n + 1, l =>
    if pattern.isPrefixOf l then trimTimes pattern n (l.drop pattern.length) else l

/-- A leading pattern is removed as often as it occurs. -/
def trimStartMatches (pattern l : List α) : List α := trimTimes pattern l.length l

theorem trimStartMatches_of_not_prefix {pattern l : List α} (h : pattern.isPrefixOf l = false) :
    trimStartMatches pattern l = l := by
  rw [trimStartMatches]
  cases l.length with
  | zero => rfl
  | succ n => rw [trimTimes, h, if_neg Bool.false_ne_true]

theorem rsplitOnce_of_not_mem {separator : α} {l : List α} (h : separator ∉ l) :
    rsplitOnce separator l = none := by
  induction l with
  | nil => rfl
  | cons x l ih =>
    have other : x ≠ separator := fun same => h (same ▸ List.mem_cons_self)
    rw [rsplitOnce, ih fun member => h (List.mem_cons_of_mem x member)]
    exact if_neg other

theorem rsplitOnce_append {separator : α} {front back : List α} (h : separator ∉ back) :
    rsplitOnce separator (front ++ separator :: back) = some (front, back) := by
  induction front with
  | nil => rw [List.nil_append, rsplitOnce, rsplitOnce_of_not_mem h, if_pos rfl]
  | cons x front ih => rw [List.cons_append, rsplitOnce, ih]

theorem splitOnce_eq_some {pattern l front back : List α}
    (h : splitOnce pattern l = some (front, back)) : l = front ++ pattern ++ back := by
  induction l generalizing front with
  | nil =>
    rw [splitOnce] at h
    split at h
    · rename_i empty
      obtain ⟨rfl, rfl⟩ := Prod.mk.inj (Option.some.inj h)
      rw [empty]
      rfl
    · cases h
  | cons x l ih =>
    rw [splitOnce] at h
    split at h
    · rename_i starts
      obtain ⟨rfl, rfl⟩ := Prod.mk.inj (Option.some.inj h)
      exact (List.prefix_iff_eq_append.mp (List.isPrefixOf_iff_prefix.mp starts)).symm
    · obtain ⟨parts, found, h⟩ := Option.map_eq_some_iff.mp h
      obtain ⟨rfl, rfl⟩ := Prod.mk.inj h
      rw [ih found]
      rfl

section Pattern

variable {head : α} {tail : List α}

theorem splitOnce_cons_of_ne {x : α} (h : x ≠ head) (l : List α) :
    splitOnce (head :: tail) (x :: l) =
      (splitOnce (head :: tail) l).map fun parts => (x :: parts.1, parts.2) := by
  rw [splitOnce, if_neg]
  simp [List.isPrefixOf, Ne.symm h]

theorem splitOnce_append_left {front : List α} (h : head ∉ front) (l : List α) :
    splitOnce (head :: tail) (front ++ l) =
      (splitOnce (head :: tail) l).map fun parts => (front ++ parts.1, parts.2) := by
  induction front with
  | nil => simp
  | cons x front ih =>
    have other : x ≠ head := fun same => h (same ▸ List.mem_cons_self)
    rw [List.cons_append, splitOnce_cons_of_ne other,
      ih fun member => h (List.mem_cons_of_mem x member), Option.map_map]
    rfl

theorem splitOnce_head (l : List α) :
    splitOnce (head :: tail) (head :: l) =
      if tail.isPrefixOf l then some ([], l.drop tail.length)
      else (splitOnce (head :: tail) l).map fun parts => (head :: parts.1, parts.2) := by
  rw [splitOnce]
  simp [List.isPrefixOf]

/-- An occurrence does not cross an element the pattern does not have. -/
theorem isPrefixOf_append_cons {pattern front back : List α} {x : α} (h : x ∉ pattern) :
    pattern.isPrefixOf (front ++ x :: back) = pattern.isPrefixOf front := by
  induction pattern generalizing front with
  | nil => rfl
  | cons p pattern ih =>
    have other : x ≠ p := fun same => h (same ▸ List.mem_cons_self)
    have rest : x ∉ pattern := fun member => h (List.mem_cons_of_mem p member)
    cases front with
    | nil => simp [List.isPrefixOf, Ne.symm other]
    | cons y front => simp [List.isPrefixOf, ih rest]

theorem splitOnce_append_cons {x : α} (h : x ∉ head :: tail) (front back : List α) :
    splitOnce (head :: tail) (front ++ x :: back) =
      match splitOnce (head :: tail) front with
      | some parts => some (parts.1, parts.2 ++ x :: back)
      | none => (splitOnce (head :: tail) back).map
          fun parts => (front ++ x :: parts.1, parts.2) := by
  induction front with
  | nil =>
    have other : x ≠ head := fun same => h (same ▸ List.mem_cons_self)
    rw [List.nil_append, splitOnce_cons_of_ne other]
    rfl
  | cons y front ih =>
    have same := @isPrefixOf_append_cons _ _ (head :: tail) (y :: front) back x h
    rw [List.cons_append] at same ⊢
    rw [splitOnce, splitOnce, same]
    by_cases starts : (head :: tail).isPrefixOf (y :: front) = true
    · rw [if_pos starts, if_pos starts]
      have short := (List.isPrefixOf_iff_prefix.mp starts).length_le
      simp only [Option.some.injEq, Prod.mk.injEq, true_and]
      rw [← List.cons_append, List.drop_append_of_le_length short]
    · rw [if_neg starts, if_neg starts, ih]
      cases splitOnce (head :: tail) front with
      | some parts => rfl
      | none =>
        simp only [Option.map_none, Option.map_map]
        rfl

end Pattern

end LibrarySplitting
