import Mathlib.Algebra.GroupWithZero.Nat
import Mathlib.Algebra.Order.BigOperators.Group.List
import Mathlib.Algebra.Order.Group.Nat
import Mathlib.Data.Int.Order.Basic
import Mathlib.Data.List.GetD
import Mathlib.Tactic.SplitIfs

/-! # Days of the Gregorian calendar

The calendar is extended to all years, also before year one. Days are numbered from the
first of January 1970, and the numbers are ordered like the dates. -/
namespace LibraryCalendar

/-! ## Positions in a row of segments -/

def position (lengths : List ℕ) (index offset : ℕ) : ℕ := (lengths.take index).sum + offset

def locate : List ℕ → ℕ → ℕ × ℕ
  | [], n => (0, n)
  | length :: rest, n =>
    if n < length then (0, n)
    else ((locate rest (n - length)).1 + 1, (locate rest (n - length)).2)

def Inside (lengths : List ℕ) (index offset : ℕ) : Prop := offset < lengths.getD index 0

theorem Inside.index_lt {lengths : List ℕ} {index offset : ℕ}
    (inside : Inside lengths index offset) : index < lengths.length := by
  by_contra beyond
  unfold Inside at inside
  rw [List.getD_eq_default _ _ (not_lt.mp beyond)] at inside
  exact absurd inside (Nat.not_lt_zero _)

theorem Inside.position_lt_take {lengths : List ℕ} {index offset : ℕ}
    (inside : Inside lengths index offset) :
    position lengths index offset < (lengths.take (index + 1)).sum := by
  have bound := inside.index_lt
  unfold Inside at inside
  rw [List.getD_eq_getElem _ _ bound] at inside
  rw [position, List.take_add_one, List.getElem?_eq_getElem bound, List.sum_append]
  simpa using inside

theorem sum_take_le {lengths : List ℕ} {i j : ℕ} (h : i ≤ j) :
    (lengths.take i).sum ≤ (lengths.take j).sum :=
  List.Sublist.sum_le_sum (List.take_sublist_take_left h) fun _ _ => Nat.zero_le _

theorem position_lt_position {lengths : List ℕ} {i j a b : ℕ} (inside : Inside lengths i a)
    (h : i < j) : position lengths i a < position lengths j b :=
  lt_of_lt_of_le inside.position_lt_take ((sum_take_le h).trans (Nat.le_add_right _ _))

theorem position_lt_sum {lengths : List ℕ} {i a : ℕ} (inside : Inside lengths i a) :
    position lengths i a < lengths.sum := by
  have whole := @sum_take_le lengths _ _ inside.index_lt
  rw [List.take_length] at whole
  exact lt_of_lt_of_le inside.position_lt_take whole

theorem locate_spec {lengths : List ℕ} {n : ℕ} (h : n < lengths.sum) :
    Inside lengths (locate lengths n).1 (locate lengths n).2 ∧
      position lengths (locate lengths n).1 (locate lengths n).2 = n := by
  induction lengths generalizing n with
  | nil => exact absurd h (Nat.not_lt_zero n)
  | cons length rest ih =>
    rw [locate]
    split
    · rename_i first
      exact ⟨first, Nat.zero_add n⟩
    · rename_i later
      rw [List.sum_cons] at h
      obtain ⟨inside, at_n⟩ := ih (show n - length < rest.sum by omega)
      refine ⟨inside, ?_⟩
      rw [position] at at_n ⊢
      rw [List.take_succ_cons, List.sum_cons]
      omega

/-! ## Dates -/

def isLeap (year : ℤ) : Bool := year % 4 = 0 && (year % 100 ≠ 0 || year % 400 = 0)

def monthLengths (year : ℤ) : List ℕ :=
  [31, if isLeap year then 29 else 28, 31, 30, 31, 30, 31, 31, 30, 31, 30, 31]

def ValidDate (year : ℤ) (month day : ℕ) : Prop :=
  1 ≤ month ∧ 1 ≤ day ∧ Inside (monthLengths year) (month - 1) (day - 1)

instance (year : ℤ) (month day : ℕ) : Decidable (ValidDate year month day) :=
  inferInstanceAs (Decidable (_ ∧ _ ∧ _ < _))

@[ext] structure Date where
  year : ℤ
  month : ℕ
  day : ℕ
  valid : ValidDate year month day
  deriving DecidableEq

/-- Days between the first of January of year one and of this year. -/
def daysBeforeYear (year : ℤ) : ℤ :=
  365 * (year - 1) + (year - 1) / 4 - (year - 1) / 100 + (year - 1) / 400

/-- The day number of the first of January of year one, negated. -/
def epochDays : ℤ := 719162

def Date.dayNumber (d : Date) : ℤ :=
  daysBeforeYear d.year + position (monthLengths d.year) (d.month - 1) (d.day - 1) - epochDays

theorem daysBeforeYear_succ (year : ℤ) :
    daysBeforeYear (year + 1) = daysBeforeYear year + (monthLengths year).sum := by
  have length : ((monthLengths year).sum : ℤ) = if isLeap year then 366 else 365 := by
    unfold monthLengths
    split <;> rfl
  rw [length]
  unfold daysBeforeYear isLeap
  simp only [Bool.and_eq_true, decide_eq_true_eq, Bool.or_eq_true]
  split <;> omega

theorem daysBeforeYear_mono {a b : ℤ} (h : a ≤ b) : daysBeforeYear a ≤ daysBeforeYear b := by
  unfold daysBeforeYear
  omega

def Date.Before (a b : Date) : Prop :=
  a.year < b.year ∨ a.year = b.year ∧ (a.month < b.month ∨ a.month = b.month ∧ a.day < b.day)

theorem Date.before_irrefl (d : Date) : ¬ d.Before d := by
  unfold Before
  omega

theorem Date.dayNumber_bounds (d : Date) :
    daysBeforeYear d.year - epochDays ≤ d.dayNumber ∧
      d.dayNumber < daysBeforeYear (d.year + 1) - epochDays := by
  have inside := position_lt_sum d.valid.2.2
  rw [daysBeforeYear_succ, dayNumber]
  omega

theorem Date.dayNumber_lt_of_before {a b : Date} (h : a.Before b) :
    a.dayNumber < b.dayNumber := by
  rcases h with earlier | ⟨same, h⟩
  · have start := daysBeforeYear_mono (show a.year + 1 ≤ b.year by omega)
    have first := a.dayNumber_bounds.2
    have last := b.dayNumber_bounds.1
    omega
  · have hb := b.valid
    rw [dayNumber, dayNumber, same]
    have order : position (monthLengths b.year) (a.month - 1) (a.day - 1) <
        position (monthLengths b.year) (b.month - 1) (b.day - 1) := by
      have ha := a.valid
      rw [same] at ha
      rcases h with earlier | ⟨month, earlier⟩
      · exact position_lt_position ha.2.2 (by have := ha.1; omega)
      · have := ha.2.1
        rw [month, position, position]
        omega
    omega

theorem Date.before_trichotomy (a b : Date) : a.Before b ∨ a = b ∨ b.Before a := by
  rw [Date.ext_iff]
  unfold Before
  omega

theorem Date.dayNumber_lt {a b : Date} : a.dayNumber < b.dayNumber ↔ a.Before b := by
  refine ⟨fun h => ?_, dayNumber_lt_of_before⟩
  rcases before_trichotomy a b with before | rfl | after
  · exact before
  · exact absurd h (lt_irrefl _)
  · exact absurd h (dayNumber_lt_of_before after).le.not_gt

theorem Date.dayNumber_inj {a b : Date} : a.dayNumber = b.dayNumber ↔ a = b := by
  refine ⟨fun h => ?_, congrArg _⟩
  rcases before_trichotomy a b with before | same | after
  · exact absurd h (dayNumber_lt_of_before before).ne
  · exact same
  · exact absurd h (dayNumber_lt_of_before after).ne'

/-! ## The date of a day -/

/-- The year of the day `n` days after the first of January of year one. An average year
has 146097 / 400 days; the quotient is off by one year at most. -/
def yearOf (n : ℤ) : ℤ :=
  let guess := 400 * n / 146097 + 1
  if n < daysBeforeYear guess then guess - 1
  else if daysBeforeYear (guess + 1) ≤ n then guess + 1
  else guess

theorem yearOf_spec (n : ℤ) :
    daysBeforeYear (yearOf n) ≤ n ∧ n < daysBeforeYear (yearOf n + 1) := by
  unfold yearOf daysBeforeYear
  dsimp only
  split_ifs <;> omega

def monthAndDay (n : ℤ) : ℕ × ℕ :=
  locate (monthLengths (yearOf n)) (n - daysBeforeYear (yearOf n)).toNat

theorem monthAndDay_spec (n : ℤ) :
    Inside (monthLengths (yearOf n)) (monthAndDay n).1 (monthAndDay n).2 ∧
      (position (monthLengths (yearOf n)) (monthAndDay n).1 (monthAndDay n).2 : ℤ) =
        n - daysBeforeYear (yearOf n) := by
  obtain ⟨first, last⟩ := yearOf_spec n
  rw [daysBeforeYear_succ] at last
  obtain ⟨inside, at_n⟩ := @locate_spec (monthLengths (yearOf n))
    (n - daysBeforeYear (yearOf n)).toNat (by omega)
  refine ⟨inside, ?_⟩
  rw [monthAndDay, at_n]
  omega

def Date.ofDayNumber (n : ℤ) : Date where
  year := yearOf (n + epochDays)
  month := (monthAndDay (n + epochDays)).1 + 1
  day := (monthAndDay (n + epochDays)).2 + 1
  valid := ⟨Nat.le_add_left _ _, Nat.le_add_left _ _, (monthAndDay_spec _).1⟩

theorem Date.dayNumber_ofDayNumber (n : ℤ) : (ofDayNumber n).dayNumber = n := by
  have at_n := (monthAndDay_spec (n + epochDays)).2
  simp only [dayNumber, ofDayNumber, Nat.add_sub_cancel]
  omega

example : Date.ofDayNumber 0 = ⟨1970, 1, 1, by decide⟩ := by decide

example : Date.ofDayNumber 19782 = ⟨2024, 2, 29, by decide⟩ := by decide

end LibraryCalendar
