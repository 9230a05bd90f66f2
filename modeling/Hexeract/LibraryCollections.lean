import Mathlib.Data.List.Sort
import Mathlib.Data.List.AList
import Mathlib.Data.Fintype.Card
import Mathlib.Algebra.BigOperators.Group.Finset.Piecewise
import Mathlib.Tactic.Linarith

/-! # Checked computations, sorting, last writes and counting

Small theories used by the models: inversion of computations that may fail, the
canonical form that sorting gives to a multiset, the value a key holds after a list of
writes, the number of members of a finite family that satisfy a predicate when one
member is replaced, and the number of spaced instants in a window. -/
namespace LibraryCollections

section Checked

variable {ε : Type*} {α β : Type}

theorem bind_ok {x : Except ε α} {f : α → Except ε β} {b : β} :
    x >>= f = .ok b ↔ ∃ a, x = .ok a ∧ f a = .ok b := by
  cases x with
  | error e => simp [bind, Except.bind]
  | ok a => simp [bind, Except.bind]

theorem ok_bind (a : α) (f : α → Except ε β) : (Except.ok a >>= f) = f a := rfl

theorem check_bind_ok {x : Except ε Unit} {f : Unit → Except ε β} {b : β} :
    x >>= f = .ok b ↔ x = .ok () ∧ f () = .ok b := by
  rw [bind_ok]
  constructor
  · rintro ⟨⟨⟩, hx, hf⟩
    exact ⟨hx, hf⟩
  · rintro ⟨hx, hf⟩
    exact ⟨(), hx, hf⟩

theorem bind_ok_of_iff {x : Except ε α} {f : α → Except ε β} {condition : Prop} {a : α} {b : β}
    (spec : ∀ c, x = .ok c ↔ condition ∧ c = a) :
    x >>= f = .ok b ↔ condition ∧ f a = .ok b := by
  rw [bind_ok]
  constructor
  · rintro ⟨c, computed, rest⟩
    obtain ⟨met, rfl⟩ := (spec c).mp computed
    exact ⟨met, rest⟩
  · rintro ⟨met, rest⟩
    exact ⟨a, (spec a).mpr ⟨met, rfl⟩, rest⟩

theorem map_ok {x : Except ε α} {f : α → β} {b : β} :
    x.map f = .ok b ↔ ∃ a, x = .ok a ∧ f a = b := by
  cases x with
  | error e => simp [Except.map]
  | ok a => simp [Except.map]

theorem mapError_ok {δ : Type*} {x : Except ε α} {f : ε → δ} {a : α} :
    x.mapError f = .ok a ↔ x = .ok a := by
  cases x with
  | error e => simp [Except.mapError]
  | ok b => simp [Except.mapError]

theorem toOption_eq_some {x : Except ε α} {a : α} : x.toOption = some a ↔ x = .ok a := by
  cases x <;> simp [Except.toOption]

theorem optionMapM_ok {x : Option α} {f : α → Except ε β} {out : Option β} :
    x.mapM f = .ok out ↔
      (x = none ∧ out = none) ∨ ∃ a b, x = some a ∧ f a = .ok b ∧ out = some b := by
  cases x with
  | none =>
    constructor
    · rintro ⟨⟩
      exact Or.inl ⟨rfl, rfl⟩
    · rintro (⟨_, rfl⟩ | ⟨a, b, h, _⟩)
      · rfl
      · cases h
  | some a =>
    rw [Option.mapM_some]
    constructor
    · intro h
      obtain ⟨b, hb, rfl⟩ := map_ok.mp h
      exact Or.inr ⟨a, b, rfl, hb, rfl⟩
    · rintro (⟨h, _⟩ | ⟨c, b, h, hb, rfl⟩)
      · cases h
      · cases h
        exact map_ok.mpr ⟨b, hb, rfl⟩

/-- A loop that collects its results and stops at the first failure succeeds exactly if
every element does. -/
theorem exists_listMapM_ok {f : α → Except ε β} {l : List α} :
    (∃ out, l.mapM f = .ok out) ↔ ∀ a ∈ l, ∃ b, f a = .ok b := by
  induction l with
  | nil =>
    constructor
    · rintro _ a ⟨⟩
    · intro _
      exact ⟨[], rfl⟩
  | cons a rest ih =>
    rw [List.forall_mem_cons, ← ih]
    simp only [List.mapM_cons, bind_ok]
    constructor
    · rintro ⟨_, b, first, others, collected, _⟩
      exact ⟨⟨b, first⟩, others, collected⟩
    · rintro ⟨⟨b, first⟩, others, collected⟩
      exact ⟨b :: others, b, first, others, collected, rfl⟩

theorem mem_listMapM_ok {f : α → Except ε β} {l : List α} {out : List β}
    (h : l.mapM f = .ok out) {b : β} : b ∈ out ↔ ∃ a ∈ l, f a = .ok b := by
  induction l generalizing out with
  | nil =>
    cases h
    simp
  | cons first rest ih =>
    rw [List.mapM_cons, bind_ok] at h
    obtain ⟨c, head, h⟩ := h
    obtain ⟨others, collected, shape⟩ := bind_ok.mp h
    cases shape
    rw [List.mem_cons, ih collected]
    simp [head, eq_comm]

theorem exists_of_isOk {x : Except ε α} (h : x.isOk = true) : ∃ a, x = .ok a := by
  cases x with
  | error e => cases h
  | ok a => exact ⟨a, rfl⟩

/-- A loop that stops at the first failing element. -/
def checkAll (check : α → Except ε Unit) : List α → Except ε Unit
  | [] => .ok ()
  | a :: rest =>
    match check a with
    | .error e => .error e
    | .ok _ => checkAll check rest

theorem checkAll_ok {check : α → Except ε Unit} {l : List α} :
    checkAll check l = .ok () ↔ ∀ a ∈ l, check a = .ok () := by
  induction l with
  | nil => simp [checkAll]
  | cons a rest ih =>
    simp only [checkAll, List.forall_mem_cons, ← ih]
    cases h : check a <;> simp

end Checked

section Sorting

variable {α : Type*}

/-- Sorting by a comparator. Elements that compare equal are equal in all our uses, so
an unstable sort computes the same list. -/
def sortBy (cmp : α → α → Ordering) (l : List α) : List α :=
  l.insertionSort fun a b => (cmp a b).isLE = true

theorem sortBy_perm (cmp : α → α → Ordering) (l : List α) : (sortBy cmp l).Perm l :=
  List.perm_insertionSort _ l

theorem sortBy_pairwise (cmp : α → α → Ordering) [Std.TransCmp cmp] (l : List α) :
    (sortBy cmp l).Pairwise fun a b => (cmp a b).isLE = true := by
  have total : Std.Total fun a b => (cmp a b).isLE = true := ⟨fun a b => by
    rcases h : cmp a b with _ | _ | _
    · exact Or.inl rfl
    · exact Or.inl rfl
    · exact Or.inr (by rw [Std.OrientedCmp.lt_of_gt h]; rfl)⟩
  have trans : IsTrans α fun a b => (cmp a b).isLE = true :=
    ⟨fun _ _ _ hab hbc => Std.TransCmp.isLE_trans hab hbc⟩
  exact List.pairwise_insertionSort _ l

theorem sortBy_eq_iff (cmp : α → α → Ordering) [Std.TransCmp cmp] [Std.LawfulEqCmp cmp]
    {l k : List α} : sortBy cmp l = sortBy cmp k ↔ l.Perm k := by
  constructor
  · intro h
    exact (sortBy_perm cmp l).symm.trans (h ▸ sortBy_perm cmp k)
  · intro h
    apply List.Perm.eq_of_pairwise _ (sortBy_pairwise cmp l) (sortBy_pairwise cmp k)
    · exact (sortBy_perm cmp l).trans (h.trans (sortBy_perm cmp k).symm)
    · intro a b _ _ hab hba
      exact Std.LawfulEqCmp.eq_of_compare (Std.OrientedCmp.isLE_antisymm hab hba)

/-- In a list sorted by a key the first `n` are those with fewer than `n` before them. -/
theorem mem_take_iff_countP {β : Type*} [LinearOrder β] {key : α → β} {l : List α}
    (sorted : l.Pairwise fun a b => key a < key b) {x : α} (mem : x ∈ l) (n : ℕ) :
    x ∈ l.take n ↔ l.countP (fun y => decide (key y < key x)) < n := by
  induction l generalizing n with
  | nil => cases mem
  | cons a rest ih =>
    obtain ⟨first, sorted⟩ := List.pairwise_cons.mp sorted
    cases n with
    | zero => simp
    | succ n =>
      rw [List.take_succ_cons, List.mem_cons, List.countP_cons]
      rcases List.mem_cons.mp mem with rfl | mem
      · have none : rest.countP (fun y => decide (key y < key x)) = 0 := by
          rw [List.countP_eq_zero]
          intro y behind
          simpa using (first y behind).le
        simp [none]
      · have before : key a < key x := first x mem
        have ne : x ≠ a := by
          rintro rfl
          exact lt_irrefl _ before
        simp [before, ne, ih sorted mem n]

end Sorting

section LastWrite

variable {κ ν μ : Type*} [DecidableEq κ]

/-- The value of a key after the listed writes, in order, to an empty map. -/
def lastValue : List (κ × ν) → κ → Option ν
  | [], _ => none
  | (k, v) :: rest, key => (lastValue rest key).or (if k = key then some v else none)

theorem lastValue_map (l : List (κ × ν)) (g : ν → μ) (key : κ) :
    lastValue (l.map fun pair => (pair.1, g pair.2)) key = (lastValue l key).map g := by
  induction l with
  | nil => rfl
  | cons pair rest ih =>
    obtain ⟨k, v⟩ := pair
    simp only [List.map_cons, lastValue, ih, Option.map_or]
    by_cases h : k = key <;> simp [h]

theorem lastValue_append (l k : List (κ × ν)) (key : κ) :
    lastValue (l ++ k) key = (lastValue k key).or (lastValue l key) := by
  induction l with
  | nil => simp [lastValue]
  | cons pair l ih =>
    obtain ⟨a, v⟩ := pair
    simp only [List.cons_append, lastValue, ih, Option.or_assoc]

theorem lastValue_eq_none {l : List (κ × ν)} {key : κ} :
    lastValue l key = none ↔ ∀ pair ∈ l, pair.1 ≠ key := by
  induction l with
  | nil => simp [lastValue]
  | cons pair l ih =>
    obtain ⟨a, v⟩ := pair
    simp only [lastValue, Option.or_eq_none_iff, ih, List.forall_mem_cons]
    by_cases h : a = key <;> simp [h]

theorem mem_of_lastValue {l : List (κ × ν)} {key : κ} {v : ν}
    (h : lastValue l key = some v) : (key, v) ∈ l := by
  induction l with
  | nil => cases h
  | cons pair l ih =>
    obtain ⟨a, w⟩ := pair
    simp only [lastValue, Option.or_eq_some_iff] at h
    rcases h with h | ⟨_, h⟩
    · exact List.mem_cons_of_mem _ (ih h)
    · by_cases same : a = key
      · subst same
        simp only [if_true, Option.some.injEq] at h
        rw [h]
        exact List.mem_cons_self
      · simp [same] at h

theorem lastValue_entries (m : AList fun _ : κ => ν) (key : κ) :
    lastValue (m.entries.map fun entry => (entry.1, entry.2)) key = m.lookup key := by
  obtain ⟨entries, nodup⟩ := m
  simp only [AList.lookup]
  induction entries with
  | nil => rfl
  | cons entry rest ih =>
    obtain ⟨k, v⟩ := entry
    obtain ⟨fresh, nodup⟩ := List.nodupKeys_cons.mp nodup
    rw [List.map_cons, lastValue, ih nodup]
    by_cases h : k = key
    · subst h
      rw [List.dlookup_eq_none.mpr fresh, List.dlookup_cons_eq]
      simp
    · rw [List.dlookup_cons_ne _ _ (Ne.symm h)]
      simp [h]

def writeAll (m : AList fun _ : κ => ν) (writes : List (κ × ν)) : AList fun _ : κ => ν :=
  writes.foldl (fun m pair => m.insert pair.1 pair.2) m

theorem lookup_writeAll (m : AList fun _ : κ => ν) (writes : List (κ × ν)) (key : κ) :
    (writeAll m writes).lookup key = (lastValue writes key).or (m.lookup key) := by
  unfold writeAll
  induction writes generalizing m with
  | nil => simp [lastValue]
  | cons pair rest ih =>
    obtain ⟨k, v⟩ := pair
    rw [List.foldl_cons, ih, lastValue, Option.or_assoc]
    by_cases h : k = key
    · subst h
      simp
    · rw [AList.lookup_insert_ne (Ne.symm h)]
      simp [h]

theorem insert_entries_sublist (m : AList fun _ : κ => ν) (k : κ) (v : ν) :
    (m.insert k v).entries.Sublist (⟨k, v⟩ :: m.entries) := by
  rw [AList.entries_insert]
  exact (List.kerase_sublist k m.entries).cons_cons _

end LastWrite

section Counting

variable {ι α : Type*} [Fintype ι]

/-- How many members of the family satisfy `p`. -/
def countOf (p : α → Bool) (f : ι → α) : ℕ := (Finset.univ.filter fun i => p (f i) = true).card

theorem sum_update [DecidableEq ι] (weight : α → ℕ) (f : ι → α) (i : ι) (a : α) :
    ∑ j, weight (Function.update f i a j) + weight (f i) = ∑ j, weight (f j) + weight a := by
  have replaced : (fun j => weight (Function.update f i a j)) =
      Function.update (fun j => weight (f j)) i (weight a) := by
    funext j
    exact Function.apply_update (fun _ => weight) f i a j
  rw [replaced, Finset.sum_update_of_mem (Finset.mem_univ i), Finset.sdiff_singleton_eq_erase,
    ← Finset.add_sum_erase _ (fun j => weight (f j)) (Finset.mem_univ i)]
  omega

theorem countOf_eq_sum (p : α → Bool) (f : ι → α) : countOf p f = ∑ i, (p (f i)).toNat := by
  rw [countOf, Finset.card_filter]
  refine Finset.sum_congr rfl fun i _ => ?_
  cases p (f i) <;> rfl

theorem countOf_update [DecidableEq ι] (p : α → Bool) (f : ι → α) (i : ι) (a : α) :
    countOf p (Function.update f i a) + (p (f i)).toNat = countOf p f + (p a).toNat := by
  rw [countOf_eq_sum, countOf_eq_sum]
  exact sum_update (fun b => (p b).toNat) f i a

theorem countOf_const (p : α → Bool) (a : α) (h : p a = false) :
    countOf p (fun _ : ι => a) = 0 := by
  simp [countOf, h]

theorem countOf_eq_zero (p : α → Bool) (f : ι → α) :
    countOf p f = 0 ↔ ∀ i, p (f i) = false := by
  simp [countOf, Finset.filter_eq_empty_iff]

theorem countOf_le {p q : α → Bool} {f : ι → α} (h : ∀ i, p (f i) = true → q (f i) = true) :
    countOf p f ≤ countOf q f :=
  Finset.card_le_card fun i hi => by
    simp only [Finset.mem_filter, Finset.mem_univ, true_and] at hi ⊢
    exact h i hi

end Counting

section Spacing

/-- Instants that are a gap apart: a list of them that starts at or after `first` and ends
by `last` has at most one instant for each gap that fits, and one more. -/
theorem length_mul_gap_le {gap first last : ℕ} {l : List ℕ} (order : first ≤ last)
    (spaced : l.Pairwise fun a b => a + gap ≤ b) (bounds : ∀ a ∈ l, first ≤ a ∧ a ≤ last) :
    l.length * gap ≤ last - first + gap := by
  induction l generalizing first with
  | nil => exact (Nat.zero_mul gap).le.trans (Nat.zero_le _)
  | cons a rest ih =>
    obtain ⟨apart, spacedRest⟩ := List.pairwise_cons.mp spaced
    have here : first ≤ a ∧ a ≤ last := bounds a List.mem_cons_self
    cases rest with
    | nil =>
      rw [List.length_singleton, Nat.one_mul]
      exact Nat.le_add_left gap _
    | cons b tail =>
      have room : a + gap ≤ last :=
        (apart b List.mem_cons_self).trans (bounds b (by simp)).2
      have fits := ih room spacedRest fun c hc =>
        ⟨apart c hc, (bounds c (List.mem_cons_of_mem a hc)).2⟩
      rw [List.length_cons, Nat.succ_mul]
      omega

theorem countP_window_le {gap : ℕ} (positive : 0 < gap) {l : List ℕ}
    (spaced : l.Pairwise fun a b => a + gap ≤ b) (first span : ℕ) :
    l.countP (fun a => decide (first ≤ a ∧ a ≤ first + span)) ≤ 1 + span / gap := by
  rw [List.countP_eq_length_filter]
  have bound := length_mul_gap_le (Nat.le_add_right first span) (spaced.filter _) fun a ha =>
    of_decide_eq_true (List.mem_filter.mp ha).2
  rw [Nat.add_sub_cancel_left] at bound
  rw [Nat.add_comm 1, ← Nat.add_div_right span positive]
  exact (Nat.le_div_iff_mul_le positive).mpr bound

end Spacing

end LibraryCollections
