import Mathlib.Data.Nat.Notation
import Mathlib.Data.Int.Notation
import Mathlib.Data.List.Lex
import Mathlib.Tactic.IntervalCases
import Mathlib.Tactic.Positivity
import Mathlib.Tactic.Tauto

/-! # Decimal text of integers

Rendering writes no leading zero and no plus sign. Reading accepts one optional sign
followed by at least one digit and nothing else, as the integer parsers of the
standard library do; the caller applies the range of its own type. Numbers of one width
are padded with zeros, which makes their texts ordered like the numbers. -/
namespace LibraryDecimalText

def digitValue (c : Char) : Option ℕ :=
  if 48 ≤ c.toNat ∧ c.toNat ≤ 57 then some (c.toNat - 48) else none

def accumulate : ℕ → List Char → Option ℕ
  | acc, [] => some acc
  | acc, c :: cs => (digitValue c).bind fun d => accumulate (acc * 10 + d) cs

def parseNat : List Char → Option ℕ
  | [] => none
  | c :: cs => accumulate 0 (c :: cs)

def parseUnsigned : List Char → Option ℕ
  | '+' :: cs => parseNat cs
  | cs => parseNat cs

def parseSigned : List Char → Option ℤ
  | '-' :: cs => (parseNat cs).map fun n => -(n : ℤ)
  | '+' :: cs => (parseNat cs).map fun n => (n : ℤ)
  | cs => (parseNat cs).map fun n => (n : ℤ)

def renderNat (n : ℕ) : List Char := Nat.toDigits 10 n

def renderInt : ℤ → List Char
  | .ofNat n => renderNat n
  | .negSucc n => '-' :: renderNat (n + 1)

theorem accumulate_append (acc : ℕ) (cs ds : List Char) :
    accumulate acc (cs ++ ds) = (accumulate acc cs).bind fun a => accumulate a ds := by
  induction cs generalizing acc with
  | nil => rfl
  | cons c cs ih =>
    simp only [List.cons_append, accumulate, Option.bind_assoc]
    congr 1
    funext d
    exact ih _

theorem digitValue_digitChar {d : ℕ} (h : d < 10) : digitValue (Nat.digitChar d) = some d := by
  interval_cases d <;> rfl

/-- Strong induction on the value, peeling the last digit. -/
theorem accumulate_renderNat (n : ℕ) : accumulate 0 (renderNat n) = some n := by
  induction n using Nat.strongRecOn with
  | ind n ih =>
    by_cases hn : n < 10
    · simp [renderNat, Nat.toDigits_of_lt_base hn, accumulate, digitValue_digitChar hn]
    · have hq : 0 < n / 10 := by omega
      have hr : n % 10 < 10 := Nat.mod_lt _ (by decide)
      have hsplit := Nat.toDigits_append_toDigits (b := 10) (n := n / 10) (d := n % 10)
        (by decide) hq hr
      rw [Nat.toDigits_of_lt_base hr, Nat.div_add_mod] at hsplit
      have hi : accumulate 0 (Nat.toDigits 10 (n / 10)) = some (n / 10) := ih (n / 10) (by omega)
      rw [renderNat, ← hsplit, accumulate_append, hi]
      simp only [Option.bind_some, accumulate, digitValue_digitChar hr, Option.some.injEq]
      omega

theorem digitValue_of_accumulate {acc n : ℕ} {cs : List Char}
    (h : accumulate acc cs = some n) : ∀ c ∈ cs, (digitValue c).isSome := by
  induction cs generalizing acc with
  | nil => simp
  | cons c cs ih =>
    obtain ⟨d, hd, hrest⟩ := Option.bind_eq_some_iff.mp h
    intro x hx
    rcases List.mem_cons.mp hx with rfl | hx
    · simp [hd]
    · exact ih hrest x hx

theorem renderNat_ne_nil (n : ℕ) : renderNat n ≠ [] := Nat.toDigits_ne_nil

theorem parseNat_renderNat (n : ℕ) : parseNat (renderNat n) = some n := by
  have h := accumulate_renderNat n
  have hne := renderNat_ne_nil n
  generalize renderNat n = cs at h hne
  cases cs with
  | nil => exact absurd rfl hne
  | cons c cs => exact h

theorem parseSigned_renderInt (i : ℤ) : parseSigned (renderInt i) = some i := by
  cases i with
  | ofNat n =>
    have hp := parseNat_renderNat n
    have hd := digitValue_of_accumulate (accumulate_renderNat n)
    simp only [renderInt]
    generalize renderNat n = cs at hp hd
    unfold parseSigned
    split
    · exact absurd (hd '-' List.mem_cons_self) (by decide)
    · exact absurd (hd '+' List.mem_cons_self) (by decide)
    · simp [hp]
  | negSucc n =>
    simp only [renderInt, parseSigned, parseNat_renderNat, Int.negSucc_eq]
    rfl

/-! ## Fixed width -/

/-- The last `width` decimal digits, most significant first. -/
def padded : ℕ → ℕ → List Char
  | 0, _ => []
  | width + 1, n => Nat.digitChar (n / 10 ^ width % 10) :: padded width n

/-- Exactly `width` digits, and what follows them. -/
def takeDigits : ℕ → List Char → Option (ℕ × List Char)
  | 0, s => some (0, s)
  | _ + 1, [] => none
  | width + 1, c :: s =>
    (digitValue c).bind fun d =>
      (takeDigits width s).map fun rest => (d * 10 ^ width + rest.1, rest.2)

@[simp] theorem length_padded (width n : ℕ) : (padded width n).length = width := by
  induction width with
  | zero => rfl
  | succ width ih => rw [padded, List.length_cons, ih]

theorem padded_mod (width n k : ℕ) : padded width (n % 10 ^ (width + k)) = padded width n := by
  induction width generalizing k with
  | zero => rfl
  | succ width ih =>
    have same := ih (k + 1)
    rw [show width + (k + 1) = width + 1 + k by omega] at same
    rw [padded, padded, same]
    congr 2
    rw [show width + 1 + k = width + (1 + k) by omega, Nat.pow_add, Nat.mod_mul_right_div_self,
      Nat.pow_add, Nat.mod_mul_right_mod]

theorem digitValue_eq_some {c : Char} {d : ℕ} :
    digitValue c = some d ↔ d < 10 ∧ c = Nat.digitChar d := by
  constructor
  · intro h
    unfold digitValue at h
    split at h
    · rename_i digit
      obtain rfl := Option.some.inj h
      refine ⟨by omega, Char.toNat_inj.mp ?_⟩
      rw [Nat.toNat_digitChar_of_lt_ten (by omega)]
      omega
    · cases h
  · rintro ⟨small, rfl⟩
    exact digitValue_digitChar small

theorem takeDigits_padded {width n : ℕ} (small : n < 10 ^ width) (rest : List Char) :
    takeDigits width (padded width n ++ rest) = some (n, rest) := by
  induction width generalizing n with
  | zero =>
    obtain rfl : n = 0 := by simpa using small
    rfl
  | succ width ih =>
    have digit : n / 10 ^ width < 10 := by
      rw [Nat.div_lt_iff_lt_mul (by positivity)]
      rwa [Nat.pow_succ, Nat.mul_comm] at small
    have lower := ih (Nat.mod_lt n (show 0 < 10 ^ width by positivity))
    have same := padded_mod width n 0
    rw [Nat.add_zero] at same
    rw [same] at lower
    rw [padded, List.cons_append, takeDigits, Nat.mod_eq_of_lt digit, digitValue_digitChar digit,
      Option.bind_some, lower, Option.map_some, Nat.div_add_mod']

theorem takeDigits_eq_some {width n : ℕ} {s rest : List Char} :
    takeDigits width s = some (n, rest) ↔ n < 10 ^ width ∧ s = padded width n ++ rest := by
  constructor
  · intro h
    induction width generalizing n s with
    | zero =>
      obtain ⟨rfl, rfl⟩ := Prod.mk.inj (Option.some.inj h)
      exact ⟨Nat.one_pos, rfl⟩
    | succ width ih =>
      cases s with
      | nil => cases h
      | cons c s =>
        obtain ⟨d, digit, h⟩ := Option.bind_eq_some_iff.mp h
        obtain ⟨⟨m, rest'⟩, lower, h⟩ := Option.map_eq_some_iff.mp h
        obtain ⟨rfl, rfl⟩ := Prod.mk.inj h
        obtain ⟨small, rfl⟩ := ih lower
        obtain ⟨below, rfl⟩ := digitValue_eq_some.mp digit
        have bound : d * 10 ^ width + m < 10 ^ (width + 1) := by
          have := Nat.mul_le_mul_right (10 ^ width) (show d ≤ 9 by omega)
          rw [Nat.pow_succ]
          omega
        refine ⟨bound, ?_⟩
        have lead : (d * 10 ^ width + m) / 10 ^ width = d := by
          rw [Nat.add_comm, Nat.add_mul_div_right _ _ (by positivity), Nat.div_eq_of_lt small,
            Nat.zero_add]
        have tail := padded_mod width (d * 10 ^ width + m) 0
        rw [Nat.add_zero, Nat.mul_add_mod', Nat.mod_eq_of_lt small] at tail
        rw [padded, lead, Nat.mod_eq_of_lt below, ← tail, List.cons_append]
  · rintro ⟨small, rfl⟩
    exact takeDigits_padded small rest

theorem padded_inj {width n m : ℕ} (hn : n < 10 ^ width) (hm : m < 10 ^ width) :
    padded width n = padded width m ↔ n = m := by
  constructor
  · intro same
    have read := takeDigits_padded hn []
    rw [same, takeDigits_padded hm] at read
    exact (Prod.mk.inj (Option.some.inj read)).1.symm
  · rintro rfl
    rfl

theorem append_lt_append {a a' b b' : List Char} (len : a.length = a'.length) :
    a ++ b < a' ++ b' ↔ a < a' ∨ a = a' ∧ b < b' := by
  induction a generalizing a' with
  | nil =>
    obtain rfl : a' = [] := List.length_eq_zero_iff.mp len.symm
    simp
  | cons c a ih =>
    cases a' with
    | nil => cases len
    | cons c' a' =>
      rw [List.cons_append, List.cons_append, List.cons_lt_cons_iff, List.cons_lt_cons_iff,
        ih (Nat.succ.inj len), List.cons.injEq]
      tauto

theorem digitChar_lt {d e : ℕ} (hd : d < 10) (he : e < 10) :
    Nat.digitChar d < Nat.digitChar e ↔ d < e := by
  rw [Char.lt_def, UInt32.lt_iff_toNat_lt]
  change (Nat.digitChar d).toNat < (Nat.digitChar e).toNat ↔ d < e
  rw [Nat.toNat_digitChar_of_lt_ten hd, Nat.toNat_digitChar_of_lt_ten he]
  omega

theorem lt_iff_div_mod {k n m : ℕ} (pos : 0 < k) :
    n < m ↔ n / k < m / k ∨ n / k = m / k ∧ n % k < m % k := by
  have hn := Nat.div_add_mod n k
  have hm := Nat.div_add_mod m k
  have rn := Nat.mod_lt n pos
  have rm := Nat.mod_lt m pos
  -- a whole step of the quotient outweighs every remainder
  have step : ∀ {a b : ℕ}, a < b → k * a + k ≤ k * b := fun h => by
    rw [← Nat.mul_succ]
    exact Nat.mul_le_mul_left k h
  rcases lt_trichotomy (n / k) (m / k) with below | same | above
  · have := step below
    omega
  · rw [same] at hn ⊢
    omega
  · have := step above
    omega

theorem padded_lt {width n m : ℕ} (hn : n < 10 ^ width) (hm : m < 10 ^ width) :
    padded width n < padded width m ↔ n < m := by
  induction width generalizing n m with
  | zero =>
    simp only [Nat.pow_zero, Nat.lt_one_iff] at hn hm
    subst hn hm
    simp [padded]
  | succ width ih =>
    have pos : 0 < 10 ^ width := by positivity
    have lead : ∀ k, k < 10 ^ (width + 1) → k / 10 ^ width < 10 := by
      intro k hk
      rw [Nat.div_lt_iff_lt_mul pos]
      rwa [Nat.pow_succ, Nat.mul_comm] at hk
    have tail : ∀ k, padded width (k % 10 ^ width) = padded width k := fun k => padded_mod width k 0
    have lower := ih (Nat.mod_lt n pos) (Nat.mod_lt m pos)
    rw [tail, tail] at lower
    have digits : Nat.digitChar (n / 10 ^ width) = Nat.digitChar (m / 10 ^ width) ↔
        n / 10 ^ width = m / 10 ^ width := by
      refine ⟨fun same => ?_, congrArg _⟩
      have value := digitValue_digitChar (lead n hn)
      rw [same, digitValue_digitChar (lead m hm)] at value
      exact (Option.some.inj value).symm
    rw [padded, padded, Nat.mod_eq_of_lt (lead n hn), Nat.mod_eq_of_lt (lead m hm),
      List.cons_lt_cons_iff, digitChar_lt (lead n hn) (lead m hm), digits, lower]
    exact (lt_iff_div_mod pos).symm

end LibraryDecimalText
