import Mathlib.Data.Int.Order.Basic
import Mathlib.Tactic.Linarith

/-! # Wall-clock instants and durations

The standard library types on a platform whose clock is a signed 64-bit second count
with nanoseconds. Both are kept as one nanosecond count; the range field is what makes
the checked operations partial. -/
namespace StdTime

def nanosPerSec : ℕ := 1000000000
def nanosPerMilli : ℕ := 1000000

@[ext] structure Duration where
  nanos : ℕ
  in_range : nanos < 2 ^ 64 * nanosPerSec
  deriving DecidableEq, Repr

/-- Nanoseconds since the Unix epoch, negative before it. -/
@[ext] structure SystemTime where
  nanos : ℤ
  in_range : -(2 ^ 63 * (nanosPerSec : ℤ)) ≤ nanos ∧ nanos < 2 ^ 63 * (nanosPerSec : ℤ)
  deriving DecidableEq, Repr

def unixEpoch : SystemTime := ⟨0, by decide⟩

def Duration.fromSecs (secs : UInt64) : Duration :=
  ⟨nanosPerSec * secs.toNat, by
    have := secs.toNat_lt
    simp only [nanosPerSec]
    omega⟩

def Duration.fromMillis (millis : UInt32) : Duration :=
  ⟨nanosPerMilli * millis.toNat, by
    have := millis.toNat_lt
    simp only [nanosPerMilli, nanosPerSec]
    omega⟩

def Duration.fromNanos (nanos : UInt64) : Duration :=
  ⟨nanos.toNat, by
    have := nanos.toNat_lt
    simp only [nanosPerSec]
    omega⟩

def Duration.checkedMul (d : Duration) (factor : UInt32) : Option Duration :=
  if h : d.nanos * factor.toNat < 2 ^ 64 * nanosPerSec then some ⟨d.nanos * factor.toNat, h⟩
  else none

def Duration.max : Duration := ⟨2 ^ 64 * nanosPerSec - 1, by decide⟩

def Duration.saturatingMul (d : Duration) (factor : UInt32) : Duration :=
  (d.checkedMul factor).getD .max

/-- Whole seconds; a duration always holds at most 2 ^ 64 - 1 of them. -/
def Duration.asSecs (d : Duration) : UInt64 := UInt64.ofNat (d.nanos / nanosPerSec)

def Duration.asMillis (d : Duration) : ℕ := d.nanos / nanosPerMilli

/-- The error carries how far `t` lies before `earlier`. -/
def SystemTime.durationSince (t earlier : SystemTime) : Except Duration Duration :=
  if earlier.nanos ≤ t.nanos then
    .ok ⟨(t.nanos - earlier.nanos).toNat, by
      have := t.in_range; have := earlier.in_range
      simp only [nanosPerSec] at *; omega⟩
  else
    .error ⟨(earlier.nanos - t.nanos).toNat, by
      have := t.in_range; have := earlier.in_range
      simp only [nanosPerSec] at *; omega⟩

/-- Compared as natural numbers: what `d` adds against the room left above `t`. -/
def SystemTime.checkedAdd (t : SystemTime) (d : Duration) : Option SystemTime :=
  if h : d.nanos < (2 ^ 63 * (nanosPerSec : ℤ) - t.nanos).toNat then
    some ⟨t.nanos + d.nanos, by have := t.in_range; omega, by omega⟩
  else none

def SystemTime.checkedSub (t : SystemTime) (d : Duration) : Option SystemTime :=
  if h : -(2 ^ 63 * (nanosPerSec : ℤ)) ≤ t.nanos - d.nanos then
    some ⟨t.nanos - d.nanos, h, by have := t.in_range; omega⟩
  else none

@[simp] theorem asSecs_toNat (d : Duration) : d.asSecs.toNat = d.nanos / nanosPerSec := by
  have h := d.in_range
  have : d.nanos / nanosPerSec < 2 ^ 64 := (Nat.div_lt_iff_lt_mul (by decide)).mpr h
  simp only [Duration.asSecs, UInt64.toNat_ofNat']
  exact Nat.mod_eq_of_lt this

theorem durationSince_ok {t earlier : SystemTime} {d : Duration} :
    t.durationSince earlier = .ok d ↔
      earlier.nanos ≤ t.nanos ∧ (d.nanos : ℤ) = t.nanos - earlier.nanos := by
  unfold SystemTime.durationSince
  split
  · rename_i h
    simp only [Except.ok.injEq, Duration.ext_iff, h, true_and]
    omega
  · rename_i h
    simp [h]

theorem exists_durationSince {t earlier : SystemTime} (h : earlier.nanos ≤ t.nanos) :
    ∃ d, t.durationSince earlier = .ok d := by
  unfold SystemTime.durationSince
  rw [if_pos h]
  exact ⟨_, rfl⟩

theorem durationSince_error {t earlier : SystemTime} {d : Duration} :
    t.durationSince earlier = .error d ↔
      t.nanos < earlier.nanos ∧ (d.nanos : ℤ) = earlier.nanos - t.nanos := by
  unfold SystemTime.durationSince
  split
  · rename_i h
    simp [not_lt.mpr h]
  · rename_i h
    simp only [Except.error.injEq, Duration.ext_iff, not_le.mp h, true_and]
    omega

theorem checkedAdd_eq_some {t u : SystemTime} {d : Duration} :
    t.checkedAdd d = some u ↔ u.nanos = t.nanos + d.nanos := by
  have := u.in_range
  unfold SystemTime.checkedAdd
  split
  · simp only [Option.some.injEq, SystemTime.ext_iff]
    exact eq_comm
  · simp only [reduceCtorEq, false_iff]
    omega

theorem checkedAdd_eq_none {t : SystemTime} {d : Duration} :
    t.checkedAdd d = none ↔ 2 ^ 63 * (nanosPerSec : ℤ) ≤ t.nanos + d.nanos := by
  have := t.in_range
  unfold SystemTime.checkedAdd
  split
  · simp only [reduceCtorEq, false_iff]
    omega
  · simp only [true_iff]
    omega

theorem exists_checkedAdd {t : SystemTime} {d : Duration}
    (h : t.nanos + d.nanos < 2 ^ 63 * (nanosPerSec : ℤ)) : ∃ u, t.checkedAdd d = some u := by
  cases added : t.checkedAdd d with
  | some u => exact ⟨u, rfl⟩
  | none =>
    have := checkedAdd_eq_none.mp added
    omega

theorem exists_checkedSub {t : SystemTime} {d : Duration}
    (h : -(2 ^ 63 * (nanosPerSec : ℤ)) ≤ t.nanos - d.nanos) : ∃ u, t.checkedSub d = some u := by
  unfold SystemTime.checkedSub
  rw [dif_pos h]
  exact ⟨_, rfl⟩

theorem checkedSub_eq_some {t u : SystemTime} {d : Duration} :
    t.checkedSub d = some u ↔ u.nanos = t.nanos - d.nanos := by
  unfold SystemTime.checkedSub
  split
  · simp only [Option.some.injEq, SystemTime.ext_iff]
    exact eq_comm
  · rename_i h
    simp only [reduceCtorEq, false_iff]
    intro he
    exact h (he ▸ u.in_range.1)

end StdTime
