import Hexeract.LibraryCollections
import Hexeract.SchedulerMessages

/-! # Converting instants step by step

The domain types convert between the wall clock and calendar dates in one go. The crate takes
the way through 128-bit integers: it changes the sign of what lies before the epoch, splits a
date into seconds and nanoseconds by Euclidean division, and adds them up again with
operations that panic when the result does not fit. -/
namespace SchedulerTrigger

open LibraryCollections StdTime SchedulerMessages

inductive Failure where
  | panicked
  | returned (error : SchedulerError)
  deriving DecidableEq, Repr

def orPanic (value : Option α) : Except Failure α :=
  match value with
  | some value => .ok value
  | none => .error .panicked

def orInternal (message : String) (value : Option α) : Except Failure α :=
  match value with
  | some value => .ok value
  | none => .error (.returned (.internal message))

/-- Nanosecond counts of durations are unsigned 128-bit numbers. -/
def i128OfU128 (n : ℕ) : Option ℤ := if n < 2 ^ 127 then some n else none

def negateI128 (n : ℤ) : Option ℤ := if -2 ^ 127 < n then some (-n) else none

def u64OfI128 (n : ℤ) : Option UInt64 :=
  if 0 ≤ n ∧ n < 2 ^ 64 then some (UInt64.ofNat n.toNat) else none

def u32OfI128 (n : ℤ) : Option UInt32 :=
  if 0 ≤ n ∧ n < 2 ^ 32 then some (UInt32.ofNat n.toNat) else none

/-- Nanoseconds beyond a second are carried into the seconds, which may overflow. -/
def durationNew (secs : UInt64) (nanos : UInt32) : Option Duration :=
  if h : nanosPerSec * secs.toNat + nanos.toNat < 2 ^ 64 * nanosPerSec then
    some ⟨nanosPerSec * secs.toNat + nanos.toNat, h⟩
  else none

def fromUnixTimestampNanos (nanos : ℤ) : Option OffsetDateTime :=
  if h : -(377705116800 * (nanosPerSec : ℤ)) ≤ nanos ∧
      nanos < 253402300800 * (nanosPerSec : ℤ) then some ⟨nanos, h⟩
  else none

/-- The first half of `to_offset_date_time`: nanoseconds from the epoch, with a sign. -/
def signedNanos (instant : SystemTime) : Except Failure ℤ :=
  match instant.durationSince unixEpoch with
  | .ok elapsed =>
    orInternal "instant too far in the future to represent" (i128OfU128 elapsed.nanos)
  | .error beforeEpoch => do
    let magnitude ←
      orInternal "instant too far in the past to represent" (i128OfU128 beforeEpoch.nanos)
    orPanic (negateI128 magnitude)

def toOffsetDateTime (instant : SystemTime) : Except Failure OffsetDateTime := do
  let nanos ← signedNanos instant
  orInternal "instant outside the supported date range" (fromUnixTimestampNanos nanos)

def toSystemTime (moment : OffsetDateTime) : Except Failure SystemTime := do
  let nanos := moment.nanos
  let seconds := nanos / nanosPerSec
  let subsecNanos ←
    orInternal "sub-second component out of range" (u32OfI128 (nanos % nanosPerSec))
  if 0 ≤ seconds then
    let seconds ←
      orInternal "occurrence too far in the future to represent" (u64OfI128 seconds)
    let offset ← orPanic (durationNew seconds subsecNanos)
    orPanic (unixEpoch.checkedAdd offset)
  else
    let negated ← orPanic (negateI128 seconds)
    let seconds ←
      orInternal "occurrence too far in the past to represent" (u64OfI128 negated)
    let whole ← orPanic (durationNew seconds 0)
    let start ← orPanic (unixEpoch.checkedSub whole)
    orPanic (start.checkedAdd (.fromNanos subsecNanos.toUInt64))

/-! ## Every step fits -/

@[simp] theorem orPanic_ok {value : Option α} {a : α} : orPanic value = .ok a ↔ value = some a := by
  cases value <;> simp [orPanic]

@[simp] theorem orInternal_ok {message : String} {value : Option α} {a : α} :
    orInternal message value = .ok a ↔ value = some a := by
  cases value <;> simp [orInternal]

theorem exists_u32OfI128 {n : ℤ} (nonneg : 0 ≤ n) (small : n < 2 ^ 32) :
    ∃ m, u32OfI128 n = some m ∧ (m.toNat : ℤ) = n := by
  refine ⟨_, if_pos ⟨nonneg, small⟩, ?_⟩
  rw [UInt32.toNat_ofNat']
  omega

theorem exists_u64OfI128 {n : ℤ} (nonneg : 0 ≤ n) (small : n < 2 ^ 64) :
    ∃ m, u64OfI128 n = some m ∧ (m.toNat : ℤ) = n := by
  refine ⟨_, if_pos ⟨nonneg, small⟩, ?_⟩
  rw [UInt64.toNat_ofNat']
  omega

theorem exists_durationNew {secs : UInt64} {nanos : UInt32} (part : nanos.toNat < nanosPerSec) :
    ∃ d, durationNew secs nanos = some d ∧
      d.nanos = nanosPerSec * secs.toNat + nanos.toNat := by
  have whole := secs.toNat_lt
  refine ⟨_, dif_pos ?_, rfl⟩
  simp only [nanosPerSec] at *
  omega

theorem signedNanos_eq (t : SystemTime) : signedNanos t = .ok t.nanos := by
  have range := t.in_range
  simp only [nanosPerSec] at range
  unfold signedNanos
  cases since : t.durationSince unixEpoch with
  | ok elapsed =>
    obtain ⟨_, distance⟩ := durationSince_ok.mp since
    simp only [unixEpoch, Int.sub_zero] at distance
    simp only [orInternal_ok, i128OfU128]
    rw [if_pos (by omega), distance]
  | error beforeEpoch =>
    obtain ⟨_, distance⟩ := durationSince_error.mp since
    simp only [unixEpoch, Int.zero_sub] at distance
    refine bind_ok.mpr ⟨(beforeEpoch.nanos : ℤ), ?_, ?_⟩
    · simp only [orInternal_ok, i128OfU128]
      rw [if_pos (by omega)]
    · simp only [orPanic_ok, negateI128]
      rw [if_pos (by omega), distance, Int.neg_neg]

theorem toOffsetDateTime_eq (t : SystemTime) :
    toOffsetDateTime t = (SchedulerMessages.toOffsetDateTime t).mapError .returned := by
  rw [toOffsetDateTime, signedNanos_eq, SchedulerMessages.toOffsetDateTime]
  by_cases calendar : -(377705116800 * (nanosPerSec : ℤ)) ≤ t.nanos ∧
      t.nanos < 253402300800 * (nanosPerSec : ℤ)
  · rw [dif_pos calendar]
    exact orInternal_ok.mpr (dif_pos calendar)
  · rw [dif_neg calendar]
    change orInternal _ (fromUnixTimestampNanos t.nanos) = _
    rw [fromUnixTimestampNanos, dif_neg calendar]
    rfl

/-- A negative number of seconds is counted back from the epoch, and the nanoseconds forward
again: Euclidean division has rounded the seconds down. -/
theorem toSystemTime_eq (o : OffsetDateTime) :
    toSystemTime o = .ok (SchedulerMessages.toSystemTime o) := by
  have range := o.in_range
  simp only [nanosPerSec] at range
  have split := Int.mul_ediv_add_emod o.nanos nanosPerSec
  have nonneg := Int.emod_nonneg o.nanos (show (nanosPerSec : ℤ) ≠ 0 by decide)
  have part := Int.emod_lt_of_pos o.nanos (show (0 : ℤ) < nanosPerSec by decide)
  obtain ⟨nanos, hnanos, nanos_eq⟩ := exists_u32OfI128 nonneg
    (part.trans (show (nanosPerSec : ℤ) < 2 ^ 32 by decide))
  refine bind_ok.mpr ⟨nanos, orInternal_ok.mpr hnanos, ?_⟩
  simp only [nanosPerSec] at split part nonneg nanos_eq
  split
  · rename_i after
    obtain ⟨secs, hsecs, secs_eq⟩ := exists_u64OfI128 after (by simp only [nanosPerSec]; omega)
    obtain ⟨d, hd, d_eq⟩ := @exists_durationNew secs nanos (by simp only [nanosPerSec]; omega)
    refine bind_ok.mpr ⟨secs, orInternal_ok.mpr hsecs, bind_ok.mpr ⟨d, orPanic_ok.mpr hd, ?_⟩⟩
    rw [orPanic_ok, checkedAdd_eq_some]
    simp only [SchedulerMessages.toSystemTime, unixEpoch, nanosPerSec] at *
    omega
  · rename_i before
    have negated : negateI128 (o.nanos / nanosPerSec) = some (-(o.nanos / nanosPerSec)) := by
      rw [negateI128, if_pos (by simp only [nanosPerSec]; omega)]
    obtain ⟨secs, hsecs, secs_eq⟩ := @exists_u64OfI128 (-(o.nanos / nanosPerSec)) (by omega)
      (by simp only [nanosPerSec]; omega)
    obtain ⟨d, hd, d_eq⟩ := @exists_durationNew secs 0 (by decide)
    obtain ⟨start, hstart⟩ := @exists_checkedSub unixEpoch d (by
      simp only [d_eq, unixEpoch, nanosPerSec, UInt32.toNat_zero] at *
      omega)
    refine bind_ok.mpr ⟨_, orPanic_ok.mpr negated, bind_ok.mpr ⟨secs, orInternal_ok.mpr hsecs, ?_⟩⟩
    refine bind_ok.mpr ⟨d, orPanic_ok.mpr hd, bind_ok.mpr ⟨start, orPanic_ok.mpr hstart, ?_⟩⟩
    have earlier := checkedSub_eq_some.mp hstart
    rw [orPanic_ok, checkedAdd_eq_some]
    simp only [SchedulerMessages.toSystemTime, Duration.fromNanos, UInt32.toNat_toUInt64, d_eq,
      unixEpoch, nanosPerSec, UInt32.toNat_zero] at *
    omega

/-- Instants the calendar holds come back to the nanosecond and in their order, and no step of
either conversion panics, whatever it is given. -/
theorem conversions_exact {t u : SystemTime} {o p : OffsetDateTime}
    (converted : toOffsetDateTime t = .ok o) (other : toOffsetDateTime u = .ok p) :
    toSystemTime o = .ok t ∧ (t ≤ u ↔ o.nanos ≤ p.nanos) ∧
      (∀ instant, toOffsetDateTime instant ≠ .error .panicked) ∧
      ∀ moment, toSystemTime moment ≠ .error .panicked := by
  rw [toOffsetDateTime_eq, mapError_ok] at converted other
  have same := toOffsetDateTime_nanos converted
  have same' := toOffsetDateTime_nanos other
  refine ⟨?_, ?_, fun instant => ?_, fun moment => ?_⟩
  · rw [toSystemTime_eq, Except.ok.injEq, SystemTime.ext_iff]
    exact same
  · rw [systemTime_le_iff, ← same, ← same']
  · rw [toOffsetDateTime_eq]
    cases SchedulerMessages.toOffsetDateTime instant <;> simp [Except.mapError]
  · rw [toSystemTime_eq]
    simp

/-- A second and a half before the epoch. -/
def beforeEpoch : SystemTime := ⟨-1500000000, by decide⟩

theorem conversions_exact_sample :
    ∃ o p, toOffsetDateTime beforeEpoch = .ok o ∧ toOffsetDateTime unixEpoch = .ok p ∧
      toSystemTime o = .ok beforeEpoch ∧ o.nanos ≤ p.nanos := by
  have first : toOffsetDateTime beforeEpoch = .ok ⟨-1500000000, by decide⟩ := by decide
  have second : toOffsetDateTime unixEpoch = .ok ⟨0, by decide⟩ := by decide
  obtain ⟨back, order, _⟩ := conversions_exact first second
  exact ⟨_, _, first, second, back, order.mp (by decide)⟩

end SchedulerTrigger
