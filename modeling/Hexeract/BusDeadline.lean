import Hexeract.LibraryCollections
import Hexeract.LibraryDecimalText
import Hexeract.BusEnvelope

/-! # Request deadlines

The caller writes an absolute instant in Unix milliseconds and the responder judges it
once against its own clock. The anchored deadline is kept as the time that remains. -/
namespace BusDeadline

open LibraryCollections LibraryDecimalText LibraryFramedBytes StdTime BusEnvelope

def maxDeadlineHorizon : Duration := Duration.fromSecs 3600

def clockSkewTolerance : Duration := Duration.fromSecs 1

def i64Min : ℤ := -2 ^ 63

def i64Max : ℤ := 2 ^ 63 - 1

inductive DeadlineViolation where
  | unreadable
  | beyondHorizon
  deriving DecidableEq, Repr

inductive DeadlineReading where
  | absent
  | live (remaining : Duration)
  | expired
  | invalid (violation : DeadlineViolation)
  deriving DecidableEq, Repr

structure Deadline where
  instant : SystemTime
  deriving DecidableEq, Repr

/-- A sum beyond the clock's range yields a deadline that is already reached. -/
def Deadline.fromWallClock (now : SystemTime) (timeout : Duration) : Deadline :=
  ⟨(now.checkedAdd timeout).getD now⟩

def Deadline.withinHorizon (now : SystemTime) (timeout : Duration) : Option Deadline :=
  if timeout.nanos ≤ maxDeadlineHorizon.nanos then some (.fromWallClock now timeout) else none

def Duration.fromMillis (millis : UInt64) : Duration :=
  ⟨nanosPerMilli * millis.toNat, by
    have := millis.toNat_lt
    simp only [nanosPerMilli, nanosPerSec]
    omega⟩

def Deadline.fromUnixMillis (millis : ℤ) : Except DeadlineViolation Deadline :=
  let offset := Duration.fromMillis (UInt64.ofNat millis.natAbs)
  let instant := if 0 ≤ millis then unixEpoch.checkedAdd offset else unixEpoch.checkedSub offset
  match instant with
  | some instant => .ok ⟨instant⟩
  | none => .error .unreadable

/-- Truncated towards the epoch and capped to the range of a signed 64-bit count. -/
def Deadline.toUnixMillis (deadline : Deadline) : ℤ :=
  match deadline.instant.durationSince unixEpoch with
  | .ok since => min since.asMillis i64Max
  | .error before => if (before.asMillis : ℤ) ≤ i64Max then -before.asMillis else i64Min

def Deadline.anchor (deadline : Deadline) (now : SystemTime) : DeadlineReading :=
  match now.checkedAdd maxDeadlineHorizon with
  | none => .invalid .beyondHorizon
  | some horizon =>
    if horizon.nanos < deadline.instant.nanos then .invalid .beyondHorizon
    else match deadline.instant.checkedAdd clockSkewTolerance with
      | none => .invalid .beyondHorizon
      | some tolerated =>
        match tolerated.durationSince now with
        | .ok remaining => .live remaining
        | .error _ => .expired

def Deadline.fromStr (value : String) : Except DeadlineViolation Deadline :=
  match parseSigned value.toList with
  | none => .error .unreadable
  | some millis =>
    if i64Min ≤ millis ∧ millis ≤ i64Max then Deadline.fromUnixMillis millis
    else .error .unreadable

def Deadline.toString (deadline : Deadline) : String :=
  String.ofList (renderInt deadline.toUnixMillis)

def readDeadline (envelope : Envelope) (now : SystemTime) : DeadlineReading :=
  match envelope.header deadlineHeader with
  | none => .absent
  | some raw =>
    match Deadline.fromStr raw with
    | .ok deadline => deadline.anchor now
    | .error violation => .invalid violation

/-- The caller's part: nothing is written for a timeout beyond the horizon. -/
def stampDeadline (envelope : Envelope) (now : SystemTime) (timeout : Duration) : Envelope :=
  match Deadline.withinHorizon now timeout with
  | some deadline => envelope.insertProtocolHeader deadlineHeader deadline.toString
  | none => envelope

/-! ## What the responder reads -/

/-- Nanoseconds as milliseconds, rounded towards zero and kept within a signed 64-bit count. -/
def roundedMillis (nanos : ℤ) : ℤ :=
  if 0 ≤ nanos then min (nanos / nanosPerMilli) i64Max
  else max (-(-nanos / nanosPerMilli)) i64Min

theorem toUnixMillis_eq (deadline : Deadline) :
    deadline.toUnixMillis = roundedMillis deadline.instant.nanos := by
  have epoch : unixEpoch.nanos = 0 := rfl
  unfold Deadline.toUnixMillis
  cases hsince : deadline.instant.durationSince unixEpoch with
  | ok since =>
    have value := durationSince_ok.mp hsince
    rw [roundedMillis, if_pos (by omega)]
    simp only [Duration.asMillis, i64Max, nanosPerMilli]
    omega
  | error before =>
    have value := durationSince_error.mp hsince
    rw [roundedMillis, if_neg (by omega)]
    dsimp only
    split <;> simp only [Duration.asMillis, i64Min, i64Max, nanosPerMilli] at * <;> omega

theorem toUnixMillis_range (deadline : Deadline) :
    i64Min ≤ deadline.toUnixMillis ∧ deadline.toUnixMillis ≤ i64Max := by
  rw [toUnixMillis_eq, roundedMillis]
  split <;> simp only [i64Min, i64Max, nanosPerMilli] at * <;> omega

theorem fromUnixMillis_ok {millis : ℤ} (range : i64Min ≤ millis ∧ millis ≤ i64Max) :
    ∃ deadline, Deadline.fromUnixMillis millis = .ok deadline ∧
      deadline.instant.nanos = millis * nanosPerMilli := by
  have offset : ((Duration.fromMillis (UInt64.ofNat millis.natAbs)).nanos : ℤ) =
      |millis| * nanosPerMilli := by
    have small : millis.natAbs < 2 ^ 64 := by
      simp only [i64Min, i64Max] at range
      omega
    simp only [Duration.fromMillis, UInt64.toNat_ofNat', Nat.mod_eq_of_lt small]
    push_cast
    exact mul_comm _ _
  have epoch : unixEpoch.nanos = 0 := rfl
  simp only [i64Min, i64Max, nanosPerMilli] at range offset ⊢
  unfold Deadline.fromUnixMillis
  by_cases positive : 0 ≤ millis
  · rw [abs_of_nonneg positive] at offset
    obtain ⟨instant, added⟩ := exists_checkedAdd
      (t := unixEpoch) (d := Duration.fromMillis (UInt64.ofNat millis.natAbs))
      (by simp only [nanosPerSec]; omega)
    have value := checkedAdd_eq_some.mp added
    simp only [positive, if_true, added]
    exact ⟨⟨instant⟩, rfl, by dsimp only; omega⟩
  · rw [abs_of_neg (not_le.mp positive)] at offset
    obtain ⟨instant, subtracted⟩ := exists_checkedSub
      (t := unixEpoch) (d := Duration.fromMillis (UInt64.ofNat millis.natAbs))
      (by simp only [nanosPerSec]; omega)
    have value := checkedSub_eq_some.mp subtracted
    simp only [positive, if_false, subtracted]
    exact ⟨⟨instant⟩, rfl, by dsimp only; omega⟩

theorem fromStr_toString (deadline : Deadline) :
    Deadline.fromStr deadline.toString = Deadline.fromUnixMillis deadline.toUnixMillis := by
  unfold Deadline.fromStr Deadline.toString
  rw [String.toList_ofList, parseSigned_renderInt]
  exact if_pos (toUnixMillis_range deadline)

theorem anchor_live {deadline : Deadline} {now : SystemTime} :
    (∃ remaining, deadline.anchor now = .live remaining) ↔
      now.nanos + maxDeadlineHorizon.nanos < 2 ^ 63 * (nanosPerSec : ℤ) ∧
      deadline.instant.nanos + clockSkewTolerance.nanos < 2 ^ 63 * (nanosPerSec : ℤ) ∧
      deadline.instant.nanos ≤ now.nanos + maxDeadlineHorizon.nanos ∧
      now.nanos ≤ deadline.instant.nanos + clockSkewTolerance.nanos := by
  unfold Deadline.anchor
  cases hhorizon : now.checkedAdd maxDeadlineHorizon with
  | none =>
    have := checkedAdd_eq_none.mp hhorizon
    simp only [reduceCtorEq, exists_false, false_iff]
    omega
  | some horizon =>
    have range := horizon.in_range
    have value := checkedAdd_eq_some.mp hhorizon
    dsimp only
    by_cases beyond : horizon.nanos < deadline.instant.nanos
    · simp only [beyond, if_true, reduceCtorEq, exists_false, false_iff]
      omega
    · simp only [beyond, if_false]
      cases htolerated : deadline.instant.checkedAdd clockSkewTolerance with
      | none =>
        have := checkedAdd_eq_none.mp htolerated
        simp only [reduceCtorEq, exists_false, false_iff]
        omega
      | some tolerated =>
        have range' := tolerated.in_range
        have value' := checkedAdd_eq_some.mp htolerated
        dsimp only
        cases hleft : tolerated.durationSince now with
        | error elapsed =>
          have := durationSince_error.mp hleft
          simp only [reduceCtorEq, exists_false, false_iff]
          omega
        | ok remaining =>
          have := durationSince_ok.mp hleft
          simp only [DeadlineReading.live.injEq, exists_eq', true_iff]
          omega

/-- What the caller wrote is judged by its millisecond count alone. -/
theorem readDeadline_live {envelope : Envelope} {deadline : Deadline} {now : SystemTime} :
    (∃ remaining, readDeadline (envelope.insertProtocolHeader deadlineHeader deadline.toString)
      now = .live remaining) ↔
      deadline.toUnixMillis * nanosPerMilli ≤ now.nanos + maxDeadlineHorizon.nanos ∧
      now.nanos ≤ deadline.toUnixMillis * nanosPerMilli + clockSkewTolerance.nanos := by
  have carried : (envelope.insertProtocolHeader deadlineHeader deadline.toString).header
      deadlineHeader = some deadline.toString := by
    rw [header_of_reserved (by decide), Envelope.insertProtocolHeader, AList.lookup_insert]
  have range := toUnixMillis_range deadline
  obtain ⟨received, parsed, value⟩ := fromUnixMillis_ok range
  unfold readDeadline
  rw [carried]
  dsimp only
  rw [fromStr_toString, parsed]
  dsimp only
  rw [anchor_live, value]
  have horizon : (maxDeadlineHorizon.nanos : ℤ) = 3600000000000 := rfl
  have tolerance : (clockSkewTolerance.nanos : ℤ) = 1000000000 := rfl
  simp only [horizon, tolerance, nanosPerMilli, nanosPerSec, i64Min, i64Max] at range ⊢
  omega

/-! ## What the caller writes -/

theorem fromWallClock_nanos {now : SystemTime} {timeout : Duration} :
    (Deadline.fromWallClock now timeout).instant.nanos =
      if now.nanos + timeout.nanos < 2 ^ 63 * (nanosPerSec : ℤ) then now.nanos + timeout.nanos
      else now.nanos := by
  unfold Deadline.fromWallClock
  cases added : now.checkedAdd timeout with
  | none =>
    have := checkedAdd_eq_none.mp added
    rw [if_neg (by omega)]
    rfl
  | some instant =>
    have range := instant.in_range
    have value := checkedAdd_eq_some.mp added
    rw [if_pos (by omega)]
    exact value

theorem lt_roundedMillis {nanos : ℤ} (h : nanos < 2 ^ 63 * (nanosPerMilli : ℤ)) :
    nanos < (roundedMillis nanos + 1) * nanosPerMilli := by
  rw [roundedMillis]
  split <;> simp only [i64Min, i64Max, nanosPerMilli] at * <;> omega

theorem roundedMillis_capped {nanos : ℤ} (h : 2 ^ 63 * (nanosPerMilli : ℤ) ≤ nanos) :
    roundedMillis nanos = i64Max := by
  simp only [nanosPerMilli] at h
  rw [roundedMillis, if_pos (by omega)]
  simp only [i64Max, nanosPerMilli]
  omega

theorem toUnixMillis_fromWallClock {caller : SystemTime} {timeout : Duration}
    (accepted : timeout.nanos ≤ maxDeadlineHorizon.nanos) :
    (Deadline.fromWallClock caller timeout).toUnixMillis =
      roundedMillis (caller.nanos + timeout.nanos) := by
  rw [toUnixMillis_eq, fromWallClock_nanos]
  split
  · rfl
  · -- an instant that far ahead is capped, whether or not the timeout could be added
    rename_i beyond
    have horizon : maxDeadlineHorizon.nanos = 3600000000000 := rfl
    simp only [nanosPerSec] at beyond
    rw [roundedMillis_capped (by simp only [nanosPerMilli]; omega),
      roundedMillis_capped (by simp only [nanosPerMilli]; omega)]

/-- The exact condition under which a request that arrives in time is read as live: the
deadline on the wire lies within the responder's own horizon, and a count that was capped
is not overtaken by the responder's clock. -/
theorem deadline_read_live_iff (envelope : Envelope) (caller responder : SystemTime)
    (timeout transit : Duration) (accepted : timeout.nanos ≤ maxDeadlineHorizon.nanos)
    (skew : |responder.nanos - (caller.nanos + transit.nanos)| ≤ clockSkewTolerance.nanos)
    (inTime : transit.nanos + nanosPerMilli ≤ timeout.nanos) :
    (∃ remaining, readDeadline (stampDeadline envelope caller timeout) responder =
      .live remaining) ↔
    roundedMillis (caller.nanos + timeout.nanos) * nanosPerMilli ≤
        responder.nanos + maxDeadlineHorizon.nanos ∧
      (caller.nanos + timeout.nanos < 2 ^ 63 * (nanosPerMilli : ℤ) ∨
        responder.nanos ≤ i64Max * nanosPerMilli + clockSkewTolerance.nanos) := by
  have stamped : stampDeadline envelope caller timeout = envelope.insertProtocolHeader
      deadlineHeader (Deadline.fromWallClock caller timeout).toString := by
    rw [stampDeadline, Deadline.withinHorizon, if_pos accepted]
  rw [stamped, readDeadline_live, toUnixMillis_fromWallClock accepted]
  apply and_congr_right
  intro _
  have horizon : maxDeadlineHorizon.nanos = 3600000000000 := rfl
  have tolerance : (clockSkewTolerance.nanos : ℤ) = 1000000000 := rfl
  obtain ⟨slow, fast⟩ := abs_le.mp skew
  by_cases small : caller.nanos + timeout.nanos < 2 ^ 63 * (nanosPerMilli : ℤ)
  · have above := lt_roundedMillis small
    simp only [nanosPerMilli] at *
    omega
  · rw [roundedMillis_capped (not_lt.mp small)]
    simp only [small, false_or]

def sampleRequest : Envelope :=
  Envelope.restore (Uuid.fromU128 1) "test.request" [] (Uuid.fromU128 2) none ∅ unixEpoch

def callerReading : SystemTime := ⟨2000000000, by decide⟩

def responderReading : SystemTime := ⟨1000000000, by decide⟩

theorem full_hour_beyond_horizon :
    (Deadline.withinHorizon callerReading maxDeadlineHorizon).isSome = true ∧
      |responderReading.nanos - (callerReading.nanos + (Duration.fromSecs 0).nanos)| ≤
        clockSkewTolerance.nanos ∧
      (Duration.fromSecs 0).nanos + nanosPerMilli ≤ maxDeadlineHorizon.nanos ∧
      readDeadline (stampDeadline sampleRequest callerReading maxDeadlineHorizon)
        responderReading = .invalid .beyondHorizon := by
  decide +kernel

theorem deadline_read_live_sample :
    ∃ remaining, readDeadline (stampDeadline sampleRequest callerReading (Duration.fromSecs 30))
      responderReading = .live remaining :=
  (deadline_read_live_iff sampleRequest callerReading responderReading (Duration.fromSecs 30)
    (Duration.fromSecs 0) (by decide) (by decide +kernel) (by decide)).mpr (by decide +kernel)

end BusDeadline
