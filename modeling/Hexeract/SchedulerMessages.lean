import Hexeract.BusEnvelope
import Mathlib.Order.Basic

/-! # Scheduled messages, triggers and control calls

The domain types of the scheduler, the column values the SQL stores map them to, and the
decision `SchedulerControl` takes before it calls the store. The cron engine and the
debug rendering of text are provided by other crates. -/
namespace SchedulerMessages

open LibraryFramedBytes StdTime BusEnvelope

inductive ScheduleStatus where
  | pending
  | paused
  | delivered
  | cancelled
  | deadLettered
  deriving DecidableEq, Repr

/-- A boxed source error is kept as the text it would render. -/
inductive SchedulerError where
  | serialization (source : String)
  | invalidTrigger (reason : String)
  | invalidConfiguration (reason : String)
  | database (source : String)
  | scheduleNotFound (scheduleId : Uuid)
  | notReplayable (scheduleId : Uuid) (status : ScheduleStatus)
  | dispatch (source : String)
  | internal (message : String)
  deriving DecidableEq, Repr

instance : LinearOrder SystemTime :=
  LinearOrder.lift' SystemTime.nanos fun _ _ h => SystemTime.ext h

theorem systemTime_le_iff {t u : SystemTime} : t ≤ u ↔ t.nanos ≤ u.nanos := Iff.rfl

/-- Calendar dates reach from year -9999 to year 9999. -/
@[ext] structure OffsetDateTime where
  nanos : ℤ
  in_range : -(377705116800 * (nanosPerSec : ℤ)) ≤ nanos ∧
    nanos < 253402300800 * (nanosPerSec : ℤ)
  deriving DecidableEq, Repr

def toOffsetDateTime (t : SystemTime) : Except SchedulerError OffsetDateTime :=
  if h : -(377705116800 * (nanosPerSec : ℤ)) ≤ t.nanos ∧
      t.nanos < 253402300800 * (nanosPerSec : ℤ) then
    .ok ⟨t.nanos, h⟩
  else .error (.internal "instant outside the supported date range")

def toSystemTime (o : OffsetDateTime) : SystemTime :=
  ⟨o.nanos, by have := o.in_range; simp only [nanosPerSec] at *; omega⟩

theorem toOffsetDateTime_nanos {t : SystemTime} {o : OffsetDateTime}
    (converted : toOffsetDateTime t = .ok o) : o.nanos = t.nanos := by
  unfold toOffsetDateTime at converted
  split at converted
  · cases converted
    rfl
  · cases converted

/-- The cron crate: whether an expression is valid, and the next match after a date. -/
structure CronEngine where
  parse : String → Except String Unit
  nextAfter : String → OffsetDateTime → Option OffsetDateTime

variable {engine : CronEngine}

@[ext] structure CronExpression (engine : CronEngine) where
  text : String
  accepted : engine.parse text = .ok ()

instance : DecidableEq (CronExpression engine) := fun a b =>
  decidable_of_iff (a.text = b.text) CronExpression.ext_iff.symm

/-- The characters `str::trim` removes at both ends. -/
def isWhitespace (c : Char) : Bool :=
  [0x9, 0xA, 0xB, 0xC, 0xD, 0x20, 0x85, 0xA0, 0x1680, 0x2000, 0x2001, 0x2002, 0x2003, 0x2004,
    0x2005, 0x2006, 0x2007, 0x2008, 0x2009, 0x200A, 0x2028, 0x2029, 0x202F, 0x205F,
    0x3000].contains c.toNat

def trim (s : String) : String :=
  String.ofList (((s.toList.dropWhile isWhitespace).reverse.dropWhile isWhitespace).reverse)

def CronExpression.parse (engine : CronEngine) (expression : String) :
    Except SchedulerError (CronExpression engine) :=
  match h : engine.parse (trim expression) with
  | .error e => .error (.invalidTrigger e)
  | .ok () => .ok ⟨trim expression, h⟩

/-- The next occurrence strictly after `after`. Parsing the stored text again cannot
fail: the expression carries that it was accepted. -/
def CronExpression.nextOccurrence (expression : CronExpression engine) (after : SystemTime) :
    Except SchedulerError (Option SystemTime) := do
  let anchor ← toOffsetDateTime after
  return (engine.nextAfter expression.text anchor).map toSystemTime

/-- Missed occurrences collapse into one fire: the search starts at the later instant. -/
def CronExpression.nextDue (expression : CronExpression engine) (now previousDue : SystemTime) :
    Except SchedulerError (Option SystemTime) :=
  expression.nextOccurrence (max now previousDue)

inductive Trigger (engine : CronEngine) where
  | delay (instant : SystemTime)
  | cron (expression : CronExpression engine)
  deriving DecidableEq

def Trigger.parseCron (engine : CronEngine) (expression : String) :
    Except SchedulerError (Trigger engine) :=
  (CronExpression.parse engine expression).map .cron

inductive Target where
  | mediator
  | outbox
  | bus (routingKey : String)
  deriving DecidableEq, Repr

structure ScheduledMessage (engine : CronEngine) where
  scheduleId : Uuid
  eventType : String
  payload : Bytes
  target : Target
  trigger : Trigger engine
  scheduledFor : SystemTime
  deriving DecidableEq

/-- A claimed occurrence. `attempts` counts the claim that returned it. -/
structure LeasedOccurrence (engine : CronEngine) where
  message : ScheduledMessage engine
  attempts : ℕ
  maxAttempts : ℕ
  leasedUntil : SystemTime
  deriving DecidableEq

def LeasedOccurrence.isExhausted (o : LeasedOccurrence engine) : Bool :=
  decide (o.maxAttempts ≤ o.attempts)

structure ScheduleSnapshot (engine : CronEngine) where
  scheduleId : Uuid
  status : ScheduleStatus
  scheduledFor : SystemTime
  attempts : ℕ
  maxAttempts : ℕ
  trigger : Trigger engine
  lastError : Option String
  deriving DecidableEq

section Mapping

variable (debug : String → String)

def triggerColumns : Trigger engine → String × Option String
  | .delay _ => ("delay", none)
  | .cron expression => ("cron", some expression.text)

def targetColumns : Target → String × Option String
  | .mediator => ("mediator", none)
  | .outbox => ("outbox", none)
  | .bus routingKey => ("bus", some routingKey)

def buildTrigger (engine : CronEngine) (kind : String) (cronExpr : Option String)
    (scheduledFor : SystemTime) : Except SchedulerError (Trigger engine) :=
  if kind = "delay" then .ok (.delay scheduledFor)
  else if kind = "cron" then
    match cronExpr with
    | none => .error (.internal "cron schedule row is missing its cron expression")
    | some expression => Trigger.parseCron engine expression
  else .error (.internal ("unknown trigger kind in storage: " ++ debug kind))

def buildTarget (kind : String) (routingKey : Option String) : Except SchedulerError Target :=
  if kind = "mediator" then .ok .mediator
  else if kind = "outbox" then .ok .outbox
  else if kind = "bus" then
    match routingKey with
    | none => .error (.internal "bus target row is missing its routing key")
    | some routingKey => .ok (.bus routingKey)
  else .error (.internal ("unknown target kind in storage: " ++ debug kind))

def buildMessage (engine : CronEngine) (scheduleId : Uuid) (eventType : String) (payload : Bytes)
    (triggerKind : String) (cronExpr : Option String) (scheduledFor : SystemTime)
    (targetKind : String) (routingKey : Option String) :
    Except SchedulerError (ScheduledMessage engine) := do
  let trigger ← buildTrigger debug engine triggerKind cronExpr scheduledFor
  let target ← buildTarget debug targetKind routingKey
  return ⟨scheduleId, eventType, payload, target, trigger, scheduledFor⟩

end Mapping

/-- A defensive priority: dead-lettered, then cancelled, then delivered. -/
def terminalStatus (delivered cancelled deadLettered : Bool) : Option ScheduleStatus :=
  if deadLettered then some .deadLettered
  else if cancelled then some .cancelled
  else if delivered then some .delivered
  else none

def statusWithPaused (terminal : Option ScheduleStatus) (paused : Bool) : ScheduleStatus :=
  terminal.getD (if paused then .paused else .pending)

/-- A stored counter in the 32-bit range of the domain; negative values count as zero. -/
def attemptsFromI64 (value : ℤ) : ℕ := min (max value 0).toNat (2 ^ 32 - 1)

def maxAttemptsToI32 (value : UInt32) : ℤ := min value.toNat (2 ^ 31 - 1)

/-- The store call `SchedulerControl::resume` makes for the snapshot it inspected, if any:
a paused cron schedule in the past is realigned, or left paused when the engine finds no
further match; every other paused schedule is only unpaused. -/
def resumeCall (snapshot : ScheduleSnapshot engine) (now : SystemTime) :
    Except SchedulerError (Option (Option SystemTime)) :=
  if snapshot.status ≠ .paused then .ok none
  else
    match snapshot.trigger with
    | .cron expression =>
      if snapshot.scheduledFor ≤ now then
        (expression.nextOccurrence now).map fun next => next.map some
      else .ok (some none)
    | .delay _ => .ok (some none)

end SchedulerMessages
