import Hexeract.SchedulerMessages

/-! # Scheduler worker: configuration and settling

A worker exists only for a configuration the builder accepts. `settle` is what it does
with one claimed occurrence: a guard on its own clock, the dispatch, and one call to the
store. -/
namespace SchedulerWorker

open StdTime SchedulerMessages

structure SchedulerWorkerConfig where
  pollInterval : Duration
  batchSize : ℕ
  lease : Duration
  retryBaseDelay : Duration
  retryMaxDelay : Duration
  jitter : Bool
  minCycleDelay : Duration
  dispatchTimeout : Duration
  deriving DecidableEq, Repr

def SchedulerWorkerConfig.default : SchedulerWorkerConfig where
  pollInterval := .fromMillis 100
  batchSize := 10
  lease := .fromSecs 300
  retryBaseDelay := .fromSecs 1
  retryMaxDelay := .fromSecs 300
  jitter := true
  minCycleDelay := .fromMillis 5
  dispatchTimeout := .fromSecs 30

def require (holds : Bool) (reason : String) : Except SchedulerError Unit :=
  if holds then .ok () else .error (.invalidConfiguration reason)

/-- Settling a batch is sequential, so the lease has to cover one dispatch timeout for
every occurrence of it. A batch size beyond 32 bits counts as the largest 32-bit number. -/
def SchedulerWorkerConfig.requireLease (config : SchedulerWorkerConfig)
    (debug : Duration → String) : Except SchedulerError Unit :=
  match config.dispatchTimeout.checkedMul (.ofNat (min config.batchSize (2 ^ 32 - 1))) with
  | some minimumLease =>
    require (decide (minimumLease.nanos ≤ config.lease.nanos))
      ("lease (" ++ debug config.lease ++ ") must be at least batch_size × dispatch_timeout (" ++
        debug minimumLease ++ ")")
  | none =>
    .error (.invalidConfiguration
      "batch_size × dispatch_timeout overflows; lease cannot satisfy the invariant")

/-- `SchedulerBuilder::build`; `debug` renders a duration. -/
def SchedulerWorkerConfig.build (config : SchedulerWorkerConfig) (debug : Duration → String) :
    Except SchedulerError Unit := do
  require (config.batchSize ≠ 0) "batch_size must be at least 1"
  require (config.pollInterval.nanos ≠ 0) "poll_interval must be non-zero"
  require (config.lease.nanos ≠ 0) "lease must be non-zero"
  require (config.dispatchTimeout.nanos ≠ 0) "dispatch_timeout must be non-zero"
  require (config.retryBaseDelay.nanos ≠ 0) "retry_base_delay must be non-zero"
  require (decide (config.retryBaseDelay.nanos ≤ config.retryMaxDelay.nanos))
    "retry_max_delay must be >= retry_base_delay"
  config.requireLease debug

/-- The builder is the only way to a worker, so its configuration was accepted. -/
structure Worker where
  config : SchedulerWorkerConfig
  accepted : ∃ debug, config.build debug = .ok ()

theorem default_accepted (debug : Duration → String) :
    SchedulerWorkerConfig.default.build debug = .ok () := rfl

/-- Bounded exponential backoff. `draw` is the random number of the jitter. -/
def SchedulerWorkerConfig.nextRetryDelay (config : SchedulerWorkerConfig) (draw : UInt64 → UInt64)
    (attempts : ℕ) : Duration :=
  let factor : UInt32 := if attempts < 32 then .ofNat (2 ^ attempts) else .ofNat (2 ^ 32 - 1)
  let scaled := config.retryBaseDelay.saturatingMul factor
  let capped := if scaled.nanos ≤ config.retryMaxDelay.nanos then scaled else config.retryMaxDelay
  if config.jitter then
    .fromNanos (min (draw (.ofNat (min capped.nanos (2 ^ 64 - 1))))
      (.ofNat (min capped.nanos (2 ^ 64 - 1))))
  else capped

inductive Call where
  | delivered
  | reschedule (next : SystemTime)
  | failed (retryIn : Duration) (error : String)
  | deadLettered (error : String)
  deriving DecidableEq, Repr

/-- What settling one occurrence did: whether the sink was invoked, and the call that
follows, if any. -/
structure Settlement where
  dispatched : Bool
  call : Except SchedulerError (Option Call)

variable {engine : CronEngine}

def onSuccess (o : LeasedOccurrence engine) (now : SystemTime) : Except SchedulerError Call :=
  match o.message.trigger with
  | .delay _ => .ok .delivered
  | .cron expression =>
    (expression.nextDue now o.message.scheduledFor).map fun next =>
      next.elim .delivered .reschedule

def onFailure (config : SchedulerWorkerConfig) (draw : UInt64 → UInt64)
    (o : LeasedOccurrence engine) (reason : String) : Call :=
  if o.isExhausted then .deadLettered reason
  else .failed (config.nextRetryDelay draw o.attempts) reason

/-- The guard compares the lease, a reading of the database clock, with the worker's own
clock. `outcome` is the sink's answer, an error also where it exceeds the timeout. -/
def settle (config : SchedulerWorkerConfig) (draw : UInt64 → UInt64)
    (o : LeasedOccurrence engine) (now : SystemTime) (outcome : Except String Unit) : Settlement :=
  if o.leasedUntil ≤ now then ⟨false, .ok none⟩
  else
    match outcome with
    | .ok () => ⟨true, (onSuccess o now).map some⟩
    | .error reason => ⟨true, .ok (some (onFailure config draw o reason))⟩

theorem dispatched_iff (config : SchedulerWorkerConfig) (draw : UInt64 → UInt64)
    (o : LeasedOccurrence engine) (now : SystemTime) (outcome : Except String Unit) :
    (settle config draw o now outcome).dispatched = true ↔ now < o.leasedUntil := by
  rw [← not_le]
  unfold settle
  split
  · simp [*]
  · rename_i late
    cases outcome <;> simp [late]

end SchedulerWorker
