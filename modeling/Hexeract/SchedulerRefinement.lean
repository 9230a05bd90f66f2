import Hexeract.SchedulerBackends
import Hexeract.SchedulerLeases
import Hexeract.SchedulerMemorySteps

/-! # The SQL statements against the in-memory store

The same operations run on both stores, each with one clock reading for the two. A row and
a stored schedule mirror each other where both would be inspected alike and take the same
next step. Instants are stored exactly; the intervals that the stores bind are capped and
rounded. -/
namespace SchedulerRefinement

open LibraryTables LibraryMachines StdTime BusEnvelope SchedulerMessages
open SchedulerStatements (Row Schedules)
open SchedulerMemory (StoredSchedule Store)
open SchedulerMemorySteps (Operation Report reporting)
open SchedulerWorker (Call)
open OutboxStatements (Dialect)
open SchedulerBackends (cappedInterval ExactInterval lastInstant)
open SchedulerLeases (sampleEngine sampleSchedule second)

variable {engine : CronEngine}

abbrev Rows (engine : CronEngine) := Schedules Uuid SystemTime (ScheduledMessage engine)

/-- The order of claimed schedules is not specified. -/
def Agrees : Report → Report → Prop
  | .claimed ids, .claimed others => ids.Perm others
  | a, b => a = b

/-! ## The statements -/

/-- The status `inspect` decodes from a row. -/
def rowStatus {τ γ : Type} (row : Row τ γ) : ScheduleStatus :=
  statusWithPaused
    (terminalStatus row.deliveredAt.isSome row.cancelledAt.isSome row.deadLetteredAt.isSome)
    row.paused

/-- A store's database: how an interval is rounded on its way into an expression, and what
the database answers where it refuses a statement. -/
structure Database where
  dialect : Dialect
  round : Duration → Duration
  round_exact : ∀ interval, ExactInterval dialect interval → round interval = interval
  refusal : String

/-- What the clock plus a bound interval evaluates to, none where it leaves the range of
timestamps. SQLite has NULL there, which takes a clock past the year 9700. -/
def Database.stamp (database : Database) (now : SystemTime) (interval : Duration) :
    Option SystemTime :=
  (now.checkedAdd (database.round (cappedInterval database.dialect interval))).filter
    (· ≤ lastInstant database.dialect)

section Sql

variable (database : Database)

/-- A statement without effect is told apart from a missing schedule by a second read. -/
def ensureExists (id : Uuid) (result : Rows engine × Bool) : Rows engine × Report :=
  (result.1, if result.2 || (result.1.find id).isSome then .done
    else .failed (.scheduleNotFound id))

/-- The retry deadline is computed for the row that matches, if one does. -/
def sqlPerform (now : SystemTime) (call : Call) (rows : Rows engine) (id : Uuid)
    (lease : SystemTime) : Rows engine × Report :=
  match call with
  | .delivered => reporting .applied (SchedulerStatements.markDelivered now rows id lease)
  | .reschedule next => reporting .applied (SchedulerStatements.reschedule next rows id lease)
  | .failed retryIn error =>
    match database.stamp now retryIn with
    | some retryAt =>
      reporting .applied (SchedulerStatements.markFailed retryAt error rows id lease)
    | none =>
      if (SchedulerStatements.acknowledge rows id lease fun row => row).2 then
        (rows, .failed (.database database.refusal))
      else (rows, .applied false)
  | .deadLettered error =>
    reporting .applied (SchedulerStatements.markDeadLettered now error rows id lease)

def sqlReplay (now : SystemTime) (rows : Rows engine) (id : Uuid) : Rows engine × Report :=
  let result := SchedulerStatements.replay now rows id
  (result.1, if result.2 then .done
    else
      match result.1.find id with
      | none => .failed (.scheduleNotFound id)
      | some row => .failed (.notReplayable id (rowStatus row)))

def sqlStep (now : SystemTime) (rows : Rows engine) : Operation engine → Rows engine × Report
  | .insert message maxAttempts =>
    match SchedulerStatements.insert rows message.scheduleId message message.scheduledFor
        (maxAttemptsToI32 maxAttempts) with
    | some inserted => (inserted, .done)
    | none => (rows, .failed (.database database.refusal))
  | .claimDue batchSize lease _ =>
    match database.stamp now lease with
    | none => (rows, .failed (.database database.refusal))
    | some deadline =>
      reporting (fun batch => .claimed (batch.map Prod.fst))
        (SchedulerStatements.claimDue now deadline rows [] batchSize)
  | .acknowledge id lease call => sqlPerform database now call rows id lease
  | .deadLetterExhausted => reporting .swept (SchedulerStatements.deadLetterExhausted now rows)
  | .cancel id => ensureExists id (SchedulerStatements.cancel now rows id)
  | .setPaused id paused => ensureExists id (SchedulerStatements.setPaused paused rows id)
  | .resume id next => ensureExists id (SchedulerStatements.resume rows id next)
  | .replay id => sqlReplay now rows id

structure Stores (engine : CronEngine) where
  memory : Store engine
  rows : Rows engine
  reports : List (Report × Report)

def initial : Stores engine := ⟨.empty, .empty, []⟩

def next (s : Stores engine) (step : SystemTime × Operation engine) : Stores engine :=
  let inMemory := SchedulerMemorySteps.step step.1 s.memory step.2
  let inSql := sqlStep database step.1 s.rows step.2
  ⟨inMemory.1, inSql.1, s.reports ++ [(inMemory.2, inSql.2)]⟩

/-- A schedule is inserted once, the walk of a claim visits every schedule, and the batch
holds every schedule that is due. -/
def Enabled (s : Stores engine) (step : SystemTime × Operation engine) : Prop :=
  match step.2 with
  | .insert message _ => s.memory.find message.scheduleId = none
  | .claimDue batchSize _ order => order.Perm (s.memory.rows.map Prod.fst) ∧
      (s.memory.affected fun _ stored => stored.isClaimable step.1) ≤ batchSize
  | _ => True

instance (s : Stores engine) (step : SystemTime × Operation engine) : Decidable (Enabled s step) :=
  match step with
  | (_, .insert message _) => inferInstanceAs (Decidable (s.memory.find message.scheduleId = none))
  | (now, .claimDue batchSize _ order) => inferInstanceAs (Decidable
      (order.Perm (s.memory.rows.map Prod.fst) ∧
        (s.memory.affected fun _ stored => stored.isClaimable now) ≤ batchSize))
  | (_, .acknowledge _ _ _) => isTrue trivial
  | (_, .deadLetterExhausted) => isTrue trivial
  | (_, .cancel _) => isTrue trivial
  | (_, .setPaused _ _) => isTrue trivial
  | (_, .resume _ _) => isTrue trivial
  | (_, .replay _) => isTrue trivial

def machine : Machine (Stores engine) (SystemTime × Operation engine) :=
  ⟨Enabled, next database⟩

instance (s : Stores engine) (step : SystemTime × Operation engine) :
    Decidable ((machine database).enabled s step) :=
  inferInstanceAs (Decidable (Enabled s step))

end Sql

def i32Max : ℕ := 2 ^ 31 - 1

/-- No acknowledgement meets a paused schedule that carries its token, a plain resume finds
no lease, and the budget of attempts fits its column. -/
def Guarded (s : Stores engine) (step : SystemTime × Operation engine) : Prop :=
  match step.2 with
  | .insert _ maxAttempts => maxAttempts.toNat ≤ i32Max
  | .acknowledge id lease _ => ∀ stored ∈ s.memory.find id,
      ¬(stored.status = .paused ∧ stored.leasedUntil = some lease)
  | .resume id none => ∀ stored ∈ s.memory.find id,
      stored.status = .paused → stored.leasedUntil = none
  | _ => True

instance (s : Stores engine) (step : SystemTime × Operation engine) : Decidable (Guarded s step) :=
  match step with
  | (_, .insert _ maxAttempts) => inferInstanceAs (Decidable (maxAttempts.toNat ≤ i32Max))
  | (_, .acknowledge id lease _) => inferInstanceAs (Decidable (∀ stored ∈ s.memory.find id,
      ¬(stored.status = .paused ∧ stored.leasedUntil = some lease)))
  | (_, .resume id none) => inferInstanceAs (Decidable (∀ stored ∈ s.memory.find id,
      stored.status = .paused → stored.leasedUntil = none))
  | (_, .resume _ (some _)) => isTrue trivial
  | (_, .claimDue _ _ _) => isTrue trivial
  | (_, .deadLetterExhausted) => isTrue trivial
  | (_, .cancel _) => isTrue trivial
  | (_, .setPaused _ _) => isTrue trivial
  | (_, .replay _) => isTrue trivial

def intervalOf : Operation engine → Option Duration
  | .claimDue _ lease _ => some lease
  | .acknowledge _ _ (.failed retryIn _) => some retryIn
  | _ => none

/-- The interval arrives as it is, and the deadline it gives is a timestamp. -/
def Fits (d : Dialect) (now : SystemTime) (interval : Duration) : Prop :=
  ExactInterval d interval ∧ now.nanos + interval.nanos ≤ (lastInstant d).nanos

instance (d : Dialect) (now : SystemTime) (interval : Duration) : Decidable (Fits d now interval) :=
  inferInstanceAs (Decidable (_ ∧ _))

def Aligned (d : Dialect) (s : Stores engine) (step : SystemTime × Operation engine) : Prop :=
  Guarded s step ∧ ∀ interval ∈ intervalOf step.2, Fits d step.1 interval

instance (d : Dialect) (s : Stores engine) (step : SystemTime × Operation engine) :
    Decidable (Aligned d s step) :=
  inferInstanceAs (Decidable (_ ∧ _))

theorem stamp_of_fits {database : Database} {now : SystemTime} {interval : Duration}
    (fits : Fits database.dialect now interval) :
    ∃ deadline, now.checkedAdd interval = some deadline ∧
      database.stamp now interval = some deadline := by
  obtain ⟨exactly, inRange⟩ := fits
  have capped : cappedInterval database.dialect interval = interval :=
    Duration.ext (min_eq_left exactly.2.1)
  obtain ⟨deadline, added⟩ : ∃ deadline, now.checkedAdd interval = some deadline :=
    exists_checkedAdd (lt_of_le_of_lt inRange (lastInstant database.dialect).in_range.2)
  have held : deadline ≤ lastInstant database.dialect := by
    rw [systemTime_le_iff, checkedAdd_eq_some.mp added]
    exact inRange
  refine ⟨deadline, added, ?_⟩
  rw [Database.stamp, capped, database.round_exact interval exactly, added, Option.filter_some,
    if_pos (decide_eq_true held)]

structure View where
  status : ScheduleStatus
  scheduledFor : SystemTime
  attempts : ℕ
  lastError : Option String
  deriving DecidableEq

def storedView (stored : StoredSchedule engine) : View :=
  ⟨stored.status, stored.message.scheduledFor, stored.attempts, stored.lastError⟩

def rowView (row : Row SystemTime (ScheduledMessage engine)) : View :=
  ⟨rowStatus row, row.scheduledFor, attemptsFromI64 row.attempts, row.lastError⟩

/-! ## Rows that mirror stored schedules -/

theorem rowStatus_pending {τ γ : Type} {row : Row τ γ} :
    rowStatus row = .pending ↔ row.isOpen = true ∧ row.paused = false := by
  unfold rowStatus terminalStatus statusWithPaused Row.isOpen
  cases row.deadLetteredAt <;> cases row.cancelledAt <;> cases row.deliveredAt <;>
    cases row.paused <;> simp

theorem rowStatus_paused {τ γ : Type} {row : Row τ γ} :
    rowStatus row = .paused ↔ row.isOpen = true ∧ row.paused = true := by
  unfold rowStatus terminalStatus statusWithPaused Row.isOpen
  cases row.deadLetteredAt <;> cases row.cancelledAt <;> cases row.deliveredAt <;>
    cases row.paused <;> simp

theorem rowStatus_deadLettered {τ γ : Type} {row : Row τ γ} :
    rowStatus row = .deadLettered ↔ row.deadLetteredAt.isSome = true := by
  unfold rowStatus terminalStatus statusWithPaused
  cases row.deadLetteredAt <;> cases row.cancelledAt <;> cases row.deliveredAt <;>
    cases row.paused <;> simp

theorem isTerminal_rowStatus {τ γ : Type} {row : Row τ γ} :
    SchedulerMemory.isTerminal (rowStatus row) = !row.isOpen := by
  unfold rowStatus terminalStatus statusWithPaused Row.isOpen SchedulerMemory.isTerminal
  cases row.deadLetteredAt <;> cases row.cancelledAt <;> cases row.deliveredAt <;>
    cases row.paused <;> simp

theorem isOpen_iff {τ γ : Type} {row : Row τ γ} :
    row.isOpen = true ↔
      row.deliveredAt = none ∧ row.cancelledAt = none ∧ row.deadLetteredAt = none := by
  simp [Row.isOpen, and_assoc]

/-- At most one terminal timestamp is set where `single` matters: a replay clears one. -/
structure Mirrors (id : Uuid) (stored : StoredSchedule engine)
    (row : Row SystemTime (ScheduledMessage engine)) : Prop where
  keyed : stored.message.scheduleId = id
  status : stored.status = rowStatus row
  scheduledFor : stored.message.scheduledFor = row.scheduledFor
  attempts : row.attempts = stored.attempts
  maxAttempts : row.maxAttempts = stored.maxAttempts
  leasedUntil : stored.leasedUntil = row.leasedUntil
  lastError : stored.lastError = row.lastError
  budget : stored.attempts ≤ stored.maxAttempts ∧ stored.maxAttempts ≤ i32Max
  single : row.deadLetteredAt.isSome = true → row.deliveredAt = none ∧ row.cancelledAt = none

/-- Both stores hold the same schedules, each mirrored by the other. -/
def Related (store : Store engine) (rows : Rows engine) : Prop :=
  ∀ id, Option.Rel (Mirrors id) (store.find id) (rows.find id)

theorem Related.of_stored {store : Store engine} {rows : Rows engine} (related : Related store rows)
    {id : Uuid} {stored : StoredSchedule engine} (found : store.find id = some stored) :
    ∃ row, rows.find id = some row ∧ Mirrors id stored row := by
  have both := related id
  rw [found] at both
  cases hrow : rows.find id with
  | none =>
    rw [hrow] at both
    cases both
  | some row =>
    rw [hrow] at both
    cases both with
    | some mirrors => exact ⟨row, rfl, mirrors⟩

theorem Related.of_row {store : Store engine} {rows : Rows engine} (related : Related store rows)
    {id : Uuid} {row : Row SystemTime (ScheduledMessage engine)}
    (found : rows.find id = some row) : ∃ stored, store.find id = some stored ∧
      Mirrors id stored row := by
  cases hstored : store.find id with
  | none =>
    have both := related id
    rw [hstored, found] at both
    cases both
  | some stored =>
    obtain ⟨_, same, mirrors⟩ := related.of_stored hstored
    rw [found] at same
    cases same
    exact ⟨stored, rfl, mirrors⟩

theorem Related.none_iff {store : Store engine} {rows : Rows engine}
    (related : Related store rows) {id : Uuid} : store.find id = none ↔ rows.find id = none := by
  have both := related id
  constructor
  · intro missing
    rw [missing] at both
    cases hrow : rows.find id with
    | none => rfl
    | some _ =>
      rw [hrow] at both
      cases both
  · intro missing
    rw [missing] at both
    cases hstored : store.find id with
    | none => rfl
    | some _ =>
      rw [hstored] at both
      cases both

/-- Two operations that change every schedule and its row in step keep the relation. -/
theorem related_map {store store' : Store engine} {rows rows' : Rows engine}
    {f : Uuid → StoredSchedule engine → StoredSchedule engine}
    {g : Uuid → Row SystemTime (ScheduledMessage engine) →
      Row SystemTime (ScheduledMessage engine)}
    (related : Related store rows) (inMemory : ∀ k, store'.find k = (store.find k).map (f k))
    (inSql : ∀ k, rows'.find k = (rows.find k).map (g k))
    (writes : ∀ k stored row, store.find k = some stored → Mirrors k stored row →
      Mirrors k (f k stored) (g k row)) :
    Related store' rows' := by
  intro k
  rw [inMemory, inSql]
  cases found : store.find k with
  | none =>
    rw [related.none_iff.mp found]
    exact .none
  | some stored =>
    obtain ⟨row, hrow, mirrors⟩ := related.of_stored found
    rw [hrow]
    exact .some (writes k stored row found mirrors)

/-! ### Acknowledgements -/

theorem Mirrors.fence {id : Uuid} {stored : StoredSchedule engine}
    {row : Row SystemTime (ScheduledMessage engine)} (m : Mirrors id stored row)
    {lease : SystemTime} (unpaused : ¬(stored.status = .paused ∧ stored.leasedUntil = some lease)) :
    (decide (row.leasedUntil = some lease) && row.isOpen) = true ↔
      stored.status = .pending ∧ stored.leasedUntil = some lease := by
  rw [Bool.and_eq_true, decide_eq_true_eq, m.status, rowStatus_pending, m.leasedUntil]
  rw [m.status, rowStatus_paused, m.leasedUntil] at unpaused
  cases paused : row.paused with
  | false => tauto
  | true => tauto

section Acknowledge

variable {store : Store engine} {rows : Rows engine} {id : Uuid} {lease : SystemTime}

theorem Related.applied (related : Related store rows)
    (unpaused : ∀ stored ∈ store.find id,
      ¬(stored.status = .paused ∧ stored.leasedUntil = some lease))
    (g : Row SystemTime (ScheduledMessage engine) → Row SystemTime (ScheduledMessage engine)) :
    (SchedulerStatements.acknowledge rows id lease g).2 =
      (SchedulerMemory.fencedPending store id lease).isSome := by
  rw [SchedulerStatements.acknowledge, SchedulerStatements.updateById_applied, Bool.eq_iff_iff,
    Option.isSome_iff_exists]
  simp only [SchedulerMemory.fencedPending_eq_some]
  cases found : store.find id with
  | none =>
    rw [related.none_iff.mp found]
    simp
  | some stored =>
    obtain ⟨row, hrow, mirrors⟩ := related.of_stored found
    rw [hrow, Option.any_some, mirrors.fence (unpaused stored found)]
    simp

theorem related_acknowledge (related : Related store rows)
    (unpaused : ∀ stored ∈ store.find id,
      ¬(stored.status = .paused ∧ stored.leasedUntil = some lease))
    {f : StoredSchedule engine → Except SchedulerError (StoredSchedule engine)}
    {g : Row SystemTime (ScheduledMessage engine) → Row SystemTime (ScheduledMessage engine)}
    (writes : ∀ stored row, Mirrors id stored row → stored.status = .pending →
      ∃ updated, f stored = .ok updated ∧ Mirrors id updated (g row)) :
    Related (SchedulerMemory.acknowledge store id lease f).1
        (SchedulerStatements.acknowledge rows id lease g).1 ∧
      Report.ofFlag (SchedulerMemory.acknowledge store id lease f).2 =
        .applied (SchedulerStatements.acknowledge rows id lease g).2 := by
  constructor
  · refine related_map related (SchedulerMemory.find_acknowledge store id lease f)
      (SchedulerStatements.find_updateById rows id _ g) ?_
    intro k stored row found mirrors
    by_cases same : k = id
    · subst same
      have fence := mirrors.fence (unpaused stored found)
      by_cases held : stored.status = .pending ∧ stored.leasedUntil = some lease
      · obtain ⟨updated, computed, after⟩ := writes stored row mirrors held.1
        rw [if_pos ⟨rfl, held⟩, if_pos ⟨rfl, fence.mpr held⟩, computed]
        exact after
      · rw [if_neg fun h => held h.2, if_neg fun h => held (fence.mp h.2)]
        exact mirrors
    · rw [if_neg fun h => same h.1, if_neg fun h => same h.1]
      exact mirrors
  · rw [related.applied unpaused, SchedulerMemory.acknowledge_report]
    cases fenced : SchedulerMemory.fencedPending store id lease with
    | none => rfl
    | some stored =>
      obtain ⟨found, pending, _⟩ := SchedulerMemory.fencedPending_eq_some.mp fenced
      obtain ⟨row, _, mirrors⟩ := related.of_stored found
      obtain ⟨updated, computed, _⟩ := writes stored row mirrors pending
      simp only [computed]
      rfl

theorem Mirrors.isOpen {stored : StoredSchedule engine}
    {row : Row SystemTime (ScheduledMessage engine)} (m : Mirrors id stored row)
    (pending : stored.status = .pending) :
    row.paused = false ∧ row.deliveredAt = none ∧ row.cancelledAt = none ∧
      row.deadLetteredAt = none := by
  rw [m.status, rowStatus_pending] at pending
  exact ⟨pending.2, isOpen_iff.mp pending.1⟩

section Writes

variable {stored : StoredSchedule engine} {row : Row SystemTime (ScheduledMessage engine)}

theorem Mirrors.delivered (m : Mirrors id stored row) (pending : stored.status = .pending)
    (now : SystemTime) :
    Mirrors id { stored with status := .delivered, leasedUntil := none }
      { row with deliveredAt := some now, leasedUntil := none } := by
  obtain ⟨_, _, cancelled, dead⟩ := m.isOpen pending
  exact { m with
    status := by simp [rowStatus, terminalStatus, statusWithPaused, cancelled, dead]
    leasedUntil := rfl
    single := by simp [dead] }

theorem Mirrors.rescheduled (m : Mirrors id stored row) (next : SystemTime) :
    Mirrors id
      { stored with message := { stored.message with scheduledFor := next }, attempts := 0,
                    leasedUntil := none, lastError := none }
      { row with scheduledFor := next, attempts := 0, leasedUntil := none, lastError := none } :=
  { m with
    scheduledFor := rfl
    attempts := rfl
    leasedUntil := rfl
    lastError := rfl
    budget := ⟨Nat.zero_le _, m.budget.2⟩ }

theorem Mirrors.failed (m : Mirrors id stored row) (retryAt : SystemTime) (error : String) :
    Mirrors id { stored with leasedUntil := some retryAt, lastError := some error }
      { row with leasedUntil := some retryAt, lastError := some error } :=
  { m with leasedUntil := rfl, lastError := rfl }

theorem Mirrors.deadLettered (m : Mirrors id stored row) (pending : stored.status = .pending)
    (now : SystemTime) (error : String) :
    Mirrors id
      { stored with status := .deadLettered, leasedUntil := none, lastError := some error,
                    deadLetteredAt := some now }
      { row with deadLetteredAt := some now, lastError := some error, leasedUntil := none } := by
  obtain ⟨_, delivered, cancelled, _⟩ := m.isOpen pending
  exact { m with
    status := rfl
    leasedUntil := rfl
    lastError := rfl
    single := fun _ => ⟨delivered, cancelled⟩ }

end Writes

theorem agrees_of_eq {a b : Report} (same : a = b) : Agrees a b := by
  subst same
  cases a with
  | claimed ids => exact List.Perm.refl ids
  | _ => exact rfl

theorem related_perform {database : Database} (related : Related store rows)
    (unpaused : ∀ stored ∈ store.find id,
      ¬(stored.status = .paused ∧ stored.leasedUntil = some lease))
    {now : SystemTime} {call : Call}
    (fits : ∀ interval ∈ intervalOf (.acknowledge id lease call : Operation engine),
      Fits database.dialect now interval) :
    Related (SchedulerMemory.perform now call store id lease).1
        (sqlPerform database now call rows id lease).1 ∧
      Agrees (Report.ofFlag (SchedulerMemory.perform now call store id lease).2)
        (sqlPerform database now call rows id lease).2 := by
  cases call with
  | delivered =>
    refine (related_acknowledge related unpaused ?_).imp_right agrees_of_eq
    exact fun stored row m pending => ⟨_, rfl, m.delivered pending now⟩
  | reschedule next =>
    refine (related_acknowledge related unpaused ?_).imp_right agrees_of_eq
    exact fun stored row m _ => ⟨_, rfl, m.rescheduled next⟩
  | failed retryIn error =>
    obtain ⟨retryAt, inMemory, inSql⟩ := stamp_of_fits (fits retryIn rfl)
    simp only [SchedulerMemory.perform, SchedulerMemory.markFailed, sqlPerform, inMemory, inSql]
    refine (related_acknowledge related unpaused ?_).imp_right agrees_of_eq
    exact fun stored row m _ => ⟨_, rfl, m.failed retryAt error⟩
  | deadLettered error =>
    refine (related_acknowledge related unpaused ?_).imp_right agrees_of_eq
    exact fun stored row m pending => ⟨_, rfl, m.deadLettered pending now error⟩

end Acknowledge

/-! ### Control -/

section Control

variable {store : Store engine} {rows : Rows engine} {id : Uuid}

theorem related_withSchedule (related : Related store rows)
    {f : StoredSchedule engine → Except SchedulerError (StoredSchedule engine)}
    {p : Row SystemTime (ScheduledMessage engine) → Bool}
    {g : Row SystemTime (ScheduledMessage engine) → Row SystemTime (ScheduledMessage engine)}
    (writes : ∀ stored row, store.find id = some stored → Mirrors id stored row →
      Mirrors id ((f stored).toOption.getD stored) (if p row = true then g row else row)) :
    Related (SchedulerMemory.withSchedule store id f).1
      (SchedulerStatements.updateById rows id p g).1 := by
  refine related_map related (SchedulerMemory.find_withSchedule store id f)
    (SchedulerStatements.find_updateById rows id p g) ?_
  intro k stored row found mirrors
  by_cases same : k = id
  · subst same
    simpa using writes stored row found mirrors
  · rw [if_neg same, if_neg fun h => same h.1]
    exact mirrors

theorem ensureExists_report (related : Related store rows)
    {f : StoredSchedule engine → Except SchedulerError (StoredSchedule engine)}
    {p : Row SystemTime (ScheduledMessage engine) → Bool}
    {g : Row SystemTime (ScheduledMessage engine) → Row SystemTime (ScheduledMessage engine)}
    (total : ∀ stored, ∃ updated, f stored = .ok updated) :
    Report.ofUnit (SchedulerMemory.withSchedule store id f).2 =
      (ensureExists id (SchedulerStatements.updateById rows id p g)).2 := by
  rw [SchedulerMemory.withSchedule_report, ensureExists, SchedulerStatements.updateById_applied,
    SchedulerStatements.find_updateById]
  cases found : store.find id with
  | none => simp [related.none_iff.mp found, Report.ofUnit]
  | some stored =>
    obtain ⟨row, hrow, _⟩ := related.of_stored found
    obtain ⟨updated, computed⟩ := total stored
    simp [hrow, computed, Except.map, Report.ofUnit]

theorem Mirrors.paused_iff {stored : StoredSchedule engine}
    {row : Row SystemTime (ScheduledMessage engine)} (m : Mirrors id stored row) :
    stored.status = .paused ↔ (row.paused && row.isOpen) = true := by
  rw [m.status, rowStatus_paused, Bool.and_eq_true, and_comm]

theorem Mirrors.deadLettered_iff {stored : StoredSchedule engine}
    {row : Row SystemTime (ScheduledMessage engine)} (m : Mirrors id stored row) :
    stored.status = .deadLettered ↔ row.deadLetteredAt.isSome = true := by
  rw [m.status, rowStatus_deadLettered]

theorem related_cancel (related : Related store rows) (now : SystemTime) :
    Related (SchedulerMemory.cancel store id).1 (SchedulerStatements.cancel now rows id).1 := by
  refine related_withSchedule related fun stored row _ m => ?_
  have terminal : SchedulerMemory.isTerminal stored.status = !row.isOpen := by
    rw [m.status, isTerminal_rowStatus]
  cases opened : row.isOpen with
  | false => simpa [terminal, opened, Except.toOption] using m
  | true =>
    obtain ⟨_, _, dead⟩ := isOpen_iff.mp opened
    simp only [terminal, opened, Bool.not_true, Bool.false_eq_true, if_false, if_true,
      Except.toOption, Option.getD_some]
    exact { m with
      status := by simp [rowStatus, terminalStatus, statusWithPaused, dead]
      leasedUntil := rfl
      single := by simp [dead] }

theorem rowStatus_setPaused {τ γ : Type} (row : Row τ γ) (paused : Bool) :
    rowStatus { row with paused := paused } =
      match paused, rowStatus row with
      | true, .pending => .paused
      | false, .paused => .pending
      | _, status => status := by
  unfold rowStatus terminalStatus statusWithPaused
  cases row.deadLetteredAt <;> cases row.cancelledAt <;> cases row.deliveredAt <;>
    cases row.paused <;> cases paused <;> rfl

theorem related_setPaused (related : Related store rows) (paused : Bool) :
    Related (SchedulerMemory.setPaused paused store id).1
      (SchedulerStatements.setPaused paused rows id).1 := by
  refine related_withSchedule related fun stored row _ m => ?_
  have status := rowStatus_setPaused row paused
  rw [← m.status] at status
  cases paused <;> cases current : stored.status <;>
    simp only [current, Except.toOption, Option.getD_some, if_true] at status ⊢ <;>
    exact { m with status := by simp [current, status] }

theorem Mirrors.resumed {stored : StoredSchedule engine}
    {row : Row SystemTime (ScheduledMessage engine)} (m : Mirrors id stored row)
    (held : stored.status = .paused) (released : stored.leasedUntil = none) :
    Mirrors id { stored with status := .pending }
      { row with paused := false, leasedUntil := none } := by
  have opened := (rowStatus_paused.mp (m.status ▸ held)).1
  exact { m with
    status := by
      rw [eq_comm, rowStatus_pending]
      exact ⟨opened, rfl⟩
    leasedUntil := released }

theorem related_resume (related : Related store rows) (next : Option SystemTime)
    (released : next = none → ∀ stored ∈ store.find id,
      stored.status = .paused → stored.leasedUntil = none) :
    Related (SchedulerMemory.resume next store id).1
      (SchedulerStatements.resume rows id next).1 := by
  cases next with
  | none =>
    refine related_withSchedule related fun stored row found m => ?_
    by_cases held : stored.status = .paused
    · rw [if_pos (m.paused_iff.mp held)]
      simp only [held, ne_eq, not_true_eq_false, if_false, Except.toOption, Option.getD_some]
      exact m.resumed held (released rfl stored found held)
    · rw [if_neg fun h => held (m.paused_iff.mpr h)]
      simpa [held, Except.toOption] using m
  | some instant =>
    refine related_withSchedule related fun stored row _ m => ?_
    by_cases held : stored.status = .paused
    · rw [if_pos (m.paused_iff.mp held)]
      simp only [held, ne_eq, not_true_eq_false, if_false, Except.toOption, Option.getD_some]
      exact (m.rescheduled instant).resumed held rfl
    · rw [if_neg fun h => held (m.paused_iff.mpr h)]
      simpa [held, Except.toOption] using m

theorem related_replay (related : Related store rows) (now : SystemTime) :
    Related (SchedulerMemory.replay now store id).1 (sqlReplay now rows id).1 ∧
      Report.ofUnit (SchedulerMemory.replay now store id).2 = (sqlReplay now rows id).2 := by
  constructor
  · refine related_withSchedule related fun stored row _ m => ?_
    by_cases dead : stored.status = .deadLettered
    · have marked := m.deadLettered_iff.mp dead
      rw [if_pos marked]
      simp only [dead, ne_eq, not_true_eq_false, if_false, Except.toOption, Option.getD_some]
      obtain ⟨delivered, cancelled⟩ := m.single marked
      exact { m with
        status := by simp [rowStatus, terminalStatus, statusWithPaused, delivered, cancelled]
        scheduledFor := rfl
        attempts := rfl
        leasedUntil := rfl
        lastError := rfl
        budget := ⟨Nat.zero_le _, m.budget.2⟩
        single := by simp }
    · rw [if_neg fun h => dead (m.deadLettered_iff.mpr h)]
      simpa [dead, Except.toOption] using m
  · rw [SchedulerMemory.replay, SchedulerMemory.withSchedule_report, sqlReplay,
      SchedulerStatements.replay, SchedulerStatements.updateById_applied,
      SchedulerStatements.find_updateById]
    cases found : store.find id with
    | none => simp [related.none_iff.mp found, Report.ofUnit]
    | some stored =>
      obtain ⟨row, hrow, m⟩ := related.of_stored found
      by_cases dead : stored.status = .deadLettered
      · simp [hrow, dead, m.deadLettered_iff.mp dead, Except.map, Report.ofUnit]
      · have unmarked := mt m.deadLettered_iff.mpr dead
        rw [m.status] at dead
        simp [hrow, dead, unmarked, Except.map, Report.ofUnit, m.status]

end Control

/-! ### Insertions, claims and the sweep -/

section Batches

variable {store : Store engine} {rows : Rows engine}

theorem related_insert (database : Database) (related : Related store rows) (now : SystemTime)
    {message : ScheduledMessage engine} {maxAttempts : UInt32}
    (free : store.find message.scheduleId = none) (fits : maxAttempts.toNat ≤ i32Max) :
    Related (SchedulerMemory.insert store message maxAttempts)
        (sqlStep database now rows (.insert message maxAttempts)).1 ∧
      (sqlStep database now rows (.insert message maxAttempts)).2 = .done := by
  simp only [sqlStep]
  cases inserted : SchedulerStatements.insert rows message.scheduleId message message.scheduledFor
      (maxAttemptsToI32 maxAttempts) with
  | none => exact absurd (related.none_iff.mp free) (insert_eq_none.mp inserted)
  | some rows' =>
    refine ⟨fun k => ?_, rfl⟩
    rw [SchedulerMemory.find_insert, find_insert inserted]
    by_cases same : k = message.scheduleId
    · rw [if_pos same, if_pos same]
      refine .some ?_
      constructor
      case maxAttempts =>
        have small : (maxAttempts.toNat : ℤ) ≤ 2 ^ 31 - 1 := by
          have := fits
          unfold i32Max at this
          omega
        exact min_eq_left small
      case budget => exact ⟨Nat.zero_le _, fits⟩
      all_goals first | exact same.symm | rfl | simp [Row.fresh]
    · rw [if_neg same, if_neg same]
      exact related k

theorem Mirrors.isUnleased {id : Uuid} {stored : StoredSchedule engine}
    {row : Row SystemTime (ScheduledMessage engine)} (m : Mirrors id stored row)
    (now : SystemTime) : stored.isUnleased now = row.isUnleased now := by
  unfold StoredSchedule.isUnleased Row.isUnleased
  rw [m.leasedUntil]
  cases row.leasedUntil <;> rfl

theorem Mirrors.isClaimable {id : Uuid} {stored : StoredSchedule engine}
    {row : Row SystemTime (ScheduledMessage engine)} (m : Mirrors id stored row)
    (now : SystemTime) : stored.isClaimable now = row.isEligible now := by
  rw [Bool.eq_iff_iff]
  simp only [StoredSchedule.isClaimable, Row.isEligible, Bool.and_eq_true, decide_eq_true_eq,
    Bool.not_eq_true', m.status, rowStatus_pending, m.scheduledFor, m.isUnleased, m.attempts,
    m.maxAttempts, Nat.cast_lt]
  tauto

theorem Mirrors.isExhausted {id : Uuid} {stored : StoredSchedule engine}
    {row : Row SystemTime (ScheduledMessage engine)} (m : Mirrors id stored row)
    (now : SystemTime) : stored.isExhausted now = row.isExhausted now := by
  rw [Bool.eq_iff_iff]
  simp only [StoredSchedule.isExhausted, Row.isExhausted, Bool.and_eq_true, decide_eq_true_eq,
    Bool.not_eq_true', m.status, rowStatus_pending, m.isUnleased, m.attempts, m.maxAttempts,
    Nat.cast_le]

theorem Related.matching (related : Related store rows) {p : StoredSchedule engine → Bool}
    {q : Row SystemTime (ScheduledMessage engine) → Bool}
    (agree : ∀ id stored row, Mirrors id stored row → p stored = q row) (id : Uuid) :
    (∃ stored, store.find id = some stored ∧ p stored = true) ↔
      ∃ row, rows.find id = some row ∧ q row = true := by
  constructor
  · rintro ⟨stored, found, holds⟩
    obtain ⟨row, hrow, m⟩ := related.of_stored found
    exact ⟨row, hrow, agree id stored row m ▸ holds⟩
  · rintro ⟨row, found, holds⟩
    obtain ⟨stored, hstored, m⟩ := related.of_row found
    exact ⟨stored, hstored, (agree id stored row m).symm ▸ holds⟩

theorem related_deadLetterExhausted (related : Related store rows) (now : SystemTime) :
    Related (SchedulerMemory.deadLetterExhausted now store).1
        (SchedulerStatements.deadLetterExhausted now rows).1 ∧
      (SchedulerMemory.deadLetterExhausted now store).2 =
        (SchedulerStatements.deadLetterExhausted now rows).2 := by
  constructor
  · refine related_map related (find_updateWhere _ _ _)
      (SchedulerStatements.find_deadLetterExhausted now rows) ?_
    intro k stored row _ m
    rw [m.isExhausted now]
    by_cases exhausted : row.isExhausted now = true
    · have pending : stored.status = .pending := by
        have held := m.isExhausted now ▸ exhausted
        simp only [StoredSchedule.isExhausted, Bool.and_eq_true, decide_eq_true_eq] at held
        exact held.1.1
      rw [if_pos exhausted, if_pos exhausted]
      exact m.deadLettered pending now _
    · rw [if_neg exhausted, if_neg exhausted]
      exact m
  · exact countP_eq_of_matching (related.matching fun _ _ _ m => m.isExhausted now)

theorem Mirrors.claimed {id : Uuid} {stored : StoredSchedule engine}
    {row : Row SystemTime (ScheduledMessage engine)} (m : Mirrors id stored row)
    {now : SystemTime} (claimable : stored.isClaimable now = true) (deadline : SystemTime) :
    Mirrors id (stored.claim deadline)
      { row with leasedUntil := some deadline, attempts := row.attempts + 1 } := by
  have left : stored.attempts < stored.maxAttempts := by
    simp only [StoredSchedule.isClaimable, Bool.and_eq_true, decide_eq_true_eq] at claimable
    exact claimable.2
  exact { m with
    attempts := by
      rw [m.attempts]
      exact (Nat.cast_succ _).symm
    leasedUntil := rfl
    budget := ⟨left, m.budget.2⟩ }

/-- A batch that holds every due schedule takes the same ones in both stores. -/
theorem Related.claims (related : Related store rows) {now : SystemTime} {batchSize : ℕ}
    {order : List Uuid} (walk : order.Perm (store.rows.map Prod.fst))
    (room : (store.affected fun _ stored => stored.isClaimable now) ≤ batchSize) (k : Uuid) :
    k ∈ SchedulerMemory.chosen now batchSize order store ↔
      k ∈ (SchedulerStatements.dueRows now rows [] batchSize).map Prod.fst := by
  have agree := related.matching fun _ _ _ m => m.isClaimable now
  have roomInSql : rows.rows.countP (fun row => row.2.isEligible now &&
      !([] : List Uuid).contains row.1) ≤ batchSize := by
    refine le_of_eq_of_le (countP_eq_of_matching ?_).symm room
    simpa using agree
  rw [SchedulerMemory.mem_chosen_of_room walk room, SchedulerStatements.dueRows,
    mem_select_of_room roomInSql]
  simpa using agree k

theorem Related.keyed (related : Related store rows) : SchedulerMemory.Keyed store := by
  intro id stored found
  obtain ⟨_, _, m⟩ := related.of_stored found
  exact m.keyed

theorem related_claimDue {database : Database} (related : Related store rows) {now : SystemTime}
    {batchSize : ℕ} {lease : Duration} {order : List Uuid}
    (fits : Fits database.dialect now lease)
    (walk : order.Perm (store.rows.map Prod.fst))
    (room : (store.affected fun _ stored => stored.isClaimable now) ≤ batchSize) :
    Related (SchedulerMemorySteps.step now store (.claimDue batchSize lease order)).1
        (sqlStep database now rows (.claimDue batchSize lease order)).1 ∧
      Agrees (SchedulerMemorySteps.step now store (.claimDue batchSize lease order)).2
        (sqlStep database now rows (.claimDue batchSize lease order)).2 := by
  have distinct : order.Nodup := walk.nodup_iff.mpr store.keyed
  have finds := SchedulerMemory.find_claimDue now batchSize lease distinct store
  have same := related.claims walk room
  obtain ⟨deadline, inMemory, inSql⟩ := stamp_of_fits fits
  simp only [inMemory] at finds
  simp only [SchedulerMemorySteps.step, sqlStep, reporting, inSql]
  constructor
  · refine related_map related finds
      (SchedulerStatements.find_claimDue now deadline rows [] batchSize) ?_
    intro k stored row found m
    by_cases taken : k ∈ SchedulerMemory.chosen now batchSize order store
    · rw [if_pos taken, if_pos ((same k).mp taken)]
      obtain ⟨_, again, claimable⟩ := (SchedulerMemory.mem_chosen_of_room walk room).mp taken
      rw [found] at again
      cases again
      exact m.claimed claimable deadline
    · rw [if_neg taken, if_neg fun h => taken ((same k).mpr h)]
      exact m
  · rw [SchedulerMemory.claimDue_returns now batchSize distinct store inMemory]
    have ids := congrArg (List.map Prod.fst)
      (SchedulerMemory.returned_tokens related.keyed now batchSize order deadline)
    simp only [List.map_map, Function.comp_def, List.map_id'] at ids
    show List.Perm _ _
    rw [ids]
    refine (List.perm_ext_iff_of_nodup
      (SchedulerMemory.chosen_nodup now batchSize distinct store)
      (SchedulerStatements.claimDue_ids_nodup now deadline rows [] batchSize)).mpr fun k => ?_
    rw [SchedulerStatements.mem_claimDue_ids]
    exact same k

end Batches

/-! ## Whole runs -/

theorem related_step {database : Database} {s : Stores engine}
    (related : Related s.memory s.rows) {step : SystemTime × Operation engine}
    (enabled : Enabled s step) (aligned : Aligned database.dialect s step) :
    Related (SchedulerMemorySteps.step step.1 s.memory step.2).1
        (sqlStep database step.1 s.rows step.2).1 ∧
      Agrees (SchedulerMemorySteps.step step.1 s.memory step.2).2
        (sqlStep database step.1 s.rows step.2).2 := by
  obtain ⟨now, operation⟩ := step
  obtain ⟨guarded, fits⟩ := aligned
  cases operation with
  | insert message maxAttempts =>
    exact (related_insert database related now enabled guarded).imp_right
      fun done => agrees_of_eq done.symm
  | claimDue batchSize lease order =>
    exact related_claimDue related (fits lease rfl) enabled.1 enabled.2
  | acknowledge id lease call => exact related_perform related guarded fits
  | deadLetterExhausted =>
    exact (related_deadLetterExhausted related now).imp_right
      fun same => agrees_of_eq (congrArg _ same)
  | cancel id =>
    refine ⟨related_cancel related now, agrees_of_eq (ensureExists_report related ?_)⟩
    exact fun stored => ⟨_, rfl⟩
  | setPaused id paused =>
    refine ⟨related_setPaused related paused, agrees_of_eq (ensureExists_report related ?_)⟩
    intro stored
    cases paused <;> cases stored.status <;> exact ⟨_, rfl⟩
  | resume id next =>
    cases next with
    | none =>
      refine ⟨related_resume related none fun _ => guarded,
        agrees_of_eq (ensureExists_report related ?_)⟩
      intro stored
      by_cases held : stored.status = .paused <;> simp [held]
    | some instant =>
      refine ⟨related_resume related (some instant) (by simp),
        agrees_of_eq (ensureExists_report related ?_)⟩
      intro stored
      by_cases held : stored.status = .paused <;> simp [held]
  | replay id => exact (related_replay related now).imp_right agrees_of_eq

theorem rowView_eq {id : Uuid} {stored : StoredSchedule engine}
    {row : Row SystemTime (ScheduledMessage engine)} (m : Mirrors id stored row) :
    storedView stored = rowView row := by
  have small : stored.attempts ≤ 2 ^ 32 - 1 := by
    obtain ⟨spent, fits⟩ := m.budget
    unfold i32Max at fits
    omega
  have counted : attemptsFromI64 row.attempts = stored.attempts := by
    rw [m.attempts, attemptsFromI64, max_eq_left (Int.natCast_nonneg _), Int.toNat_natCast,
      min_eq_left small]
  rw [storedView, rowView, counted, m.status, m.scheduledFor, m.lastError]

def sampleMessage : ScheduledMessage sampleEngine :=
  ⟨sampleSchedule, "reminders.due", [], .mediator, .delay (second 90), second 90⟩

/-- The message is inserted and claimed under a lease of thirty seconds. -/
def leased : List (SystemTime × Operation sampleEngine) :=
  [(second 99, .insert sampleMessage 5), (second 100, .claimDue 10 (.fromSecs 30) [sampleSchedule])]

/-- It fails, is claimed again and dead-lettered, and after a replay paused, resumed,
swept past, claimed and delivered. -/
def lifecycle : List (SystemTime × Operation sampleEngine) :=
  leased ++ [(second 105, .acknowledge sampleSchedule (second 130) (.failed (.fromSecs 10) "down")),
    (second 120, .claimDue 10 (.fromSecs 30) [sampleSchedule]),
    (second 125, .acknowledge sampleSchedule (second 150) (.deadLettered "gone")),
    (second 130, .replay sampleSchedule),
    (second 131, .setPaused sampleSchedule true),
    (second 132, .resume sampleSchedule none),
    (second 133, .deadLetterExhausted),
    (second 140, .claimDue 10 (.fromSecs 30) [sampleSchedule]),
    (second 145, .acknowledge sampleSchedule (second 170) .delivered),
    (second 150, .cancel sampleSchedule)]

def sampleDatabase (d : Dialect) : Database where
  dialect := d
  round interval := ⟨interval.nanos / SchedulerBackends.intervalUnit d *
    SchedulerBackends.intervalUnit d, lt_of_le_of_lt (Nat.div_mul_le_self _ _) interval.in_range⟩
  round_exact _ exactly := Duration.ext (Nat.div_mul_cancel exactly.1)
  refusal := "out of range"

/-- The claim is paused and then acknowledged with its own token. -/
def acknowledgedWhilePaused : List (SystemTime × Operation sampleEngine) :=
  leased ++ [(second 101, .setPaused sampleSchedule true),
    (second 105, .acknowledge sampleSchedule (second 130) .delivered)]

/-- The claim is paused, plainly resumed, and its schedule claimed again. -/
def resumedUnderLease : List (SystemTime × Operation sampleEngine) :=
  leased ++ [(second 101, .setPaused sampleSchedule true),
    (second 102, .resume sampleSchedule none),
    (second 103, .claimDue 10 (.fromSecs 30) [sampleSchedule])]

/-- The longest lease there is. -/
def claimedForever : List (SystemTime × Operation sampleEngine) :=
  [(second 99, .insert sampleMessage 5), (second 100, .claimDue 10 .max [sampleSchedule])]

end SchedulerRefinement
