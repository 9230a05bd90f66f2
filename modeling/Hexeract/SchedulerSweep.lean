import Hexeract.SchedulerBackends
import Hexeract.SchedulerLeases
import Hexeract.SchedulerWorker

/-! # Poll cycles under two clocks

One worker runs its cycle over a SQL store: it sweeps, claims a batch and settles the
occurrences one by one with a sink that always succeeds. The store reads the database
clock; the worker's own clock runs at a constant offset from it. The deadline of a claim is
what the database stamps: its clock plus the capped interval that the store bound, rounded
on the way. Rows are inserted and control calls made at any time. `handed` records which
schedules reached the sink. -/
namespace SchedulerSweep

open LibraryFramedBytes LibraryTables LibraryMachines StdTime BusEnvelope
open SchedulerStatements SchedulerMessages SchedulerWorker
open OutboxStatements (Dialect)
open SchedulerBackends (cappedInterval)
open SchedulerLeases (Ack ack_apply second sampleEngine sampleSchedule)

/-- The columns of a message as `insert` binds them; a delay keeps no rule. -/
structure Stored (engine : CronEngine) where
  eventType : String
  payload : Bytes
  target : Target
  recurrence : Option (CronExpression engine)

variable {engine : CronEngine}

abbrev Rows (engine : CronEngine) := Schedules Uuid SystemTime (Stored engine)

/-- The occurrence a claim decodes from the row it leased until `deadline`. -/
def occurrence (deadline : SystemTime) (row : Uuid × Row SystemTime (Stored engine)) :
    LeasedOccurrence engine where
  message :=
    { scheduleId := row.1
      eventType := row.2.content.eventType
      payload := row.2.content.payload
      target := row.2.content.target
      trigger := row.2.content.recurrence.elim (.delay row.2.scheduledFor) .cron
      scheduledFor := row.2.scheduledFor }
  attempts := attemptsFromI64 row.2.attempts
  maxAttempts := attemptsFromI64 row.2.maxAttempts
  leasedUntil := deadline

structure State (engine : CronEngine) where
  now : SystemTime
  table : Rows engine
  swept : Bool
  batch : List (LeasedOccurrence engine)
  handed : List Uuid

/-- A claim comes with the deadline that the database stamps, none where it fails; `retryAt` is
what it would stamp for a retry. -/
inductive Event (engine : CronEngine) where
  | tick (later : SystemTime)
  | insert (id : Uuid) (stored : Stored engine) (scheduledFor : SystemTime) (budget : UInt32)
  | cancel (id : Uuid)
  | setPaused (id : Uuid) (paused : Bool)
  | resume (id : Uuid) (next : Option SystemTime)
  | replay (id : Uuid)
  | sweep
  | claim (locked : List Uuid) (stamped : Option SystemTime)
  | settle (clock : SystemTime) (retryAt : Option SystemTime)

def ackOf (retryAt : Option SystemTime) : Call → Option (Ack SystemTime)
  | .delivered => some .delivered
  | .reschedule next => some (.reschedule next)
  | .failed _ error => retryAt.map (.failed · error)
  | .deadLettered error => some (.deadLettered error)

def applyCall (s : State engine) (retryAt : Option SystemTime) (o : LeasedOccurrence engine)
    (call : Option Call) : Rows engine :=
  match call.bind (ackOf retryAt) with
  | none => s.table
  | some ack => (ack.apply s.now s.table o.message.scheduleId o.leasedUntil).1

/-- A store and its database. `rounding` bounds, in nanoseconds, how far a stamped deadline
lies from the sum of clock and capped interval: floating point seconds, the digits of a text
and the resolution of the clock all round. -/
structure Database where
  dialect : Dialect
  rounding : ℕ

/-- The deadline is the clock plus the capped interval, up to rounding. -/
def Database.Stamps (database : Database) (now : SystemTime) (interval : Duration)
    (deadline : SystemTime) : Prop :=
  (deadline.nanos - (now.nanos + (cappedInterval database.dialect interval).nanos)).natAbs ≤
    database.rounding

instance (database : Database) (now : SystemTime) (interval : Duration) (deadline : SystemTime) :
    Decidable (database.Stamps now interval deadline) :=
  inferInstanceAs (Decidable (_ ≤ _))

section Cycle

variable (worker : Worker) (draw : UInt64 → UInt64) (database : Database) (offset : ℤ)

/-- The worker's clock reads the database clock plus the offset, budgets are at least
one, and the steps of a cycle come in their order. -/
def Enabled (s : State engine) : Event engine → Prop
  | .tick later => s.now ≤ later
  | .insert _ _ _ budget => 1 ≤ budget
  | .sweep => s.swept = false ∧ s.batch = []
  | .claim _ stamped => (s.swept = true ∧ s.batch = []) ∧
      ∀ deadline ∈ stamped, database.Stamps s.now worker.config.lease deadline
  | .settle clock _ => s.batch ≠ [] ∧ clock.nanos = s.now.nanos + offset
  | _ => True

/-- A claim that fails ends the cycle. -/
def claimStep (s : State engine) (locked : List Uuid) (stamped : Option SystemTime) :
    State engine :=
  match stamped with
  | none => { s with swept := false }
  | some deadline =>
    let claimed := claimDue s.now deadline s.table locked worker.config.batchSize
    { s with
      table := claimed.1
      swept := false
      batch := claimed.2.map (occurrence deadline) }

def settleStep (s : State engine) (clock : SystemTime) (retryAt : Option SystemTime) :
    State engine :=
  match s.batch with
  | [] => s
  | o :: rest =>
    let settled := settle worker.config draw o clock (.ok ())
    { s with
      table := applyCall s retryAt o (settled.call.toOption.getD none)
      batch := rest
      handed := if settled.dispatched then o.message.scheduleId :: s.handed else s.handed }

def next (s : State engine) : Event engine → State engine
  | .tick later => { s with now := later }
  | .insert id stored scheduledFor budget =>
    { s with table :=
      (insert s.table id stored scheduledFor (maxAttemptsToI32 budget)).getD s.table }
  | .cancel id => { s with table := (cancel s.now s.table id).1 }
  | .setPaused id paused => { s with table := (setPaused paused s.table id).1 }
  | .resume id next => { s with table := (resume s.table id next).1 }
  | .replay id => { s with table := (replay s.now s.table id).1 }
  | .sweep => { s with table := (deadLetterExhausted s.now s.table).1, swept := true }
  | .claim locked stamped => claimStep worker s locked stamped
  | .settle clock retryAt => settleStep worker draw s clock retryAt

instance (s : State engine) (e : Event engine) :
    Decidable (Enabled worker database offset s e) := by
  cases e <;> simp only [Enabled] <;> infer_instance

def machine : Machine (State engine) (Event engine) :=
  ⟨Enabled worker database offset, next worker draw⟩

instance (s : State engine) (e : Event engine) :
    Decidable ((machine worker draw database offset).enabled s e) :=
  inferInstanceAs (Decidable (Enabled worker database offset s e))

/-- When an occurrence is settled, the database clock and the worker's lead over it have not
reached the deadline that the database stamped on it. -/
def Prompt (s : State engine) : Event engine → Prop
  | .settle _ _ => ∀ o ∈ s.batch.head?, s.now.nanos + offset < o.leasedUntil.nanos
  | _ => True

instance (s : State engine) (e : Event engine) : Decidable (Prompt offset s e) := by
  cases e <;> simp only [Prompt] <;> infer_instance

end Cycle

def initial (now : SystemTime) : State engine := ⟨now, .empty, false, [], []⟩

/-- Rows keep their budget, and an attempt counter is kept or reset. -/
def Kept (t u : Rows engine) : Prop :=
  ∀ id r', u.find id = some r' → ∃ r, t.find id = some r ∧ r'.maxAttempts = r.maxAttempts ∧
    (r'.attempts = r.attempts ∨ r'.attempts = 0)

theorem kept_refl (t : Rows engine) : Kept t t :=
  fun _ r' found => ⟨r', found, rfl, Or.inl rfl⟩

theorem kept_updateById (t : Rows engine) (id : Uuid)
    (p : Row SystemTime (Stored engine) → Bool)
    {f : Row SystemTime (Stored engine) → Row SystemTime (Stored engine)}
    (keeps : ∀ r, (f r).maxAttempts = r.maxAttempts ∧
      ((f r).attempts = r.attempts ∨ (f r).attempts = 0)) :
    Kept t (updateById t id p f).1 := by
  intro k r' found
  rw [find_updateById, Option.map_eq_some_iff] at found
  obtain ⟨r, found, rfl⟩ := found
  refine ⟨r, found, ?_⟩
  split
  · exact keeps r
  · exact ⟨rfl, Or.inl rfl⟩

theorem kept_resume (t : Rows engine) (id : Uuid) (next : Option SystemTime) :
    Kept t (resume t id next).1 := by
  cases next with
  | none => exact kept_updateById t id _ fun r => ⟨rfl, Or.inl rfl⟩
  | some next => exact kept_updateById t id _ fun r => ⟨rfl, Or.inr rfl⟩

theorem kept_deadLetterExhausted (now : SystemTime) (t : Rows engine) :
    Kept t (deadLetterExhausted now t).1 := by
  intro k r' found
  rw [find_deadLetterExhausted, Option.map_eq_some_iff] at found
  obtain ⟨r, found, rfl⟩ := found
  refine ⟨r, found, ?_⟩
  split <;> exact ⟨rfl, Or.inl rfl⟩

theorem kept_applyCall (s : State engine) (retryAt : Option SystemTime)
    (o : LeasedOccurrence engine) (call : Option Call) :
    Kept s.table (applyCall s retryAt o call) := by
  unfold applyCall
  cases call.bind (ackOf retryAt) with
  | none => exact kept_refl s.table
  | some ack =>
    dsimp only
    rw [ack_apply, acknowledge]
    apply kept_updateById
    intro r
    cases ack with
    | delivered => exact ⟨rfl, Or.inl rfl⟩
    | reschedule next => exact ⟨rfl, Or.inr rfl⟩
    | failed retryAt error => exact ⟨rfl, Or.inl rfl⟩
    | deadLettered error => exact ⟨rfl, Or.inl rfl⟩

section Runs

variable {worker : Worker} {draw : UInt64 → UInt64} {database : Database} {offset : ℤ}

/-- A schedule with a consumed attempt has been handed to the sink, or waits in the batch
the worker is settling. -/
structure Accounted (s : State engine) : Prop where
  budget : ∀ id r, s.table.find id = some r → 1 ≤ r.maxAttempts
  spent : ∀ id r, s.table.find id = some r → 0 < r.attempts →
    id ∈ s.handed ∨ ∃ o ∈ s.batch, o.message.scheduleId = id

theorem accounted_initial (now : SystemTime) : Accounted (initial now : State engine) := by
  constructor
  · rintro id r ⟨⟩
  · rintro id r ⟨⟩

theorem accounted_table {s : State engine} (a : Accounted s) {t : Rows engine}
    (kept : Kept s.table t) : Accounted { s with table := t } := by
  constructor
  · intro id r' found
    obtain ⟨r, old, same, _⟩ := kept id r' found
    rw [same]
    exact a.budget id r old
  · intro id r' found consumed
    obtain ⟨r, old, _, same | reset⟩ := kept id r' found
    · exact a.spent id r old (same ▸ consumed)
    · rw [reset] at consumed
      exact absurd consumed (lt_irrefl 0)

theorem accounted_insert {s : State engine} (a : Accounted s) (id : Uuid)
    (stored : Stored engine) (scheduledFor : SystemTime) {budget : UInt32} (h : 1 ≤ budget) :
    Accounted (next worker draw s (.insert id stored scheduledFor budget)) := by
  simp only [next]
  cases inserted : insert s.table id stored scheduledFor (maxAttemptsToI32 budget) with
  | none => exact a
  | some t =>
    constructor
    · intro k r found
      rw [Option.getD_some, find_insert inserted] at found
      split at found
      · cases found
        have : 1 ≤ budget.toNat := h
        change 1 ≤ min (budget.toNat : ℤ) (2 ^ 31 - 1)
        omega
      · exact a.budget k r found
    · intro k r found consumed
      rw [Option.getD_some, find_insert inserted] at found
      split at found
      · cases found
        exact absurd consumed (lt_irrefl 0)
      · exact a.spent k r found consumed

theorem accounted_claim {s : State engine} (a : Accounted s) (locked : List Uuid)
    (stamped : Option SystemTime) (settled : s.batch = []) :
    Accounted (claimStep worker s locked stamped) := by
  unfold claimStep
  cases stamped with
  | none => exact ⟨a.budget, a.spent⟩
  | some deadline =>
    dsimp only
    constructor
    · intro id r' found
      rw [find_claimDue, Option.map_eq_some_iff] at found
      obtain ⟨r, old, rfl⟩ := found
      have := a.budget id r old
      split <;> exact this
    · intro id r' found consumed
      have after := found
      rw [find_claimDue, Option.map_eq_some_iff] at found
      obtain ⟨r, old, rfl⟩ := found
      split at consumed
      · rename_i chosen
        right
        refine ⟨_, List.mem_map_of_mem (mem_claimDue chosen after), rfl⟩
      · rcases a.spent id r old consumed with handed | ⟨o, mem, _⟩
        · exact Or.inl handed
        · rw [settled] at mem
          cases mem

theorem accounted_settle {s : State engine} (a : Accounted s) {clock : SystemTime}
    {retryAt : Option SystemTime}
    (enabled : Enabled worker database offset s (.settle clock retryAt))
    (prompt : Prompt offset s (.settle clock retryAt)) :
    Accounted (settleStep worker draw s clock retryAt) := by
  unfold settleStep
  cases batch : s.batch with
  | nil => exact a
  | cons o rest =>
    have before : clock < o.leasedUntil := by
      rw [← not_le, systemTime_le_iff, enabled.2, not_le]
      exact prompt o (by rw [batch]; rfl)
    have dispatched := (dispatched_iff worker.config draw o clock (.ok ())).mpr before
    dsimp only
    rw [dispatched, if_pos rfl]
    have kept := accounted_table a
      (kept_applyCall s retryAt o
        ((settle worker.config draw o clock (.ok ())).call.toOption.getD none))
    refine ⟨kept.budget, ?_⟩
    intro id r found consumed
    rcases kept.spent id r found consumed with handed | ⟨d, mem, rfl⟩
    · exact Or.inl (List.mem_cons_of_mem _ handed)
    · rw [batch] at mem
      rcases List.mem_cons.mp mem with rfl | mem
      · exact Or.inl List.mem_cons_self
      · exact Or.inr ⟨d, mem, rfl⟩

theorem accounted_step {s : State engine} (a : Accounted s) {e : Event engine}
    (enabled : Enabled worker database offset s e) (prompt : Prompt offset s e) :
    Accounted (next worker draw s e) := by
  cases e with
  | tick later => exact ⟨a.budget, a.spent⟩
  | insert id stored scheduledFor budget => exact accounted_insert a id stored scheduledFor enabled
  | cancel id => exact accounted_table a (kept_updateById s.table id _ fun r => ⟨rfl, Or.inl rfl⟩)
  | setPaused id paused =>
    exact accounted_table a (kept_updateById s.table id _ fun r => ⟨rfl, Or.inl rfl⟩)
  | resume id next => exact accounted_table a (kept_resume s.table id next)
  | replay id => exact accounted_table a (kept_updateById s.table id _ fun r => ⟨rfl, Or.inr rfl⟩)
  | sweep =>
    have swept := accounted_table a (kept_deadLetterExhausted s.now s.table)
    exact ⟨swept.budget, swept.spent⟩
  | claim locked stamped => exact accounted_claim a locked stamped enabled.1.2
  | settle clock retryAt => exact accounted_settle a enabled prompt

end Runs

def sampleWorker : Worker := ⟨.default, fun _ => "", default_accepted _⟩

def noJitter : UInt64 → UInt64 := fun n => n

/-- SQLite counts milliseconds, in its clock and in the interval that is bound. -/
def sampleDatabase : Database := ⟨.sqlite, 2000000⟩

/-- A cycle over one delayed message with a single attempt, settled when the worker's
clock shows `clock`; then the lease elapses. -/
def sampleCycle (clock : SystemTime) : List (Event sampleEngine) :=
  [.insert sampleSchedule ⟨"reminders.due", [], .mediator, none⟩ (second 90) 1,
    .sweep, .claim [] (some (second 400)), .settle clock none, .tick (second 400)]

end SchedulerSweep
