import Hexeract.SchedulerLifecycle
import Hexeract.SchedulerOccurrences
import Hexeract.SchedulerSqliteTime

/-! # Occurrence ids across the SQLite store

A producer can compute the id of an occurrence before the message is stored, and consumers
deduplicate on the id of the message a claim returns. In between the instant passes through
text that holds milliseconds. -/
namespace SchedulerSqliteOccurrences

open LibraryCollections LibraryTables LibraryMachines LibraryFramedBytes StdTime BusEnvelope
open SchedulerMessages SchedulerStatements SchedulerBackends SchedulerLifecycle SchedulerSqliteTime
open SchedulerOccurrences (OccurrenceId.derive occurrenceId occurrenceName occurrenceNamespace
  occurrenceName_inj)

variable {J : Type}

/-! ## The store -/

/-- What other crates provide: the driver, the words of their errors and the JSON reader. -/
structure Sqlite (J : Type) where
  driver : Driver J
  wrongLength : Bytes → String
  reason : Layout → String → String
  fromSlice : Bytes → Except String J

def Sqlite.backend (store : Sqlite J) : Backend Bytes String J :=
  sqlite store.driver store.wrongLength (parseLayout store.reason .rfc3339Millis)
    (parseLayout store.reason .sqliteCanonical)

def storedContent {engine : CronEngine} (message : ScheduledMessage engine) (payload : J) :
    Content J where
  eventType := .ok message.eventType
  payload := .ok payload
  triggerKind := .ok (triggerColumns message.trigger).1
  cronExpr := .ok (triggerColumns message.trigger).2
  targetKind := .ok (targetColumns message.target).1
  routingKey := .ok (targetColumns message.target).2

/-- `insert`. A payload that is no JSON, an instant outside the calendar (where the
conversion panics) and an id that is taken are refused. -/
def Sqlite.insert {engine : CronEngine} (store : Sqlite J) (t : Schedules Bytes String (Content J))
    (message : ScheduledMessage engine) (maxAttempts : UInt32) :
    Option (Schedules Bytes String (Content J)) := do
  let payload ← (store.fromSlice message.payload).toOption
  let instant ← (toOffsetDateTime message.scheduledFor).toOption
  SchedulerStatements.insert t message.scheduleId.bytes (storedContent message payload)
    (formatSqliteUtc instant) (maxAttemptsToI32 maxAttempts)

def MovesInstant (id : Bytes) : Statement Bytes String (Content J) → Prop
  | .acknowledge _ id' _ (.reschedule _) => id' = id
  | .resume id' (some _) => id' = id
  | .replay _ id' => id' = id
  | _ => False

/-! ## What a claim returns -/

/-- Reading back what was written leaves out what is finer than a millisecond. -/
theorem readTime_formatSqliteUtc (store : Sqlite J) (o : OffsetDateTime) :
    store.backend.readTime (formatSqliteUtc o) = .ok (dateTimeOf o).toSystemTime := by
  simp only [Sqlite.backend, sqlite, parseSqliteUtc, parseLayout, formatSqliteUtc, parse_text]

theorem nanos_truncated (o : OffsetDateTime) :
    (dateTimeOf o).toSystemTime.nanos = o.nanos / nanosPerMilli * nanosPerMilli := by
  change (dateTimeOf o).millis * (nanosPerMilli : ℤ) = _
  rw [millis_dateTimeOf]

theorem scheduledFor_of_effect {id : Bytes} {statement : Statement Bytes String (Content J)}
    {r r' : Row String (Content J)} (stays : ¬ MovesInstant id statement)
    (effect : Effect id statement r r') : r'.scheduledFor = r.scheduledFor := by
  cases effect with
  | acknowledged opened =>
    rename_i ack
    cases ack with
    | reschedule next => exact absurd rfl stays
    | _ => rfl
  | realigned => exact absurd rfl stays
  | replayed dead => exact absurd rfl stays
  | _ => rfl

theorem run_scheduledFor {id : Bytes} {statements : List (Statement Bytes String (Content J))}
    {t : Schedules Bytes String (Content J)} {r : Row String (Content J)}
    (found : t.find id = some r) (stays : ∀ statement ∈ statements, ¬ MovesInstant id statement) :
    ∃ r', (database.run t statements).find id = some r' ∧ r'.scheduledFor = r.scheduledFor := by
  induction statements generalizing t r with
  | nil => exact ⟨r, found, rfl⟩
  | cons statement rest ih =>
    obtain ⟨first, others⟩ := List.forall_mem_cons.mp stays
    obtain ⟨r', found', effect⟩ := execute_effect statement found
    obtain ⟨r'', found'', same⟩ := ih found' others
    exact ⟨r'', found'', same.trans (scheduledFor_of_effect first effect)⟩

theorem buildMessage_ok {debug : String → String} {engine : CronEngine} {scheduleId : Uuid}
    {eventType triggerKind targetKind : String} {payload : Bytes}
    {cronExpr routingKey : Option String} {scheduledFor : SystemTime}
    {message : ScheduledMessage engine}
    (built : buildMessage debug engine scheduleId eventType payload triggerKind cronExpr
      scheduledFor targetKind routingKey = .ok message) :
    message.scheduleId = scheduleId ∧ message.scheduledFor = scheduledFor := by
  obtain ⟨_, _, built⟩ := bind_ok.mp built
  obtain ⟨_, _, built⟩ := bind_ok.mp built
  cases built
  exact ⟨rfl, rfl⟩

theorem decodeLeased_ok {store : Sqlite J} {row : Bytes × Row String (Content J)}
    {o : LeasedOccurrence store.backend.engine}
    (decoded : store.backend.decodeLeased row = .ok o) :
    row.1 = o.message.scheduleId.bytes ∧
      store.backend.readTime row.2.scheduledFor = .ok o.message.scheduledFor := by
  simp only [Backend.decodeLeased, bind_ok, mapError_ok] at decoded
  obtain ⟨id, readId, _, _, _, _, _, _, _, _, _, _, _, _, _, _, _, _, instant, readTime, message,
    built, _, _, made⟩ := decoded
  cases made
  obtain ⟨rfl, rfl⟩ := buildMessage_ok built
  refine ⟨?_, readTime⟩
  simp only [Sqlite.backend, sqlite] at readId
  split at readId
  · rw [← Except.ok.inj readId]
  · cases readId

theorem insert_some {engine : CronEngine} {store : Sqlite J}
    {t start : Schedules Bytes String (Content J)} {message : ScheduledMessage engine}
    {maxAttempts : UInt32} (inserted : store.insert t message maxAttempts = some start) :
    ∃ instant r, instant.nanos = message.scheduledFor.nanos ∧
      start.find message.scheduleId.bytes = some r ∧ r.scheduledFor = formatSqliteUtc instant := by
  obtain ⟨payload, _, inserted⟩ := Option.bind_eq_some_iff.mp inserted
  obtain ⟨instant, converted, inserted⟩ := Option.bind_eq_some_iff.mp inserted
  have same : instant.nanos = message.scheduledFor.nanos :=
    toOffsetDateTime_nanos (toOption_eq_some.mp converted)
  have fresh := find_insert inserted message.scheduleId.bytes
  rw [if_pos rfl] at fresh
  exact ⟨instant, _, same, fresh, rfl⟩

theorem handed_of_claim {store : Sqlite J} {now deadline : String}
    {t : Schedules Bytes String (Content J)} {locked : List Bytes} {limit : ℕ}
    {o : LeasedOccurrence store.backend.engine}
    (handed : o ∈ (store.backend.claimDue now deadline t locked limit).handed) :
    ∃ row ∈ (claimDue now deadline t locked limit).2, store.backend.decodeLeased row = .ok o := by
  change o ∈ (((claimDue now deadline t locked limit).2.mapM
    store.backend.decodeLeased).toOption.getD []) at handed
  cases result : (claimDue now deadline t locked limit).2.mapM store.backend.decodeLeased with
  | error e =>
    rw [result] at handed
    cases handed
  | ok out =>
    rw [result] at handed
    exact (mem_listMapM_ok result).mp handed

/-- As long as the schedule is at its first instant, every claim of it returns that instant
cut to milliseconds, and with it the producer's id exactly if nothing was cut off. -/
theorem occurrence_id_kept_iff {store : Sqlite J} {newV5 : Uuid → Bytes → Uuid}
    {t start : Schedules Bytes String (Content J)} {message : ScheduledMessage store.driver.engine}
    {maxAttempts : UInt32} {statements : List (Statement Bytes String (Content J))}
    (injective : Set.InjOn (newV5 occurrenceNamespace)
      (Set.range (occurrenceName message.scheduleId)))
    (inserted : store.insert t message maxAttempts = some start)
    (stays : ∀ statement ∈ statements, ¬ MovesInstant message.scheduleId.bytes statement)
    (now deadline : String) (locked : List Bytes) (limit : ℕ) :
    ∀ o ∈ (store.backend.claimDue now deadline (database.run start statements) locked limit).handed,
      o.message.scheduleId = message.scheduleId →
        (occurrenceId newV5 o =
            OccurrenceId.derive newV5 message.scheduleId message.scheduledFor ↔
          message.scheduledFor.nanos % nanosPerMilli = 0) := by
  intro o handed same
  obtain ⟨row, claimed, decoded⟩ := handed_of_claim handed
  obtain ⟨key, readTime⟩ := decodeLeased_ok decoded
  obtain ⟨instant, r, exact, found, written⟩ := insert_some inserted
  obtain ⟨r', found', kept⟩ := run_scheduledFor found stays
  obtain ⟨r'', found'', _, shape, _⟩ := claimDue_returns claimed
  rw [key, same, found'] at found''
  obtain rfl := Option.some.inj found''
  have truncated :
      o.message.scheduledFor.nanos = instant.nanos / nanosPerMilli * nanosPerMilli := by
    rw [shape, kept, written, readTime_formatSqliteUtc] at readTime
    rw [← Except.ok.inj readTime, nanos_truncated]
  rw [exact] at truncated
  unfold occurrenceId OccurrenceId.derive
  rw [same]
  constructor
  · intro equal
    have instants := occurrenceName_inj (injective ⟨_, rfl⟩ ⟨_, rfl⟩ equal)
    rw [instants] at truncated
    simp only [nanosPerMilli] at *
    omega
  · intro whole
    have instants : o.message.scheduledFor = message.scheduledFor := by
      apply SystemTime.ext
      simp only [nanosPerMilli] at *
      omega
    rw [instants]

open SchedulerLeases (sampleSchedule)
open SchedulerOccurrences (sampleV5 sampleV5_injOn)

def sampleStore : Sqlite Unit where
  driver := sampleDriver
  wrongLength := fun _ => "invalid length"
  reason := sampleReason
  fromSlice := fun _ => .ok ()

/-- A message due a second and some nanoseconds after the epoch. -/
def delayed (nanos : UInt32) : ScheduledMessage sampleStore.driver.engine :=
  let instant : SystemTime := ⟨nanosPerSec + nanos.toNat, by
    have := nanos.toNat_lt
    simp only [nanosPerSec]
    omega⟩
  ⟨sampleSchedule, "reminders.due", [], .mediator, .delay instant, instant⟩

/-- A first claim fails, and the lease it leaves runs out. -/
def failedOnce : List (Statement Bytes String (Content Unit)) :=
  [.claim "1970-01-01T00:00:02.000Z" "1970-01-01T00:00:32.000Z" [] 10,
    .acknowledge "1970-01-01T00:00:03.000Z" sampleSchedule.bytes "1970-01-01T00:00:32.000Z"
      (.failed "1970-01-01T00:00:04.000Z" "down")]

def secondClaim (start : Schedules Bytes String (Content Unit)) :
    List (LeasedOccurrence sampleStore.backend.engine) :=
  (sampleStore.backend.claimDue "1970-01-01T00:00:05.000Z" "1970-01-01T00:00:35.000Z"
    (database.run start failedOnce) [] 10).handed

theorem failedOnce_stays :
    ∀ statement ∈ failedOnce, ¬ MovesInstant sampleSchedule.bytes statement := by
  intro statement hmem
  simp only [failedOnce, List.mem_cons, List.not_mem_nil, or_false] at hmem
  rcases hmem with rfl | rfl <;> exact id

theorem occurrence_id_kept_sample :
    ∃ start, sampleStore.insert .empty (delayed 5000000) 5 = some start ∧
      ∃ o ∈ secondClaim start, occurrenceId sampleV5 o =
        OccurrenceId.derive sampleV5 sampleSchedule (delayed 5000000).scheduledFor := by
  have returned : (sampleStore.insert .empty (delayed 5000000) 5).map (fun start =>
      (secondClaim start).map fun o => o.message.scheduleId) = some [sampleSchedule] := by
    decide +kernel
  obtain ⟨start, inserted, ids⟩ := Option.map_eq_some_iff.mp returned
  obtain ⟨o, handed, same⟩ := List.mem_map.mp (ids ▸ List.mem_singleton_self sampleSchedule)
  exact ⟨start, inserted, o, handed, (occurrence_id_kept_iff
    (sampleV5_injOn occurrenceNamespace) inserted failedOnce_stays _ _ _ _ o
    handed same).mpr (by decide)⟩

/-- One nanosecond, and the second claim returns the schedule under another id. -/
theorem submillisecond_changes_id :
    ∃ start, sampleStore.insert .empty (delayed 1) 5 = some start ∧
      ∃ o ∈ secondClaim start, o.message.scheduleId = sampleSchedule ∧
        ∀ newV5 : Uuid → Bytes → Uuid, Set.InjOn (newV5 occurrenceNamespace)
            (Set.range (occurrenceName sampleSchedule)) →
          occurrenceId newV5 o ≠
            OccurrenceId.derive newV5 sampleSchedule (delayed 1).scheduledFor := by
  have returned : (sampleStore.insert .empty (delayed 1) 5).map (fun start =>
      (secondClaim start).map fun o => (o.message.scheduleId, o.message.scheduledFor.nanos)) =
        some [(sampleSchedule, 1000000000)] := by
    decide +kernel
  obtain ⟨start, inserted, fields⟩ := Option.map_eq_some_iff.mp returned
  obtain ⟨o, handed, same⟩ := List.mem_map.mp (fields ▸ List.mem_singleton_self _)
  obtain ⟨id, nanos⟩ := Prod.mk.inj same
  refine ⟨start, inserted, o, handed, id, fun newV5 injective equal => ?_⟩
  unfold occurrenceId OccurrenceId.derive at equal
  rw [id] at equal
  have instants := occurrenceName_inj (injective ⟨_, rfl⟩ ⟨_, rfl⟩ equal)
  rw [instants] at nanos
  exact absurd nanos (by decide)

end SchedulerSqliteOccurrences
