import Hexeract.OutboxStatements
import Hexeract.SchedulerStatements
import Hexeract.SchedulerMessages

/-! # Claims of the three SQL backends

A claim stamps leases and consumes attempts in the database first, and decodes the rows
it got back afterwards. The columns a row carries besides its lifecycle are what the
driver reads from them, which may be an error. -/
namespace SchedulerBackends

open LibraryFramedBytes LibraryCollections LibraryTables StdTime BusEnvelope
open SchedulerStatements hiding insert
open SchedulerMessages
open OutboxStatements (Dialect)

instance : LinearOrder OffsetDateTime :=
  LinearOrder.lift' OffsetDateTime.nanos fun _ _ h => OffsetDateTime.ext h

/-- What the driver's `try_get` gives for a column. -/
abbrev Read (α : Type) := Except String α

/-- The columns of a claim that no statement reads; `J` is the type of JSON values. -/
structure Content (J : Type) where
  eventType : Read String
  payload : Read J
  triggerKind : Read String
  cronExpr : Read (Option String)
  targetKind : Read String
  routingKey : Read (Option String)

/-- How a claim obtains its rows: by `UPDATE ... RETURNING`, or in a transaction that
selects and locks, updates and selects again. -/
inductive Procedure where
  | returning
  | transaction
  deriving DecidableEq, Repr

structure Driver (J : Type) where
  engine : CronEngine
  debug : String → String
  toVec : J → Except String Bytes
  unexpectedNull : String

def Driver.notNull {J α : Type} (driver : Driver J) : Option α → Read α
  | some value => .ok value
  | none => .error driver.unexpectedNull

structure Backend (κ τ J : Type) extends Driver J where
  procedure : Procedure
  readId : κ → Read Uuid
  readTime : τ → Except SchedulerError SystemTime

variable {κ τ J : Type}

def postgres (driver : Driver J) : Backend Uuid OffsetDateTime J where
  toDriver := driver
  procedure := .returning
  readId := .ok
  readTime := fun o => .ok (toSystemTime o)

def mysql (driver : Driver J) : Backend Uuid OffsetDateTime J where
  toDriver := driver
  procedure := .transaction
  readId := .ok
  readTime := fun o => .ok (toSystemTime o)

/-- The two text layouts the date crate parses, tried in order; the error of the second
is reported. -/
def parseSqliteUtc (debug : String → String)
    (rfc3339Millis sqliteCanonical : String → Except String SystemTime) (s : String) :
    Except SchedulerError SystemTime :=
  match rfc3339Millis s with
  | .ok parsed => .ok parsed
  | .error _ =>
    (sqliteCanonical s).mapError fun e =>
      .internal ("sqlite timestamp parse failed for " ++ debug s ++ ": " ++ e)

/-- An identifier is a blob, and an instant is text. -/
def sqlite (driver : Driver J) (wrongLength : Bytes → String)
    (rfc3339Millis sqliteCanonical : String → Except String SystemTime) :
    Backend Bytes String J where
  toDriver := driver
  procedure := .returning
  readId := fun bytes => if h : bytes.length = 16 then .ok ⟨bytes, h⟩
    else .error (wrongLength bytes)
  readTime := parseSqliteUtc driver.debug rfc3339Millis sqliteCanonical

/-! ## Bound intervals -/

/-- The longest interval a store binds, in nanoseconds: seconds are capped where they are
bound as a number or in a text, and counted microseconds fill 64 bits. -/
def intervalCap : Dialect → ℕ
  | .postgres | .sqlite => 9223372036 * nanosPerSec
  | .mysql => (2 ^ 63 - 1) * 1000

def cappedInterval (d : Dialect) (interval : Duration) : Duration :=
  ⟨min interval.nanos (intervalCap d), lt_of_le_of_lt (min_le_left _ _) interval.in_range⟩

/-- An engine's intervals count microseconds, the text for SQLite milliseconds. -/
def intervalUnit : Dialect → ℕ
  | .postgres | .mysql => 1000
  | .sqlite => 1000000

/-- Whole units that arrive as they are: a double tells the microseconds of 2^32 seconds
apart, and the milliseconds of every interval below the cap. -/
def ExactInterval (d : Dialect) (interval : Duration) : Prop :=
  intervalUnit d ∣ interval.nanos ∧ interval.nanos ≤ intervalCap d ∧
    (d = .postgres → interval.nanos ≤ 2 ^ 32 * nanosPerSec)

instance (d : Dialect) (interval : Duration) : Decidable (ExactInterval d interval) :=
  inferInstanceAs (Decidable (_ ∧ _ ∧ (_ → _)))

/-- The last instant a timestamp holds, at the end of the year 9999, or 294276 in
PostgreSQL. -/
def lastInstant : Dialect → SystemTime
  | .postgres => ⟨9224318015999999999000, by decide⟩
  | .mysql => ⟨253402300799999999000, by decide⟩
  | .sqlite => ⟨253402300799999000000, by decide⟩

/-! ## Claims -/

/-- `decode_leased`, the same in the three backends up to how they read an identifier and
an instant. -/
def Backend.decodeLeased (b : Backend κ τ J) (row : κ × Row τ (Content J)) :
    Except SchedulerError (LeasedOccurrence b.engine) := do
  let scheduleId ← (b.readId row.1).mapError .database
  let eventType ← row.2.content.eventType.mapError .database
  let payload ← row.2.content.payload.mapError .database
  let triggerKind ← row.2.content.triggerKind.mapError .database
  let cronExpr ← row.2.content.cronExpr.mapError .database
  let targetKind ← row.2.content.targetKind.mapError .database
  let routingKey ← row.2.content.routingKey.mapError .database
  let leasedUntil ← (b.notNull row.2.leasedUntil).mapError .database
  let payload ← (b.toVec payload).mapError .serialization
  let scheduledFor ← b.readTime row.2.scheduledFor
  let message ← buildMessage b.debug b.engine scheduleId eventType payload triggerKind cronExpr
    scheduledFor targetKind routingKey
  let leasedUntil ← b.readTime leasedUntil
  return ⟨message, attemptsFromI64 row.2.attempts, attemptsFromI64 row.2.maxAttempts, leasedUntil⟩

/-- What a claim leaves behind: the table, the rows whose lease and attempt it committed,
and what it returns. -/
structure Outcome (b : Backend κ τ J) where
  table : Schedules κ τ (Content J)
  leased : List (κ × Row τ (Content J))
  result : Except SchedulerError (List (LeasedOccurrence b.engine))

/-- The occurrences the worker's cycle goes on to settle: an error ends the cycle. -/
def Outcome.handed {b : Backend κ τ J} (o : Outcome b) : List (LeasedOccurrence b.engine) :=
  o.result.toOption.getD []

section Claim

variable [DecidableEq κ] [LinearOrder τ]

def Backend.claimReturning (b : Backend κ τ J) (now deadline : τ)
    (t : Schedules κ τ (Content J)) (locked : List κ) (limit : ℕ) : Outcome b :=
  let claimed := claimDue now deadline t locked limit
  ⟨claimed.1, claimed.2, claimed.2.mapM b.decodeLeased⟩

/-- An identifier that does not read back drops the transaction before the update. -/
def Backend.claimInTransaction (b : Backend κ τ J) (now deadline : τ)
    (t : Schedules κ τ (Content J)) (locked : List κ) (limit : ℕ) : Outcome b :=
  match (dueRows now t locked limit).mapM fun row => b.readId row.1 with
  | .error e => ⟨t, [], .error (.database e)⟩
  | .ok [] => ⟨t, [], .ok []⟩
  | .ok _ => b.claimReturning now deadline t locked limit

def Backend.claimDue (b : Backend κ τ J) (now deadline : τ) (t : Schedules κ τ (Content J))
    (locked : List κ) (limit : ℕ) : Outcome b :=
  match b.procedure with
  | .returning => b.claimReturning now deadline t locked limit
  | .transaction => b.claimInTransaction now deadline t locked limit

/-- Either nothing was leased, or the rows were leased and then decoded one after the
other. -/
theorem claimDue_cases (b : Backend κ τ J) (now deadline : τ) (t : Schedules κ τ (Content J))
    (locked : List κ) (limit : ℕ) :
    (b.claimDue now deadline t locked limit).leased = [] ∨
      (b.claimDue now deadline t locked limit).result =
        (b.claimDue now deadline t locked limit).leased.mapM b.decodeLeased := by
  unfold Backend.claimDue
  cases b.procedure with
  | returning => exact Or.inr rfl
  | transaction =>
    simp only [Backend.claimInTransaction]
    split
    · exact Or.inl rfl
    · exact Or.inl rfl
    · exact Or.inr rfl

/-- Every decodable row of a leased batch is handed to the worker exactly if the whole
batch decodes or no row of it does. -/
theorem decodable_rows_handed_iff (b : Backend κ τ J) (now deadline : τ)
    (t : Schedules κ τ (Content J)) (locked : List κ) (limit : ℕ) :
    (∀ row ∈ (b.claimDue now deadline t locked limit).leased, ∀ o,
        b.decodeLeased row = .ok o → o ∈ (b.claimDue now deadline t locked limit).handed) ↔
      (∀ row ∈ (b.claimDue now deadline t locked limit).leased, ∃ o, b.decodeLeased row = .ok o) ∨
        ∀ row ∈ (b.claimDue now deadline t locked limit).leased,
          ¬∃ o, b.decodeLeased row = .ok o := by
  rcases claimDue_cases b now deadline t locked limit with none_leased | decoded
  · rw [none_leased]
    simp
  constructor
  · intro served
    by_cases some_decode : ∃ row ∈ (b.claimDue now deadline t locked limit).leased,
        ∃ o, b.decodeLeased row = .ok o
    · left
      obtain ⟨row, mem, o, ok⟩ := some_decode
      have handed := served row mem o ok
      rw [← exists_listMapM_ok, ← decoded]
      unfold Outcome.handed at handed
      cases result : (b.claimDue now deadline t locked limit).result with
      | ok out => exact ⟨out, rfl⟩
      | error e =>
        rw [result] at handed
        cases handed
    · right
      intro row mem ok
      exact some_decode ⟨row, mem, ok⟩
  · rintro (all_decode | none_decode) row mem o ok
    · obtain ⟨out, collected⟩ := exists_listMapM_ok.mpr all_decode
      rw [Outcome.handed, decoded, collected]
      exact (mem_listMapM_ok collected).mpr ⟨_, mem, ok⟩
    · exact absurd ⟨o, ok⟩ (none_decode row mem)

end Claim

def sampleDriver : Driver Unit where
  engine := ⟨fun _ => .ok (), fun _ _ => none⟩
  debug := id
  toVec := fun _ => .ok []
  unexpectedNull := "unexpected null; try decoding as an option"

def dueDate : OffsetDateTime := ⟨0, by decide⟩

def storedRow (triggerKind : String) : Row OffsetDateTime (Content Unit) :=
  .fresh ⟨.ok "reminders.due", .ok (), .ok triggerKind, .ok none, .ok "mediator", .ok none⟩
    dueDate 5

/-- Two due schedules, the first with a trigger kind this version does not know. -/
def mixedTable : Schedules Uuid OffsetDateTime (Content Unit) where
  rows := [(Uuid.fromU128 1, storedRow "weekly"), (Uuid.fromU128 2, storedRow "delay")]
  keyed := by decide +kernel

/-- The second schedule loses an attempt and is not handed to the worker, although its own
columns decode. -/
theorem undecodable_row_starves_batch :
    (∃ row ∈ ((postgres sampleDriver).claimDue dueDate dueDate mixedTable [] 10).leased,
        row.1 = Uuid.fromU128 2 ∧ row.2.attempts = 1 ∧
          ((postgres sampleDriver).decodeLeased row).isOk = true) ∧
      ((postgres sampleDriver).claimDue dueDate dueDate mixedTable [] 10).handed = [] := by
  decide +kernel

end SchedulerBackends
