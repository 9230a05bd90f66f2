import Hexeract.LibraryPrograms
import Hexeract.SchedulerSqlExecution
import Hexeract.SchedulerMemory

/-! # The SQL schedule stores on their texts

The calls of the stores as they bind and issue their texts, run by any number of clients of
one database: between two statements of a call, statements of the others may run. Clients
cannot tell a database that is given the texts from one that is given the statements the
texts stand for. -/
namespace SchedulerSqlStore

open LibraryCollections LibraryTables LibrarySql LibraryPrograms LibraryFramedBytes
open SqlDialect SchedulerSql SchedulerSqlExecution SchedulerMessages StdTime BusEnvelope
open SchedulerMemory (isTerminal)
open SchedulerStatements hiding Row
open OutboxStatements (Dialect)

variable {κ τ β δ : Type}

/-! ## Requests -/

structure Insertion (τ β : Type) where
  eventType : String
  payload : β
  triggerKind : String
  cronExpr : Option String
  scheduledFor : τ
  targetKind : String
  routingKey : Option String
  maxAttempts : ℤ

def Insertion.content (row : Insertion τ β) (createdAt : τ) : Content τ β :=
  ⟨row.eventType, row.payload, row.triggerKind, row.cronExpr, row.targetKind, row.routingKey,
    createdAt⟩

/-- One statement, or for a claim one transaction. -/
inductive Request (κ τ β δ : Type) where
  | insert (id : κ) (row : Insertion τ β)
  | claim (limit : ℕ) (lease : δ)
  | markDelivered (id : κ) (lease : τ)
  | reschedule (id : κ) (next lease : τ)
  | markFailed (id : κ) (retryIn : δ) (error : String) (lease : τ)
  | markDeadLettered (id : κ) (error : String) (lease : τ)
  | deadLetterExhausted
  | cancel (id : κ)
  | setPaused (id : κ) (paused : Bool)
  | resumeWithNext (id : κ) (next : τ)
  | resumeOnly (id : κ)
  | inspect (id : κ)
  | existence (id : κ)
  | listPending (limit : ℕ)
  | listDeadLetter (limit : ℕ)
  | replay (id : κ)

/-- The clock and the locks that a request finds, and the clock of the later statements of
its transaction. -/
structure Surroundings (κ τ δ : Type) where
  now : τ
  later : δ → τ
  afterwards : δ → τ
  locked : List κ

def Surroundings.engine (env : Surroundings κ τ δ) (d : Dialect) : Engine κ τ δ :=
  ⟨d, env.now, env.later, env.locked⟩

def Surroundings.engineAfterwards (env : Surroundings κ τ δ) (d : Dialect) : Engine κ τ δ :=
  ⟨d, env.now, env.afterwards, env.locked⟩

/-- What a claim adds its lease to: MySQL leases in a statement of its own. -/
def Surroundings.deadline (env : Surroundings κ τ δ) (d : Dialect) (lease : δ) : τ :=
  match d with
  | .mysql => env.afterwards lease
  | .postgres | .sqlite => env.later lease

abbrev Answer (κ τ β : Type) := Except Failure (Outcome κ τ β)

section Texts

variable [DecidableEq κ] [LinearOrder τ] (d : Dialect) (table : String)

/-- `try_get("schedule_id")` on every locked row. -/
def lockedIds (rows : List (List (Value κ τ β))) : Except Failure (List κ) :=
  rows.mapM fun
    | .key k :: _ => .ok k
    | _ => .error .malformed

def leaseLocked (e : Engine κ τ δ) (lease : δ) (db : Database κ τ β) :
    List κ → Except Failure (Database κ τ β × Outcome κ τ β)
  | [] => .ok (db, ⟨0, []⟩)
  | i :: ids => do
    let leased ← execText (bind e (.span lease :: keyBounds (i :: ids))) db
      (mysqlClaimUpdateSql table (ids.length + 1))
    execText (bind e (keyBounds (i :: ids))) leased.1 (mysqlClaimReselectSql table (ids.length + 1))

def claimText (env : Surroundings κ τ δ) (db : Database κ τ β) (limit : ℕ) (lease : δ) :
    Except Failure (Database κ τ β × Outcome κ τ β) :=
  match d with
  | .postgres | .sqlite =>
    execText (bindClaim (env.engine d) lease limit) db (claimReturningSql d table)
  | .mysql => do
    let locked ← execText (bind (env.engine .mysql) [.one (.int limit)]) db
      (mysqlClaimSelectSql table)
    let ids ← lockedIds locked.2.returned
    leaseLocked table (env.engineAfterwards .mysql) lease locked.1 ids

def runText (env : Surroundings κ τ δ) (db : Database κ τ β) :
    Request κ τ β δ → Except Failure (Database κ τ β × Outcome κ τ β)
  | .insert id row => issue
    [.one (.key id), .one (.text row.eventType), .one (.document row.payload),
      .one (.text row.triggerKind), .one (nullable .text row.cronExpr),
      .one (.instant row.scheduledFor), .one (.text row.targetKind),
      .one (nullable .text row.routingKey), .one (.int row.maxAttempts)] (insertSql d table)
  | .claim limit lease => claimText d table env db limit lease
  | .markDelivered id lease => issue [.one (.key id), .one (.instant lease)]
    (markDeliveredSql d table)
  | .reschedule id next lease => issue [.one (.instant next), .one (.key id), .one (.instant lease)]
    (rescheduleSql d table)
  | .markFailed id retryIn error lease => issue
    [.span retryIn, .one (.text error), .one (.key id), .one (.instant lease)]
    (markFailedSql d table)
  | .markDeadLettered id error lease => issue
    [.one (.text error), .one (.key id), .one (.instant lease)] (markDeadLetteredSql d table)
  | .deadLetterExhausted => issue [.one (.text deadLetterExhaustedMessage)]
    (deadLetterExhaustedSql d table)
  | .cancel id => issue [.one (.key id)] (cancelSql d table)
  | .setPaused id paused => issue [.one (truthValue d paused), .one (.key id)]
    (setPausedSql d table)
  | .resumeWithNext id next => issue [.one (.instant next), .one (.key id)]
    (resumeWithNextSql d table)
  | .resumeOnly id => issue [.one (.key id)] (resumeOnlySql d table)
  | .inspect id => issue [.one (.key id)] (inspectSql d table)
  | .existence id => issue [.one (.key id)] (existsSql d table)
  | .listPending limit => issue [.one (.int limit)] (listPendingSql d table)
  | .listDeadLetter limit => issue [.one (.int limit)] (listDeadLetterSql d table)
  | .replay id => issue [.one (.key id)] (replaySql d table)
where
  issue (bound : List (Bound κ τ β δ)) (text : String) :
      Except Failure (Database κ τ β × Outcome κ τ β) :=
    execText (bind (env.engine d) bound) db text

end Texts

/-! ## Statements -/

section Statements

variable [DecidableEq κ] [LinearOrder τ] (d : Dialect)

/-- The answer to an update of the row with this id where it meets a condition. -/
def touched (t : Schedules κ τ (Content τ β)) (id : κ)
    (p : SchedulerStatements.Row τ (Content τ β) → Bool) : Outcome κ τ β :=
  ⟨t.affected fun k r => decide (k = id) && p r, []⟩

def found (read : Stored κ τ β → List (Value κ τ β)) (rows : List (Stored κ τ β)) :
    Outcome κ τ β :=
  ⟨rows.length, rows.map read⟩

def isLeasedTill (lease : τ) (r : SchedulerStatements.Row τ (Content τ β)) : Bool :=
  decide (r.leasedUntil = some lease) && r.isOpen

def rowsOf (t : Schedules κ τ (Content τ β)) (id : κ) : List (Stored κ τ β) :=
  t.rows.filter fun row => decide (row.1 = id)

def runStatement (env : Surroundings κ τ δ) (t : Schedules κ τ (Content τ β)) :
    Request κ τ β δ → Except Failure (Schedules κ τ (Content τ β) × Outcome κ τ β)
  | .insert id row =>
    match SchedulerStatements.insert t id (row.content env.now) row.scheduledFor
        row.maxAttempts with
    | some inserted => .ok (inserted, ⟨1, []⟩)
    | none => .error (.duplicate "schedule_id")
  | .claim limit lease =>
    let claimed := claimDue env.now (env.deadline d lease) t (skipped (env.engine d)) limit
    .ok (claimed.1, found claimedValues claimed.2)
  | .markDelivered id lease =>
    .ok ((markDelivered env.now t id lease).1, touched t id (isLeasedTill lease))
  | .reschedule id next lease =>
    .ok ((reschedule next t id lease).1, touched t id (isLeasedTill lease))
  | .markFailed id retryIn error lease =>
    .ok ((markFailed (env.later retryIn) error t id lease).1, touched t id (isLeasedTill lease))
  | .markDeadLettered id error lease =>
    .ok ((markDeadLettered env.now error t id lease).1, touched t id (isLeasedTill lease))
  | .deadLetterExhausted =>
    .ok ((deadLetterExhausted env.now t).1, ⟨(deadLetterExhausted env.now t).2, []⟩)
  | .cancel id => .ok ((cancel env.now t id).1, touched t id fun r => r.isOpen)
  | .setPaused id paused => .ok ((setPaused paused t id).1, touched t id fun _ => true)
  | .resumeWithNext id next =>
    .ok ((resumeWithNext next t id).1, touched t id fun r => r.paused && r.isOpen)
  | .resumeOnly id => .ok ((resumeOnly t id).1, touched t id fun r => r.paused && r.isOpen)
  | .inspect id => .ok (t, found (snapshotValues d) (rowsOf t id))
  | .existence id => .ok (t, found (fun _ => [.int 1]) (rowsOf t id))
  | .listPending limit => .ok (t, found (snapshotValues d) (pendingRows t limit))
  | .listDeadLetter limit => .ok (t, found (snapshotValues d) (deadLetterRows t limit))
  | .replay id => .ok ((replay env.now t id).1, touched t id fun r => r.deadLetteredAt.isSome)

/-! ## Agreement -/

/-- The database stores the table of schedules under its name, and otherwise what it did. -/
def Shows (table : String) (db₀ db : Database κ τ β) (t : Schedules κ τ (Content τ β)) : Prop :=
  ∃ serial, db = db₀.set table (relation d serial t)

/-- A computation on the database and one on the table that fail alike or answer alike. -/
inductive Agrees (table : String) (db₀ : Database κ τ β) :
    Except Failure (Database κ τ β × Outcome κ τ β) →
      Except Failure (Schedules κ τ (Content τ β) × Outcome κ τ β) → Prop where
  | failed (failure : Failure) : Agrees table db₀ (.error failure) (.error failure)
  | done {db : Database κ τ β} {t : Schedules κ τ (Content τ β)} (shows : Shows d table db₀ db t)
      (outcome : Outcome κ τ β) : Agrees table db₀ (.ok (db, outcome)) (.ok (t, outcome))

variable {d} {table : String} {db₀ db : Database κ τ β} {t : Schedules κ τ (Content τ β)}
  {env : Surroundings κ τ δ}

omit [DecidableEq κ] [LinearOrder τ] in
theorem Shows.stored (h : Shows d table db₀ db t) :
    ∃ serial, db table = some (relation d serial t) := by
  obtain ⟨serial, rfl⟩ := h
  exact ⟨serial, Function.update_self ..⟩

omit [DecidableEq κ] [LinearOrder τ] in
theorem Shows.set (h : Shows d table db₀ db t) (serial : ℕ) (t' : Schedules κ τ (Content τ β)) :
    Shows d table db₀ (db.set table (relation d serial t')) t' := by
  obtain ⟨_, rfl⟩ := h
  exact ⟨serial, Function.update_idem ..⟩

omit [DecidableEq κ] [LinearOrder τ] in
theorem Agrees.of_set {x : Except Failure (Database κ τ β × Outcome κ τ β)} {serial : ℕ}
    {t' : Schedules κ τ (Content τ β)} {outcome : Outcome κ τ β} (h : Shows d table db₀ db t)
    (ran : x = .ok (db.set table (relation d serial t'), outcome)) :
    Agrees d table db₀ x (.ok (t', outcome)) := by
  rw [ran]
  exact .done (h.set serial t') outcome

omit [DecidableEq κ] [LinearOrder τ] in
theorem Agrees.of_read {x : Except Failure (Database κ τ β × Outcome κ τ β)}
    {outcome : Outcome κ τ β} (h : Shows d table db₀ db t) (ran : x = .ok (db, outcome)) :
    Agrees d table db₀ x (.ok (t, outcome)) := by
  rw [ran]
  exact .done h outcome

omit [DecidableEq κ] [LinearOrder τ] in
theorem Agrees.of_failure {x : Except Failure (Database κ τ β × Outcome κ τ β)}
    {failure : Failure} (ran : x = .error failure) :
    Agrees d table db₀ x (.error failure) := by
  rw [ran]
  exact .failed failure

theorem leaseLocked_cons {e : Engine κ τ δ} {lease : δ} {db' : Database κ τ β}
    {outcome : Outcome κ τ β} {result : Except Failure (Database κ τ β × Outcome κ τ β)} {i : κ}
    {ids : List κ}
    (updated : execText (bind e (.span lease :: keyBounds (i :: ids))) db
      (mysqlClaimUpdateSql table (ids.length + 1)) = .ok (db', outcome))
    (reread : execText (bind e (keyBounds (i :: ids))) db'
      (mysqlClaimReselectSql table (ids.length + 1)) = result) :
    leaseLocked table e lease db (i :: ids) = result := by
  rw [leaseLocked, updated, ok_bind, reread]

omit [DecidableEq κ] [LinearOrder τ] in
theorem lockedIds_claimedValues (rows : List (Stored κ τ β)) :
    lockedIds (rows.map claimedValues) = .ok (rows.map Prod.fst) := by
  induction rows with
  | nil => rfl
  | cons row rest ih =>
    rw [lockedIds] at ih ⊢
    rw [List.map_cons, List.mapM_cons, ih]
    rfl

/-- The second and third statement of MySQL's claim, on the rows its first one locked. -/
theorem leaseLocked_agrees (h : Shows .mysql table db₀ db t) {limit : ℕ} {lease : δ} :
    Agrees .mysql table db₀
      (leaseLocked table (env.engineAfterwards .mysql) lease db
        (dueIds (env.engine .mysql) t limit))
      (runStatement .mysql env t (.claim limit lease)) := by
  obtain ⟨serial, stored⟩ := h.stored
  have claimed : claimDue env.now (env.afterwards lease) t (skipped (env.engine .mysql)) limit =
      (t.updateWhere (fun k _ => (dueIds (env.engine .mysql) t limit).contains k)
          (leased (env.afterwards lease)),
        (t.updateWhere (fun k _ => (dueIds (env.engine .mysql) t limit).contains k)
          (leased (env.afterwards lease))).rows.filter
            fun row => (dueIds (env.engine .mysql) t limit).contains row.1) := rfl
  simp only [runStatement, Surroundings.deadline, claimed]
  cases dueIds (env.engine .mysql) t limit with
  | nil =>
    have untouched : t.updateWhere (fun k _ => ([] : List κ).contains k)
        (leased (env.afterwards lease)) = t := updateWhere_of_none fun _ _ => rfl
    rw [untouched, List.filter_eq_nil_iff.mpr (by simp)]
    exact .done h _
  | cons i ids =>
    have updated := exec_mysqlClaimUpdate (env.engineAfterwards .mysql) stored lease i ids
    have shown := h.set serial (t.updateWhere (fun k _ => (i :: ids).contains k)
      (leased (env.afterwards lease)))
    obtain ⟨_, stored'⟩ := shown.stored
    have reread := exec_mysqlClaimReselect (env.engineAfterwards .mysql) stored' i ids
    exact .of_read shown (leaseLocked_cons updated reread)

theorem claim_agrees (apart : d = .postgres → table ≠ "due") (h : Shows d table db₀ db t)
    (limit : ℕ) (lease : δ) :
    Agrees d table db₀ (claimText d table env db limit lease)
      (runStatement d env t (.claim limit lease)) := by
  obtain ⟨serial, stored⟩ := h.stored
  cases d with
  | postgres =>
    exact .of_set h (exec_claim_postgres (env.engine .postgres) rfl (apart rfl) stored lease limit)
  | sqlite => exact .of_set h (exec_claim_sqlite (env.engine .sqlite) rfl stored lease limit)
  | mysql =>
    have locked := exec_mysqlClaimSelect (env.engine .mysql) rfl stored limit
    have ids : lockedIds ((dueRows env.now t (skipped (env.engine .mysql)) limit).map
        claimedValues) = .ok (dueIds (env.engine .mysql) t limit) := lockedIds_claimedValues _
    have leasing : claimText .mysql table env db limit lease =
        leaseLocked table (env.engineAfterwards .mysql) lease db
          (dueIds (env.engine .mysql) t limit) := by
      rw [claimText, locked]
      exact congrArg (· >>= leaseLocked table (env.engineAfterwards .mysql) lease db) ids
    rw [leasing]
    exact leaseLocked_agrees h

/-- What is asked by one statement is answered as the statement says, in any table. -/
theorem statement_agrees (h : Shows d table db₀ db t) (r : Request κ τ β δ)
    (single : ∀ limit lease, r ≠ .claim limit lease) :
    Agrees d table db₀ (runText d table env db r) (runStatement d env t r) := by
  obtain ⟨serial, stored⟩ := h.stored
  cases r with
  | insert id row =>
    have created : (row.content env.now).createdAt = (env.engine d).now := rfl
    have ran := exec_insert (env.engine d) stored id row.scheduledFor row.maxAttempts created
    simp only [runStatement]
    cases inserted : SchedulerStatements.insert t id (row.content env.now) row.scheduledFor
        row.maxAttempts with
    | none =>
      rw [inserted] at ran
      exact .of_failure ran
    | some t' =>
      rw [inserted] at ran
      exact .of_set h ran
  | claim limit lease => exact absurd rfl (single limit lease)
  | markDelivered id lease => exact .of_set h (exec_markDelivered (env.engine d) stored id lease)
  | reschedule id next lease =>
    exact .of_set h (exec_reschedule (env.engine d) stored id lease next)
  | markFailed id retryIn error lease =>
    exact .of_set h (exec_markFailed (env.engine d) stored id lease retryIn error)
  | markDeadLettered id error lease =>
    exact .of_set h (exec_markDeadLettered (env.engine d) stored id lease error)
  | deadLetterExhausted => exact .of_set h (exec_deadLetterExhausted (env.engine d) stored)
  | cancel id => exact .of_set h (exec_cancel (env.engine d) stored id)
  | setPaused id paused => exact .of_set h (exec_setPaused (env.engine d) stored id paused)
  | resumeWithNext id next =>
    exact .of_set h (exec_resumeWithNext (env.engine d) stored id next)
  | resumeOnly id => exact .of_set h (exec_resumeOnly (env.engine d) stored id)
  | inspect id => exact .of_read h (exec_inspect (env.engine d) stored id)
  | existence id => exact .of_read h (exec_exists (env.engine d) stored id)
  | listPending limit => exact .of_read h (exec_listPending (env.engine d) stored limit)
  | listDeadLetter limit => exact .of_read h (exec_listDeadLetter (env.engine d) stored limit)
  | replay id => exact .of_set h (exec_replay (env.engine d) stored id)

theorem text_agrees (apart : d = .postgres → table ≠ "due") (h : Shows d table db₀ db t)
    (r : Request κ τ β δ) :
    Agrees d table db₀ (runText d table env db r) (runStatement d env t r) := by
  cases r with
  | claim limit lease => exact claim_agrees apart h limit lease
  | _ => exact statement_agrees h _ nofun

end Statements

/-! ## Calls -/

/-- What the driver and the other crates give: how instants, spans and payloads are bound and
read, and the words for what fails. -/
structure Codec (τ β δ : Type) where
  engine : CronEngine
  debug : String → String
  bindTime : SystemTime → Except String τ
  readTime : τ → Except String SystemTime
  bindSpan : Duration → δ
  fromSlice : Bytes → Except String β
  toVec : β → Except String Bytes
  refusal : Failure → String
  undecodable : String

inductive Call (engine : CronEngine) where
  | insert (message : ScheduledMessage engine) (maxAttempts : UInt32)
  | claimDue (batchSize : ℕ) (lease : Duration)
  | markDelivered (id : Uuid) (lease : SystemTime)
  | reschedule (id : Uuid) (next lease : SystemTime)
  | markFailed (id : Uuid) (retryIn : Duration) (error : String) (lease : SystemTime)
  | markDeadLettered (id : Uuid) (error : String) (lease : SystemTime)
  | deadLetterExhausted
  | cancel (id : Uuid)
  | setPaused (id : Uuid) (paused : Bool)
  | resume (id : Uuid) (next : Option SystemTime)
  | inspect (id : Uuid)
  | listPending (limit : ℕ)
  | listDeadLetter (limit : ℕ)
  | replay (id : Uuid)
  | controlCancel (id : Uuid)
  | controlResume (id : Uuid) (now : SystemTime)

inductive Reply (engine : CronEngine) where
  | done
  | applied (flag : Bool)
  | swept (count : ℕ)
  | claimed (occurrences : List (LeasedOccurrence engine))
  | inspected (snapshot : Option (ScheduleSnapshot engine))
  | listed (snapshots : List (ScheduleSnapshot engine))
  deriving DecidableEq

section Calls

variable (c : Codec τ β δ)

def Codec.optionalText : Value Uuid τ β → Except SchedulerError (Option String)
  | .null => .ok none
  | .text s => .ok (some s)
  | _ => .error (.database c.undecodable)

def Codec.optionalInstant : Value Uuid τ β → Except SchedulerError (Option τ)
  | .null => .ok none
  | .instant t => .ok (some t)
  | _ => .error (.database c.undecodable)

/-- Only PostgreSQL has truth values; elsewhere a number other than zero is true. -/
def Codec.flag : Value Uuid τ β → Except SchedulerError Bool
  | .truth b => .ok b
  | .int n => .ok (decide (n ≠ 0))
  | _ => .error (.database c.undecodable)

def Codec.instant (t : τ) : Except SchedulerError SystemTime := (c.readTime t).mapError .internal

def Codec.decodeLeased : List (Value Uuid τ β) → Except SchedulerError (LeasedOccurrence c.engine)
  | [.key scheduleId, .text eventType, .document payload, .text triggerKind, cronExpr,
      .instant scheduledFor, .text targetKind, routingKey, .int attempts, .int maxAttempts,
      .instant leasedUntil] => do
    let cronExpr ← c.optionalText cronExpr
    let routingKey ← c.optionalText routingKey
    let payload ← (c.toVec payload).mapError .serialization
    let scheduledFor ← c.instant scheduledFor
    let message ← buildMessage c.debug c.engine scheduleId eventType payload triggerKind cronExpr
      scheduledFor targetKind routingKey
    let leasedUntil ← c.instant leasedUntil
    return ⟨message, attemptsFromI64 attempts, attemptsFromI64 maxAttempts, leasedUntil⟩
  | _ => .error (.database c.undecodable)

def Codec.decodeSnapshot :
    List (Value Uuid τ β) → Except SchedulerError (ScheduleSnapshot c.engine)
  | [.key scheduleId, .text triggerKind, cronExpr, .instant scheduledFor, .int attempts,
      .int maxAttempts, paused, lastError, deliveredAt, cancelledAt, deadLetteredAt] => do
    let cronExpr ← c.optionalText cronExpr
    let paused ← c.flag paused
    let lastError ← c.optionalText lastError
    let deliveredAt ← c.optionalInstant deliveredAt
    let cancelledAt ← c.optionalInstant cancelledAt
    let deadLetteredAt ← c.optionalInstant deadLetteredAt
    let scheduledFor ← c.instant scheduledFor
    let trigger ← buildTrigger c.debug c.engine triggerKind cronExpr scheduledFor
    let terminal := terminalStatus deliveredAt.isSome cancelledAt.isSome deadLetteredAt.isSome
    return ⟨scheduleId, statusWithPaused terminal paused, scheduledFor, attemptsFromI64 attempts,
      attemptsFromI64 maxAttempts, trigger, lastError⟩
  | _ => .error (.database c.undecodable)

abbrev Script (τ β δ α : Type) :=
  ExceptT SchedulerError (Program (Request Uuid τ β δ) (Answer Uuid τ β)) α

def Codec.query (r : Request Uuid τ β δ) : Script τ β δ (Outcome Uuid τ β) :=
  ExceptT.mk ((·.mapError fun failure => .database (c.refusal failure)) <$> request r)

def check {α : Type} (result : Except SchedulerError α) : Script τ β δ α :=
  ExceptT.mk (pure result)

def Codec.time (t : SystemTime) : Script τ β δ τ := check ((c.bindTime t).mapError .internal)

/-- `i64::try_from(limit).unwrap_or(i64::MAX)` -/
def boundLimit (limit : ℕ) : ℕ := min limit (2 ^ 63 - 1)

def Codec.ensureExists (id : Uuid) : Script τ β δ Unit := do
  let result ← c.query (.existence id)
  if result.returned.isEmpty then check (.error (.scheduleNotFound id))

def Codec.acknowledging (r : Request Uuid τ β δ) : Script τ β δ (Reply c.engine) := do
  let result ← c.query r
  return .applied (decide (0 < result.affected))

/-- An update of one schedule that asks for it if it changed nothing. -/
def Codec.updating (id : Uuid) (r : Request Uuid τ β δ) : Script τ β δ (Reply c.engine) := do
  let result ← c.query r
  if result.affected = 0 then c.ensureExists id
  return .done

def Codec.inspect (id : Uuid) : Script τ β δ (Option (ScheduleSnapshot c.engine)) := do
  let result ← c.query (.inspect id)
  match result.returned.head? with
  | none => return none
  | some row => return some (← check (c.decodeSnapshot row))

def Codec.listing (r : Request Uuid τ β δ) : Script τ β δ (Reply c.engine) := do
  let result ← c.query r
  return .listed (← check (result.returned.mapM c.decodeSnapshot))

def Codec.resume (id : Uuid) : Option SystemTime → Script τ β δ (Reply c.engine)
  | some next => do c.updating id (.resumeWithNext id (← c.time next))
  | none => c.updating id (.resumeOnly id)

/-- `inspect(id).await?.ok_or_else(..)?` of the control calls. -/
def Codec.inspectStored (id : Uuid) : Script τ β δ (ScheduleSnapshot c.engine) := do
  match ← c.inspect id with
  | none => check (.error (.scheduleNotFound id))
  | some snapshot => return snapshot

def Codec.script : Call c.engine → Script τ β δ (Reply c.engine)
  | .insert message maxAttempts => do
    let trigger := triggerColumns message.trigger
    let target := targetColumns message.target
    let payload ← check ((c.fromSlice message.payload).mapError .serialization)
    let scheduledFor ← c.time message.scheduledFor
    let _ ← c.query (.insert message.scheduleId ⟨message.eventType, payload, trigger.1, trigger.2,
      scheduledFor, target.1, target.2, maxAttemptsToI32 maxAttempts⟩)
    return .done
  | .claimDue batchSize lease => do
    let result ← c.query (.claim (boundLimit batchSize) (c.bindSpan lease))
    return .claimed (← check (result.returned.mapM c.decodeLeased))
  | .markDelivered id lease => do c.acknowledging (.markDelivered id (← c.time lease))
  | .reschedule id next lease => do
    let next ← c.time next
    c.acknowledging (.reschedule id next (← c.time lease))
  | .markFailed id retryIn error lease => do
    c.acknowledging (.markFailed id (c.bindSpan retryIn) error (← c.time lease))
  | .markDeadLettered id error lease => do
    c.acknowledging (.markDeadLettered id error (← c.time lease))
  | .deadLetterExhausted => do
    let result ← c.query .deadLetterExhausted
    return .swept result.affected
  | .cancel id => c.updating id (.cancel id)
  | .setPaused id paused => c.updating id (.setPaused id paused)
  | .resume id next => c.resume id next
  | .inspect id => return .inspected (← c.inspect id)
  | .listPending limit => c.listing (.listPending (boundLimit limit))
  | .listDeadLetter limit => c.listing (.listDeadLetter (boundLimit limit))
  | .replay id => do
    let result ← c.query (.replay id)
    if result.affected = 0 then
      let snapshot ← c.inspectStored id
      check (.error (.notReplayable id snapshot.status))
    return .done
  | .controlCancel id => do
    let snapshot ← c.inspectStored id
    if isTerminal snapshot.status then return .done
    c.updating id (.cancel id)
  | .controlResume id now => do
    let snapshot ← c.inspectStored id
    match ← check (resumeCall snapshot now) with
    | none => return .done
    | some next => c.resume id next

end Calls

/-! ## Contracts of calls -/

section Contracts

variable {A : Request Uuid τ β δ → Answer Uuid τ β → Prop} {α γ : Type} {c : Codec τ β δ}
  {P : SchedulerError → Prop}

def Fails (P : SchedulerError → Prop) : Except SchedulerError α → Prop
  | .ok _ => True
  | .error e => P e

theorem meets_query {r : Request Uuid τ β δ} {f : Outcome Uuid τ β → Script τ β δ γ}
    {Q : Except SchedulerError γ → Prop}
    (refused : ∀ failure, A r (.error failure) → Q (.error (.database (c.refusal failure))))
    (answered : ∀ outcome, A r (.ok outcome) → (f outcome).run.Meets A Q) :
    (c.query r >>= f).run.Meets A Q := by
  intro answer ok
  cases answer with
  | error failure => exact refused failure ok
  | ok outcome => exact answered outcome ok

theorem meets_check {x : Except SchedulerError α} {f : α → Script τ β δ γ}
    {Q : Except SchedulerError γ → Prop} (failed : ∀ e, x = .error e → Q (.error e))
    (passed : ∀ a, x = .ok a → (f a).run.Meets A Q) :
    ((check x : Script τ β δ α) >>= f).run.Meets A Q := by
  cases x with
  | error e => exact failed e rfl
  | ok a => exact passed a rfl

theorem meets_then {p : Script τ β δ α} {f : α → Script τ β δ γ}
    (first : p.run.Meets A (Fails P)) (second : ∀ a, (f a).run.Meets A (Fails P)) :
    (p >>= f).run.Meets A (Fails P) := by
  refine meets_bind first fun result failing => ?_
  cases result with
  | error e => exact failing
  | ok a => exact second a

end Contracts

section Failures

variable {α γ : Type} {P : SchedulerError → Prop}

theorem fails_bind {x : Except SchedulerError α} {f : α → Except SchedulerError γ}
    (first : Fails P x) (second : ∀ a, Fails P (f a)) : Fails P (x >>= f) := by
  cases x with
  | error e => exact first
  | ok a => exact second a

theorem fails_mapError {x : Except String α} {f : String → SchedulerError} (h : ∀ s, P (f s)) :
    Fails P (x.mapError f) := by
  cases x with
  | error s => exact h s
  | ok a => trivial

theorem fails_mapM {f : α → Except SchedulerError γ} (h : ∀ a, Fails P (f a)) (l : List α) :
    Fails P (l.mapM f) := by
  induction l with
  | nil => trivial
  | cons a rest ih =>
    rw [List.mapM_cons]
    exact fails_bind (h a) fun _ => fails_bind ih fun _ => trivial

def NamesNone : SchedulerError → Prop
  | .scheduleNotFound _ | .notReplayable _ _ => False
  | _ => True

theorem buildTrigger_fails (debug : String → String) (engine : CronEngine) (kind : String)
    (cronExpr : Option String) (scheduledFor : SystemTime) :
    Fails NamesNone (buildTrigger debug engine kind cronExpr scheduledFor) := by
  unfold buildTrigger Trigger.parseCron CronExpression.parse
  repeat' split
  all_goals trivial

theorem buildTarget_fails (debug : String → String) (kind : String) (routingKey : Option String) :
    Fails NamesNone (buildTarget debug kind routingKey) := by
  unfold buildTarget
  repeat' split
  all_goals trivial

variable (c : Codec τ β δ)

theorem optionalText_fails (value : Value Uuid τ β) : Fails NamesNone (c.optionalText value) := by
  cases value <;> trivial

theorem optionalInstant_fails (value : Value Uuid τ β) :
    Fails NamesNone (c.optionalInstant value) := by
  cases value <;> trivial

theorem flag_fails (value : Value Uuid τ β) : Fails NamesNone (c.flag value) := by
  cases value <;> trivial

theorem instant_fails (t : τ) : Fails NamesNone (c.instant t) := fails_mapError fun _ => trivial

theorem decodeLeased_fails (row : List (Value Uuid τ β)) :
    Fails NamesNone (c.decodeLeased row) := by
  unfold Codec.decodeLeased
  split
  · refine fails_bind (optionalText_fails c _) fun _ => fails_bind (optionalText_fails c _) fun _ =>
      fails_bind (fails_mapError fun _ => trivial) fun _ => fails_bind (instant_fails c _) fun _ =>
      fails_bind ?_ fun _ => fails_bind (instant_fails c _) fun _ => trivial
    exact fails_bind (buildTrigger_fails ..) fun _ =>
      fails_bind (buildTarget_fails ..) fun _ => trivial
  · trivial

theorem decodeSnapshot_fails (row : List (Value Uuid τ β)) :
    Fails NamesNone (c.decodeSnapshot row) := by
  unfold Codec.decodeSnapshot
  split
  · exact fails_bind (optionalText_fails c _) fun _ => fails_bind (flag_fails c _) fun _ =>
      fails_bind (optionalText_fails c _) fun _ => fails_bind (optionalInstant_fails c _) fun _ =>
      fails_bind (optionalInstant_fails c _) fun _ =>
      fails_bind (optionalInstant_fails c _) fun _ => fails_bind (instant_fails c _) fun _ =>
      fails_bind (buildTrigger_fails ..) fun _ => trivial
  · trivial

theorem resumeCall_fails {engine : CronEngine} (snapshot : ScheduleSnapshot engine)
    (now : SystemTime) : Fails NamesNone (resumeCall snapshot now) := by
  unfold resumeCall CronExpression.nextOccurrence toOffsetDateTime
  repeat' split
  all_goals trivial

end Failures

end SchedulerSqlStore
