import Hexeract.SqlDialect

/-! # The statement texts of the SQL schedule stores

Each text is read back as the statement it spells, whatever the table is called. MySQL
claims in three statements, two of which name the claimed rows by as many markers as there
are rows. -/
namespace SchedulerSql

open LibrarySql LibrarySqlText SqlDialect
open OutboxStatements (Dialect)

/-! ## Texts -/

def claimColumns : String :=
  "schedule_id, event_type, payload, trigger_kind, cron_expr, scheduled_for, target_kind, " ++
    "target_routing_key, attempts, max_attempts, leased_until"

def snapshotColumns : String :=
  "schedule_id, trigger_kind, cron_expr, scheduled_for, attempts, max_attempts, paused, " ++
    "last_error, delivered_at, cancelled_at, dead_lettered_at"

def falseLiteral : Dialect → String
  | .sqlite => "0"
  | .postgres | .mysql => "FALSE"

def trueLiteral : Dialect → String
  | .sqlite => "1"
  | .postgres | .mysql => "TRUE"

/-- `str::split(", ")`. -/
def splitColumns : List Char → List (List Char)
  | ',' :: ' ' :: rest => [] :: splitColumns rest
  | c :: rest =>
    match splitColumns rest with
    | [] => [[c]]
    | first :: others => (c :: first) :: others
  | [] => [[]]

def qualifyColumns (qtable columns : String) : String :=
  ", ".intercalate ((splitColumns columns.toList).map fun column =>
    let name := String.ofList column
    s!"{qtable}.{name}")

def eligiblePredicate (d : Dialect) : String :=
  let now := nowExpr d
  let not_paused := falseLiteral d
  s!"scheduled_for <= {now} AND delivered_at IS NULL AND cancelled_at IS NULL " ++
    s!"AND dead_lettered_at IS NULL AND paused = {not_paused} AND attempts < max_attempts " ++
    s!"AND (leased_until IS NULL OR leased_until <= {now})"

def placeholders (d : Dialect) (first n : ℕ) : String :=
  ", ".intercalate ((List.range' first n).map (placeholder d))

def insertSql (d : Dialect) (table : String) : String :=
  let qtable := quoteIdentifier d table
  let markers := placeholders d 1 9
  s!"INSERT INTO {qtable} (schedule_id, event_type, payload, trigger_kind, cron_expr, " ++
    s!"scheduled_for, target_kind, target_routing_key, max_attempts) VALUES ({markers})"

/-- PostgreSQL locks the due rows in a query of its own; SQLite has one writer. -/
def claimReturningSql (d : Dialect) (table : String) : String :=
  let qtable := quoteIdentifier d table
  let lease := nowPlusIntervalExpr d 1
  let limit := placeholder d 2
  let eligible := eligiblePredicate d
  match d with
  | .postgres =>
    let returning := qualifyColumns qtable claimColumns
    s!"WITH due AS ( SELECT schedule_id FROM {qtable} WHERE {eligible} ORDER BY scheduled_for " ++
      s!"LIMIT {limit} FOR UPDATE SKIP LOCKED ) UPDATE {qtable} SET leased_until = {lease}, " ++
      s!"attempts = attempts + 1 FROM due WHERE {qtable}.schedule_id = due.schedule_id " ++
      s!"RETURNING {returning}"
  | .mysql | .sqlite =>
    s!"UPDATE {qtable} SET leased_until = {lease}, attempts = attempts + 1 " ++
      s!"WHERE schedule_id IN ( SELECT schedule_id FROM {qtable} WHERE {eligible} " ++
      s!"ORDER BY scheduled_for LIMIT {limit} ) RETURNING {claimColumns}"

def mysqlClaimSelectSql (table : String) : String :=
  let qtable := quoteIdentifier .mysql table
  let limit := placeholder .mysql 1
  let eligible := eligiblePredicate .mysql
  s!"SELECT {claimColumns} FROM {qtable} WHERE {eligible} ORDER BY scheduled_for " ++
    s!"LIMIT {limit} FOR UPDATE SKIP LOCKED"

def mysqlClaimUpdateSql (table : String) (n : ℕ) : String :=
  let qtable := quoteIdentifier .mysql table
  let lease := nowPlusIntervalExpr .mysql 1
  let ids := placeholders .mysql 2 n
  s!"UPDATE {qtable} SET leased_until = {lease}, attempts = attempts + 1 " ++
    s!"WHERE schedule_id IN ({ids})"

def mysqlClaimReselectSql (table : String) (n : ℕ) : String :=
  let qtable := quoteIdentifier .mysql table
  let ids := placeholders .mysql 1 n
  s!"SELECT {claimColumns} FROM {qtable} WHERE schedule_id IN ({ids})"

def markDeliveredSql (d : Dialect) (table : String) : String :=
  let qtable := quoteIdentifier d table
  let now := nowExpr d
  let id := placeholder d 1
  let lease := placeholder d 2
  s!"UPDATE {qtable} SET delivered_at = {now}, leased_until = NULL " ++
    s!"WHERE schedule_id = {id} AND leased_until = {lease} " ++
    "AND delivered_at IS NULL AND cancelled_at IS NULL AND dead_lettered_at IS NULL"

def rescheduleSql (d : Dialect) (table : String) : String :=
  let qtable := quoteIdentifier d table
  let next := placeholder d 1
  let id := placeholder d 2
  let lease := placeholder d 3
  s!"UPDATE {qtable} SET scheduled_for = {next}, attempts = 0, leased_until = NULL, " ++
    s!"last_error = NULL WHERE schedule_id = {id} AND leased_until = {lease} " ++
    "AND delivered_at IS NULL AND cancelled_at IS NULL AND dead_lettered_at IS NULL"

def markFailedSql (d : Dialect) (table : String) : String :=
  let qtable := quoteIdentifier d table
  let retry_in := nowPlusIntervalExpr d 1
  let error := placeholder d 2
  let id := placeholder d 3
  let lease := placeholder d 4
  s!"UPDATE {qtable} SET leased_until = {retry_in}, last_error = {error} " ++
    s!"WHERE schedule_id = {id} AND leased_until = {lease} " ++
    "AND delivered_at IS NULL AND cancelled_at IS NULL AND dead_lettered_at IS NULL"

def markDeadLetteredSql (d : Dialect) (table : String) : String :=
  let qtable := quoteIdentifier d table
  let now := nowExpr d
  let error := placeholder d 1
  let id := placeholder d 2
  let lease := placeholder d 3
  s!"UPDATE {qtable} SET dead_lettered_at = {now}, last_error = {error}, leased_until = NULL " ++
    s!"WHERE schedule_id = {id} AND leased_until = {lease} " ++
    "AND delivered_at IS NULL AND cancelled_at IS NULL AND dead_lettered_at IS NULL"

def deadLetterExhaustedSql (d : Dialect) (table : String) : String :=
  let qtable := quoteIdentifier d table
  let now := nowExpr d
  let not_paused := falseLiteral d
  let error := placeholder d 1
  s!"UPDATE {qtable} SET dead_lettered_at = {now}, last_error = {error}, leased_until = NULL " ++
    "WHERE delivered_at IS NULL AND cancelled_at IS NULL AND dead_lettered_at IS NULL " ++
    s!"AND paused = {not_paused} AND attempts >= max_attempts " ++
    s!"AND (leased_until IS NULL OR leased_until <= {now})"

def cancelSql (d : Dialect) (table : String) : String :=
  let qtable := quoteIdentifier d table
  let now := nowExpr d
  let id := placeholder d 1
  s!"UPDATE {qtable} SET cancelled_at = {now}, leased_until = NULL WHERE schedule_id = {id} " ++
    "AND delivered_at IS NULL AND cancelled_at IS NULL AND dead_lettered_at IS NULL"

def setPausedSql (d : Dialect) (table : String) : String :=
  let qtable := quoteIdentifier d table
  let paused := placeholder d 1
  let id := placeholder d 2
  s!"UPDATE {qtable} SET paused = {paused} WHERE schedule_id = {id}"

def resumeWithNextSql (d : Dialect) (table : String) : String :=
  let qtable := quoteIdentifier d table
  let not_paused := falseLiteral d
  let not_paused_inv := trueLiteral d
  let next := placeholder d 1
  let id := placeholder d 2
  s!"UPDATE {qtable} SET paused = {not_paused}, scheduled_for = {next}, attempts = 0, " ++
    s!"last_error = NULL, leased_until = NULL WHERE schedule_id = {id} " ++
    s!"AND paused = {not_paused_inv} " ++
    "AND delivered_at IS NULL AND cancelled_at IS NULL AND dead_lettered_at IS NULL"

def resumeOnlySql (d : Dialect) (table : String) : String :=
  let qtable := quoteIdentifier d table
  let not_paused := falseLiteral d
  let not_paused_inv := trueLiteral d
  let id := placeholder d 1
  s!"UPDATE {qtable} SET paused = {not_paused}, leased_until = NULL " ++
    s!"WHERE schedule_id = {id} AND paused = {not_paused_inv} " ++
    "AND delivered_at IS NULL AND cancelled_at IS NULL AND dead_lettered_at IS NULL"

def inspectSql (d : Dialect) (table : String) : String :=
  let qtable := quoteIdentifier d table
  let id := placeholder d 1
  s!"SELECT {snapshotColumns} FROM {qtable} WHERE schedule_id = {id}"

def listPendingSql (d : Dialect) (table : String) : String :=
  let qtable := quoteIdentifier d table
  let limit := placeholder d 1
  s!"SELECT {snapshotColumns} FROM {qtable} " ++
    "WHERE delivered_at IS NULL AND cancelled_at IS NULL AND dead_lettered_at IS NULL " ++
    s!"ORDER BY scheduled_for LIMIT {limit}"

def listDeadLetterSql (d : Dialect) (table : String) : String :=
  let qtable := quoteIdentifier d table
  let limit := placeholder d 1
  s!"SELECT {snapshotColumns} FROM {qtable} WHERE dead_lettered_at IS NOT NULL " ++
    s!"ORDER BY dead_lettered_at DESC LIMIT {limit}"

def replaySql (d : Dialect) (table : String) : String :=
  let qtable := quoteIdentifier d table
  let now := nowExpr d
  let not_paused := falseLiteral d
  let id := placeholder d 1
  s!"UPDATE {qtable} SET scheduled_for = {now}, attempts = 0, leased_until = NULL, " ++
    s!"last_error = NULL, paused = {not_paused}, dead_lettered_at = NULL " ++
    s!"WHERE schedule_id = {id} AND dead_lettered_at IS NOT NULL"

def existsSql (d : Dialect) (table : String) : String :=
  let qtable := quoteIdentifier d table
  let id := placeholder d 1
  s!"SELECT 1 FROM {qtable} WHERE schedule_id = {id}"

/-! ## What they spell -/

def isOpen (rest : Option Cond) : Cond :=
  .both (.isNull (.column "delivered_at")) (.both (.isNull (.column "cancelled_at"))
    (match rest with
      | none => .isNull (.column "dead_lettered_at")
      | some c => .both (.isNull (.column "dead_lettered_at")) c))

def flag (d : Dialect) (b : Bool) : Term :=
  match d with
  | .sqlite => .number (if b then 1 else 0)
  | .postgres | .mysql => .truth b

def isPaused (d : Dialect) (b : Bool) : Cond := .compare .eq (.column "paused") (flag d b)

def isUnleased : Cond :=
  .either (.isNull (.column "leased_until")) (.compare .le (.column "leased_until") .now)

def isId (position : ℕ) : Cond := .compare .eq (.column "schedule_id") (.param position)

def isHeld (id lease : ℕ) : Cond :=
  .both (isId id) (.both (.compare .eq (.column "leased_until") (.param lease)) (isOpen none))

def isEligible (d : Dialect) : Cond :=
  .both (.compare .le (.column "scheduled_for") .now) (isOpen (some (.both (isPaused d false)
    (.both (.compare .lt (.column "attempts") (.column "max_attempts")) isUnleased))))

def isExhausted (d : Dialect) : Cond :=
  isOpen (some (.both (isPaused d false)
    (.both (.compare .ge (.column "attempts") (.column "max_attempts")) isUnleased)))

def claimNames : List String :=
  ["schedule_id", "event_type", "payload", "trigger_kind", "cron_expr", "scheduled_for",
    "target_kind", "target_routing_key", "attempts", "max_attempts", "leased_until"]

def snapshotNames : List String :=
  ["schedule_id", "trigger_kind", "cron_expr", "scheduled_for", "attempts", "max_attempts",
    "paused", "last_error", "delivered_at", "cancelled_at", "dead_lettered_at"]

def insertNames : List String :=
  ["schedule_id", "event_type", "payload", "trigger_kind", "cron_expr", "scheduled_for",
    "target_kind", "target_routing_key", "max_attempts"]

def dueQuery (d : Dialect) (table : String) (terms : List Term) (limit : ℕ) : Query :=
  ⟨terms, table, some (isEligible d), some ("scheduled_for", false), some (.param limit),
    supportsSkipLocked d⟩

def claimSets : List (String × Term) :=
  [("leased_until", .later 1), ("attempts", .plus "attempts" 1)]

/-- PostgreSQL joins the update with the due rows, SQLite asks for them. -/
def claimReturningStatement (d : Dialect) (table : String) : Statement :=
  let due := dueQuery d table [.column "schedule_id"] 2
  match d with
  | .postgres => .update table claimSets (.query "due" due)
      (.holds (.compare .eq (.member table "schedule_id") (.member "due" "schedule_id")))
      (claimNames.map (.member table))
  | .mysql | .sqlite => .update table claimSets .nothing (.inQuery (.column "schedule_id") due)
      (claimNames.map .column)

def update (table : String) (sets : List (String × Term)) (c : Cond) : Statement :=
  .update table sets .nothing (.holds c) []

def snapshotQuery (table : String) (c : Cond) (order : Option (String × Bool))
    (limit : Option Term) : Query :=
  ⟨snapshotNames.map .column, table, some c, order, limit, false⟩

set_option maxRecDepth 20000

theorem parse_markDeliveredSql (d : Dialect) (table : String) :
    parse (lex (markDeliveredSql d table)) =
      some (update table [("delivered_at", .now), ("leased_until", .null)] (isHeld 1 2)) := by
  unfold lex
  delta markDeliveredSql
  cases d
  all_goals
    simp only [String.toList_append, quoteIdentifier_toList, placeholder_toList, nowExpr,
      toString_string, List.append_assoc]
    repeat rw [String.toList_ofList]
    rw [tokens_append_of_between rfl, tokens_quoted _ _ rfl]
    rfl

theorem parse_rescheduleSql (d : Dialect) (table : String) :
    parse (lex (rescheduleSql d table)) =
      some (update table [("scheduled_for", .param 1), ("attempts", .number 0),
        ("leased_until", .null), ("last_error", .null)] (isHeld 2 3)) := by
  unfold lex
  delta rescheduleSql
  cases d
  all_goals
    simp only [String.toList_append, quoteIdentifier_toList, placeholder_toList,
      toString_string, List.append_assoc]
    repeat rw [String.toList_ofList]
    rw [tokens_append_of_between rfl, tokens_quoted _ _ rfl]
    rfl

theorem parse_markFailedSql (d : Dialect) (table : String) :
    parse (lex (markFailedSql d table)) =
      some (update table [("leased_until", .later 1), ("last_error", .param 2)] (isHeld 3 4)) := by
  unfold lex
  delta markFailedSql
  cases d
  all_goals
    simp only [String.toList_append, quoteIdentifier_toList, placeholder_toList,
      nowPlusIntervalExpr_toList, toString_string, List.append_assoc]
    repeat rw [String.toList_ofList]
    rw [tokens_append_of_between rfl, tokens_quoted _ _ rfl]
    rfl

theorem parse_markDeadLetteredSql (d : Dialect) (table : String) :
    parse (lex (markDeadLetteredSql d table)) =
      some (update table [("dead_lettered_at", .now), ("last_error", .param 1),
        ("leased_until", .null)] (isHeld 2 3)) := by
  unfold lex
  delta markDeadLetteredSql
  cases d
  all_goals
    simp only [String.toList_append, quoteIdentifier_toList, placeholder_toList, nowExpr,
      toString_string, List.append_assoc]
    repeat rw [String.toList_ofList]
    rw [tokens_append_of_between rfl, tokens_quoted _ _ rfl]
    rfl

theorem parse_deadLetterExhaustedSql (d : Dialect) (table : String) :
    parse (lex (deadLetterExhaustedSql d table)) =
      some (update table [("dead_lettered_at", .now), ("last_error", .param 1),
        ("leased_until", .null)] (isExhausted d)) := by
  unfold lex
  delta deadLetterExhaustedSql
  cases d
  all_goals
    simp only [String.toList_append, quoteIdentifier_toList, placeholder_toList, nowExpr,
      falseLiteral, toString_string, List.append_assoc]
    repeat rw [String.toList_ofList]
    rw [tokens_append_of_between rfl, tokens_quoted _ _ rfl]
    rfl

theorem parse_cancelSql (d : Dialect) (table : String) :
    parse (lex (cancelSql d table)) =
      some (update table [("cancelled_at", .now), ("leased_until", .null)]
        (.both (isId 1) (isOpen none))) := by
  unfold lex
  delta cancelSql
  cases d
  all_goals
    simp only [String.toList_append, quoteIdentifier_toList, placeholder_toList, nowExpr,
      toString_string, List.append_assoc]
    repeat rw [String.toList_ofList]
    rw [tokens_append_of_between rfl, tokens_quoted _ _ rfl]
    rfl

theorem parse_setPausedSql (d : Dialect) (table : String) :
    parse (lex (setPausedSql d table)) =
      some (update table [("paused", .param 1)] (isId 2)) := by
  unfold lex
  delta setPausedSql
  cases d
  all_goals
    simp only [String.toList_append, quoteIdentifier_toList, placeholder_toList,
      toString_string, List.append_assoc]
    repeat rw [String.toList_ofList]
    rw [tokens_append_of_between rfl, tokens_quoted _ _ rfl]
    rfl

theorem parse_resumeWithNextSql (d : Dialect) (table : String) :
    parse (lex (resumeWithNextSql d table)) =
      some (update table [("paused", flag d false), ("scheduled_for", .param 1),
        ("attempts", .number 0), ("last_error", .null), ("leased_until", .null)]
        (.both (isId 2) (.both (isPaused d true) (isOpen none)))) := by
  unfold lex
  delta resumeWithNextSql
  cases d
  all_goals
    simp only [String.toList_append, quoteIdentifier_toList, placeholder_toList, falseLiteral,
      trueLiteral, toString_string, List.append_assoc]
    repeat rw [String.toList_ofList]
    rw [tokens_append_of_between rfl, tokens_quoted _ _ rfl]
    rfl

theorem parse_resumeOnlySql (d : Dialect) (table : String) :
    parse (lex (resumeOnlySql d table)) =
      some (update table [("paused", flag d false), ("leased_until", .null)]
        (.both (isId 1) (.both (isPaused d true) (isOpen none)))) := by
  unfold lex
  delta resumeOnlySql
  cases d
  all_goals
    simp only [String.toList_append, quoteIdentifier_toList, placeholder_toList, falseLiteral,
      trueLiteral, toString_string, List.append_assoc]
    repeat rw [String.toList_ofList]
    rw [tokens_append_of_between rfl, tokens_quoted _ _ rfl]
    rfl

theorem parse_replaySql (d : Dialect) (table : String) :
    parse (lex (replaySql d table)) =
      some (update table [("scheduled_for", .now), ("attempts", .number 0),
        ("leased_until", .null), ("last_error", .null), ("paused", flag d false),
        ("dead_lettered_at", .null)]
        (.both (isId 1) (.isNotNull (.column "dead_lettered_at")))) := by
  unfold lex
  delta replaySql
  cases d
  all_goals
    simp only [String.toList_append, quoteIdentifier_toList, placeholder_toList, nowExpr,
      falseLiteral, toString_string, List.append_assoc]
    repeat rw [String.toList_ofList]
    rw [tokens_append_of_between rfl, tokens_quoted _ _ rfl]
    rfl

theorem parse_inspectSql (d : Dialect) (table : String) :
    parse (lex (inspectSql d table)) =
      some (.select (snapshotQuery table (isId 1) none none)) := by
  unfold lex
  delta inspectSql snapshotColumns
  cases d
  all_goals
    simp only [String.toList_append, quoteIdentifier_toList, placeholder_toList,
      toString_string, List.append_assoc]
    repeat rw [String.toList_ofList]
    rw [tokens_append_of_between rfl, tokens_append_of_between rfl, tokens_append_of_apart rfl rfl,
      tokens_append_of_between rfl, tokens_quoted _ _ rfl]
    rfl

theorem parse_listPendingSql (d : Dialect) (table : String) :
    parse (lex (listPendingSql d table)) =
      some (.select (snapshotQuery table (isOpen none) (some ("scheduled_for", false))
        (some (.param 1)))) := by
  unfold lex
  delta listPendingSql snapshotColumns
  cases d
  all_goals
    simp only [String.toList_append, quoteIdentifier_toList, placeholder_toList,
      toString_string, List.append_assoc]
    repeat rw [String.toList_ofList]
    rw [tokens_append_of_between rfl, tokens_append_of_between rfl, tokens_append_of_apart rfl rfl,
      tokens_append_of_between rfl, tokens_quoted _ _ rfl]
    rfl

theorem parse_listDeadLetterSql (d : Dialect) (table : String) :
    parse (lex (listDeadLetterSql d table)) =
      some (.select (snapshotQuery table (.isNotNull (.column "dead_lettered_at"))
        (some ("dead_lettered_at", true)) (some (.param 1)))) := by
  unfold lex
  delta listDeadLetterSql snapshotColumns
  cases d
  all_goals
    simp only [String.toList_append, quoteIdentifier_toList, placeholder_toList,
      toString_string, List.append_assoc]
    repeat rw [String.toList_ofList]
    rw [tokens_append_of_between rfl, tokens_append_of_between rfl, tokens_append_of_apart rfl rfl,
      tokens_append_of_between rfl, tokens_quoted _ _ rfl]
    rfl

theorem parse_existsSql (d : Dialect) (table : String) :
    parse (lex (existsSql d table)) =
      some (.select ⟨[.number 1], table, some (isId 1), none, none, false⟩) := by
  unfold lex
  delta existsSql
  cases d
  all_goals
    simp only [String.toList_append, quoteIdentifier_toList, placeholder_toList,
      toString_string, List.append_assoc]
    repeat rw [String.toList_ofList]
    rw [tokens_append_of_between rfl, tokens_quoted _ _ rfl]
    rfl

theorem parse_insertSql (d : Dialect) (table : String) :
    parse (lex (insertSql d table)) = some (.insert table insertNames
      (.values ((List.range' 1 9).map .param) none)) := by
  have markers : (List.range' 1 9).map (placeholder d) = [placeholder d 1, placeholder d 2,
      placeholder d 3, placeholder d 4, placeholder d 5, placeholder d 6, placeholder d 7,
      placeholder d 8, placeholder d 9] := rfl
  unfold lex
  delta insertSql placeholders
  simp only [markers]
  cases d
  all_goals
    simp only [String.toList_append, quoteIdentifier_toList, String.toList_intercalate,
      List.map_cons, List.map_nil, placeholder_toList, toString_string, List.append_assoc]
    repeat rw [String.toList_ofList]
    rw [tokens_append_of_between rfl, tokens_quoted _ _ rfl]
    rfl

/-! ## Claims -/

theorem splitColumns_claimColumns :
    splitColumns claimColumns.toList = claimNames.map String.toList := by
  delta claimColumns
  rw [String.toList_append]
  repeat rw [String.toList_ofList]
  rfl

theorem qualifyColumns_toList (qtable : String) :
    (qualifyColumns qtable claimColumns).toList =
      [',', ' '].intercalate (claimNames.map fun name => qtable.toList ++ '.' :: name.toList) := by
  rw [qualifyColumns, splitColumns_claimColumns, String.toList_intercalate, List.map_map,
    List.map_map, String.toList_ofList]
  refine congrArg _ (List.map_congr_left fun name _ => ?_)
  simp only [Function.comp_apply, String.ofList_toList, toString_string, String.toList_append]
  rw [String.toList_ofList]
  exact List.append_assoc _ _ _

theorem parse_claimReturningSql_postgres (table : String) :
    parse (lex (claimReturningSql .postgres table)) =
      some (claimReturningStatement .postgres table) := by
  unfold lex
  delta claimReturningSql eligiblePredicate
  simp only [String.toList_append, quoteIdentifier_toList, placeholder_toList, nowExpr,
    nowPlusIntervalExpr_toList, falseLiteral, qualifyColumns_toList, claimNames, List.map_cons,
    List.map_nil, List.intercalate_cons_cons, List.intercalate_singleton, toString_string,
    List.append_assoc]
  repeat rw [String.toList_ofList]
  repeat first
      | rw [tokens_quoted _ _ rfl]
      | rw [tokens_append_of_between rfl]
      | rw [tokens_append_of_apart rfl rfl]
  rfl

theorem parse_claimReturningSql_sqlite (table : String) :
    parse (lex (claimReturningSql .sqlite table)) =
      some (claimReturningStatement .sqlite table) := by
  unfold lex
  delta claimReturningSql eligiblePredicate claimColumns
  simp only [String.toList_append, quoteIdentifier_toList, placeholder_toList, nowExpr,
    nowPlusIntervalExpr_toList, falseLiteral, toString_string, List.append_assoc]
  repeat rw [String.toList_ofList]
  rw [tokens_append_of_between rfl, tokens_quoted _ _ rfl]
  iterate 6 rw [tokens_append_of_between rfl]
  rw [tokens_quoted _ _ rfl]
  rfl

theorem parse_mysqlClaimSelectSql (table : String) :
    parse (lex (mysqlClaimSelectSql table)) =
      some (.select (dueQuery .mysql table (claimNames.map .column) 1)) := by
  unfold lex
  delta mysqlClaimSelectSql eligiblePredicate claimColumns
  simp only [String.toList_append, quoteIdentifier_toList, placeholder_toList, nowExpr,
    falseLiteral, toString_string, List.append_assoc]
  repeat rw [String.toList_ofList]
  rw [tokens_append_of_between rfl, tokens_append_of_between rfl, tokens_append_of_apart rfl rfl,
    tokens_append_of_between rfl, tokens_quoted _ _ rfl]
  rfl

def ids (position n : ℕ) : List Token := counted (fun p => [.marker (some p)]) 1 position n

def isAmong (position n : ℕ) : Cond :=
  .among [.column "schedule_id"]
    ((Grammar.countedValues .param 1 position n).map fun item => [item])

theorem placeholders_toList (first n : ℕ) :
    (placeholders .mysql first n).toList = [',', ' '].intercalate (List.replicate n ['?']) := by
  have each : String.toList ∘ placeholder .mysql = fun _ => ['?'] :=
    funext fun position => placeholder_toList .mysql position
  rw [placeholders, String.toList_intercalate, List.map_map, each, String.toList_ofList,
    List.map_const', List.length_range']

theorem lex_ids (position n : ℕ) (rest : List Char) :
    numbered position (tokens ([',', ' '].intercalate (List.replicate (n + 1) ['?']) ++ rest)) =
      ids position n ++ numbered (position + (n + 1) * 1) (tokens rest) := by
  rw [tokens_intercalate rfl]
  exact numbered_repeated (fun _ _ => rfl) position n (tokens rest)

theorem simple_ids {fuel n : ℕ} (enough : n < fuel + 1) (position : ℕ) (rest : List Token) :
    Grammar.simple (fuel + 1) (.word "schedule_id" :: .keyword .in :: .symbol '(' ::
      (ids position n ++ .symbol ')' :: rest)) = some (isAmong position n, rest) := by
  have items : Grammar.list Grammar.term (fuel + 1) (ids position n ++ .symbol ')' :: rest) =
      some (Grammar.countedValues .param 1 position n, .symbol ')' :: rest) :=
    Grammar.list_counted (fun _ _ => rfl) rfl enough position
  have inside : Grammar.parens (Grammar.list Grammar.term (fuel + 1)) (.symbol '(' ::
      (ids position n ++ .symbol ')' :: rest)) =
      some (Grammar.countedValues .param 1 position n, rest) := by
    rw [Grammar.parens, Grammar.bind_some (p := Grammar.symbol '(') rfl, Grammar.bind_some items]
    rfl
  rw [Grammar.simple, Grammar.bind_some (p := Grammar.term) rfl, Grammar.orElse_none rfl,
    Grammar.orElse_none rfl]
  refine Grammar.orElse_some ?_
  rw [Grammar.bind_some (p := Grammar.keyword .in) rfl, Grammar.bind_some inside]
  rfl

theorem lt_length_ids (position n : ℕ) : n < (ids position n).length := by
  apply lt_length_counted
  intro p
  exact Nat.zero_lt_one

def mysqlClaimUpdateStatement (table : String) (n : ℕ) : Statement :=
  update table claimSets (isAmong 2 n)

theorem lex_mysqlClaimUpdateSql (table : String) (n : ℕ) :
    lex (mysqlClaimUpdateSql table (n + 1)) =
      .keyword .update :: .identifier table :: .keyword .set :: .word "leased_until" ::
        .symbol '=' :: (mysqlLease ++ .symbol ',' :: .word "attempts" :: .symbol '=' ::
          .word "attempts" :: .symbol '+' :: .number 1 :: .keyword .where ::
          .word "schedule_id" :: .keyword .in :: .symbol '(' :: (ids 2 n ++ [.symbol ')'])) := by
  unfold lex
  delta mysqlClaimUpdateSql
  simp only [String.toList_append, quoteIdentifier_toList, nowPlusIntervalExpr_toList,
    placeholder_toList, placeholders_toList, toString_string, List.append_assoc]
  repeat rw [String.toList_ofList]
  rw [tokens_append_of_between rfl, tokens_quoted _ _ rfl]
  repeat rw [tokens_append_of_between rfl]
  change .keyword .update :: .identifier table :: .keyword .set :: .word "leased_until" ::
    .symbol '=' :: (mysqlLease ++ .symbol ',' :: .word "attempts" :: .symbol '=' ::
      .word "attempts" :: .symbol '+' :: .number 1 :: .keyword .where ::
      .word "schedule_id" :: .keyword .in :: .symbol '(' :: numbered 2 (tokens
        ([',', ' '].intercalate (List.replicate (n + 1) ['?']) ++ [')']))) = _
  rw [lex_ids]
  rfl

theorem parse_mysqlClaimUpdateSql (table : String) (n : ℕ) :
    parse (lex (mysqlClaimUpdateSql table (n + 1))) =
      some (mysqlClaimUpdateStatement table n) := by
  rw [lex_mysqlClaimUpdateSql]
  apply parse_of_statement
  generalize length : List.length _ = fuel
  obtain ⟨fuel, enough, rfl⟩ : ∃ f, n < f + 2 ∧ fuel = f + 2 := by
    have long := lt_length_ids 2 n
    refine ⟨fuel - 2, ?_, ?_⟩ <;>
    simp only [List.length_cons, List.length_append] at length <;> omega
  have among := Grammar.condition_of_simple rfl
    (simple_ids (show n < fuel + 1 + 1 from enough) 2 []) rfl rfl
  refine Grammar.statement_update rfl rfl (Grammar.filter_of_condition ?_ among) rfl
  cases n <;> rfl

def reselectQuery (table : String) (n : ℕ) : Query :=
  ⟨claimNames.map .column, table, some (isAmong 1 n), none, none, false⟩

def claimColumnTokens : List Token := (claimNames.map .word).intersperse (.symbol ',')

theorem lex_mysqlClaimReselectSql (table : String) (n : ℕ) :
    lex (mysqlClaimReselectSql table (n + 1)) =
      .keyword .select :: (claimColumnTokens ++ .keyword .from :: .identifier table ::
        .keyword .where :: .word "schedule_id" :: .keyword .in :: .symbol '(' ::
          (ids 1 n ++ [.symbol ')'])) := by
  unfold lex
  delta mysqlClaimReselectSql claimColumns
  simp only [String.toList_append, quoteIdentifier_toList, placeholders_toList, toString_string,
    List.append_assoc]
  repeat rw [String.toList_ofList]
  rw [tokens_append_of_between rfl, tokens_append_of_between rfl, tokens_append_of_apart rfl rfl,
    tokens_append_of_between rfl, tokens_quoted _ _ rfl, tokens_append_of_between rfl]
  change .keyword .select :: (claimColumnTokens ++ .keyword .from :: .identifier table ::
    .keyword .where :: .word "schedule_id" :: .keyword .in :: .symbol '(' :: numbered 1 (tokens
      ([',', ' '].intercalate (List.replicate (n + 1) ['?']) ++ [')']))) = _
  rw [lex_ids]
  rfl

theorem parse_mysqlClaimReselectSql (table : String) (n : ℕ) :
    parse (lex (mysqlClaimReselectSql table (n + 1))) =
      some (.select (reselectQuery table n)) := by
  rw [lex_mysqlClaimReselectSql]
  apply parse_of_statement
  generalize length : List.length _ = fuel
  obtain ⟨fuel, enough, rfl⟩ : ∃ f, n < f + 12 ∧ fuel = f + 12 := by
    have long := lt_length_ids 1 n
    have wide : claimColumnTokens.length = 21 := rfl
    refine ⟨fuel - 12, ?_, ?_⟩ <;>
    simp only [List.length_cons, List.length_append, wide] at length <;> omega
  have among := Grammar.condition_of_simple rfl
    (simple_ids (show n < fuel + 11 + 1 from enough) 1 []) rfl rfl
  refine Grammar.orElse_some (Grammar.bind_some (a := reselectQuery table n) ?_)
  rw [Grammar.query, Grammar.bind_some (p := Grammar.keyword .select) rfl,
    Grammar.bind_some (p := Grammar.list Grammar.term _) rfl,
    Grammar.bind_some (p := Grammar.keyword .from) rfl,
    Grammar.bind_some (p := Grammar.tableName) rfl]
  exact (Grammar.bind_some (Grammar.whereClause_of_condition among)).trans rfl

end SchedulerSql
