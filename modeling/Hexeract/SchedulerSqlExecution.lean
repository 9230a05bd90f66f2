import Hexeract.SchedulerSql
import Hexeract.SchedulerStatements

/-! # The SQL schedule stores, run on their texts

The table of schedules as a database stores it, and what each text does to it: the guarded
updates, the sweep, the claims of the three engines and the reads. -/
namespace SchedulerSqlExecution

open LibraryCollections LibraryTables LibrarySql SqlDialect SchedulerSql
open SchedulerStatements hiding Row
open OutboxStatements (Dialect)

structure Content (τ β : Type) where
  eventType : String
  payload : β
  triggerKind : String
  cronExpr : Option String
  targetKind : String
  routingKey : Option String
  createdAt : τ

abbrev Stored (κ τ β : Type) := κ × SchedulerStatements.Row τ (Content τ β)

variable {κ τ β δ : Type}

/-! ## Rows as they are stored -/

def encode (d : Dialect) (row : Stored κ τ β) : LibrarySql.Row κ τ β :=
  [("schedule_id", .key row.1), ("event_type", .text row.2.content.eventType),
    ("payload", .document row.2.content.payload),
    ("trigger_kind", .text row.2.content.triggerKind),
    ("cron_expr", nullable .text row.2.content.cronExpr),
    ("scheduled_for", .instant row.2.scheduledFor),
    ("target_kind", .text row.2.content.targetKind),
    ("target_routing_key", nullable .text row.2.content.routingKey),
    ("attempts", .int row.2.attempts), ("max_attempts", .int row.2.maxAttempts),
    ("leased_until", nullable .instant row.2.leasedUntil),
    ("paused", truthValue d row.2.paused), ("last_error", nullable .text row.2.lastError),
    ("created_at", .instant row.2.content.createdAt),
    ("delivered_at", nullable .instant row.2.deliveredAt),
    ("cancelled_at", nullable .instant row.2.cancelledAt),
    ("dead_lettered_at", nullable .instant row.2.deadLetteredAt)]

def columns (d : Dialect) : List (Column κ τ β) :=
  [⟨"schedule_id", true, true, .nothing⟩, ⟨"event_type", true, false, .nothing⟩,
    ⟨"payload", true, false, .nothing⟩, ⟨"trigger_kind", true, false, .nothing⟩,
    ⟨"cron_expr", false, false, .nothing⟩, ⟨"scheduled_for", true, false, .nothing⟩,
    ⟨"target_kind", true, false, .nothing⟩, ⟨"target_routing_key", false, false, .nothing⟩,
    ⟨"attempts", true, false, .fixed (.int 0)⟩, ⟨"max_attempts", true, false, .nothing⟩,
    ⟨"leased_until", false, false, .nothing⟩, ⟨"paused", true, false, .fixed (truthValue d false)⟩,
    ⟨"last_error", false, false, .nothing⟩, ⟨"created_at", true, false, .now⟩,
    ⟨"delivered_at", false, false, .nothing⟩, ⟨"cancelled_at", false, false, .nothing⟩,
    ⟨"dead_lettered_at", false, false, .nothing⟩]

def relation (d : Dialect) (serial : ℕ) (t : Schedules κ τ (Content τ β)) : Relation κ τ β :=
  ⟨columns d, serial, t.rows.map (encode d)⟩

variable [DecidableEq κ] [LinearOrder τ]

abbrev bind (e : Engine κ τ δ) (bound : List (Bound κ τ β δ)) : Session κ τ β δ :=
  e.session "schedule_id" bound

/-! ## Conditions -/

section Conditions

variable (e : Engine κ τ δ) (bound : List (Bound κ τ β δ)) (table : String) (row : Stored κ τ β)

abbrev scopeOf : Scope κ τ β := ⟨table, encode e.dialect row, none⟩

theorem selects_isOpen :
    (isOpen none).selects (bind e bound) (scopeOf e table row) = some row.2.isOpen := by
  have delivered : (scopeOf e table row).column "delivered_at" =
      some (nullable .instant row.2.deliveredAt) := rfl
  have cancelled : (scopeOf e table row).column "cancelled_at" =
      some (nullable .instant row.2.cancelledAt) := rfl
  have deadLettered : (scopeOf e table row).column "dead_lettered_at" =
      some (nullable .instant row.2.deadLetteredAt) := rfl
  simp [isOpen, Term.eval, delivered, cancelled, deadLettered, Row.isOpen, Bool.and_assoc]

variable {e bound table row} in
theorem selects_isOpen_and {c : Cond} {b : Bool}
    (h : c.selects (bind e bound) (scopeOf e table row) = some b) :
    (isOpen (some c)).selects (bind e bound) (scopeOf e table row) = some (row.2.isOpen && b) := by
  have delivered : (scopeOf e table row).column "delivered_at" =
      some (nullable .instant row.2.deliveredAt) := rfl
  have cancelled : (scopeOf e table row).column "cancelled_at" =
      some (nullable .instant row.2.cancelledAt) := rfl
  have deadLettered : (scopeOf e table row).column "dead_lettered_at" =
      some (nullable .instant row.2.deadLetteredAt) := rfl
  simp [isOpen, Term.eval, delivered, cancelled, deadLettered, h, Row.isOpen, Bool.and_assoc]

theorem selects_isPaused (b : Bool) :
    (isPaused e.dialect b).selects (bind e bound) (scopeOf e table row) =
      some (row.2.paused == b) := by
  obtain ⟨k, content, scheduledFor, attempts, maxAttempts, leasedUntil, paused, rest⟩ := row
  obtain ⟨dialect, now, later, locked⟩ := e
  cases dialect <;> cases b <;> cases paused <;> rfl

theorem selects_isUnleased :
    isUnleased.selects (bind e bound) (scopeOf e table row) = some (row.2.isUnleased e.now) := by
  have passed : isUnleased.selects (bind e bound) (scopeOf e table row) =
      some (row.2.leasedUntil.all fun deadline => decide (deadline ≤ e.now)) := selects_passed rfl
  rw [passed, Row.isUnleased]
  cases row.2.leasedUntil <;> rfl

variable {bound} in
theorem selects_isId {i : ℕ} {id : κ}
    (key : (bind e bound).at i = some (.one (.key id))) :
    (isId i).selects (bind e bound) (scopeOf e table row) = some (decide (row.1 = id)) := by
  have column : (scopeOf e table row).column "schedule_id" = some (.key row.1) := rfl
  simp [isId, Term.eval, column, key]

variable {e bound table row} in
theorem selects_isId_and {i : ℕ} {id : κ} {c : Cond} {b : Bool}
    (key : (bind e bound).at i = some (.one (.key id)))
    (h : c.selects (bind e bound) (scopeOf e table row) = some b) :
    (Cond.both (isId i) c).selects (bind e bound) (scopeOf e table row) =
      some (decide (row.1 = id) && b) := by
  simp [selects_isId e table row key, h]

variable {bound} in
theorem selects_isHeld {i j : ℕ} {id : κ} {lease : τ}
    (key : (bind e bound).at i = some (.one (.key id)))
    (held : (bind e bound).at j = some (.one (.instant lease))) :
    (isHeld i j).selects (bind e bound) (scopeOf e table row) =
      some (decide (row.1 = id) && (decide (row.2.leasedUntil = some lease) && row.2.isOpen)) := by
  have column : (scopeOf e table row).column "leased_until" =
      some (nullable .instant row.2.leasedUntil) := rfl
  have same : row.2.leasedUntil.any (fun u => decide (u = lease)) =
      decide (row.2.leasedUntil = some lease) := by
    cases row.2.leasedUntil <;> simp
  have opened := selects_isOpen e bound table row
  refine selects_isId_and key ?_
  simp [opened, Term.eval, column, held, Comparison.holds, same]

theorem selects_resumable :
    (Cond.both (isPaused e.dialect true) (isOpen none)).selects (bind e bound)
      (scopeOf e table row) = some (row.2.paused && row.2.isOpen) := by
  have paused := selects_isPaused e bound table row true
  have opened := selects_isOpen e bound table row
  simp [paused, opened]

theorem selects_isEligible :
    (isEligible e.dialect).selects (bind e bound) (scopeOf e table row) =
      some (row.2.isEligible e.now) := by
  have due : (scopeOf e table row).column "scheduled_for" =
      some (.instant row.2.scheduledFor) := rfl
  have counter : (scopeOf e table row).column "attempts" = some (.int row.2.attempts) := rfl
  have budget : (scopeOf e table row).column "max_attempts" = some (.int row.2.maxAttempts) := rfl
  have paused := selects_isPaused e bound table row false
  have unleased := selects_isUnleased e bound table row
  have guarded := selects_isOpen_and (show (Cond.both (isPaused e.dialect false)
      (.both (.compare .lt (.column "attempts") (.column "max_attempts")) isUnleased)).selects
        (bind e bound) (scopeOf e table row) =
      some (!row.2.paused && (decide (row.2.attempts < row.2.maxAttempts) &&
        row.2.isUnleased e.now)) by
    simp [paused, unleased, Term.eval, counter, budget, Comparison.holds])
  simp [isEligible, guarded, Term.eval, due, Comparison.holds, Row.isEligible, Bool.and_assoc]

theorem selects_isExhausted :
    (isExhausted e.dialect).selects (bind e bound) (scopeOf e table row) =
      some (row.2.isExhausted e.now) := by
  have counter : (scopeOf e table row).column "attempts" = some (.int row.2.attempts) := rfl
  have budget : (scopeOf e table row).column "max_attempts" = some (.int row.2.maxAttempts) := rfl
  have paused := selects_isPaused e bound table row false
  have unleased := selects_isUnleased e bound table row
  have guarded := selects_isOpen_and (show (Cond.both (isPaused e.dialect false)
      (.both (.compare .ge (.column "attempts") (.column "max_attempts")) isUnleased)).selects
        (bind e bound) (scopeOf e table row) =
      some (!row.2.paused && (decide (row.2.maxAttempts ≤ row.2.attempts) &&
        row.2.isUnleased e.now)) by
    simp [paused, unleased, Term.eval, counter, budget, Comparison.holds])
  rw [isExhausted, guarded, Row.isExhausted, Bool.and_assoc, Bool.and_assoc]

end Conditions

/-! ## Guarded updates -/

section Updates

variable {e : Engine κ τ δ} {db : Database κ τ β} {table : String} {serial : ℕ}
  {t : Schedules κ τ (Content τ β)}

/-- What a guarded update of one row does, from its condition and its assignments. -/
theorem exec_updateById {bound : List (Bound κ τ β δ)} {text : String} {c : Cond}
    {sets : List (String × Term)} {id : κ}
    {p : SchedulerStatements.Row τ (Content τ β) → Bool}
    {f : SchedulerStatements.Row τ (Content τ β) → SchedulerStatements.Row τ (Content τ β)}
    (stored : db table = some (relation e.dialect serial t))
    (spelled : parse (LibrarySqlText.lex text) = some (update table sets c))
    (selected : ∀ row : Stored κ τ β, c.selects (bind e bound) (scopeOf e table row) =
      some (decide (row.1 = id) && p row.2))
    (written : ∀ row : Stored κ τ β, assign (bind e bound) (scopeOf e table row)
      (encode e.dialect row) sets = some (encode e.dialect (row.1, f row.2))) :
    execText (bind e bound) db text =
      .ok (db.set table (relation e.dialect serial (updateById t id p f).1),
        ⟨t.affected fun k r => decide (k = id) && p r, []⟩) := by
  rw [execText_of_parse spelled]
  exact exec_update_where stored (fun row _ => selected row) fun row _ _ => written row

variable (e) (stored : db table = some (relation e.dialect serial t)) (id : κ) (lease : τ)

def heldBy (k : κ) (r : SchedulerStatements.Row τ (Content τ β)) : Bool :=
  decide (k = id) && (decide (r.leasedUntil = some lease) && r.isOpen)

include stored

theorem exec_markDelivered :
    execText (bind e [.one (.key id), .one (.instant lease)]) db
        (markDeliveredSql e.dialect table) =
      .ok (db.set table (relation e.dialect serial (markDelivered e.now t id lease).1),
        ⟨t.affected (heldBy id lease), []⟩) := by
  refine exec_updateById stored (parse_markDeliveredSql e.dialect table)
    (fun row => selects_isHeld e table row rfl rfl) fun row => ?_
  obtain ⟨dialect, now, later, locked⟩ := e
  cases dialect <;> rfl

theorem exec_reschedule (next : τ) :
    execText (bind e [.one (.instant next), .one (.key id), .one (.instant lease)]) db
        (rescheduleSql e.dialect table) =
      .ok (db.set table (relation e.dialect serial (reschedule next t id lease).1),
        ⟨t.affected (heldBy id lease), []⟩) := by
  refine exec_updateById stored (parse_rescheduleSql e.dialect table)
    (fun row => selects_isHeld e table row rfl rfl) fun row => ?_
  obtain ⟨dialect, now, later, locked⟩ := e
  cases dialect <;> rfl

theorem exec_markFailed (retryIn : δ) (error : String) :
    execText (bind e [.span retryIn, .one (.text error), .one (.key id), .one (.instant lease)]) db
        (markFailedSql e.dialect table) =
      .ok (db.set table
          (relation e.dialect serial (markFailed (e.later retryIn) error t id lease).1),
        ⟨t.affected (heldBy id lease), []⟩) := by
  refine exec_updateById stored (parse_markFailedSql e.dialect table)
    (fun row => selects_isHeld e table row rfl rfl) fun row => ?_
  obtain ⟨dialect, now, later, locked⟩ := e
  cases dialect <;> rfl

theorem exec_markDeadLettered (error : String) :
    execText (bind e [.one (.text error), .one (.key id), .one (.instant lease)]) db
        (markDeadLetteredSql e.dialect table) =
      .ok (db.set table (relation e.dialect serial (markDeadLettered e.now error t id lease).1),
        ⟨t.affected (heldBy id lease), []⟩) := by
  refine exec_updateById stored (parse_markDeadLetteredSql e.dialect table)
    (fun row => selects_isHeld e table row rfl rfl) fun row => ?_
  obtain ⟨dialect, now, later, locked⟩ := e
  cases dialect <;> rfl

omit lease

theorem exec_cancel :
    execText (bind e [.one (.key id)]) db (cancelSql e.dialect table) =
      .ok (db.set table (relation e.dialect serial (cancel e.now t id).1),
        ⟨t.affected fun k r => decide (k = id) && r.isOpen, []⟩) := by
  refine exec_updateById stored (parse_cancelSql e.dialect table)
    (fun row => selects_isId_and rfl (selects_isOpen e _ table row)) fun row => ?_
  obtain ⟨dialect, now, later, locked⟩ := e
  cases dialect <;> rfl

theorem exec_setPaused (paused : Bool) :
    execText (bind e [.one (truthValue e.dialect paused), .one (.key id)]) db
        (setPausedSql e.dialect table) =
      .ok (db.set table (relation e.dialect serial (setPaused paused t id).1),
        ⟨t.affected fun k _ => decide (k = id) && true, []⟩) := by
  refine exec_updateById stored (parse_setPausedSql e.dialect table) (fun row => ?_) fun row => ?_
  · rw [Bool.and_true]
    exact selects_isId e table row rfl
  · obtain ⟨dialect, now, later, locked⟩ := e
    cases dialect <;> rfl

def resumable (k : κ) (r : SchedulerStatements.Row τ (Content τ β)) : Bool :=
  decide (k = id) && (r.paused && r.isOpen)

theorem exec_resumeWithNext (next : τ) :
    execText (bind e [.one (.instant next), .one (.key id)]) db
        (resumeWithNextSql e.dialect table) =
      .ok (db.set table (relation e.dialect serial (resumeWithNext next t id).1),
        ⟨t.affected (resumable id), []⟩) := by
  refine exec_updateById stored (parse_resumeWithNextSql e.dialect table)
    (fun row => selects_isId_and rfl (selects_resumable e _ table row)) fun row => ?_
  obtain ⟨dialect, now, later, locked⟩ := e
  cases dialect <;> rfl

theorem exec_resumeOnly :
    execText (bind e [.one (.key id)]) db (resumeOnlySql e.dialect table) =
      .ok (db.set table (relation e.dialect serial (resumeOnly t id).1),
        ⟨t.affected (resumable id), []⟩) := by
  refine exec_updateById stored (parse_resumeOnlySql e.dialect table)
    (fun row => selects_isId_and rfl (selects_resumable e _ table row)) fun row => ?_
  obtain ⟨dialect, now, later, locked⟩ := e
  cases dialect <;> rfl

theorem exec_replay :
    execText (bind e [.one (.key id)]) db (replaySql e.dialect table) =
      .ok (db.set table (relation e.dialect serial (replay e.now t id).1),
        ⟨t.affected fun k r => decide (k = id) && r.deadLetteredAt.isSome, []⟩) := by
  refine exec_updateById stored (parse_replaySql e.dialect table) (fun row => ?_) fun row => ?_
  · refine selects_isId_and rfl ?_
    have column : (scopeOf e table row).column "dead_lettered_at" =
        some (nullable .instant row.2.deadLetteredAt) := rfl
    simp only [selects_isNotNull, Term.eval, column, Option.map_some, isNull_nullable_instant,
      Option.not_isNone]
  · obtain ⟨dialect, now, later, locked⟩ := e
    cases dialect <;> rfl

theorem exec_deadLetterExhausted :
    execText (bind e [.one (.text deadLetterExhaustedMessage)]) db
        (deadLetterExhaustedSql e.dialect table) =
      .ok (db.set table (relation e.dialect serial (deadLetterExhausted e.now t).1),
        ⟨(deadLetterExhausted e.now t).2, []⟩) := by
  rw [execText_of_parse (parse_deadLetterExhaustedSql e.dialect table)]
  refine exec_update_where stored (fun row _ => selects_isExhausted e _ table row)
    fun row _ _ => ?_
  obtain ⟨dialect, now, later, locked⟩ := e
  cases dialect <;> rfl

end Updates

/-! ## Claims -/

def claimedValues (row : Stored κ τ β) : List (Value κ τ β) :=
  [.key row.1, .text row.2.content.eventType, .document row.2.content.payload,
    .text row.2.content.triggerKind, nullable .text row.2.content.cronExpr,
    .instant row.2.scheduledFor, .text row.2.content.targetKind,
    nullable .text row.2.content.routingKey, .int row.2.attempts, .int row.2.maxAttempts,
    nullable .instant row.2.leasedUntil]

def leased (deadline : τ) (r : SchedulerStatements.Row τ (Content τ β)) :
    SchedulerStatements.Row τ (Content τ β) :=
  { r with leasedUntil := some deadline, attempts := r.attempts + 1 }

section Claims

variable (e : Engine κ τ δ) {db : Database κ τ β} {table : String} {serial : ℕ}
  {t : Schedules κ τ (Content τ β)}

theorem chosen_due {bound : List (Bound κ τ β δ)} {terms : List Term} {position n : ℕ}
    (stored : db table = some (relation e.dialect serial t))
    (limit : (bind e bound).at position = some (.one (.int n))) :
    (dueQuery e.dialect table terms position).chosen (bind e bound) db =
      some ((dueRows e.now t (skipped e) n).map (encode e.dialect)) := by
  refine chosen_table stored (fun row _ => ?_) rfl (fun a b => rfl) rfl ?_
  · rw [← contains_skipped]
    exact Query.selects_of_condition rfl (selects_isEligible e bound table row)
  · simp [Term.eval, limit]

omit [LinearOrder τ] in
theorem assign_claim (lease : δ) (bound : List (Bound κ τ β δ))
    (partner : Option (String × LibrarySql.Row κ τ β)) (row : Stored κ τ β) :
    assign (bind e (.span lease :: bound)) ⟨table, encode e.dialect row, partner⟩
        (encode e.dialect row) claimSets =
      some (encode e.dialect (row.1, leased (e.later lease) row.2)) := by
  obtain ⟨dialect, now, later, locked⟩ := e
  cases dialect <;> rfl

def dueIds (t : Schedules κ τ (Content τ β)) (n : ℕ) : List κ :=
  (dueRows e.now t (skipped e) n).map Prod.fst

abbrev bindClaim (lease : δ) (n : ℕ) : Session κ τ β δ := bind e [.span lease, .one (.int n)]

theorem run_due (stored : db table = some (relation e.dialect serial t)) (lease : δ) (n : ℕ) :
    (dueQuery e.dialect table [.column "schedule_id"] 2).run (bindClaim e lease n) db =
      some ((dueIds e t n).map fun k => [.key k]) := by
  rw [run_of_chosen (chosen_due e stored rfl) fun row _ => rfl, dueIds, List.map_map]
  rfl

theorem exec_claim_of_rows {s : Session κ τ β δ} {source : Source} {filter : Filter}
    {returning : List Term} {partners : List (Option (String × LibrarySql.Row κ τ β))}
    {selects : Scope κ τ β → Option Bool}
    (stored : db table = some (relation e.dialect serial t)) (lease : δ) (n : ℕ)
    (asks : returning ≠ [])
    (joined : source.partners s db table = some partners)
    (compiled : filter.selects s db = some selects)
    (rows : ∀ row ∈ t.rows, updateRow s table claimSets returning partners selects
      (encode e.dialect row) = some (if (dueIds e t n).contains row.1 then
        (encode e.dialect (row.1, leased (e.later lease) row.2),
          some (claimedValues (row.1, leased (e.later lease) row.2)))
        else (encode e.dialect row, none))) :
    exec s db (.update table claimSets source filter returning) =
      .ok (db.set table
          (relation e.dialect serial (claimDue e.now (e.later lease) t (skipped e) n).1),
        ⟨(claimDue e.now (e.later lease) t (skipped e) n).2.length,
          (claimDue e.now (e.later lease) t (skipped e) n).2.map claimedValues⟩) := by
  have updated := execUpdate_table (p := fun k _ => (dueIds e t n).contains k)
    (f := leased (e.later lease)) claimedValues stored joined compiled rows
  have claimed : (claimDue e.now (e.later lease) t (skipped e) n).2 =
      (t.rows.filter fun row => (dueIds e t n).contains row.1).map
        fun row => (row.1, leased (e.later lease) row.2) := filter_updateWhere
  have filled : returning.isEmpty = false := by simpa using asks
  rw [exec, updated, claimed, filled, List.map_map, List.length_map, Table.affected,
    List.countP_eq_length_filter]
  rfl

theorem isYes_anyId (ids : List κ) (k : κ) :
    (anyTrue (ids.map fun i => (Truth.ofBool (decide (k = i))).and .yes)).isYes =
      ids.contains k := by
  rw [isYes_anyTrue, List.any_map, List.contains_eq_any_beq]
  refine List.any_congr rfl fun i => ?_
  rw [Function.comp_apply, isYes_and, isYes_ofBool]
  exact Bool.and_true _

theorem exec_claim_sqlite (sqlite : e.dialect = .sqlite)
    (stored : db table = some (relation e.dialect serial t)) (lease : δ) (n : ℕ) :
    execText (bindClaim e lease n) db (claimReturningSql e.dialect table) =
      .ok (db.set table
          (relation e.dialect serial (claimDue e.now (e.later lease) t (skipped e) n).1),
        ⟨(claimDue e.now (e.later lease) t (skipped e) n).2.length,
          (claimDue e.now (e.later lease) t (skipped e) n).2.map claimedValues⟩) := by
  have spelled : parse (LibrarySqlText.lex (claimReturningSql e.dialect table)) =
      some (.update table claimSets .nothing (.inQuery (.column "schedule_id")
        (dueQuery e.dialect table [.column "schedule_id"] 2)) (claimNames.map .column)) := by
    rw [sqlite]
    exact parse_claimReturningSql_sqlite table
  rw [execText_of_parse spelled]
  have truths : ∀ k : κ, ((dueIds e t n).map fun i => [(.key i : Value κ τ β)]).mapM
      (equalRows [.key k]) =
      some ((dueIds e t n).map fun i => (Truth.ofBool (decide (k = i))).and .yes) := by
    intro k
    refine mapM_map fun i _ => ?_
    simp [equalRows]
  refine exec_claim_of_rows e stored lease n (by simp [claimNames]) rfl
    (by rw [Filter.selects, run_due e stored lease n]; rfl) fun row _ => ?_
  refine updateRow_single ?_ (fun _ => assign_claim e lease _ none row) fun _ => rfl
  have id : (Term.column "schedule_id").eval (bindClaim e lease n)
      ⟨table, encode e.dialect row, none⟩ = some (.key row.1) := rfl
  simp only [id, Option.bind_eq_bind, Option.bind_some, truths]
  exact congrArg some (isYes_anyId (dueIds e t n) row.1)

theorem exec_claim_postgres (postgres : e.dialect = .postgres) (apart : table ≠ "due")
    (stored : db table = some (relation e.dialect serial t)) (lease : δ) (n : ℕ) :
    execText (bindClaim e lease n) db (claimReturningSql e.dialect table) =
      .ok (db.set table
          (relation e.dialect serial (claimDue e.now (e.later lease) t (skipped e) n).1),
        ⟨(claimDue e.now (e.later lease) t (skipped e) n).2.length,
          (claimDue e.now (e.later lease) t (skipped e) n).2.map claimedValues⟩) := by
  have spelled : parse (LibrarySqlText.lex (claimReturningSql e.dialect table)) =
      some (.update table claimSets
        (.query "due" (dueQuery e.dialect table [.column "schedule_id"] 2))
        (.holds (.compare .eq (.member table "schedule_id") (.member "due" "schedule_id")))
        (claimNames.map (.member table))) := by
    rw [postgres]
    exact parse_claimReturningSql_postgres table
  have joined : (Source.query "due" (dueQuery e.dialect table [.column "schedule_id"] 2)).partners
      (bindClaim e lease n) db table =
      some ((dueIds e t n).map fun k => some ("due", [("schedule_id", .key k)])) := by
    rw [Source.partners, if_neg apart.symm, run_due e stored lease n]
    exact congrArg some (List.map_map ..)
  rw [execText_of_parse spelled]
  refine exec_claim_of_rows e stored lease n (by simp [claimNames]) joined rfl fun row _ => ?_
  have own : ∀ (partner : LibrarySql.Row κ τ β) (stored : Stored κ τ β) (name : String),
      (Term.member table name).eval (bindClaim e lease n)
        ⟨table, encode e.dialect stored, some ("due", partner)⟩ =
      (encode e.dialect stored).lookup name := by
    intro partner stored name
    simp only [Term.eval, Scope.member, if_neg apart, if_true]
  rw [List.contains_eq_any_beq]
  refine updateRow_joined (fun k _ => ?_) (fun k => assign_claim e lease _ _ row) fun k => ?_
  · have mine : (encode e.dialect row).lookup "schedule_id" = some (.key row.1) := rfl
    have other : (Term.member "due" "schedule_id").eval (bindClaim e lease n)
        ⟨table, encode e.dialect row, some ("due", [("schedule_id", .key k)])⟩ =
        some (.key k) := rfl
    simp only [selects_compare, own, mine, other, Option.bind_some, apply_key, Option.map_some,
      isYes_ofBool]
    rfl
  · simp only [claimNames, List.map_cons, List.map_nil, List.mapM_cons, List.mapM_nil, own]
    rfl

/-- The name of the joined query hides a table of schedules of that name. -/
theorem exec_claim_hidden (postgres : e.dialect = .postgres) (bound : List (Bound κ τ β δ)) :
    execText (bind e bound) db (claimReturningSql e.dialect "due") = .error .malformed := by
  have joined : (Source.query "due"
      (dueQuery .postgres "due" [.column "schedule_id"] 2)).partners (bind e bound) db "due" =
      none := by
    rw [Source.partners, if_pos rfl]
  rw [postgres, execText_of_parse (parse_claimReturningSql_postgres "due"),
    claimReturningStatement, exec, execUpdate, joined]
  cases db "due" <;> rfl

/-! MySQL selects and locks the due rows, leases them by their identifiers and selects them
again. -/

def keyBounds (ids : List κ) : List (Bound κ τ β δ) := ids.map fun k => .one (.key k)

theorem mapM_ids {s : Session κ τ β δ} {scope : Scope κ τ β} (k : κ) (ids : List κ) (i : κ)
    (position : ℕ) (bound : ∀ j, s.at (position + j) = (keyBounds (i :: ids))[j]?) :
    ((Grammar.countedValues Term.param 1 position ids.length).map fun item => [item]).mapM
        (equalsRow s scope [.key k]) =
      some ((i :: ids).map fun i => (Truth.ofBool (decide (k = i))).and .yes) := by
  have first : equalsRow s scope [.key k] [.param position] =
      some ((Truth.ofBool (decide (k = i))).and .yes) := by
    have key : s.at position = some (.one (.key i)) := bound 0
    simp [equalsRow, Term.eval, key, equalRows]
  induction ids generalizing i position with
  | nil =>
    rw [List.length_nil, Grammar.countedValues, List.map_cons, List.mapM_cons, first]
    rfl
  | cons j rest ih =>
    have shifted : ∀ n, s.at (position + 1 + n) = (keyBounds (j :: rest))[n]? := by
      intro n
      rw [Nat.add_assoc, Nat.add_comm 1]
      exact bound (n + 1)
    have key : s.at (position + 1) = some (.one (.key j)) := shifted 0
    have others := ih j (position + 1) shifted (by simp [equalsRow, Term.eval, key, equalRows])
    rw [List.length_cons, Grammar.countedValues, List.map_cons, List.mapM_cons, first, others]
    rfl

theorem selects_isAmong {s : Session κ τ β δ} {position : ℕ} {i : κ} {ids : List κ}
    (bound : ∀ j, s.at (position + j) = (keyBounds (i :: ids))[j]?) (row : Stored κ τ β) :
    (isAmong position ids.length).selects s (scopeOf e table row) =
      some ((i :: ids).contains row.1) := by
  rw [isAmong, selects_among rfl (mapM_ids row.1 ids i position bound), ← isYes_anyTrue]
  exact congrArg some (isYes_anyId (i :: ids) row.1)

theorem exec_mysqlClaimSelect (mysql : e.dialect = .mysql)
    (stored : db table = some (relation e.dialect serial t)) (n : ℕ) :
    execText (bind e [.one (.int n)]) db (mysqlClaimSelectSql table) =
      .ok (db, ⟨(dueRows e.now t (skipped e) n).length,
        (dueRows e.now t (skipped e) n).map claimedValues⟩) := by
  rw [execText_of_parse (parse_mysqlClaimSelectSql table), ← mysql]
  exact exec_select_of_chosen (chosen_due e stored rfl) fun row _ => rfl

theorem exec_mysqlClaimUpdate (stored : db table = some (relation e.dialect serial t)) (lease : δ)
    (i : κ) (ids : List κ) :
    execText (bind e (.span lease :: keyBounds (i :: ids))) db
        (mysqlClaimUpdateSql table (ids.length + 1)) =
      .ok (db.set table (relation e.dialect serial
          (t.updateWhere (fun k _ => (i :: ids).contains k) (leased (e.later lease)))),
        ⟨t.affected fun k _ => (i :: ids).contains k, []⟩) := by
  rw [execText_of_parse (parse_mysqlClaimUpdateSql table ids.length)]
  refine exec_update_where stored (fun row _ => selects_isAmong e (fun j => ?_) row)
    fun row _ _ => assign_claim e lease _ none row
  rw [Nat.add_comm]
  rfl

theorem exec_mysqlClaimReselect (stored : db table = some (relation e.dialect serial t))
    (i : κ) (ids : List κ) :
    execText (bind e (keyBounds (i :: ids))) db (mysqlClaimReselectSql table (ids.length + 1)) =
      .ok (db, ⟨(t.rows.filter fun row => (i :: ids).contains row.1).length,
        (t.rows.filter fun row => (i :: ids).contains row.1).map claimedValues⟩) := by
  rw [execText_of_parse (parse_mysqlClaimReselectSql table ids.length)]
  refine exec_select_of_chosen (chosen_unordered stored (fun row _ => ?_) rfl rfl) fun row _ => rfl
  have bound : ∀ j, (bind e (keyBounds (i :: ids)) : Session κ τ β δ).at (1 + j) =
      (keyBounds (i :: ids))[j]? := by
    intro j
    rw [Nat.add_comm]
    rfl
  rw [Query.selects_of_condition rfl (selects_isAmong e bound row)]
  exact congrArg some (Bool.and_true _)

end Claims

/-! ## Insertions and reads -/

def snapshotValues (d : Dialect) (row : Stored κ τ β) : List (Value κ τ β) :=
  [.key row.1, .text row.2.content.triggerKind, nullable .text row.2.content.cronExpr,
    .instant row.2.scheduledFor, .int row.2.attempts, .int row.2.maxAttempts,
    truthValue d row.2.paused, nullable .text row.2.lastError,
    nullable .instant row.2.deliveredAt, nullable .instant row.2.cancelledAt,
    nullable .instant row.2.deadLetteredAt]

section Reads

variable (e : Engine κ τ δ) {db : Database κ τ β} {table : String} {serial : ℕ}
  {t : Schedules κ τ (Content τ β)}

theorem exec_inspect (stored : db table = some (relation e.dialect serial t)) (id : κ) :
    execText (bind e [.one (.key id)]) db (inspectSql e.dialect table) =
      .ok (db, ⟨(t.rows.filter fun row => decide (row.1 = id)).length,
        (t.rows.filter fun row => decide (row.1 = id)).map (snapshotValues e.dialect)⟩) := by
  rw [execText_of_parse (parse_inspectSql e.dialect table)]
  refine exec_select_of_chosen (chosen_unordered stored (fun row _ => ?_) rfl rfl) fun row _ => rfl
  rw [Query.selects_of_condition rfl (selects_isId e table row rfl)]
  exact congrArg some (Bool.and_true _)

theorem exec_exists (stored : db table = some (relation e.dialect serial t)) (id : κ) :
    execText (bind e [.one (.key id)]) db (existsSql e.dialect table) =
      .ok (db, ⟨(t.rows.filter fun row => decide (row.1 = id)).length,
        (t.rows.filter fun row => decide (row.1 = id)).map fun _ => [.int 1]⟩) := by
  rw [execText_of_parse (parse_existsSql e.dialect table)]
  refine exec_select_of_chosen (chosen_unordered stored (fun row _ => ?_) rfl rfl) fun row _ => rfl
  rw [Query.selects_of_condition rfl (selects_isId e table row rfl)]
  exact congrArg some (Bool.and_true _)

def pendingRows (t : Schedules κ τ (Content τ β)) (n : ℕ) : List (Stored κ τ β) :=
  t.select (fun row => row.2.isOpen) (fun a b => compare a.2.scheduledFor b.2.scheduledFor) n

theorem exec_listPending (stored : db table = some (relation e.dialect serial t)) (n : ℕ) :
    execText (bind e [.one (.int n)]) db (listPendingSql e.dialect table) =
      .ok (db, ⟨(pendingRows t n).length,
        (pendingRows t n).map (snapshotValues e.dialect)⟩) := by
  rw [execText_of_parse (parse_listPendingSql e.dialect table)]
  refine exec_select_of_chosen (chosen_table stored (fun row _ => ?_) rfl (fun a b => rfl) rfl rfl)
    fun row _ => rfl
  rw [Query.selects_of_condition rfl (selects_isOpen e _ table row)]
  exact congrArg some (Bool.and_true _)

def byDeadLettered (a b : Stored κ τ β) : Ordering :=
  match a.2.deadLetteredAt, b.2.deadLetteredAt with
  | some t, some u => (compare t u).swap
  | _, _ => .eq

def deadLetterRows (t : Schedules κ τ (Content τ β)) (n : ℕ) : List (Stored κ τ β) :=
  t.select (fun row => row.2.deadLetteredAt.isSome) byDeadLettered n

theorem exec_listDeadLetter (stored : db table = some (relation e.dialect serial t)) (n : ℕ) :
    execText (bind e [.one (.int n)]) db (listDeadLetterSql e.dialect table) =
      .ok (db, ⟨(deadLetterRows t n).length,
        (deadLetterRows t n).map (snapshotValues e.dialect)⟩) := by
  rw [execText_of_parse (parse_listDeadLetterSql e.dialect table)]
  refine exec_select_of_chosen (chosen_table stored (fun row _ => ?_) rfl (fun a b => ?_) rfl rfl)
    fun row _ => rfl
  · have chosen : (Cond.isNotNull (.column "dead_lettered_at")).selects
        (bind e [.one (.int n)]) (scopeOf e table row) = some row.2.deadLetteredAt.isSome := by
      have column : (scopeOf e table row).column "dead_lettered_at" =
          some (nullable .instant row.2.deadLetteredAt) := rfl
      simp only [selects_isNotNull, Term.eval, column, Option.map_some, isNull_nullable_instant,
        Option.not_isNone]
    rw [Query.selects_of_condition rfl chosen]
    exact congrArg some (Bool.and_true _)
  · have column : ∀ row : Stored κ τ β, (encode e.dialect row).lookup "dead_lettered_at" =
        some (nullable .instant row.2.deadLetteredAt) := fun _ => rfl
    simp only [compareBy, column, byDeadLettered]
    cases a.2.deadLetteredAt <;> cases b.2.deadLetteredAt <;> rfl

def given (id : κ) (content : Content τ β) (scheduledFor : τ) (maxAttempts : ℤ) :
    LibrarySql.Row κ τ β :=
  [("schedule_id", .key id), ("event_type", .text content.eventType),
    ("payload", .document content.payload), ("trigger_kind", .text content.triggerKind),
    ("cron_expr", nullable .text content.cronExpr), ("scheduled_for", .instant scheduledFor),
    ("target_kind", .text content.targetKind),
    ("target_routing_key", nullable .text content.routingKey),
    ("max_attempts", .int maxAttempts)]

theorem store_given (bound : List (Bound κ τ β δ)) (id : κ) {content : Content τ β}
    (scheduledFor : τ) (maxAttempts : ℤ) (created : content.createdAt = e.now) :
    (relation e.dialect serial t).store (bind e bound) (given id content scheduledFor maxAttempts) =
      match SchedulerStatements.insert t id content scheduledFor maxAttempts with
      | some t' => .ok (relation e.dialect (serial + 1) t')
      | none => .error (.duplicate "schedule_id") := by
  have filled : (relation e.dialect serial t).filled (bind e bound)
      (given id content scheduledFor maxAttempts) =
      encode e.dialect (id, .fresh content scheduledFor maxAttempts) := by
    rw [encode, SchedulerStatements.Row.fresh, created]
    rfl
  have complete : ((columns e.dialect).find? fun column : Column κ τ β => column.required &&
      ((encode e.dialect (id, .fresh content scheduledFor maxAttempts)).lookup
        column.name).any Value.isNull) = none := by
    cases e.dialect <;> rfl
  rw [Relation.store_of_complete filled rfl complete]
  have unique : ((columns e.dialect).find? fun column : Column κ τ β => column.unique &&
      ((encode e.dialect (id, .fresh content scheduledFor maxAttempts)).lookup column.name).any
        (isTaken (t.rows.map (encode e.dialect)) column.name)) =
      if isTaken (t.rows.map (encode e.dialect)) "schedule_id" (.key id) then
        some ⟨"schedule_id", true, true, .nothing⟩ else none := by
    change (match isTaken (t.rows.map (encode e.dialect)) "schedule_id" (.key id) with
      | true => _ | false => _) = _
    cases isTaken (t.rows.map (encode e.dialect)) "schedule_id" (.key id) <;> rfl
  have keys : isTaken (t.rows.map (encode e.dialect)) "schedule_id" (.key id) =
      decide (id ∈ t.rows.map Prod.fst) := isTaken_map (fun _ => rfl) id
  simp only [relation, unique, keys]
  unfold SchedulerStatements.insert Table.insert
  by_cases taken : id ∈ t.rows.map Prod.fst
  · simp only [taken, decide_true, if_true, dif_pos]
  · simp only [taken, decide_false, Bool.false_eq_true, if_false, dif_neg, not_false_eq_true,
      List.map_append]
    rfl

abbrev insertBounds (id : κ) (content : Content τ β) (scheduledFor : τ) (maxAttempts : ℤ) :
    List (Bound κ τ β δ) :=
  [.one (.key id), .one (.text content.eventType), .one (.document content.payload),
    .one (.text content.triggerKind), .one (nullable .text content.cronExpr),
    .one (.instant scheduledFor), .one (.text content.targetKind),
    .one (nullable .text content.routingKey), .one (.int maxAttempts)]

theorem exec_insert (stored : db table = some (relation e.dialect serial t)) (id : κ)
    {content : Content τ β} (scheduledFor : τ) (maxAttempts : ℤ)
    (created : content.createdAt = e.now) :
    execText (bind e (insertBounds id content scheduledFor maxAttempts)) db
        (insertSql e.dialect table) =
      match SchedulerStatements.insert t id content scheduledFor maxAttempts with
      | some t' => .ok (db.set table (relation e.dialect (serial + 1) t'), ⟨1, []⟩)
      | none => .error (.duplicate "schedule_id") := by
  have evaluated : (Rows.values ((List.range' 1 9).map .param) none).eval
      (bind e (insertBounds id content scheduledFor maxAttempts)) db =
      some [[.key id, .text content.eventType, .document content.payload,
        .text content.triggerKind, nullable .text content.cronExpr, .instant scheduledFor,
        .text content.targetKind, nullable .text content.routingKey, .int maxAttempts]] := rfl
  rw [execText_of_parse (parse_insertSql e.dialect table), exec]
  have row :
      (relation e.dialect serial t).store _ (given id content scheduledFor maxAttempts) = _ :=
    store_given e (insertBounds id content scheduledFor maxAttempts) id scheduledFor maxAttempts
      created
  cases inserted : SchedulerStatements.insert t id content scheduledFor maxAttempts with
  | none =>
    rw [inserted] at row
    exact execInsert_refused stored evaluated rfl row
  | some t' =>
    rw [inserted] at row
    exact execInsert_stored stored evaluated rfl row

end Reads

end SchedulerSqlExecution
