import Hexeract.OutboxSql
import Hexeract.OutboxWorkers

/-! # The SQL outbox store, run on its texts

The outbox and the dead-letter table as a database stores them, the store's operations as
they bind and issue their statements, and what each of them does to the keyed tables. -/
namespace OutboxSqlExecution

open LibraryCollections LibraryTables LibrarySql SqlDialect OutboxSql
open OutboxStatements hiding Row
open OutboxWorkers (bindableClaims)

structure Content (κ τ β : Type) where
  eventType : String
  payload : β
  subjectId : Option κ
  createdAt : τ

abbrev Outbox (κ τ β : Type) := Table κ (OutboxStatements.Row τ (Content κ τ β))

abbrev DeadLetters (κ τ β : Type) := Table κ (DeadLetter (Content κ τ β))

variable {κ τ β δ : Type}

/-! ## Rows as they are stored -/

def encode (row : κ × OutboxStatements.Row τ (Content κ τ β)) : LibrarySql.Row κ τ β :=
  [("id", .int row.2.serial), ("event_id", .key row.1),
    ("event_type", .text row.2.content.eventType), ("payload", .document row.2.content.payload),
    ("subject_id", nullable .key row.2.content.subjectId),
    ("created_at", .instant row.2.content.createdAt), ("attempts", .int row.2.attempts),
    ("last_error", nullable .text row.2.lastError),
    ("next_retry_at", nullable .instant row.2.nextRetryAt),
    ("delivered_at", nullable .instant row.2.deliveredAt)]

/-- The numbers of a sequence do not repeat, so that the primary key needs no check. -/
def columns : List (Column κ τ β) :=
  [⟨"id", true, false, .serial⟩, ⟨"event_id", true, true, .nothing⟩,
    ⟨"event_type", true, false, .nothing⟩, ⟨"payload", true, false, .nothing⟩,
    ⟨"subject_id", false, false, .nothing⟩, ⟨"created_at", true, false, .now⟩,
    ⟨"attempts", true, false, .fixed (.int 0)⟩, ⟨"last_error", false, false, .nothing⟩,
    ⟨"next_retry_at", false, false, .nothing⟩, ⟨"delivered_at", false, false, .nothing⟩]

def relation (serial : ℕ) (t : Outbox κ τ β) : Relation κ τ β :=
  ⟨columns, serial, t.rows.map encode⟩

def encodeDeadLetter (row : κ × DeadLetter (Content κ τ β)) : LibrarySql.Row κ τ β :=
  [("event_id", .key row.1), ("event_type", .text row.2.content.eventType),
    ("payload", .document row.2.content.payload),
    ("subject_id", nullable .key row.2.content.subjectId),
    ("created_at", .instant row.2.content.createdAt), ("attempts", .int row.2.attempts),
    ("last_error", .text row.2.lastError)]

def deadLetterColumns : List (Column κ τ β) :=
  [⟨"id", true, false, .serial⟩, ⟨"event_id", true, true, .nothing⟩,
    ⟨"event_type", true, false, .nothing⟩, ⟨"payload", true, false, .nothing⟩,
    ⟨"subject_id", false, false, .nothing⟩, ⟨"created_at", true, false, .nothing⟩,
    ⟨"attempts", true, false, .nothing⟩, ⟨"last_error", true, false, .nothing⟩,
    ⟨"exhausted_at", true, false, .now⟩]

def isCopied (name : String) : Bool := name != "id" && name != "exhausted_at"

def summary (row : LibrarySql.Row κ τ β) : LibrarySql.Row κ τ β :=
  row.filter fun entry => isCopied entry.1

structure ShowsDeadLetters (r : Relation κ τ β) (t : DeadLetters κ τ β) : Prop where
  columns : r.columns = deadLetterColumns
  rows : r.rows.map summary = t.rows.map encodeDeadLetter

section Columns

variable (row : κ × OutboxStatements.Row τ (Content κ τ β))

@[simp] theorem lookup_id : (encode row).lookup "id" = some (.int row.2.serial) := rfl

@[simp] theorem lookup_eventId : (encode row).lookup "event_id" = some (.key row.1) := rfl

@[simp] theorem lookup_attempts : (encode row).lookup "attempts" = some (.int row.2.attempts) :=
  rfl

@[simp] theorem lookup_nextRetryAt :
    (encode row).lookup "next_retry_at" = some (nullable .instant row.2.nextRetryAt) := rfl

@[simp] theorem lookup_deliveredAt :
    (encode row).lookup "delivered_at" = some (nullable .instant row.2.deliveredAt) := rfl

end Columns

/-! ## Statements -/

variable [DecidableEq κ] [LinearOrder τ]

abbrev bind (e : Engine κ τ δ) (bound : List (Bound κ τ β δ)) : Session κ τ β δ :=
  e.session "event_id" bound

section Fenced

variable (e : Engine κ τ δ) {db : Database κ τ β} {table : String} {serial : ℕ}
  {t : Outbox κ τ β} (stored : db table = some (relation serial t)) (eventId : κ) (attempt : ℤ)

theorem selects_fence {s : Session κ τ β δ} {i j : ℕ}
    (key : s.at i = some (.one (.key eventId))) (number : s.at j = some (.one (.int attempt)))
    (row : κ × OutboxStatements.Row τ (Content κ τ β)) :
    (fence i j).selects s ⟨table, encode row, none⟩ =
      some (Fence eventId attempt row.1 row.2) := by
  simp [fence, Term.eval, Scope.column, key, number, Comparison.apply, Comparison.holds, Fence,
    Bool.and_assoc]

include stored

theorem exec_markDelivered :
    execText (bind e [.one (.key eventId), .one (.int attempt)]) db
        (markDeliveredSql e.dialect table) =
      .ok (db.set table (relation serial (markDelivered e.now t eventId attempt).1),
        ⟨t.affected (Fence eventId attempt), []⟩) := by
  rw [execText_of_parse (parse_markDeliveredSql e.dialect table)]
  refine exec_update_where stored (fun row _ => selects_fence eventId attempt rfl rfl row) ?_
  intro row _ _
  rfl

theorem exec_markFailed (error : String) (retryIn : δ) :
    execText (bind e [.one (.text error), .span retryIn, .one (.key eventId), .one (.int attempt)])
        db (markFailedSql e.dialect table) =
      .ok (db.set table
          (relation serial (markFailed error (e.later retryIn) t eventId attempt).1),
        ⟨t.affected (Fence eventId attempt), []⟩) := by
  rw [execText_of_parse (parse_markFailedSql e.dialect table)]
  refine exec_update_where stored (fun row _ => selects_fence eventId attempt rfl rfl row) ?_
  intro row _ _
  rfl

theorem exec_deleteFromMain :
    execText (bind e [.one (.key eventId), .one (.int attempt)]) db
        (deleteFromMainSql e.dialect table) =
      .ok (db.set table (relation serial (deleteFromMain t eventId attempt).1),
        ⟨t.affected (Fence eventId attempt), []⟩) := by
  rw [execText_of_parse (parse_deleteFromMainSql e.dialect table)]
  exact exec_delete_where stored fun row _ => selects_fence eventId attempt rfl rfl row

end Fenced

section Poll

def polledValues (row : κ × OutboxStatements.Row τ (Content κ τ β)) : List (Value κ τ β) :=
  [.key row.1, .text row.2.content.eventType, .document row.2.content.payload,
    nullable .key row.2.content.subjectId, .instant row.2.content.createdAt,
    .int row.2.attempts, nullable .text row.2.lastError, nullable .instant row.2.nextRetryAt]

theorem selects_poll (e : Engine κ τ δ) (table : String) (bound limit : ℕ)
    (row : κ × OutboxStatements.Row τ (Content κ τ β)) :
    (pollQuery e.dialect table).selects
        (bind e [.one (.int bound), .one (.int limit)]) (encode row) =
      some (row.2.isPollable e.now bound && !(skipped e).contains row.1) := by
  have elapsed : row.2.isElapsed e.now =
      row.2.nextRetryAt.all fun instant => decide (instant ≤ e.now) := by
    unfold OutboxStatements.Row.isElapsed
    cases row.2.nextRetryAt <;> rfl
  have passed : (Cond.either (.isNull (.column "next_retry_at"))
      (.compare .le (.column "next_retry_at") .now)).selects
        (bind e [.one (.int bound), .one (.int limit)]) ⟨table, encode row, none⟩ =
      some (row.2.isElapsed e.now) := by
    rw [elapsed]
    exact selects_passed rfl
  have chosen : pollCond.selects (bind e [.one (.int bound), .one (.int limit)])
      ⟨table, encode row, none⟩ = some (row.2.isPollable e.now bound) := by
    simp [pollCond, passed, Term.eval, Scope.column, Comparison.holds,
      OutboxStatements.Row.isPollable, Bool.and_assoc]
  rw [← contains_skipped]
  exact Query.selects_of_condition rfl chosen

theorem exec_poll (e : Engine κ τ δ) {db : Database κ τ β} {table : String} {serial : ℕ}
    {t : Outbox κ τ β} (stored : db table = some (relation serial t)) (bound limit : ℕ) :
    execText (bind e [.one (.int bound), .one (.int limit)]) db (pollSql e.dialect table) =
      .ok (db, ⟨(poll e.now bound t (skipped e) limit).length,
        (poll e.now bound t (skipped e) limit).map polledValues⟩) := by
  rw [execText_of_parse (parse_pollSql e.dialect table)]
  refine exec_select_of_chosen (chosen_table stored
    (fun row _ => selects_poll e table bound limit row) rfl ?_ rfl rfl) fun row _ => rfl
  intro a b
  simp only [compareBy, lookup_id, Bool.false_eq_true, if_false]
  exact compare_natCast _ _

end Poll

section Claim

def pairBounds (claims : List (κ × ℤ)) : List (Bound κ τ β δ) :=
  claims.flatMap fun c => [.one (.key c.1), .one (.int c.2)]

def pairTruth (k : κ) (a : ℤ) (c : κ × ℤ) : Truth :=
  (Truth.ofBool (decide (k = c.1))).and ((Truth.ofBool (decide (a = c.2))).and .yes)

theorem equalsRow_pairTerms {s : Session κ τ β δ} {scope : Scope κ τ β} {position : ℕ}
    {c : κ × ℤ} (key : s.at position = some (.one (.key c.1)))
    (number : s.at (position + 1) = some (.one (.int c.2))) (k : κ) (a : ℤ) :
    equalsRow s scope [.key k, .int a] (pairTerms position) = some (pairTruth k a c) := by
  simp [equalsRow, pairTerms, Term.eval, key, number, equalRows, Comparison.holds, pairTruth]

theorem mapM_pairTerms {s : Session κ τ β δ} {scope : Scope κ τ β} (k : κ) (a : ℤ)
    (claims : List (κ × ℤ)) (c : κ × ℤ) (position : ℕ)
    (bound : ∀ i, s.at (position + i) = (pairBounds (c :: claims))[i]?) :
    (Grammar.countedValues pairTerms 2 position claims.length).mapM
        (equalsRow s scope [.key k, .int a]) =
      some ((c :: claims).map (pairTruth k a)) := by
  induction claims generalizing c position with
  | nil =>
    have key : s.at position = some (.one (.key c.1)) := bound 0
    rw [List.length_nil, Grammar.countedValues, List.mapM_cons,
      equalsRow_pairTerms key (bound 1)]
    rfl
  | cons d rest ih =>
    have key : s.at position = some (.one (.key c.1)) := bound 0
    have others := ih d (position + 2) fun i => by
      rw [Nat.add_assoc, Nat.add_comm 2]
      exact bound (i + 2)
    rw [List.length_cons, Grammar.countedValues, List.mapM_cons,
      equalsRow_pairTerms key (bound 1), others]
    rfl

theorem isYes_pairTruth (k : κ) (a : ℤ) (c : κ × ℤ) :
    (pairTruth k a c).isYes = decide ((k, a) = c) := by
  rw [pairTruth, isYes_and, isYes_and, isYes_ofBool, isYes_ofBool, Truth.isYes, Bool.and_true]
  simp [Prod.ext_iff]

theorem selects_claim {s : Session κ τ β δ} {table : String} {position : ℕ} {c : κ × ℤ}
    {claims : List (κ × ℤ)}
    (bound : ∀ i, s.at (position + i) = (pairBounds (c :: claims))[i]?)
    (row : κ × OutboxStatements.Row τ (Content κ τ β)) :
    (claimCond position claims.length).selects s ⟨table, encode row, none⟩ =
      some ((c :: claims).contains (row.1, row.2.attempts)) := by
  rw [claimCond, selects_among rfl
    (mapM_pairTerms row.1 row.2.attempts claims c position bound), List.any_map,
    List.contains_eq_any_beq]
  refine congrArg some (congrArg (List.any _) (funext fun c => ?_))
  rw [Function.comp_apply, isYes_pairTruth]
  exact (beq_eq_decide _ _).symm

def isClaimed (claims : List (κ × ℤ)) (k : κ)
    (r : OutboxStatements.Row τ (Content κ τ β)) : Bool :=
  claims.contains (k, r.attempts)

def stamped (deadline : τ) (r : OutboxStatements.Row τ (Content κ τ β)) :
    OutboxStatements.Row τ (Content κ τ β) :=
  { r with nextRetryAt := some deadline, attempts := r.attempts + 1 }

def takenIds (t : Outbox κ τ β) (claims : List (κ × ℤ)) : List κ :=
  (t.rows.filter fun row => isClaimed claims row.1 row.2).map Prod.fst

abbrev bindPairs (e : Engine κ τ δ) (lease : δ) (claims : List (κ × ℤ)) : Session κ τ β δ :=
  bind e (.span lease :: pairBounds claims)

variable (e : Engine κ τ δ) {db : Database κ τ β} {table : String} {serial : ℕ}
  {t : Outbox κ τ β}

omit [LinearOrder τ] in
theorem assign_claim (lease : δ) (bound : List (Bound κ τ β δ))
    (partner : Option (String × LibrarySql.Row κ τ β))
    (row : κ × OutboxStatements.Row τ (Content κ τ β)) :
    assign (bind e (.span lease :: bound)) ⟨table, encode row, partner⟩ (encode row) claimSets =
      some (encode (row.1, stamped (e.later lease) row.2)) := by
  obtain ⟨dialect, now, later, locked⟩ := e
  cases dialect <;> rfl

theorem exec_claimStatement (stored : db table = some (relation serial t)) (lease : δ)
    (c : κ × ℤ) (claims : List (κ × ℤ)) {ret : List Term}
    (read : κ × OutboxStatements.Row τ (Content κ τ β) → List (Value κ τ β))
    (returned : ∀ row, ret.mapM (Term.eval (bindPairs e lease (c :: claims))
      ⟨table, encode row, none⟩) = some (read row)) :
    exec (bindPairs e lease (c :: claims)) db
        (claimStatement table claims.length ret) =
      .ok (db.set table (relation serial (claim (e.later lease) t (c :: claims)).1),
        ⟨t.affected (isClaimed (c :: claims)), if ret.isEmpty then [] else
          (t.rows.filter fun row => isClaimed (c :: claims) row.1 row.2).map
            fun row => read (row.1, stamped (e.later lease) row.2)⟩) := by
  have rows : ∀ row ∈ t.rows, updateRow (bindPairs e lease (c :: claims)) table
      claimSets ret [none] ((claimCond 2 claims.length).selects (bindPairs e lease (c :: claims)))
      (encode row) =
      some (if isClaimed (c :: claims) row.1 row.2 then
        (encode (row.1, stamped (e.later lease) row.2),
          some (read (row.1, stamped (e.later lease) row.2)))
        else (encode row, none)) := by
    intro row _
    refine updateRow_single (selects_claim ?_ row) (fun _ => assign_claim e lease _ none row)
      fun _ => returned _
    intro i
    rw [Nat.add_comm]
    rfl
  have updated : execUpdate _ db table claimSets .nothing (.holds (claimCond 2 claims.length))
      ret = _ :=
    execUpdate_table read stored rfl rfl rows
  rw [claimStatement, exec, updated]
  rfl

theorem exec_claim_sqlite (sqlite : e.dialect = .sqlite)
    (stored : db table = some (relation serial t)) (lease : δ) (c : κ × ℤ)
    (claims : List (κ × ℤ)) :
    execText (bindPairs e lease (c :: claims)) db
        (claimSql e.dialect table (claims.length + 1)) =
      .ok (db.set table (relation serial (claim (e.later lease) t (c :: claims)).1),
        ⟨t.affected (isClaimed (c :: claims)),
          (takenIds t (c :: claims)).map fun k => [.key k]⟩) := by
  rw [sqlite, execText_of_parse (parse_claimSql_sqlite table claims.length),
    exec_claimStatement e stored lease c claims (fun row => [.key row.1]) fun row => rfl,
    takenIds, List.map_map]
  rfl

theorem exec_claim_mysql (mysql : e.dialect = .mysql)
    (stored : db table = some (relation serial t)) (lease : δ) (c : κ × ℤ)
    (claims : List (κ × ℤ)) :
    execText (bindPairs e lease (c :: claims)) db
        (claimSql e.dialect table (claims.length + 1)) =
      .ok (db.set table (relation serial (claim (e.later lease) t (c :: claims)).1),
        ⟨t.affected (isClaimed (c :: claims)), []⟩) := by
  rw [mysql, execText_of_parse (parse_claimSql_mysql table claims.length),
    exec_claimStatement e stored lease c claims (fun _ => []) fun row => rfl]
  rfl

theorem exec_claimCandidates (stored : db table = some (relation serial t)) (c : κ × ℤ)
    (claims : List (κ × ℤ)) :
    execText (bind e (pairBounds (c :: claims))) db
        (claimCandidatesSql .mysql table (claims.length + 1)) =
      .ok (db, ⟨(takenIds t (c :: claims)).length,
        (takenIds t (c :: claims)).map fun k => [.key k]⟩) := by
  rw [execText_of_parse (parse_claimCandidatesSql table claims.length)]
  have chosen : (claimCandidatesQuery table claims.length).chosen
      (bind e (pairBounds (c :: claims))) db =
        some ((t.rows.filter fun row => isClaimed (c :: claims) row.1 row.2).map encode) := by
    refine chosen_unordered stored (fun row _ => ?_) rfl rfl
    have bound : ∀ i, (bind e (pairBounds (c :: claims)) : Session κ τ β δ).at (1 + i) =
        (pairBounds (c :: claims))[i]? := by
      intro i
      rw [Nat.add_comm]
      rfl
    rw [Query.selects_of_condition rfl (selects_claim bound row)]
    exact congrArg some (Bool.and_true _)
  rw [exec_select_of_chosen chosen fun row _ => rfl, takenIds, List.map_map, List.length_map]
  rfl

def claimedRow (c : κ × ℤ) : LibrarySql.Row κ τ β :=
  [("claimed_event_id", .key c.1), ("claimed_attempts", .int c.2)]

abbrev bindArrays (e : Engine κ τ δ) (lease : δ) (claims : List (κ × ℤ)) : Session κ τ β δ :=
  bind e [.span lease, .many (claims.map fun c => .key c.1), .many (claims.map fun c => .int c.2)]

theorem selects_claimed {s : Session κ τ β δ} (c : κ × ℤ)
    (row : κ × OutboxStatements.Row τ (Content κ τ β)) :
    claimedCond.selects s ⟨table, encode row, some ("claimed", claimedRow c)⟩ =
      some ((row.1, row.2.attempts) == c) := by
  let scope : Scope κ τ β := ⟨table, encode row, some ("claimed", claimedRow c)⟩
  have ids : (Term.column "event_id").eval s scope = some (.key row.1) := rfl
  have numbers : (Term.column "attempts").eval s scope = some (.int row.2.attempts) := rfl
  have key : (Term.member "claimed" "claimed_event_id").eval s scope = some (.key c.1) := rfl
  have number : (Term.member "claimed" "claimed_attempts").eval s scope = some (.int c.2) := rfl
  simp only [claimedCond, selects_both, selects_compare, scope] at ids numbers key number ⊢
  simp only [ids, numbers, key, number, Option.bind_some, apply_key, apply_int, Option.map_some,
    isYes_ofBool, Comparison.holds]
  rfl

theorem exec_claim_postgres (postgres : e.dialect = .postgres) (apart : table ≠ "claimed")
    (stored : db table = some (relation serial t)) (lease : δ) (claims : List (κ × ℤ)) (n : ℕ) :
    execText (bindArrays e lease claims) db (claimSql e.dialect table n) =
      .ok (db.set table (relation serial (claim (e.later lease) t claims).1),
        ⟨t.affected (isClaimed claims), (takenIds t claims).map fun k => [.key k]⟩) := by
  rw [postgres, execText_of_parse (parse_claimSql_postgres table n)]
  have partners : claimedSource.partners (bindArrays e lease claims) db table =
      some (claims.map fun c => some ("claimed", claimedRow c)) := by
    rw [claimedSource, Source.partners, if_neg apart.symm]
    change some ((besides ["claimed_event_id", "claimed_attempts"]
      [claims.map fun c => .key c.1, claims.map fun c => .int c.2]).map
        fun row => some ("claimed", row)) = _
    rw [besides_pairs, List.map_map]
    rfl
  have rows : ∀ row ∈ t.rows, updateRow (bindArrays e lease claims) table claimSets
      [.column "event_id"] (claims.map fun c => some ("claimed", claimedRow c))
      (claimedCond.selects (bindArrays e lease claims)) (encode row) =
      some (if isClaimed claims row.1 row.2 then
        (encode (row.1, stamped (e.later lease) row.2), some [.key row.1])
        else (encode row, none)) := by
    intro row _
    rw [isClaimed, List.contains_eq_any_beq]
    exact updateRow_joined (fun c _ => selects_claimed c row)
      (fun c => assign_claim e lease _ _ row) fun _ => rfl
  have updated : execUpdate _ db table claimSets claimedSource (.holds claimedCond)
      [.column "event_id"] = _ :=
    execUpdate_table (fun row => [.key row.1]) stored partners rfl rows
  rw [claimArraysStatement, exec, updated, takenIds, List.map_map]
  rfl

/-- The alias of the bound pairs hides an outbox table of that name. -/
theorem exec_claim_hidden (postgres : e.dialect = .postgres) (bound : List (Bound κ τ β δ))
    (n : ℕ) : execText (bind e bound) db (claimSql e.dialect "claimed" n) = .error .malformed := by
  have joined : claimedSource.partners (bind e bound) db "claimed" = none := by
    rw [claimedSource, Source.partners, if_pos rfl]
  rw [postgres, execText_of_parse (parse_claimSql_postgres "claimed" n), claimArraysStatement, exec,
    execUpdate, joined]
  cases db "claimed" <;> rfl

end Claim

section Insert

theorem isTaken_eventId (t : Outbox κ τ β) (k : κ) :
    isTaken (t.rows.map encode) "event_id" (.key k) = decide (k ∈ t.rows.map Prod.fst) :=
  isTaken_map (fun _ => rfl) k

def given (eventId : κ) (content : Content κ τ β) : LibrarySql.Row κ τ β :=
  [("event_id", .key eventId), ("event_type", .text content.eventType),
    ("payload", .document content.payload), ("subject_id", nullable .key content.subjectId)]

theorem store_given (e : Engine κ τ δ) (bound : List (Bound κ τ β δ)) (serial : ℕ)
    (t : Outbox κ τ β) (eventId : κ) {content : Content κ τ β}
    (created : content.createdAt = e.now) :
    (relation serial t).store (bind e bound) (given eventId content) =
      match t.insert eventId (.fresh serial content) with
      | some t' => .ok (relation (serial + 1) t')
      | none => .error (.duplicate "event_id") := by
  have filled : (relation serial t).filled (bind e bound) (given eventId content) =
      encode (eventId, .fresh serial content) := by
    rw [encode, OutboxStatements.Row.fresh, created]
    rfl
  rw [Relation.store_of_complete filled rfl rfl]
  have unique : (columns.find? fun column : Column κ τ β => column.unique &&
      ((encode (eventId, .fresh serial content)).lookup column.name).any
        (isTaken (t.rows.map encode) column.name)) =
      if isTaken (t.rows.map encode) "event_id" (.key eventId) then
        some ⟨"event_id", true, true, .nothing⟩ else none := by
    change (match isTaken (t.rows.map encode) "event_id" (.key eventId) with
      | true => _ | false => _) = _
    cases isTaken (t.rows.map encode) "event_id" (.key eventId) <;> rfl
  simp only [relation, unique, isTaken_eventId]
  unfold Table.insert
  by_cases taken : eventId ∈ t.rows.map Prod.fst
  · simp only [taken, decide_true, if_true, dif_pos]
  · simp only [taken, decide_false, Bool.false_eq_true, if_false, dif_neg, not_false_eq_true,
      List.map_append]
    rfl

abbrev contentBounds (eventId : κ) (content : Content κ τ β) : List (Bound κ τ β δ) :=
  [.one (.key eventId), .one (.text content.eventType), .one (.document content.payload),
    .one (nullable .key content.subjectId)]

variable (e : Engine κ τ δ) {db : Database κ τ β} {table : String} {serial : ℕ}
  {t : Outbox κ τ β}

theorem exec_insert (stored : db table = some (relation serial t)) (eventId : κ)
    {content : Content κ τ β} (created : content.createdAt = e.now) :
    execText (bind e (contentBounds eventId content)) db (insertSql e.dialect table) =
      match t.insert eventId (.fresh serial content) with
      | some t' => .ok (db.set table (relation (serial + 1) t'), ⟨1, []⟩)
      | none => .error (.duplicate "event_id") := by
  have evaluated : (Rows.values [.param 1, .param 2, .param 3, .param 4] none).eval
      (bind e (contentBounds eventId content)) db =
      some [[.key eventId, .text content.eventType, .document content.payload,
        nullable .key content.subjectId]] := rfl
  rw [execText_of_parse (parse_insertSql e.dialect table), insertStatement, exec]
  have row := store_given e (contentBounds eventId content) serial t eventId created
  cases inserted : t.insert eventId (.fresh serial content) with
  | none =>
    rw [inserted] at row
    exact execInsert_refused stored evaluated rfl row
  | some t' =>
    rw [inserted] at row
    exact execInsert_stored stored evaluated rfl row

/-- MySQL's statement binds the event id once more, for the query. -/
abbrev idempotentBounds (d : Dialect) (eventId : κ) (content : Content κ τ β) :
    List (Bound κ τ β δ) :=
  [.one (.key eventId), .one (.text content.eventType), .one (.document content.payload)] ++
    match d with
    | .postgres | .sqlite => []
    | .mysql => [.one (.key eventId)]

theorem exec_insertIgnoring {bound : List (Bound κ τ β δ)}
    (stored : db table = some (relation serial t)) (eventId : κ) {content : Content κ τ β}
    (created : content.createdAt = e.now) (noSubject : content.subjectId = none) :
    exec (bind e ([.one (.key eventId), .one (.text content.eventType),
        .one (.document content.payload)] ++ bound)) db
        (.insert table eventColumns
          (.values [.param 1, .param 2, .param 3, .null] (some "event_id"))) =
      match t.insert eventId (.fresh serial content) with
      | some t' => .ok (db.set table (relation (serial + 1) t'), ⟨1, []⟩)
      | none => .ok (db, ⟨0, []⟩) := by
  have evaluated : (Rows.values [.param 1, .param 2, .param 3, .null] (some "event_id")).eval
      (bind e ([.one (.key eventId), .one (.text content.eventType),
        .one (.document content.payload)] ++ bound)) db =
      some [[.key eventId, .text content.eventType, .document content.payload,
        nullable .key content.subjectId]] := by
    rw [noSubject]
    rfl
  rw [exec]
  have row := store_given e ([.one (.key eventId), .one (.text content.eventType),
    .one (.document content.payload)] ++ bound) serial t eventId created
  cases inserted : t.insert eventId (.fresh serial content) with
  | none =>
    rw [inserted] at row
    exact Eq.trans (execInsert_refused stored evaluated rfl row) (if_pos rfl)
  | some t' =>
    rw [inserted] at row
    exact execInsert_stored stored evaluated rfl row

theorem run_exists {s : Session κ τ β δ} {i : ℕ} {k : κ}
    (stored : db table = some (relation serial t)) (key : s.at i = some (.one (.key k))) :
    (⟨[.number 1], table, some (.compare .eq (.column "event_id") (.param i)), none, none,
        false⟩ : Query).run s db =
      some ((t.rows.filter fun row => decide (row.1 = k)).map fun _ => [.int 1]) := by
  refine run_of_chosen (chosen_unordered stored (fun row _ => ?_) rfl rfl) fun row _ => rfl
  have chosen : (Cond.compare .eq (.column "event_id") (.param i)).selects s
      ⟨table, encode row, none⟩ = some (decide (row.1 = k)) := by
    simp [Term.eval, Scope.column, key]
  rw [Query.selects_of_condition rfl chosen]
  exact congrArg some (Bool.and_true _)

theorem exec_insertUnless (stored : db table = some (relation serial t)) (eventId : κ)
    {content : Content κ τ β} (created : content.createdAt = e.now)
    (noSubject : content.subjectId = none) :
    exec (bind e (idempotentBounds .mysql eventId content)) db
        (insertIdempotentStatement .mysql table) =
      match t.insert eventId (.fresh serial content) with
      | some t' => .ok (db.set table (relation (serial + 1) t'), ⟨1, []⟩)
      | none => .ok (db, ⟨0, []⟩) := by
  have found := run_exists (s := bind e (idempotentBounds .mysql eventId content)) (i := 4)
    (k := eventId) stored rfl
  have evaluated : (Rows.unless [.param 1, .param 2, .param 3, .null] ⟨[.number 1], table,
      some (.compare .eq (.column "event_id") (.param 4)), none, none, false⟩).eval
      (bind e (idempotentBounds .mysql eventId content)) db =
      some (if eventId ∈ t.rows.map Prod.fst then [] else [[.key eventId,
        .text content.eventType, .document content.payload,
        nullable .key content.subjectId]]) := by
    rw [noSubject]
    have rows : ((t.rows.filter fun row => decide (row.1 = eventId)).map
        fun _ => ([.int 1] : List (Value κ τ β))).isEmpty =
        decide (eventId ∉ t.rows.map Prod.fst) := by
      rw [List.isEmpty_map, filter_key, List.isEmpty_map, Bool.eq_iff_iff, decide_eq_true_eq,
        ← find_eq_none]
      cases t.find eventId <;> simp
    simp only [Rows.eval, found, Option.bind_eq_bind, Option.bind_some, rows, decide_eq_true_eq,
      ite_not]
    rfl
  simp only [insertIdempotentStatement, exec]
  by_cases taken : eventId ∈ t.rows.map Prod.fst
  · have refused : t.insert eventId (.fresh serial content) = none := by
      rw [insert_eq_none, ne_eq, find_eq_none, not_not]
      exact taken
    rw [if_pos taken] at evaluated
    rw [refused, execInsert_of_storeAll stored evaluated (by simp)]
    change Except.ok (db.set table (relation serial t), _) = _
    rw [Database.set_stored stored]
    rfl
  · have row := store_given e (idempotentBounds .mysql eventId content) serial t eventId created
    rw [if_neg taken] at evaluated
    cases inserted : t.insert eventId (.fresh serial content) with
    | none =>
      rw [insert_eq_none, ne_eq, find_eq_none, not_not] at inserted
      exact absurd inserted taken
    | some t' =>
      rw [inserted] at row
      exact execInsert_stored stored evaluated rfl row

theorem exec_insertIdempotent (stored : db table = some (relation serial t)) (eventId : κ)
    {content : Content κ τ β} (created : content.createdAt = e.now)
    (noSubject : content.subjectId = none) :
    execText (bind e (idempotentBounds e.dialect eventId content)) db
        (insertIdempotentSql e.dialect table) =
      match t.insert eventId (.fresh serial content) with
      | some t' => .ok (db.set table (relation (serial + 1) t'), ⟨1, []⟩)
      | none => .ok (db, ⟨0, []⟩) := by
  rw [execText_of_parse (parse_insertIdempotentSql e.dialect table)]
  cases e.dialect with
  | postgres | sqlite => exact exec_insertIgnoring e stored eventId created noSubject
  | mysql => exact exec_insertUnless e stored eventId created noSubject

end Insert

section DeadLetter

variable {e : Engine κ τ δ} {db : Database κ τ β} {main dlq : String} {serial : ℕ}
  {r : Relation κ τ β} {tables : Tables κ τ (Content κ τ β)}

omit [DecidableEq κ] [LinearOrder τ] in
theorem lookup_summary {name : String} (copied : isCopied name = true)
    (row : LibrarySql.Row κ τ β) : (summary row).lookup name = row.lookup name := by
  induction row with
  | nil => rfl
  | cons entry rest ih =>
    obtain ⟨n, v⟩ := entry
    rw [summary] at ih ⊢
    rw [List.filter_cons, List.lookup_cons]
    split
    · rw [List.lookup_cons, ih]
    · rename_i dropped
      have other : (name == n) = false := by
        rw [beq_eq_false_iff_ne]
        rintro rfl
        exact dropped copied
      rw [ih, other]

theorem isTaken_deadLetter {t : DeadLetters κ τ β} (shows : ShowsDeadLetters r t) (k : κ) :
    isTaken r.rows "event_id" (.key k) = decide (k ∈ t.rows.map Prod.fst) := by
  have same : isTaken r.rows "event_id" (.key k) =
      isTaken (t.rows.map encodeDeadLetter) "event_id" (.key k) := by
    rw [← shows.rows, isTaken, isTaken, List.any_map]
    refine congrArg (List.any _) (funext fun row => ?_)
    rw [Function.comp_apply, lookup_summary (by decide)]
  rw [same]
  exact isTaken_map (fun _ => rfl) k

def copiedValues (row : κ × OutboxStatements.Row τ (Content κ τ β)) : List (Value κ τ β) :=
  [.key row.1, .text row.2.content.eventType, .document row.2.content.payload,
    nullable .key row.2.content.subjectId, .instant row.2.content.createdAt,
    .int row.2.attempts, nullable .text row.2.lastError]

theorem run_copiedQuery (stored : db main = some (relation serial tables.main)) (eventId : κ) :
    (copiedQuery main).run (bind e [.one (.key eventId)]) db =
      some ((tables.main.find eventId).toList.map fun r => copiedValues (eventId, r)) := by
  have chosen : (copiedQuery main).chosen (bind e [.one (.key eventId)]) db =
      some ((tables.main.rows.filter fun row => decide (row.1 = eventId)).map encode) := by
    refine chosen_unordered stored (fun row _ => ?_) rfl rfl
    have selected : (Cond.compare .eq (.column "event_id") (.param 1)).selects
        (bind e [.one (.key eventId)]) ⟨main, encode row, none⟩ =
        some (decide (row.1 = eventId)) := by
      simp [Term.eval, Scope.column]
    rw [Query.selects_of_condition rfl selected]
    exact congrArg some (Bool.and_true _)
  have copied : (copiedQuery main).run (bind e [.one (.key eventId)]) db =
      some ((tables.main.rows.filter fun row => decide (row.1 = eventId)).map copiedValues) :=
    run_of_chosen chosen fun row _ => rfl
  rw [copied, filter_key, List.map_map]
  rfl

/-- The copy of a row, as the dead-letter table takes or refuses it. -/
theorem store_copy {t : DeadLetters κ τ β} (shows : ShowsDeadLetters r t)
    (bound : List (Bound κ τ β δ)) (k : κ) (row : OutboxStatements.Row τ (Content κ τ β)) :
    match row.lastError with
    | none => r.store (bind e bound) (copiedColumns.zip (copiedValues (k, row))) =
        .error (.missing "last_error")
    | some error =>
      match t.insert k ⟨row.content, row.attempts, error⟩ with
      | none => r.store (bind e bound) (copiedColumns.zip (copiedValues (k, row))) =
          .error (.duplicate "event_id")
      | some t' => ∃ r', r.store (bind e bound) (copiedColumns.zip (copiedValues (k, row))) =
          .ok r' ∧ ShowsDeadLetters r' t' := by
  have taken := isTaken_deadLetter shows k
  obtain ⟨columns, number, rows⟩ := r
  obtain ⟨rfl, shown⟩ := shows
  obtain ⟨serial, content, attempts, lastError, nextRetryAt, deliveredAt⟩ := row
  cases lastError with
  | none => rfl
  | some error =>
    let filled : LibrarySql.Row κ τ β := ("id", .int number) ::
      (encodeDeadLetter (k, ⟨content, attempts, error⟩) ++ [("exhausted_at", .instant e.now)])
    have unique : (deadLetterColumns.find? fun column : Column κ τ β => column.unique &&
        (filled.lookup column.name).any (isTaken rows column.name)) =
        if isTaken rows "event_id" (.key k) then
          some ⟨"event_id", true, true, .nothing⟩ else none := by
      change (match isTaken rows "event_id" (.key k) with | true => _ | false => _) = _
      cases isTaken rows "event_id" (.key k) <;> rfl
    have stored : (⟨deadLetterColumns, number, rows⟩ : Relation κ τ β).store (bind e bound)
        (copiedColumns.zip (copiedValues
          (k, ⟨serial, content, attempts, some error, nextRetryAt, deliveredAt⟩))) = _ :=
      Relation.store_of_complete (show Relation.filled _ _ _ = filled from rfl) rfl rfl
    simp only [unique, taken] at stored
    unfold Table.insert
    by_cases present : k ∈ t.rows.map Prod.fst
    · simp only [present, decide_true, if_true, dif_pos] at stored ⊢
      exact stored
    · simp only [present, decide_false, Bool.false_eq_true, if_false, dif_neg,
        not_false_eq_true] at stored ⊢
      refine ⟨_, stored, rfl, ?_⟩
      rw [List.map_append, List.map_append, shown]
      rfl

def databaseError : Failure → OutboxError
  | .malformed => .database "statement not accepted"
  | .missing column => .database ("null value in column " ++ column)
  | .duplicate column => .database ("duplicate key value in column " ++ column)

theorem exec_insertDeadLetter (stored : db main = some (relation serial tables.main))
    (target : db dlq = some r) (shows : ShowsDeadLetters r tables.deadLetter) (eventId : κ) :
    match insertDeadLetter tables eventId with
    | .error error => ∃ failure, databaseError failure = error ∧
        execText (bind e [.one (.key eventId)]) db (insertDeadLetterSql e.dialect main dlq) =
          .error failure
    | .ok deadLetter => ∃ r' outcome, ShowsDeadLetters r' deadLetter ∧
        execText (bind e [.one (.key eventId)]) db (insertDeadLetterSql e.dialect main dlq) =
          .ok (db.set dlq r', outcome) := by
  have evaluated : (Rows.query (copiedQuery main)).eval (bind e [.one (.key eventId)]) db = _ :=
    run_copiedQuery stored eventId
  rw [execText_of_parse (parse_insertDeadLetterSql e.dialect main dlq),
    insertDeadLetterStatement, exec, execInsert_of_storeAll target evaluated
      (by simp [copiedValues, copiedColumns])]
  unfold insertDeadLetter
  cases found : tables.main.find eventId with
  | none => exact ⟨r, _, shows, rfl⟩
  | some row =>
    have copied := store_copy (e := e) shows [.one (.key eventId)] eventId row
    simp only [Option.toList_some, List.map_cons, List.map_nil, Relation.storeAll]
    cases lastError : row.lastError with
    | none =>
      rw [lastError] at copied
      exact ⟨.missing "last_error", rfl, by rw [copied]; rfl⟩
    | some error =>
      rw [lastError] at copied
      cases inserted : tables.deadLetter.insert eventId ⟨row.content, row.attempts, error⟩ with
      | none =>
        simp only [inserted] at copied ⊢
        exact ⟨.duplicate "event_id", rfl, by rw [copied]; rfl⟩
      | some deadLetter =>
        simp only [inserted] at copied ⊢
        obtain ⟨r', copied, shows'⟩ := copied
        exact ⟨r', _, shows', by rw [copied]; rfl⟩

end DeadLetter

end OutboxSqlExecution
