import Hexeract.SqlDialect

/-! # The statement texts of the SQL outbox

Each text is read back as the statement it spells. The name of the table is arbitrary: it
stands between quotes, and nothing in it is read as SQL. -/
namespace OutboxSql

open LibrarySql LibrarySqlText SqlDialect
open OutboxStatements (Dialect)

/-! ## Texts -/

def pollSql (d : Dialect) (table : String) : String :=
  let qtable := quoteIdentifier d table
  let max_attempts := placeholder d 1
  let limit := placeholder d 2
  let now := nowExpr d
  let lock := if supportsSkipLocked d then " FOR UPDATE SKIP LOCKED" else ""
  "SELECT event_id, event_type, payload, subject_id, created_at, attempts, last_error, " ++
    s!"next_retry_at FROM {qtable} WHERE delivered_at IS NULL AND attempts < {max_attempts} " ++
    s!"AND (next_retry_at IS NULL OR next_retry_at <= {now}) ORDER BY id LIMIT {limit}{lock}"

def markDeliveredSql (d : Dialect) (table : String) : String :=
  let qtable := quoteIdentifier d table
  let event_id := placeholder d 1
  let claimed_attempt := placeholder d 2
  let now := nowExpr d
  s!"UPDATE {qtable} SET delivered_at = {now} WHERE event_id = {event_id} " ++
    s!"AND attempts = {claimed_attempt} AND delivered_at IS NULL"

def markFailedSql (d : Dialect) (table : String) : String :=
  let qtable := quoteIdentifier d table
  let last_error := placeholder d 1
  let next_retry_at := nowPlusIntervalExpr d 2
  let event_id := placeholder d 3
  let claimed_attempt := placeholder d 4
  s!"UPDATE {qtable} SET last_error = {last_error}, next_retry_at = {next_retry_at} " ++
    s!"WHERE event_id = {event_id} AND attempts = {claimed_attempt} AND delivered_at IS NULL"

def insertSql (d : Dialect) (table : String) : String :=
  let qtable := quoteIdentifier d table
  let p1 := placeholder d 1
  let p2 := placeholder d 2
  let p3 := placeholder d 3
  let p4 := placeholder d 4
  s!"INSERT INTO {qtable} (event_id, event_type, payload, subject_id) " ++
    s!"VALUES ({p1}, {p2}, {p3}, {p4})"

/-- MySQL has no conflict clause that names a column; it asks for the row first. -/
def insertIdempotentSql (d : Dialect) (table : String) : String :=
  let qtable := quoteIdentifier d table
  let p1 := placeholder d 1
  let p2 := placeholder d 2
  let p3 := placeholder d 3
  match d with
  | .postgres | .sqlite =>
    s!"INSERT INTO {qtable} (event_id, event_type, payload, subject_id) " ++
      s!"VALUES ({p1}, {p2}, {p3}, NULL) ON CONFLICT (event_id) DO NOTHING"
  | .mysql =>
    let p4 := placeholder d 4
    s!"INSERT INTO {qtable} (event_id, event_type, payload, subject_id) " ++
      s!"SELECT {p1}, {p2}, {p3}, NULL FROM DUAL " ++
      s!"WHERE NOT EXISTS (SELECT 1 FROM {qtable} WHERE event_id = {p4})"

def insertDeadLetterSql (d : Dialect) (main dlq : String) : String :=
  let qmain := quoteIdentifier d main
  let qdlq := quoteIdentifier d dlq
  let event_id := placeholder d 1
  s!"INSERT INTO {qdlq} " ++
    "(event_id, event_type, payload, subject_id, created_at, attempts, last_error) " ++
    "SELECT event_id, event_type, payload, subject_id, created_at, attempts, last_error " ++
    s!"FROM {qmain} WHERE event_id = {event_id}"

def deleteFromMainSql (d : Dialect) (table : String) : String :=
  let qtable := quoteIdentifier d table
  let event_id := placeholder d 1
  let claimed_attempt := placeholder d 2
  s!"DELETE FROM {qtable} WHERE event_id = {event_id} AND attempts = {claimed_attempt} " ++
    "AND delivered_at IS NULL"

def claimPairsFrom (d : Dialect) (first n : ℕ) : String :=
  ", ".intercalate ((List.range n).map fun row =>
    let event_id := placeholder d (first + row * 2)
    let attempts := placeholder d (first + row * 2 + 1)
    s!"({event_id}, {attempts})")

def claimSql (d : Dialect) (table : String) (n : ℕ) : String :=
  let qtable := quoteIdentifier d table
  let lease := nowPlusIntervalExpr d 1
  match d with
  | .postgres =>
    s!"UPDATE {qtable} SET next_retry_at = {lease}, attempts = attempts + 1 " ++
      "FROM UNNEST($2::uuid[], $3::int4[]) AS claimed(claimed_event_id, claimed_attempts) " ++
      "WHERE event_id = claimed.claimed_event_id AND attempts = claimed.claimed_attempts " ++
      "RETURNING event_id"
  | .mysql =>
    let pairs := claimPairsFrom d 2 n
    s!"UPDATE {qtable} SET next_retry_at = {lease}, attempts = attempts + 1 " ++
      s!"WHERE (event_id, attempts) IN ({pairs})"
  | .sqlite =>
    let pairs := claimPairsFrom d 2 n
    s!"UPDATE {qtable} SET next_retry_at = {lease}, attempts = attempts + 1 " ++
      s!"WHERE (event_id, attempts) IN (VALUES {pairs}) RETURNING event_id"

def claimCandidatesSql (d : Dialect) (table : String) (n : ℕ) : String :=
  let qtable := quoteIdentifier d table
  let pairs := claimPairsFrom d 1 n
  s!"SELECT event_id FROM {qtable} WHERE (event_id, attempts) IN ({pairs}) FOR UPDATE"

/-! ## What they spell -/

def fence (eventId attempt : ℕ) : Cond :=
  .both (.compare .eq (.column "event_id") (.param eventId))
    (.both (.compare .eq (.column "attempts") (.param attempt)) (.isNull (.column "delivered_at")))

def eventColumns : List String := ["event_id", "event_type", "payload", "subject_id"]

def pollCond : Cond :=
  .both (.isNull (.column "delivered_at"))
    (.both (.compare .lt (.column "attempts") (.param 1))
      (.either (.isNull (.column "next_retry_at")) (.compare .le (.column "next_retry_at") .now)))

def pollQuery (d : Dialect) (table : String) : Query where
  terms := ["event_id", "event_type", "payload", "subject_id", "created_at", "attempts",
    "last_error", "next_retry_at"].map .column
  table := table
  condition := some pollCond
  order := some ("id", false)
  limit := some (.param 2)
  skipLocked := supportsSkipLocked d

def markDeliveredStatement (table : String) : Statement :=
  .update table [("delivered_at", .now)] .nothing (.holds (fence 1 2)) []

def markFailedStatement (table : String) : Statement :=
  .update table [("last_error", .param 1), ("next_retry_at", .later 2)] .nothing
    (.holds (fence 3 4)) []

def deleteFromMainStatement (table : String) : Statement := .delete table (fence 1 2)

def insertStatement (table : String) : Statement :=
  .insert table eventColumns (.values [.param 1, .param 2, .param 3, .param 4] none)

/-- The event id is bound twice for MySQL, which asks for the row before it inserts. -/
def insertIdempotentStatement (d : Dialect) (table : String) : Statement :=
  .insert table eventColumns (match d with
    | .postgres | .sqlite => .values [.param 1, .param 2, .param 3, .null] (some "event_id")
    | .mysql => .unless [.param 1, .param 2, .param 3, .null]
        ⟨[.number 1], table, some (.compare .eq (.column "event_id") (.param 4)), none, none,
          false⟩)

def copiedColumns : List String :=
  ["event_id", "event_type", "payload", "subject_id", "created_at", "attempts", "last_error"]

def copiedQuery (main : String) : Query :=
  ⟨copiedColumns.map .column, main, some (.compare .eq (.column "event_id") (.param 1)), none,
    none, false⟩

def insertDeadLetterStatement (main dlq : String) : Statement :=
  .insert dlq copiedColumns (.query (copiedQuery main))

set_option maxRecDepth 20000

theorem parse_pollSql (d : Dialect) (table : String) :
    parse (lex (pollSql d table)) = some (.select (pollQuery d table)) := by
  unfold lex
  delta pollSql
  cases d
  all_goals
    simp only [String.toList_append, quoteIdentifier_toList, placeholder_toList, nowExpr,
      supportsSkipLocked, toString_string, List.append_assoc, if_true, Bool.false_eq_true, if_false]
    repeat rw [String.toList_ofList]
    rw [tokens_append_of_between rfl, tokens_append_of_between rfl, tokens_quoted _ _ rfl]
    rfl

theorem parse_markDeliveredSql (d : Dialect) (table : String) :
    parse (lex (markDeliveredSql d table)) = some (markDeliveredStatement table) := by
  unfold lex
  delta markDeliveredSql
  cases d
  all_goals
    simp only [String.toList_append, quoteIdentifier_toList, placeholder_toList, nowExpr,
      toString_string, List.append_assoc]
    repeat rw [String.toList_ofList]
    rw [tokens_append_of_between rfl, tokens_quoted _ _ rfl]
    rfl

theorem parse_markFailedSql (d : Dialect) (table : String) :
    parse (lex (markFailedSql d table)) = some (markFailedStatement table) := by
  unfold lex
  delta markFailedSql
  cases d
  all_goals
    simp only [String.toList_append, quoteIdentifier_toList, placeholder_toList,
      nowPlusIntervalExpr_toList, toString_string, List.append_assoc]
    repeat rw [String.toList_ofList]
    rw [tokens_append_of_between rfl, tokens_quoted _ _ rfl]
    rfl

theorem parse_deleteFromMainSql (d : Dialect) (table : String) :
    parse (lex (deleteFromMainSql d table)) = some (deleteFromMainStatement table) := by
  unfold lex
  delta deleteFromMainSql
  cases d
  all_goals
    simp only [String.toList_append, quoteIdentifier_toList, placeholder_toList, toString_string,
      List.append_assoc]
    repeat rw [String.toList_ofList]
    rw [tokens_append_of_between rfl, tokens_quoted _ _ rfl]
    rfl

theorem parse_insertSql (d : Dialect) (table : String) :
    parse (lex (insertSql d table)) = some (insertStatement table) := by
  unfold lex
  delta insertSql
  cases d
  all_goals
    simp only [String.toList_append, quoteIdentifier_toList, placeholder_toList, toString_string,
      List.append_assoc]
    repeat rw [String.toList_ofList]
    rw [tokens_append_of_between rfl, tokens_quoted _ _ rfl]
    rfl

theorem parse_insertIdempotentSql (d : Dialect) (table : String) :
    parse (lex (insertIdempotentSql d table)) = some (insertIdempotentStatement d table) := by
  unfold lex
  delta insertIdempotentSql
  cases d
  all_goals
    simp only [String.toList_append, quoteIdentifier_toList, placeholder_toList, toString_string,
      List.append_assoc]
    repeat rw [String.toList_ofList]
    -- MySQL names the table twice
    repeat first
      | rw [tokens_quoted _ _ rfl]
      | rw [tokens_append_of_between rfl]
      | rw [tokens_append_of_apart rfl rfl]
    rfl

theorem parse_insertDeadLetterSql (d : Dialect) (main dlq : String) :
    parse (lex (insertDeadLetterSql d main dlq)) = some (insertDeadLetterStatement main dlq) := by
  unfold lex
  delta insertDeadLetterSql
  cases d
  all_goals
    simp only [String.toList_append, quoteIdentifier_toList, placeholder_toList, toString_string,
      List.append_assoc]
    repeat rw [String.toList_ofList]
    rw [tokens_append_of_between rfl, tokens_quoted _ _ rfl]
    iterate 4 rw [tokens_append_of_between rfl]
    rw [tokens_quoted _ _ rfl]
    rfl

/-! ## Claims -/

def pair (position : ℕ) : List Token :=
  [.symbol '(', .marker (some position), .symbol ',', .marker (some (position + 1)), .symbol ')']

def pairTerms (position : ℕ) : List Term := [.param position, .param (position + 1)]

theorem reads_pair (fuel position : ℕ) (rest : List Token) :
    Grammar.parens (Grammar.list Grammar.term (fuel + 2)) (pair position ++ rest) =
      some (pairTerms position, rest) := rfl

def claimed : List Token :=
  [.symbol '(', .word "event_id", .symbol ',', .word "attempts", .symbol ')', .keyword .in,
    .symbol '(']

def claimCond (position n : ℕ) : Cond :=
  .among [.column "event_id", .column "attempts"]
    (Grammar.countedValues pairTerms 2 position n)

theorem rowAmong_pairs {fuel n : ℕ} (enough : n < fuel + 2) (position : ℕ) (rest : List Token)
    (values : Bool) :
    Grammar.rowAmong (fuel + 2) (claimed ++ ((if values then [.keyword .values] else []) ++
        (counted pair 2 position n ++ .symbol ')' :: rest))) =
      some (claimCond position n, rest) := by
  have keyword : optional (Grammar.keyword .values)
      ((if values then [.keyword .values] else []) ++
        (counted pair 2 position n ++ .symbol ')' :: rest)) =
      some (if values then some () else none,
        counted pair 2 position n ++ .symbol ')' :: rest) := by
    cases values <;> cases n <;> rfl
  have rows : Grammar.list (Grammar.parens (Grammar.list Grammar.term (fuel + 2))) (fuel + 2)
      (counted pair 2 position n ++ .symbol ')' :: rest) =
      some (Grammar.countedValues pairTerms 2 position n, .symbol ')' :: rest) :=
    Grammar.list_counted (reads_pair fuel) rfl enough position
  rw [Grammar.rowAmong, claimed]
  rw [Grammar.bind_some (p := Grammar.parens _) rfl]
  rw [Grammar.bind_some (p := Grammar.keyword .in) rfl]
  rw [Grammar.bind_some (p := Grammar.symbol '(') rfl]
  refine (Grammar.bind_some keyword).trans ?_
  exact (Grammar.bind_some rows).trans rfl

theorem claimPairsFrom_toList {d : Dialect} (counts : d ≠ .postgres) (first n : ℕ) :
    (claimPairsFrom d first n).toList =
      [',', ' '].intercalate (List.replicate n ['(', '?', ',', ' ', '?', ')']) := by
  rw [claimPairsFrom, String.toList_intercalate, List.map_map, String.toList_ofList,
    List.map_congr_left (g := fun _ => ['(', '?', ',', ' ', '?', ')']), List.map_const',
    List.length_range]
  intro row _
  simp only [Function.comp_apply, toString_string, String.toList_append, placeholder_toList]
  repeat rw [String.toList_ofList]
  cases d with
  | postgres => exact absurd rfl counts
  | mysql | sqlite => rfl

theorem lex_pairs (position n : ℕ) (rest : List Char) :
    numbered position (tokens ([',', ' '].intercalate
        (List.replicate (n + 1) ['(', '?', ',', ' ', '?', ')']) ++ rest)) =
      counted pair 2 position n ++ numbered (position + (n + 1) * 2) (tokens rest) := by
  rw [tokens_intercalate rfl]
  exact numbered_repeated (fun _ _ => rfl) position n (tokens rest)

def claimSets : List (String × Term) :=
  [("next_retry_at", .later 1), ("attempts", .plus "attempts" 1)]

def claimStatement (table : String) (n : ℕ) (returning : List Term) : Statement :=
  .update table claimSets .nothing (.holds (claimCond 2 n)) returning

/-- A claim by pairs: the assignments, the pairs and what follows them. -/
def claimTokens (table : String) (sets : List Token) (values : Bool) (n : ℕ)
    (trailer : List Token) : List Token :=
  .keyword .update :: .identifier table :: .keyword .set :: (sets ++ .keyword .where ::
    (claimed ++ ((if values then [.keyword .values] else []) ++
      (counted pair 2 2 n ++ .symbol ')' :: trailer))))

theorem lt_length_pairs (position n : ℕ) : n < (counted pair 2 position n).length := by
  apply lt_length_counted
  intro p
  exact Nat.zero_lt_succ _

theorem parse_claimTokens {sets trailer : List Token} (table : String) (values : Bool) (n : ℕ)
    (ret : Option (List Term))
    (assigns : ∀ fuel rest, Grammar.list Grammar.assignment (fuel + 2)
      (sets ++ .keyword .where :: rest) = some (claimSets, .keyword .where :: rest))
    (noAnd : Grammar.keyword .and trailer = none) (noOr : Grammar.keyword .or trailer = none)
    (returns : ∀ fuel, Grammar.returned (fuel + 2) trailer = some (ret, [])) :
    parse (claimTokens table sets values n trailer) =
      some (claimStatement table n (ret.getD [])) := by
  apply parse_of_statement
  obtain ⟨fuel, enough, length⟩ : ∃ fuel, n < fuel + 2 ∧
      (claimTokens table sets values n trailer).length = fuel + 2 := by
    have long := lt_length_pairs 2 n
    refine ⟨(claimTokens table sets values n trailer).length - 2, ?_, ?_⟩ <;>
    simp only [claimTokens, List.length_cons, List.length_append] <;> omega
  rw [length]
  have among := Grammar.condition_of_rowAmong (rowAmong_pairs enough 2 trailer values) noAnd noOr
  exact Grammar.statement_update (assigns fuel _) rfl (Grammar.filter_of_condition rfl among)
    (returns fuel)

/-- The assignments of a claim: the lease as each engine spells it, and the counter. -/
def claimSetTokens (lease : List Token) : List Token :=
  [.word "next_retry_at", .symbol '='] ++ lease ++
    [.symbol ',', .word "attempts", .symbol '=', .word "attempts", .symbol '+', .number 1]

def sqliteLease : List Token :=
  [.keyword .strftime, .symbol '(', .literal Grammar.isoMillis, .symbol ',', .literal "now",
    .symbol ',', .marker (some 1), .symbol ')']

theorem lex_claimSql_mysql (table : String) (n : ℕ) :
    lex (claimSql .mysql table (n + 1)) =
      claimTokens table (claimSetTokens mysqlLease) false n [] := by
  unfold lex
  delta claimSql
  simp only [String.toList_append, quoteIdentifier_toList, nowPlusIntervalExpr_toList,
    placeholder_toList, claimPairsFrom_toList, ne_eq, reduceCtorEq, not_false_eq_true,
    toString_string, List.append_assoc]
  repeat rw [String.toList_ofList]
  rw [tokens_append_of_between rfl, tokens_quoted _ _ rfl]
  repeat rw [tokens_append_of_between rfl]
  change .keyword .update :: .identifier table :: .keyword .set ::
    (claimSetTokens mysqlLease ++ .keyword .where :: (claimed ++ numbered 2 (tokens
      ([',', ' '].intercalate (List.replicate (n + 1) ['(', '?', ',', ' ', '?', ')']) ++
        [')'])))) = _
  rw [lex_pairs]
  rfl

theorem lex_claimSql_sqlite (table : String) (n : ℕ) :
    lex (claimSql .sqlite table (n + 1)) =
      claimTokens table (claimSetTokens sqliteLease) true n
        [.keyword .returning, .word "event_id"] := by
  unfold lex
  delta claimSql
  simp only [String.toList_append, quoteIdentifier_toList, nowPlusIntervalExpr_toList,
    placeholder_toList, claimPairsFrom_toList, ne_eq, reduceCtorEq, not_false_eq_true,
    toString_string, List.append_assoc]
  repeat rw [String.toList_ofList]
  rw [tokens_append_of_between rfl, tokens_quoted _ _ rfl]
  repeat rw [tokens_append_of_between rfl]
  change .keyword .update :: .identifier table :: .keyword .set ::
    (claimSetTokens sqliteLease ++ .keyword .where :: (claimed ++ .keyword .values ::
      numbered 2 (tokens ([',', ' '].intercalate
        (List.replicate (n + 1) ['(', '?', ',', ' ', '?', ')']) ++ _)))) = _
  rw [lex_pairs]
  rfl

theorem parse_claimSql_mysql (table : String) (n : ℕ) :
    parse (lex (claimSql .mysql table (n + 1))) = some (claimStatement table n []) := by
  rw [lex_claimSql_mysql]
  exact parse_claimTokens table false n none (fun _ _ => rfl) rfl rfl fun _ => rfl

theorem parse_claimSql_sqlite (table : String) (n : ℕ) :
    parse (lex (claimSql .sqlite table (n + 1))) =
      some (claimStatement table n [.column "event_id"]) := by
  rw [lex_claimSql_sqlite]
  exact parse_claimTokens table true n (some [.column "event_id"]) (fun _ _ => rfl) rfl rfl
    fun _ => rfl

def claimedSource : Source :=
  .arrays "claimed" [2, 3] ["claimed_event_id", "claimed_attempts"]

def claimedCond : Cond :=
  .both (.compare .eq (.column "event_id") (.member "claimed" "claimed_event_id"))
    (.compare .eq (.column "attempts") (.member "claimed" "claimed_attempts"))

/-- PostgreSQL binds the pairs as two arrays, whatever their number. -/
def claimArraysStatement (table : String) : Statement :=
  .update table claimSets claimedSource (.holds claimedCond) [.column "event_id"]

theorem parse_claimSql_postgres (table : String) (n : ℕ) :
    parse (lex (claimSql .postgres table n)) = some (claimArraysStatement table) := by
  unfold lex
  delta claimSql
  simp only [String.toList_append, quoteIdentifier_toList, nowPlusIntervalExpr_toList,
    placeholder_toList, toString_string, List.append_assoc]
  repeat rw [String.toList_ofList]
  rw [tokens_append_of_between rfl, tokens_quoted _ _ rfl]
  rfl

def claimCandidatesQuery (table : String) (n : ℕ) : Query :=
  ⟨[.column "event_id"], table, some (claimCond 1 n), none, none, false⟩

theorem lex_claimCandidatesSql (table : String) (n : ℕ) :
    lex (claimCandidatesSql .mysql table (n + 1)) =
      [.keyword .select, .word "event_id", .keyword .from, .identifier table] ++
        .keyword .where :: (claimed ++ (counted pair 2 1 n ++
          [.symbol ')', .keyword .for, .keyword .update])) := by
  unfold lex
  delta claimCandidatesSql
  simp only [String.toList_append, quoteIdentifier_toList, claimPairsFrom_toList, ne_eq,
    reduceCtorEq, not_false_eq_true, toString_string, List.append_assoc]
  repeat rw [String.toList_ofList]
  rw [tokens_append_of_between rfl, tokens_quoted _ _ rfl]
  repeat rw [tokens_append_of_between rfl]
  change [.keyword .select, .word "event_id", .keyword .from, .identifier table] ++
    .keyword .where :: (claimed ++ numbered 1 (tokens ([',', ' '].intercalate
        (List.replicate (n + 1) ['(', '?', ',', ' ', '?', ')']) ++ _))) = _
  rw [lex_pairs]
  rfl

theorem parse_claimCandidatesSql (table : String) (n : ℕ) :
    parse (lex (claimCandidatesSql .mysql table (n + 1))) =
      some (.select (claimCandidatesQuery table n)) := by
  rw [lex_claimCandidatesSql]
  apply parse_of_statement
  generalize length : List.length _ = fuel
  obtain ⟨fuel, enough, rfl⟩ : ∃ f, n < f + 2 ∧ fuel = f + 2 := by
    have long := lt_length_pairs 1 n
    refine ⟨fuel - 2, ?_, ?_⟩ <;>
    simp only [List.length_cons, List.length_append] at length <;> omega
  have among := Grammar.condition_of_rowAmong
    (rowAmong_pairs enough 1 [.keyword .for, .keyword .update] false) rfl rfl
  refine Grammar.orElse_some (Grammar.bind_some (a := claimCandidatesQuery table n) ?_)
  rw [Grammar.query, Grammar.bind_some (p := Grammar.keyword .select) rfl,
    Grammar.bind_some (p := Grammar.list Grammar.term _) rfl,
    Grammar.bind_some (p := Grammar.keyword .from) rfl,
    Grammar.bind_some (p := Grammar.tableName) rfl]
  exact (Grammar.bind_some (Grammar.whereClause_of_condition among)).trans rfl

end OutboxSql
