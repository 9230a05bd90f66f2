import Hexeract.OutboxSqlExecution
import Hexeract.OutboxPolling

/-! # The SQL outbox store refines the statements

The operations of the three stores, as they bind and issue their texts, against the
operations on keyed tables. An operation either fails alike or returns the same and leaves
a database that stores the same tables. -/
namespace OutboxSqlStore

open LibraryCollections LibraryTables LibrarySql SqlDialect OutboxSql OutboxSqlExecution
open OutboxStatements hiding Row
open OutboxWorkers (bindableClaims envelopeOf)
open OutboxPolling (i64Max pollEnvelopes)

variable {κ τ β δ : Type}

structure Store where
  table : String
  deadLetter : Option String

structure Stores (st : Store) (db : Database κ τ β) (serial : ℕ)
    (tables : Tables κ τ (Content κ τ β)) : Prop where
  main : db st.table = some (relation serial tables.main)
  deadLetter : ∀ dlq, st.deadLetter = some dlq →
    dlq ≠ st.table ∧ ∃ r, db dlq = some r ∧ ShowsDeadLetters r tables.deadLetter

variable {st : Store} {db : Database κ τ β} {serial : ℕ} {tables : Tables κ τ (Content κ τ β)}

theorem Stores.set_main (h : Stores st db serial tables) (serial' : ℕ) (main : Outbox κ τ β) :
    Stores st (db.set st.table (relation serial' main)) serial' { tables with main := main } where
  main := Function.update_self ..
  deadLetter := by
    intro dlq named
    obtain ⟨apart, r, stored, shows⟩ := h.deadLetter dlq named
    exact ⟨apart, r, by rwa [Database.set, Function.update_of_ne apart], shows⟩

theorem Stores.set_deadLetter (h : Stores st db serial tables) {dlq : String}
    (named : st.deadLetter = some dlq) {r : Relation κ τ β} {deadLetter : DeadLetters κ τ β}
    (shows : ShowsDeadLetters r deadLetter) :
    Stores st (db.set dlq r) serial { tables with deadLetter := deadLetter } where
  main := by
    rw [Database.set, Function.update_of_ne (h.deadLetter dlq named).1.symm]
    exact h.main
  deadLetter := by
    intro dlq' named'
    rw [named, Option.some.injEq] at named'
    subst named'
    exact ⟨(h.deadLetter dlq named).1, r, Function.update_self .., shows⟩

/-! ## Operations -/

variable [DecidableEq κ] [LinearOrder τ]

def execute (e : Engine κ τ δ) (db : Database κ τ β) (bound : List (Bound κ τ β δ))
    (text : String) : Except OutboxError (Database κ τ β × Outcome κ τ β) :=
  (execText (bind e bound) db text).mapError databaseError

/-- `fence_value` comes first, so that an attempt number that cannot be bound issues
nothing. -/
def Store.markDelivered (st : Store) (e : Engine κ τ δ) (db : Database κ τ β) (eventId : κ)
    (claimedAttempt : ℕ) : Except OutboxError (Database κ τ β × Bool) := do
  let attempt ← fenceValue claimedAttempt
  let (db, result) ← execute e db [.one (.key eventId), .one (.int attempt)]
    (markDeliveredSql e.dialect st.table)
  return (db, decide (0 < result.affected))

def Store.markFailed (st : Store) (e : Engine κ τ δ) (db : Database κ τ β) (eventId : κ)
    (error : String) (retryIn : δ) (claimedAttempt : ℕ) :
    Except OutboxError (Database κ τ β × Bool) := do
  let attempt ← fenceValue claimedAttempt
  let (db, result) ← execute e db
    [.one (.text error), .span retryIn, .one (.key eventId), .one (.int attempt)]
    (markFailedSql e.dialect st.table)
  return (db, decide (0 < result.affected))

/-- The copy and the removal share a savepoint. -/
def Store.markDeadLettered (st : Store) (e : Engine κ τ δ) (db : Database κ τ β) (eventId : κ)
    (claimedAttempt : ℕ) : Except OutboxError (Database κ τ β × Bool) :=
  match st.deadLetter with
  | none => return (db, true)
  | some dlq => do
    let attempt ← fenceValue claimedAttempt
    let (copied, _) ← execute e db [.one (.key eventId)]
      (insertDeadLetterSql e.dialect st.table dlq)
    let (removed, result) ← execute e copied [.one (.key eventId), .one (.int attempt)]
      (deleteFromMainSql e.dialect st.table)
    if result.affected = 0 then return (db, false)
    return (removed, true)

/-- `try_get("event_id")` on every returned row. -/
def eventIds (rows : List (List (Value κ τ β))) : Except OutboxError (List κ) :=
  rows.mapM fun
    | [.key k] => .ok k
    | _ => .error (.database "column event_id does not decode")

def inClaimOrder (claims : List (Envelope κ)) (obtained : List κ) : List κ :=
  (claims.map Envelope.eventId).filter obtained.contains

/-- MySQL returns nothing from an update, so it first locks the rows that match, and
updates those. -/
def Store.claim (st : Store) (e : Engine κ τ δ) (db : Database κ τ β)
    (claims : List (Envelope κ)) (leaseFor : δ) :
    Except OutboxError (Database κ τ β × List κ) :=
  if claims.isEmpty then return (db, [])
  else do
    let bindable ← bindableClaims claims
    match e.dialect with
    | .postgres =>
      let (db, result) ← execute e db
        [.span leaseFor, .many (bindable.map fun c => .key c.1),
          .many (bindable.map fun c => .int c.2)]
        (claimSql e.dialect st.table bindable.length)
      return (db, inClaimOrder claims (← eventIds result.returned))
    | .mysql =>
      let (db, rows) ← execute e db (pairBounds bindable)
        (claimCandidatesSql e.dialect st.table bindable.length)
      let matched ← eventIds rows.returned
      let toUpdate := bindable.filter fun c => matched.contains c.1
      if toUpdate.isEmpty then return (db, [])
      let (db, _) ← execute e db (.span leaseFor :: pairBounds toUpdate)
        (claimSql e.dialect st.table toUpdate.length)
      return (db, inClaimOrder claims matched)
    | .sqlite =>
      let (db, result) ← execute e db (.span leaseFor :: pairBounds bindable)
        (claimSql e.dialect st.table bindable.length)
      return (db, inClaimOrder claims (← eventIds result.returned))

/-- `decode_row`: the columns in the order they are selected. `decodes` says which contents
the driver and the payload format accept. -/
def decodeRow (decodes : Content κ τ β → Bool) : List (Value κ τ β) → Option (Envelope κ)
  | [.key eventId, .text eventType, .document payload, subjectId, .instant createdAt,
      .int attempts, _, _] =>
    let subject := match subjectId with
      | .key subject => some subject
      | _ => none
    if decodes ⟨eventType, payload, subject, createdAt⟩ then
      some ⟨eventId, attemptsOf attempts⟩ else none
  | _ => none

/-- Rows that do not decode are skipped; the rest of the batch continues. -/
def Store.poll (st : Store) (e : Engine κ τ δ) (decodes : Content κ τ β → Bool)
    (db : Database κ τ β) (batchSize maxAttempts : ℕ) :
    Except OutboxError (List (Envelope κ)) := do
  let (_, result) ← execute e db
    [.one (.int (e.dialect.pollBound maxAttempts)), .one (.int ↑(min batchSize i64Max))]
    (pollSql e.dialect st.table)
  return result.returned.filterMap (decodeRow decodes)

/-! ## Agreement -/

/-- A computation on a database and one on tables that fail alike or return the same. -/
inductive Agrees (st : Store) (serial : ℕ) {α : Type} :
    Except OutboxError (Database κ τ β × α) →
      Except OutboxError (Tables κ τ (Content κ τ β) × α) → Prop where
  | failed (error : OutboxError) : Agrees st serial (.error error) (.error error)
  | done {db : Database κ τ β} {tables : Tables κ τ (Content κ τ β)}
      (stores : Stores st db serial tables) (a : α) :
      Agrees st serial (.ok (db, a)) (.ok (tables, a))

omit [DecidableEq κ] [LinearOrder τ] in
theorem Agrees.bind {α γ : Type} {x : Except OutboxError (Database κ τ β × α)}
    {y : Except OutboxError (Tables κ τ (Content κ τ β) × α)}
    {f : Database κ τ β × α → Except OutboxError (Database κ τ β × γ)}
    {g : Tables κ τ (Content κ τ β) × α → Except OutboxError (Tables κ τ (Content κ τ β) × γ)}
    (h : Agrees st serial x y)
    (next : ∀ db tables a, Stores st db serial tables →
      Agrees st serial (f (db, a)) (g (tables, a))) :
    Agrees st serial (x >>= f) (y >>= g) := by
  cases h with
  | failed error => exact .failed error
  | done stores a => exact next _ _ a stores

omit [DecidableEq κ] [LinearOrder τ] in
theorem Agrees.map {α γ : Type} {x : Except OutboxError (Database κ τ β × α)}
    {y : Except OutboxError (Tables κ τ (Content κ τ β) × α)} (h : Agrees st serial x y)
    (f : α → γ) :
    Agrees st serial (x >>= fun r => .ok (r.1, f r.2)) (y.map fun r => (r.1, f r.2)) := by
  cases h with
  | failed error => exact .failed error
  | done stores a => exact .done stores (f a)

omit [DecidableEq κ] [LinearOrder τ] in
theorem Agrees.eq_error {α : Type} {x : Except OutboxError (Database κ τ β × α)}
    {error : OutboxError} (h : Agrees st serial x (.error error)) : x = .error error := by
  cases h
  rfl

omit [DecidableEq κ] [LinearOrder τ] in
theorem Agrees.eq_ok {α : Type} {x : Except OutboxError (Database κ τ β × α)} {a : α}
    (h : Agrees st serial x (.ok (tables, a))) :
    ∃ db, x = .ok (db, a) ∧ Stores st db serial tables := by
  cases h with
  | done stores _ => exact ⟨_, rfl, stores⟩

omit [DecidableEq κ] [LinearOrder τ] in
theorem Agrees.of_ok {α : Type} {y : Except OutboxError (Tables κ τ (Content κ τ β) × α)} {a : α}
    (h : Agrees st serial (.ok (db, a)) y) :
    ∃ tables, y = .ok (tables, a) ∧ Stores st db serial tables := by
  cases h with
  | done stores _ => exact ⟨_, rfl, stores⟩

theorem execute_ok {e : Engine κ τ δ} {bound : List (Bound κ τ β δ)} {text : String}
    {r : Database κ τ β × Outcome κ τ β} (h : execText (bind e bound) db text = .ok r) :
    execute e db bound text = .ok r := by
  rw [execute, h]
  rfl

theorem error_bind {ε α γ : Type} (error : ε) (f : α → Except ε γ) :
    (Except.error error >>= f) = .error error := rfl

theorem markDelivered_agrees (h : Stores st db serial tables) (e : Engine κ τ δ) (eventId : κ)
    (claimedAttempt : ℕ) :
    Agrees st serial (st.markDelivered e db eventId claimedAttempt)
      ((fenceValue claimedAttempt).map fun attempt =>
        let marked := markDelivered e.now tables.main eventId attempt
        ({ tables with main := marked.1 }, marked.2)) := by
  unfold Store.markDelivered
  cases fenceValue claimedAttempt with
  | error error => exact .failed error
  | ok attempt =>
    rw [ok_bind, execute_ok (exec_markDelivered e h.main eventId attempt), ok_bind]
    exact .done (h.set_main serial _) _

theorem markFailed_agrees (h : Stores st db serial tables) (e : Engine κ τ δ) (eventId : κ)
    (error : String) (retryIn : δ) (claimedAttempt : ℕ) :
    Agrees st serial (st.markFailed e db eventId error retryIn claimedAttempt)
      ((fenceValue claimedAttempt).map fun attempt =>
        let marked := markFailed error (e.later retryIn) tables.main eventId attempt
        ({ tables with main := marked.1 }, marked.2)) := by
  unfold Store.markFailed
  cases fenceValue claimedAttempt with
  | error error => exact .failed error
  | ok attempt =>
    rw [ok_bind, execute_ok (exec_markFailed e h.main eventId attempt error retryIn), ok_bind]
    exact .done (h.set_main serial _) _

theorem markDeadLettered_agrees (h : Stores st db serial tables) (e : Engine κ τ δ) (eventId : κ)
    {claimedAttempt : ℕ} {attempt : ℤ} (fence : fenceValue claimedAttempt = .ok attempt) :
    Agrees st serial (st.markDeadLettered e db eventId claimedAttempt)
      (markDeadLettered st.deadLetter.isSome tables eventId attempt) := by
  unfold Store.markDeadLettered
  cases named : st.deadLetter with
  | none => exact .done h true
  | some dlq =>
    obtain ⟨_, r, stored, shows⟩ := h.deadLetter dlq named
    have copied := exec_insertDeadLetter (e := e) h.main stored shows eventId
    simp only [fence, ok_bind, Option.isSome_some, markDeadLettered, Bool.true_eq_false, if_false]
    cases inserted : insertDeadLetter tables eventId with
    | error error =>
      rw [inserted] at copied
      obtain ⟨failure, rfl, failed⟩ := copied
      simp only [execute, failed, Except.mapError, error_bind]
      exact .failed _
    | ok deadLetter =>
      rw [inserted] at copied
      obtain ⟨r', outcome, shows', copied⟩ := copied
      have kept := h.set_deadLetter named shows'
      have removed := exec_deleteFromMain e kept.main eventId attempt
      simp only [execute_ok copied, execute_ok removed, ok_bind]
      by_cases stale : tables.main.affected (Fence eventId attempt) = 0
      · simp only [stale, deleteFromMain, Nat.lt_irrefl, decide_false, Bool.false_eq_true,
          if_true, if_false]
        exact .done h false
      · simp only [stale, deleteFromMain, Nat.pos_of_ne_zero stale, decide_true, if_true, if_false]
        exact .done (kept.set_main serial _) true

/-! ## Claims -/

omit [DecidableEq κ] [LinearOrder τ] in
theorem eventIds_keys (ids : List κ) :
    eventIds (ids.map fun k => [(.key k : Value κ τ β)]) = .ok ids := by
  unfold eventIds
  induction ids with
  | nil => rfl
  | cons k rest ih =>
    rw [List.map_cons, List.mapM_cons, ih]
    rfl

omit [DecidableEq κ] in
theorem map_bindableClaims {claims : List (Envelope κ)} {bindable : List (κ × ℤ)}
    (bound : bindableClaims claims = .ok bindable) :
    bindable.map Prod.fst = claims.map Envelope.eventId := by
  unfold bindableClaims at bound
  induction claims generalizing bindable with
  | nil =>
    cases bound
    rfl
  | cons c rest ih =>
    rw [List.mapM_cons] at bound
    obtain ⟨first, fits, bound⟩ := bind_ok.mp bound
    obtain ⟨others, more, bound⟩ := bind_ok.mp bound
    obtain ⟨attempt, _, rfl⟩ := map_ok.mp fits
    cases bound
    rw [List.map_cons, List.map_cons, ih more]

section Claimed

variable (deadline : τ) (t : Outbox κ τ β) (claims : List (κ × ℤ))

omit [LinearOrder τ]

theorem claim_main :
    (claim deadline t claims).1 = t.updateWhere (isClaimed claims) (stamped deadline) := rfl

theorem claim_returns :
    (claim deadline t claims).2 = (claims.map Prod.fst).filter (takenIds t claims).contains := rfl

theorem claim_nil : claim deadline t [] = (t, []) := by
  refine Prod.ext ?_ rfl
  rw [claim_main]
  exact updateWhere_of_none fun _ _ => rfl

variable {t claims} in
theorem mem_takenIds {k : κ} :
    k ∈ takenIds t claims ↔ ∃ r, (k, r) ∈ t.rows ∧ (k, r.attempts) ∈ claims := by
  simp [takenIds, isClaimed]

def matchedClaims : List (κ × ℤ) := claims.filter fun c => (takenIds t claims).contains c.1

/-- Offering only the pairs whose row was found takes the same rows. -/
theorem claim_matchedClaims :
    (claim deadline t (matchedClaims t claims)).1 = (claim deadline t claims).1 := by
  rw [claim_main, claim_main]
  refine updateWhere_congr fun row mem => ?_
  rw [isClaimed, isClaimed, matchedClaims, Bool.eq_iff_iff, List.contains_iff_mem,
    List.contains_iff_mem, List.mem_filter, List.contains_iff_mem, mem_takenIds]
  exact ⟨fun offered => offered.1, fun offered => ⟨offered, row.2, mem, offered⟩⟩

theorem claim_of_unmatched (none : matchedClaims t claims = []) :
    claim deadline t claims = (t, []) := by
  refine Prod.ext ?_ ?_
  · rw [← claim_matchedClaims, none, claim_nil]
  · rw [claim_returns, List.filter_map]
    change (matchedClaims t claims).map Prod.fst = []
    rw [none, List.map_nil]

end Claimed

theorem claim_agrees (h : Stores st db serial tables) (e : Engine κ τ δ)
    (apart : e.dialect = .postgres → st.table ≠ "claimed")
    (claims : List (Envelope κ)) (leaseFor : δ) :
    Agrees st serial (st.claim e db claims leaseFor)
      ((bindableClaims claims).map fun bindable =>
        let claimed := claim (e.later leaseFor) tables.main bindable
        ({ tables with main := claimed.1 }, claimed.2)) := by
  cases claims with
  | nil =>
    have nothing : (bindableClaims ([] : List (Envelope κ))) = .ok [] := rfl
    rw [nothing, Store.claim, Except.map, claim_nil]
    exact .done h []
  | cons c rest =>
    unfold Store.claim
    simp only [List.isEmpty_cons, Bool.false_eq_true, if_false]
    cases bound : bindableClaims (c :: rest) with
    | error error => exact .failed error
    | ok bindable =>
      have order : inClaimOrder (c :: rest) (takenIds tables.main bindable) =
          (claim (e.later leaseFor) tables.main bindable).2 := by
        rw [inClaimOrder, claim_returns, map_bindableClaims bound]
      obtain ⟨first, others, rfl⟩ : ∃ first others, bindable = first :: others := by
        have named := map_bindableClaims bound
        cases bindable with
        | nil => cases named
        | cons first others => exact ⟨first, others, rfl⟩
      rw [ok_bind]
      cases dialect : e.dialect with
      | postgres =>
        have ran := execute_ok
          (exec_claim_postgres e dialect (apart dialect) h.main leaseFor (first :: others)
            (first :: others).length)
        rw [dialect] at ran
        simp only [ran, ok_bind, eventIds_keys, order]
        exact .done (h.set_main serial _) _
      | sqlite =>
        have ran := execute_ok (exec_claim_sqlite e dialect h.main leaseFor first others)
        rw [dialect] at ran
        simp only [List.length_cons, ran, ok_bind, eventIds_keys, order]
        exact .done (h.set_main serial _) _
      | mysql =>
        have found := execute_ok (exec_claimCandidates e h.main first others)
        simp only [List.length_cons, found, ok_bind, eventIds_keys, order]
        change Agrees st serial (if (matchedClaims tables.main (first :: others)).isEmpty then _
          else execute e db (.span leaseFor :: pairBounds (matchedClaims tables.main _))
            (claimSql .mysql st.table (matchedClaims tables.main _).length) >>= _) _
        have same := claim_matchedClaims (e.later leaseFor) tables.main (first :: others)
        cases matched : matchedClaims tables.main (first :: others) with
        | nil =>
          simp only [Except.map, claim_of_unmatched _ _ _ matched, List.isEmpty_nil, if_true]
          exact .done h []
        | cons offered more =>
          rw [matched] at same
          have ran := execute_ok (exec_claim_mysql e dialect h.main leaseFor offered more)
          rw [dialect] at ran
          simp only [List.isEmpty_cons, Bool.false_eq_true, if_false, List.length_cons, ran,
            ok_bind, same]
          exact .done (h.set_main serial _) _

theorem claim_hidden (e : Engine κ τ δ) (postgres : e.dialect = .postgres)
    (hidden : st.table = "claimed") {claims : List (Envelope κ)} (some : claims ≠ [])
    (leaseFor : δ) : ∃ error, st.claim e db claims leaseFor = .error error := by
  have filled : claims.isEmpty = false := by simpa using some
  unfold Store.claim
  rw [if_neg (by rw [filled]; exact Bool.false_ne_true)]
  cases bindableClaims claims with
  | error error => exact ⟨error, rfl⟩
  | ok bindable =>
    have refused : execText (bindArrays e leaseFor bindable) db
        (claimSql e.dialect "claimed" bindable.length) = .error .malformed :=
      exec_claim_hidden e postgres _ _
    rw [ok_bind]
    simp only [postgres] at refused ⊢
    rw [hidden, execute, refused]
    exact ⟨_, rfl⟩

/-! ## Polls and settlements -/

omit [DecidableEq κ] [LinearOrder τ] in
theorem decodeRow_polledValues (decodes : Content κ τ β → Bool)
    (row : κ × OutboxStatements.Row τ (Content κ τ β)) :
    decodeRow decodes (polledValues row) =
      if decodes row.2.content then some (envelopeOf row) else none := by
  obtain ⟨k, serial, ⟨eventType, payload, subjectId, createdAt⟩, attempts, lastError,
    nextRetryAt, deliveredAt⟩ := row
  cases subjectId <;> rfl

theorem poll_returns (h : Stores st db serial tables) (e : Engine κ τ δ)
    (decodes : Content κ τ β → Bool) (batchSize maxAttempts : ℕ) :
    st.poll e decodes db batchSize maxAttempts =
      .ok (pollEnvelopes e.dialect (fun row => decodes row.2.content) e.now tables.main
        (skipped e) batchSize maxAttempts) := by
  have ran := execute_ok (exec_poll e h.main (e.dialect.pollBound maxAttempts)
    (min batchSize i64Max))
  rw [Store.poll, ran, ok_bind, pollEnvelopes]
  refine congrArg Except.ok ?_
  rw [List.filterMap_map, ← List.filterMap_eq_map, ← List.filterMap_eq_filter,
    List.filterMap_filterMap]
  refine List.filterMap_congr fun row _ => ?_
  rw [Function.comp, decodeRow_polledValues]
  cases decodable : decodes row.2.content <;> simp [Option.guard, decodable]

/-- `dispatch_and_settle` after the handler has returned: one transaction, which an error
rolls back. -/
def Store.dispatchAndSettle (st : Store) (e : Engine κ τ δ) (maxAttempts : ℕ)
    (db : Database κ τ β) (envelope : Envelope κ) (outcome : Except String Unit) (retryIn : δ) :
    Except OutboxError (Database κ τ β × Applied) :=
  match outcome with
  | .ok () => do
    let (db, applied) ← st.markDelivered e db envelope.eventId envelope.claimedAttempt
    return (db, if applied then .delivered else .nothing)
  | .error message => do
    let (db, recorded) ←
      st.markFailed e db envelope.eventId message retryIn envelope.claimedAttempt
    if recorded = false then return (db, .nothing)
    else if maxAttempts ≤ envelope.claimedAttempt then do
      let (db, moved) ← st.markDeadLettered e db envelope.eventId envelope.claimedAttempt
      return (db, if st.deadLetter.isSome && moved then .deadLettered else .failed)
    else return (db, .failed)

theorem dispatchAndSettle_unfenced (e : Engine κ τ δ) (maxAttempts : ℕ) (db : Database κ τ β)
    (envelope : Envelope κ) (outcome : Except String Unit) (retryIn : δ) {error : OutboxError}
    (fence : fenceValue envelope.claimedAttempt = .error error) :
    st.dispatchAndSettle e maxAttempts db envelope outcome retryIn = .error error := by
  cases outcome <;>
    simp only [Store.dispatchAndSettle, Store.markDelivered, Store.markFailed, fence, error_bind]

theorem dispatchAndSettle_agrees (h : Stores st db serial tables) (e : Engine κ τ δ)
    (maxAttempts : ℕ) (envelope : Envelope κ) (outcome : Except String Unit) (retryIn : δ) :
    Agrees st serial (st.dispatchAndSettle e maxAttempts db envelope outcome retryIn)
      (dispatchAndSettle st.deadLetter.isSome maxAttempts e.now (e.later retryIn) tables envelope
        outcome) := by
  unfold dispatchAndSettle
  cases fence : fenceValue envelope.claimedAttempt with
  | error error =>
    rw [dispatchAndSettle_unfenced e maxAttempts db envelope outcome retryIn fence]
    exact .failed error
  | ok attempt =>
    rw [ok_bind]
    cases outcome with
    | ok _ =>
      have marked := markDelivered_agrees h e envelope.eventId envelope.claimedAttempt
      rw [fence] at marked
      refine marked.bind (g := fun r => .ok (r.1, if r.2 then Applied.delivered else .nothing)) ?_
      intro db tables applied stores
      exact .done stores _
    | error message =>
      have marked := markFailed_agrees h e envelope.eventId message retryIn envelope.claimedAttempt
      rw [fence] at marked
      refine marked.bind (g := fun r => if r.2 = false then .ok (r.1, Applied.nothing)
        else if maxAttempts ≤ envelope.claimedAttempt then
          (markDeadLettered st.deadLetter.isSome r.1 envelope.eventId attempt).map fun moved =>
            (moved.1, if st.deadLetter.isSome && moved.2 then .deadLettered else .failed)
        else .ok (r.1, .failed)) ?_
      intro db tables recorded stores
      dsimp only
      split
      · exact .done stores _
      split
      · exact (markDeadLettered_agrees stores e envelope.eventId fence).map
          fun moved => if st.deadLetter.isSome && moved then Applied.deadLettered else .failed
      · exact .done stores _

/-! ## Publishing -/

def maxEventTypeLen : ℕ := 64

def validateEventType (eventType : String) : Except OutboxError Unit :=
  if eventType.isEmpty then .error (.internal "event_type must not be empty")
  else if maxEventTypeLen < eventType.utf8ByteSize then
    .error (.internal (s!"event_type `{eventType}` exceeds the maximum length of " ++
      s!"{maxEventTypeLen} bytes"))
  else .ok ()

/-- The errors of a publication; only here is a payload serialised or parsed. -/
inductive PublishError where
  | outbox (error : OutboxError)
  | serialization (message : String)

/-- `publish_in_tx` and `publish_in_tx_with_subject`; the event id is a fresh UUID, and
`payload` is what the serialisation of the event gives. -/
def publishInTx (e : Engine κ τ δ) (table : String) (db : Database κ τ β) (eventId : κ)
    (eventType : String) (subjectId : Option κ) (payload : Except String β) :
    Except PublishError (Database κ τ β × κ) := do
  (validateEventType eventType).mapError .outbox
  let document ← payload.mapError .serialization
  let (db, _) ← (execute e db (contentBounds eventId ⟨eventType, document, subjectId, e.now⟩)
    (insertSql e.dialect table)).mapError .outbox
  return (db, eventId)

/-- `payload` is what parsing the bytes gives. -/
def enqueueIdempotent (e : Engine κ τ δ) (table : String) (db : Database κ τ β) (eventId : κ)
    (eventType : String) (payload : Except String β) :
    Except PublishError (Database κ τ β × Bool) := do
  (validateEventType eventType).mapError .outbox
  let document ← payload.mapError .serialization
  let (db, result) ← (execute e db
    (idempotentBounds e.dialect eventId ⟨eventType, document, none, e.now⟩)
    (insertIdempotentSql e.dialect table)).mapError .outbox
  return (db, decide (0 < result.affected))

section Publishing

variable (h : Stores st db serial tables) (e : Engine κ τ δ) (eventId : κ) {eventType : String}
  (accepted : validateEventType eventType = .ok ()) (document : β)

include h accepted

theorem publishInTx_accepted (subjectId : Option κ) :
    publishInTx e st.table db eventId eventType subjectId (.ok document) =
      match tables.main.insert eventId
        (.fresh serial ⟨eventType, document, subjectId, e.now⟩) with
      | some main => .ok (db.set st.table (relation (serial + 1) main), eventId)
      | none => .error (.outbox (.database "duplicate key value in column event_id")) := by
  have ran : execText (bind e (contentBounds eventId ⟨eventType, document, subjectId, e.now⟩)) db
      (insertSql e.dialect st.table) = _ := exec_insert e h.main eventId rfl
  simp only [publishInTx, accepted, Except.mapError, ok_bind, execute, ran]
  cases tables.main.insert eventId (.fresh serial ⟨eventType, document, subjectId, e.now⟩) <;> rfl

theorem enqueueIdempotent_accepted :
    enqueueIdempotent e st.table db eventId eventType (.ok document) =
      match tables.main.insert eventId (.fresh serial ⟨eventType, document, none, e.now⟩) with
      | some main => .ok (db.set st.table (relation (serial + 1) main), true)
      | none => .ok (db, false) := by
  have ran : execText (bind e
      (idempotentBounds e.dialect eventId ⟨eventType, document, none, e.now⟩)) db
      (insertIdempotentSql e.dialect st.table) = _ :=
    exec_insertIdempotent e h.main eventId rfl rfl
  simp only [enqueueIdempotent, accepted, Except.mapError, ok_bind, execute, ran]
  cases tables.main.insert eventId (.fresh serial ⟨eventType, document, none, e.now⟩) <;> rfl

omit accepted

theorem publishInTx_cases (eventType : String) (subjectId : Option κ)
    (payload : Except String β) :
    (∃ error, publishInTx e st.table db eventId eventType subjectId payload = .error error) ∨
      ∃ document main, tables.main.insert eventId
          (.fresh serial ⟨eventType, document, subjectId, e.now⟩) = some main ∧
        publishInTx e st.table db eventId eventType subjectId payload =
          .ok (db.set st.table (relation (serial + 1) main), eventId) := by
  cases accepted : validateEventType eventType with
  | error error =>
    refine Or.inl ⟨.outbox error, ?_⟩
    simp only [publishInTx, accepted, Except.mapError, error_bind]
  | ok _ =>
    cases payload with
    | error message =>
      refine Or.inl ⟨.serialization message, ?_⟩
      simp only [publishInTx, accepted, Except.mapError, error_bind, ok_bind]
    | ok document =>
      rw [publishInTx_accepted h e eventId accepted document subjectId]
      cases added : tables.main.insert eventId
          (.fresh serial ⟨eventType, document, subjectId, e.now⟩) with
      | none => exact Or.inl ⟨_, rfl⟩
      | some main => exact Or.inr ⟨document, main, added, rfl⟩

theorem enqueueIdempotent_cases (eventType : String) (payload : Except String β) :
    (∃ error, enqueueIdempotent e st.table db eventId eventType payload = .error error) ∨
      enqueueIdempotent e st.table db eventId eventType payload = .ok (db, false) ∨
      ∃ document main, tables.main.insert eventId
          (.fresh serial ⟨eventType, document, none, e.now⟩) = some main ∧
        enqueueIdempotent e st.table db eventId eventType payload =
          .ok (db.set st.table (relation (serial + 1) main), true) := by
  cases accepted : validateEventType eventType with
  | error error =>
    refine Or.inl ⟨.outbox error, ?_⟩
    simp only [enqueueIdempotent, accepted, Except.mapError, error_bind]
  | ok _ =>
    cases payload with
    | error message =>
      refine Or.inl ⟨.serialization message, ?_⟩
      simp only [enqueueIdempotent, accepted, Except.mapError, error_bind, ok_bind]
    | ok document =>
      rw [enqueueIdempotent_accepted h e eventId accepted document]
      cases added : tables.main.insert eventId
          (.fresh serial ⟨eventType, document, none, e.now⟩) with
      | none => exact Or.inr (Or.inl rfl)
      | some main => exact Or.inr (Or.inr ⟨document, main, added, rfl⟩)

end Publishing

end OutboxSqlStore
