import Hexeract.LibraryTables

/-! # Statements and settlements of the SQL outbox

The outbox table is keyed by the event id; `serial` is the column that orders a poll. A
claim advances the attempt counter, and the number it wrote is the fence of every later
settlement: no settlement writes the counter. -/
namespace OutboxStatements

open LibraryCollections LibraryTables

inductive Dialect where
  | postgres
  | mysql
  | sqlite
  deriving DecidableEq, Repr

/-- A boxed source error is kept as the text it would render. -/
inductive OutboxError where
  | database (source : String)
  | internal (message : String)
  deriving DecidableEq, Repr

/-- `content` stands for the event columns, which no statement looks at. -/
structure Row (τ γ : Type) where
  serial : ℕ
  content : γ
  attempts : ℤ
  lastError : Option String
  nextRetryAt : Option τ
  deliveredAt : Option τ
  deriving DecidableEq, Repr

/-- The dead-letter table requires an error text. -/
structure DeadLetter (γ : Type) where
  content : γ
  attempts : ℤ
  lastError : String
  deriving DecidableEq, Repr

structure Tables (κ τ γ : Type) where
  main : Table κ (Row τ γ)
  deadLetter : Table κ (DeadLetter γ)

/-- The part of a polled envelope the worker's transactions use. -/
structure Envelope (κ : Type) where
  eventId : κ
  attempts : ℕ
  deriving DecidableEq, Repr

/-- The attempt number this envelope's claim wrote. -/
def Envelope.claimedAttempt {κ : Type} (e : Envelope κ) : ℕ := e.attempts + 1

def i32Max : ℕ := 2 ^ 31 - 1

/-- PostgreSQL and MySQL bind the budget as a 32-bit integer, SQLite as a 64-bit one. -/
def Dialect.pollBound : Dialect → ℕ → ℕ
  | .sqlite, maxAttempts => maxAttempts
  | _, maxAttempts => min maxAttempts i32Max

theorem pollBound_le (dialect : Dialect) (maxAttempts : ℕ) :
    dialect.pollBound maxAttempts ≤ maxAttempts := by
  cases dialect with
  | sqlite => exact le_rfl
  | postgres | mysql => exact min_le_left _ _

theorem pollBound_eq (dialect : Dialect) {maxAttempts : ℕ} (h : maxAttempts ≤ i32Max) :
    dialect.pollBound maxAttempts = maxAttempts := by
  cases dialect with
  | sqlite => rfl
  | postgres | mysql => exact min_eq_left h

/-- A fence the `attempts` column cannot hold is refused, never clamped. -/
def fenceValue (value : ℕ) : Except OutboxError ℤ :=
  if value ≤ i32Max then .ok value
  else .error (.internal
    ("attempt number " ++ toString value ++ " does not fit the INTEGER attempts column"))

/-- The counter as the envelope carries it: negative values count as zero. -/
def attemptsOf (attempts : ℤ) : ℕ := min (max attempts 0).toNat (2 ^ 32 - 1)

variable {κ τ γ : Type}

def Row.fresh (serial : ℕ) (content : γ) : Row τ γ := ⟨serial, content, 0, none, none, none⟩

section Clock

variable [LinearOrder τ]

/-- No lease or backoff lies ahead on the database clock. -/
def Row.isElapsed (now : τ) (r : Row τ γ) : Bool :=
  match r.nextRetryAt with
  | none => true
  | some instant => decide (instant ≤ now)

def Row.isPollable (now : τ) (bound : ℕ) (r : Row τ γ) : Bool :=
  r.deliveredAt.isNone && decide (r.attempts < bound) && r.isElapsed now

/-- Rows another transaction has locked are skipped. -/
def poll [DecidableEq κ] (now : τ) (bound : ℕ) (t : Table κ (Row τ γ)) (locked : List κ)
    (limit : ℕ) : List (κ × Row τ γ) :=
  t.select (fun row => row.2.isPollable now bound && !locked.contains row.1)
    (fun a b => compare a.2.serial b.2.serial) limit

end Clock

section Statements

variable [DecidableEq κ]

def Fence (eventId : κ) (attempt : ℤ) (k : κ) (r : Row τ γ) : Bool :=
  decide (k = eventId) && decide (r.attempts = attempt) && r.deliveredAt.isNone

def settleWhere (t : Table κ (Row τ γ)) (eventId : κ) (attempt : ℤ) (f : Row τ γ → Row τ γ) :
    Table κ (Row τ γ) × Bool :=
  (t.updateWhere (Fence eventId attempt) f, decide (0 < t.affected (Fence eventId attempt)))

def markDelivered (now : τ) (t : Table κ (Row τ γ)) (eventId : κ) (attempt : ℤ) :
    Table κ (Row τ γ) × Bool :=
  settleWhere t eventId attempt fun r => { r with deliveredAt := some now }

/-- `retryAt` is the database clock plus the bound backoff interval. -/
def markFailed (error : String) (retryAt : τ) (t : Table κ (Row τ γ)) (eventId : κ)
    (attempt : ℤ) : Table κ (Row τ γ) × Bool :=
  settleWhere t eventId attempt fun r =>
    { r with lastError := some error, nextRetryAt := some retryAt }

/-- Copies the row, if there is one; the copy fails where the dead-letter table already
has the event id, or where the row carries no error text. -/
def insertDeadLetter (t : Tables κ τ γ) (eventId : κ) :
    Except OutboxError (Table κ (DeadLetter γ)) :=
  match t.main.find eventId with
  | none => .ok t.deadLetter
  | some r =>
    match r.lastError with
    | none => .error (.database "null value in column last_error")
    | some lastError =>
      match t.deadLetter.insert eventId ⟨r.content, r.attempts, lastError⟩ with
      | none => .error (.database "duplicate key value in column event_id")
      | some deadLetter => .ok deadLetter

def deleteFromMain (t : Table κ (Row τ γ)) (eventId : κ) (attempt : ℤ) :
    Table κ (Row τ γ) × Bool :=
  (t.deleteWhere (Fence eventId attempt), decide (0 < t.affected (Fence eventId attempt)))

/-- The copy and the removal share a savepoint, which is rolled back where the removal
matches nothing. Without a dead-letter table there is nothing to write. -/
def markDeadLettered (deadLettering : Bool) (t : Tables κ τ γ) (eventId : κ) (attempt : ℤ) :
    Except OutboxError (Tables κ τ γ × Bool) :=
  if deadLettering = false then .ok (t, true)
  else
    match insertDeadLetter t eventId with
    | .error e => .error e
    | .ok deadLetter =>
      let removed := deleteFromMain t.main eventId attempt
      if removed.2 then .ok (⟨removed.1, deadLetter⟩, true) else .ok (t, false)

inductive Applied where
  | nothing
  | delivered
  | failed
  | deadLettered
  deriving DecidableEq, Repr

def settleDelivered (now : τ) (t : Tables κ τ γ) (eventId : κ) (attempt : ℤ) :
    Tables κ τ γ × Applied :=
  let marked := markDelivered now t.main eventId attempt
  ({ t with main := marked.1 }, if marked.2 then .delivered else .nothing)

/-- After a failed dispatch: the failure is recorded first, and an exhausted envelope is
dead-lettered in the same transaction only if that applied. -/
def settleFailed (deadLettering : Bool) (exhausted : Prop) [Decidable exhausted]
    (message : String) (retryAt : τ) (t : Tables κ τ γ) (eventId : κ) (attempt : ℤ) :
    Except OutboxError (Tables κ τ γ × Applied) :=
  let recorded := markFailed message retryAt t.main eventId attempt
  let t' : Tables κ τ γ := { t with main := recorded.1 }
  if recorded.2 = false then .ok (t', .nothing)
  else if exhausted then
    (markDeadLettered deadLettering t' eventId attempt).map fun moved =>
      (moved.1, if deadLettering && moved.2 then .deadLettered else .failed)
  else .ok (t', .failed)

/-- The settlement transaction of one dispatched envelope; an error rolls it back. -/
def dispatchAndSettle (deadLettering : Bool) (maxAttempts : ℕ) (now retryAt : τ)
    (t : Tables κ τ γ) (e : Envelope κ) (outcome : Except String Unit) :
    Except OutboxError (Tables κ τ γ × Applied) := do
  let attempt ← fenceValue e.claimedAttempt
  match outcome with
  | .ok () => return settleDelivered now t e.eventId attempt
  | .error message =>
    settleFailed deadLettering (maxAttempts ≤ e.claimedAttempt) message retryAt t e.eventId attempt

/-- One conditional update for the whole batch: a row whose counter has moved since the
poll is left alone. `deadline` is the database clock plus the lease. Returned are the
identifiers obtained, in the order they were offered. -/
def claim (deadline : τ) (t : Table κ (Row τ γ)) (claims : List (κ × ℤ)) :
    Table κ (Row τ γ) × List κ :=
  let matched := fun (k : κ) (r : Row τ γ) => claims.contains (k, r.attempts)
  let obtained := (t.rows.filter fun row => matched row.1 row.2).map Prod.fst
  (t.updateWhere matched fun r =>
      { r with nextRetryAt := some deadline, attempts := r.attempts + 1 },
    (claims.map Prod.fst).filter obtained.contains)

/-- The row a settlement of this attempt applies to. -/
def Fenced (t : Table κ (Row τ γ)) (eventId : κ) (attempt : ℤ) : Prop :=
  ∃ r, t.find eventId = some r ∧ r.attempts = attempt ∧ r.deliveredAt = none

theorem fence_iff {eventId k : κ} {attempt : ℤ} {r : Row τ γ} :
    Fence eventId attempt k r = true ↔
      k = eventId ∧ r.attempts = attempt ∧ r.deliveredAt = none := by
  simp [Fence, and_assoc]

theorem affected_fence {t : Table κ (Row τ γ)} {eventId : κ} {attempt : ℤ} :
    0 < t.affected (Fence eventId attempt) ↔ Fenced t eventId attempt := by
  rw [affected_pos]
  simp only [fence_iff]
  constructor
  · rintro ⟨_, r, found, rfl, matched⟩
    exact ⟨r, found, matched⟩
  · rintro ⟨r, found, matched⟩
    exact ⟨eventId, r, found, rfl, matched⟩

theorem settleWhere_applied {t : Table κ (Row τ γ)} {eventId : κ} {attempt : ℤ}
    {f : Row τ γ → Row τ γ} :
    (settleWhere t eventId attempt f).2 = true ↔ Fenced t eventId attempt := by
  rw [settleWhere, decide_eq_true_eq, affected_fence]

theorem find_settleWhere (t : Table κ (Row τ γ)) (eventId : κ) (attempt : ℤ)
    (f : Row τ γ → Row τ γ) (k : κ) :
    (settleWhere t eventId attempt f).1.find k =
      (t.find k).map fun r =>
        if k = eventId ∧ r.attempts = attempt ∧ r.deliveredAt = none then f r else r := by
  rw [settleWhere, find_updateWhere]
  simp only [fence_iff]

theorem find_claim (deadline : τ) (t : Table κ (Row τ γ)) (claims : List (κ × ℤ)) (k : κ) :
    (claim deadline t claims).1.find k =
      (t.find k).map fun r => if (k, r.attempts) ∈ claims then
        { r with nextRetryAt := some deadline, attempts := r.attempts + 1 } else r := by
  rw [claim, find_updateWhere]
  simp only [List.contains_iff_mem]

theorem mem_claim {deadline : τ} {t : Table κ (Row τ γ)} {claims : List (κ × ℤ)} {k : κ} :
    k ∈ (claim deadline t claims).2 ↔ ∃ r, t.find k = some r ∧ (k, r.attempts) ∈ claims := by
  simp only [claim, List.mem_filter, List.contains_iff_mem, List.mem_map, Prod.exists,
    exists_and_right, exists_eq_right, find_eq_some]
  constructor
  · rintro ⟨_, r, stored, offered⟩
    exact ⟨r, stored, offered⟩
  · rintro ⟨r, stored, offered⟩
    exact ⟨⟨_, offered⟩, r, stored, offered⟩

theorem fenceValue_ok {value : ℕ} {attempt : ℤ} :
    fenceValue value = .ok attempt ↔ value ≤ i32Max ∧ attempt = value := by
  unfold fenceValue
  split
  · rename_i h
    simp [h, eq_comm]
  · rename_i h
    simp [h]

/-- What a committed settlement did. -/
inductive Settles (deadLettering : Bool) (maxAttempts : ℕ) (now retryAt : τ)
    (t : Tables κ τ γ) (e : Envelope κ) : Except String Unit → Tables κ τ γ → Applied → Prop where
  | refused {outcome : Except String Unit} {t' : Tables κ τ γ}
      (stale : ¬Fenced t.main e.eventId e.claimedAttempt)
      (rows : ∀ k, t'.main.find k = t.main.find k) :
      Settles deadLettering maxAttempts now retryAt t e outcome t' .nothing
  | delivered {t' : Tables κ τ γ} {r : Row τ γ} (found : t.main.find e.eventId = some r)
      (attempt : r.attempts = e.claimedAttempt) (undelivered : r.deliveredAt = none)
      (rows : ∀ k, t'.main.find k = if k = e.eventId then
        some { r with deliveredAt := some now } else t.main.find k) :
      Settles deadLettering maxAttempts now retryAt t e (.ok ()) t' .delivered
  | failed {message : String} {t' : Tables κ τ γ} {r : Row τ γ}
      (found : t.main.find e.eventId = some r) (attempt : r.attempts = e.claimedAttempt)
      (undelivered : r.deliveredAt = none)
      (remains : maxAttempts ≤ e.claimedAttempt → deadLettering = false)
      (rows : ∀ k, t'.main.find k = if k = e.eventId then
        some { r with lastError := some message, nextRetryAt := some retryAt }
        else t.main.find k) :
      Settles deadLettering maxAttempts now retryAt t e (.error message) t' .failed
  | deadLettered {message : String} {t' : Tables κ τ γ} {r : Row τ γ}
      (found : t.main.find e.eventId = some r) (attempt : r.attempts = e.claimedAttempt)
      (undelivered : r.deliveredAt = none) (exhausted : maxAttempts ≤ e.claimedAttempt)
      (rows : ∀ k, t'.main.find k = if k = e.eventId then none else t.main.find k) :
      Settles deadLettering maxAttempts now retryAt t e (.error message) t' .deadLettered

theorem find_settleWhere_fenced {t : Table κ (Row τ γ)} {eventId : κ} {attempt : ℤ}
    {r : Row τ γ} (found : t.find eventId = some r) (matched : r.attempts = attempt)
    (undelivered : r.deliveredAt = none) (f : Row τ γ → Row τ γ) (k : κ) :
    (settleWhere t eventId attempt f).1.find k =
      if k = eventId then some (f r) else t.find k := by
  rw [find_settleWhere]
  by_cases same : k = eventId
  · subst same
    rw [found, Option.map_some, if_pos ⟨rfl, matched, undelivered⟩, if_pos rfl]
  · rw [if_neg same]
    simp [same]

theorem find_settleWhere_stale {t : Table κ (Row τ γ)} {eventId : κ} {attempt : ℤ}
    (stale : ¬Fenced t eventId attempt) (f : Row τ γ → Row τ γ) (k : κ) :
    (settleWhere t eventId attempt f).1.find k = t.find k := by
  rw [find_settleWhere]
  cases found : t.find k with
  | none => rfl
  | some r =>
    rw [Option.map_some, if_neg]
    rintro ⟨rfl, matched⟩
    exact stale ⟨r, found, matched⟩

theorem find_deleteFromMain (t : Table κ (Row τ γ)) (eventId : κ) (attempt : ℤ) (k : κ) :
    (deleteFromMain t eventId attempt).1.find k =
      (t.find k).filter fun r => !Fence eventId attempt k r :=
  find_deleteWhere _ _ _

theorem find_deleteFromMain_fenced {t : Table κ (Row τ γ)} {eventId : κ} {attempt : ℤ}
    {r : Row τ γ} (found : t.find eventId = some r) (matched : r.attempts = attempt)
    (undelivered : r.deliveredAt = none) (k : κ) :
    (deleteFromMain t eventId attempt).1.find k = if k = eventId then none else t.find k := by
  rw [find_deleteFromMain]
  by_cases same : k = eventId
  · subst same
    have fence : Fence k attempt k r = true := fence_iff.mpr ⟨rfl, matched, undelivered⟩
    rw [if_pos rfl, found, Option.filter_some_neg (by simp [fence])]
  · rw [if_neg same]
    have spared : ∀ r : Row τ γ, Fence eventId attempt k r = false := by
      intro r
      simp [Fence, same]
    cases t.find k with
    | none => rfl
    | some r => rw [Option.filter_some_pos (by simp [spared])]

/-- A dead-lettering right after the failure was recorded removes the row: the fence it
checks was not written in between. -/
theorem markDeadLettered_fenced {t : Tables κ τ γ} {eventId : κ} {attempt : ℤ} {r : Row τ γ}
    (found : t.main.find eventId = some r) (matched : r.attempts = attempt)
    (undelivered : r.deliveredAt = none) {moved : Tables κ τ γ × Bool}
    (h : markDeadLettered true t eventId attempt = .ok moved) :
    moved.2 = true ∧ ∀ k, moved.1.main.find k = if k = eventId then none else t.main.find k := by
  unfold markDeadLettered at h
  rw [if_neg (by simp)] at h
  cases copied : insertDeadLetter t eventId with
  | error e =>
    rw [copied] at h
    cases h
  | ok deadLetter =>
    have removed : (deleteFromMain t.main eventId attempt).2 = true :=
      decide_eq_true (affected_fence.mpr ⟨r, found, matched, undelivered⟩)
    rw [copied] at h
    simp only [removed, if_true, Except.ok.injEq] at h
    subst h
    exact ⟨rfl, find_deleteFromMain_fenced found matched undelivered⟩

theorem settles_of_failed {deadLettering : Bool} {maxAttempts : ℕ} {now retryAt : τ}
    {t t' : Tables κ τ γ} {e : Envelope κ} {message : String} {a : Applied}
    (h : settleFailed deadLettering (maxAttempts ≤ e.claimedAttempt) message retryAt t e.eventId
      e.claimedAttempt = .ok (t', a)) :
    Settles deadLettering maxAttempts now retryAt t e (.error message) t' a := by
  unfold settleFailed at h
  by_cases fenced : Fenced t.main e.eventId e.claimedAttempt
  · have applied : (markFailed message retryAt t.main e.eventId e.claimedAttempt).2 = true :=
      settleWhere_applied.mpr fenced
    obtain ⟨r, found, matched, undelivered⟩ := fenced
    have rows : ∀ k, (markFailed message retryAt t.main e.eventId e.claimedAttempt).1.find k =
        if k = e.eventId then some { r with lastError := some message, nextRetryAt := some retryAt }
        else t.main.find k :=
      find_settleWhere_fenced found matched undelivered _
    simp only [applied, Bool.true_eq_false, if_false] at h
    split at h
    · rename_i exhausted
      obtain ⟨moved, hm, shape⟩ := map_ok.mp h
      cases shape
      cases deadLettering with
      | false =>
        cases hm
        exact .failed found matched undelivered (fun _ => rfl) rows
      | true =>
        have row := rows e.eventId
        rw [if_pos rfl] at row
        obtain ⟨gone, main⟩ := markDeadLettered_fenced
          (r := { r with lastError := some message, nextRetryAt := some retryAt })
          row matched undelivered hm
        rw [gone]
        refine .deadLettered found matched undelivered exhausted fun k => ?_
        rw [main, rows]
        split <;> rfl
    · rename_i remaining
      cases h
      exact .failed found matched undelivered (fun exhausted => absurd exhausted remaining) rows
  · have refused : (markFailed message retryAt t.main e.eventId e.claimedAttempt).2 = false :=
      eq_false_of_ne_true (mt settleWhere_applied.mp fenced)
    simp only [refused, if_true] at h
    cases h
    exact .refused fenced (find_settleWhere_stale fenced _)

theorem settles_of_ok {deadLettering : Bool} {maxAttempts : ℕ} {now retryAt : τ}
    {t t' : Tables κ τ γ} {e : Envelope κ} {outcome : Except String Unit} {a : Applied}
    (h : dispatchAndSettle deadLettering maxAttempts now retryAt t e outcome = .ok (t', a)) :
    Settles deadLettering maxAttempts now retryAt t e outcome t' a := by
  obtain ⟨attempt, fence, h⟩ := bind_ok.mp h
  obtain ⟨_, rfl⟩ := fenceValue_ok.mp fence
  cases outcome with
  | error message => exact settles_of_failed h
  | ok done =>
    cases h
    by_cases fenced : Fenced t.main e.eventId e.claimedAttempt
    · have applied : (markDelivered now t.main e.eventId e.claimedAttempt).2 = true :=
        settleWhere_applied.mpr fenced
      obtain ⟨r, found, matched, undelivered⟩ := fenced
      rw [applied, if_pos rfl]
      exact .delivered found matched undelivered
        (find_settleWhere_fenced found matched undelivered _)
    · have refused : (markDelivered now t.main e.eventId e.claimedAttempt).2 = false :=
        eq_false_of_ne_true (mt settleWhere_applied.mp fenced)
      rw [refused, if_neg Bool.false_ne_true]
      exact .refused fenced (find_settleWhere_stale fenced _)

theorem exists_insertDeadLetter {t : Tables κ τ γ} {eventId : κ}
    (described : ∀ r, t.main.find eventId = some r → r.lastError ≠ none)
    (free : t.deadLetter.find eventId = none) :
    ∃ deadLetter, insertDeadLetter t eventId = .ok deadLetter := by
  unfold insertDeadLetter
  cases found : t.main.find eventId with
  | none => exact ⟨_, rfl⟩
  | some r =>
    obtain ⟨lastError, text⟩ := Option.ne_none_iff_exists'.mp (described r found)
    dsimp only
    rw [text]
    dsimp only
    cases inserted : t.deadLetter.insert eventId ⟨r.content, r.attempts, lastError⟩ with
    | none => exact absurd free (insert_eq_none.mp inserted)
    | some deadLetter => exact ⟨deadLetter, rfl⟩

theorem exists_settleFailed {deadLettering : Bool} {exhausted : Prop} [Decidable exhausted]
    {message : String} {retryAt : τ} {t : Tables κ τ γ} {eventId : κ} {attempt : ℤ}
    (free : exhausted → Fenced t.main eventId attempt → t.deadLetter.find eventId = none) :
    ∃ result, settleFailed deadLettering exhausted message retryAt t eventId attempt =
      .ok result := by
  unfold settleFailed
  dsimp only
  split
  · exact ⟨_, rfl⟩
  · rename_i recorded
    split
    · rename_i last
      have applied : (markFailed message retryAt t.main eventId attempt).2 = true := by
        simpa using recorded
      obtain ⟨r, found, matched, undelivered⟩ := settleWhere_applied.mp applied
      have described : ∀ r', (markFailed message retryAt t.main eventId attempt).1.find eventId =
          some r' → r'.lastError ≠ none := by
        intro r' found'
        rw [markFailed, find_settleWhere_fenced found matched undelivered, if_pos rfl] at found'
        cases found'
        exact Option.some_ne_none message
      obtain ⟨deadLetter, copied⟩ := exists_insertDeadLetter
        (t := { t with main := (markFailed message retryAt t.main eventId attempt).1 })
        described (free last ⟨r, found, matched, undelivered⟩)
      simp only [map_ok, markDeadLettered, copied]
      split
      · exact ⟨_, _, rfl, rfl⟩
      · split <;> exact ⟨_, _, rfl, rfl⟩
    · exact ⟨_, rfl⟩

/-- A settlement commits unless its fence cannot be bound, or the last failure of a row
finds the event id in the dead-letter table. -/
theorem exists_dispatchAndSettle {deadLettering : Bool} {maxAttempts : ℕ} {now retryAt : τ}
    {t : Tables κ τ γ} {e : Envelope κ} {outcome : Except String Unit}
    (bindable : e.claimedAttempt ≤ i32Max)
    (free : outcome ≠ .ok () → maxAttempts ≤ e.claimedAttempt →
      Fenced t.main e.eventId e.claimedAttempt → t.deadLetter.find e.eventId = none) :
    ∃ result, dispatchAndSettle deadLettering maxAttempts now retryAt t e outcome =
      .ok result := by
  have fence : fenceValue e.claimedAttempt = .ok (e.claimedAttempt : ℤ) :=
    fenceValue_ok.mpr ⟨bindable, rfl⟩
  unfold dispatchAndSettle
  simp only [bind_ok, fence]
  cases outcome with
  | ok done => exact ⟨_, _, rfl, rfl⟩
  | error message =>
    have exhausted : maxAttempts ≤ e.claimedAttempt →
        Fenced t.main e.eventId e.claimedAttempt → t.deadLetter.find e.eventId = none :=
      free (by simp)
    obtain ⟨result, settled⟩ := exists_settleFailed exhausted
    exact ⟨result, _, rfl, settled⟩

section Committed

variable {deadLettering : Bool} {maxAttempts : ℕ} {now retryAt : τ} {t t' : Tables κ τ γ}
  {e : Envelope κ} {outcome : Except String Unit} {a : Applied}

theorem Settles.find_other (h : Settles deadLettering maxAttempts now retryAt t e outcome t' a)
    {k : κ} (other : k ≠ e.eventId) : t'.main.find k = t.main.find k := by
  cases h with
  | refused _ rows => exact rows k
  | delivered _ _ _ rows | failed _ _ _ _ rows | deadLettered _ _ _ _ rows =>
    rw [rows, if_neg other]

theorem Settles.row_of_row (h : Settles deadLettering maxAttempts now retryAt t e outcome t' a)
    {k : κ} {r' : Row τ γ} (found' : t'.main.find k = some r') :
    ∃ r, t.main.find k = some r ∧ r'.attempts = r.attempts := by
  by_cases same : k = e.eventId
  · subst same
    cases h with
    | refused _ rows =>
      rw [rows] at found'
      exact ⟨r', found', rfl⟩
    | deadLettered _ _ _ _ rows =>
      rw [rows, if_pos rfl] at found'
      cases found'
    | delivered found _ _ rows | failed found _ _ _ rows =>
      rw [rows, if_pos rfl] at found'
      cases found'
      exact ⟨_, found, rfl⟩
  · rw [h.find_other same] at found'
    exact ⟨r', found', rfl⟩

theorem Settles.find_of_unfenced
    (h : Settles deadLettering maxAttempts now retryAt t e outcome t' a) {k : κ} {r : Row τ γ}
    (found : t.main.find k = some r)
    (unfenced : k = e.eventId → r.attempts = e.claimedAttempt → r.deliveredAt ≠ none) :
    t'.main.find k = some r := by
  by_cases same : k = e.eventId
  · subst same
    have other : ∀ {r' : Row τ γ}, t.main.find e.eventId = some r' →
        r'.attempts = e.claimedAttempt → r'.deliveredAt ≠ none := by
      intro r' found' attempt
      rw [found] at found'
      cases found'
      exact unfenced rfl attempt
    cases h with
    | refused _ rows => rw [rows, found]
    | delivered found' attempt undelivered _ | failed found' attempt undelivered _ _
    | deadLettered found' attempt undelivered _ _ =>
      exact absurd undelivered (other found' attempt)
  · rw [h.find_other same, found]

/-- A settlement that reports to have applied, or changed a row, found its fence. -/
theorem Settles.fenced_of_applied
    (h : Settles deadLettering maxAttempts now retryAt t e outcome t' a)
    (applied : a ≠ .nothing ∨ ∃ k, t'.main.find k ≠ t.main.find k) :
    Fenced t.main e.eventId e.claimedAttempt := by
  cases h with
  | refused _ rows =>
    rcases applied with reported | ⟨k, changed⟩
    · exact absurd rfl reported
    · exact absurd (rows k) changed
  | deadLettered found attempt undelivered _ _ | delivered found attempt undelivered _
  | failed found attempt undelivered _ _ => exact ⟨_, found, attempt, undelivered⟩

end Committed

end Statements

end OutboxStatements
