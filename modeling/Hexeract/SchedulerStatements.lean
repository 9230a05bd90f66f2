import Hexeract.LibraryTables

/-! # Statements of the scheduler's SQL stores

One definition per statement of `scheduled_messages`, over the columns the statements
read or write. Instants are compared by the database only, so their type is any linear
order: a timestamp, or the text SQLite compares byte by byte. The columns no statement
looks at (event, trigger and target) are carried in `content`. -/
namespace SchedulerStatements

open LibraryTables

structure Row (τ γ : Type) where
  content : γ
  scheduledFor : τ
  attempts : ℤ
  maxAttempts : ℤ
  leasedUntil : Option τ
  paused : Bool
  lastError : Option String
  deliveredAt : Option τ
  cancelledAt : Option τ
  deadLetteredAt : Option τ
  deriving DecidableEq, Repr

abbrev Schedules (κ τ γ : Type) := Table κ (Row τ γ)

def deadLetterExhaustedMessage : String :=
  "attempts exhausted by a crashed worker; dead-lettered by the sweeper"

variable {κ τ γ : Type}

def Row.isOpen (r : Row τ γ) : Bool :=
  r.deliveredAt.isNone && r.cancelledAt.isNone && r.deadLetteredAt.isNone

theorem not_isOpen_of_cancelled {r : Row τ γ} (h : r.cancelledAt.isSome = true) :
    r.isOpen = false := by
  cases hc : r.cancelledAt with
  | none =>
    rw [hc] at h
    cases h
  | some _ => simp [Row.isOpen, hc]

theorem not_isOpen_of_deadLettered {r : Row τ γ} (h : r.deadLetteredAt.isSome = true) :
    r.isOpen = false := by
  cases hd : r.deadLetteredAt with
  | none =>
    rw [hd] at h
    cases h
  | some _ => simp [Row.isOpen, hd]

section Clock

variable [LinearOrder τ]

def Row.isUnleased (now : τ) (r : Row τ γ) : Bool :=
  match r.leasedUntil with
  | none => true
  | some deadline => decide (deadline ≤ now)

def Row.isEligible (now : τ) (r : Row τ γ) : Bool :=
  decide (r.scheduledFor ≤ now) && r.isOpen && !r.paused &&
    decide (r.attempts < r.maxAttempts) && r.isUnleased now

def Row.isExhausted (now : τ) (r : Row τ γ) : Bool :=
  r.isOpen && !r.paused && decide (r.maxAttempts ≤ r.attempts) && r.isUnleased now

theorem isUnleased_iff {now : τ} {r : Row τ γ} :
    r.isUnleased now = true ↔ ∀ deadline, r.leasedUntil = some deadline → deadline ≤ now := by
  unfold Row.isUnleased
  cases r.leasedUntil <;> simp

theorem isOpen_of_isEligible {now : τ} {r : Row τ γ} (h : r.isEligible now = true) :
    r.isOpen = true := by
  simp only [Row.isEligible, Bool.and_eq_true] at h
  exact h.1.1.1.2

theorem isUnleased_of_isEligible {now : τ} {r : Row τ γ} (h : r.isEligible now = true) :
    r.isUnleased now = true := by
  simp only [Row.isEligible, Bool.and_eq_true] at h
  exact h.2

end Clock

/-- A row as `INSERT` leaves it: nine columns bound, the others at their defaults. -/
def Row.fresh (content : γ) (scheduledFor : τ) (maxAttempts : ℤ) : Row τ γ where
  content := content
  scheduledFor := scheduledFor
  attempts := 0
  maxAttempts := maxAttempts
  leasedUntil := none
  paused := false
  lastError := none
  deliveredAt := none
  cancelledAt := none
  deadLetteredAt := none

section Statements

variable [DecidableEq κ]

/-- An update of the row with this id where it meets a condition, and whether it
applied. -/
def updateById (t : Schedules κ τ γ) (id : κ) (p : Row τ γ → Bool)
    (f : Row τ γ → Row τ γ) : Schedules κ τ γ × Bool :=
  (t.updateWhere (fun k r => decide (k = id) && p r) f,
    decide (0 < t.affected fun k r => decide (k = id) && p r))

theorem find_updateById (t : Schedules κ τ γ) (id : κ) (p : Row τ γ → Bool)
    (f : Row τ γ → Row τ γ) (k : κ) :
    (updateById t id p f).1.find k =
      (t.find k).map fun r => if k = id ∧ p r = true then f r else r := by
  rw [updateById, find_updateWhere]
  simp

theorem updateById_applied (t : Schedules κ τ γ) (id : κ) (p : Row τ γ → Bool)
    (f : Row τ γ → Row τ γ) : (updateById t id p f).2 = (t.find id).any p := by
  rw [Bool.eq_iff_iff, updateById, decide_eq_true_eq, affected_pos]
  cases found : t.find id with
  | none => simp +contextual [found]
  | some r => simp [found]

def insert (t : Schedules κ τ γ) (id : κ) (content : γ) (scheduledFor : τ)
    (maxAttempts : ℤ) : Option (Schedules κ τ γ) :=
  t.insert id (.fresh content scheduledFor maxAttempts)

/-- The four acknowledgements share this guard: the row still carries exactly the lease
the caller's claim stamped on it and is not terminal. -/
def acknowledge (t : Schedules κ τ γ) [DecidableEq τ] (id : κ) (lease : τ)
    (f : Row τ γ → Row τ γ) : Schedules κ τ γ × Bool :=
  updateById t id (fun r => decide (r.leasedUntil = some lease) && r.isOpen) f

def markDelivered [DecidableEq τ] (now : τ) (t : Schedules κ τ γ) (id : κ) (lease : τ) :
    Schedules κ τ γ × Bool :=
  acknowledge t id lease fun r => { r with deliveredAt := some now, leasedUntil := none }

def reschedule [DecidableEq τ] (next : τ) (t : Schedules κ τ γ) (id : κ) (lease : τ) :
    Schedules κ τ γ × Bool :=
  acknowledge t id lease fun r =>
    { r with scheduledFor := next, attempts := 0, leasedUntil := none, lastError := none }

/-- `retryAt` is the database clock plus the bound retry interval. -/
def markFailed [DecidableEq τ] (retryAt : τ) (error : String) (t : Schedules κ τ γ) (id : κ)
    (lease : τ) : Schedules κ τ γ × Bool :=
  acknowledge t id lease fun r =>
    { r with leasedUntil := some retryAt, lastError := some error }

def markDeadLettered [DecidableEq τ] (now : τ) (error : String) (t : Schedules κ τ γ) (id : κ)
    (lease : τ) : Schedules κ τ γ × Bool :=
  acknowledge t id lease fun r =>
    { r with deadLetteredAt := some now, lastError := some error, leasedUntil := none }

def cancel (now : τ) (t : Schedules κ τ γ) (id : κ) : Schedules κ τ γ × Bool :=
  updateById t id Row.isOpen fun r => { r with cancelledAt := some now, leasedUntil := none }

def setPaused (paused : Bool) (t : Schedules κ τ γ) (id : κ) : Schedules κ τ γ × Bool :=
  updateById t id (fun _ => true) fun r => { r with paused := paused }

def resumeWithNext (next : τ) (t : Schedules κ τ γ) (id : κ) : Schedules κ τ γ × Bool :=
  updateById t id (fun r => r.paused && r.isOpen) fun r =>
    { r with paused := false, scheduledFor := next, attempts := 0, lastError := none,
             leasedUntil := none }

/-- Unpausing also clears the lease column. -/
def resumeOnly (t : Schedules κ τ γ) (id : κ) : Schedules κ τ γ × Bool :=
  updateById t id (fun r => r.paused && r.isOpen) fun r =>
    { r with paused := false, leasedUntil := none }

/-- The store's `resume` picks the statement by whether a new instant is given. -/
def resume (t : Schedules κ τ γ) (id : κ) : Option τ → Schedules κ τ γ × Bool
  | some next => resumeWithNext next t id
  | none => resumeOnly t id

def replay (now : τ) (t : Schedules κ τ γ) (id : κ) : Schedules κ τ γ × Bool :=
  updateById t id (fun r => r.deadLetteredAt.isSome) fun r =>
    { r with scheduledFor := now, attempts := 0, leasedUntil := none, lastError := none,
             paused := false, deadLetteredAt := none }

variable [LinearOrder τ]

/-- Unlike the acknowledgements the sweep carries no lease: it takes every row its
condition matches, and counts them. -/
def deadLetterExhausted (now : τ) (t : Schedules κ τ γ) : Schedules κ τ γ × ℕ :=
  (t.updateWhere (fun _ r => r.isExhausted now) fun r =>
      { r with deadLetteredAt := some now, lastError := some deadLetterExhaustedMessage,
               leasedUntil := none },
    t.affected fun _ r => r.isExhausted now)

/-- The rows a claim selects: eligible, oldest first, at most `limit`. Rows another
transaction holds are skipped, so `locked` may leave out any of them. -/
def dueRows (now : τ) (t : Schedules κ τ γ) (locked : List κ) (limit : ℕ) :
    List (κ × Row τ γ) :=
  t.select (fun row => row.2.isEligible now && !locked.contains row.1)
    (fun a b => compare a.2.scheduledFor b.2.scheduledFor) limit

/-- A claim stamps the lease `deadline`, the database clock plus the bound interval, and
consumes one attempt on every selected row, then returns those rows as they now stand.
MySQL reaches the same in one transaction: it selects and locks, updates by id and reads
the rows back. -/
def claimDue (now deadline : τ) (t : Schedules κ τ γ) (locked : List κ) (limit : ℕ) :
    Schedules κ τ γ × List (κ × Row τ γ) :=
  let ids := (dueRows now t locked limit).map Prod.fst
  let claimed := t.updateWhere (fun k _ => ids.contains k) fun r =>
    { r with leasedUntil := some deadline, attempts := r.attempts + 1 }
  (claimed, claimed.rows.filter fun row => ids.contains row.1)

theorem isEligible_of_mem_dueRows {now : τ} {t : Schedules κ τ γ} {locked : List κ}
    {limit : ℕ} {row : κ × Row τ γ} (mem : row ∈ dueRows now t locked limit) :
    t.find row.1 = some row.2 ∧ row.2.isEligible now = true := by
  obtain ⟨found, holds⟩ := mem_select mem
  rw [Bool.and_eq_true] at holds
  exact ⟨found, holds.1⟩

theorem find_deadLetterExhausted (now : τ) (t : Schedules κ τ γ) (k : κ) :
    (deadLetterExhausted now t).1.find k =
      (t.find k).map fun r => if r.isExhausted now = true then
        { r with deadLetteredAt := some now, lastError := some deadLetterExhaustedMessage,
                 leasedUntil := none } else r :=
  find_updateWhere _ _ _ _

theorem find_claimDue (now deadline : τ) (t : Schedules κ τ γ) (locked : List κ) (limit : ℕ)
    (k : κ) :
    (claimDue now deadline t locked limit).1.find k =
      (t.find k).map fun r =>
        if k ∈ (dueRows now t locked limit).map Prod.fst then
          { r with leasedUntil := some deadline, attempts := r.attempts + 1 }
        else r := by
  rw [claimDue, find_updateWhere]
  simp only [List.contains_iff_mem]

/-- What a claim returns: the row was eligible, and now carries the new lease and one
attempt more. -/
theorem claimDue_returns {now deadline : τ} {t : Schedules κ τ γ} {locked : List κ} {limit : ℕ}
    {row : κ × Row τ γ} (mem : row ∈ (claimDue now deadline t locked limit).2) :
    ∃ r, t.find row.1 = some r ∧ r.isEligible now = true ∧
      row.2 = { r with leasedUntil := some deadline, attempts := r.attempts + 1 } ∧
      (claimDue now deadline t locked limit).1.find row.1 = some row.2 := by
  obtain ⟨k, final⟩ := row
  obtain ⟨kept, chosen⟩ := List.mem_filter.mp mem
  have found : (claimDue now deadline t locked limit).1.find k = some final := find_of_mem kept
  rw [List.contains_iff_mem] at chosen
  obtain ⟨⟨_, r⟩, due, rfl⟩ := List.mem_map.mp chosen
  obtain ⟨old, eligible⟩ := isEligible_of_mem_dueRows due
  refine ⟨r, old, eligible, ?_, found⟩
  rw [find_claimDue, old, Option.map_some, if_pos chosen, Option.some.injEq] at found
  exact found.symm

theorem mem_claimDue {now deadline : τ} {t : Schedules κ τ γ} {locked : List κ} {limit : ℕ}
    {k : κ} {r : Row τ γ} (chosen : k ∈ (dueRows now t locked limit).map Prod.fst)
    (found : (claimDue now deadline t locked limit).1.find k = some r) :
    (k, r) ∈ (claimDue now deadline t locked limit).2 :=
  List.mem_filter.mpr ⟨find_eq_some.mp found, List.contains_iff_mem.mpr chosen⟩

theorem mem_claimDue_ids {now deadline : τ} {t : Schedules κ τ γ} {locked : List κ} {limit : ℕ}
    {k : κ} : k ∈ (claimDue now deadline t locked limit).2.map Prod.fst ↔
      k ∈ (dueRows now t locked limit).map Prod.fst := by
  rw [claimDue, mem_matching, find_updateWhere]
  simp only [List.contains_iff_mem]
  constructor
  · rintro ⟨_, _, chosen⟩
    exact chosen
  · intro chosen
    obtain ⟨⟨_, r⟩, due, rfl⟩ := List.mem_map.mp chosen
    rw [(isEligible_of_mem_dueRows due).1]
    exact ⟨_, rfl, chosen⟩

theorem claimDue_ids_nodup (now deadline : τ) (t : Schedules κ τ γ) (locked : List κ)
    (limit : ℕ) : ((claimDue now deadline t locked limit).2.map Prod.fst).Nodup :=
  (claimDue now deadline t locked limit).1.keyed.sublist (List.filter_sublist.map _)

end Statements

end SchedulerStatements
