import Hexeract.SchedulerMemory

/-! # Steps of the in-memory schedule store

One step is one method call. What a step can do to a schedule is said once for the deadline
it carries and once for the instant it is due at; runs are reasoned about through these. -/
namespace SchedulerMemorySteps

open LibraryTables StdTime BusEnvelope SchedulerMessages SchedulerMemory
open SchedulerWorker (Call)

variable {engine : CronEngine}

inductive Operation (engine : CronEngine) where
  | insert (message : ScheduledMessage engine) (maxAttempts : UInt32)
  | claimDue (batchSize : ℕ) (lease : Duration) (order : List Uuid)
  | acknowledge (id : Uuid) (lease : SystemTime) (call : Call)
  | deadLetterExhausted
  | cancel (id : Uuid)
  | setPaused (id : Uuid) (paused : Bool)
  | resume (id : Uuid) (next : Option SystemTime)
  | replay (id : Uuid)

inductive Report where
  | done
  | applied (flag : Bool)
  | claimed (ids : List Uuid)
  | swept (count : ℕ)
  | failed (error : SchedulerError)
  deriving DecidableEq

def Report.ofUnit : Except SchedulerError Unit → Report
  | .ok () => .done
  | .error e => .failed e

def Report.ofFlag : Except SchedulerError Bool → Report
  | .ok flag => .applied flag
  | .error e => .failed e

def Report.ofClaim : Except SchedulerError (List (LeasedOccurrence engine)) → Report
  | .ok batch => .claimed (batch.map fun o => o.message.scheduleId)
  | .error e => .failed e

def reporting {σ α : Type} (report : α → Report) (result : σ × α) : σ × Report :=
  (result.1, report result.2)

def step (now : SystemTime) (store : Store engine) :
    Operation engine → Store engine × Report
  | .insert message maxAttempts => (insert store message maxAttempts, .done)
  | .claimDue batchSize lease order =>
    reporting .ofClaim (claimDue now batchSize lease order store)
  | .acknowledge id lease call =>
    reporting .ofFlag (perform now call store id lease)
  | .deadLetterExhausted => reporting .swept (deadLetterExhausted now store)
  | .cancel id => reporting .ofUnit (cancel store id)
  | .setPaused id paused => reporting .ofUnit (setPaused paused store id)
  | .resume id next => reporting .ofUnit (resume next store id)
  | .replay id => reporting .ofUnit (replay now store id)


/-- A claim walks the whole map. -/
def Walks (store : Store engine) : Operation engine → Prop
  | .claimDue _ _ order => order.Perm (store.rows.map Prod.fst)
  | _ => True

instance (store : Store engine) : (op : Operation engine) → Decidable (Walks store op)
  | .claimDue _ _ order => inferInstanceAs (Decidable (order.Perm (store.rows.map Prod.fst)))
  | .insert _ _ => isTrue trivial
  | .acknowledge _ _ _ => isTrue trivial
  | .deadLetterExhausted => isTrue trivial
  | .cancel _ => isTrue trivial
  | .setPaused _ _ => isTrue trivial
  | .resume _ _ => isTrue trivial
  | .replay _ => isTrue trivial

/-- An inserted schedule is a new one. -/
def Fresh (store : Store engine) : Operation engine → Prop
  | .insert message _ => store.find message.scheduleId = none
  | _ => True

instance (store : Store engine) : (op : Operation engine) → Decidable (Fresh store op)
  | .insert message _ => inferInstanceAs (Decidable (store.find message.scheduleId = none))
  | .claimDue _ _ _ => isTrue trivial
  | .acknowledge _ _ _ => isTrue trivial
  | .deadLetterExhausted => isTrue trivial
  | .cancel _ => isTrue trivial
  | .setPaused _ _ => isTrue trivial
  | .resume _ _ => isTrue trivial
  | .replay _ => isTrue trivial

def newDeadline (now : SystemTime) (store : Store engine) (op : Operation engine) (k : Uuid) :
    Option SystemTime :=
  match op with
  | .claimDue batchSize lease order =>
    if k ∈ chosen now batchSize order store then now.checkedAdd lease else none
  | .acknowledge id lease (.failed retryIn _) =>
    if k = id ∧ (fencedPending store id lease).isSome = true then now.checkedAdd retryIn
    else none
  | _ => none

def newInstant (now : SystemTime) (store : Store engine) (op : Operation engine) (k : Uuid) :
    Option SystemTime :=
  match op with
  | .acknowledge id lease (.reschedule next) =>
    if k = id ∧ (fencedPending store id lease).isSome = true then some next else none
  | .resume id next =>
    if k = id ∧ (store.find id).any (fun stored => decide (stored.status = .paused)) = true
    then next else none
  | .replay id =>
    if k = id ∧ (store.find id).any (fun stored => decide (stored.status = .deadLettered)) = true
    then some now else none
  | _ => none

theorem fencedPending_isSome {store : Store engine} {id : Uuid} {lease : SystemTime}
    {stored : StoredSchedule engine} (found : store.find id = some stored) :
    (fencedPending store id lease).isSome = true ↔
      stored.status = .pending ∧ stored.leasedUntil = some lease := by
  rw [Option.isSome_iff_exists]
  simp only [fencedPending_eq_some, found, Option.some.injEq]
  constructor
  · rintro ⟨_, rfl, held⟩
    exact held
  · exact fun held => ⟨stored, rfl, held⟩

theorem find_claim {now : SystemTime} {store : Store engine} {batchSize : ℕ} {lease : Duration}
    {order : List Uuid} (walks : Walks store (.claimDue batchSize lease order)) (k : Uuid) :
    (step now store (.claimDue batchSize lease order)).1.find k =
      (store.find k).map fun stored =>
        match newDeadline now store (.claimDue batchSize lease order) k with
        | none => stored
        | some deadline => stored.claim deadline := by
  rw [step, reporting, find_claimDue now batchSize lease (walks.nodup_iff.mpr store.keyed)]
  refine Option.map_congr fun stored _ => ?_
  cases added : now.checkedAdd lease <;>
    by_cases taken : k ∈ chosen now batchSize order store <;>
    simp [newDeadline, added, taken]

theorem acknowledge_cases {store : Store engine} {id : Uuid} {lease : SystemTime}
    {f : StoredSchedule engine → Except SchedulerError (StoredSchedule engine)} {k : Uuid}
    {after : StoredSchedule engine} (found : (acknowledge store id lease f).1.find k = some after) :
    ∃ before, store.find k = some before ∧
      after = if k = id ∧ (fencedPending store id lease).isSome = true then
        (f before).toOption.getD before else before := by
  rw [find_acknowledge] at found
  obtain ⟨before, hbefore, rfl⟩ := Option.map_eq_some_iff.mp found
  refine ⟨before, hbefore, ?_⟩
  by_cases same : k = id
  · subst same
    simp only [true_and, fencedPending_isSome hbefore]
  · simp only [same, false_and, if_false]

theorem withSchedule_cases {store : Store engine} {id : Uuid}
    {f : StoredSchedule engine → Except SchedulerError (StoredSchedule engine)} {k : Uuid}
    {after : StoredSchedule engine} (found : (withSchedule store id f).1.find k = some after) :
    ∃ before, store.find k = some before ∧
      after = if k = id then (f before).toOption.getD before else before := by
  rw [find_withSchedule] at found
  obtain ⟨before, hbefore, rfl⟩ := Option.map_eq_some_iff.mp found
  exact ⟨before, hbefore, rfl⟩

/-- Everything a step can do to a schedule that is there. -/
inductive Change (now : SystemTime) (store : Store engine) (k : Uuid) :
    Operation engine → StoredSchedule engine → StoredSchedule engine → Prop where
  | kept {op : Operation engine} {stored : StoredSchedule engine}
      (unstamped : newDeadline now store op k = none) (still : newInstant now store op k = none) :
      Change now store k op stored stored
  | claimed {batchSize : ℕ} {lease : Duration} {order : List Uuid} {deadline : SystemTime}
      {stored : StoredSchedule engine} (claimable : stored.isClaimable now = true)
      (stamped : newDeadline now store (.claimDue batchSize lease order) k = some deadline) :
      Change now store k (.claimDue batchSize lease order) stored (stored.claim deadline)
  | delivered {lease : SystemTime} {stored : StoredSchedule engine}
      (pending : stored.status = .pending) (held : stored.leasedUntil = some lease) :
      Change now store k (.acknowledge k lease .delivered) stored
        { stored with status := .delivered, leasedUntil := none }
  | rescheduled {lease next : SystemTime} {stored : StoredSchedule engine}
      (pending : stored.status = .pending) (held : stored.leasedUntil = some lease)
      (moves : newInstant now store (.acknowledge k lease (.reschedule next)) k = some next) :
      Change now store k (.acknowledge k lease (.reschedule next)) stored
        { stored with message := { stored.message with scheduledFor := next }, attempts := 0,
                      leasedUntil := none, lastError := none }
  | failed {lease retryAt : SystemTime} {retryIn : Duration} {error : String}
      {stored : StoredSchedule engine} (pending : stored.status = .pending)
      (held : stored.leasedUntil = some lease)
      (stamped : newDeadline now store (.acknowledge k lease (.failed retryIn error)) k =
        some retryAt) :
      Change now store k (.acknowledge k lease (.failed retryIn error)) stored
        { stored with leasedUntil := some retryAt, lastError := some error }
  | deadLettered {lease : SystemTime} {error : String} {stored : StoredSchedule engine}
      (pending : stored.status = .pending) (held : stored.leasedUntil = some lease) :
      Change now store k (.acknowledge k lease (.deadLettered error)) stored
        { stored with status := .deadLettered, leasedUntil := none, lastError := some error,
                      deadLetteredAt := some now }
  | swept {stored : StoredSchedule engine} (exhausted : stored.isExhausted now = true) :
      Change now store k .deadLetterExhausted stored
        { stored with status := .deadLettered, leasedUntil := none,
                      lastError := some SchedulerStatements.deadLetterExhaustedMessage,
                      deadLetteredAt := some now }
  | cancelled {stored : StoredSchedule engine} (alive : isTerminal stored.status = false) :
      Change now store k (.cancel k) stored
        { stored with status := .cancelled, leasedUntil := none }
  | paused {stored : StoredSchedule engine} (pending : stored.status = .pending) :
      Change now store k (.setPaused k true) stored { stored with status := .paused }
  | unpaused {stored : StoredSchedule engine} (paused : stored.status = .paused) :
      Change now store k (.setPaused k false) stored { stored with status := .pending }
  | resumed {stored : StoredSchedule engine} (paused : stored.status = .paused) :
      Change now store k (.resume k none) stored { stored with status := .pending }
  | realigned {next : SystemTime} {stored : StoredSchedule engine}
      (paused : stored.status = .paused)
      (moves : newInstant now store (.resume k (some next)) k = some next) :
      Change now store k (.resume k (some next)) stored
        { stored with status := .pending, attempts := 0, lastError := none, leasedUntil := none,
                      message := { stored.message with scheduledFor := next } }
  | replayed {stored : StoredSchedule engine} (dead : stored.status = .deadLettered)
      (moves : newInstant now store (.replay k) k = some now) :
      Change now store k (.replay k) stored
        { stored with status := .pending, attempts := 0, lastError := none, leasedUntil := none,
                      deadLetteredAt := none,
                      message := { stored.message with scheduledFor := now } }

section Cases

variable {now : SystemTime} {store : Store engine} {k : Uuid} {after : StoredSchedule engine}

theorem claim_change {batchSize : ℕ} {lease : Duration} {order : List Uuid}
    (walks : Walks store (.claimDue batchSize lease order))
    (found : (step now store (.claimDue batchSize lease order)).1.find k = some after) :
    ∃ before, store.find k = some before ∧
      Change now store k (.claimDue batchSize lease order) before after := by
  rw [find_claim walks] at found
  obtain ⟨before, hbefore, rfl⟩ := Option.map_eq_some_iff.mp found
  refine ⟨before, hbefore, ?_⟩
  cases stamped : newDeadline now store (.claimDue batchSize lease order) k with
  | none => exact .kept stamped rfl
  | some deadline =>
    refine .claimed ?_ stamped
    by_cases taken : k ∈ chosen now batchSize order store
    · have claimable := isClaimable_of_mem_chosen taken
      rwa [isClaimable, hbefore, Option.any_some] at claimable
    · rw [newDeadline, if_neg taken] at stamped
      cases stamped

theorem acknowledge_change {id : Uuid} {lease : SystemTime} {call : Call}
    (found : (step now store (.acknowledge id lease call)).1.find k = some after) :
    ∃ before, store.find k = some before ∧
      Change now store k (.acknowledge id lease call) before after := by
  have parts : ∀ {f}, (acknowledge store id lease f).1.find k = some after →
      (¬(k = id ∧ (fencedPending store id lease).isSome = true) → Change now store k
        (.acknowledge id lease call) after after) →
      (∀ before, k = id → before.status = .pending → before.leasedUntil = some lease →
        (fencedPending store id lease).isSome = true → Change now store k
        (.acknowledge id lease call) before ((f before).toOption.getD before)) →
      ∃ before, store.find k = some before ∧
        Change now store k (.acknowledge id lease call) before after := by
    intro f found unfenced fenced
    obtain ⟨before, hbefore, rfl⟩ := acknowledge_cases found
    refine ⟨before, hbefore, ?_⟩
    by_cases held : k = id ∧ (fencedPending store id lease).isSome = true
    · rw [if_pos held]
      obtain ⟨rfl, isSome⟩ := held
      obtain ⟨pending, leased⟩ := (fencedPending_isSome hbefore).mp isSome
      exact fenced before rfl pending leased isSome
    · rw [if_neg held] at unfenced ⊢
      exact unfenced held
  cases call with
  | delivered =>
    refine parts found (fun _ => .kept rfl rfl) ?_
    rintro before rfl pending held _
    exact .delivered pending held
  | reschedule next =>
    refine parts found (fun unfenced => .kept rfl (if_neg unfenced)) ?_
    rintro before rfl pending held fenced
    exact .rescheduled pending held (if_pos ⟨rfl, fenced⟩)
  | failed retryIn error =>
    refine parts found (fun unfenced => .kept (if_neg unfenced) rfl) ?_
    rintro before rfl pending held fenced
    have stamped : newDeadline now store (.acknowledge k lease (.failed retryIn error)) k =
        now.checkedAdd retryIn := if_pos ⟨rfl, fenced⟩
    cases added : now.checkedAdd retryIn with
    | none => exact .kept (stamped.trans added) rfl
    | some retryAt => exact .failed pending held (stamped.trans added)
  | deadLettered error =>
    refine parts found (fun _ => .kept rfl rfl) ?_
    rintro before rfl pending held _
    exact .deadLettered pending held

theorem withSchedule_change {op : Operation engine} {id : Uuid}
    {f : StoredSchedule engine → Except SchedulerError (StoredSchedule engine)}
    (found : (withSchedule store id f).1.find k = some after)
    (unstamped : newDeadline now store op k = none)
    (other : k ≠ id → newInstant now store op k = none)
    (own : ∀ before, store.find k = some before → k = id →
      Change now store k op before ((f before).toOption.getD before)) :
    ∃ before, store.find k = some before ∧ Change now store k op before after := by
  obtain ⟨before, hbefore, rfl⟩ := withSchedule_cases found
  refine ⟨before, hbefore, ?_⟩
  by_cases same : k = id
  · rw [if_pos same]
    exact own before hbefore same
  · rw [if_neg same]
    exact .kept unstamped (other same)

theorem resume_change {id : Uuid} {next : Option SystemTime}
    (found : (step now store (.resume id next)).1.find k = some after) :
    ∃ before, store.find k = some before ∧ Change now store k (.resume id next) before after := by
  refine withSchedule_change found rfl (fun other => if_neg fun held => other held.1) ?_
  rintro before hbefore rfl
  by_cases paused : before.status = .paused
  · have moves : newInstant now store (.resume k next) k = next :=
      if_pos ⟨rfl, by rw [hbefore, Option.any_some, paused]; rfl⟩
    cases next with
    | none =>
      simp only [paused, ne_eq, not_true_eq_false, if_false]
      exact .resumed paused
    | some instant =>
      simp only [paused, ne_eq, not_true_eq_false, if_false]
      exact .realigned paused moves
  · simp only [paused, ne_eq, not_false_eq_true, if_true]
    refine .kept rfl (if_neg fun held => paused ?_)
    simpa [hbefore] using held.2

theorem replay_change {id : Uuid}
    (found : (step now store (.replay id)).1.find k = some after) :
    ∃ before, store.find k = some before ∧ Change now store k (.replay id) before after := by
  refine withSchedule_change found rfl (fun other => if_neg fun held => other held.1) ?_
  rintro before hbefore rfl
  by_cases dead : before.status = .deadLettered
  · simp only [dead, ne_eq, not_true_eq_false, if_false]
    exact .replayed dead (if_pos ⟨rfl, by rw [hbefore, Option.any_some, dead]; rfl⟩)
  · simp only [dead, ne_eq, not_false_eq_true, if_true]
    refine .kept rfl (if_neg fun held => dead ?_)
    simpa [hbefore] using held.2

/-- A schedule that is there after a step was inserted by it, or was there before. -/
theorem step_cases {op : Operation engine} (walks : Walks store op)
    (found : (step now store op).1.find k = some after) :
    (∃ message maxAttempts, op = .insert message maxAttempts ∧ message.scheduleId = k ∧
        after = .fresh message maxAttempts) ∨
      ∃ before, store.find k = some before ∧ Change now store k op before after := by
  cases op with
  | insert message maxAttempts =>
    rw [step, find_insert] at found
    by_cases same : k = message.scheduleId
    · rw [if_pos same] at found
      cases found
      exact .inl ⟨message, maxAttempts, rfl, same.symm, rfl⟩
    · rw [if_neg same] at found
      exact .inr ⟨after, found, .kept rfl rfl⟩
  | claimDue batchSize lease order => exact .inr (claim_change walks found)
  | acknowledge id lease call => exact .inr (acknowledge_change found)
  | deadLetterExhausted =>
    rw [step, reporting, deadLetterExhausted, find_updateWhere] at found
    obtain ⟨before, hbefore, rfl⟩ := Option.map_eq_some_iff.mp found
    refine .inr ⟨before, hbefore, ?_⟩
    by_cases exhausted : before.isExhausted now = true
    · rw [if_pos exhausted]
      exact .swept exhausted
    · rw [if_neg exhausted]
      exact .kept rfl rfl
  | cancel id =>
    refine .inr (withSchedule_change found rfl (fun _ => rfl) ?_)
    rintro before _ rfl
    cases terminal : isTerminal before.status with
    | true => simpa [terminal, Except.toOption] using Change.kept rfl rfl
    | false => simpa [terminal, Except.toOption] using Change.cancelled terminal
  | setPaused id paused =>
    refine .inr (withSchedule_change found rfl (fun _ => rfl) ?_)
    rintro before _ rfl
    cases paused <;> cases status : before.status <;> dsimp only
    case true.pending => exact .paused status
    case false.paused => exact .unpaused status
    all_goals exact .kept rfl rfl
  | resume id next => exact .inr (resume_change found)
  | replay id => exact .inr (replay_change found)

end Cases

theorem perform_of_unfenced {store : Store engine} {id : Uuid} {lease : SystemTime}
    (unfenced : fencedPending store id lease = none) (now : SystemTime) (call : Call) :
    perform now call store id lease = (store, .ok false) := by
  cases call <;> simp only [perform, markDelivered, reschedule, markFailed, markDeadLettered,
    acknowledge, unfenced]

/-- What a step does to the lease of a schedule: it stamps a new deadline, clears the lease
or leaves it. -/
theorem leasedUntil_step {now : SystemTime} {store : Store engine} {op : Operation engine}
    (walks : Walks store op) {k : Uuid} {after : StoredSchedule engine}
    (found : (step now store op).1.find k = some after) :
    after.leasedUntil = newDeadline now store op k ∨
      newDeadline now store op k = none ∧
        ∃ before, store.find k = some before ∧ after.leasedUntil = before.leasedUntil := by
  rcases step_cases walks found with ⟨_, _, rfl, _, rfl⟩ | ⟨before, hbefore, change⟩
  · exact .inl rfl
  · cases change with
    | kept unstamped _ => exact .inr ⟨unstamped, _, hbefore, rfl⟩
    | claimed _ stamped => exact .inl stamped.symm
    | failed _ _ stamped => exact .inl stamped.symm
    | paused _ => exact .inr ⟨rfl, _, hbefore, rfl⟩
    | unpaused _ => exact .inr ⟨rfl, _, hbefore, rfl⟩
    | resumed _ => exact .inr ⟨rfl, _, hbefore, rfl⟩
    | _ => exact .inl rfl

def moved (message : ScheduledMessage engine) (instant : Option SystemTime) :
    ScheduledMessage engine :=
  { message with scheduledFor := instant.getD message.scheduledFor }

theorem change_step {now : SystemTime} {store : Store engine} {op : Operation engine}
    (walks : Walks store op) (fresh : Fresh store op) {k : Uuid} {before : StoredSchedule engine}
    (found : store.find k = some before) :
    ∃ after, (step now store op).1.find k = some after ∧ Change now store k op before after := by
  have present : ∃ after, (step now store op).1.find k = some after := by
    cases op with
    | insert message maxAttempts =>
      rw [step, find_insert]
      by_cases same : k = message.scheduleId
      · exact ⟨_, if_pos same⟩
      · exact ⟨before, by rw [if_neg same, found]⟩
    | claimDue batchSize lease order =>
      rw [find_claim walks, found]
      exact ⟨_, rfl⟩
    | acknowledge id lease call =>
      cases call <;> exact ⟨_, (find_acknowledge store id lease _ k).trans (by rw [found]; rfl)⟩
    | deadLetterExhausted =>
      rw [step, reporting, deadLetterExhausted, find_updateWhere, found]
      exact ⟨_, rfl⟩
    | cancel id => exact ⟨_, (find_withSchedule store id _ k).trans (by rw [found]; rfl)⟩
    | setPaused id paused =>
      exact ⟨_, (find_withSchedule store id _ k).trans (by rw [found]; rfl)⟩
    | resume id next => exact ⟨_, (find_withSchedule store id _ k).trans (by rw [found]; rfl)⟩
    | replay id => exact ⟨_, (find_withSchedule store id _ k).trans (by rw [found]; rfl)⟩
  obtain ⟨after, hafter⟩ := present
  refine ⟨after, hafter, ?_⟩
  rcases step_cases walks hafter with ⟨message, _, rfl, rfl, _⟩ | ⟨same, hsame, change⟩
  · rw [fresh] at found
    cases found
  · rw [found] at hsame
    cases hsame
    exact change

theorem message_change {now : SystemTime} {store : Store engine} {op : Operation engine} {k : Uuid}
    {before after : StoredSchedule engine} (change : Change now store k op before after) :
    after.message = moved before.message (newInstant now store op k) := by
  cases change with
  | kept _ still => rw [still]; rfl
  | rescheduled _ _ moves => rw [moves]; rfl
  | realigned _ moves => rw [moves]; rfl
  | replayed _ moves => rw [moves]; rfl
  | resumed paused =>
    rw [newInstant]
    split <;> rfl
  | _ => rfl

theorem message_step {now : SystemTime} {store : Store engine} {op : Operation engine}
    (walks : Walks store op) {k : Uuid} {after : StoredSchedule engine}
    (found : (step now store op).1.find k = some after) :
    (∃ message maxAttempts, op = .insert message maxAttempts ∧ message.scheduleId = k ∧
        after = .fresh message maxAttempts) ∨
      ∃ before, store.find k = some before ∧
        after.message = moved before.message (newInstant now store op k) := by
  refine (step_cases walks found).imp_right ?_
  rintro ⟨before, hbefore, change⟩
  exact ⟨before, hbefore, message_change change⟩

theorem exists_step {now : SystemTime} {store : Store engine} {op : Operation engine}
    (walks : Walks store op) (fresh : Fresh store op) {k : Uuid} {before : StoredSchedule engine}
    (found : store.find k = some before) :
    ∃ after, (step now store op).1.find k = some after ∧
      after.message = moved before.message (newInstant now store op k) := by
  obtain ⟨after, hafter, change⟩ := change_step walks fresh found
  exact ⟨after, hafter, message_change change⟩

theorem find_of_newInstant {now : SystemTime} {store : Store engine} {op : Operation engine}
    {k : Uuid} {instant : SystemTime} (moves : newInstant now store op k = some instant) :
    ∃ stored, store.find k = some stored := by
  have present : ∀ {c : StoredSchedule engine → Bool} {i : Option SystemTime} {id : Uuid},
      (if k = id ∧ (store.find id).any c = true then i else none) = some instant →
        ∃ stored, store.find k = some stored := by
    intro c i id moved
    by_cases held : k = id ∧ (store.find id).any c = true
    · obtain ⟨rfl, holds⟩ := held
      cases found : store.find k with
      | none => simp [found] at holds
      | some stored => exact ⟨stored, rfl⟩
    · rw [if_neg held] at moved
      cases moved
  cases op with
  | acknowledge id lease call =>
    cases call with
    | reschedule next =>
      rw [newInstant] at moves
      by_cases held : k = id ∧ (fencedPending store id lease).isSome = true
      · obtain ⟨rfl, fenced⟩ := held
        obtain ⟨stored, hstored⟩ := Option.isSome_iff_exists.mp fenced
        exact ⟨stored, (fencedPending_eq_some.mp hstored).1⟩
      · rw [if_neg held] at moves
        cases moves
    | _ => cases moves
  | resume id next => exact present moves
  | replay id => exact present moves
  | _ => cases moves

theorem leasedUntil_of_newInstant {now : SystemTime} {store : Store engine}
    {op : Operation engine} (walks : Walks store op) {k : Uuid} {after : StoredSchedule engine}
    {instant : SystemTime} (found : (step now store op).1.find k = some after)
    (moves : newInstant now store op k = some instant) : after.leasedUntil = none := by
  rcases step_cases walks found with ⟨_, _, rfl, _, rfl⟩ | ⟨before, hbefore, change⟩
  · rfl
  · cases change with
    | kept _ still =>
      rw [still] at moves
      cases moves
    | resumed _ =>
      rw [newInstant] at moves
      split at moves <;> cases moves
    | claimed _ _ => cases moves
    | failed _ _ _ => cases moves
    | paused _ => cases moves
    | unpaused _ => cases moves
    | _ => rfl

/-- A schedule that carries a lease after a step kept its message. -/
theorem message_of_leased {now : SystemTime} {store : Store engine} {op : Operation engine}
    (walks : Walks store op) {k : Uuid} {after : StoredSchedule engine} {deadline : SystemTime}
    (found : (step now store op).1.find k = some after)
    (leased : after.leasedUntil = some deadline) :
    ∃ before, store.find k = some before ∧ after.message = before.message := by
  rcases message_step walks found with ⟨_, _, _, _, rfl⟩ | ⟨before, hbefore, moves⟩
  · cases leased
  · refine ⟨before, hbefore, ?_⟩
    cases instant : newInstant now store op k with
    | none => rw [moves, instant]; rfl
    | some _ =>
      rw [leasedUntil_of_newInstant walks found instant] at leased
      cases leased

/-- The methods behind `SchedulerControl` and replay. -/
def isControl : Operation engine → Bool
  | .cancel _ | .setPaused _ _ | .resume _ _ | .replay _ => true
  | _ => false

theorem paused_step {now : SystemTime} {store : Store engine} {op : Operation engine}
    (walks : Walks store op) (fresh : Fresh store op) (work : isControl op = false) {k : Uuid}
    {stored : StoredSchedule engine} (found : store.find k = some stored)
    (paused : stored.status = .paused) : (step now store op).1.find k = some stored := by
  obtain ⟨after, hafter, change⟩ := change_step walks fresh found
  cases change with
  | kept _ _ => exact hafter
  | claimed claimable _ => simp [StoredSchedule.isClaimable, paused] at claimable
  | delivered pending _ => cases paused.symm.trans pending
  | rescheduled pending _ _ => cases paused.symm.trans pending
  | failed pending _ _ => cases paused.symm.trans pending
  | deadLettered pending _ => cases paused.symm.trans pending
  | swept exhausted => simp [StoredSchedule.isExhausted, paused] at exhausted
  | _ => cases work

theorem keyed_step {now : SystemTime} {store : Store engine} {op : Operation engine}
    (walks : Walks store op) (keyed : Keyed store) : Keyed (step now store op).1 := by
  intro k after found
  rcases message_step walks found with ⟨message, maxAttempts, _, key, rfl⟩ | ⟨before, hbefore, same⟩
  · exact key
  · rw [same]
    exact keyed k before hbefore

/-! ## Occurrences handed out -/

def handed (now : SystemTime) (store : Store engine) : Operation engine →
    List (LeasedOccurrence engine)
  | .claimDue batchSize lease order =>
    ((claimDue now batchSize lease order store).2.toOption).getD []
  | _ => []

def token (o : LeasedOccurrence engine) : Uuid × SystemTime :=
  (o.message.scheduleId, o.leasedUntil)

theorem handed_tokens {now : SystemTime} {store : Store engine} {batchSize : ℕ}
    {lease : Duration} {order : List Uuid} (walks : Walks store (.claimDue batchSize lease order))
    (keyed : Keyed store) :
    (handed now store (.claimDue batchSize lease order)).map token =
      match now.checkedAdd lease with
      | none => []
      | some deadline => (chosen now batchSize order store).map fun id => (id, deadline) := by
  cases added : now.checkedAdd lease with
  | none => simp [handed, claimDue, added, Except.toOption]
  | some deadline =>
    rw [handed, claimDue_returns now batchSize (walks.nodup_iff.mpr store.keyed) store added]
    exact returned_tokens keyed now batchSize order deadline

theorem newDeadline_of_handed {now : SystemTime} {store : Store engine} {op : Operation engine}
    (walks : Walks store op) (keyed : Keyed store) {k : Uuid} {deadline : SystemTime}
    (mem : (k, deadline) ∈ (handed now store op).map token) :
    newDeadline now store op k = some deadline := by
  cases op with
  | claimDue batchSize lease order =>
    rw [handed_tokens walks keyed] at mem
    cases added : now.checkedAdd lease with
    | none => simp [added] at mem
    | some leasedUntil =>
      simp only [added, List.mem_map, Prod.mk.injEq] at mem
      obtain ⟨_, taken, rfl, rfl⟩ := mem
      rw [newDeadline, if_pos taken, added]
  | _ => cases mem

theorem message_of_handed {now : SystemTime} {store : Store engine} {op : Operation engine}
    (walks : Walks store op) (keyed : Keyed store) {o : LeasedOccurrence engine}
    (mem : o ∈ handed now store op) :
    ∃ stored, store.find o.message.scheduleId = some stored ∧ stored.message = o.message := by
  cases op with
  | claimDue batchSize lease order =>
    cases added : now.checkedAdd lease with
    | none => simp [handed, claimDue, added, Except.toOption] at mem
    | some deadline =>
      rw [handed, claimDue_returns now batchSize (walks.nodup_iff.mpr store.keyed) store
        added] at mem
      obtain ⟨id, _, taken⟩ := List.mem_filterMap.mp mem
      obtain ⟨stored, found, rfl⟩ := Option.map_eq_some_iff.mp taken
      exact ⟨stored, (keyed id stored found).symm ▸ found, rfl⟩
  | _ => cases mem

theorem newInstant_of_handed {now : SystemTime} {store : Store engine} {op : Operation engine}
    {o : LeasedOccurrence engine} (mem : o ∈ handed now store op) (k : Uuid) :
    newInstant now store op k = none := by
  cases op with
  | claimDue batchSize lease order => rfl
  | _ => cases mem

theorem handed_nodup {now : SystemTime} {store : Store engine} {op : Operation engine}
    (walks : Walks store op) (keyed : Keyed store) :
    (((handed now store op).map token).map Prod.fst).Nodup := by
  cases op with
  | claimDue batchSize lease order =>
    rw [handed_tokens walks keyed]
    cases now.checkedAdd lease with
    | none => exact List.nodup_nil
    | some deadline =>
      rw [List.map_map]
      exact (chosen_nodup now batchSize (walks.nodup_iff.mpr store.keyed) store).map
        Function.injective_id
  | _ => exact List.nodup_nil

end SchedulerMemorySteps
