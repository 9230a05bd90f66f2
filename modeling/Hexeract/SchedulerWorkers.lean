import Hexeract.SchedulerOccurrences

/-! # Workers and control over the in-memory store

Any number of workers run their poll cycles over one store, on one clock: a worker sweeps,
reads the clock, claims a batch and settles its occurrences one by one. Reading the clock,
asking the sink, computing the call that follows and making it are steps of their own, so
that anything may happen between them. A crash leaves what the worker held. Control decides
on a schedule it has inspected and makes its call later. -/
namespace SchedulerWorkers

open LibraryTables LibraryMachines StdTime BusEnvelope SchedulerMessages SchedulerMemory
open SchedulerMemorySteps SchedulerWorker
open SchedulerOccurrences (ControlCall callOf StrictlyAfter resumeCall_realigns callOf_reschedule)

variable {engine : CronEngine} {n : ℕ}

/-! ## One worker -/

/-- Where a worker is in its cycle, with the occurrences it still has to settle. -/
inductive Phase (engine : CronEngine) where
  | idle
  | swept
  | claiming (reading : SystemTime)
  | settling (batch : List (LeasedOccurrence engine))
  | dispatching (o : LeasedOccurrence engine) (began : SystemTime)
      (rest : List (LeasedOccurrence engine))
  | answered (o : LeasedOccurrence engine) (call : Call) (rest : List (LeasedOccurrence engine))

/-- What a worker meets: the order of the map it walks, the sink's answer and the jitter. -/
structure Choice where
  order : List Uuid
  outcome : Except String Unit
  draw : UInt64 → UInt64

/-- The store operation of the next step, with the clock reading it goes by. -/
def Phase.operation (config : SchedulerWorkerConfig) (now : SystemTime) (choice : Choice) :
    Phase engine → Option (SystemTime × Operation engine)
  | .idle => some (now, .deadLetterExhausted)
  | .claiming reading => some (reading, .claimDue config.batchSize config.lease choice.order)
  | .answered o call _ => some (now, .acknowledge o.message.scheduleId o.leasedUntil call)
  | _ => none

/-- A failed claim ends the cycle like an empty one, and an occurrence whose next instant
cannot be computed is left to its lease. -/
def Phase.next (config : SchedulerWorkerConfig) (now : SystemTime) (store : Store engine)
    (choice : Choice) : Phase engine → Phase engine
  | .idle => .swept
  | .swept => .claiming now
  | .claiming reading =>
    .settling (handed reading store (.claimDue config.batchSize config.lease choice.order))
  | .settling [] => .idle
  | .settling (o :: rest) =>
    if o.leasedUntil ≤ now then .settling rest else .dispatching o now rest
  | .dispatching o _ rest =>
    match callOf config choice.draw o choice.outcome now with
    | .ok call => .answered o call rest
    | .error _ => .settling rest
  | .answered _ _ rest => .settling rest

def Phase.begins (now : SystemTime) : Phase engine → List (LeasedOccurrence engine)
  | .settling (o :: _) => if o.leasedUntil ≤ now then [] else [o]
  | _ => []

def Phase.claims (config : SchedulerWorkerConfig) (store : Store engine) (choice : Choice) :
    Phase engine → List (LeasedOccurrence engine)
  | .claiming reading =>
    handed reading store (.claimDue config.batchSize config.lease choice.order)
  | _ => []

/-- The occurrences a worker has claimed and not yet acknowledged. -/
def Phase.held : Phase engine → List (LeasedOccurrence engine)
  | .settling batch => batch
  | .dispatching o _ rest => o :: rest
  | .answered o _ rest => o :: rest
  | _ => []

/-- The next occurrence a worker has computed and not yet stored. -/
def Phase.computed : Phase engine → Option (LeasedOccurrence engine × SystemTime)
  | .answered o (.reschedule next) _ => some (o, next)
  | _ => none

/-! ## The system -/

/-- `control` holds the calls decided on and not yet made, `dispatched` every occurrence the
sink was invoked for. -/
structure State (engine : CronEngine) (n : ℕ) where
  now : SystemTime
  store : Store engine
  workers : Fin n → Phase engine
  control : List (Uuid × ControlCall)
  dispatched : List (LeasedOccurrence engine)

def initial (now : SystemTime) : State engine n := ⟨now, .empty, fun _ => .idle, [], []⟩

inductive Event (engine : CronEngine) (n : ℕ) where
  | tick (later : SystemTime)
  | insert (message : ScheduledMessage engine) (maxAttempts : UInt32)
  | advance (i : Fin n) (choice : Choice)
  | crash (i : Fin n)
  | pause (id : Uuid)
  | cancel (id : Uuid)
  | resume (id : Uuid)
  | finish (id : Uuid) (call : ControlCall)

def cancelDecision (store : Store engine) (id : Uuid) : Option ControlCall :=
  (inspect store id).bind fun snapshot =>
    if isTerminal snapshot.status then none else some .cancel

/-- While it is paused the schedule stays as it is, so the snapshot and the clock reading
after it are taken together. -/
def resumeDecision (store : Store engine) (id : Uuid) (now : SystemTime) : Option ControlCall :=
  (inspect store id).bind fun snapshot =>
    match resumeCall snapshot now with
    | .ok (some next) => some (.resume next)
    | _ => none

def controlOperation (id : Uuid) : ControlCall → Operation engine
  | .cancel => .cancel id
  | .resume next => .resume id next

section Machine

variable (workers : Fin n → Worker)

def operationOf (s : State engine n) : Event engine n → Option (SystemTime × Operation engine)
  | .insert message maxAttempts => some (s.now, .insert message maxAttempts)
  | .advance i choice => (s.workers i).operation (workers i).config s.now choice
  | .pause id => some (s.now, .setPaused id true)
  | .finish id call => some (s.now, controlOperation id call)
  | _ => none

def workersAfter (s : State engine n) : Event engine n → Fin n → Phase engine
  | .advance i choice => Function.update s.workers i
      ((s.workers i).next (workers i).config s.now s.store choice)
  | .crash i => Function.update s.workers i .idle
  | _ => s.workers

def controlAfter (s : State engine n) : Event engine n → List (Uuid × ControlCall)
  | .cancel id => (cancelDecision s.store id).elim s.control fun call => (id, call) :: s.control
  | .resume id =>
    (resumeDecision s.store id s.now).elim s.control fun call => (id, call) :: s.control
  | .finish id call => s.control.erase (id, call)
  | _ => s.control

def dispatchedBy (s : State engine n) : Event engine n → List (LeasedOccurrence engine)
  | .advance i _ => (s.workers i).begins s.now
  | _ => []

def claimed (s : State engine n) : Event engine n → List (LeasedOccurrence engine)
  | .advance i choice => (s.workers i).claims (workers i).config s.store choice
  | _ => []

def clockAfter (s : State engine n) : Event engine n → SystemTime
  | .tick later => later
  | _ => s.now

def performed (store : Store engine) : Option (SystemTime × Operation engine) → Store engine
  | none => store
  | some (reading, op) => (step reading store op).1

def next (s : State engine n) (e : Event engine n) : State engine n where
  now := clockAfter s e
  store := performed s.store (operationOf workers s e)
  workers := workersAfter workers s e
  control := controlAfter s e
  dispatched := s.dispatched ++ dispatchedBy s e

/-- The clock never goes back, and control makes the calls it has decided on. -/
def Possible (s : State engine n) : Event engine n → Prop
  | .tick later => s.now ≤ later
  | .finish id call => (id, call) ∈ s.control
  | _ => True

instance (s : State engine n) : (e : Event engine n) → Decidable (Possible s e)
  | .tick later => inferInstanceAs (Decidable (s.now ≤ later))
  | .finish id call => inferInstanceAs (Decidable ((id, call) ∈ s.control))
  | .insert _ _ => isTrue trivial
  | .advance _ _ => isTrue trivial
  | .crash _ => isTrue trivial
  | .pause _ => isTrue trivial
  | .cancel _ => isTrue trivial
  | .resume _ => isTrue trivial

/-- A claim walks the whole map, and an inserted schedule is a new one. -/
def Admits (store : Store engine) : Option (SystemTime × Operation engine) → Prop
  | none => True
  | some (_, op) => Walks store op ∧ Fresh store op

instance (store : Store engine) : (op : Option (SystemTime × Operation engine)) →
    Decidable (Admits store op)
  | none => isTrue trivial
  | some (_, op) => inferInstanceAs (Decidable (Walks store op ∧ Fresh store op))

def Enabled (s : State engine n) (e : Event engine n) : Prop :=
  Possible s e ∧ Admits s.store (operationOf workers s e)

instance (s : State engine n) (e : Event engine n) : Decidable (Enabled workers s e) :=
  inferInstanceAs (Decidable (_ ∧ _))

def machine : Machine (State engine n) (Event engine n) := ⟨Enabled workers, next workers⟩

instance (s : State engine n) (e : Event engine n) : Decidable ((machine workers).enabled s e) :=
  inferInstanceAs (Decidable (Enabled workers s e))

end Machine

/-! ## What an event does to a schedule -/

theorem status_of_isClaimable {now : SystemTime} {stored : StoredSchedule engine}
    (claimable : stored.isClaimable now = true) :
    stored.status = .pending ∧ stored.message.scheduledFor ≤ now ∧
      stored.isUnleased now = true ∧ stored.attempts < stored.maxAttempts := by
  simp only [StoredSchedule.isClaimable, Bool.and_eq_true, decide_eq_true_eq] at claimable
  exact ⟨claimable.1.1.1, claimable.1.1.2, claimable.1.2, claimable.2⟩

theorem realigning_of_resumeDecision (strict : StrictlyAfter engine) {k : Uuid}
    {store : Store engine} {now instant : SystemTime}
    (decided : resumeDecision store k now = some (.resume (some instant))) :
    ∃ stored, store.find k = some stored ∧ stored.status = .paused ∧
      stored.message.scheduledFor ≤ now ∧ now < instant := by
  obtain ⟨snapshot, inspected, chosen⟩ := Option.bind_eq_some_iff.mp decided
  obtain ⟨stored, found, rfl⟩ := Option.map_eq_some_iff.mp inspected
  refine ⟨stored, found, ?_⟩
  cases answer : resumeCall stored.toSnapshot now with
  | error _ =>
    rw [answer] at chosen
    cases chosen
  | ok call =>
    rw [answer] at chosen
    cases call with
    | none => cases chosen
    | some call =>
      cases chosen
      exact resumeCall_realigns strict answer

section Steps

variable {workers : Fin n → Worker} {s : State engine n} {e : Event engine n}

/-- The operations events turn into; none of them is a replay. -/
inductive Issues (workers : Fin n → Worker) (s : State engine n) :
    Event engine n → SystemTime → Operation engine → Prop where
  | insert (message : ScheduledMessage engine) (maxAttempts : UInt32) :
      Issues workers s (.insert message maxAttempts) s.now (.insert message maxAttempts)
  | sweep (i : Fin n) (choice : Choice) (stands : s.workers i = .idle) :
      Issues workers s (.advance i choice) s.now .deadLetterExhausted
  | claim (i : Fin n) (choice : Choice) (reading : SystemTime)
      (stands : s.workers i = .claiming reading) :
      Issues workers s (.advance i choice) reading
        (.claimDue (workers i).config.batchSize (workers i).config.lease choice.order)
  | acknowledge (i : Fin n) (choice : Choice) (o : LeasedOccurrence engine) (call : Call)
      (rest : List (LeasedOccurrence engine)) (stands : s.workers i = .answered o call rest) :
      Issues workers s (.advance i choice) s.now
        (.acknowledge o.message.scheduleId o.leasedUntil call)
  | pause (id : Uuid) : Issues workers s (.pause id) s.now (.setPaused id true)
  | cancel (id : Uuid) : Issues workers s (.finish id .cancel) s.now (.cancel id)
  | resume (id : Uuid) (next : Option SystemTime) :
      Issues workers s (.finish id (.resume next)) s.now (.resume id next)

theorem issues_of_operationOf {reading : SystemTime} {op : Operation engine}
    (issued : operationOf workers s e = some (reading, op)) : Issues workers s e reading op := by
  cases e with
  | insert message maxAttempts =>
    cases issued
    exact .insert message maxAttempts
  | advance i choice =>
    rw [operationOf] at issued
    cases stands : s.workers i with
    | idle =>
      rw [stands] at issued
      cases issued
      exact .sweep i choice stands
    | claiming read =>
      rw [stands] at issued
      cases issued
      exact .claim i choice _ stands
    | answered o call rest =>
      rw [stands] at issued
      cases issued
      exact .acknowledge i choice o call rest stands
    | _ =>
      rw [stands] at issued
      cases issued
  | pause id =>
    cases issued
    exact .pause id
  | finish id call =>
    cases issued
    cases call with
    | cancel => exact .cancel id
    | resume next => exact .resume id next
  | _ => cases issued

theorem admits_of_issued (enabled : Enabled workers s e) {reading : SystemTime}
    {op : Operation engine} (issued : operationOf workers s e = some (reading, op)) :
    Walks s.store op ∧ Fresh s.store op := by
  have admits := enabled.2
  rwa [issued] at admits

/-- What an event does to a schedule that is there. -/
inductive Effect (workers : Fin n → Worker) (s : State engine n) (e : Event engine n) (k : Uuid) :
    StoredSchedule engine → StoredSchedule engine → Prop where
  | untouched (stored : StoredSchedule engine) (unissued : operationOf workers s e = none) :
      Effect workers s e k stored stored
  | changed {reading : SystemTime} {op : Operation engine} {before after : StoredSchedule engine}
      (issued : operationOf workers s e = some (reading, op))
      (change : Change reading s.store k op before after) : Effect workers s e k before after

theorem effect_next (enabled : Enabled workers s e) {k : Uuid} {before : StoredSchedule engine}
    (found : s.store.find k = some before) :
    ∃ after, (next workers s e).store.find k = some after ∧
      Effect workers s e k before after := by
  unfold next
  cases issued : operationOf workers s e with
  | none => exact ⟨before, found, .untouched before issued⟩
  | some operation =>
    obtain ⟨reading, op⟩ := operation
    have admits := admits_of_issued enabled issued
    obtain ⟨after, hafter, change⟩ := change_step admits.1 admits.2 found
    exact ⟨after, hafter, .changed issued change⟩

theorem effect_cases (enabled : Enabled workers s e) {k : Uuid} {after : StoredSchedule engine}
    (found : (next workers s e).store.find k = some after) :
    (s.store.find k = none ∧ ∃ message maxAttempts, e = .insert message maxAttempts ∧
        message.scheduleId = k ∧ after = .fresh message maxAttempts) ∨
      ∃ before, s.store.find k = some before ∧ Effect workers s e k before after := by
  unfold next at found
  cases issued : operationOf workers s e with
  | none =>
    rw [issued] at found
    exact .inr ⟨after, found, .untouched after issued⟩
  | some operation =>
    obtain ⟨reading, op⟩ := operation
    have admits := admits_of_issued enabled issued
    rw [issued] at found
    rcases step_cases admits.1 found with ⟨message, maxAttempts, rfl, rfl, rfl⟩ | ⟨before, old, new⟩
    · cases issues_of_operationOf issued with
      | insert => exact .inl ⟨admits.2, message, maxAttempts, rfl, rfl, rfl⟩
    · exact .inr ⟨before, old, .changed issued new⟩

theorem keyed_next (enabled : Enabled workers s e) (keyed : Keyed s.store) :
    Keyed (next workers s e).store := by
  unfold next
  cases issued : operationOf workers s e with
  | none => exact keyed
  | some operation => exact keyed_step (admits_of_issued enabled issued).1 keyed

/-- A claim goes by a reading the clock has not fallen behind. -/
def Dated (s : State engine n) : Prop :=
  ∀ i reading, s.workers i = .claiming reading → reading ≤ s.now

theorem now_le_next (enabled : Enabled workers s e) : s.now ≤ (next workers s e).now := by
  cases e with
  | tick later => exact enabled.1
  | _ => exact le_rfl

theorem phase_next (workers : Fin n → Worker) (s : State engine n) (e : Event engine n)
    (j : Fin n) : (next workers s e).workers j = s.workers j ∨
      (∃ choice, e = .advance j choice ∧ (next workers s e).workers j =
        (s.workers j).next (workers j).config s.now s.store choice) ∨
      (next workers s e).workers j = .idle := by
  cases e with
  | advance i choice =>
    by_cases same : j = i
    · subst same
      exact .inr (.inl ⟨choice, rfl, Function.update_self j _ s.workers⟩)
    · exact .inl (Function.update_of_ne same _ s.workers)
  | crash i =>
    by_cases same : j = i
    · subst same
      exact .inr (.inr (Function.update_self j _ s.workers))
    · exact .inl (Function.update_of_ne same _ s.workers)
  | _ => exact .inl rfl

theorem reading_next {j : Fin n} {reading : SystemTime}
    (stands : (next workers s e).workers j = .claiming reading) :
    s.workers j = .claiming reading ∨ reading = s.now := by
  rcases phase_next workers s e j with kept | ⟨choice, rfl, moved⟩ | idle
  · exact .inl (kept.symm.trans stands)
  · right
    rw [stands] at moved
    cases held : s.workers j with
    | swept =>
      rw [held] at moved
      cases moved
      rfl
    | settling batch =>
      rw [held] at moved
      cases batch with
      | nil => cases moved
      | cons o rest =>
        rw [Phase.next] at moved
        split at moved <;> cases moved
    | dispatching o began rest =>
      rw [held, Phase.next] at moved
      split at moved <;> cases moved
    | _ =>
      rw [held] at moved
      cases moved
  · rw [idle] at stands
    cases stands

theorem dated_next (enabled : Enabled workers s e) (dated : Dated s) :
    Dated (next workers s e) := by
  intro j reading stands
  refine le_trans ?_ (now_le_next enabled)
  rcases reading_next stands with old | rfl
  · exact dated j reading old
  · exact le_rfl

theorem reading_le (dated : Dated s) {reading : SystemTime} {op : Operation engine}
    (issued : operationOf workers s e = some (reading, op)) : reading ≤ s.now := by
  cases issues_of_operationOf issued with
  | claim i choice _ stands => exact dated i reading stands
  | _ => exact le_rfl

theorem terminal_of_effect {k : Uuid} {before after : StoredSchedule engine}
    (effect : Effect workers s e k before after) (terminal : isTerminal before.status = true) :
    after.status = before.status := by
  have open_of : ∀ {status}, before.status = status → isTerminal status = false →
      after.status = before.status := by
    rintro _ rfl alive
    rw [alive] at terminal
    cases terminal
  cases effect with
  | untouched => rfl
  | changed issued change =>
    cases change with
    | replayed => cases issues_of_operationOf issued
    | unpaused => cases issues_of_operationOf issued
    | kept _ _ => rfl
    | claimed _ _ => rfl
    | failed _ _ _ => rfl
    | swept exhausted =>
      simp only [StoredSchedule.isExhausted, Bool.and_eq_true, decide_eq_true_eq] at exhausted
      exact open_of exhausted.1.1 rfl
    | cancelled alive => exact open_of rfl alive
    | delivered pending => exact open_of pending rfl
    | rescheduled pending => exact open_of pending rfl
    | deadLettered pending => exact open_of pending rfl
    | paused pending => exact open_of pending rfl
    | resumed paused => exact open_of paused rfl
    | realigned paused => exact open_of paused rfl

/-- A worker computes an occurrence that lies after its clock. -/
theorem computed_next (strict : StrictlyAfter engine) {i : Fin n} {o : LeasedOccurrence engine}
    {instant : SystemTime}
    (waits : ((next workers s e).workers i).computed = some (o, instant)) :
    (s.workers i).computed = some (o, instant) ∨
      operationOf workers s e = none ∧ s.now < instant := by
  rcases phase_next workers s e i with kept | ⟨choice, rfl, moved⟩ | idle
  · exact .inl (kept ▸ waits)
  · right
    rw [moved] at waits
    cases stands : s.workers i with
    | dispatching held began rest =>
      refine ⟨by rw [operationOf, stands]; rfl, ?_⟩
      rw [stands, Phase.next] at waits
      cases answer : callOf (workers i).config choice.draw held choice.outcome s.now with
      | error _ =>
        rw [answer] at waits
        cases waits
      | ok call =>
        rw [answer] at waits
        cases call with
        | reschedule next =>
          cases waits
          exact (callOf_reschedule strict answer).1
        | _ => cases waits
    | settling batch =>
      rw [stands] at waits
      cases batch with
      | nil => cases waits
      | cons head rest =>
        rw [Phase.next] at waits
        split at waits <;> cases waits
    | _ =>
      rw [stands] at waits
      cases waits
  · rw [idle] at waits
    cases waits

/-- Along a step a worker keeps what it holds, or lets go of some of it; a claim finds its
hands empty. -/
theorem held_next (workers : Fin n → Worker) (s : State engine n) (e : Event engine n)
    (j : Fin n) : ((next workers s e).workers j).held.Sublist (s.workers j).held ∨
      ∃ choice, e = .advance j choice ∧
        ((next workers s e).workers j).held = claimed workers s e := by
  rcases phase_next workers s e j with kept | ⟨choice, rfl, moved⟩ | idle
  · rw [kept]
    exact .inl (List.Sublist.refl _)
  · rw [moved]
    cases stands : s.workers j with
    | claiming reading => exact .inr ⟨choice, rfl, by rw [claimed, stands]; rfl⟩
    | settling batch =>
      left
      cases batch with
      | nil => exact List.Sublist.refl _
      | cons o rest =>
        rw [Phase.next]
        split
        · exact List.sublist_cons_self o rest
        · exact List.Sublist.refl _
    | dispatching o began rest =>
      left
      rw [Phase.next]
      split
      · exact List.Sublist.refl _
      · exact List.sublist_cons_self o rest
    | answered o call rest => exact .inl (List.sublist_cons_self o rest)
    | _ => exact .inl (List.Sublist.refl _)
  · rw [idle]
    exact .inl (List.nil_sublist _)

theorem eq_cancel_of_cancelDecision {store : Store engine} {id : Uuid} {call : ControlCall}
    (decided : cancelDecision store id = some call) : call = .cancel := by
  obtain ⟨snapshot, _, chosen⟩ := Option.bind_eq_some_iff.mp decided
  split at chosen
  · cases chosen
  · exact (Option.some.inj chosen).symm

theorem mem_control_next {k : Uuid} {call : ControlCall}
    (mem : (k, call) ∈ (next workers s e).control) : (k, call) ∈ s.control ∨
      (e = .cancel k ∧ cancelDecision s.store k = some call) ∨
      (e = .resume k ∧ resumeDecision s.store k s.now = some call) := by
  have added : ∀ {id : Uuid} {decision : Option ControlCall},
      (k, call) ∈ decision.elim s.control (fun call => (id, call) :: s.control) →
        (k, call) ∈ s.control ∨ id = k ∧ decision = some call := by
    intro id decision mem
    cases decision with
    | none => exact .inl mem
    | some made =>
      rcases List.mem_cons.mp mem with same | old
      · cases same
        exact .inr ⟨rfl, rfl⟩
      · exact .inl old
  cases e with
  | cancel id =>
    rcases added mem with old | ⟨rfl, decided⟩
    · exact .inl old
    · exact .inr (.inl ⟨rfl, decided⟩)
  | resume id =>
    rcases added mem with old | ⟨rfl, decided⟩
    · exact .inl old
    · exact .inr (.inr ⟨rfl, decided⟩)
  | finish id made => exact .inl (List.mem_of_mem_erase mem)
  | _ => exact .inl mem

/-! ## Claims -/

theorem claimed_cases {o : LeasedOccurrence engine} (mem : o ∈ claimed workers s e) :
    ∃ i choice reading, e = .advance i choice ∧ s.workers i = .claiming reading ∧
      claimed workers s e = handed reading s.store (.claimDue (workers i).config.batchSize
        (workers i).config.lease choice.order) ∧
      operationOf workers s e = some (reading, .claimDue (workers i).config.batchSize
        (workers i).config.lease choice.order) := by
  cases e with
  | advance i choice =>
    cases stands : s.workers i with
    | claiming reading =>
      exact ⟨i, choice, reading, rfl, stands, by rw [claimed, stands]; rfl,
        by rw [operationOf, stands]; rfl⟩
    | _ =>
      rw [claimed, stands] at mem
      cases mem
  | _ => cases mem

theorem claimed_spec (keyed : Keyed s.store) (enabled : Enabled workers s e)
    {o : LeasedOccurrence engine} (mem : o ∈ claimed workers s e) :
    ∃ i choice reading before, e = .advance i choice ∧ s.workers i = .claiming reading ∧
      s.store.find o.message.scheduleId = some before ∧ before.message = o.message ∧
      before.isClaimable reading = true ∧
      o.leasedUntil.nanos = reading.nanos + (workers i).config.lease.nanos ∧
      (next workers s e).store.find o.message.scheduleId = some (before.claim o.leasedUntil) := by
  obtain ⟨i, choice, reading, here, stands, batch, issued⟩ := claimed_cases mem
  have walks := (admits_of_issued enabled issued).1
  rw [batch] at mem
  obtain ⟨before, found, copied⟩ := message_of_handed walks keyed mem
  have stamped := newDeadline_of_handed walks keyed (List.mem_map.mpr ⟨o, mem, rfl⟩)
  obtain ⟨after, hafter, effect⟩ := effect_next enabled found
  refine ⟨i, choice, reading, before, here, stands, found, copied, ?_⟩
  cases effect with
  | untouched _ unissued =>
    rw [issued] at unissued
    cases unissued
  | changed other change =>
    rw [issued] at other
    cases other
    cases change with
    | kept unstamped _ =>
      rw [unstamped] at stamped
      cases stamped
    | claimed claimable again =>
      obtain rfl := Option.some.inj (again.symm.trans stamped)
      refine ⟨claimable, ?_, hafter⟩
      rw [newDeadline] at stamped
      split at stamped
      · exact checkedAdd_eq_some.mp stamped
      · cases stamped

theorem claimed_nodup (keyed : Keyed s.store) (enabled : Enabled workers s e) :
    ((claimed workers s e).map fun o => o.message.scheduleId).Nodup := by
  rcases (claimed workers s e).eq_nil_or_concat with none | ⟨_, o, last⟩
  · rw [none]
    exact List.nodup_nil
  · have mem : o ∈ claimed workers s e := by simp [last]
    obtain ⟨i, choice, reading, _, _, batch, issued⟩ := claimed_cases mem
    have distinct := @handed_nodup engine reading _ _ (admits_of_issued enabled issued).1 keyed
    rw [List.map_map, ← batch] at distinct
    exact distinct

theorem length_claimed_le {i : Fin n} {choice : Choice}
    (enabled : Enabled workers s (.advance i choice)) :
    (claimed workers s (.advance i choice)).length ≤ (workers i).config.batchSize := by
  cases stands : s.workers i with
  | claiming reading =>
    have issued : operationOf workers s (.advance i choice) = some (reading,
        .claimDue (workers i).config.batchSize (workers i).config.lease choice.order) := by
      rw [operationOf, stands]
      rfl
    have distinct := (admits_of_issued enabled issued).1.nodup_iff.mpr s.store.keyed
    rw [claimed, stands, Phase.claims, handed]
    cases added : reading.checkedAdd (workers i).config.lease with
    | none => simp [claimDue, added, Except.toOption]
    | some deadline =>
      rw [claimDue_returns reading _ distinct s.store added]
      calc _ ≤ (chosen reading (workers i).config.batchSize choice.order s.store).length :=
            List.length_filterMap_le _ _
        _ ≤ (workers i).config.batchSize := List.length_take_le _ _
  | _ =>
    rw [claimed, stands]
    exact Nat.zero_le _

end Steps

end SchedulerWorkers
