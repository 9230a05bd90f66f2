import Hexeract.LibraryMachines
import Hexeract.RabbitmqWorker

/-! # The consume loop and its shutdown

The loop of `RabbitMqWorker::run` next to the tasks it spawned. A delivery names its task.
The stream, the token, the clock and the runtime choose the events: when deliveries, stream
errors and the end of the stream come, when the token fires, how long a handler runs, where
it panics and whether the grace period is long enough for it. -/
namespace RabbitmqWorkerRun

open LibraryCollections LibraryMachines BusErrors RabbitmqWorker

/-! ## The machine -/

def effectiveBound : AckMode → Option ℕ → Option ℕ
  | .unacknowledged, some n => some n
  | _, _ => none

def requirePositiveBound (maxBuffered : Option ℕ) : Except BusError Unit :=
  if maxBuffered = some 0 then
    .error (.internal ("RabbitMqWorkerBuilder::max_buffered requires at least 1; " ++
      "omit the call for a no_ack consumer without a bound"))
  else .ok ()

/-- How a spawned task ends. Dropping the future of an aborted task runs the destructors of
its handler, which may panic like any other code. -/
inductive TaskEnd where
  | completed
  | panicked
  | aborted (destructorPanics : Bool)
  deriving DecidableEq, Repr

/-- `JoinError::is_cancelled`: the runtime reports an aborted task whose destructor panicked
as a panic. -/
def TaskEnd.isCancelled : TaskEnd → Bool
  | .aborted destructorPanics => !destructorPanics
  | _ => false

/-- Where one delivery stands. `inline` and `handled` are without flow control, where the
loop itself handles it. -/
inductive Job where
  | unseen
  | lost
  | inline
  | handled
  | queued
  | running
  | done (ending : TaskEnd)
  | joined (ending : TaskEnd)
  deriving DecidableEq, Repr

/-- `parked` and `cleared` are the two halves of a poll of `BoundedInFlight::acquire`, which
looks at the token before the semaphore. -/
inductive Phase (ι : Type*) where
  | setup
  | selecting
  | parked (i : ι)
  | cleared (i : ι)
  | inline (i : ι)
  | draining
  | aborting
  | returned (result : Except BusError Unit)
  deriving DecidableEq

/-- `endedUnfired` records that the loop saw the end of the stream and the token unfired. -/
structure State (ι : Type*) where
  available : ℕ
  fired : Bool
  jobs : ι → Job
  phase : Phase ι
  outcome : Except BusError Unit
  abandoned : ℕ
  endedUnfired : Bool

variable {ι : Type*} [DecidableEq ι]

def State.new (flowControl : Option ℕ) : State ι :=
  ⟨flowControl.getD 0, false, fun _ => .unseen, .setup, .ok (), 0, false⟩

def Job.inFlight : Job → Bool
  | .queued | .running | .done _ => true
  | _ => false

def Job.ending : Job → Option TaskEnd
  | .done ending | .joined ending => some ending
  | _ => none

def Job.isDone : Job → Bool
  | .done _ => true
  | _ => false

def Job.join : Job → Job
  | .done ending => .joined ending
  | job => job

def Job.isCancelled (job : Job) : Bool := job.ending.any TaskEnd.isCancelled

def streamLost : BusError :=
  .connection "rabbitmq consumer stream ended unexpectedly: connection or channel lost" true

def State.setJob (s : State ι) (i : ι) (job : Job) : State ι :=
  { s with jobs := Function.update s.jobs i job }

/-- What `drain_in_flight` returns. -/
def State.drained (s : State ι) : Except BusError Unit :=
  if s.abandoned = 0 then .ok () else .error (.shutdownDrainTimedOut s.abandoned)

/-- The error of the loop wins over the one of the drain. -/
def State.verdict (s : State ι) : Except BusError Unit :=
  match s.outcome with
  | .error error => .error error
  | .ok () => s.drained

inductive Event (ι : Type*) where
  | cancel
  | setupFails (error : BusError)
  | consume
  | observeCancel
  | streamError
  | streamEnd
  | deliver (i : ι)
  | lookAtToken
  | tryPermit
  | inlineEnds
  | start (i : ι)
  | finish (i : ι) (panicked : Bool)
  | join (i : ι)
  | graceExpires
  | stop (i : ι) (destructorPanics : Bool)
  | leave

/-- The places where the loop and the drain await `join_next`. -/
def Phase.joins : Phase ι → Bool
  | .selecting | .draining | .aborting => true
  | _ => false

def Phase.isParked : Phase ι → Bool
  | .parked _ => true
  | _ => false

def Phase.isCleared : Phase ι → Bool
  | .cleared _ => true
  | _ => false

def Phase.isInline : Phase ι → Bool
  | .inline _ => true
  | _ => false

def Phase.isDraining : Phase ι → Bool
  | .draining | .aborting => true
  | _ => false

/-- The delivery the loop has taken from the stream and not yet handed on. -/
def Phase.inHand : Phase ι → Option ι
  | .parked i | .cleared i => some i
  | _ => none

omit [DecidableEq ι] in
theorem isParked_iff {phase : Phase ι} : phase.isParked = true ↔ ∃ i, phase = .parked i := by
  cases phase <;> simp [Phase.isParked]

omit [DecidableEq ι] in
theorem isCleared_iff {phase : Phase ι} : phase.isCleared = true ↔ ∃ i, phase = .cleared i := by
  cases phase <;> simp [Phase.isCleared]

omit [DecidableEq ι] in
theorem isInline_iff {phase : Phase ι} : phase.isInline = true ↔ ∃ i, phase = .inline i := by
  cases phase <;> simp [Phase.isInline]

theorem isDone_iff {job : Job} : job.isDone = true ↔ ∃ ending, job = .done ending := by
  cases job <;> simp [Job.isDone]

def Enabled (s : State ι) : Event ι → Prop
  | .cancel => True
  | .setupFails _ => s.phase = .setup
  | .consume => s.phase = .setup
  | .observeCancel => s.phase = .selecting ∧ s.fired = true
  | .streamError => s.phase = .selecting
  | .streamEnd => s.phase = .selecting
  | .deliver i => s.phase = .selecting ∧ s.jobs i = .unseen
  | .lookAtToken => s.phase.isParked = true
  | .tryPermit => s.phase.isCleared = true
  | .inlineEnds => s.phase.isInline = true
  | .start i => s.jobs i = .queued
  | .finish i _ => s.jobs i = .running
  | .join i => s.phase.joins = true ∧ (s.jobs i).isDone = true
  | .graceExpires => s.phase = .draining ∧ ∃ i, (s.jobs i).inFlight = true
  -- a task that was never polled has no handler whose destructor could panic
  | .stop i destructorPanics =>
    s.phase = .aborting ∧ (s.jobs i = .running ∨ s.jobs i = .queued ∧ destructorPanics = false)
  | .leave => s.phase.isDraining = true ∧ ∀ i, (s.jobs i).inFlight = false

instance [Fintype ι] (s : State ι) (e : Event ι) : Decidable (Enabled s e) := by
  cases e <;> simp only [Enabled] <;> infer_instance

def next (flowControl : Option ℕ) (s : State ι) : Event ι → State ι
  | .cancel => { s with fired := true }
  | .setupFails error => { s with phase := .returned (.error error) }
  | .consume => { s with phase := .selecting }
  | .observeCancel => { s with phase := .draining }
  | .streamError => s
  | .streamEnd =>
    { s with
      phase := .draining
      outcome := if s.fired then s.outcome else .error streamLost
      endedUnfired := !s.fired }
  | .deliver i =>
    match flowControl with
    | some _ => { s with phase := .parked i }
    | none => { s.setJob i .inline with phase := .inline i }
  | .lookAtToken =>
    match s.phase with
    | .parked i =>
      if s.fired then { s.setJob i .lost with phase := .draining }
      else { s with phase := .cleared i }
    | _ => s
  | .tryPermit =>
    match s.phase, s.available with
    | .cleared i, 0 => { s with phase := .parked i }
    | .cleared i, available + 1 =>
      { s.setJob i .queued with phase := .selecting, available := available }
    | _, _ => s
  -- both dispositions keep the loop running
  | .inlineEnds =>
    match s.phase with
    | .inline i => { s.setJob i .handled with phase := .selecting }
    | _ => s
  | .start i => s.setJob i .running
  | .finish i panicked =>
    { s.setJob i (.done (if panicked then .panicked else .completed)) with
      available := s.available + 1 }
  | .join i =>
    { s.setJob i (s.jobs i).join with
      abandoned := if s.phase = .aborting then s.abandoned + (s.jobs i).isCancelled.toNat
        else s.abandoned }
  | .graceExpires => { s with phase := .aborting }
  | .stop i destructorPanics =>
    { s.setJob i (.done (.aborted destructorPanics)) with available := s.available + 1 }
  | .leave => { s with phase := .returned s.verdict }

def machine (flowControl : Option ℕ) : Machine (State ι) (Event ι) where
  enabled := Enabled
  next := next flowControl

/-! ## Which tasks were aborted -/

section Tally

variable [Fintype ι] {s t : State ι}

def Job.wasAborted (job : Job) : Bool :=
  match job.ending with
  | some (.aborted _) => true
  | _ => false

/-- Joined as a cancelled task, and so counted by the drain. -/
def Job.isAbandoned (job : Job) : Bool := decide (job = .joined (.aborted false))

def Phase.mayAbort : Phase ι → Bool
  | .aborting | .returned _ => true
  | _ => false

def Phase.isIdle : Phase ι → Bool
  | .setup | .returned _ => true
  | _ => false

structure Tally (s : State ι) : Prop where
  inHand : ∀ i, s.phase.inHand = some i → s.jobs i = .unseen
  inlined : ∀ i, s.phase = .inline i → s.jobs i = .inline
  early : s.phase.mayAbort = false → ∀ i, (s.jobs i).wasAborted = false
  counted : s.abandoned = countOf Job.isAbandoned s.jobs
  idle : s.phase.isIdle = true → ∀ i, (s.jobs i).inFlight = false

omit [DecidableEq ι] in
theorem tally_new (flowControl : Option ℕ) : Tally (State.new flowControl : State ι) where
  inHand _ hand := by cases hand
  inlined _ inline := by cases inline
  early _ _ := rfl
  counted := (countOf_const _ _ rfl).symm
  idle _ _ := rfl

theorem isAbandoned_of_ending {job : Job} (none : job.ending = none) :
    job.isAbandoned = false := by
  cases job <;> first | rfl | cases none

theorem isAbandoned_of_inFlight {job : Job} (flying : job.inFlight = true) :
    job.isAbandoned = false := by
  cases job <;> first | rfl | cases flying

theorem wasAborted_of_ending {job : Job} (none : job.ending = none) : job.wasAborted = false := by
  cases job <;> first | rfl | cases none

theorem wasAborted_join (job : Job) : job.join.wasAborted = job.wasAborted := by
  cases job <;> rfl

theorem isAbandoned_join {job : Job} (done : job.isDone = true) :
    job.join.isAbandoned = job.isCancelled := by
  obtain ⟨ending, rfl⟩ := isDone_iff.mp done
  rcases ending with _ | _ | (_ | _) <;> rfl

theorem isCancelled_of_wasAborted {job : Job} (untouched : job.wasAborted = false) :
    job.isCancelled = false := by
  rcases job with _ | _ | _ | _ | _ | _ | (_ | _ | _) | (_ | _ | _) <;>
    first | rfl | cases untouched

omit [DecidableEq ι] [Fintype ι] in
theorem mayAbort_of_joins {phase : Phase ι} (joins : phase.joins = true)
    (other : ¬ phase = .aborting) : phase.mayAbort = false := by
  cases phase <;> first | rfl | exact absurd rfl other | cases joins

omit [Fintype ι] in
theorem wasAborted_update {jobs : ι → Job} (others : ∀ j, (jobs j).wasAborted = false) (i : ι)
    {job : Job} (this : job.wasAborted = false) (j : ι) :
    (Function.update jobs i job j).wasAborted = false :=
  (Function.forall_update_iff jobs fun _ job => job.wasAborted = false).mpr
    ⟨this, fun j _ => others j⟩ j

theorem Tally.advance (tally : Tally s) (i : ι) (job : Job)
    (jobs : t.jobs = Function.update s.jobs i job)
    (phase : t.phase = s.phase) (flying : (s.jobs i).inFlight = true)
    (early : s.phase.mayAbort = false → job.wasAborted = false)
    (count : t.abandoned = s.abandoned + job.isAbandoned.toNat) : Tally t := by
  have other : ∀ j, (s.jobs j).inFlight = false → j ≠ i := by
    rintro j grounded rfl
    rw [flying] at grounded
    cases grounded
  constructor
  case inHand =>
    intro j hand
    rw [phase] at hand
    have unseen := tally.inHand j hand
    rw [jobs, Function.update_of_ne (other j (by rw [unseen]; rfl))]
    exact unseen
  case inlined =>
    intro j inline
    rw [phase] at inline
    have inlined := tally.inlined j inline
    rw [jobs, Function.update_of_ne (other j (by rw [inlined]; rfl))]
    exact inlined
  case early =>
    rw [phase, jobs]
    intro before
    exact wasAborted_update (tally.early before) i (early before)
  case counted =>
    have counted := countOf_update Job.isAbandoned s.jobs i job
    rw [isAbandoned_of_inFlight flying, ← tally.counted] at counted
    rw [jobs, count, ← counted]
    rfl
  case idle =>
    intro idle
    rw [phase] at idle
    exact absurd rfl (other i (tally.idle idle i))

omit [DecidableEq ι] in
theorem Tally.move (tally : Tally s) (jobs : t.jobs = s.jobs)
    (abandoned : t.abandoned = s.abandoned)
    (mayAbort : t.phase.mayAbort = false → s.phase.mayAbort = false)
    (inHand : ∀ i, t.phase.inHand = some i → s.jobs i = .unseen)
    (inlined : ∀ i, t.phase = .inline i → s.jobs i = .inline)
    (idle : t.phase.isIdle = true → ∀ i, (s.jobs i).inFlight = false) : Tally t where
  inHand i hand := by rw [jobs]; exact inHand i hand
  inlined i inline := by rw [jobs]; exact inlined i inline
  early before i := by rw [jobs]; exact tally.early (mayAbort before) i
  counted := by rw [jobs, abandoned]; exact tally.counted
  idle rests i := by rw [jobs]; exact idle rests i

omit [DecidableEq ι] in
theorem Tally.pass (tally : Tally s) (jobs : t.jobs = s.jobs)
    (abandoned : t.abandoned = s.abandoned) (early : s.phase.mayAbort = false)
    (inHand : ∀ i, t.phase.inHand = some i → s.jobs i = .unseen)
    (spawns : t.phase.isInline = false) (busy : t.phase.isIdle = false) : Tally t := by
  refine tally.move jobs abandoned (fun _ => early) inHand (fun i inline => ?_) fun idle => ?_
  · rw [inline] at spawns
    cases spawns
  · rw [busy] at idle
    cases idle

/-- The loop disposes of the delivery it has in hand. -/
theorem Tally.dispose (tally : Tally s) (i : ι) (job : Job)
    (jobs : t.jobs = Function.update s.jobs i job)
    (abandoned : t.abandoned = s.abandoned) (before : (s.jobs i).ending = none)
    (after : job.ending = none) (early : s.phase.mayAbort = false)
    (inHand : t.phase.inHand = none) (inlined : ∀ j, t.phase = .inline j → j = i ∧ job = .inline)
    (busy : t.phase.isIdle = false) : Tally t where
  inHand j hand := by
    rw [inHand] at hand
    cases hand
  inlined j inline := by
    obtain ⟨rfl, rfl⟩ := inlined j inline
    rw [jobs, Function.update_self]
  early _ := by
    rw [jobs]
    exact wasAborted_update (tally.early early) i (wasAborted_of_ending after)
  counted := by
    have counted := countOf_update Job.isAbandoned s.jobs i job
    rw [isAbandoned_of_ending before, isAbandoned_of_ending after, ← tally.counted] at counted
    rw [jobs, abandoned]
    exact counted.symm
  idle rests := by
    rw [busy] at rests
    cases rests

theorem Tally.step (tally : Tally s) (flowControl : Option ℕ) {e : Event ι} (h : Enabled s e) :
    Tally (next flowControl s e) := by
  cases e with
  | cancel => exact tally.move rfl rfl id tally.inHand tally.inlined tally.idle
  | setupFails error =>
    exact tally.move rfl rfl (fun may => by cases may) (fun _ hand => by cases hand)
      (fun _ inline => by cases inline) fun _ => tally.idle (by rw [h]; rfl)
  | consume => exact tally.pass rfl rfl (by rw [h]; rfl) (fun _ hand => by cases hand) rfl rfl
  | observeCancel =>
    exact tally.pass rfl rfl (by rw [h.1]; rfl) (fun _ hand => by cases hand) rfl rfl
  | streamError => exact tally
  | streamEnd => exact tally.pass rfl rfl (by rw [h]; rfl) (fun _ hand => by cases hand) rfl rfl
  | deliver i =>
    cases flowControl with
    | some n =>
      refine tally.pass rfl rfl (by rw [h.1]; rfl) (fun j hand => ?_) rfl rfl
      rw [← Option.some.inj hand]
      exact h.2
    | none =>
      exact tally.dispose i .inline rfl rfl (by rw [h.2]; rfl) rfl (by rw [h.1]; rfl) rfl
        (fun j inline => by cases inline; exact ⟨rfl, rfl⟩) rfl
  | lookAtToken =>
    obtain ⟨i, stands⟩ := isParked_iff.mp h
    have unseen := tally.inHand i (by rw [stands]; rfl)
    simp only [next, stands]
    split_ifs
    · exact tally.dispose i .lost rfl rfl (by rw [unseen]; rfl) rfl (by rw [stands]; rfl) rfl
        (fun _ inline => by cases inline) rfl
    · refine tally.pass rfl rfl (by rw [stands]; rfl) (fun j hand => ?_) rfl rfl
      rw [← Option.some.inj hand]
      exact unseen
  | tryPermit =>
    obtain ⟨i, stands⟩ := isCleared_iff.mp h
    have unseen := tally.inHand i (by rw [stands]; rfl)
    simp only [next, stands]
    cases s.available with
    | zero =>
      refine tally.pass rfl rfl (by rw [stands]; rfl) (fun j hand => ?_) rfl rfl
      rw [← Option.some.inj hand]
      exact unseen
    | succ available =>
      exact tally.dispose i .queued rfl rfl (by rw [unseen]; rfl) rfl (by rw [stands]; rfl) rfl
        (fun _ inline => by cases inline) rfl
  | inlineEnds =>
    obtain ⟨i, stands⟩ := isInline_iff.mp h
    simp only [next, stands]
    exact tally.dispose i .handled rfl rfl (by rw [tally.inlined i stands]; rfl) rfl
      (by rw [stands]; rfl) rfl (fun _ inline => by cases inline) rfl
  | start i =>
    exact tally.advance i .running rfl rfl (by rw [h]; rfl) (fun _ => rfl) rfl
  | finish i panicked =>
    exact tally.advance i _ rfl rfl (by rw [h]; rfl) (fun _ => by cases panicked <;> rfl) rfl
  | join i =>
    obtain ⟨ending, stands⟩ := isDone_iff.mp h.2
    refine tally.advance i _ rfl rfl (by rw [stands]; rfl) (fun before => ?_) ?_
    · rw [wasAborted_join]
      exact tally.early before i
    · rw [isAbandoned_join h.2]
      simp only [next]
      split_ifs with aborting
      · rfl
      · have before := tally.early (mayAbort_of_joins h.1 aborting) i
        rw [isCancelled_of_wasAborted before]
        rfl
  | graceExpires =>
    exact tally.move rfl rfl (fun may => by cases may) (fun _ hand => by cases hand)
      (fun _ inline => by cases inline) fun idle => by cases idle
  | stop i destructorPanics =>
    refine tally.advance i _ rfl rfl ?_ (fun before => ?_) rfl
    · rcases h.2 with running | ⟨queued, _⟩
      · rw [running]
        rfl
      · rw [queued]
        rfl
    · rw [h.1] at before
      cases before
  | leave =>
    exact tally.move rfl rfl (fun may => by cases may) (fun _ hand => by cases hand)
      (fun _ inline => by cases inline) fun _ => h.2

end Tally

/-! ## Permits bound the handlers -/

section Permits

variable [Fintype ι] {n : ℕ} {s : State ι}

def Job.holdsPermit : Job → Bool
  | .queued | .running => true
  | _ => false

def Job.isInline : Job → Bool
  | .inline => true
  | _ => false

def Job.runsHandler : Job → Bool
  | .inline | .running => true
  | _ => false

/-- With flow control every permit is free or with a task, and the loop handles no delivery
itself. -/
structure Permits (n : ℕ) (s : State ι) : Prop where
  total : s.available + countOf Job.holdsPermit s.jobs = n
  phase : s.phase.isInline = false
  jobs : ∀ i, (s.jobs i).isInline = false

theorem Permits.replace (permits : Permits n s) {i : ι} {job : Job} {t : State ι}
    (jobs : t.jobs = Function.update s.jobs i job)
    (permit : t.available + job.holdsPermit.toNat =
      s.available + (s.jobs i).holdsPermit.toNat)
    (phase : t.phase.isInline = false) (spawned : job.isInline = false) : Permits n t := by
  have counted := countOf_update Job.holdsPermit s.jobs i job
  have total := permits.total
  refine ⟨?_, phase, fun j => ?_⟩
  · rw [jobs]
    omega
  · rw [jobs]
    by_cases same : j = i
    · rw [same, Function.update_self]
      exact spawned
    · rw [Function.update_of_ne same]
      exact permits.jobs j

omit [DecidableEq ι] in
theorem Permits.move (permits : Permits n s) {t : State ι} (jobs : t.jobs = s.jobs)
    (available : t.available = s.available) (phase : t.phase.isInline = false) : Permits n t :=
  ⟨by rw [jobs, available]; exact permits.total, phase, fun i => by rw [jobs]; exact permits.jobs i⟩

theorem Permits.step (permits : Permits n s) {e : Event ι} (h : Enabled s e)
    (fresh : ∀ i, s.phase.inHand = some i → s.jobs i = .unseen) :
    Permits n (next (some n) s e) := by
  have quiet := permits.phase
  cases e with
  | cancel => exact permits.move rfl rfl quiet
  | setupFails error => exact permits.move rfl rfl rfl
  | consume => exact permits.move rfl rfl rfl
  | observeCancel => exact permits.move rfl rfl rfl
  | streamError => exact permits
  | streamEnd => exact permits.move rfl rfl rfl
  | deliver i => exact permits.move rfl rfl rfl
  | lookAtToken =>
    obtain ⟨i, stands⟩ := isParked_iff.mp h
    have unseen := fresh i (by rw [stands]; rfl)
    simp only [next, stands]
    split_ifs
    · exact permits.replace (i := i) rfl (by rw [unseen]; rfl) rfl rfl
    · exact permits.move rfl rfl rfl
  | tryPermit =>
    obtain ⟨i, stands⟩ := isCleared_iff.mp h
    have unseen := fresh i (by rw [stands]; rfl)
    simp only [next, stands]
    cases free : s.available with
    | zero => exact permits.move rfl free.symm rfl
    | succ available =>
      refine permits.replace (i := i) rfl ?_ rfl rfl
      rw [unseen, free]
      rfl
  | inlineEnds =>
    rw [Enabled, quiet] at h
    cases h
  | start i => exact permits.replace (i := i) rfl (by rw [h]; rfl) quiet rfl
  | finish i panicked => exact permits.replace (i := i) rfl (by rw [h]; rfl) quiet rfl
  | join i =>
    obtain ⟨ending, stands⟩ := isDone_iff.mp h.2
    refine permits.replace (i := i) rfl ?_ quiet ?_ <;> rw [stands] <;> rfl
  | graceExpires => exact permits.move rfl rfl rfl
  | stop i destructorPanics =>
    refine permits.replace (i := i) rfl ?_ quiet rfl
    rcases h.2 with running | ⟨queued, _⟩
    · rw [running]
      rfl
    · rw [queued]
      rfl
  | leave => exact permits.move rfl rfl rfl

end Permits

/-! ## What the run returns -/

section Verdict

variable {s t : State ι}

def Phase.hasLeft (phase : Phase ι) : Bool := phase.isDraining || phase.mayAbort

structure Verdict (s : State ι) : Prop where
  going : s.phase.hasLeft = false → s.outcome = .ok ()
  left : s.phase.isDraining = true → s.outcome = .ok () → s.fired = true
  ended : s.endedUnfired = true → s.outcome = .error streamLost
  returned : ∀ result, s.phase = .returned result →
    (result = .ok () → s.fired = true ∧ s.abandoned = 0) ∧
    (s.endedUnfired = true → result = .error streamLost)

omit [DecidableEq ι] in
theorem verdict_new (flowControl : Option ℕ) : Verdict (State.new flowControl : State ι) where
  going _ := rfl
  left draining := by cases draining
  ended unfired := by cases unfired
  returned _ stands := by cases stands

omit [DecidableEq ι] in
theorem Verdict.stay (verdict : Verdict s) (outcome : t.outcome = s.outcome)
    (ended : t.endedUnfired = s.endedUnfired) (fired : t.fired = s.fired)
    (before : t.phase.hasLeft = false → s.phase.hasLeft = false)
    (draining : t.phase.isDraining = true → s.phase.isDraining = true)
    (returned : ∀ result, t.phase = .returned result → s.phase = t.phase ∧
      t.abandoned = s.abandoned) : Verdict t where
  going stays := by rw [outcome]; exact verdict.going (before stays)
  left drains ok := by
    rw [fired]
    exact verdict.left (draining drains) (outcome ▸ ok)
  ended unfired := by rw [outcome]; exact verdict.ended (ended ▸ unfired)
  returned result stands := by
    obtain ⟨phase, abandoned⟩ := returned result stands
    rw [fired, ended, abandoned]
    exact verdict.returned result (phase.trans stands)

omit [DecidableEq ι] in
theorem Verdict.loop (verdict : Verdict s) (outcome : t.outcome = s.outcome)
    (ended : t.endedUnfired = s.endedUnfired) (fired : t.fired = s.fired)
    (here : s.phase.hasLeft = false) (there : t.phase.hasLeft = false) : Verdict t := by
  refine verdict.stay outcome ended fired (fun _ => here) (fun drains => ?_) fun result stands => ?_
  · rw [Phase.hasLeft, drains] at there
    cases there
  · rw [stands] at there
    cases there

omit [DecidableEq ι] in
theorem Verdict.cancelled (verdict : Verdict s) (outcome : t.outcome = s.outcome)
    (ended : t.endedUnfired = s.endedUnfired) (fired : t.fired = true)
    (phase : t.phase = .draining) : Verdict t where
  going stays := by
    rw [phase] at stays
    cases stays
  left _ _ := fired
  ended unfired := by rw [outcome]; exact verdict.ended (ended ▸ unfired)
  returned result stands := by
    rw [phase] at stands
    cases stands

omit [DecidableEq ι] in
theorem Verdict.cancel (verdict : Verdict s) : Verdict { s with fired := true } where
  going := verdict.going
  left _ _ := rfl
  ended := verdict.ended
  returned result stands :=
    ⟨fun ok => ⟨rfl, ((verdict.returned result stands).1 ok).2⟩,
      (verdict.returned result stands).2⟩

omit [DecidableEq ι] in
theorem Verdict.setupFails (verdict : Verdict s) (error : BusError) (phase : s.phase = .setup) :
    Verdict { s with phase := .returned (.error error) } where
  going stays := by cases stays
  left drains := by cases drains
  ended := verdict.ended
  returned result stands := by
    cases stands
    refine ⟨fun ok => (by cases ok), fun unfired => ?_⟩
    have going := verdict.going (by rw [phase]; rfl)
    rw [verdict.ended unfired] at going
    cases going

omit [DecidableEq ι] in
theorem verdict_streamEnd (s : State ι) :
    Verdict { s with
      phase := .draining
      outcome := if s.fired then s.outcome else .error streamLost
      endedUnfired := !s.fired } where
  going stays := by cases stays
  left _ ok := by
    cases fired : s.fired with
    | true => rfl
    | false =>
      simp only [fired] at ok
      cases ok
  ended unfired := by
    have open_ : s.fired = false := by simpa using unfired
    simp [open_]
  returned result stands := by cases stands

omit [DecidableEq ι] in
theorem Verdict.leave (verdict : Verdict s) (draining : s.phase.isDraining = true) :
    Verdict { s with phase := .returned s.verdict } where
  going stays := by cases stays
  left drains := by cases drains
  ended := verdict.ended
  returned result stands := by
    cases stands
    constructor
    · intro ok
      unfold State.verdict at ok
      cases outcome : s.outcome with
      | error error =>
        rw [outcome] at ok
        cases ok
      | ok done =>
        refine ⟨verdict.left draining outcome, ?_⟩
        rw [outcome] at ok
        by_contra some
        exact absurd (ok.symm.trans (if_neg some)) (fun h => by cases h)
    · intro unfired
      rw [State.verdict, verdict.ended unfired]

theorem Verdict.step (verdict : Verdict s) (flowControl : Option ℕ) {e : Event ι}
    (h : Enabled s e) : Verdict (next flowControl s e) := by
  cases e with
  | cancel => exact verdict.cancel
  | setupFails error => exact verdict.setupFails error h
  | consume => exact verdict.loop rfl rfl rfl (by rw [h]; rfl) rfl
  | observeCancel => exact verdict.cancelled rfl rfl h.2 rfl
  | streamError => exact verdict
  | streamEnd => exact verdict_streamEnd s
  | deliver i => cases flowControl <;> exact verdict.loop rfl rfl rfl (by rw [h.1]; rfl) rfl
  | lookAtToken =>
    obtain ⟨i, stands⟩ := isParked_iff.mp h
    simp only [next, stands]
    split_ifs with fired
    · exact verdict.cancelled rfl rfl fired rfl
    · exact verdict.loop rfl rfl rfl (by rw [stands]; rfl) rfl
  | tryPermit =>
    obtain ⟨i, stands⟩ := isCleared_iff.mp h
    simp only [next, stands]
    cases s.available <;> exact verdict.loop rfl rfl rfl (by rw [stands]; rfl) rfl
  | inlineEnds =>
    obtain ⟨i, stands⟩ := isInline_iff.mp h
    simp only [next, stands]
    exact verdict.loop rfl rfl rfl (by rw [stands]; rfl) rfl
  | start i => exact verdict.stay rfl rfl rfl id id fun _ _ => ⟨rfl, rfl⟩
  | finish i panicked => exact verdict.stay rfl rfl rfl id id fun _ _ => ⟨rfl, rfl⟩
  | join i =>
    refine verdict.stay rfl rfl rfl id id fun result stands => ?_
    have joins := h.1
    change s.phase = .returned result at stands
    rw [stands] at joins
    cases joins
  | graceExpires =>
    exact verdict.stay rfl rfl rfl (fun left => by cases left) (fun _ => by rw [h.1]; rfl)
      fun result stands => by cases stands
  | stop i destructorPanics => exact verdict.stay rfl rfl rfl id id fun _ _ => ⟨rfl, rfl⟩
  | leave => exact verdict.leave h.1

end Verdict

/-! ## The run of a worker with a bound -/

section Runs

variable [Fintype ι]

omit [DecidableEq ι] in
theorem permits_new (n : ℕ) : Permits n (State.new (some n) : State ι) where
  total := by
    change n + countOf Job.holdsPermit (fun _ : ι => Job.unseen) = n
    rw [countOf_const _ _ rfl, Nat.add_zero]
  phase := rfl
  jobs _ := rfl

structure Sound (n : ℕ) (s : State ι) : Prop where
  permits : Permits n s
  tally : Tally s
  verdict : Verdict s

theorem sound_run (n : ℕ) {events : List (Event ι)}
    (allowed : (machine (some n)).Allowed (State.new (some n)) events) :
    Sound n ((machine (some n)).run (State.new (some n)) events) :=
  invariant_of_steps ⟨permits_new n, tally_new (some n), verdict_new (some n)⟩
    (fun _ _ sound h => ⟨sound.permits.step h sound.tally.inHand,
      sound.tally.step (some n) h, sound.verdict.step (some n) h⟩) allowed

omit [DecidableEq ι] in
theorem Sound.running_le {n : ℕ} {s : State ι} (sound : Sound n s) :
    countOf Job.runsHandler s.jobs ≤ n := by
  have within : countOf Job.runsHandler s.jobs ≤ countOf Job.holdsPermit s.jobs := by
    refine countOf_le fun i runs => ?_
    have spawned := sound.permits.jobs i
    cases stands : s.jobs i <;> rw [stands] at runs spawned <;>
      first | rfl | (cases spawned; done) | cases runs
  have total := sound.permits.total
  omega

omit [DecidableEq ι] in
/-- A bound the builder accepts never parks the loop for good: where no permit is left, a
task that holds one is still to end. -/
theorem Sound.permit_held {n : ℕ} {s : State ι} (sound : Sound n s)
    (accepted : requirePositiveBound (some n) = .ok ()) (exhausted : s.available = 0) :
    ∃ i, (s.jobs i).holdsPermit = true := by
  by_contra none
  have zero : countOf Job.holdsPermit s.jobs = 0 :=
    (countOf_eq_zero _ _).mpr fun i => Bool.eq_false_iff.mpr fun holds => none ⟨i, holds⟩
  have total := sound.permits.total
  rw [exhausted, zero] at total
  rw [← total] at accepted
  cases accepted

omit [DecidableEq ι] in
theorem Sound.not_running {n : ℕ} {s : State ι} (sound : Sound n s)
    {result : Except BusError Unit} (returned : s.phase = .returned result) (i : ι) :
    (s.jobs i).runsHandler = false := by
  have grounded := sound.tally.idle (by rw [returned]; rfl) i
  have spawned := sound.permits.jobs i
  cases stands : s.jobs i <;> rw [stands] at grounded spawned <;>
    first | rfl | (cases spawned; done) | cases grounded

omit [DecidableEq ι] in
/-- After a drain that counted nobody, every aborted task is one whose destructor panicked. -/
theorem Sound.aborted_panicked {n : ℕ} {s : State ι} (sound : Sound n s)
    {result : Except BusError Unit} (returned : s.phase = .returned result)
    (none : s.abandoned = 0) {i : ι} (aborted : (s.jobs i).wasAborted = true) :
    (s.jobs i).ending = some (.aborted true) := by
  have grounded := sound.tally.idle (by rw [returned]; rfl) i
  have uncounted := (countOf_eq_zero _ _).mp (sound.tally.counted.symm.trans none) i
  rcases stands : s.jobs i with _ | _ | _ | _ | _ | _ | ending | (_ | _ | (_ | _)) <;>
    rw [stands] at grounded uncounted aborted <;>
    first | rfl | (cases aborted; done) | (cases grounded; done) | cases uncounted

/-- A worker in unacknowledged mode with a bound: it never runs more handlers than the bound;
when its run returns none of them is running; it returns `Ok` only after the token fired, and
only if no handler was aborted, as long as no aborted handler panics in its destructor; and
it returns the connection error if it saw the stream end with the token unfired. -/
theorem run_bounded_and_drained (n : ℕ) (events : List (Event ι))
    (allowed : (machine (effectiveBound .unacknowledged (some n))).Allowed
      (State.new (effectiveBound .unacknowledged (some n))) events) :
    let s := (machine (effectiveBound .unacknowledged (some n))).run
      (State.new (effectiveBound .unacknowledged (some n))) events
    countOf Job.runsHandler s.jobs ≤ n ∧
    ∀ result, s.phase = .returned result →
      (∀ i, (s.jobs i).runsHandler = false) ∧
      (result = .ok () → s.fired = true) ∧
      (result = .ok () → (∀ i, (s.jobs i).ending ≠ some (.aborted true)) →
        ∀ i, (s.jobs i).wasAborted = false) ∧
      (s.endedUnfired = true → result = .error streamLost) := by
  intro s
  have sound : Sound n s := sound_run n allowed
  refine ⟨sound.running_le, fun result returned => ?_⟩
  obtain ⟨accepted, lost⟩ := sound.verdict.returned result returned
  refine ⟨sound.not_running returned, fun ok => (accepted ok).1, fun ok unwinding i => ?_, lost⟩
  cases aborted : (s.jobs i).wasAborted with
  | false => rfl
  | true => exact absurd (sound.aborted_panicked returned (accepted ok).2 aborted) (unwinding i)

end Runs

/-- Two deliveries share one permit; the token fires while the second one is handled, which
ends within the grace period. -/
def sharedPermit (i j : ι) : List (Event ι) :=
  [.consume, .deliver i, .lookAtToken, .tryPermit, .start i, .streamError, .deliver j,
   .lookAtToken, .tryPermit, .finish i false, .lookAtToken, .tryPermit, .start j, .join i, .cancel,
   .observeCancel, .finish j true, .join j, .leave]

theorem run_bounded_and_drained_sample :
    let M : Machine (State (Fin 2)) (Event (Fin 2)) :=
      machine (effectiveBound .unacknowledged (some 1))
    let s := M.run (State.new (effectiveBound .unacknowledged (some 1))) (sharedPermit 0 1)
    M.Allowed (State.new (effectiveBound .unacknowledged (some 1))) (sharedPermit 0 1) ∧
      s.phase = .returned (.ok ()) ∧ s.fired = true ∧ ∀ i, (s.jobs i).runsHandler = false := by
  have allowed : (machine (effectiveBound .unacknowledged (some 1))).Allowed
      (State.new (effectiveBound .unacknowledged (some 1))) (sharedPermit (0 : Fin 2) 1) := by
    simp only [machine]
    decide +kernel
  have returned : ((machine (effectiveBound .unacknowledged (some 1))).run
      (State.new (effectiveBound .unacknowledged (some 1))) (sharedPermit (0 : Fin 2) 1)).phase =
      .returned (.ok ()) := by
    decide +kernel
  have drained := (run_bounded_and_drained 1 (sharedPermit 0 1) allowed).2 (.ok ()) returned
  exact ⟨allowed, returned, drained.2.1 rfl, drained.1⟩

/-- A handler outlives the grace period, and its destructor panics when it is aborted. -/
def wedged (i : ι) : List (Event ι) :=
  [.consume, .deliver i, .lookAtToken, .tryPermit, .start i, .cancel, .observeCancel,
   .graceExpires, .stop i true, .join i, .leave]

/-- The join reports the panic, so nobody counts the abort and the run returns `Ok`. -/
theorem panicking_destructor_hides_abort :
    let M : Machine (State (Fin 1)) (Event (Fin 1)) :=
      machine (effectiveBound .unacknowledged (some 1))
    let s := M.run (State.new (effectiveBound .unacknowledged (some 1))) (wedged 0)
    M.Allowed (State.new (effectiveBound .unacknowledged (some 1))) (wedged 0) ∧
      s.phase = .returned (.ok ()) ∧ (s.jobs 0).wasAborted = true := by
  refine ⟨?_, by decide +kernel, by decide +kernel⟩
  simp only [machine]
  decide +kernel

end RabbitmqWorkerRun
