import Hexeract.BusClientGuards
import Hexeract.BusReplyExchange

/-! # The local deadline of a call

A call adds its timeout to the monotonic clock before it does anything else. The clock is
kept like the wall clock, so the sum need not be representable, and then the addition
panics. The runtime adds once more: a timer is registered when what it guards is found
pending, and its deadline is then rounded up to a millisecond. Time passes at any point here,
also past a deadline: a call is late when it is polled late, but never early. -/
namespace BusClientDeadline

open LibraryMachines LibraryCollections StdTime BusErrors BusEnvelope BusDeadline
open BusReplyAcceptance BusRequestClient BusClientMoves BusClientGuards BusReplyExchange
open BusRequestRegistry (RequestRegistry receiverAt)
open BusReplyDelivery (sampleCodec)

variable {n m : ℕ}

/-! ## Calls with their timers -/

inductive Timer where
  | unset
  | panicked
  | due (started deadline : SystemTime)
  deriving DecidableEq

structure Timed (n m : ℕ) where
  client : Client n m
  now : SystemTime
  timers : Fin n → Timer

def initial (n m maxInFlight : ℕ) (inbox : String) (now : SystemTime) : Timed n m :=
  ⟨.new n m maxInFlight inbox, now, fun _ => .unset⟩

/-- `pend` is a poll that finds what the call awaits not ready, and so polls its timer. -/
inductive TimedEvent (n m : ℕ) where
  | tick (later : SystemTime)
  | pend (c : Fin n)
  | step (event : Event n m)

/-- What the timer wheel of the runtime adds to a deadline to round it up to a millisecond. -/
def timerRounding : Duration := ⟨999999, by decide⟩

/-- The rounding addition of the runtime panics where it overflows. -/
def Timer.registers : Timer → Bool
  | .due _ deadline => (deadline.checkedAdd timerRounding).isSome
  | _ => true

def Timer.Reached (now : SystemTime) : Timer → Prop
  | .due _ deadline => deadline.nanos ≤ now.nanos
  | _ => False

instance (now : SystemTime) : (timer : Timer) → Decidable (timer.Reached now)
  | .due _ deadline => inferInstanceAs (Decidable (deadline.nanos ≤ now.nanos))
  | .unset => isFalse id
  | .panicked => isFalse id

/-- A call that panicked is not polled again, though the destructors of what it holds run. The
deadline branch is taken once the deadline of a timer that could be registered is reached. -/
def TimedEnabled (s : Timed n m) : TimedEvent n m → Prop
  | .tick later => s.now.nanos ≤ later.nanos
  | .pend c => s.timers c ≠ .panicked ∧ deadlineCanPass s.client c = true
  | .step (.advance c) =>
    (s.timers c = .panicked → s.client.calls c ≠ .idle) ∧ Enabled s.client (.advance c)
  | .step (.deadlinePasses c) =>
    ((s.timers c).registers = true ∧ (s.timers c).Reached s.now) ∧
      Enabled s.client (.deadlinePasses c)
  | .step event => Enabled s.client event

instance (s : Timed n m) : (event : TimedEvent n m) → Decidable (TimedEnabled s event)
  | .tick later => inferInstanceAs (Decidable (s.now.nanos ≤ later.nanos))
  | .pend _ => inferInstanceAs (Decidable (_ ∧ _))
  | .step (.advance _) => inferInstanceAs (Decidable ((_ → _) ∧ _))
  | .step (.deadlinePasses _) => inferInstanceAs (Decidable ((_ ∧ _) ∧ _))
  | .step (.publishFails c e) => inferInstanceAs (Decidable (Enabled s.client (.publishFails c e)))
  | .step (.dropFuture c) => inferInstanceAs (Decidable (Enabled s.client (.dropFuture c)))
  | .step (.close j order) => inferInstanceAs (Decidable (Enabled s.client (.close j order)))
  | .step (.deliver e a) => inferInstanceAs (Decidable (Enabled s.client (.deliver e a)))
  | .step .undecodable => inferInstanceAs (Decidable (Enabled s.client .undecodable))
  | .step .mark => inferInstanceAs (Decidable (Enabled s.client .mark))
  | .step (.drain order) => inferInstanceAs (Decidable (Enabled s.client (.drain order)))
  | .step (.reconnect inbox) => inferInstanceAs (Decidable (Enabled s.client (.reconnect inbox)))

/-- The first poll of `request_inner`. -/
def begin (codec : ReplyCodec) (requests : Fin n → Request) (s : Timed n m) (c : Fin n) :
    Timed n m :=
  match s.now.checkedAdd (requests c).timeout with
  | none => { s with timers := Function.update s.timers c .panicked }
  | some deadline =>
    { s with
      client := advance codec requests s.client c
      timers := Function.update s.timers c (.due s.now deadline) }

/-- Registering the timer panics or changes nothing; unwinding drops what the call holds. -/
def pend (s : Timed n m) (c : Fin n) : Timed n m :=
  if (s.timers c).registers then s
  else
    { s with
      client := dropFuture s.client c
      timers := Function.update s.timers c .panicked }

def timedNext (codec : ReplyCodec) (requests : Fin n → Request) (s : Timed n m) :
    TimedEvent n m → Timed n m
  | .tick later => { s with now := later }
  | .pend c => pend s c
  | .step (.advance c) =>
    if s.client.calls c = .idle then begin codec requests s c
    else { s with client := advance codec requests s.client c }
  | .step event => { s with client := next codec requests s.client event }

def timedMachine (codec : ReplyCodec) (requests : Fin n → Request) :
    Machine (Timed n m) (TimedEvent n m) :=
  ⟨TimedEnabled, timedNext codec requests⟩

instance (codec : ReplyCodec) (requests : Fin n → Request) (s : Timed n m) (e : TimedEvent n m) :
    Decidable ((timedMachine codec requests).enabled s e) :=
  inferInstanceAs (Decidable (TimedEnabled s e))

/-- Both additions, of the client and of the runtime. -/
def roundedDeadline (now : SystemTime) (timeout : Duration) : Option SystemTime :=
  (now.checkedAdd timeout).bind fun deadline => deadline.checkedAdd timerRounding

/-- A call that begins adds its timeout to a reading that leaves room for it, and for the
rounding of the timer. -/
def Representable (requests : Fin n → Request) (s : Timed n m) : TimedEvent n m → Prop
  | .step (.advance c) => s.client.calls c = .idle →
      (roundedDeadline s.now (requests c).timeout).isSome = true
  | _ => True

instance (requests : Fin n → Request) (s : Timed n m) :
    (event : TimedEvent n m) → Decidable (Representable requests s event)
  | .tick _ => isTrue trivial
  | .pend _ => isTrue trivial
  | .step (.advance c) => inferInstanceAs (Decidable (s.client.calls c = .idle →
      (roundedDeadline s.now (requests c).timeout).isSome = true))
  | .step (.deadlinePasses _) => isTrue trivial
  | .step (.publishFails _ _) => isTrue trivial
  | .step (.dropFuture _) => isTrue trivial
  | .step (.close _ _) => isTrue trivial
  | .step (.deliver _ _) => isTrue trivial
  | .step .undecodable => isTrue trivial
  | .step .mark => isTrue trivial
  | .step (.drain _) => isTrue trivial
  | .step (.reconnect _) => isTrue trivial

theorem exists_deadline {now : SystemTime} {timeout : Duration}
    (fits : (roundedDeadline now timeout).isSome = true) :
    ∃ deadline, now.checkedAdd timeout = some deadline ∧
      (deadline.checkedAdd timerRounding).isSome = true := by
  obtain ⟨rounded, both⟩ := Option.isSome_iff_exists.mp fits
  obtain ⟨deadline, added, again⟩ := Option.bind_eq_some_iff.mp both
  exact ⟨deadline, added, Option.isSome_of_eq_some again⟩

/-! ## How far a call is -/

/-- Every move of a call leads to a later stage. -/
def stage : CallPhase → ℕ
  | .idle => 0
  | .started => 1
  | .registered _ => 2
  | .admitted _ => 3
  | .addressed _ _ => 4
  | .encoded _ _ => 5
  | .permitted _ _ => 6
  | .publishing _ _ => 7
  | .published _ _ => 8
  | .waiting _ _ => 9
  | .woken _ => 10
  | .rechecking _ => 11
  | .timingOut _ _ => 12
  | .countingRejections _ _ _ => 13
  | .leaving _ true _ => 14
  | .leaving _ false _ => 15
  | .unguarded _ _ => 16
  | .settling _ _ => 17
  | .done _ => 18

def reportsTimeout : Report → Bool
  | .finished (.error (.timeout _ _ _)) => true
  | _ => false

def reportOf : CallPhase → Option Report
  | .leaving _ _ report => some report
  | .unguarded report _ => some report
  | .settling report _ => some report
  | .done report => some report
  | _ => none

/-- The call has taken the deadline branch and is about to report it. -/
def expired : CallPhase → Bool
  | .timingOut _ _ => true
  | .countingRejections _ _ _ => true
  | _ => false

def timedOut (phase : CallPhase) : Bool := expired phase || (reportOf phase).any reportsTimeout

/-- The events that move a call itself; a poll that finds nothing ready does not. -/
def Own (c : Fin n) : TimedEvent n m → Bool
  | .step (.advance d) => d = c
  | .step (.publishFails d _) => d = c
  | .step (.deadlinePasses d) => d = c
  | .step (.dropFuture d) => d = c
  | _ => false

section Moves

variable {codec : ReplyCodec} {requests : Fin n → Request} {client : Client n m} {c : Fin n}

theorem stage_leaving (guard : ℕ) (permit : Bool) (report : Report) :
    13 < stage (.leaving guard permit report) ∧ stage (.leaving guard permit report) < 16 := by
  cases permit <;> simp [stage]

theorem stage_advance (sound : Sound requests client) (enabled : canAdvance client c = true) :
    stage (client.calls c) < stage ((advance codec requests client c).calls c) := by
  have leaving := fun guard permit report => (stage_leaving guard permit report).1
  cases stands : client.calls c with
  | started =>
    simp only [advance, stands]
    split <;> simp [stage]
  | admitted guard =>
    simp only [advance, stands]
    split <;> simp [failWith, stage]
  | addressed guard address =>
    simp only [advance, stands]
    split <;> simp [failWith, stage]
  | encoded guard address =>
    simp only [advance, stands]
    split <;> simp [failWith, stage]
  | waiting guard address =>
    have held : guardOf (client.calls c) = some guard := by rw [stands]; rfl
    obtain ⟨receiver, found⟩ := sound.held c guard held
    have shown : receiverAt client.registry guard = some receiver := by
      rw [receiverAt, found]
      rfl
    simp only [canAdvance, stands, shown] at enabled
    simp only [advance, stands, shown]
    cases receiver with
    | empty => simp at enabled
    | holds envelope authentication => simp [stage]
    | closed => simp [stage]
  | woken guard =>
    simp only [advance, stands]
    split <;> simp [failWith, stage]
  | rechecking guard =>
    simp only [advance, stands]
    split <;> simp [failWith, stage]
  | countingRejections guard permit last =>
    simp only [advance, stands, failWith, calls_moveTo_self]
    exact leaving _ _ _
  | leaving guard permit report =>
    cases permit <;> simp [advance, stands, stage]
  | done report => simp [canAdvance, stands] at enabled
  | _ => simp [advance, stands, stage]

theorem stage_interrupted {event : Event n m} (enabled : Enabled client event)
    (interrupts : Interrupts c event) :
    stage (client.calls c) < stage ((next codec requests client event).calls c) := by
  cases event with
  | publishFails d error =>
    obtain rfl : d = c := interrupts
    cases stands : client.calls d <;>
      simp [Enabled, isPublishing, next, publishFails, failWith, stands, stage] at enabled ⊢
  | deadlinePasses d =>
    obtain rfl : d = c := interrupts
    cases stands : client.calls d <;>
      simp [Enabled, deadlineCanPass, next, deadlinePasses, stands, stage] at enabled ⊢
  | dropFuture d =>
    obtain rfl : d = c := interrupts
    cases stands : client.calls d <;>
      simp [Enabled, atAwait, next, dropFuture, stands, stage] at enabled ⊢
  | _ => exact interrupts.elim

theorem decodeReply_no_timeout {request : Request} {reply : Envelope}
    (authentication : ReplyAuthentication) :
    reportsTimeout (.finished ((decodeReply codec request reply).map fun _ => authentication)) =
      false := by
  cases decoded : decodeReply codec request reply with
  | ok value => rfl
  | error error =>
    rcases decodeReply_error decoded with ⟨_, rfl, _⟩ | ⟨_, rfl⟩ | ⟨_, _, rfl⟩ <;> rfl

/-- What a poll makes of the report: it is kept, or there is a new one, which is a timeout
only where the deadline branch was taken before. -/
def Continues (before after : CallPhase) : Prop :=
  (reportOf after = reportOf before ∧ (expired after = true → expired before = true)) ∨
    ∃ result, reportOf after = some (.finished result) ∧
      (reportsTimeout (.finished result) = true → expired before = true)

theorem continues_advance :
    Continues (client.calls c) ((advance codec requests client c).calls c) := by
  unfold Continues
  cases stands : client.calls c with
  | started =>
    simp only [advance, stands]
    split
    · simp [reportOf, expired]
    · rename_i rejection _
      cases rejection <;> simp [reportOf, expired, reportsTimeout, RequestError.fromRejection]
  | admitted guard =>
    simp only [advance, stands]
    split <;> simp [failWith, reportOf, expired, reportsTimeout]
  | addressed guard address =>
    simp only [advance, stands]
    split <;> simp [failWith, reportOf, expired, reportsTimeout]
  | encoded guard address =>
    simp only [advance, stands]
    split
    · simp [reportOf, expired]
    · rename_i refused
      obtain ⟨_, rfl⟩ := admission_closing refused
      simp [failWith, reportOf, expired, reportsTimeout]
  | waiting guard address =>
    simp only [advance, stands]
    split
    · rw [calls_moveTo_self]
      refine .inr ⟨_, rfl, fun timeout => ?_⟩
      rw [decodeReply_no_timeout] at timeout
      cases timeout
    · simp [reportOf, expired]
    · simp [stands]
  | woken guard =>
    simp only [advance, stands]
    split <;> simp [failWith, reportOf, expired, reportsTimeout]
  | rechecking guard =>
    simp only [advance, stands]
    split <;> simp [failWith, reportOf, expired, reportsTimeout]
  | leaving guard permit report =>
    cases permit <;> simp [advance, stands, reportOf, expired]
  | done report => simp [advance, stands]
  | _ => simp [advance, stands, failWith, reportOf, expired]

/-- A failed publication is reported as such; the other interruptions take the deadline
branch or drop the future. -/
theorem phase_interrupted {event : Event n m} (enabled : Enabled client event)
    (interrupts : Interrupts c event) :
    Continues (client.calls c) ((next codec requests client event).calls c) ∨
      expired ((next codec requests client event).calls c) = true ∧ event = .deadlinePasses c ∨
      reportOf ((next codec requests client event).calls c) = some .cancelled ∧
        event = .dropFuture c := by
  unfold Continues
  cases event with
  | publishFails d error =>
    obtain rfl : d = c := interrupts
    cases stands : client.calls d <;>
      simp [Enabled, isPublishing, next, publishFails, failWith, stands, reportOf, reportsTimeout]
        at enabled ⊢
  | deadlinePasses d =>
    obtain rfl : d = c := interrupts
    cases stands : client.calls d <;>
      simp [Enabled, deadlineCanPass, next, deadlinePasses, stands, expired] at enabled ⊢
  | dropFuture d =>
    obtain rfl : d = c := interrupts
    cases stands : client.calls d <;>
      simp [Enabled, atAwait, next, dropFuture, stands, reportOf] at enabled ⊢
  | _ => exact interrupts.elim

variable (codec requests c) in
theorem phase_next {event : Event n m} (enabled : Enabled client event) :
    Continues (client.calls c) ((next codec requests client event).calls c) ∨
      expired ((next codec requests client event).calls c) = true ∧ event = .deadlinePasses c ∨
      reportOf ((next codec requests client event).calls c) = some .cancelled ∧
        event = .dropFuture c := by
  have moved : (next codec requests client event).calls c = client.calls c ∨ event = .advance c ∨
    Interrupts c event ∧ atAwait client c = true := calls_next codec requests c
  rcases moved with same | rfl | ⟨interrupts, _⟩
  · rw [same]
    exact .inl (.inl ⟨rfl, id⟩)
  · exact .inl continues_advance
  · exact phase_interrupted enabled interrupts

theorem not_expired_of_report {phase : CallPhase} {report : Report}
    (h : reportOf phase = some report) : expired phase = false := by
  cases phase <;> first | rfl | cases h

/-- Only the deadline branch leads to a timeout. -/
theorem timedOut_next {event : Event n m} (enabled : Enabled client event)
    (after : timedOut ((next codec requests client event).calls c) = true) :
    timedOut (client.calls c) = true ∨ event = .deadlinePasses c := by
  rcases phase_next codec requests c enabled with
    (⟨report, branch⟩ | ⟨result, report, branch⟩) | ⟨_, rfl⟩ | ⟨report, _⟩
  · rw [timedOut, report, Bool.or_eq_true] at after
    rw [timedOut, Bool.or_eq_true]
    exact .inl (after.imp branch id)
  · rw [timedOut, not_expired_of_report report, report] at after
    rw [timedOut, branch (by simpa using after)]
    exact .inl rfl
  · exact .inr rfl
  · simp [timedOut, not_expired_of_report report, report, reportsTimeout] at after

theorem cancelled_next {event : Event n m} (enabled : Enabled client event)
    (after : reportOf ((next codec requests client event).calls c) = some .cancelled) :
    reportOf (client.calls c) = some .cancelled ∨ event = .dropFuture c := by
  rcases phase_next codec requests c enabled with
    (⟨report, _⟩ | ⟨result, report, _⟩) | ⟨branch, _⟩ | ⟨_, rfl⟩
  · exact .inl (report ▸ after)
  · rw [report] at after
    cases after
  · rw [not_expired_of_report after] at branch
    cases branch
  · exact .inr rfl

end Moves

/-! ## Runs -/

/-- Calls that run have their deadline, and have timed out only past it. -/
structure Timely (requests : Fin n → Request) (s : Timed n m) : Prop where
  sound : Sound requests s.client
  running : ∀ c, s.client.calls c ≠ .idle →
    ∃ started deadline, s.timers c = .due started deadline
  exactly : ∀ c started deadline, s.timers c = .due started deadline →
    deadline.nanos = started.nanos + (requests c).timeout.nanos
  registers : ∀ c, (s.timers c).registers = true
  waited : ∀ c started deadline, s.timers c = .due started deadline →
    timedOut (s.client.calls c) = true → deadline.nanos ≤ s.now.nanos
  calm : ∀ c, s.timers c ≠ .panicked

theorem Timely.initial (requests : Fin n → Request) (maxInFlight : ℕ) (inbox : String)
    (now : SystemTime) : Timely requests (initial n m maxInFlight inbox now) where
  sound := .new requests maxInFlight inbox
  running := fun _ busy => absurd rfl busy
  exactly := fun _ _ _ => nofun
  registers := fun _ => rfl
  waited := fun _ _ _ => nofun
  calm := fun _ => nofun

section Runs

variable {codec : ReplyCodec} {requests : Fin n → Request} {s : Timed n m}

theorem enabled_of_timed {event : Event n m} (enabled : TimedEnabled s (.step event)) :
    Enabled s.client event := by
  cases event with
  | advance c => exact enabled.2
  | deadlinePasses c => exact enabled.2
  | _ => exact enabled

theorem Timely.client (timely : Timely requests s) {event : Event n m}
    (enabled : TimedEnabled s (.step event))
    (busy : ∀ c, event = .advance c → s.client.calls c ≠ .idle) :
    Timely requests { s with client := next codec requests s.client event } where
  sound := timely.sound.step (step_next codec requests (enabled_of_timed enabled))
  running := by
    intro c moved
    have origin : (next codec requests s.client event).calls c = s.client.calls c ∨
      event = .advance c ∨ Interrupts c event ∧ atAwait s.client c = true :=
      calls_next codec requests c
    apply timely.running c
    rcases origin with same | started | ⟨_, awaits⟩
    · exact same ▸ moved
    · exact busy c started
    · intro idle
      simp [atAwait, idle] at awaits
  exactly := timely.exactly
  registers := timely.registers
  waited := by
    intro c started deadline due after
    rcases timedOut_next (enabled_of_timed enabled) after with before | rfl
    · exact timely.waited c started deadline due before
    · have reached := enabled.1.2
      rw [due] at reached
      exact reached
  calm := timely.calm

theorem Timely.begin {c : Fin n} (timely : Timely requests s) (idle : s.client.calls c = .idle)
    (fits : (roundedDeadline s.now (requests c).timeout).isSome = true) :
    Timely requests (begin codec requests s c) := by
  obtain ⟨deadline, added, rounded⟩ := exists_deadline fits
  have after : (advance codec requests s.client c).calls c = .started := by simp [advance, idle]
  have others : ∀ d, d ≠ c → (advance codec requests s.client c).calls d = s.client.calls d :=
    fun d different => (move_advance codec requests).elsewhere different
  have enabled : Enabled s.client (.advance c) := by simp [Enabled, canAdvance, idle]
  rw [BusClientDeadline.begin, added]
  constructor
  · exact timely.sound.step (step_next codec requests enabled)
  · intro d busy
    by_cases same : d = c
    · subst same
      exact ⟨_, _, Function.update_self ..⟩
    · simp only [Function.update_of_ne same]
      exact timely.running d (others d same ▸ busy)
  · intro d started limit due
    by_cases same : d = c
    · subst same
      simp only [Function.update_self, Timer.due.injEq] at due
      obtain ⟨rfl, rfl⟩ := due
      exact checkedAdd_eq_some.mp added
    · simp only [Function.update_of_ne same] at due
      exact timely.exactly d started limit due
  · intro d
    by_cases same : d = c
    · subst same
      simp only [Function.update_self]
      exact rounded
    · simp only [Function.update_of_ne same]
      exact timely.registers d
  · intro d started limit due late
    by_cases same : d = c
    · subst same
      simp [after, timedOut, expired, reportOf] at late
    · simp only [Function.update_of_ne same] at due
      exact timely.waited d started limit due (others d same ▸ late)
  · intro d
    by_cases same : d = c
    · subst same
      simp
    · simp only [Function.update_of_ne same]
      exact timely.calm d

/-- A timer with room for the rounding is registered without a trace. -/
theorem Timely.pend (timely : Timely requests s) (c : Fin n) : pend s c = s := by
  rw [BusClientDeadline.pend, if_pos (timely.registers c)]

theorem Timely.next (timely : Timely requests s) {event : TimedEvent n m}
    (enabled : TimedEnabled s event) (fits : Representable requests s event) :
    Timely requests (timedNext codec requests s event) := by
  cases event with
  | tick later =>
    exact ⟨timely.sound, timely.running, timely.exactly, timely.registers,
      fun c started deadline due late =>
        (timely.waited c started deadline due late).trans enabled, timely.calm⟩
  | pend c =>
    rw [timedNext, timely.pend c]
    exact timely
  | step event =>
    cases event with
    | advance c =>
      rw [timedNext]
      split
      · rename_i idle
        exact timely.begin idle (fits idle)
      · rename_i busy
        refine timely.client enabled ?_
        rintro d ⟨⟩
        exact busy
    | _ => exact timely.client enabled nofun

theorem client_timedNext {event : Event n m} (fits : Representable requests s (.step event)) :
    (timedNext codec requests s (.step event)).client =
      BusRequestClient.next codec requests s.client event := by
  cases event with
  | advance c =>
    rw [timedNext]
    split
    · rename_i idle
      obtain ⟨deadline, added, _⟩ := exists_deadline (fits idle)
      rw [BusClientDeadline.begin, added]
      rfl
    · rfl
  | _ => rfl

theorem stage_next (timely : Timely requests s) {event : TimedEvent n m}
    (enabled : TimedEnabled s event) (fits : Representable requests s event) (c : Fin n) :
    stage (s.client.calls c) + (if Own c event then 1 else 0) ≤
      stage ((timedNext codec requests s event).client.calls c) := by
  cases event with
  | tick later => exact le_rfl
  | pend d =>
    rw [timedNext, timely.pend d]
    exact le_rfl
  | step event =>
    rw [client_timedNext fits]
    have moved : (BusRequestClient.next codec requests s.client event).calls c = s.client.calls c ∨
      event = .advance c ∨ Interrupts c event ∧ atAwait s.client c = true :=
      calls_next codec requests c
    by_cases advances : event = .advance c
    · subst advances
      have further : stage (s.client.calls c) <
          stage ((advance codec requests s.client c).calls c) :=
        stage_advance timely.sound (enabled_of_timed enabled)
      rw [if_pos (by simp [Own])]
      exact further
    by_cases interrupts : Interrupts c event
    · have further : stage (s.client.calls c) <
          stage ((BusRequestClient.next codec requests s.client event).calls c) :=
        stage_interrupted (enabled_of_timed enabled) interrupts
      split <;> omega
    · have foreign : Own c (.step event : TimedEvent n m) = false := by
        cases event <;> simp_all [Own, Interrupts]
      have still : (BusRequestClient.next codec requests s.client event).calls c =
          s.client.calls c := by
        rcases moved with same | own | ⟨own, _⟩
        · exact same
        · exact absurd own advances
        · exact absurd own interrupts
      rw [foreign, still]
      exact le_rfl

theorem Timely.run {events : List (TimedEvent n m)} (timely : Timely requests s)
    (allowed : ((timedMachine codec requests).under (Representable requests)).Allowed s events) :
    Timely requests ((timedMachine codec requests).run s events) :=
  invariant_under_condition timely (fun _ _ held enabled fits => held.next enabled fits) allowed

theorem stage_run {events : List (TimedEvent n m)} (timely : Timely requests s)
    (allowed : ((timedMachine codec requests).under (Representable requests)).Allowed s events)
    (c : Fin n) : stage (s.client.calls c) + events.countP (Own c) ≤
      stage (((timedMachine codec requests).run s events).client.calls c) := by
  induction events generalizing s with
  | nil => exact le_rfl
  | cons event rest ih =>
    obtain ⟨⟨enabled, fits⟩, allowed⟩ := allowed
    have first : stage (s.client.calls c) + (if Own c event then 1 else 0) ≤
        stage ((timedNext codec requests s event).client.calls c) :=
      stage_next timely enabled fits c
    have others := ih (timely.next enabled fits) allowed
    rw [List.countP_cons, run_cons]
    exact le_trans (by omega) others

theorem stage_le (phase : CallPhase) : stage phase ≤ 18 := by
  cases phase with
  | leaving guard permit report => exact (stage_leaving guard permit report).2.le.trans (by decide)
  | _ => simp [stage]

theorem Timely.unblocked (timely : Timely requests s) {c : Fin n} {started deadline : SystemTime}
    (due : s.timers c = .due started deadline) (late : deadline.nanos ≤ s.now.nanos) :
    (∃ report, s.client.calls c = .done report) ∨ TimedEnabled s (.step (.advance c)) ∨
      TimedEnabled s (.step (.deadlinePasses c)) := by
  by_cases ready : canAdvance s.client c = true
  · exact .inr (.inl ⟨fun panicked => absurd panicked (timely.calm c), ready⟩)
  · have reached : (s.timers c).registers = true ∧ (s.timers c).Reached s.now := by
      refine ⟨timely.registers c, ?_⟩
      rw [due]
      exact late
    cases stands : s.client.calls c with
    | done report => exact .inl ⟨report, rfl⟩
    | waiting guard address =>
      refine .inr (.inr ⟨reached, ?_⟩)
      simpa [Enabled, deadlineCanPass, canAdvance, stands] using ready
    | _ => simp [canAdvance, stands] at ready

theorem cancelled_run {events : List (TimedEvent n m)} (timely : Timely requests s)
    (allowed : ((timedMachine codec requests).under (Representable requests)).Allowed s events)
    {c : Fin n} (left : reportOf (((timedMachine codec requests).run s events).client.calls c) =
      some .cancelled) :
    reportOf (s.client.calls c) = some .cancelled ∨ .step (.dropFuture c) ∈ events := by
  induction events generalizing s with
  | nil => exact .inl left
  | cons event rest ih =>
    obtain ⟨⟨enabled, fits⟩, allowed⟩ := allowed
    rcases ih (timely.next enabled fits) allowed left with before | later
    · cases event with
      | tick later => exact .inl before
      | pend d =>
        change reportOf ((pend s d).client.calls c) = _ at before
        rw [timely.pend d] at before
        exact .inl before
      | step event =>
        change reportOf ((timedNext codec requests s (.step event)).client.calls c) = _ at before
        rw [client_timedNext fits] at before
        rcases cancelled_next (enabled_of_timed enabled) before with before | rfl
        · exact .inl before
        · exact .inr List.mem_cons_self
    · exact .inr (List.mem_cons_of_mem _ later)

end Runs

/-! ## The published deadline -/

/-- The header is left out for timeouts beyond the horizon, and only for those. -/
theorem deadlineHeader_absent_iff {Req Rep : Type} {uuid : UuidText}
    {contract : BusResponder.Contract Req Rep} {minted correlationId : Uuid} {inbox : String}
    {request : Req} {requestId : RequestId} {now : SystemTime} {timeout : Duration}
    {envelope : Envelope} (published : requestEnvelope uuid contract minted correlationId inbox
      request requestId now timeout = .ok envelope) :
    envelope.header deadlineHeader = none ↔ maxDeadlineHorizon.nanos < timeout.nanos := by
  have reserved : isReservedHeader deadlineHeader = true := by decide
  obtain ⟨built, made, rfl⟩ := map_ok.mp published
  have unset : built.header deadlineHeader = none := by
    obtain ⟨plain, fresh, rfl⟩ := map_ok.mp made
    obtain ⟨payload, _, rfl⟩ := map_ok.mp fresh
    rfl
  unfold stampDeadline Deadline.withinHorizon
  split
  · rename_i stamped
    split at stamped
    · rename_i within
      rw [BusResponder.header_insert reserved, if_pos rfl]
      simp [within]
    · cases stamped
  · rename_i skipped
    split at skipped
    · cases skipped
    · rename_i beyond
      rw [BusResponder.header_insert reserved, if_neg (by decide),
        BusResponder.header_insert reserved, if_neg (by decide), unset]
      simpa using beyond

/-! ## Every representable timeout is honoured -/

/-- In a run whose calls begin with room for their timeout and for the rounding of the timer
none of them panics. A call that
has begun has the exact deadline, takes eighteen steps at most, is never blocked past its
deadline and reports no timeout before it; it leaves with a result unless it is dropped. The
request it publishes names its deadline exactly up to the horizon. -/
theorem timeouts_honoured {codec : ReplyCodec} {requests : Fin n → Request} {maxInFlight : ℕ}
    {inbox : String} {opened : SystemTime} {events : List (TimedEvent n m)}
    (allowed : ((timedMachine codec requests).under (Representable requests)).Allowed
      (initial n m maxInFlight inbox opened) events) :
    (∀ c, let s := (timedMachine codec requests).run (initial n m maxInFlight inbox opened) events
      s.timers c ≠ .panicked ∧ events.countP (Own c) ≤ 18 ∧
      (s.client.calls c ≠ .idle → ∃ started deadline, s.timers c = .due started deadline ∧
        deadline.nanos = started.nanos + (requests c).timeout.nanos ∧
        (timedOut (s.client.calls c) = true → deadline.nanos ≤ s.now.nanos) ∧
        (deadline.nanos ≤ s.now.nanos → (∃ report, s.client.calls c = .done report) ∨
          TimedEnabled s (.step (.advance c)) ∨ TimedEnabled s (.step (.deadlinePasses c)))) ∧
      ∀ report, s.client.calls c = .done report →
        (∃ result, report = .finished result) ∨ .step (.dropFuture c) ∈ events) ∧
    ∀ (Req Rep : Type) (uuid : UuidText) (contract : BusResponder.Contract Req Rep)
      (minted correlationId : Uuid) (inbox : String) (request : Req) (requestId : RequestId)
      (now : SystemTime) (timeout : Duration) (envelope : Envelope),
      requestEnvelope uuid contract minted correlationId inbox request requestId now timeout =
          .ok envelope →
        (envelope.header deadlineHeader = none ↔ maxDeadlineHorizon.nanos < timeout.nanos) := by
  have timely := (Timely.initial requests maxInFlight inbox opened).run allowed
  refine ⟨fun c => ⟨timely.calm c, ?_, ?_, ?_⟩, ?_⟩
  · have stages := stage_run (Timely.initial requests maxInFlight inbox opened) allowed c
    have last := stage_le (((timedMachine codec requests).run
      (initial n m maxInFlight inbox opened) events).client.calls c)
    omega
  · intro busy
    obtain ⟨started, deadline, due⟩ := timely.running c busy
    exact ⟨started, deadline, due, timely.exactly c started deadline due,
      timely.waited c started deadline due, timely.unblocked due⟩
  · intro report done
    cases report with
    | finished result => exact .inl ⟨result, rfl⟩
    | cancelled =>
      rcases cancelled_run (Timely.initial requests maxInFlight inbox opened) allowed
        (by rw [done]; rfl) with before | dropped
      · cases before
      · exact .inr dropped
  · intro Req Rep uuid contract minted correlationId inbox request requestId now timeout envelope
      published
    exact deadlineHeader_absent_iff published

def patient (timeout : Duration) (c : Fin 1) : Request :=
  { sampleRequests c with timeout }

/-- Two hours pass while the call publishes. -/
def slowPublication (c : Fin 1) (later : SystemTime) : List (TimedEvent 1 0) :=
  List.replicate 7 (.step (.advance c)) ++ [.tick later, .step (.deadlinePasses c)] ++
    List.replicate 6 (.step (.advance c))

theorem timeouts_honoured_sample :
    let requests := patient (.fromSecs 7200)
    let start : Timed 1 0 := initial 1 0 1 "inbox" unixEpoch
    let events := slowPublication 0 ⟨7200000000000, by decide⟩
    let s := (timedMachine sampleCodec requests).run start events
    ((timedMachine sampleCodec requests).under (Representable requests)).Allowed start events ∧
      timedOut (s.client.calls 0) = true ∧
      ∃ started deadline, s.timers 0 = .due started deadline ∧
        deadline.nanos = started.nanos + 7200 * nanosPerSec := by
  have allowed : ((timedMachine sampleCodec (patient (.fromSecs 7200))).under
      (Representable (patient (.fromSecs 7200)))).Allowed
        (initial 1 0 1 "inbox" unixEpoch : Timed 1 0)
        (slowPublication 0 ⟨7200000000000, by decide⟩) := by
    decide +kernel
  obtain ⟨_, _, begun, _⟩ := (timeouts_honoured allowed).1 0
  obtain ⟨started, deadline, due, exactly, _⟩ := begun (by decide +kernel)
  exact ⟨allowed, by decide +kernel, started, deadline, due, exactly⟩

/-- The timeout that reaches the last instant of the clock from the epoch. -/
def lastInstant : Duration := ⟨2 ^ 63 * nanosPerSec - 1, by decide⟩

/-- The addition of the largest timeout panics at the first poll. A timeout that only just
fits panics while the request is being published, when the runtime rounds it up. -/
theorem largest_timeout_panics :
    (let requests := patient .max
    let start : Timed 1 0 := initial 1 0 1 "inbox" unixEpoch
    (timedMachine sampleCodec requests).Allowed start [.step (.advance 0)] ∧
      ((timedMachine sampleCodec requests).run start [.step (.advance 0)]).timers 0 =
        .panicked) ∧
    let requests := patient lastInstant
    let start : Timed 1 0 := initial 1 0 1 "inbox" unixEpoch
    let events := List.replicate 7 (.step (.advance 0)) ++ [.pend 0]
    (timedMachine sampleCodec requests).Allowed start events ∧
      isPublishing ((timedMachine sampleCodec requests).run start (events.take 7)).client 0 =
        true ∧
      ((timedMachine sampleCodec requests).run start events).timers 0 = .panicked := by
  decide +kernel

end BusClientDeadline
