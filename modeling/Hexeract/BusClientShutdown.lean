import Hexeract.BusClientPublications

/-! # What calls report at shutdown

The close of the registry clears the slots of calls that have published and still wait.
Such a call can only come to report that its publication is unknown. -/
namespace BusClientShutdown

open LibraryMachines LibraryCollections BusEnvelope BusReplyAcceptance BusRegistryEffects
open BusReplyDelivery BusRequestClient BusClientMoves BusClientGuards BusClientPublications
open BusRequestRegistry hiding Event Enabled next machine

variable {n m : ℕ}

/-! ## Calls whose slot shutdown clears -/

/-- Unknown to the caller, or never reported because the future was dropped. -/
def Uncertain (report : Report) : Prop :=
  report = .finished (.error .publicationUnknown) ∨ report = .cancelled

/-- The publication returned, and the only answer left is that its fate is unknown. -/
def OwesUnknown (registry : RequestRegistry) : CallPhase → Prop
  | .published guard _ => receiverAt registry guard = some .closed
  | .waiting guard _ => receiverAt registry guard = some .closed
  | .woken _ => True
  | .rechecking _ => True
  | .leaving _ permit report => permit = false ∧ Uncertain report
  | .unguarded report _ => Uncertain report
  | .settling report _ => Uncertain report
  | .done report => Uncertain report
  | _ => False

structure Cleared (client : Client n m) (c : Fin n) : Prop where
  closing : client.lifecycle.closing = true
  closed : client.registry.closed = true
  owes : OwesUnknown client.registry (client.calls c)

section Clearing

variable {codec : ReplyCodec} {requests : Fin n → Request} {client after : Client n m} {c : Fin n}

theorem closed_step (sound : Sound requests client) (step : Step codec requests client after)
    (closed : client.registry.closed = true) : after.registry.closed = true := by
  rcases sound.registry (change_of_step step) with same | ⟨event, _, registry, _⟩
  · rw [same, closed]
  · rw [registry, (settings_next client.registry event).2]
    exact .inl closed

theorem OwesUnknown.of_kept {registry other : RequestRegistry} {phase : CallPhase}
    (owes : OwesUnknown registry phase)
    (kept : ∀ guard, guardOf phase = some guard → receiverAt registry guard = some .closed →
      receiverAt other guard = some .closed) : OwesUnknown other phase := by
  cases phase with
  | published guard address => exact kept guard rfl owes
  | waiting guard address => exact kept guard rfl owes
  | _ => exact owes

theorem Cleared.quiet (cleared : Cleared client c) {before phase : CallPhase}
    (stands : client.calls c = before) (move : Quiet codec requests client c before phase) :
    OwesUnknown client.registry phase := by
  obtain ⟨begun, shut, owes⟩ := cleared
  rw [stands] at owes
  cases move with
  | receive held =>
    rw [OwesUnknown, held] at owes
    cases owes
  | waitTimesOut unanswered =>
    rw [OwesUnknown, unanswered] at owes
    cases owes
  | wake | recheck => exact trivial
  | waitDropped => exact ⟨rfl, .inr rfl⟩
  | closing | registryClosed => exact ⟨rfl, .inl rfl⟩
  | channelLost running =>
    rw [shut] at running
    cases running
  | _ => exact owes.elim

theorem Cleared.owes_move (cleared : Cleared client c)
    (move : Move codec requests client c after) : OwesUnknown after.registry (after.calls c) := by
  have owes := cleared.owes
  cases move with
  | stay => exact owes
  | quiet move =>
    rw [calls_moveTo_self]
    exact cleared.quiet rfl move
  | returnPermit stands =>
    rw [calls_moveTo_self]
    rw [stands] at owes
    exact owes
  | dropPermit stands =>
    rw [stands] at owes
    cases owes.1
  | dropGuard stands =>
    rw [calls_moveTo_self]
    rw [stands] at owes
    exact owes.2
  | settleFirst stands | settleSecond stands =>
    rw [calls_moveTo_self]
    rw [stands] at owes
    exact owes
  | start stands | register stands | raise stands | permit stands | hand stands =>
    rw [stands] at owes
    exact owes.elim

theorem Cleared.step (cleared : Cleared client c) (sound : Sound requests client)
    (step : Step codec requests client after) : Cleared after c := by
  refine ⟨closing_step step cleared.closing, closed_step sound step cleared.closed, ?_⟩
  have elsewhere : after.calls c = client.calls c → OwesUnknown after.registry (after.calls c) := by
    intro same
    rw [same]
    refine cleared.owes.of_kept ?_
    intro guard holds shown
    obtain ⟨receiver, found, kept⟩ := sound.kept (change_of_step step) holds (by rw [same, holds])
    obtain rfl := kept .closed shown (by simp)
    rw [receiverAt, found]
    rfl
  cases step with
  | call d move =>
    by_cases here : c = d
    · subst here
      exact cleared.owes_move move
    · exact elsewhere (move.elsewhere here)
  | _ => exact elsewhere rfl

theorem cleared_of_close (sound : Sound requests client)
    (closing : client.lifecycle.closing = true) {order : List RequestId} {guard : ℕ}
    {address : Address} {expectation : ReplyExpectation}
    (waits : client.calls c = .published guard address ∨ client.calls c = .waiting guard address)
    (live : listening client.registry (requests c).requestId = some (guard, expectation))
    {closers : Fin m → CloserPhase} :
    Cleared { client with registry := client.registry.close order, closers } c := by
  have found := sound.linked.owner _ _ _ live
  have sender := (mem_senders client.registry).mpr ⟨_, _, live⟩
  have shown : receiverAt (client.registry.close order) guard = some .closed := by
    change ((dropSenders client.registry.pending _)[guard]?).map PendingReply.receiver = _
    rw [getElem?_dropSenders, found]
    simp [sender]
  refine ⟨closing, rfl, ?_⟩
  change OwesUnknown (client.registry.close order) (client.calls c)
  rcases waits with published | waiting
  · rw [published]
    exact shown
  · rw [waiting]
    exact shown

def stepsLeft : CallPhase → ℕ
  | .published _ _ => 7
  | .waiting _ _ => 6
  | .woken _ => 5
  | .rechecking _ => 4
  | .leaving _ _ _ => 3
  | .unguarded _ _ => 2
  | .settling _ _ => 1
  | _ => 0

theorem Cleared.advances (cleared : Cleared client c) (codec : ReplyCodec)
    (requests : Fin n → Request) :
    (∃ report, client.calls c = .done report ∧ Uncertain report) ∨
      Enabled client (.advance c) ∧
        stepsLeft ((next codec requests client (.advance c)).calls c) <
          stepsLeft (client.calls c) := by
  have owes := cleared.owes
  simp only [Enabled, canAdvance, next, advance]
  cases stands : client.calls c with
  | done report =>
    rw [stands] at owes
    exact .inl ⟨report, rfl, owes⟩
  | waiting guard address =>
    rw [stands, OwesUnknown] at owes
    right
    simp [owes, stepsLeft]
  | leaving guard permit report =>
    rw [stands] at owes
    obtain ⟨rfl, _⟩ := owes
    right
    simp [stepsLeft]
  | woken guard =>
    right
    simp [cleared.closing, failWith, stepsLeft]
  | rechecking guard =>
    right
    simp [cleared.closed, failWith, stepsLeft]
  | published guard address =>
    right
    simp [stepsLeft]
  | unguarded report isAdmitted =>
    right
    simp [stepsLeft]
  | settling report isAdmitted =>
    right
    simp [stepsLeft]
  | _ =>
    rw [stands] at owes
    exact owes.elim

/-- Left to itself, a cleared call comes to its end. -/
theorem Cleared.finishes (codec : ReplyCodec) (sound : Sound requests client)
    (cleared : Cleared client c) :
    ∃ k report, (machine codec requests).Allowed client (List.replicate k (.advance c)) ∧
      ((machine codec requests).run client (List.replicate k (.advance c))).calls c =
        .done report ∧ Uncertain report := by
  induction left : stepsLeft (client.calls c) using Nat.strong_induction_on generalizing client with
  | _ left ih =>
    rcases cleared.advances codec requests with
      ⟨report, ended, uncertain⟩ | ⟨enabled, fewer⟩
    · exact ⟨0, report, trivial, ended, uncertain⟩
    · have step := step_next codec requests enabled
      obtain ⟨k, report, allowed, ended, uncertain⟩ :=
        ih _ (by omega) (sound.step step) (cleared.step sound step) rfl
      exact ⟨k + 1, report, ⟨enabled, allowed⟩, ended, uncertain⟩

end Clearing

/-! ## Dropped futures -/

def isDropped : CallPhase → Bool
  | .leaving _ _ report => report == .cancelled
  | .unguarded report _ => report == .cancelled
  | .settling report _ => report == .cancelled
  | .done report => report == .cancelled
  | _ => false

section Dropping

variable {codec : ReplyCodec} {requests : Fin n → Request} {client : Client n m} {c : Fin n}

theorem isDropped_advance (h : isDropped (client.calls c) = false) :
    isDropped ((advance codec requests client c).calls c) = false := by
  unfold advance
  cases stands : client.calls c with
  | leaving guard permit report =>
    rw [stands] at h
    cases permit <;> simpa [isDropped] using h
  | unguarded | settling =>
    rw [stands] at h
    simpa [isDropped] using h
  | done =>
    rw [stands] at h
    simpa [stands] using h
  | started | admitted | addressed | encoded | waiting | woken | rechecking =>
    dsimp only
    split <;> simp [isDropped, failWith, stands]
  | _ => simp [isDropped, failWith]

theorem isDropped_next {event : Event n m} (other : event ≠ .dropFuture c)
    (h : isDropped (client.calls c) = false) :
    isDropped ((next codec requests client event).calls c) = false := by
  rcases @calls_next n m codec requests client event c with same | rfl | ⟨cause, _⟩
  · rw [same, h]
  · exact isDropped_advance h
  · cases event with
    | publishFails d error =>
      obtain rfl : d = c := cause
      simp only [next, publishFails]
      split
      · simp [failWith, isDropped]
      · exact h
    | deadlinePasses d =>
      obtain rfl : d = c := cause
      simp only [next, deadlinePasses]
      split
      · simp [isDropped]
      · simp [isDropped]
      · exact h
    | dropFuture d =>
      obtain rfl : d = c := cause
      exact absurd rfl other
    | _ => exact cause.elim

theorem isDropped_run {events : List (Event n m)} (other : .dropFuture c ∉ events)
    (h : isDropped (client.calls c) = false) :
    isDropped (((machine codec requests).run client events).calls c) = false := by
  induction events generalizing client with
  | nil => exact h
  | cons event rest ih =>
    rw [List.mem_cons, not_or] at other
    exact ih other.2 (isDropped_next (Ne.symm other.1) h)

end Dropping

/-! ## Runs -/

/-- What holds in every state of every run. -/
structure Orderly (requests : Fin n → Request) (client : Client n m) : Prop where
  sound : Sound requests client
  guarded : Guarded client
  unhanded : ∀ c, beforeHandover (client.calls c) = true → client.handed c = false

theorem orderly_run (codec : ReplyCodec) (requests : Fin n → Request) (maxInFlight : ℕ)
    (inbox : String) {events : List (Event n m)}
    (allowed : (machine codec requests).Allowed (Client.new n m maxInFlight inbox) events) :
    Orderly requests ((machine codec requests).run (Client.new n m maxInFlight inbox) events) := by
  refine invariant_of_run codec requests ?_ ?_ allowed
  · exact ⟨.new requests maxInFlight inbox, .new maxInFlight inbox, fun _ _ => rfl⟩
  · intro before after orderly step
    exact ⟨orderly.sound.step step, orderly.guarded.step step, unhanded_step step orderly.unhanded⟩

/-- A cleared call reports that its publication is unknown, unless its future is dropped. -/
theorem unknown_of_cleared {codec : ReplyCodec} {requests : Fin n → Request} {client : Client n m}
    {c : Fin n} (sound : Sound requests client) (cleared : Cleared client c)
    (undropped : isDropped (client.calls c) = false) {rest : List (Event n m)}
    (allowed : (machine codec requests).Allowed client rest) (held : .dropFuture c ∉ rest)
    {after : Client n m} (reached : after = (machine codec requests).run client rest) :
    (∀ report, after.calls c = .done report → report = .finished (.error .publicationUnknown)) ∧
      ∃ k, (machine codec requests).Allowed after (List.replicate k (.advance c)) ∧
        ((machine codec requests).run after (List.replicate k (.advance c))).calls c =
          .done (.finished (.error .publicationUnknown)) := by
  have later : Sound requests after ∧ Cleared after c := by
    rw [reached]
    exact invariant_of_run (I := fun client => Sound requests client ∧ Cleared client c) codec
      requests ⟨sound, cleared⟩ (fun _ _ both step => ⟨both.1.step step, both.2.step both.1 step⟩)
      allowed
  have kept : isDropped (after.calls c) = false := by
    rw [reached]
    exact isDropped_run held undropped
  have reported : ∀ report, isDropped (.done report) = false → Uncertain report →
      report = .finished (.error .publicationUnknown) := by
    rintro report undropped (unknown | rfl)
    · exact unknown
    · cases undropped
  constructor
  · intro report ended
    have owes := later.2.owes
    rw [ended] at owes kept
    exact reported report kept owes
  · obtain ⟨k, report, own, ended, uncertain⟩ := later.2.finishes codec later.1
    have still : isDropped (((machine codec requests).run after
        (List.replicate k (.advance c))).calls c) = false := isDropped_run (by simp) kept
    rw [ended] at still
    exact ⟨k, own, by rw [ended, reported report still uncertain]⟩

/-- In every run: once shutdown has begun no call without a permit comes to hand anything over,
the token is cancelled only when no call holds a permit, a call that reports one of the errors
from before the handover handed nothing over, and a call that has published and not yet been
answered or timed out when a closer clears its slot reports that its publication is unknown,
unless its future is dropped. -/
theorem shutdown_is_orderly (codec : ReplyCodec) (requests : Fin n → Request) (maxInFlight : ℕ)
    (inbox : String) (events later : List (Event n m))
    (allowed : (machine codec requests).Allowed (Client.new n m maxInFlight inbox)
      (events ++ later)) (client after : Client n m)
    (reached : client = (machine codec requests).run (Client.new n m maxInFlight inbox) events)
    (continued : after = (machine codec requests).run client later) :
    (client.lifecycle.closing = true → ∀ c, holdsPermit (client.calls c) = false →
      client.handed c = false → after.handed c = false) ∧
    (client.cancelled = true → ∀ c, holdsPermit (client.calls c) = false) ∧
    (∀ c error, client.calls c = .done (.finished (.error error)) → preHandover error = true →
      client.handed c = false) ∧
    ∀ c guard address expectation j waits order rest,
      (client.calls c = .published guard address ∨ client.calls c = .waiting guard address) →
      listening client.registry (requests c).requestId = some (guard, expectation) →
      client.closers j = .begun waits → later = .close j order :: rest →
      .dropFuture c ∉ rest →
      (∀ report, after.calls c = .done report →
        report = .finished (.error .publicationUnknown)) ∧
      ∃ k, (machine codec requests).Allowed after (List.replicate k (.advance c)) ∧
        ((machine codec requests).run after (List.replicate k (.advance c))).calls c =
          .done (.finished (.error .publicationUnknown)) := by
  obtain ⟨early, late⟩ := allowed_append.mp allowed
  have orderly := orderly_run codec requests maxInFlight inbox early
  rw [← reached] at orderly late
  refine ⟨?_, ?_, ?_, ?_⟩
  · intro closing c unpermitted kept
    have barred : Barred ((machine codec requests).run client later) c :=
      invariant_of_run (I := fun client => Barred client c) codec requests
        ⟨closing, unpermitted, kept⟩ (fun _ _ barred step => barred.step step) late
    rw [continued]
    exact barred.kept
  · intro cancelled
    have none := (orderly.guarded.cancelled cancelled).2
    rw [orderly.guarded.permits] at none
    exact (countOf_eq_zero holdsPermit client.calls).mp none
  · intro c error ended before
    refine orderly.unhanded c ?_
    rw [ended]
    exact before
  · intro c guard address expectation j waits order rest awaits live begun split held
    rw [split] at late continued
    have close : next codec requests client (.close j order) =
        { client with
          registry := client.registry.close order
          closers := Function.update client.closers j (.registryClosed waits) } := by
      simp only [next, closeStep, begun]
    have closing := orderly.guarded.begun j (by rw [begun]; simp)
    have enabled : Enabled client (.close j order) := late.1
    refine unknown_of_cleared (orderly.sound.step (step_next codec requests enabled)) ?_ ?_ late.2
      held continued
    · rw [close]
      exact cleared_of_close orderly.sound closing awaits live
    · rw [close]
      rcases awaits with published | waiting
      · simp only [published, isDropped]
      · simp only [waiting, isDropped]

/-- The call has published; a closer begins while it waits. -/
def waitingEvents : List (Event 1 1) := List.replicate 9 (.advance 0) ++ [.close 0 []]

theorem shutdown_is_orderly_sample :
    ∃ k, ((machine sampleCodec sampleRequests).run ((machine sampleCodec sampleRequests).run
      ((machine sampleCodec sampleRequests).run (Client.new 1 1 4 "inbox") waitingEvents)
        [.close 0 [sampleId]]) (List.replicate k (.advance 0))).calls 0 =
          .done (.finished (.error .publicationUnknown)) := by
  have orderly := shutdown_is_orderly sampleCodec sampleRequests 4 "inbox" waitingEvents
    [.close 0 [sampleId]] (by simp only [machine]; decide +kernel) _ _ rfl rfl
  obtain ⟨k, _, ended⟩ := (orderly.2.2.2 0 0 ⟨"inbox", 0⟩ sampleExpectation 0 false [sampleId] []
    (.inr (by decide +kernel)) (by decide +kernel) (by decide +kernel) rfl (by simp)).2
  exact ⟨k, ended⟩

/-- The deadline passes before the closer begins, and the call has yet to leave. -/
def lateEvents : List (Event 1 1) :=
  List.replicate 9 (.advance 0) ++ [.deadlinePasses 0, .close 0 []]

/-- A call that has published and whose slot shutdown clears, and that reports a timeout. -/
theorem cleared_call_reports_timeout :
    (machine sampleCodec sampleRequests).Allowed (Client.new 1 1 4 "inbox")
        (lateEvents ++ .close 0 [sampleId] :: List.replicate 5 (.advance 0)) ∧
      ((machine sampleCodec sampleRequests).run (Client.new 1 1 4 "inbox")
        (List.replicate 8 (.advance 0))).calls 0 = .published 0 ⟨"inbox", 0⟩ ∧
      listening ((machine sampleCodec sampleRequests).run (Client.new 1 1 4 "inbox")
        lateEvents).registry sampleId = some (0, sampleExpectation) ∧
      listening ((machine sampleCodec sampleRequests).run (Client.new 1 1 4 "inbox")
        (lateEvents ++ [.close 0 [sampleId]])).registry sampleId = none ∧
      ((machine sampleCodec sampleRequests).run (Client.new 1 1 4 "inbox")
        (lateEvents ++ .close 0 [sampleId] :: List.replicate 5 (.advance 0))).calls 0 =
          .done (.finished (.error (.timeout (sampleRequest sampleId).timeout none 0))) := by
  refine ⟨by simp only [machine]; decide +kernel, by decide +kernel, by decide +kernel,
    by decide +kernel, by decide +kernel⟩

end BusClientShutdown
