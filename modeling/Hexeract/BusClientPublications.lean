import Hexeract.BusClientGuards

/-! # Publications and shutdown

Closers on any number of clones run beside the calls. A permit is held from the admission of
a publication until its transport call has returned or was dropped; the closers rest on the
count of permits, which can only fall once shutdown has begun. -/
namespace BusClientPublications

open LibraryMachines LibraryCollections BusEnvelope BusReplyAcceptance BusRequestClient
open BusClientMoves
open BusRequestRegistry hiding Event Enabled next machine

variable {n m : ℕ}

def holdsPermit : CallPhase → Bool
  | .permitted _ _ => true
  | .publishing _ _ => true
  | .published _ _ => true
  | .timingOut _ permit => permit
  | .countingRejections _ permit _ => permit
  | .leaving _ permit _ => permit
  | _ => false

def pastDrain : CloserPhase → Bool
  | .idle => false
  | .begun waits => !waits
  | .registryClosed waits => !waits
  | .drained => true
  | .finished => true

/-- What holds between the permits, the watch value, the closers and the token. -/
structure Guarded (client : Client n m) : Prop where
  permits : client.lifecycle.inFlight = countOf holdsPermit client.calls
  watch : client.lifecycle.drained = true ↔ client.lifecycle.inFlight = 0
  begun : ∀ j, client.closers j ≠ .idle → client.lifecycle.closing = true
  passed : ∀ j, pastDrain (client.closers j) = true → client.lifecycle.inFlight = 0
  cancelled : client.cancelled = true →
    client.lifecycle.closing = true ∧ client.lifecycle.inFlight = 0

theorem Guarded.new (maxInFlight : ℕ) (inbox : String) :
    Guarded (Client.new n m maxInFlight inbox) where
  permits := (countOf_const holdsPermit .idle rfl).symm
  watch := ⟨fun _ => rfl, fun _ => rfl⟩
  begun := fun _ started => absurd rfl started
  passed := fun _ past => by cases past
  cancelled := fun cancelled => by cases cancelled

section Permits

variable {codec : ReplyCodec} {requests : Fin n → Request} {client after : Client n m} {c : Fin n}

theorem holdsPermit_quiet {before phase : CallPhase}
    (move : Quiet codec requests client c before phase) :
    holdsPermit phase = holdsPermit before := by
  cases move <;> rfl

/-- What a move does to the permits: it takes none once shutdown has begun. -/
theorem lifecycle_move (move : Move codec requests client c after) :
    (after.lifecycle = client.lifecycle ∧
        holdsPermit (after.calls c) = holdsPermit (client.calls c)) ∨
      (client.lifecycle.admission = .ok after.lifecycle ∧
        holdsPermit (client.calls c) = false ∧ holdsPermit (after.calls c) = true) ∨
      (after.lifecycle = client.lifecycle.dropPermit ∧
        holdsPermit (client.calls c) = true ∧ holdsPermit (after.calls c) = false) := by
  cases move with
  | stay => exact .inl ⟨rfl, rfl⟩
  | quiet move =>
    rw [calls_moveTo_self]
    exact .inl ⟨rfl, holdsPermit_quiet move⟩
  | permit stands admitted =>
    rw [calls_moveTo_self, stands]
    exact .inr (.inl ⟨admitted, rfl, rfl⟩)
  | returnPermit stands | dropPermit stands =>
    rw [calls_moveTo_self, stands]
    exact .inr (.inr ⟨rfl, rfl, rfl⟩)
  | start stands | register stands | raise stands | hand stands | dropGuard stands
  | settleFirst stands | settleSecond stands =>
    rw [calls_moveTo_self, stands]
    exact .inl ⟨rfl, rfl⟩

theorem closers_move (move : Move codec requests client c after) :
    after.closers = client.closers ∧ after.cancelled = client.cancelled := by
  cases move <;> exact ⟨rfl, rfl⟩

theorem closing_move (move : Move codec requests client c after) :
    after.lifecycle.closing = client.lifecycle.closing := by
  rcases lifecycle_move move with ⟨same, _⟩ | ⟨admitted, _, _⟩ | ⟨dropped, _, _⟩
  · rw [same]
  · obtain ⟨running, running', _⟩ := admission_ok admitted
    rw [running, running']
  · rw [dropped]
    rfl

theorem Guarded.move (guarded : Guarded client) (move : Move codec requests client c after) :
    Guarded after := by
  obtain ⟨closers, cancelled⟩ := closers_move move
  have closing := closing_move move
  have counted := countOf_move move holdsPermit
  -- a move that takes a permit leaves nothing to show about closers, there are none
  have falls : client.lifecycle.closing = true → client.lifecycle.inFlight = 0 →
      after.lifecycle.inFlight = 0 := by
    intro begun none
    rcases lifecycle_move move with ⟨same, _⟩ | ⟨admitted, _, _⟩ | ⟨dropped, _, _⟩
    · rw [same, none]
    · rw [(admission_ok admitted).1] at begun
      cases begun
    · simp [dropped, PublicationState.dropPermit, none]
  have balance : after.lifecycle.inFlight = countOf holdsPermit after.calls ∧
      (after.lifecycle.drained = true ↔ after.lifecycle.inFlight = 0) := by
    have permits := guarded.permits
    rcases lifecycle_move move with
      ⟨same, held⟩ | ⟨admitted, before, held⟩ | ⟨dropped, before, held⟩
    · rw [held] at counted
      rw [same]
      exact ⟨by omega, guarded.watch⟩
    · obtain ⟨_, _, count, drained⟩ := admission_ok admitted
      rw [before, held, Bool.toNat_false, Bool.toNat_true] at counted
      refine ⟨by omega, ?_⟩
      rw [drained, count]
      split
      · simp
      · rename_i some
        simp [guarded.watch, some]
    · rw [before, held, Bool.toNat_false, Bool.toNat_true] at counted
      rw [dropped]
      simp only [PublicationState.dropPermit]
      refine ⟨by omega, ?_⟩
      by_cases last : client.lifecycle.inFlight - 1 = 0
      · simp [last]
      · have busy : client.lifecycle.inFlight ≠ 0 := by omega
        simp [last, guarded.watch, busy]
  refine ⟨balance.1, balance.2, ?_, ?_, ?_⟩
  · rw [closers, closing]
    exact guarded.begun
  · intro j past
    rw [closers] at past
    refine falls (guarded.begun j ?_) (guarded.passed j past)
    intro idle
    rw [idle] at past
    cases past
  · rw [cancelled, closing]
    intro ended
    obtain ⟨begun, none⟩ := guarded.cancelled ended
    exact ⟨begun, falls begun none⟩

theorem Guarded.passed_update (guarded : Guarded client) {j : Fin m} {phase : CloserPhase}
    (here : pastDrain phase = true → client.lifecycle.inFlight = 0) (i : Fin m)
    (past : pastDrain (Function.update client.closers j phase i) = true) :
    client.lifecycle.inFlight = 0 := by
  by_cases same : i = j
  · rw [same, Function.update_self] at past
    exact here past
  · rw [Function.update_of_ne same] at past
    exact guarded.passed i past

theorem Guarded.step (guarded : Guarded client) (step : Step codec requests client after) :
    Guarded after := by
  cases step with
  | call c move => exact guarded.move move
  | deliver | undecodable | mark | drain | reconnect =>
    exact ⟨guarded.permits, guarded.watch, guarded.begun, guarded.passed, guarded.cancelled⟩
  | @beginClose j stands =>
    refine ⟨guarded.permits, guarded.watch, fun _ _ => rfl, ?_, ?_⟩
    · apply guarded.passed_update
      intro past
      simpa [pastDrain] using past
    · intro ended
      exact ⟨rfl, (guarded.cancelled ended).2⟩
  | @closeRegistry j waits stands order walked =>
    have begun := guarded.begun j (by rw [stands]; simp)
    refine ⟨guarded.permits, guarded.watch, fun _ _ => begun, ?_, guarded.cancelled⟩
    apply guarded.passed_update
    intro past
    exact guarded.passed j (by rw [stands]; exact past)
  | @passDrain j waits stands drained =>
    have begun := guarded.begun j (by rw [stands]; simp)
    refine ⟨guarded.permits, guarded.watch, fun _ _ => begun, ?_, guarded.cancelled⟩
    apply guarded.passed_update
    intro _
    -- the closer saw the watch value, or found nothing in flight when it began
    cases waits with
    | true => exact guarded.watch.mp (drained rfl)
    | false => exact guarded.passed j (by rw [stands]; rfl)
  | @cancel j stands =>
    have begun := guarded.begun j (by rw [stands]; simp)
    have none := guarded.passed j (by rw [stands]; rfl)
    exact ⟨guarded.permits, guarded.watch, fun _ _ => begun, fun _ _ => none,
      fun _ => ⟨begun, none⟩⟩

/-- A call without a permit once shutdown has begun. -/
structure Barred (client : Client n m) (c : Fin n) : Prop where
  closing : client.lifecycle.closing = true
  unpermitted : holdsPermit (client.calls c) = false
  kept : client.handed c = false

theorem closing_step (step : Step codec requests client after)
    (closing : client.lifecycle.closing = true) : after.lifecycle.closing = true := by
  cases step with
  | call c move =>
    rw [closing_move move]
    exact closing
  | beginClose => rfl
  | _ => exact closing

theorem handed_move {d : Fin n} (move : Move codec requests client c after) :
    after.handed d = client.handed d ∨ d = c ∧ holdsPermit (client.calls c) = true := by
  cases move with
  | hand stands =>
    by_cases here : d = c
    · exact .inr ⟨here, by rw [stands]; rfl⟩
    · exact .inl (Function.update_of_ne here _ _)
  | _ => exact .inl rfl

theorem Barred.step (barred : Barred client c) (step : Step codec requests client after) :
    Barred after c := by
  refine ⟨closing_step step barred.closing, ?_, ?_⟩
  · cases step with
    | call d move =>
      by_cases here : c = d
      · subst here
        rcases lifecycle_move move with ⟨_, same⟩ | ⟨admitted, _, _⟩ | ⟨_, _, dropped⟩
        · rw [same, barred.unpermitted]
        · have running := (admission_ok admitted).1
          rw [barred.closing] at running
          cases running
        · exact dropped
      · rw [move.elsewhere here]
        exact barred.unpermitted
    | _ => exact barred.unpermitted
  · cases step with
    | call d move =>
      rcases handed_move (d := c) move with same | ⟨rfl, permitted⟩
      · rw [same, barred.kept]
      · rw [barred.unpermitted] at permitted
        cases permitted
    | _ => exact barred.kept

end Permits

/-! ## Calls that handed nothing over -/

/-- The errors that a call reports before it hands anything to the transport. -/
def preHandover : RequestError → Bool
  | .atCapacity => true
  | .closed => true
  | .encode _ => true
  | .protocol .identityCollision => true
  | _ => false

def preHandoverReport : Report → Bool
  | .finished (.error error) => preHandover error
  | _ => false

/-- The call has not reached the transport, or reports that it never did. -/
def beforeHandover : CallPhase → Bool
  | .idle => true
  | .started => true
  | .registered _ => true
  | .admitted _ => true
  | .addressed _ _ => true
  | .encoded _ _ => true
  | .permitted _ _ => true
  | .leaving _ _ report => preHandoverReport report
  | .unguarded report _ => preHandoverReport report
  | .settling report _ => preHandoverReport report
  | .done report => preHandoverReport report
  | _ => false

theorem preHandover_decodeReply {codec : ReplyCodec} {request : Request} {reply : Envelope}
    {error : RequestError} (h : decodeReply codec request reply = .error error) :
    preHandover error = false := by
  rcases decodeReply_error h with ⟨violation, rfl, other⟩ | ⟨_, rfl⟩ | ⟨_, _, rfl⟩
  · cases violation <;> first | rfl | exact absurd rfl other
  · rfl
  · rfl

section Handover

variable {codec : ReplyCodec} {requests : Fin n → Request} {client after : Client n m} {c : Fin n}

theorem beforeHandover_quiet {before phase : CallPhase}
    (move : Quiet codec requests client c before phase) (h : beforeHandover phase = true) :
    beforeHandover before = true := by
  cases move with
  | refused | address | reconnecting | encode | encodeFails | closed => rfl
  | @receive guard address envelope authentication held =>
    simp only [beforeHandover] at h
    cases decoded : decodeReply codec (requests c) envelope with
    | ok value =>
      rw [decoded] at h
      cases h
    | error error =>
      rw [decoded] at h
      have other := preHandover_decodeReply decoded
      change preHandover error = true at h
      rw [other] at h
      cases h
  | _ => cases h

theorem beforeHandover_move (move : Move codec requests client c after)
    (h : beforeHandover (after.calls c) = true) :
    beforeHandover (client.calls c) = true ∧ after.handed c = client.handed c := by
  cases move with
  | stay => exact ⟨h, rfl⟩
  | quiet move =>
    rw [calls_moveTo_self] at h
    exact ⟨beforeHandover_quiet move h, rfl⟩
  | hand | returnPermit =>
    rw [calls_moveTo_self] at h
    cases h
  | start stands | register stands | raise stands | permit stands =>
    rw [stands]
    exact ⟨rfl, rfl⟩
  | dropPermit stands | dropGuard stands | settleFirst stands | settleSecond stands =>
    rw [calls_moveTo_self] at h
    rw [stands]
    exact ⟨h, rfl⟩

theorem unhanded_step (step : Step codec requests client after)
    (unhanded : ∀ c, beforeHandover (client.calls c) = true → client.handed c = false)
    (c : Fin n) (h : beforeHandover (after.calls c) = true) : after.handed c = false := by
  cases step with
  | call d move =>
    by_cases here : c = d
    · subst here
      obtain ⟨before, same⟩ := beforeHandover_move move h
      rw [same, unhanded c before]
    · rw [move.elsewhere here] at h
      rcases handed_move (d := c) move with same | ⟨here', _⟩
      · rw [same, unhanded c h]
      · exact absurd here' here
  | _ => exact unhanded c h

end Handover

end BusClientPublications
