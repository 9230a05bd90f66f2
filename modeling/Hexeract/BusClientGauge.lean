import Mathlib.Data.Fintype.Card
import Hexeract.BusClientGuards

/-! # The gauge of calls in flight

The gauge counts the calls from their admission to their last step. A slot leaves the table
earlier than that, so the bound on the table is a bound on the gauge only as far as no place
of a departed slot is given away. -/
namespace BusClientGauge

open LibraryMachines LibraryCollections BusEnvelope BusReplyAcceptance BusRegistryEffects
open BusReplyDelivery BusRequestClient BusClientMoves BusClientGuards
open BusRequestRegistry hiding Event Enabled next machine

variable {n m : ℕ}

/-- The call has been counted into the gauge and not out of it. -/
def raised : CallPhase → Bool
  | .idle | .started | .registered _ | .done _ => false
  | .unguarded _ isAdmitted => isAdmitted
  | .settling (.finished _) isAdmitted => isAdmitted
  | .settling .cancelled _ => false
  | _ => true

/-- The call has registered and has not brought the gauge down. -/
def occupies : CallPhase → Bool
  | .registered _ => true
  | phase => raised phase

def slotLive (requests : Fin n → Request) (client : Client n m) (c : Fin n) : Bool :=
  match guardOf (client.calls c), listening client.registry (requests c).requestId with
  | some guard, some (sender, _) => guard == sender
  | _, _ => false

/-- How many calls occupy a place although their slot has left the table. -/
def departed (requests : Fin n → Request) (client : Client n m) : ℕ :=
  countOf (fun c => occupies (client.calls c) && !slotLive requests client c) id

/-- A registration that would succeed finds a place even if the departed slots are counted. -/
def Uncrowded (requests : Fin n → Request) (client : Client n m) : Event n m → Prop
  | .advance c => client.calls c = .started →
    (client.registry.register (requests c).requestId ⟨(requests c).replyMessageType⟩).isOk = true →
    client.registry.slots.entries.length + departed requests client < client.registry.maxInFlight
  | _ => True

instance (requests : Fin n → Request) (client : Client n m) :
    (event : Event n m) → Decidable (Uncrowded requests client event)
  | .advance _ => inferInstanceAs (Decidable (_ → _ → _))
  | .publishFails _ _ => isTrue trivial
  | .deadlinePasses _ => isTrue trivial
  | .dropFuture _ => isTrue trivial
  | .close _ _ => isTrue trivial
  | .deliver _ _ => isTrue trivial
  | .undecodable => isTrue trivial
  | .mark => isTrue trivial
  | .drain _ => isTrue trivial
  | .reconnect _ => isTrue trivial

/-! ## The gauge counts the raised calls -/

@[simp] theorem inFlight_countOutcome (counters : RequestClientCounters)
    (outcome : RequestOutcome) : (counters.countOutcome outcome).inFlight = counters.inFlight := by
  cases outcome <;> rfl

section Steps

variable {codec : ReplyCodec} {requests : Fin n → Request} {client after : Client n m}

theorem raised_quiet {c : Fin n} {before phase : CallPhase}
    (move : Quiet codec requests client c before phase) : raised phase = raised before := by
  cases move <;> rfl

theorem occupies_quiet {c : Fin n} {before phase : CallPhase}
    (move : Quiet codec requests client c before phase) : occupies phase = occupies before := by
  cases move <;> rfl

theorem inFlight_move {c : Fin n} (move : Move codec requests client c after) :
    after.counters.inFlight + UInt64.ofNat (raised (client.calls c)).toNat =
      client.counters.inFlight + UInt64.ofNat (raised (after.calls c)).toNat := by
  cases move with
  | stay => rfl
  | quiet move => rw [calls_moveTo_self, raised_quiet move]; rfl
  | start stands | register stands | permit stands | hand stands | returnPermit stands
  | dropPermit stands | dropGuard stands =>
    rw [calls_moveTo_self, stands]
    rfl
  | raise stands =>
    rw [calls_moveTo_self, stands]
    exact UInt64.add_zero _
  | @settleFirst report isAdmitted stands =>
    rw [calls_moveTo_self, stands]
    cases report <;> cases isAdmitted <;>
      simp [Client.moveTo, settleFirst, raised, RequestClientCounters.releaseInFlight]
  | @settleSecond report isAdmitted stands =>
    rw [calls_moveTo_self, stands]
    cases report <;> cases isAdmitted <;>
      simp [Client.moveTo, settleSecond, raised, RequestClientCounters.releaseInFlight]

theorem inFlight_step (step : Step codec requests client after)
    (gauge : client.counters.inFlight = UInt64.ofNat (countOf raised client.calls)) :
    after.counters.inFlight = UInt64.ofNat (countOf raised after.calls) := by
  cases step with
  | call c move =>
    have counted := congrArg UInt64.ofNat (countOf_move move raised)
    rw [UInt64.ofNat_add, UInt64.ofNat_add, ← gauge, ← inFlight_move move] at counted
    exact (UInt64.add_left_inj _).mp counted.symm
  | _ => exact gauge

/-! ## Occupied places -/

theorem occupies_of_raised {phase : CallPhase} (h : raised phase = true) :
    occupies phase = true := by
  cases phase <;> first | exact h | cases h

theorem occupies_move {c : Fin n} (move : Move codec requests client c after)
    (h : occupies (after.calls c) = true) :
    occupies (client.calls c) = true ∨ client.calls c = .started ∧ after.calls c ≠ .started ∧
      (client.registry.register (requests c).requestId
        ⟨(requests c).replyMessageType⟩).isOk = true := by
  cases move with
  | stay => exact .inl h
  | quiet move =>
    rw [calls_moveTo_self, occupies_quiet move] at h
    exact .inl h
  | register stands admitted =>
    rw [calls_moveTo_self, admitted]
    exact .inr ⟨stands, by simp, rfl⟩
  | start stands | settleSecond stands =>
    rw [calls_moveTo_self] at h
    cases h
  | raise stands | permit stands | hand stands | returnPermit stands | dropPermit stands
  | dropGuard stands =>
    rw [stands]
    exact .inl rfl
  | @settleFirst report isAdmitted stands =>
    rw [calls_moveTo_self] at h
    rw [stands]
    cases report with
    | finished => exact .inl h
    | cancelled => cases h

theorem slotLive_injOn (sound : Sound requests client) {c d : Fin n}
    (hc : slotLive requests client c = true) (hd : slotLive requests client d = true)
    (same : (requests c).requestId = (requests d).requestId) : c = d := by
  have live : ∀ e, slotLive requests client e = true → ∃ guard expectation,
      guardOf (client.calls e) = some guard ∧
        listening client.registry (requests e).requestId = some (guard, expectation) := by
    intro e he
    unfold slotLive at he
    split at he
    · rename_i guard sender expectation holds listens
      rw [beq_iff_eq] at he
      exact ⟨guard, expectation, holds, he ▸ listens⟩
    · cases he
  obtain ⟨guard, _, holdsC, listensC⟩ := live c hc
  obtain ⟨_, _, holdsD, listensD⟩ := live d hd
  rw [same, listensD] at listensC
  cases listensC
  exact sound.distinct c d _ holdsC holdsD

theorem mem_keys_of_slotLive {c : Fin n} (h : slotLive requests client c = true) :
    (requests c).requestId ∈ client.registry.slots.keys := by
  unfold slotLive at h
  split at h
  · rename_i listens
    obtain ⟨slot, found, _⟩ := Option.map_eq_some_iff.mp listens
    exact AList.mem_keys.mpr (AList.lookup_isSome.mp (by rw [found]; rfl))
  · cases h

/-- The occupied places are those of live slots and those of departed ones. -/
theorem occupied_le (sound : Sound requests client) :
    countOf occupies client.calls ≤
      client.registry.slots.entries.length + departed requests client := by
  have live : countOf (slotLive requests client) id ≤ client.registry.slots.entries.length := by
    have injective := Finset.card_le_card_of_injOn (fun c => (requests c).requestId)
      (s := Finset.univ.filter fun c => slotLive requests client c = true)
      (t := client.registry.slots.keys.toFinset)
      (by
        intro c hc
        simpa using mem_keys_of_slotLive (Finset.mem_filter.mp hc).2)
      (by
        intro c hc d hd same
        exact slotLive_injOn sound (Finset.mem_filter.mp hc).2 (Finset.mem_filter.mp hd).2 same)
    calc countOf (slotLive requests client) id
        ≤ client.registry.slots.keys.toFinset.card := injective
      _ ≤ client.registry.slots.keys.length := List.toFinset_card_le _
      _ = client.registry.slots.entries.length := by rw [AList.keys, List.keys, List.length_map]
  have split : countOf occupies client.calls ≤
      countOf (slotLive requests client) id + departed requests client := by
    unfold countOf departed countOf
    refine le_trans (Finset.card_le_card ?_) (Finset.card_union_le _ _)
    intro c hc
    have place := (Finset.mem_filter.mp hc).2
    cases h : slotLive requests client c with
    | true => simp [h]
    | false => simp [h, place]
  omega

theorem occupied_next (sound : Sound requests client) {event : Event n m}
    (enabled : Enabled client event) (uncrowded : Uncrowded requests client event)
    (within : countOf occupies client.calls ≤ client.registry.maxInFlight) :
    countOf occupies (next codec requests client event).calls ≤
      (next codec requests client event).registry.maxInFlight := by
  have step := step_next codec requests enabled
  have origin := @calls_next n m codec requests client event
  rw [sound.maxInFlight (change_of_step step)]
  generalize next codec requests client event = after at step origin ⊢
  cases step with
  | call c move =>
    have counted := countOf_move move occupies
    cases h : occupies (after.calls c) with
    | false =>
      rw [h] at counted
      simp only [Bool.toNat_false] at counted
      omega
    | true =>
      rcases occupies_move move h with before | ⟨started, left, admitted⟩
      · rw [h, before] at counted
        omega
      · -- only its own advance takes the call from its start
        have advanced : event = .advance c := by
          rcases origin c with same | own | ⟨_, await⟩
          · exact absurd (same.trans started) left
          · exact own
          · simp [atAwait, started] at await
        subst advanced
        have place := uncrowded started admitted
        have occupied := occupied_le sound
        rw [h, Bool.toNat_true] at counted
        omega
  | _ => exact within

end Steps

/-- What a run keeps as long as no place of a departed slot is given away. -/
structure Bounded (requests : Fin n → Request) (maxInFlight : ℕ) (client : Client n m) : Prop where
  sound : Sound requests client
  bound : client.registry.maxInFlight = maxInFlight
  gauge : client.counters.inFlight = UInt64.ofNat (countOf raised client.calls)
  within : countOf occupies client.calls ≤ client.registry.maxInFlight

theorem Bounded.new (requests : Fin n → Request) (maxInFlight : ℕ) (inbox : String) :
    Bounded requests maxInFlight (Client.new n m maxInFlight inbox) where
  sound := .new requests maxInFlight inbox
  bound := rfl
  gauge := by
    have none : countOf raised (Client.new n m maxInFlight inbox).calls = 0 :=
      countOf_const raised .idle rfl
    rw [none]
    rfl
  within := by
    have none : countOf occupies (Client.new n m maxInFlight inbox).calls = 0 :=
      countOf_const occupies .idle rfl
    omega

theorem Bounded.next {codec : ReplyCodec} {requests : Fin n → Request} {maxInFlight : ℕ}
    {client : Client n m} (bounded : Bounded requests maxInFlight client) {event : Event n m}
    (enabled : Enabled client event) (uncrowded : Uncrowded requests client event) :
    Bounded requests maxInFlight (next codec requests client event) := by
  have step := step_next codec requests enabled
  refine ⟨bounded.sound.step step, ?_, inFlight_step step bounded.gauge,
    occupied_next bounded.sound enabled uncrowded bounded.within⟩
  rw [bounded.sound.maxInFlight (change_of_step step), bounded.bound]

/-- In a run whose registrations all find a place with the departed slots counted, the gauge
stays within the bound of the registry. -/
theorem inFlight_within_bound_of_uncrowded (codec : ReplyCodec) (requests : Fin n → Request)
    (maxInFlight : ℕ) (inbox : String) (events : List (Event n m))
    (allowed : ((machine codec requests).under (Uncrowded requests)).Allowed
      (Client.new n m maxInFlight inbox) events) :
    ((machine codec requests).run (Client.new n m maxInFlight inbox) events).counters.inFlight.toNat
      ≤ maxInFlight := by
  have bounded : Bounded requests maxInFlight
      (((machine codec requests).under (Uncrowded requests)).run
        (Client.new n m maxInFlight inbox) events) :=
    invariant_of_steps (Bounded.new requests maxInFlight inbox)
      (fun _ _ bounded enabled => bounded.next enabled.1 enabled.2) allowed
  change Bounded requests maxInFlight
    ((machine codec requests).run (Client.new n m maxInFlight inbox) events) at bounded
  have raisedLe := countOf_le (f := ((machine codec requests).run
    (Client.new n m maxInFlight inbox) events).calls) fun _ => occupies_of_raised
  have occupied := bounded.within
  rw [bounded.bound] at occupied
  rw [bounded.gauge, UInt64.toNat_ofNat']
  exact le_trans (Nat.mod_le _ _) (le_trans raisedLe occupied)

/-- The reply of the first call takes its slot away before the call is polled again. -/
def crowdedEvents : List (Event 2 0) :=
  List.replicate 9 (.advance firstCall) ++ .deliver sampleReply (.ok .notEnforced) ::
    List.replicate 3 (.advance secondCall)

/-- The first call takes its reply and finishes before the second starts. -/
def uncrowdedEvents : List (Event 2 0) :=
  List.replicate 9 (.advance firstCall) ++ .deliver sampleReply (.ok .notEnforced) ::
    (List.replicate 4 (.advance firstCall) ++ List.replicate 3 (.advance secondCall))

theorem inFlight_exceeds_bound :
    (machine sampleCodec sampleRequests).Allowed (Client.new 2 0 1 "inbox") crowdedEvents ∧
      ((machine sampleCodec sampleRequests).run (Client.new 2 0 1 "inbox")
        crowdedEvents).registry.maxInFlight = 1 ∧
      ((machine sampleCodec sampleRequests).run (Client.new 2 0 1 "inbox")
        crowdedEvents).counters.inFlight = 2 := by
  refine ⟨by simp only [machine]; decide +kernel, by decide +kernel, by decide +kernel⟩

theorem inFlight_within_bound_of_uncrowded_sample :
    ((machine sampleCodec sampleRequests).run (Client.new 2 0 1 "inbox")
      uncrowdedEvents).counters.inFlight.toNat ≤ 1 :=
  inFlight_within_bound_of_uncrowded sampleCodec sampleRequests 1 "inbox" uncrowdedEvents
    (by simp only [machine, Machine.under]; decide +kernel)

end BusClientGauge
