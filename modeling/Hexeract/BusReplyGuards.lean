import Hexeract.BusReplyDelivery

/-! # Guards of pending replies

A pending reply is also a guard: dropping it removes the slot its identity names. The slot
carries no mark of the registration that made it, so the guard of an answered call removes
the slot of whoever registered the same identity after it. -/
namespace BusReplyGuards

open LibraryMachines LibraryFramedBytes BusEnvelope BusReplyAcceptance BusRequestRegistry
open BusRegistryEffects BusReplyDelivery

/-- A registration that the registry accepts finds no guard of its identity alive. -/
def Released (registry : RequestRegistry) : Event → Prop
  | .register requestId expectation => (registry.register requestId expectation).isOk = true →
      ∀ reply ∈ registry.pending, reply.requestId = requestId → reply.dropped = true
  | _ => True

instance (registry : RequestRegistry) : (event : Event) → Decidable (Released registry event)
  | .register requestId expectation => inferInstanceAs (Decidable
      ((registry.register requestId expectation).isOk = true → ∀ reply ∈ registry.pending,
        reply.requestId = requestId → reply.dropped = true))
  | .resolve _ _ => isTrue trivial
  | .recordUndecodable => isTrue trivial
  | .dropPending _ => isTrue trivial
  | .drain _ => isTrue trivial
  | .close _ => isTrue trivial

def OneGuard (pending : List PendingReply) : Prop :=
  ∀ (j k : ℕ) (first second : PendingReply), pending[j]? = some first →
    pending[k]? = some second → first.requestId = second.requestId →
    first.dropped = false → second.dropped = false → j = k

section Steps

variable {codec : ReplyCodec} {registry : RequestRegistry} {event : Event}

/-- Guards that keep their identities and are only ever dropped stay apart. -/
theorem OneGuard.of_pointwise {before after : List PendingReply} (guards : OneGuard before)
    (same : ∀ (k : ℕ) (reply : PendingReply), after[k]? = some reply →
      ∃ old, before[k]? = some old ∧ old.requestId = reply.requestId ∧
        (reply.dropped = false → old.dropped = false)) : OneGuard after := by
  intro j k first second hfirst hsecond ids alive alive'
  obtain ⟨old, hold, id, kept⟩ := same j first hfirst
  obtain ⟨old', hold', id', kept'⟩ := same k second hsecond
  have sameIds : old.requestId = old'.requestId := by rw [id, id', ids]
  exact guards j k old old' hold hold' sameIds (kept alive) (kept' alive')

theorem OneGuard.append {before : List PendingReply} (guards : OneGuard before)
    {requestId : RequestId}
    (released : ∀ reply ∈ before, reply.requestId = requestId → reply.dropped = true) :
    OneGuard (before ++ [⟨requestId, .empty, false⟩]) := by
  -- a guard of the appended list is an old one or the new one, at the end
  have position : ∀ (k : ℕ) (reply : PendingReply),
      (before ++ [⟨requestId, .empty, false⟩])[k]? = some reply →
      before[k]? = some reply ∨ k = before.length ∧ reply = ⟨requestId, .empty, false⟩ := by
    intro k reply found
    rw [List.getElem?_append] at found
    by_cases old : k < before.length
    · rw [if_pos old] at found
      exact Or.inl found
    · rw [if_neg old, List.getElem?_singleton] at found
      by_cases last : k - before.length = 0
      · rw [if_pos last] at found
        exact Or.inr ⟨by omega, (Option.some.inj found).symm⟩
      · rw [if_neg last] at found
        cases found
  have fresh : ∀ (k : ℕ) (reply : PendingReply), before[k]? = some reply →
      reply.requestId = requestId → reply.dropped = false → False := by
    intro k reply found same alive
    rw [released reply (List.mem_of_getElem? found) same] at alive
    cases alive
  intro j k first second hfirst hsecond ids alive alive'
  rcases position j first hfirst with hold | ⟨rfl, rfl⟩
  · rcases position k second hsecond with hold' | ⟨rfl, rfl⟩
    · exact guards j k first second hold hold' ids alive alive'
    · exact (fresh j first hold ids alive).elim
  · rcases position k second hsecond with hold' | ⟨rfl, rfl⟩
    · exact (fresh k second hold' ids.symm alive').elim
    · rfl

theorem OneGuard.step (guards : OneGuard registry.pending) (enabled : Enabled registry event)
    (released : Released registry event) : OneGuard (next codec registry event).pending := by
  have effect := @effect_next codec registry _ enabled
  generalize listening (next codec registry event) = slots at effect
  generalize after : (next codec registry event).pending = pending at effect
  cases effect with
  | quiet => exact guards
  | registered requestId expectation free =>
    refine guards.append (released ?_)
    cases accepted : registry.register requestId expectation with
    | ok => rfl
    | error rejection =>
      -- a refused registration adds no guard
      simp only [next, accepted] at after
      exact absurd (congrArg List.length after) (by simp)
  | resolved envelope authentication live wins =>
    apply guards.of_pointwise
    intro k reply found
    rw [getElem?_send] at found
    obtain ⟨old, hold, rfl⟩ := Option.map_eq_some_iff.mp found
    refine ⟨old, hold, ?_⟩
    split <;> exact ⟨rfl, id⟩
  | dropped found =>
    apply guards.of_pointwise
    intro k reply hreply
    rw [getElem?_dropGuard] at hreply
    obtain ⟨old, hold, rfl⟩ := Option.map_eq_some_iff.mp hreply
    refine ⟨old, hold, rfl, ?_⟩
    intro alive
    dsimp only at alive
    split at alive
    · cases alive
    · exact alive
  | abandoned ends owners =>
    apply guards.of_pointwise
    intro k reply found
    rw [getElem?_dropSenders] at found
    obtain ⟨old, hold, rfl⟩ := Option.map_eq_some_iff.mp found
    refine ⟨old, hold, ?_⟩
    split <;> exact ⟨rfl, id⟩

theorem OneGuard.own_slot (guards : OneGuard registry.pending) (linked : Linked registry)
    {index : ℕ} {reply : PendingReply} (found : registry.pending[index]? = some reply)
    (alive : reply.dropped = false) {slot : Slot}
    (live : registry.slots.lookup reply.requestId = some slot) : slot.sender = index := by
  have owner := linked.owner reply.requestId slot.sender slot.expectation (by
    rw [listening, live]
    rfl)
  exact guards slot.sender index _ reply owner found rfl rfl alive

theorem lookup_slots_dropPending {index : ℕ} {reply : PendingReply}
    (found : registry.pending[index]? = some reply) {requestId : RequestId}
    (ne : requestId ≠ reply.requestId) :
    (registry.dropPending index).slots.lookup requestId = registry.slots.lookup requestId := by
  simp only [RequestRegistry.dropPending, found, RequestRegistry.remove]
  cases registry.slots.lookup reply.requestId with
  | none => rfl
  | some slot => exact AList.lookup_erase_ne ne

theorem receiverAt_dropPending {index : ℕ} {reply : PendingReply}
    (found : registry.pending[index]? = some reply) {k : ℕ}
    (others : ∀ slot, registry.slots.lookup reply.requestId = some slot → slot.sender ≠ k) :
    receiverAt (registry.dropPending index) k = receiverAt registry k := by
  have outside : k ∉ ((listening registry reply.requestId).map Prod.fst).toList := by
    intro sender
    rw [Option.mem_toList, listening, Option.map_map, Option.map_eq_some_iff] at sender
    obtain ⟨slot, live, rfl⟩ := sender
    exact others slot live rfl
  simp only [receiverAt, RequestRegistry.dropPending, found, pending_remove,
    getElem?_dropGuard, Option.map_map]
  congr 1
  funext old
  simp [outside]

end Steps

/-- In every run in which an identity is admitted again only after its guards were
dropped, dropping a pending reply removes no slot but its own and closes no other channel. -/
theorem drop_spares_other_registrations (codec : ReplyCodec) (maxInFlight : ℕ)
    (events : List Event)
    (allowed : ((machine codec).under Released).Allowed (.new maxInFlight) events) (index : ℕ)
    (enabled : Enabled ((machine codec).run (.new maxInFlight) events) (.dropPending index)) :
    (∀ requestId slot,
      ((machine codec).run (.new maxInFlight) events).slots.lookup requestId = some slot →
      slot.sender ≠ index →
      (((machine codec).run (.new maxInFlight) events).dropPending index).slots.lookup requestId =
        some slot) ∧
    ∀ k, k ≠ index →
      receiverAt (((machine codec).run (.new maxInFlight) events).dropPending index) k =
        receiverAt ((machine codec).run (.new maxInFlight) events) k := by
  obtain ⟨linked, guards⟩ := invariant_under_condition (M := machine codec)
    (I := fun registry => Linked registry ∧ OneGuard registry.pending)
    ⟨Linked.new maxInFlight, by intro j k first second found; cases found⟩
    (fun registry event both enabled released =>
      ⟨both.1.step codec enabled, both.2.step enabled released⟩) allowed
  generalize (machine codec).run (.new maxInFlight) events = registry at linked guards enabled
  obtain ⟨reply, found, alive⟩ := (Option.any_eq_true _ _).mp enabled
  rw [Bool.not_eq_true'] at alive
  constructor
  · intro requestId slot live other
    have ne : requestId ≠ reply.requestId := by
      rintro rfl
      exact other (guards.own_slot linked found alive live)
    rw [lookup_slots_dropPending found ne]
    exact live
  · intro k other
    apply receiverAt_dropPending found
    intro slot live
    rw [guards.own_slot linked found alive live]
    exact other.symm

theorem drop_spares_other_registrations_sample :
    receiverAt (((machine sampleCodec).run (.new 2)
      [.register sampleId sampleExpectation, .register sampleId sampleExpectation,
        .resolve sampleReply (.ok .notEnforced), .dropPending 0,
        .register sampleId sampleExpectation,
        .register (Uuid.fromU128 9) sampleExpectation]).dropPending 2) 1 = some .empty := by
  refine ((drop_spares_other_registrations sampleCodec 2 _ ?_ 2 ?_).2 1 (by decide)).trans ?_
  · simp only [machine]
    decide +kernel
  · decide +kernel
  · decide +kernel

/-- The guard of an answered call takes away the slot of the next call that has its
identity, and closes that call's channel. -/
theorem drop_removes_later_registration :
    let events : List Event := [.register sampleId sampleExpectation,
      .resolve sampleReply (.ok .notEnforced), .register sampleId sampleExpectation]
    let registry := (machine sampleCodec).run (.new 1) events
    (machine sampleCodec).Allowed (.new 1) (events ++ [.dropPending 0]) ∧
      (registry.slots.lookup sampleId).map Slot.sender = some 1 ∧
      receiverAt registry 1 = some .empty ∧
      (registry.dropPending 0).slots.lookup sampleId = none ∧
      receiverAt (registry.dropPending 0) 1 = some .closed := by
  refine ⟨?_, ?_⟩
  · simp only [machine]
    decide +kernel
  · decide +kernel

end BusReplyGuards
