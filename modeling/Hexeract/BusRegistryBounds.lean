import Hexeract.BusRetiredWindow

/-! # The memory a registry takes

Deliveries come from anywhere and callers choose their own identities. Whatever they do, the
slots and the memory of retired identities stay within the configured bound, and the queue
that orders evictions never drifts from the table it is kept beside. -/
namespace BusRegistryBounds

open LibraryMachines BusEnvelope BusReplyAcceptance BusRequestRegistry BusRegistryEffects
open BusReplyDelivery BusRetiredWindow

/-! ## The memory of retired identities -/

/-- The queue and the table hold the same identities, no more than there is room for. -/
structure Consistent (retired : RetiredSlots) : Prop where
  listed : ∀ requestId, requestId ∈ retired.order ↔ requestId ∈ retired.entries
  distinct : retired.order.Nodup
  bounded : retired.order.length ≤ retired.capacity

theorem Consistent.new (capacity : ℕ) : Consistent (.new capacity) where
  listed := by simp [RetiredSlots.new]
  distinct := List.nodup_nil
  bounded := Nat.zero_le _

/-- Eviction makes room for one more and leaves queue and table in agreement. -/
theorem evict_spec {capacity : ℕ} (positive : 0 < capacity)
    {entries : AList fun _ : RequestId => SlotRetirement} {order : List RequestId}
    (listed : ∀ requestId, requestId ∈ order ↔ requestId ∈ entries) (distinct : order.Nodup) :
    (evict capacity entries order).2.Sublist order ∧
      (evict capacity entries order).2.length < capacity ∧
      ∀ requestId, requestId ∈ (evict capacity entries order).2 ↔
        requestId ∈ (evict capacity entries order).1 := by
  induction order generalizing entries with
  | nil => exact ⟨List.Sublist.refl _, positive, listed⟩
  | cons oldest rest ih =>
    rw [evict]
    split
    · obtain ⟨absent, distinct⟩ := List.nodup_cons.mp distinct
      have remaining : ∀ requestId, requestId ∈ rest ↔ requestId ∈ entries.erase oldest := by
        intro requestId
        rw [AList.mem_erase, ← listed, List.mem_cons]
        constructor
        · intro member
          refine ⟨?_, Or.inr member⟩
          rintro rfl
          exact absent member
        · rintro ⟨other, same | member⟩
          · exact absurd same other
          · exact member
      obtain ⟨kept, room, agrees⟩ := ih remaining distinct
      exact ⟨kept.cons oldest, room, agrees⟩
    · rename_i room
      exact ⟨List.Sublist.refl _, not_le.mp room, listed⟩

theorem Consistent.record {retired : RetiredSlots} (consistent : Consistent retired)
    (requestId : RequestId) (retirement : SlotRetirement) :
    Consistent (retired.record requestId retirement) := by
  unfold RetiredSlots.record
  split
  · exact consistent
  rename_i positive
  split
  · rename_i known
    refine ⟨fun other => ?_, consistent.distinct, consistent.bounded⟩
    rw [AList.mem_insert, ← consistent.listed]
    constructor
    · exact Or.inr
    · rintro (rfl | member)
      · exact (consistent.listed _).mpr known
      · exact member
  · rename_i unknown
    obtain ⟨kept, room, agrees⟩ :=
      evict_spec (Nat.pos_of_ne_zero positive) consistent.listed consistent.distinct
    have absent : requestId ∉ (evict retired.capacity retired.entries retired.order).2 :=
      fun member => unknown ((consistent.listed _).mp (kept.subset member))
    refine ⟨fun other => ?_, ?_, ?_⟩
    · dsimp only
      rw [AList.mem_insert, ← agrees, List.mem_append, List.mem_singleton, or_comm]
    · refine List.nodup_append.mpr ⟨consistent.distinct.sublist kept, List.nodup_singleton _, ?_⟩
      rintro other member _ last rfl
      rw [List.mem_singleton.mp last] at member
      exact absent member
    · dsimp only
      rw [List.length_append, List.length_singleton]
      exact room

theorem Consistent.recordAll {retired : RetiredSlots} (consistent : Consistent retired)
    (history : List (RequestId × SlotRetirement)) :
    Consistent (history.foldl (fun retired departure =>
      retired.record departure.1 departure.2) retired) := by
  induction history generalizing retired with
  | nil => exact consistent
  | cons departure rest ih => exact ih (consistent.record departure.1 departure.2)

theorem Consistent.length_entries {retired : RetiredSlots} (consistent : Consistent retired) :
    retired.entries.entries.length = retired.order.length := by
  have same : retired.entries.keys.Perm retired.order := by
    apply (List.perm_ext_iff_of_nodup retired.entries.nodupKeys consistent.distinct).mpr
    intro requestId
    exact AList.mem_keys.symm.trans (consistent.listed requestId).symm
  rw [← same.length_eq, AList.keys, List.keys, List.length_map]

/-! ## The slots -/

section Slots

variable {codec : ReplyCodec} {registry : RequestRegistry} {event : Event}

theorem mem_slots_iff {requestId : RequestId} :
    requestId ∈ registry.slots ↔ (listening registry requestId).isSome = true := by
  rw [listening, Option.isSome_map, AList.lookup_isSome]

theorem length_slots_le {other : RequestRegistry}
    (fewer : ∀ requestId, requestId ∈ other.slots → requestId ∈ registry.slots) :
    other.slots.entries.length ≤ registry.slots.entries.length := by
  have keys : other.slots.keys.Subperm registry.slots.keys := by
    apply List.subperm_of_subset other.slots.nodupKeys
    intro requestId member
    exact AList.mem_keys.mp (fewer requestId (AList.mem_keys.mpr member))
  simpa only [AList.keys, List.keys, List.length_map] using keys.length_le

theorem slots_next (enabled : Enabled registry event) :
    (∀ requestId, requestId ∈ (next codec registry event).slots → requestId ∈ registry.slots) ∨
      ∃ requestId expectation, registry.closed = false ∧ requestId ∉ registry.slots ∧
        registry.slots.entries.length < registry.maxInFlight ∧
        next codec registry event = registered registry requestId expectation := by
  have effect := @effect_next codec registry _ enabled
  generalize slots : listening (next codec registry event) = after at effect
  generalize (next codec registry event).pending = pending at effect
  have shrunk : (∀ requestId pair, after requestId = some pair →
      (listening registry requestId).isSome = true) →
      ∀ requestId, requestId ∈ (next codec registry event).slots →
        requestId ∈ registry.slots := by
    intro fewer requestId member
    rw [mem_slots_iff, slots, Option.isSome_iff_exists] at member
    obtain ⟨pair, found⟩ := member
    exact mem_slots_iff.mpr (fewer requestId pair found)
  cases effect with
  | quiet =>
    refine Or.inl (shrunk fun requestId pair found => ?_)
    exact Option.isSome_of_eq_some found
  | registered requestId expectation free =>
    cases admitted : registry.register requestId expectation with
    | error rejection =>
      apply Or.inl
      simp only [next, admitted]
      exact fun _ => id
    | ok result =>
      obtain ⟨opened, vacant, room, same, _⟩ := (register_ok registry).mp admitted
      refine Or.inr ⟨requestId, expectation, opened, vacant, room, ?_⟩
      simp only [next, admitted]
      exact same
  | resolved envelope authentication =>
    refine Or.inl (shrunk fun requestId pair found => ?_)
    exact Option.isSome_of_eq_some (update_none_eq_some.mp found).2
  | dropped found =>
    refine Or.inl (shrunk fun requestId pair found => ?_)
    exact Option.isSome_of_eq_some (update_none_eq_some.mp found).2
  | abandoned =>
    refine Or.inl (shrunk fun requestId pair found => ?_)
    cases found

/-- No more slots than the bound, and none once the registry is closed. -/
structure Within (registry : RequestRegistry) : Prop where
  bounded : registry.slots.entries.length ≤ registry.maxInFlight
  shut : registry.closed = true → registry.slots.entries = []

theorem Within.new (maxInFlight : ℕ) : Within (.new maxInFlight) :=
  ⟨Nat.zero_le _, fun _ => rfl⟩

theorem Within.step (within : Within registry) (enabled : Enabled registry event) :
    Within (next codec registry event) := by
  obtain ⟨bound, closed⟩ := @settings_next codec registry event
  rcases @slots_next codec registry event enabled with fewer | ⟨requestId, expectation, opened,
    vacant, room, admitted⟩
  · have shorter := length_slots_le fewer
    refine ⟨bound ▸ shorter.trans within.bounded, fun after => ?_⟩
    rcases closed.mp after with before | ⟨order, rfl⟩
    · rw [within.shut before] at shorter
      exact List.length_eq_zero_iff.mp (Nat.le_zero.mp shorter)
    · rfl
  · rw [admitted]
    refine ⟨?_, fun after => ?_⟩
    · change (registry.slots.insert requestId _).entries.length ≤ registry.maxInFlight
      rw [AList.entries_insert_of_notMem vacant]
      exact room
    · rw [show (registered registry requestId expectation).closed = registry.closed from rfl,
        opened] at after
      cases after

theorem closed_run (events : List Event) (closed : registry.closed = true) :
    ((machine codec).run registry events).closed = true := by
  induction events generalizing registry with
  | nil => exact closed
  | cons event rest ih => exact ih ((settings_next registry event).2.mpr (Or.inl closed))

theorem maxInFlight_run (events : List Event) :
    ((machine codec).run registry events).maxInFlight = registry.maxInFlight := by
  induction events generalizing registry with
  | nil => rfl
  | cons event rest ih => exact ih.trans (settings_next registry event).1

end Slots

/-- Memory stays bounded under any traffic: as many slots and as many retired identities as
calls may be in flight, with queue and table in agreement. A closed registry is empty and
admits nobody again, and a registration that is refused leaves no trace. -/
theorem registry_bounded {codec : ReplyCodec} {maxInFlight : ℕ} {events : List Event}
    (allowed : (machine codec).Allowed (.new maxInFlight) events) :
    let registry := (machine codec).run (.new maxInFlight) events
    registry.slots.entries.length ≤ maxInFlight ∧
      registry.retired.entries.entries.length ≤ maxInFlight ∧
      registry.retired.order.Nodup ∧
      (∀ requestId, requestId ∈ registry.retired.order ↔ requestId ∈ registry.retired.entries) ∧
      (registry.closed = true → registry.slots.entries = [] ∧
        ∀ later requestId expectation, ((machine codec).run registry later).register requestId
          expectation = .error .closed) ∧
      ∀ requestId expectation rejection,
        registry.register requestId expectation = .error rejection →
          next codec registry (.register requestId expectation) = registry := by
  intro registry
  have within : Within registry := invariant_of_steps (Within.new maxInFlight)
    (fun _ _ held enabled => held.step enabled) allowed
  have consistent : Consistent registry.retired := by
    rw [retired_run]
    exact (Consistent.new maxInFlight).recordAll _
  have bound : registry.maxInFlight = maxInFlight := maxInFlight_run events
  have capacity : registry.retired.capacity = maxInFlight := capacity_run events
  refine ⟨bound ▸ within.bounded, ?_, consistent.distinct, consistent.listed,
    fun closed => ⟨within.shut closed, fun later requestId expectation => ?_⟩,
    fun requestId expectation rejection refused => ?_⟩
  · rw [consistent.length_entries, ← capacity]
    exact consistent.bounded
  · rw [RequestRegistry.register, if_pos (closed_run later closed)]
  · simp only [next, refused]

/-- One call, asked for twice, given up and tried again, then the end. -/
def churn : List Event :=
  [.register sampleId sampleExpectation, .register sampleId sampleExpectation, .dropPending 0,
    .register sampleId sampleExpectation, .close [sampleId]]

theorem registry_bounded_sample :
    let registry := (machine sampleCodec).run (.new 1) churn
    (machine sampleCodec).Allowed (.new 1) churn ∧ registry.closed = true ∧
      registry.retired.order = [sampleId] ∧ registry.retired.order.Nodup ∧
      registry.slots.entries = [] ∧ registry.retired.entries.entries.length ≤ 1 := by
  have allowed : (machine sampleCodec).Allowed (.new 1) churn := by
    simp only [machine]
    decide +kernel
  have closed : ((machine sampleCodec).run (.new 1) churn).closed = true := by decide +kernel
  obtain ⟨_, retired, distinct, _, shut, _⟩ := registry_bounded allowed
  exact ⟨allowed, closed, by decide +kernel, distinct, (shut closed).1, retired⟩

end BusRegistryBounds
