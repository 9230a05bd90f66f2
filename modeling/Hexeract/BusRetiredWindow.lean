import Hexeract.BusRegistryAccounting

/-! # The window of retired slots

The registry remembers the last departures, as many as it has slots, in a table of
identities and a queue that orders them for eviction. Together they are the end of the
history of departures: a delivery that finds no slot is told apart by that window. -/
namespace BusRetiredWindow

open LibraryMachines BusEnvelope BusReplyAcceptance BusRequestRegistry BusRegistryEffects
open BusReplyDelivery BusRegistryAccounting

def recent (capacity : ℕ) (history : List (RequestId × SlotRetirement)) :
    List (RequestId × SlotRetirement) :=
  history.reverse.take capacity

/-- The queue holds the window, oldest first, and the table maps it. -/
structure Remembers (history : List (RequestId × SlotRetirement)) (retired : RetiredSlots) :
    Prop where
  order : retired.order = ((recent retired.capacity history).map Prod.fst).reverse
  entries : ∀ requestId retirement, retired.entries.lookup requestId = some retirement ↔
    (requestId, retirement) ∈ recent retired.capacity history

theorem Remembers.new (capacity : ℕ) : Remembers [] (.new capacity) := by
  constructor
  · simp [recent, RetiredSlots.new]
  · intro requestId retirement
    simp [recent, RetiredSlots.new]

section Eviction

variable {capacity : ℕ} {entries : AList fun _ : RequestId => SlotRetirement}

theorem evict_of_room {order : List RequestId} (room : order.length < capacity) :
    evict capacity entries order = (entries, order) := by
  cases order with
  | nil => rfl
  | cons oldest rest => rw [evict, if_neg (not_le.mpr room)]

theorem evict_of_full {oldest : RequestId} {rest : List RequestId}
    (full : rest.length + 1 = capacity) :
    evict capacity entries (oldest :: rest) = (entries.erase oldest, rest) := by
  rw [evict, if_pos (by rw [List.length_cons, full]), evict_of_room (by omega)]

end Eviction

section Record

variable {history : List (RequestId × SlotRetirement)} {retired : RetiredSlots}
  {requestId : RequestId} {retirement : SlotRetirement}

theorem capacity_record : (retired.record requestId retirement).capacity = retired.capacity := by
  unfold RetiredSlots.record
  split
  · rfl
  · split <;> rfl

theorem recent_append (capacity : ℕ) :
    recent (capacity + 1) (history ++ [(requestId, retirement)]) =
      (requestId, retirement) :: recent capacity history := by
  simp [recent]

theorem recent_succ (capacity : ℕ) :
    recent (capacity + 1) history =
      recent capacity history ++ (history.reverse[capacity]?).toList :=
  List.take_add_one

theorem fst_nodup_recent (once : (history.map Prod.fst).Nodup) (capacity : ℕ) :
    ((recent capacity history).map Prod.fst).Nodup := by
  refine List.Nodup.sublist ((List.take_sublist _ _).map Prod.fst) ?_
  rw [List.map_reverse]
  exact List.nodup_reverse.mpr once

theorem evict_remembered {capacity : ℕ} (remembers : Remembers history retired)
    (size : retired.capacity = capacity + 1) (once : (history.map Prod.fst).Nodup) :
    ∃ entries, evict retired.capacity retired.entries retired.order =
        (entries, ((recent capacity history).map Prod.fst).reverse) ∧
      ∀ requestId retirement, entries.lookup requestId = some retirement ↔
        (requestId, retirement) ∈ recent capacity history := by
  have order := remembers.order
  have table := remembers.entries
  have distinct := fst_nodup_recent once (capacity + 1)
  rw [size, recent_succ] at order table
  rw [recent_succ] at distinct
  rw [size]
  cases oldest : history.reverse[capacity]? with
  | none =>
    rw [oldest, Option.toList_none, List.append_nil] at order table
    refine ⟨retired.entries, ?_, table⟩
    rw [order]
    apply evict_of_room
    rw [List.length_reverse, List.length_map]
    exact Nat.lt_succ_of_le (List.length_take_le _ _)
  | some departure =>
    rw [oldest, Option.toList_some] at order table distinct
    rw [List.map_append, List.reverse_append, List.map_singleton, List.reverse_singleton,
      List.singleton_append] at order
    refine ⟨retired.entries.erase departure.1, ?_, ?_⟩
    · rw [order]
      apply evict_of_full
      have long : capacity < history.reverse.length := (List.getElem?_eq_some_iff.mp oldest).1
      rw [List.length_reverse, List.length_map, recent, List.length_take_of_le (Nat.le_of_lt long)]
    · intro requestId retirement
      -- the departure that is forgotten is the only one with its identity
      have apart : (requestId, retirement) ∈ recent capacity history →
          requestId ≠ departure.1 := by
        rintro member rfl
        rw [List.map_append, List.nodup_append] at distinct
        exact distinct.2.2 _ (List.mem_map_of_mem member) _ List.mem_cons_self rfl
      by_cases same : requestId = departure.1
      · rw [same, AList.lookup_erase]
        refine ⟨by rintro ⟨⟩, ?_⟩
        intro member
        exact absurd rfl (same ▸ apart (same ▸ member))
      · rw [AList.lookup_erase_ne same, table]
        simp only [List.mem_append, List.mem_singleton]
        refine ⟨?_, Or.inl⟩
        rintro (member | rfl)
        · exact member
        · exact absurd rfl same

/-- One more departure, of an identity that never left before, moves the window by one. -/
theorem Remembers.record (remembers : Remembers history retired)
    (once : ((history ++ [(requestId, retirement)]).map Prod.fst).Nodup) :
    Remembers (history ++ [(requestId, retirement)]) (retired.record requestId retirement) := by
  obtain ⟨distinct, _, fresh⟩ := List.nodup_append.mp (List.map_append ▸ once)
  have unseen : ∀ capacity other, (requestId, other) ∉ recent capacity history := by
    intro capacity other member
    have departed : requestId ∈ history.map Prod.fst :=
      List.mem_map_of_mem (List.mem_reverse.mp (List.mem_of_mem_take member))
    exact fresh requestId departed requestId List.mem_cons_self rfl
  cases size : retired.capacity with
  | zero =>
    have unchanged : retired.record requestId retirement = retired := by
      rw [RetiredSlots.record, if_pos size]
    rw [unchanged]
    have order := remembers.order
    have table := remembers.entries
    rw [size] at order table
    constructor
    · rw [size, order]
      rfl
    · rw [size]
      exact table
  | succ capacity =>
    have absent : requestId ∉ retired.entries := by
      rw [← AList.lookup_eq_none]
      cases known : retired.entries.lookup requestId with
      | none => rfl
      | some other => exact absurd ((remembers.entries _ _).mp known) (unseen _ _)
    obtain ⟨entries, evicted, table⟩ := evict_remembered remembers size distinct
    have recorded : retired.record requestId retirement =
        { retired with
          entries := entries.insert requestId retirement
          order := ((recent capacity history).map Prod.fst).reverse ++ [requestId] } := by
      rw [RetiredSlots.record, if_neg (by omega), if_neg absent, evicted]
    rw [recorded]
    constructor
    · dsimp only
      rw [size, recent_append, List.map_cons, List.reverse_cons]
    · intro other how
      dsimp only
      rw [size, recent_append, List.mem_cons, Prod.mk.injEq]
      by_cases same : other = requestId
      · subst same
        rw [AList.lookup_insert, Option.some.injEq]
        simp [unseen, eq_comm]
      · rw [AList.lookup_insert_ne same, table]
        simp [same]

theorem remembers_foldl (remembers : Remembers history retired)
    (more : List (RequestId × SlotRetirement)) (once : ((history ++ more).map Prod.fst).Nodup) :
    Remembers (history ++ more) (more.foldl
      (fun retired departure => retired.record departure.1 departure.2) retired) := by
  induction more generalizing history retired with
  | nil =>
    rw [List.append_nil]
    exact remembers
  | cons departure rest ih =>
    rw [List.append_cons] at once ⊢
    have prefixed : ((history ++ [departure]).map Prod.fst).Nodup :=
      once.sublist ((List.sublist_append_left _ _).map Prod.fst)
    exact ih (remembers.record prefixed) once

end Record

section Runs

variable {codec : ReplyCodec} {registry : RequestRegistry}

theorem retired_run (events : List Event) :
    ((machine codec).run registry events).retired = (departuresOf codec registry events).foldl
      (fun retired departure => retired.record departure.1 departure.2) registry.retired := by
  induction events generalizing registry with
  | nil => rfl
  | cons event rest ih =>
    rw [run_cons, ih, departuresOf, List.foldl_append, ← retired_next]
    rfl

theorem capacity_run (events : List Event) :
    ((machine codec).run registry events).retired.capacity = registry.retired.capacity := by
  rw [retired_run]
  generalize departuresOf codec registry events = history
  generalize registry.retired = retired
  induction history generalizing retired with
  | nil => rfl
  | cons departure rest ih => rw [List.foldl_cons, ih, capacity_record]

theorem departures_live {event : Event} (enabled : Enabled registry event) :
    ((departures codec registry event).map Prod.fst).Nodup ∧
      ∀ requestId ∈ (departures codec registry event).map Prod.fst,
        (listening registry requestId).isSome ∧
        listening (next codec registry event) requestId = none := by
  have everySlot : ∀ order : List RequestId, order.Perm registry.slots.keys →
      ((order.map fun requestId => (requestId, SlotRetirement.abandoned)).map Prod.fst).Nodup ∧
      ∀ requestId ∈ (order.map fun requestId => (requestId, SlotRetirement.abandoned)).map
        Prod.fst, (listening registry requestId).isSome := by
    intro order perm
    have ids : (order.map fun requestId => (requestId, SlotRetirement.abandoned)).map Prod.fst =
        order := by
      rw [List.map_map]
      exact List.map_id order
    rw [ids]
    refine ⟨perm.nodup_iff.mpr registry.slots.nodupKeys, ?_⟩
    intro requestId member
    have key : requestId ∈ registry.slots := AList.mem_keys.mpr (perm.mem_iff.mp member)
    rw [listening, Option.isSome_map]
    exact AList.lookup_isSome.mpr key
  cases event with
  | register requestId expectation => simp [departures, answered]
  | recordUndecodable => simp [departures, answered]
  | resolve envelope authentication =>
    cases authentication with
    | error refusal => simp [departures, answered]
    | ok authentication =>
      cases h : answered codec registry (.resolve envelope (.ok authentication)) with
      | none => simp [departures, h]
      | some requestId =>
        obtain ⟨k, expectation, live, wins⟩ := (answered_eq_some registry).mp h
        obtain ⟨slot, hslot, pair⟩ := Option.map_eq_some_iff.mp live
        obtain ⟨rfl, rfl⟩ := Prod.mk.inj pair
        have accepted := (acceptsReply_ok wins.identity).mpr wins
        have erased : listening (registry.resolve codec envelope (.ok authentication)) =
            Function.update (listening registry) requestId none := by
          simp only [RequestRegistry.resolve, wins.identity, hslot, accepted]
          exact listening_erase registry registry.slots requestId
        simp [departures, h, next, erased, live]
  | dropPending index =>
    obtain ⟨reply, found, _⟩ := (Option.any_eq_true _ _).mp enabled
    have erased : listening (registry.dropPending index) =
        Function.update (listening registry) reply.requestId none := by
      have slots : listening (registry.dropPending index) =
          listening (registry.remove reply.requestId) := by
        apply listening_of_slots
        simp only [RequestRegistry.dropPending, found]
      rw [slots, listening_remove]
    cases live : (listening registry reply.requestId).isSome with
    | false => simp [departures, found, live]
    | true => simp [departures, found, live, next, erased]
  | drain order =>
    obtain ⟨distinct, live⟩ := everySlot order enabled
    exact ⟨distinct, fun requestId member => ⟨live requestId member, rfl⟩⟩
  | close order =>
    obtain ⟨distinct, live⟩ := everySlot order enabled
    exact ⟨distinct, fun requestId member => ⟨live requestId member, rfl⟩⟩

theorem listening_of_next {event : Event} (enabled : Enabled registry event)
    {requestId : RequestId} (live : (listening (next codec registry event) requestId).isSome) :
    (listening registry requestId).isSome ∨
      (next codec registry event).pending =
        registry.pending ++ [⟨requestId, .empty, false⟩] := by
  have effect := @effect_next codec registry _ enabled
  generalize listening (next codec registry event) = slots at effect live
  generalize (next codec registry event).pending = pending at effect
  obtain ⟨pair, hpair⟩ := Option.isSome_iff_exists.mp live
  cases effect with
  | quiet => exact Or.inl live
  | registered other expectation free =>
    by_cases same : requestId = other
    · rw [same]
      exact Or.inr rfl
    · rw [Function.update_of_ne same] at live
      exact Or.inl live
  | resolved envelope authentication =>
    rw [update_none_eq_some] at hpair
    exact Or.inl (Option.isSome_of_eq_some hpair.2)
  | dropped found =>
    rw [update_none_eq_some] at hpair
    exact Or.inl (Option.isSome_of_eq_some hpair.2)
  | abandoned => cases live

/-- Where no identity is registered twice none departs twice: what departs has a slot now
or is registered later. -/
theorem departuresOf_nodup {events : List Event} (linked : Linked registry)
    (allowed : (machine codec).Allowed registry events)
    (once : Once ((machine codec).run registry events)) :
    ((departuresOf codec registry events).map Prod.fst).Nodup ∧
      ∀ requestId ∈ (departuresOf codec registry events).map Prod.fst,
        (listening registry requestId).isSome ∨
          requestId ∉ registry.pending.map PendingReply.requestId := by
  induction events generalizing registry with
  | nil => simp [departuresOf]
  | cons event rest ih =>
    obtain ⟨enabled, allowed⟩ := allowed
    obtain ⟨distinctRest, fromRest⟩ := ih (linked.step codec enabled) allowed once
    obtain ⟨distinct, departing⟩ := @departures_live codec registry event enabled
    have after : Once (next codec registry event) := Once.of_run allowed once
    have grown := @pendingIds_next codec registry event enabled
    rw [departuresOf, List.map_append]
    constructor
    · refine List.nodup_append.mpr ⟨distinct, distinctRest, ?_⟩
      rintro requestId now _ later rfl
      obtain ⟨live, gone⟩ := departing requestId now
      rcases fromRest requestId later with still | absent
      · change (listening (next codec registry event) requestId).isSome = true at still
        rw [gone] at still
        cases still
      · obtain ⟨⟨k, expectation⟩, owner⟩ := Option.isSome_iff_exists.mp live
        have registered := List.mem_of_getElem? (linked.owner requestId k expectation owner)
        exact absent (grown.subset (List.mem_map_of_mem registered))
    · intro requestId member
      rcases List.mem_append.mp member with now | later
      · exact Or.inl (departing requestId now).1
      · rcases fromRest requestId later with live | absent
        · rcases listening_of_next enabled live with before | fresh
          · exact Or.inl before
          · refine Or.inr ?_
            intro known
            rw [Once, fresh, List.map_append, List.nodup_append] at after
            exact after.2.2 _ known _ List.mem_cons_self rfl
        · exact Or.inr fun known => absent (grown.subset known)

theorem remembers_run {maxInFlight : ℕ} {events : List Event}
    (allowed : (machine codec).Allowed (.new maxInFlight) events)
    (once : Once ((machine codec).run (.new maxInFlight) events)) :
    Remembers (departuresOf codec (.new maxInFlight) events)
      ((machine codec).run (.new maxInFlight) events).retired := by
  have distinct := (departuresOf_nodup (Linked.new maxInFlight) allowed once).1
  rw [retired_run]
  exact remembers_foldl (Remembers.new maxInFlight) _ distinct

theorem missKind_window {capacity : ℕ} {history : List (RequestId × SlotRetirement)}
    (remembers : Remembers history registry.retired)
    (size : registry.retired.capacity = capacity) (requestId : RequestId) :
    (registry.missKind requestId = .duplicate ↔
        (requestId, .resolved) ∈ recent capacity history) ∧
      (registry.missKind requestId = .late ↔
        (requestId, .abandoned) ∈ recent capacity history) ∧
      (registry.missKind requestId = .orphaned ↔
        ∀ retirement, (requestId, retirement) ∉ recent capacity history) := by
  subst size
  simp only [← remembers.entries requestId, RequestRegistry.missKind]
  cases registry.retired.entries.lookup requestId with
  | none => simp
  | some retirement => cases retirement <;> simp

theorem record_inj {counters : ReplyCounters} {kind other : ReplyRejectionKind} :
    counters.record kind = counters.record other ↔ kind = other := by
  refine ⟨?_, fun same => same ▸ rfl⟩
  intro same
  cases kind <;> cases other <;> simp [ReplyCounters.record] at same ⊢

/-- In every run in which no identity is registered twice, a delivery with an identity
that has no slot raises the counter of duplicates, and no other, exactly if the identity is
among the most recent departures and a valid reply ended its call, the counter of late
replies exactly if it is among them and the call was abandoned, and the counter of orphans
otherwise. Nothing but the counters changes. -/
theorem missed_delivery_counted (codec : ReplyCodec) (maxInFlight : ℕ) (events : List Event)
    (allowed : (machine codec).Allowed (.new maxInFlight) events)
    {registry : RequestRegistry}
    (reached : (machine codec).run (.new maxInFlight) events = registry) (once : Once registry)
    (envelope : Envelope) (authentication : ReplyAuthentication) (requestId : RequestId)
    (identity : readableRequestId codec envelope = some requestId)
    (vacant : requestId ∉ registry.slots) :
    ∃ counters,
      next codec registry (.resolve envelope (.ok authentication)) =
        { registry with counters := counters } ∧
      (counters = { registry.counters with duplicate := registry.counters.duplicate + 1 } ↔
        (requestId, .resolved) ∈
          recent maxInFlight (departuresOf codec (.new maxInFlight) events)) ∧
      (counters = { registry.counters with late := registry.counters.late + 1 } ↔
        (requestId, .abandoned) ∈
          recent maxInFlight (departuresOf codec (.new maxInFlight) events)) ∧
      (counters = { registry.counters with orphaned := registry.counters.orphaned + 1 } ↔
        ∀ retirement, (requestId, retirement) ∉
          recent maxInFlight (departuresOf codec (.new maxInFlight) events)) := by
  have missed := AList.lookup_eq_none.mpr vacant
  have remembers : Remembers (departuresOf codec (.new maxInFlight) events) registry.retired :=
    reached ▸ remembers_run allowed (reached ▸ once)
  have size : registry.retired.capacity = maxInFlight := reached ▸ capacity_run events
  obtain ⟨duplicate, late, orphaned⟩ := missKind_window remembers size requestId
  refine ⟨registry.counters.record (registry.missKind requestId), ?_, ?_, ?_, ?_⟩
  · simp only [next, RequestRegistry.resolve, identity, missed,
      RequestRegistry.recordRejectionKind]
  · exact record_inj.trans duplicate
  · exact record_inj.trans late
  · exact record_inj.trans orphaned

end Runs

theorem missed_delivery_counted_sample :
    (next sampleCodec ((machine sampleCodec).run (.new 1)
        [.register sampleId sampleExpectation, .resolve sampleReply (.ok .notEnforced)])
        (.resolve sampleReply (.ok .notEnforced))).counters = ⟨0, 0, 0, 0, 1, 0⟩ := by
  obtain ⟨counters, counted, duplicate, _⟩ := missed_delivery_counted sampleCodec 1
    [.register sampleId sampleExpectation, .resolve sampleReply (.ok .notEnforced)]
    (by simp only [machine]; decide +kernel) rfl (by unfold Once; decide +kernel) sampleReply
    .notEnforced sampleId (by decide +kernel) (by decide +kernel)
  rw [counted, duplicate.mpr (by decide +kernel)]
  rfl

end BusRetiredWindow
