import Mathlib.Data.Nat.ModEq
import Hexeract.BusReplyDelivery

/-! # Accounting for deliveries

Every delivery the registry is handed either answers a call or is counted under one of six
kinds. The calls that ended, in the order in which they did, are the departures of a run:
the registry's own memory of them is bounded, the list here is not. -/
namespace BusRegistryAccounting

open LibraryMachines BusEnvelope BusReplyAcceptance BusRequestRegistry BusRegistryEffects
open BusReplyDelivery

def isDelivery : Event → Bool
  | .resolve _ _ => true
  | .recordUndecodable => true
  | _ => false

def named (codec : ReplyCodec) : Event → Option RequestId
  | .resolve envelope _ => readableRequestId codec envelope
  | _ => none

def answered (codec : ReplyCodec) (registry : RequestRegistry) : Event → Option RequestId
  | .resolve envelope (.ok _) =>
    (readableRequestId codec envelope).filter fun requestId =>
      (listening registry requestId).any fun live => decide (Wins codec requestId live.2 envelope)
  | _ => none

/-- The calls whose slots an event takes away, and how they left. -/
def departures (codec : ReplyCodec) (registry : RequestRegistry) (event : Event) :
    List (RequestId × SlotRetirement) :=
  match event with
  | .dropPending index =>
    ((registry.pending[index]?).toList.filter fun reply =>
      (listening registry reply.requestId).isSome).map fun reply => (reply.requestId, .abandoned)
  | .drain order => order.map fun requestId => (requestId, .abandoned)
  | .close order => order.map fun requestId => (requestId, .abandoned)
  | event => (answered codec registry event).toList.map fun requestId => (requestId, .resolved)

def departuresOf (codec : ReplyCodec) :
    RequestRegistry → List Event → List (RequestId × SlotRetirement)
  | _, [] => []
  | registry, event :: rest =>
    departures codec registry event ++ departuresOf codec (next codec registry event) rest

/-- What a refused delivery may do: one count, and a mark on the slot it names. -/
structure Refused (codec : ReplyCodec) (registry : RequestRegistry) (event : Event)
    (after : RequestRegistry) : Prop where
  counted : ∃ kind, after.counters = registry.counters.record kind
  retired : after.retired = registry.retired
  pending : after.pending = registry.pending
  settings : after.closed = registry.closed ∧ after.maxInFlight = registry.maxInFlight
  listening : listening after = listening registry
  others : ∀ requestId, named codec event ≠ some requestId →
    after.slots.lookup requestId = registry.slots.lookup requestId

section Deliveries

variable {codec : ReplyCodec} (registry : RequestRegistry)

theorem answered_eq_some {envelope : Envelope} {authentication : ReplyAuthentication}
    {requestId : RequestId} :
    answered codec registry (.resolve envelope (.ok authentication)) = some requestId ↔
      ∃ k expectation, listening registry requestId = some (k, expectation) ∧
        Wins codec requestId expectation envelope := by
  simp only [answered, Option.filter_eq_some_iff, Option.any_eq_true, decide_eq_true_eq]
  constructor
  · rintro ⟨_, ⟨k, expectation⟩, live, wins⟩
    exact ⟨k, expectation, live, wins⟩
  · rintro ⟨k, expectation, live, wins⟩
    exact ⟨wins.identity, (k, expectation), live, wins⟩

theorem refused_recordKind (event : Event) (kind : ReplyRejectionKind) :
    Refused codec registry event (registry.recordRejectionKind kind) :=
  ⟨⟨kind, rfl⟩, rfl, rfl, ⟨rfl, rfl⟩, rfl, fun _ _ => rfl⟩

theorem refused_rejectSlot {event : Event} {requestId : RequestId} {after : RequestRegistry}
    (hnamed : named codec event = some requestId) (kind : ReplyRejectionKind)
    (rejection : ReplyRejection)
    (hafter : after = (registry.rejectSlot requestId rejection).recordRejectionKind kind) :
    Refused codec registry event after := by
  subst hafter
  have slots : BusRegistryEffects.listening
      ((registry.rejectSlot requestId rejection).recordRejectionKind kind) =
        BusRegistryEffects.listening registry :=
    (listening_of_slots (registry.rejectSlot requestId rejection) rfl).trans
      (listening_rejectSlot registry requestId rejection)
  have settings := settings_rejectSlot registry requestId rejection
  refine ⟨⟨kind, ?_⟩, ?_, pending_rejectSlot registry requestId rejection,
    ⟨settings.2, settings.1⟩, slots, ?_⟩
  · unfold RequestRegistry.rejectSlot
    cases registry.slots.lookup requestId <;> rfl
  · unfold RequestRegistry.rejectSlot
    cases registry.slots.lookup requestId <;> rfl
  · intro other ne
    have apart : other ≠ requestId := fun same => ne (same ▸ hnamed)
    unfold RequestRegistry.rejectSlot
    cases registry.slots.lookup requestId with
    | none => rfl
    | some slot => exact AList.lookup_insert_ne apart

theorem rejectSlot_recordKind (requestId : RequestId) (rejection : ReplyRejection)
    (kind : ReplyRejectionKind) :
    (registry.recordRejectionKind kind).rejectSlot requestId rejection =
      (registry.rejectSlot requestId rejection).recordRejectionKind kind := by
  unfold RequestRegistry.rejectSlot RequestRegistry.recordRejectionKind
  cases registry.slots.lookup requestId <;> rfl

theorem resolve_answered {envelope : Envelope} {authentication : ReplyAuthentication}
    {requestId : RequestId}
    (h : answered codec registry (.resolve envelope (.ok authentication)) = some requestId) :
    (registry.resolve codec envelope (.ok authentication)).retired =
        registry.retired.record requestId .resolved ∧
      (registry.resolve codec envelope (.ok authentication)).counters = registry.counters := by
  obtain ⟨k, expectation, live, wins⟩ := (answered_eq_some registry).mp h
  obtain ⟨slot, hslot, pair⟩ := Option.map_eq_some_iff.mp live
  obtain ⟨_, rfl⟩ := Prod.mk.inj pair
  have accepted := (acceptsReply_ok wins.identity).mpr wins
  simp only [RequestRegistry.resolve, wins.identity, hslot, accepted, and_self]

theorem refused_next {event : Event} (delivery : isDelivery event = true)
    (unanswered : answered codec registry event = none) :
    Refused codec registry event (next codec registry event) := by
  cases event with
  | register | dropPending | drain | close => cases delivery
  | recordUndecodable => exact refused_recordKind registry _ _
  | resolve envelope authentication =>
    simp only [next, RequestRegistry.resolve]
    cases authentication with
    | error refusal =>
      dsimp only
      cases identity : readableRequestId codec envelope with
      | none => exact refused_recordKind registry _ _
      | some requestId =>
        exact refused_rejectSlot registry identity _ _
          (rejectSlot_recordKind registry requestId _ _)
    | ok authentication =>
      dsimp only
      cases identity : readableRequestId codec envelope with
      | none => exact refused_recordKind registry _ _
      | some requestId =>
        dsimp only
        cases found : registry.slots.lookup requestId with
        | none => exact refused_recordKind registry _ _
        | some slot =>
          dsimp only
          cases accepted : acceptsReply codec slot.expectation requestId envelope with
          | error rejection => exact refused_rejectSlot registry identity _ rejection rfl
          | ok _ =>
            have won : answered codec registry (.resolve envelope (.ok authentication)) =
                some requestId := by
              refine (answered_eq_some registry).mpr ⟨slot.sender, slot.expectation, ?_,
                (acceptsReply_ok identity).mp accepted⟩
              rw [BusRegistryEffects.listening, found]
              rfl
            rw [won] at unanswered
            cases unanswered

/-- A delivery is refused, or it answers a call, retires its slot and counts nothing. -/
theorem delivery_next {event : Event} (delivery : isDelivery event = true) :
    departures codec registry event = [] ∧
        Refused codec registry event (next codec registry event) ∨
      ∃ requestId, departures codec registry event = [(requestId, .resolved)] ∧
        (next codec registry event).retired = registry.retired.record requestId .resolved ∧
        (next codec registry event).counters = registry.counters := by
  have departs : departures codec registry event =
      (answered codec registry event).toList.map fun requestId => (requestId, .resolved) := by
    cases event with
    | register | dropPending | drain | close => cases delivery
    | _ => rfl
  rw [departs]
  cases h : answered codec registry event with
  | none => exact Or.inl ⟨rfl, refused_next registry delivery h⟩
  | some requestId =>
    refine Or.inr ⟨requestId, rfl, ?_⟩
    cases event with
    | register | dropPending | drain | close => cases delivery
    | recordUndecodable => cases h
    | resolve envelope authentication =>
      cases authentication with
      | error refusal => cases h
      | ok authentication => exact resolve_answered registry h

theorem retired_next (event : Event) :
    (next codec registry event).retired = (departures codec registry event).foldl
      (fun retired departure => retired.record departure.1 departure.2) registry.retired := by
  have ofDelivery : isDelivery event = true →
      (next codec registry event).retired = (departures codec registry event).foldl
        (fun retired departure => retired.record departure.1 departure.2) registry.retired := by
    intro delivery
    rcases @delivery_next codec registry event delivery with
      ⟨departs, refused⟩ | ⟨requestId, departs, retired, _⟩
    · rw [departs, refused.retired]
      rfl
    · rw [departs, retired]
      rfl
  cases event with
  | resolve => exact ofDelivery rfl
  | recordUndecodable => exact ofDelivery rfl
  | register requestId expectation =>
    cases h : registry.register requestId expectation with
    | error rejection =>
      simp only [next, h]
      rfl
    | ok result =>
      obtain ⟨admitted, k⟩ := result
      obtain ⟨_, _, _, rfl, _⟩ := (register_ok registry).mp h
      simp only [next, h]
      rfl
  | dropPending index =>
    simp only [next, RequestRegistry.dropPending, departures]
    cases found : registry.pending[index]? with
    | none => rfl
    | some reply =>
      simp only [RequestRegistry.remove, BusRegistryEffects.listening, Option.toList_some,
        Option.isSome_map]
      cases live : registry.slots.lookup reply.requestId with
      | none => simp [live]
      | some slot => simp [live]
  | drain order =>
    simp only [next, RequestRegistry.drain, RequestRegistry.abandonEverySlot, departures,
      List.foldl_map]
  | close order =>
    simp only [next, RequestRegistry.close, RequestRegistry.abandonEverySlot, departures,
      List.foldl_map]

end Deliveries

/-! ## The conservation of deliveries -/

/-- The counters after the given refusals, each of them modulo the width of its counter. -/
def tally (kinds : List ReplyRejectionKind) : ReplyCounters where
  undecodable := .ofNat (kinds.count .undecodable)
  orphaned := .ofNat (kinds.count .orphaned)
  unauthenticated := .ofNat (kinds.count .unauthenticated)
  invalid := .ofNat (kinds.count .invalid)
  duplicate := .ofNat (kinds.count .duplicate)
  late := .ofNat (kinds.count .late)

def refusals (counters : ReplyCounters) : ℕ :=
  counters.undecodable.toNat + counters.orphaned.toNat + counters.unauthenticated.toNat +
    counters.invalid.toNat + counters.duplicate.toNat + counters.late.toNat

theorem record_tally (kinds : List ReplyRejectionKind) (kind : ReplyRejectionKind) :
    (tally kinds).record kind = tally (kind :: kinds) := by
  cases kind <;> simp [tally, ReplyCounters.record, UInt64.ofNat_add]

theorem sum_count_kinds (kinds : List ReplyRejectionKind) :
    kinds.count .undecodable + kinds.count .orphaned + kinds.count .unauthenticated +
      kinds.count .invalid + kinds.count .duplicate + kinds.count .late = kinds.length := by
  induction kinds with
  | nil => rfl
  | cons kind rest ih =>
    rw [List.length_cons, ← ih]
    cases kind <;> simp <;> omega

theorem refusals_tally_modEq (kinds : List ReplyRejectionKind) :
    refusals (tally kinds) ≡ kinds.length [MOD 2 ^ 64] := by
  rw [← sum_count_kinds kinds]
  simp only [tally, refusals, UInt64.toNat_ofNat']
  have wraps : ∀ n : ℕ, n % 2 ^ 64 ≡ n [MOD 2 ^ 64] := fun n => Nat.mod_modEq n (2 ^ 64)
  exact (((((wraps _).add (wraps _)).add (wraps _)).add (wraps _)).add (wraps _)).add (wraps _)

/-- As long as no counter can have wrapped, the counters add up exactly. -/
theorem refusals_tally_of_lt {kinds : List ReplyRejectionKind} (h : kinds.length < 2 ^ 64) :
    refusals (tally kinds) = kinds.length := by
  have exact : ∀ kind, (UInt64.ofNat (kinds.count kind)).toNat = kinds.count kind := by
    intro kind
    rw [UInt64.toNat_ofNat', Nat.mod_eq_of_lt]
    exact lt_of_le_of_lt List.count_le_length h
  rw [← sum_count_kinds kinds]
  simp only [tally, refusals, exact]

def resolvedSlots (history : List (RequestId × SlotRetirement)) : ℕ :=
  history.countP fun departure => departure.2 = .resolved

section Runs

variable {codec : ReplyCodec}

theorem tally_next {registry : RequestRegistry} {kinds : List ReplyRejectionKind}
    (event : Event) (held : registry.counters = tally kinds) :
    ∃ more, (next codec registry event).counters = tally more ∧
      more.length + resolvedSlots (departures codec registry event) =
        kinds.length + [event].countP isDelivery := by
  have ofDelivery : isDelivery event = true →
      ∃ more, (next codec registry event).counters = tally more ∧
        more.length + resolvedSlots (departures codec registry event) =
          kinds.length + [event].countP isDelivery := by
    intro delivery
    rcases @delivery_next codec registry event delivery with
      ⟨departs, refused⟩ | ⟨requestId, departs, _, uncounted⟩
    · obtain ⟨kind, counted⟩ := refused.counted
      refine ⟨kind :: kinds, ?_, ?_⟩
      · rw [counted, held, record_tally]
      · simp [departs, delivery, resolvedSlots]
    · refine ⟨kinds, uncounted.trans held, ?_⟩
      simp [departs, delivery, resolvedSlots]
  have abandoned : ∀ ids : List RequestId,
      resolvedSlots (ids.map fun requestId => (requestId, SlotRetirement.abandoned)) = 0 := by
    intro ids
    simp [resolvedSlots]
  cases event with
  | resolve => exact ofDelivery rfl
  | recordUndecodable => exact ofDelivery rfl
  | register requestId expectation =>
    refine ⟨kinds, ?_, by simp [departures, answered, resolvedSlots, isDelivery]⟩
    cases h : registry.register requestId expectation with
    | error rejection =>
      simp only [next, h]
      exact held
    | ok result =>
      obtain ⟨admitted, k⟩ := result
      obtain ⟨_, _, _, rfl, _⟩ := (register_ok registry).mp h
      simp only [next, h]
      exact held
  | dropPending index =>
    refine ⟨kinds, ?_, by simp [departures, resolvedSlots, isDelivery]⟩
    rw [← held]
    simp only [next, RequestRegistry.dropPending, RequestRegistry.remove]
    cases registry.pending[index]? with
    | none => rfl
    | some reply =>
      dsimp only
      cases registry.slots.lookup reply.requestId <;> rfl
  | drain order => exact ⟨kinds, held, by simp [departures, abandoned, isDelivery]⟩
  | close order => exact ⟨kinds, held, by simp [departures, abandoned, isDelivery]⟩

theorem tally_run {registry : RequestRegistry} {kinds : List ReplyRejectionKind}
    (events : List Event) (held : registry.counters = tally kinds) :
    ∃ more, ((machine codec).run registry events).counters = tally more ∧
      more.length + resolvedSlots (departuresOf codec registry events) =
        kinds.length + events.countP isDelivery := by
  induction events generalizing registry kinds with
  | nil => exact ⟨kinds, held, by simp [departuresOf, resolvedSlots]⟩
  | cons event rest ih =>
    obtain ⟨first, hfirst, sumFirst⟩ := @tally_next codec registry kinds event held
    obtain ⟨more, hmore, sumRest⟩ := ih hfirst
    refine ⟨more, hmore, ?_⟩
    rw [departuresOf, resolvedSlots, List.countP_append, ← List.singleton_append,
      List.countP_append]
    unfold resolvedSlots at sumFirst sumRest
    omega

/-- In every run the deliveries are those that answered a call and those counted as
refused: modulo the width of the counters, and exactly for fewer deliveries than that. A
refused delivery changes nothing but a count and the marks on the slot it names. -/
theorem deliveries_accounted (codec : ReplyCodec) (maxInFlight : ℕ) (events : List Event) :
    events.countP isDelivery ≡
        resolvedSlots (departuresOf codec (.new maxInFlight) events) +
          refusals ((machine codec).run (.new maxInFlight) events).counters [MOD 2 ^ 64] ∧
    (events.countP isDelivery < 2 ^ 64 →
      events.countP isDelivery =
        resolvedSlots (departuresOf codec (.new maxInFlight) events) +
          refusals ((machine codec).run (.new maxInFlight) events).counters) ∧
    ∀ event, isDelivery event = true →
      answered codec ((machine codec).run (.new maxInFlight) events) event = none →
      Refused codec ((machine codec).run (.new maxInFlight) events) event
        (next codec ((machine codec).run (.new maxInFlight) events) event) := by
  obtain ⟨kinds, counted, sum⟩ := @tally_run codec (.new maxInFlight) [] events rfl
  rw [List.length_nil, Nat.zero_add] at sum
  rw [← sum, counted]
  refine ⟨?_, ?_, ?_⟩
  · rw [Nat.add_comm]
    exact (refusals_tally_modEq kinds).symm.add_left _
  · intro few
    rw [refusals_tally_of_lt (by omega)]
    omega
  · intro event delivery unanswered
    exact refused_next _ delivery unanswered

end Runs

theorem deliveries_accounted_sample :
    resolvedSlots (departuresOf sampleCodec (.new 1)
      (.register sampleId sampleExpectation :: sampleEvents)) +
      refusals ((machine sampleCodec).run (.new 1)
        (.register sampleId sampleExpectation :: sampleEvents)).counters = 3 :=
  ((deliveries_accounted sampleCodec 1 _).2.1 (by decide)).symm

theorem run_undecodable (codec : ReplyCodec) (registry : RequestRegistry)
    {kinds : List ReplyRejectionKind} (n : ℕ) (held : registry.counters = tally kinds) :
    (machine codec).Allowed registry (List.replicate n .recordUndecodable) ∧
    departuresOf codec registry (List.replicate n .recordUndecodable) = [] ∧
    ((machine codec).run registry (List.replicate n .recordUndecodable)).counters =
      tally (List.replicate n .undecodable ++ kinds) := by
  induction n generalizing registry kinds with
  | zero => exact ⟨trivial, rfl, held⟩
  | succ n ih =>
    have counted : (next codec registry .recordUndecodable).counters =
        tally (.undecodable :: kinds) := by
      rw [← record_tally, ← held]
      rfl
    obtain ⟨allowed, departed, final⟩ := ih _ counted
    refine ⟨⟨trivial, allowed⟩, departed, ?_⟩
    rw [List.replicate_succ, List.replicate_succ', List.append_assoc]
    exact final

theorem refusals_undecodable (n : ℕ) :
    refusals (tally (List.replicate n .undecodable ++ [])) = n % 2 ^ 64 := by
  simp [tally, refusals, List.count_replicate]

/-- After as many undecodable deliveries as a counter has values, all six counters show
zero and no call was answered. -/
theorem counters_wrap :
    ∃ events : List Event, (machine sampleCodec).Allowed (.new 1) events ∧
      events.countP isDelivery = 2 ^ 64 ∧
      resolvedSlots (departuresOf sampleCodec (.new 1) events) = 0 ∧
      refusals ((machine sampleCodec).run (.new 1) events).counters = 0 := by
  -- the number is a variable until the end, so that nothing unrolls the run
  have runs : ∀ n : ℕ, n % 2 ^ 64 = 0 → ∃ events : List Event,
      (machine sampleCodec).Allowed (.new 1) events ∧ events.countP isDelivery = n ∧
      resolvedSlots (departuresOf sampleCodec (.new 1) events) = 0 ∧
      refusals ((machine sampleCodec).run (.new 1) events).counters = 0 := by
    intro n wraps
    obtain ⟨allowed, departed, counted⟩ := @run_undecodable sampleCodec (.new 1) [] n rfl
    refine ⟨List.replicate n .recordUndecodable, allowed, ?_, ?_, ?_⟩
    · rw [List.countP_replicate]
      exact if_pos rfl
    · rw [departed]
      rfl
    · rw [counted, refusals_undecodable, wraps]
  exact runs (2 ^ 64) (Nat.mod_self _)

end BusRegistryAccounting
