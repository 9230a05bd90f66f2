import Hexeract.BusRegistryEffects

/-! # What a pending reply receives

One pending reply is followed through a whole run of the registry, from its registration
to the first delivery that satisfies its call or to the end of its slot. -/
namespace BusReplyDelivery

open LibraryMachines LibraryFramedBytes BusEnvelope BusReplyAcceptance BusRequestRegistry
open BusRegistryEffects

/-- What holds of the pending reply at one position while its call runs: who waits there,
what its channel shows, and that no other slot sends to it. -/
structure Tracks (registry : RequestRegistry) (k : ℕ) (requestId : RequestId)
    (expectation : ReplyExpectation) (receiver : Receiver) : Prop where
  reply : ∃ dropped, registry.pending[k]? = some ⟨requestId, receiver, dropped⟩ ∧
    (receiver = .empty → dropped = false)
  slot : listening registry requestId = if receiver = .empty then some (k, expectation) else none
  owner : ∀ other expected, listening registry other = some (k, expected) → other = requestId

def settle (codec : ReplyCodec) (k : ℕ) (requestId : RequestId)
    (expectation : ReplyExpectation) (receiver : Receiver) (event : Event) : Receiver :=
  match receiver with
  | .empty =>
    if Ends k event then .closed
    else match event with
      | .resolve envelope (.ok authentication) =>
        if Wins codec requestId expectation envelope then .holds envelope authentication
        else .empty
      | _ => .empty
  | answered => answered

def Once (registry : RequestRegistry) : Prop :=
  (registry.pending.map PendingReply.requestId).Nodup

section Track

variable {codec : ReplyCodec} {registry : RequestRegistry} {k : ℕ} {requestId : RequestId}
  {expectation : ReplyExpectation} {receiver : Receiver}

theorem Tracks.not_sender (tracks : Tracks registry k requestId expectation receiver)
    {other : RequestId} {j : ℕ} {expected : ReplyExpectation}
    (live : listening registry other = some (j, expected)) (ne : other ≠ requestId) : j ≠ k := by
  rintro rfl
  exact ne (tracks.owner other expected live)

theorem settle_answered (answered : receiver ≠ .empty) (event : Event) :
    settle codec k requestId expectation receiver event = receiver := by
  cases receiver with
  | empty => exact absurd rfl answered
  | holds => rfl
  | closed => rfl

theorem Tracks.registered (tracks : Tracks registry k requestId expectation receiver)
    {after : RequestRegistry} {other : RequestId} {expected : ReplyExpectation}
    (free : listening registry other = none) (once : Once after)
    (slots : listening after = Function.update (listening registry) other
      (some (registry.pending.length, expected)))
    (pending : after.pending = registry.pending ++ [⟨other, .empty, false⟩]) :
    Tracks after k requestId expectation receiver := by
  obtain ⟨dropped, found, running⟩ := tracks.reply
  have bound : k < registry.pending.length := (List.getElem?_eq_some_iff.mp found).1
  have ne : other ≠ requestId := by
    rintro rfl
    rw [Once, pending, List.map_append, List.nodup_append] at once
    refine once.2.2 other ?_ other (List.mem_singleton_self other) rfl
    exact List.mem_map.mpr ⟨_, List.mem_of_getElem? found, rfl⟩
  refine ⟨⟨dropped, ?_, running⟩, ?_, ?_⟩
  · rw [pending, List.getElem?_append_left bound]
    exact found
  · rw [slots, Function.update_of_ne (Ne.symm ne)]
    exact tracks.slot
  · intro third expected' live
    rw [slots] at live
    by_cases h : third = other
    · subst h
      rw [Function.update_self] at live
      have := (Prod.mk.inj (Option.some.inj live)).1
      omega
    · rw [Function.update_of_ne h] at live
      exact tracks.owner third expected' live

theorem Tracks.other_left (tracks : Tracks registry k requestId expectation receiver)
    {after : RequestRegistry} {other : RequestId} (ne : other ≠ requestId)
    (slots : listening after = Function.update (listening registry) other none)
    (reply : ∃ dropped, after.pending[k]? = some ⟨requestId, receiver, dropped⟩ ∧
      (receiver = .empty → dropped = false)) :
    Tracks after k requestId expectation receiver := by
  refine ⟨reply, ?_, ?_⟩
  · rw [slots, Function.update_of_ne (Ne.symm ne)]
    exact tracks.slot
  · intro third expected live
    rw [slots] at live
    by_cases h : third = other
    · subst h
      simp at live
    · rw [Function.update_of_ne h] at live
      exact tracks.owner third expected live

theorem Tracks.self_left (tracks : Tracks registry k requestId expectation receiver)
    {after : RequestRegistry} {answer : Receiver} (answered : answer ≠ .empty)
    (slots : listening after = Function.update (listening registry) requestId none)
    (reply : ∃ dropped, after.pending[k]? = some ⟨requestId, answer, dropped⟩) :
    Tracks after k requestId expectation answer := by
  obtain ⟨dropped, found⟩ := reply
  refine ⟨⟨dropped, found, fun h => absurd h answered⟩, ?_, ?_⟩
  · rw [slots, Function.update_self, if_neg answered]
  · intro third expected live
    rw [slots] at live
    by_cases h : third = requestId
    · exact h
    · rw [Function.update_of_ne h] at live
      exact tracks.owner third expected live

theorem Tracks.resolved (tracks : Tracks registry k requestId expectation receiver)
    {after : RequestRegistry} {other : RequestId} {j : ℕ} {expected : ReplyExpectation}
    {envelope : Envelope} {authentication : ReplyAuthentication}
    (live : listening registry other = some (j, expected))
    (wins : Wins codec other expected envelope)
    (slots : listening after = Function.update (listening registry) other none)
    (pending : after.pending = send registry.pending j envelope authentication) :
    Tracks after k requestId expectation
      (settle codec k requestId expectation receiver
        (.resolve envelope (.ok authentication))) := by
  obtain ⟨dropped, found, running⟩ := tracks.reply
  by_cases same : other = requestId
  · subst same
    have slot := tracks.slot
    rw [live] at slot
    by_cases waiting : receiver = .empty
    · subst waiting
      rw [if_pos rfl] at slot
      cases slot
      have settled : settle codec k other expectation .empty
          (.resolve envelope (.ok authentication)) = .holds envelope authentication := by
        simp [settle, Ends, wins]
      rw [settled]
      refine tracks.self_left (by simp) slots ⟨dropped, ?_⟩
      rw [pending, getElem?_send, found]
      simp [running rfl]
    · rw [if_neg waiting] at slot
      cases slot
  · have ne : j ≠ k := tracks.not_sender live same
    have settled : settle codec k requestId expectation receiver
        (.resolve envelope (.ok authentication)) = receiver := by
      have loses : ¬ Wins codec requestId expectation envelope := fun h =>
        same (Option.some.inj (wins.identity.symm.trans h.identity))
      cases receiver <;> simp [settle, Ends, loses]
    rw [settled]
    refine tracks.other_left same slots ⟨dropped, ?_, running⟩
    rw [pending, getElem?_send, found]
    simp [ne]

theorem Once.index_eq {i : ℕ} {r q : PendingReply} (once : Once registry)
    (hi : registry.pending[i]? = some r) (hk : registry.pending[k]? = some q)
    (same : r.requestId = q.requestId) : i = k := by
  have bound : i < (registry.pending.map PendingReply.requestId).length := by
    rw [List.length_map]
    exact (List.getElem?_eq_some_iff.mp hi).1
  refine (List.getElem?_inj bound once).mp ?_
  rw [List.getElem?_map, List.getElem?_map, hi, hk, Option.map_some, Option.map_some, same]

theorem Tracks.dropped (tracks : Tracks registry k requestId expectation receiver)
    (once : Once registry) {after : RequestRegistry} {i : ℕ} {reply : PendingReply}
    (found : registry.pending[i]? = some reply)
    (slots : listening after = Function.update (listening registry) reply.requestId none)
    (pending : after.pending =
      ((dropSenders registry.pending ((listening registry reply.requestId).map Prod.fst).toList)
        |>.modify i fun reply => { reply with dropped := true })) :
    Tracks after k requestId expectation
      (settle codec k requestId expectation receiver (.dropPending i)) := by
  obtain ⟨gone, tracked, running⟩ := tracks.reply
  by_cases same : i = k
  · subst same
    obtain rfl : reply = ⟨requestId, receiver, gone⟩ := Option.some.inj (found.symm.trans tracked)
    have slot := tracks.slot
    by_cases waiting : receiver = .empty
    · subst waiting
      have settled : settle codec i requestId expectation .empty (.dropPending i) = .closed := by
        simp [settle, Ends]
      rw [settled]
      refine tracks.self_left (by simp) slots ⟨true, ?_⟩
      rw [if_pos rfl] at slot
      rw [pending, getElem?_dropGuard, tracked, slot]
      simp
    · rw [settle_answered waiting]
      rw [if_neg waiting] at slot
      refine tracks.self_left waiting slots ⟨true, ?_⟩
      rw [pending, getElem?_dropGuard, tracked, slot]
      simp
  · have ne : reply.requestId ≠ requestId := fun h => same (once.index_eq found tracked h)
    have settled : settle codec k requestId expectation receiver (.dropPending i) = receiver := by
      cases receiver <;> simp [settle, Ends, same]
    rw [settled]
    refine tracks.other_left ne slots ⟨gone, ?_, running⟩
    have notSender : k ∉ ((listening registry reply.requestId).map Prod.fst).toList := by
      cases live : listening registry reply.requestId with
      | none => simp
      | some pair =>
        obtain ⟨j, expected⟩ := pair
        have := tracks.not_sender live ne
        simpa using Ne.symm this
    rw [pending, getElem?_dropGuard, tracked]
    simp [same, notSender]

theorem Tracks.abandoned (tracks : Tracks registry k requestId expectation receiver)
    {after : RequestRegistry} {event : Event} {senders : List ℕ} (ends : Ends k event)
    (owners : ∀ j, j ∈ senders ↔
      ∃ other expected, listening registry other = some (j, expected))
    (slots : listening after = fun _ => none)
    (pending : after.pending = dropSenders registry.pending senders) :
    Tracks after k requestId expectation
      (settle codec k requestId expectation receiver event) := by
  obtain ⟨gone, tracked, running⟩ := tracks.reply
  have slot := tracks.slot
  by_cases waiting : receiver = .empty
  · subst waiting
    have settled : settle codec k requestId expectation .empty event = .closed := by
      simp [settle, ends]
    rw [if_pos rfl] at slot
    rw [settled]
    refine ⟨⟨gone, ?_, by simp⟩, by simp [slots], by simp [slots]⟩
    rw [pending, getElem?_dropSenders, tracked]
    simp [(owners k).mpr ⟨requestId, expectation, slot⟩]
  · have notSender : k ∉ senders := by
      rw [owners]
      rintro ⟨other, expected, live⟩
      have := tracks.owner other expected live
      subst this
      rw [if_neg waiting, live] at slot
      cases slot
    rw [settle_answered waiting]
    refine ⟨⟨gone, ?_, running⟩, by simp [slots, waiting], by simp [slots]⟩
    rw [pending, getElem?_dropSenders, tracked]
    simp [notSender]

/-- One event moves the tracked channel exactly as `settle` says. -/
theorem Tracks.step (tracks : Tracks registry k requestId expectation receiver) {event : Event}
    (enabled : Enabled registry event) (before : Once registry)
    (once : Once (next codec registry event)) :
    Tracks (next codec registry event) k requestId expectation
      (settle codec k requestId expectation receiver event) := by
  have effect := @effect_next codec registry _ enabled
  generalize hslots : listening (next codec registry event) = slots at effect
  generalize hpending : (next codec registry event).pending = pending at effect
  cases effect with
  | quiet running refused =>
    have settled : settle codec k requestId expectation receiver event = receiver := by
      cases receiver with
      | holds => rfl
      | closed => rfl
      | empty =>
        have live := tracks.slot
        rw [if_pos rfl] at live
        unfold settle
        dsimp only
        rw [if_neg (running k)]
        split
        · exact if_neg (refused _ _ rfl requestId k expectation live)
        · rfl
    rw [settled]
    refine ⟨?_, ?_, ?_⟩
    · rw [hpending]
      exact tracks.reply
    · rw [hslots]
      exact tracks.slot
    · rw [hslots]
      exact tracks.owner
  | registered other expected free =>
    have settled : settle codec k requestId expectation receiver (.register other expected) =
        receiver := by
      cases receiver <;> rfl
    rw [settled]
    exact tracks.registered free once hslots hpending
  | resolved envelope authentication live wins => exact tracks.resolved live wins hslots hpending
  | dropped found => exact tracks.dropped before found hslots hpending
  | abandoned ends owners => exact tracks.abandoned (ends k) owners hslots hpending

end Track

/-! ## Whole runs -/

section Runs

variable {codec : ReplyCodec}

theorem pendingIds_next (registry : RequestRegistry) (event : Event)
    (enabled : Enabled registry event) :
    (registry.pending.map PendingReply.requestId).IsPrefix
      ((next codec registry event).pending.map PendingReply.requestId) := by
  have effect := @effect_next codec registry _ enabled
  generalize listening (next codec registry event) = slots at effect
  generalize (next codec registry event).pending = pending at effect
  have sameIds : ∀ after : List PendingReply,
      (∀ k : ℕ, (after[k]?).map PendingReply.requestId =
        (registry.pending[k]?).map PendingReply.requestId) →
      (registry.pending.map PendingReply.requestId).IsPrefix
        (after.map PendingReply.requestId) := by
    intro after same
    have : after.map PendingReply.requestId = registry.pending.map PendingReply.requestId := by
      apply List.ext_getElem?
      intro k
      rw [List.getElem?_map, List.getElem?_map]
      exact same k
    rw [this]
  cases effect with
  | quiet => exact List.prefix_refl _
  | registered => rw [List.map_append]; exact List.prefix_append _ _
  | resolved envelope authentication =>
    apply sameIds
    intro k
    rw [getElem?_send, Option.map_map]
    congr 1
    funext reply
    simp only [Function.comp_apply]
    split <;> rfl
  | dropped found =>
    apply sameIds
    intro k
    rw [getElem?_dropGuard, Option.map_map]
    rfl
  | abandoned =>
    apply sameIds
    intro k
    rw [getElem?_dropSenders, Option.map_map]
    congr 1
    funext reply
    simp only [Function.comp_apply]
    split <;> rfl

theorem Once.of_run {registry : RequestRegistry} {events : List Event}
    (allowed : (machine codec).Allowed registry events)
    (once : Once ((machine codec).run registry events)) : Once registry := by
  have grown := related_of_steps (M := machine codec)
    (R := fun s t => (s.pending.map PendingReply.requestId).IsPrefix
      (t.pending.map PendingReply.requestId))
    (fun _ => List.prefix_refl _) (fun _ _ _ => List.IsPrefix.trans)
    pendingIds_next allowed
  exact once.sublist grown.sublist

theorem Tracks.run {registry : RequestRegistry} {k : ℕ} {requestId : RequestId}
    {expectation : ReplyExpectation} {receiver : Receiver} {events : List Event}
    (tracks : Tracks registry k requestId expectation receiver)
    (allowed : (machine codec).Allowed registry events)
    (once : Once ((machine codec).run registry events)) :
    Tracks ((machine codec).run registry events) k requestId expectation
      (events.foldl (settle codec k requestId expectation) receiver) := by
  induction events generalizing registry receiver with
  | nil => exact tracks
  | cons event rest ih =>
    have start : Once registry := Once.of_run allowed once
    have after : Once (next codec registry event) := Once.of_run allowed.2 once
    exact ih (tracks.step allowed.1 start after) allowed.2 once

def Held (codec : ReplyCodec) (registry : RequestRegistry) : Prop :=
  ∀ (k : ℕ) (reply : PendingReply), registry.pending[k]? = some reply →
    ∀ envelope authentication, reply.receiver = .holds envelope authentication →
      readableRequestId codec envelope = some reply.requestId

theorem Held.step {registry : RequestRegistry} {event : Event} (linked : Linked registry)
    (held : Held codec registry) (enabled : Enabled registry event) :
    Held codec (next codec registry event) := by
  have effect := @effect_next codec registry _ enabled
  generalize listening (next codec registry event) = slots at effect
  intro k reply found envelope authentication holds
  generalize (next codec registry event).pending = pending at effect found
  cases effect with
  | quiet => exact held k reply found envelope authentication holds
  | registered requestId expectation free =>
    rw [List.getElem?_append] at found
    split at found
    · exact held k reply found envelope authentication holds
    · rw [List.getElem?_singleton] at found
      split at found
      · cases found
        cases holds
      · cases found
  | @resolved requestId sender expectation delivered given live wins =>
    rw [getElem?_send] at found
    obtain ⟨old, hold, rfl⟩ := Option.map_eq_some_iff.mp found
    by_cases here : sender = k ∧ old.dropped = false
    · rw [if_pos here] at holds ⊢
      cases holds
      have owner := linked.owner requestId sender expectation live
      rw [here.1, hold] at owner
      cases owner
      exact wins.identity
    · rw [if_neg here] at holds ⊢
      exact held k old hold envelope authentication holds
  | dropped =>
    rw [getElem?_dropGuard] at found
    obtain ⟨old, hold, rfl⟩ := Option.map_eq_some_iff.mp found
    dsimp only at holds
    split at holds
    · cases holds
    · exact held k old hold envelope authentication holds
  | abandoned =>
    rw [getElem?_dropSenders] at found
    obtain ⟨old, hold, rfl⟩ := Option.map_eq_some_iff.mp found
    split at holds
    · cases holds
    · rename_i notSender
      rw [if_neg notSender]
      exact held k old hold envelope authentication holds

theorem linked_held_run {maxInFlight : ℕ} {events : List Event}
    (allowed : (machine codec).Allowed (.new maxInFlight) events) :
    Linked ((machine codec).run (.new maxInFlight) events) ∧
      Held codec ((machine codec).run (.new maxInFlight) events) := by
  refine invariant_of_steps (I := fun registry => Linked registry ∧ Held codec registry)
    ⟨Linked.new maxInFlight, ?_⟩ (fun registry event both enabled =>
      ⟨both.1.step codec enabled, both.2.step both.1 enabled⟩) allowed
  intro k reply found
  simp [RequestRegistry.new] at found

/-- The first delivery after a registration that satisfies it, before its slot ends. -/
def FirstWin (codec : ReplyCodec) (k : ℕ) (requestId : RequestId)
    (expectation : ReplyExpectation) (events : List Event) (envelope : Envelope)
    (authentication : ReplyAuthentication) : Prop :=
  ∃ early late, events = early ++ .resolve envelope (.ok authentication) :: late ∧
    Wins codec requestId expectation envelope ∧
    ∀ event ∈ early, ¬ Ends k event ∧ ∀ other given, event = .resolve other (.ok given) →
      ¬ Wins codec requestId expectation other

section Fold

variable {k : ℕ} {requestId : RequestId} {expectation : ReplyExpectation}

theorem foldl_settle_answered {receiver : Receiver} (answered : receiver ≠ .empty)
    (events : List Event) :
    events.foldl (settle codec k requestId expectation) receiver = receiver := by
  induction events with
  | nil => rfl
  | cons event rest ih => rw [List.foldl_cons, settle_answered answered, ih]

theorem firstWin_skip {event : Event} {rest : List Event} (running : ¬ Ends k event)
    (loses : ∀ other given, event = .resolve other (.ok given) →
      ¬ Wins codec requestId expectation other)
    {envelope : Envelope} {authentication : ReplyAuthentication} :
    FirstWin codec k requestId expectation (event :: rest) envelope authentication ↔
      FirstWin codec k requestId expectation rest envelope authentication := by
  constructor
  · rintro ⟨early, late, split, wins, before⟩
    cases early with
    | nil =>
      obtain ⟨rfl, rfl⟩ := List.cons.inj split
      exact absurd wins (loses envelope authentication rfl)
    | cons first early =>
      obtain ⟨rfl, rfl⟩ := List.cons.inj split
      exact ⟨early, late, rfl, wins, fun e he => before e (List.mem_cons_of_mem _ he)⟩
  · rintro ⟨early, late, rfl, wins, before⟩
    refine ⟨event :: early, late, rfl, wins, ?_⟩
    intro e he
    rcases List.mem_cons.mp he with rfl | he
    · exact ⟨running, loses⟩
    · exact before e he

theorem foldl_settle_holds (events : List Event) {envelope : Envelope}
    {authentication : ReplyAuthentication} :
    events.foldl (settle codec k requestId expectation) .empty = .holds envelope authentication ↔
      FirstWin codec k requestId expectation events envelope authentication := by
  induction events with
  | nil =>
    constructor
    · rintro ⟨⟩
    · rintro ⟨early, late, split, _⟩
      simp at split
  | cons event rest ih =>
    rw [List.foldl_cons]
    by_cases ends : Ends k event
    · have settled : settle codec k requestId expectation .empty event = .closed := by
        simp [settle, ends]
      rw [settled, foldl_settle_answered (by simp)]
      refine ⟨by rintro ⟨⟩, ?_⟩
      rintro ⟨early, late, split, _, before⟩
      cases early with
      | nil =>
        obtain ⟨rfl, rfl⟩ := List.cons.inj split
        exact absurd ends id
      | cons first early =>
        obtain ⟨rfl, rfl⟩ := List.cons.inj split
        exact absurd ends (before event List.mem_cons_self).1
    · by_cases wins : ∃ other given, event = .resolve other (.ok given) ∧
          Wins codec requestId expectation other
      · obtain ⟨other, given, rfl, wins⟩ := wins
        have settled : settle codec k requestId expectation .empty (.resolve other (.ok given)) =
            .holds other given := by
          simp [settle, Ends, wins]
        rw [settled, foldl_settle_answered (by simp)]
        constructor
        · rintro ⟨⟩
          exact ⟨[], rest, rfl, wins, by simp⟩
        · rintro ⟨early, late, split, _, before⟩
          cases early with
          | nil =>
            obtain ⟨same, _⟩ := List.cons.inj split
            cases same
            rfl
          | cons first early =>
            obtain ⟨rfl, rfl⟩ := List.cons.inj split
            exact absurd wins ((before _ List.mem_cons_self).2 other given rfl)
      · have loses : ∀ other given, event = .resolve other (.ok given) →
            ¬ Wins codec requestId expectation other :=
          fun other given h k => wins ⟨other, given, h, k⟩
        have settled : settle codec k requestId expectation .empty event = .empty := by
          unfold settle
          dsimp only
          rw [if_neg ends]
          split
          · exact if_neg (loses _ _ rfl)
          · rfl
        rw [settled, ih, firstWin_skip ends loses]

end Fold

theorem Tracks.of_register {registry admitted : RequestRegistry} {requestId : RequestId}
    {expectation : ReplyExpectation} {k : ℕ} (linked : Linked registry)
    (h : registry.register requestId expectation = .ok (admitted, k)) :
    Tracks admitted k requestId expectation .empty := by
  obtain ⟨_, vacant, _, rfl, rfl⟩ := (register_ok registry).mp h
  have slots : listening (BusRegistryEffects.registered registry requestId expectation) =
      Function.update (listening registry) requestId
        (some (registry.pending.length, expectation)) :=
    listening_insert registry registry.slots requestId _
  refine ⟨⟨false, ?_, fun _ => rfl⟩, ?_, ?_⟩
  · simp [BusRegistryEffects.registered]
  · rw [slots, Function.update_self, if_pos rfl]
  · intro other expected live
    by_contra ne
    rw [slots, Function.update_of_ne ne] at live
    have owner := linked.owner other _ expected live
    rw [List.getElem?_eq_none (Nat.le_refl _)] at owner
    cases owner

theorem Tracks.receiverAt_eq {registry : RequestRegistry} {k : ℕ} {requestId : RequestId}
    {expectation : ReplyExpectation} {receiver : Receiver}
    (tracks : Tracks registry k requestId expectation receiver) :
    receiverAt registry k = some receiver := by
  obtain ⟨dropped, found, _⟩ := tracks.reply
  rw [receiverAt, found]
  rfl

/-- In every run in which no identity is registered twice, a pending reply holds exactly
the first delivery that satisfies its call, keeps it, and shares it with no other call. -/
theorem pending_reply_holds_first_valid (codec : ReplyCodec) (maxInFlight : ℕ)
    (before after : List Event) (requestId : RequestId) (expectation : ReplyExpectation)
    (k : ℕ) (admitted : RequestRegistry)
    (allowed : (machine codec).Allowed (.new maxInFlight)
      (before ++ .register requestId expectation :: after))
    (registered : ((machine codec).run (.new maxInFlight) before).register requestId expectation =
      .ok (admitted, k))
    (once : Once ((machine codec).run (.new maxInFlight)
      (before ++ .register requestId expectation :: after))) :
    (∀ envelope authentication,
      receiverAt ((machine codec).run (.new maxInFlight)
          (before ++ .register requestId expectation :: after)) k =
        some (.holds envelope authentication) ↔
      FirstWin codec k requestId expectation after envelope authentication) ∧
    (∀ early late envelope authentication, after = early ++ late →
      receiverAt ((machine codec).run (.new maxInFlight)
          (before ++ .register requestId expectation :: early)) k =
        some (.holds envelope authentication) →
      receiverAt ((machine codec).run (.new maxInFlight)
          (before ++ .register requestId expectation :: after)) k =
        some (.holds envelope authentication)) ∧
    (∀ j envelope authentication other,
      receiverAt ((machine codec).run (.new maxInFlight)
          (before ++ .register requestId expectation :: after)) k =
        some (.holds envelope authentication) →
      receiverAt ((machine codec).run (.new maxInFlight)
          (before ++ .register requestId expectation :: after)) j =
        some (.holds envelope other) → j = k) := by
  have linked := (linked_held_run (allowed_append.mp allowed).1).1
  have held := (linked_held_run allowed).2
  have start : (machine codec).next ((machine codec).run (.new maxInFlight) before)
      (.register requestId expectation) = admitted := by
    simp only [machine, next] at registered ⊢
    rw [registered]
  have tracks := Tracks.of_register linked registered
  obtain ⟨_, _, allowedAfter⟩ := allowed_append.mp allowed
  rw [start] at allowedAfter
  rw [run_append, run_cons, start] at once held
  -- the same argument serves the whole run and every shorter one
  have prefixes : ∀ early late, after = early ++ late →
      receiverAt ((machine codec).run (.new maxInFlight)
        (before ++ .register requestId expectation :: early)) k =
      some (early.foldl (settle codec k requestId expectation) .empty) := by
    rintro early late rfl
    obtain ⟨allowedEarly, allowedLate⟩ := allowed_append.mp allowedAfter
    rw [run_append] at once
    rw [run_append, run_cons, start]
    exact (tracks.run allowedEarly (Once.of_run allowedLate once)).receiverAt_eq
  have whole := prefixes after [] (List.append_nil after).symm
  refine ⟨?_, ?_, ?_⟩
  · intro envelope authentication
    rw [whole, Option.some.injEq]
    exact foldl_settle_holds after
  · rintro early late envelope authentication rfl holds
    rw [prefixes early late rfl, Option.some.injEq] at holds
    rw [whole, List.foldl_append, holds, foldl_settle_answered (by simp)]
  · intro j envelope authentication other mine theirs
    rw [run_append, run_cons, start] at mine theirs
    obtain ⟨reply, hreply, hmine⟩ := Option.map_eq_some_iff.mp mine
    obtain ⟨second, hsecond, htheirs⟩ := Option.map_eq_some_iff.mp theirs
    refine once.index_eq hsecond hreply (Option.some.inj ?_)
    rw [← held j second hsecond _ _ htheirs, ← held k reply hreply _ _ hmine]

end Runs

def sampleId : RequestId := Uuid.fromU128 5

def sampleExpectation : ReplyExpectation := ⟨"test.pong"⟩

/-- Identifiers as the crates write them; no error payload is decoded below. -/
def sampleCodec : ReplyCodec := ⟨.hyphenated, fun _ => .error ""⟩

def sampleReply : Envelope where
  messageId := Uuid.fromU128 6
  messageType := "test.pong"
  payload := [123, 125]
  correlationId := Uuid.fromU128 2
  replyTo := none
  headers := ∅
  protocolHeaders := (((∅ : HeaderMap).insert requestIdHeader
    "00000000-0000-0000-0000-000000000005").insert protocolVersionHeader "1").insert
    replyStatusHeader "ok"
  publishedAt := StdTime.unixEpoch

/-- A delivery that names the call and answers another kind of request. -/
def forgedReply : Envelope := { sampleReply with messageType := "test.other" }

def sampleEvents : List Event :=
  [.resolve forgedReply (.ok .waivedUnsigned), .resolve sampleReply (.error .unauthenticated),
    .resolve sampleReply (.ok .notEnforced), .drain [], .dropPending 0]

theorem pending_reply_holds_first_valid_sample :
    receiverAt ((machine sampleCodec).run (.new 1)
      ([] ++ .register sampleId sampleExpectation :: sampleEvents)) 0 =
        some (.holds sampleReply .notEnforced) := by
  refine ((pending_reply_holds_first_valid sampleCodec 1 [] sampleEvents sampleId
    sampleExpectation 0 (registered (.new 1) sampleId sampleExpectation) ?_ rfl ?_).1
      sampleReply .notEnforced).mpr ?_
  · simp only [machine]
    decide +kernel
  · unfold Once
    decide +kernel
  · refine ⟨[.resolve forgedReply (.ok .waivedUnsigned),
      .resolve sampleReply (.error .unauthenticated)], [.drain [], .dropPending 0], rfl,
      by decide +kernel, ?_⟩
    intro event hmem
    rcases List.mem_cons.mp hmem with rfl | hmem
    · refine ⟨id, ?_⟩
      rintro other given ⟨⟩
      decide +kernel
    · rw [List.mem_singleton.mp hmem]
      exact ⟨id, by rintro _ _ ⟨⟩⟩

end BusReplyDelivery
