import Hexeract.LibraryCollections
import Hexeract.BusRequestRegistry

/-! # What the registry's operations do

Every operation is summed up once by `Effect`: what becomes of the listening slots and of
the pending replies. Facts about runs are derived from it. -/
namespace BusRegistryEffects

open LibraryMachines LibraryCollections LibraryFramedBytes BusEnvelope BusReplyAcceptance
open BusRequestRegistry

/-- The channel and the expectation of the slot under an identity. -/
def listening (registry : RequestRegistry) (requestId : RequestId) :
    Option (ℕ × ReplyExpectation) :=
  (registry.slots.lookup requestId).map fun slot => (slot.sender, slot.expectation)

/-- A delivery that satisfies a call: its identity, its expectation and the error identity. -/
structure Wins (codec : ReplyCodec) (requestId : RequestId) (expectation : ReplyExpectation)
    (envelope : Envelope) : Prop where
  identity : readableRequestId codec envelope = some requestId
  expected : accepts expectation envelope = .ok ()
  consistent : acceptsErrorIdentity codec envelope requestId = .ok ()

def Ends (index : ℕ) : Event → Prop
  | .dropPending i => i = index
  | .drain _ => True
  | .close _ => True
  | _ => False

instance (index : ℕ) : (event : Event) → Decidable (Ends index event)
  | .dropPending i => inferInstanceAs (Decidable (i = index))
  | .drain _ => isTrue trivial
  | .close _ => isTrue trivial
  | .register _ _ => isFalse id
  | .resolve _ _ => isFalse id
  | .recordUndecodable => isFalse id

instance (codec : ReplyCodec) (requestId : RequestId) (expectation : ReplyExpectation)
    (envelope : Envelope) : Decidable (Wins codec requestId expectation envelope) :=
  decidable_of_iff (readableRequestId codec envelope = some requestId ∧
    accepts expectation envelope = .ok () ∧ acceptsErrorIdentity codec envelope requestId = .ok ())
    ⟨fun h => ⟨h.1, h.2.1, h.2.2⟩, fun h => ⟨h.identity, h.expected, h.consistent⟩⟩

theorem acceptsReply_ok {codec : ReplyCodec} {requestId : RequestId}
    {expectation : ReplyExpectation} {envelope : Envelope}
    (identity : readableRequestId codec envelope = some requestId) :
    acceptsReply codec expectation requestId envelope = .ok () ↔
      Wins codec requestId expectation envelope := by
  simp only [acceptsReply, check_bind_ok]
  constructor
  · rintro ⟨expected, consistent⟩
    exact ⟨identity, expected, consistent⟩
  · intro wins
    exact ⟨wins.expected, wins.consistent⟩

section Listening

variable (registry : RequestRegistry)

theorem listening_insert (slots : Slots) (requestId : RequestId) (slot : Slot) :
    listening { registry with slots := slots.insert requestId slot } =
      Function.update (listening { registry with slots := slots }) requestId
        (some (slot.sender, slot.expectation)) := by
  funext id
  by_cases h : id = requestId
  · subst h
    simp [listening]
  · simp [listening, AList.lookup_insert_ne h, Function.update_of_ne h]

theorem listening_erase (slots : Slots) (requestId : RequestId) :
    listening { registry with slots := slots.erase requestId } =
      Function.update (listening { registry with slots := slots }) requestId none := by
  funext id
  by_cases h : id = requestId
  · subst h
    simp [listening]
  · simp [listening, AList.lookup_erase_ne h, Function.update_of_ne h]

theorem listening_of_slots {other : RequestRegistry} (h : other.slots = registry.slots) :
    listening other = listening registry := by
  funext id
  rw [listening, listening, h]

theorem listening_rejectSlot (requestId : RequestId) (rejection : ReplyRejection) :
    listening (registry.rejectSlot requestId rejection) = listening registry := by
  unfold RequestRegistry.rejectSlot
  split
  · rfl
  · rename_i slot hslot
    rw [listening_insert]
    have same : some ((slot.reject rejection).sender, (slot.reject rejection).expectation) =
        listening registry requestId := by
      rw [listening, hslot]
      rfl
    rw [same]
    exact Function.update_eq_self requestId (listening registry)

theorem pending_rejectSlot (requestId : RequestId) (rejection : ReplyRejection) :
    (registry.rejectSlot requestId rejection).pending = registry.pending := by
  unfold RequestRegistry.rejectSlot
  split <;> rfl

theorem dropSenders_nil (pending : List PendingReply) : dropSenders pending [] = pending := by
  apply List.ext_getElem?
  intro i
  simp [dropSenders]

theorem mem_senders {k : ℕ} :
    k ∈ registry.slots.entries.map (fun entry => entry.2.sender) ↔
      ∃ requestId expectation, listening registry requestId = some (k, expectation) := by
  simp only [List.mem_map, listening, Option.map_eq_some_iff]
  constructor
  · rintro ⟨⟨requestId, slot⟩, hmem, rfl⟩
    exact ⟨requestId, slot.expectation, slot, AList.mem_lookup_iff.mpr hmem, rfl⟩
  · rintro ⟨requestId, expectation, slot, hslot, hpair⟩
    exact ⟨⟨requestId, slot⟩, AList.mem_lookup_iff.mp hslot, (Prod.mk.inj hpair).1⟩

end Listening

/-- All that one event can do to the slots and to the pending replies. -/
inductive Effect (codec : ReplyCodec) (registry : RequestRegistry) :
    Event → (RequestId → Option (ℕ × ReplyExpectation)) → List PendingReply → Prop
  | quiet {event : Event} (running : ∀ index, ¬ Ends index event)
      (refused : ∀ envelope authentication, event = .resolve envelope (.ok authentication) →
        ∀ requestId k expectation, listening registry requestId = some (k, expectation) →
          ¬ Wins codec requestId expectation envelope) :
      Effect codec registry event (listening registry) registry.pending
  | registered (requestId : RequestId) (expectation : ReplyExpectation)
      (free : listening registry requestId = none) :
      Effect codec registry (.register requestId expectation)
        (Function.update (listening registry) requestId
          (some (registry.pending.length, expectation)))
        (registry.pending ++ [⟨requestId, .empty, false⟩])
  | resolved {requestId : RequestId} {k : ℕ} {expectation : ReplyExpectation}
      (envelope : Envelope) (authentication : ReplyAuthentication)
      (live : listening registry requestId = some (k, expectation))
      (wins : Wins codec requestId expectation envelope) :
      Effect codec registry (.resolve envelope (.ok authentication))
        (Function.update (listening registry) requestId none)
        (send registry.pending k envelope authentication)
  | dropped {index : ℕ} {reply : PendingReply} (found : registry.pending[index]? = some reply) :
      Effect codec registry (.dropPending index)
        (Function.update (listening registry) reply.requestId none)
        ((dropSenders registry.pending ((listening registry reply.requestId).map Prod.fst).toList)
          |>.modify index fun reply => { reply with dropped := true })
  | abandoned {event : Event} {senders : List ℕ} (ends : ∀ index, Ends index event)
      (owners : ∀ k, k ∈ senders ↔
        ∃ requestId expectation, listening registry requestId = some (k, expectation)) :
      Effect codec registry event (fun _ => none) (dropSenders registry.pending senders)

section Next

variable {codec : ReplyCodec} (registry : RequestRegistry)

def registered (requestId : RequestId) (expectation : ReplyExpectation) : RequestRegistry :=
  { registry with
    slots := registry.slots.insert requestId ⟨expectation, registry.pending.length, none, 0⟩
    pending := registry.pending ++ [⟨requestId, .empty, false⟩] }

theorem register_ok {requestId : RequestId} {expectation : ReplyExpectation}
    {admitted : RequestRegistry} {k : ℕ} :
    registry.register requestId expectation = .ok (admitted, k) ↔
      registry.closed = false ∧ requestId ∉ registry.slots ∧
      registry.slots.entries.length < registry.maxInFlight ∧
      admitted = registered registry requestId expectation ∧ k = registry.pending.length := by
  unfold RequestRegistry.register registered
  by_cases closed : registry.closed = true
  · simp [closed]
  by_cases occupied : requestId ∈ registry.slots
  · simp [closed, occupied]
  by_cases full : registry.maxInFlight ≤ registry.slots.entries.length
  · simp [closed, occupied, full]
  rw [if_neg closed, if_neg occupied, if_neg full]
  simp only [Except.ok.injEq, Prod.mk.injEq, Bool.not_eq_true] at closed ⊢
  constructor
  · rintro ⟨rfl, rfl⟩
    exact ⟨closed, occupied, not_le.mp full, rfl, rfl⟩
  · rintro ⟨_, _, _, rfl, rfl⟩
    exact ⟨rfl, rfl⟩

theorem effect_register (requestId : RequestId) (expectation : ReplyExpectation) :
    Effect codec registry (.register requestId expectation)
      (listening (next codec registry (.register requestId expectation)))
      (next codec registry (.register requestId expectation)).pending := by
  have quiet : Effect codec registry (.register requestId expectation) (listening registry)
      registry.pending := .quiet (fun _ ends => ends) (by rintro _ _ ⟨⟩)
  cases h : registry.register requestId expectation with
  | error rejection =>
    simp only [next, h]
    exact quiet
  | ok result =>
    obtain ⟨admitted, k⟩ := result
    obtain ⟨_, vacant, _, rfl, _⟩ := (register_ok registry).mp h
    simp only [next, h]
    have inserted : listening (registered registry requestId expectation) =
        Function.update (listening registry) requestId
          (some (registry.pending.length, expectation)) :=
      listening_insert registry registry.slots requestId _
    rw [inserted]
    refine .registered requestId expectation ?_
    rw [listening, AList.lookup_eq_none.mpr vacant]
    rfl

theorem effect_refused (envelope : Envelope) (refusal : TransportRefusal) :
    Effect codec registry (.resolve envelope (.error refusal))
      (listening (registry.resolve codec envelope (.error refusal)))
      (registry.resolve codec envelope (.error refusal)).pending := by
  have quiet : Effect codec registry (.resolve envelope (.error refusal)) (listening registry)
      registry.pending := .quiet (fun _ ends => ends) (by rintro _ _ ⟨⟩)
  unfold RequestRegistry.resolve
  dsimp only
  split
  · exact quiet
  · rw [listening_rejectSlot, pending_rejectSlot]
    exact quiet

theorem effect_resolve (envelope : Envelope) (authentication : ReplyAuthentication) :
    Effect codec registry (.resolve envelope (.ok authentication))
      (listening (registry.resolve codec envelope (.ok authentication)))
      (registry.resolve codec envelope (.ok authentication)).pending := by
  -- a delivery without effect on the slots must not have satisfied any of them
  have quiet : (∀ requestId k expectation, listening registry requestId = some (k, expectation) →
      ¬ Wins codec requestId expectation envelope) →
      Effect codec registry (.resolve envelope (.ok authentication)) (listening registry)
        registry.pending := by
    intro lost
    refine .quiet (fun _ ends => ends) ?_
    rintro _ _ ⟨⟩
    exact lost
  unfold RequestRegistry.resolve
  dsimp only
  cases hid : readableRequestId codec envelope with
  | none =>
    apply quiet
    intro requestId k expectation _ wins
    rw [wins.identity] at hid
    cases hid
  | some requestId =>
    dsimp only
    cases hslot : registry.slots.lookup requestId with
    | none =>
      apply quiet
      intro other k expectation live wins
      obtain rfl : requestId = other := Option.some.inj (hid.symm.trans wins.identity)
      rw [listening, hslot] at live
      cases live
    | some slot =>
      have live : listening registry requestId = some (slot.sender, slot.expectation) := by
        rw [listening, hslot]
        rfl
      dsimp only
      cases haccept : acceptsReply codec slot.expectation requestId envelope with
      | error rejection =>
        have unchanged : listening
            ((registry.rejectSlot requestId rejection).recordRejectionKind rejection.kind) =
              listening registry :=
          (listening_of_slots (registry.rejectSlot requestId rejection) rfl).trans
            (listening_rejectSlot registry requestId rejection)
        dsimp only
        rw [unchanged]
        simp only [RequestRegistry.recordRejectionKind, pending_rejectSlot]
        apply quiet
        intro other k expectation live' wins
        obtain rfl : requestId = other := Option.some.inj (hid.symm.trans wins.identity)
        rw [live] at live'
        cases live'
        rw [(acceptsReply_ok hid).mpr wins] at haccept
        cases haccept
      | ok _ =>
        have erased : listening { registry with
            slots := registry.slots.erase requestId
            retired := registry.retired.record requestId .resolved
            pending := send registry.pending slot.sender envelope authentication } =
            Function.update (listening registry) requestId none :=
          listening_erase registry registry.slots requestId
        dsimp only
        rw [erased]
        exact .resolved envelope authentication live ((acceptsReply_ok hid).mp haccept)

theorem listening_remove (requestId : RequestId) :
    listening (registry.remove requestId) =
      Function.update (listening registry) requestId none := by
  unfold RequestRegistry.remove
  split
  · rename_i absent
    have none : listening registry requestId = none := by
      rw [listening, absent]
      rfl
    rw [← none, Function.update_eq_self]
  · exact listening_erase registry registry.slots requestId

theorem pending_remove (requestId : RequestId) :
    (registry.remove requestId).pending =
      dropSenders registry.pending ((listening registry requestId).map Prod.fst).toList := by
  unfold RequestRegistry.remove listening
  cases registry.slots.lookup requestId with
  | none => exact (dropSenders_nil registry.pending).symm
  | some slot => rfl

theorem effect_abandoned {event : Event} (ends : ∀ index, Ends index event)
    {after : RequestRegistry} (slots : after.slots = ∅)
    (pending : after.pending =
      dropSenders registry.pending (registry.slots.entries.map fun entry => entry.2.sender)) :
    Effect codec registry event (listening after) after.pending := by
  have nobody : listening after = fun _ => none := by
    funext requestId
    rw [listening, slots]
    rfl
  rw [nobody, pending]
  exact .abandoned ends fun _ => mem_senders registry

/-- Every enabled event has one of the effects. -/
theorem effect_next {event : Event} (enabled : Enabled registry event) :
    Effect codec registry event (listening (next codec registry event))
      (next codec registry event).pending := by
  cases event with
  | register requestId expectation => exact effect_register registry requestId expectation
  | resolve envelope authentication =>
    cases authentication with
    | error refusal => exact effect_refused registry envelope refusal
    | ok authentication => exact effect_resolve registry envelope authentication
  | recordUndecodable => exact .quiet (fun _ ends => ends) (by rintro _ _ ⟨⟩)
  | dropPending index =>
    cases found : registry.pending[index]? with
    | none => simp [Enabled, found] at enabled
    | some reply =>
      have slots : listening (next codec registry (.dropPending index)) =
          listening (registry.remove reply.requestId) := by
        apply listening_of_slots
        simp only [next, RequestRegistry.dropPending, found]
      rw [slots, listening_remove]
      simp only [next, RequestRegistry.dropPending, found, pending_remove]
      exact .dropped found
  | drain order =>
    have ends : ∀ index, Ends index (.drain order) := fun _ => trivial
    exact effect_abandoned registry ends rfl rfl
  | close order =>
    have ends : ∀ index, Ends index (.close order) := fun _ => trivial
    exact effect_abandoned registry ends rfl rfl

theorem settings_rejectSlot (requestId : RequestId) (rejection : ReplyRejection) :
    (registry.rejectSlot requestId rejection).maxInFlight = registry.maxInFlight ∧
      (registry.rejectSlot requestId rejection).closed = registry.closed := by
  unfold RequestRegistry.rejectSlot
  split <;> exact ⟨rfl, rfl⟩

theorem settings_resolve (envelope : Envelope)
    (authentication : Except TransportRefusal ReplyAuthentication) :
    (registry.resolve codec envelope authentication).maxInFlight = registry.maxInFlight ∧
      (registry.resolve codec envelope authentication).closed = registry.closed := by
  unfold RequestRegistry.resolve
  split
  · dsimp only
    split
    · exact ⟨rfl, rfl⟩
    · exact settings_rejectSlot _ _ _
  · split
    · exact ⟨rfl, rfl⟩
    · split
      · exact ⟨rfl, rfl⟩
      · split
        · exact settings_rejectSlot _ _ _
        · exact ⟨rfl, rfl⟩

theorem settings_next (event : Event) :
    (next codec registry event).maxInFlight = registry.maxInFlight ∧
      ((next codec registry event).closed = true ↔
        registry.closed = true ∨ ∃ order, event = .close order) := by
  cases event with
  | register requestId expectation =>
    cases h : registry.register requestId expectation with
    | error rejection => simp [next, h]
    | ok result =>
      obtain ⟨admitted, k⟩ := result
      obtain ⟨_, _, _, rfl, _⟩ := (register_ok registry).mp h
      simp [next, h, registered]
  | resolve envelope authentication =>
    obtain ⟨bound, closed⟩ := @settings_resolve codec registry envelope authentication
    simp [next, bound, closed]
  | recordUndecodable => simp [next, RequestRegistry.recordRejectionKind]
  | drain order => simp [next, RequestRegistry.drain, RequestRegistry.abandonEverySlot]
  | close order => simp [next, RequestRegistry.close, RequestRegistry.abandonEverySlot]
  | dropPending index =>
    have removed : ∀ requestId, (registry.remove requestId).maxInFlight = registry.maxInFlight ∧
        (registry.remove requestId).closed = registry.closed := by
      intro requestId
      unfold RequestRegistry.remove
      split <;> exact ⟨rfl, rfl⟩
    simp only [next, RequestRegistry.dropPending]
    split <;> simp [removed]

end Next

/-! ## Pending replies by position -/

theorem getElem?_send (pending : List PendingReply) (sender : ℕ) (envelope : Envelope)
    (authentication : ReplyAuthentication) (k : ℕ) :
    (send pending sender envelope authentication)[k]? = (pending[k]?).map fun reply =>
      if sender = k ∧ reply.dropped = false then
        { reply with receiver := .holds envelope authentication } else reply := by
  rw [send, List.getElem?_modify]
  by_cases h : sender = k
  · simp only [h, if_true, true_and]
    congr 1
    funext reply
    cases reply.dropped <;> rfl
  · simp [h]

theorem getElem?_dropSenders (pending : List PendingReply) (senders : List ℕ) (k : ℕ) :
    (dropSenders pending senders)[k]? = (pending[k]?).map fun reply =>
      if k ∈ senders then { reply with receiver := .closed } else reply := by
  rw [dropSenders, List.getElem?_mapIdx]

theorem getElem?_dropGuard (pending : List PendingReply) (senders : List ℕ) (i k : ℕ) :
    ((dropSenders pending senders).modify i fun reply => { reply with dropped := true })[k]? =
      (pending[k]?).map fun reply =>
        { reply with
          receiver := if k ∈ senders then .closed else reply.receiver
          dropped := if i = k then true else reply.dropped } := by
  rw [List.getElem?_modify, getElem?_dropSenders]
  cases pending[k]? with
  | none => rfl
  | some reply => by_cases h : k ∈ senders <;> by_cases here : i = k <;> simp [h, here]

/-! ## Slots and pending replies -/

/-- The slots and the replies still waiting are the two ends of the same channels. -/
structure Linked (registry : RequestRegistry) : Prop where
  owner : ∀ requestId k expectation, listening registry requestId = some (k, expectation) →
    registry.pending[k]? = some ⟨requestId, .empty, false⟩
  live : ∀ (k : ℕ) requestId, registry.pending[k]? = some ⟨requestId, .empty, false⟩ →
    ∃ expectation, listening registry requestId = some (k, expectation)

theorem Linked.receiver {registry : RequestRegistry} (linked : Linked registry)
    {requestId : RequestId} {k : ℕ} {expectation : ReplyExpectation} {reply : PendingReply}
    (live : listening registry requestId = some (k, expectation))
    (found : registry.pending[k]? = some reply) : reply.receiver = .empty := by
  have owner := linked.owner requestId k expectation live
  rw [found] at owner
  cases owner
  rfl

theorem Linked.new (maxInFlight : ℕ) : Linked (.new maxInFlight) := by
  constructor
  · intro requestId k expectation live
    cases live
  · intro k requestId found
    simp [RequestRegistry.new] at found

section Effects

variable {codec : ReplyCodec} {registry : RequestRegistry} {event : Event}
  {slots : RequestId → Option (ℕ × ReplyExpectation)} {pending : List PendingReply}

/-- A pending reply keeps its identity, an answer once given, and its guard until its own
guard is dropped. -/
theorem Effect.reply (effect : Effect codec registry event slots pending)
    (linked : Linked registry) {k : ℕ} {reply : PendingReply}
    (found : registry.pending[k]? = some reply) :
    ∃ after, pending[k]? = some after ∧ after.requestId = reply.requestId ∧
      (event ≠ .dropPending k → after.dropped = reply.dropped) ∧
      (reply.receiver ≠ .empty → after.receiver = reply.receiver) := by
  cases effect with
  | quiet => exact ⟨reply, found, rfl, fun _ => rfl, fun _ => rfl⟩
  | registered requestId expectation free =>
    have bound : k < registry.pending.length := (List.getElem?_eq_some_iff.mp found).1
    exact ⟨reply, by rw [List.getElem?_append_left bound, found], rfl, fun _ => rfl, fun _ => rfl⟩
  | @resolved requestId sender expectation envelope authentication live wins =>
    refine ⟨_, by rw [getElem?_send, found]; rfl, ?_⟩
    dsimp only
    by_cases here : sender = k ∧ reply.dropped = false
    · have unanswered := linked.receiver (here.1 ▸ live) found
      rw [if_pos here]
      exact ⟨rfl, fun _ => rfl, fun answered => absurd unanswered answered⟩
    · rw [if_neg here]
      exact ⟨rfl, fun _ => rfl, fun _ => rfl⟩
  | @dropped index other hother =>
    refine ⟨_, by rw [getElem?_dropGuard, found]; rfl, ?_, ?_, ?_⟩
    · rfl
    · intro ne
      have : index ≠ k := fun h => ne (by rw [h])
      exact if_neg this
    · intro answered
      refine if_neg ?_
      intro sender
      obtain ⟨⟨j, expectation⟩, live, rfl⟩ :=
        Option.map_eq_some_iff.mp (Option.mem_toList.mp sender)
      exact answered (linked.receiver live found)
  | @abandoned _ senders ends owners =>
    refine ⟨_, by rw [getElem?_dropSenders, found]; rfl, ?_⟩
    dsimp only
    by_cases here : k ∈ senders
    · obtain ⟨requestId, expectation, live⟩ := (owners k).mp here
      have unanswered := linked.receiver live found
      rw [if_pos here]
      exact ⟨rfl, fun _ => rfl, fun answered => absurd unanswered answered⟩
    · rw [if_neg here]
      exact ⟨rfl, fun _ => rfl, fun _ => rfl⟩

theorem update_none_eq_some {requestId other : RequestId} {pair : ℕ × ReplyExpectation} :
    Function.update (listening registry) requestId none other = some pair ↔
      other ≠ requestId ∧ listening registry other = some pair := by
  by_cases same : other = requestId
  · subst same
    simp
  · rw [Function.update_of_ne same]
    simp [same]

theorem Linked.registered {after : RequestRegistry} (linked : Linked registry)
    {requestId : RequestId} {expectation : ReplyExpectation}
    (free : listening registry requestId = none)
    (hslots : listening after = Function.update (listening registry) requestId
      (some (registry.pending.length, expectation)))
    (hpending : after.pending = registry.pending ++ [⟨requestId, .empty, false⟩]) :
    Linked after := by
  constructor
  · intro other k expected live
    rw [hslots] at live
    rw [hpending]
    by_cases same : other = requestId
    · subst same
      rw [Function.update_self] at live
      obtain ⟨rfl, _⟩ := Prod.mk.inj (Option.some.inj live)
      simp
    · rw [Function.update_of_ne same] at live
      have found := linked.owner other k expected live
      rw [List.getElem?_append_left (List.getElem?_eq_some_iff.mp found).1]
      exact found
  · intro k other found
    rw [hpending, List.getElem?_append] at found
    rw [hslots]
    split at found
    · obtain ⟨expected, live⟩ := linked.live k other found
      have ne : other ≠ requestId := by
        rintro rfl
        rw [free] at live
        cases live
      exact ⟨expected, by rw [Function.update_of_ne ne]; exact live⟩
    · rename_i beyond
      rw [List.getElem?_singleton] at found
      split at found
      · cases found
        have : k = registry.pending.length := by omega
        exact ⟨expectation, by rw [Function.update_self, this]⟩
      · cases found

theorem Linked.resolved {after : RequestRegistry} (linked : Linked registry)
    {requestId : RequestId} {sender : ℕ} {expectation : ReplyExpectation} {envelope : Envelope}
    {authentication : ReplyAuthentication}
    (live : listening registry requestId = some (sender, expectation))
    (hslots : listening after = Function.update (listening registry) requestId none)
    (hpending : after.pending = send registry.pending sender envelope authentication) :
    Linked after := by
  have mine := linked.owner requestId sender expectation live
  constructor
  · intro other k expected listens
    rw [hslots, update_none_eq_some] at listens
    have found := linked.owner other k expected listens.2
    have ne : sender ≠ k := by
      rintro rfl
      rw [mine] at found
      cases found
      exact listens.1 rfl
    rw [hpending, getElem?_send, found]
    simp [ne]
  · intro k other found
    rw [hpending, getElem?_send] at found
    obtain ⟨reply, hreply, changed⟩ := Option.map_eq_some_iff.mp found
    split at changed
    · cases changed
    · rename_i elsewhere
      subst changed
      obtain ⟨expected, listens⟩ := linked.live k other hreply
      refine ⟨expected, ?_⟩
      rw [hslots, update_none_eq_some]
      refine ⟨?_, listens⟩
      rintro rfl
      rw [live] at listens
      cases listens
      exact elsewhere ⟨rfl, rfl⟩

theorem Linked.dropped {after : RequestRegistry} (linked : Linked registry) {index : ℕ}
    {reply : PendingReply} (found : registry.pending[index]? = some reply)
    (hslots : listening after = Function.update (listening registry) reply.requestId none)
    (hpending : after.pending =
      ((dropSenders registry.pending ((listening registry reply.requestId).map Prod.fst).toList)
        |>.modify index fun reply => { reply with dropped := true })) : Linked after := by
  have mem_sender : ∀ k, k ∈ ((listening registry reply.requestId).map Prod.fst).toList ↔
      ∃ expected, listening registry reply.requestId = some (k, expected) := by
    intro k
    rw [Option.mem_toList, Option.map_eq_some_iff]
    constructor
    · rintro ⟨⟨j, expected⟩, live, rfl⟩
      exact ⟨expected, live⟩
    · rintro ⟨expected, live⟩
      exact ⟨(k, expected), live, rfl⟩
  constructor
  · intro other k expected listens
    rw [hslots, update_none_eq_some] at listens
    have hk := linked.owner other k expected listens.2
    have notSender : k ∉ ((listening registry reply.requestId).map Prod.fst).toList := by
      rw [mem_sender]
      rintro ⟨expected', live⟩
      have owner := linked.owner _ _ _ live
      rw [hk] at owner
      cases owner
      exact listens.1 rfl
    have ne : index ≠ k := by
      rintro rfl
      rw [hk] at found
      cases found
      exact listens.1 rfl
    rw [hpending, getElem?_dropGuard, hk]
    simp [notSender, ne]
  · intro k other hk
    rw [hpending, getElem?_dropGuard] at hk
    obtain ⟨old, hold, changed⟩ := Option.map_eq_some_iff.mp hk
    simp only [PendingReply.mk.injEq] at changed
    obtain ⟨rfl, empty, guarded⟩ := changed
    split at empty
    · cases empty
    · rename_i notSender
      split at guarded
      · cases guarded
      · obtain ⟨expected, listens⟩ := linked.live k old.requestId (by
          rw [hold, ← empty, ← guarded])
        refine ⟨expected, ?_⟩
        rw [hslots, update_none_eq_some]
        refine ⟨?_, listens⟩
        intro same
        rw [same] at listens
        exact notSender ((mem_sender k).mpr ⟨expected, listens⟩)

theorem Linked.step (codec : ReplyCodec) (linked : Linked registry)
    (enabled : Enabled registry event) : Linked (next codec registry event) := by
  have effect := @effect_next codec registry _ enabled
  generalize hslots : listening (next codec registry event) = slots at effect
  generalize hpending : (next codec registry event).pending = pending at effect
  cases effect with
  | quiet =>
    constructor
    · rw [hslots, hpending]
      exact linked.owner
    · rw [hslots, hpending]
      exact linked.live
  | registered requestId expectation free => exact linked.registered free hslots hpending
  | resolved envelope authentication live wins => exact linked.resolved live hslots hpending
  | dropped found => exact linked.dropped found hslots hpending
  | @abandoned _ senders ends owners =>
    constructor
    · intro requestId k expectation live
      rw [hslots] at live
      cases live
    · intro k requestId found
      rw [hpending, getElem?_dropSenders] at found
      obtain ⟨reply, hreply, changed⟩ := Option.map_eq_some_iff.mp found
      split at changed
      · cases changed
      · rename_i notSender
        subst changed
        obtain ⟨expected, live⟩ := linked.live k requestId hreply
        exact absurd ((owners k).mpr ⟨requestId, expected, live⟩) notSender

end Effects

end BusRegistryEffects
