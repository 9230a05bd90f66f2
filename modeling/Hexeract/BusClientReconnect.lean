import Hexeract.BusClientGuards

/-! # Calls and the loss of the reply inbox

A call registers before it reads the inbox, and the supervisor marks the inbox before it
drains the registry. Marks and drains are counted; an address carries the number of marks
made before it was read, so it is stale once more drains than that are complete. -/
namespace BusClientReconnect

open LibraryMachines BusEnvelope BusReplyAcceptance BusRegistryEffects BusReplyDelivery
open BusRequestRegistry hiding Event Enabled next machine
open BusRequestClient BusClientMoves BusClientGuards

variable {n m : ℕ}

/-- The guard and the reply address of a call that has read the inbox and not left. -/
def addressOf : CallPhase → Option (ℕ × Address)
  | .addressed guard address => some (guard, address)
  | .encoded guard address => some (guard, address)
  | .permitted guard address => some (guard, address)
  | .publishing guard address => some (guard, address)
  | .published guard address => some (guard, address)
  | .waiting guard address => some (guard, address)
  | _ => none

theorem guardOf_of_addressOf {phase : CallPhase} {guard : ℕ} {address : Address}
    (h : addressOf phase = some (guard, address)) : guardOf phase = some guard := by
  cases phase <;> simp_all [addressOf, guardOf]

/-- How the inbox, the counts of the supervisor and the addresses of the calls fit. -/
structure Supervised (client : Client n m) : Prop where
  down : client.supervisor ≠ .running → client.replyInbox = .reconnecting
  counts : client.marks = client.drains + if client.supervisor = .marked then 1 else 0
  current : ∀ c guard address, addressOf (client.calls c) = some (guard, address) →
    address.epoch < client.marks ∨
      address.epoch = client.marks ∧ client.replyInbox = .ready address.inbox
  drained : ∀ c guard address, addressOf (client.calls c) = some (guard, address) →
    address.epoch < client.drains → Answered client.registry guard

theorem Supervised.new (maxInFlight : ℕ) (inbox : String) :
    Supervised (Client.new n m maxInFlight inbox) where
  down := fun stopped => absurd rfl stopped
  counts := rfl
  current := by
    intro c guard address holds
    cases holds
  drained := by
    intro c guard address holds
    cases holds

section Steps

variable {codec : ReplyCodec} {requests : Fin n → Request} {client after : Client n m}

theorem addressOf_quiet {c : Fin n} {before phase : CallPhase}
    (move : Quiet codec requests client c before phase) {guard : ℕ} {address : Address}
    (h : addressOf phase = some (guard, address)) :
    addressOf before = some (guard, address) ∨
      address.epoch = client.marks ∧ client.replyInbox = .ready address.inbox := by
  cases move with
  | address ready =>
    cases h
    exact .inr ⟨rfl, ready⟩
  | encode | publish => exact .inl h
  | _ => cases h

theorem addressOf_move {c d : Fin n} (move : Move codec requests client c after) {guard : ℕ}
    {address : Address} (h : addressOf (after.calls d) = some (guard, address)) :
    addressOf (client.calls d) = some (guard, address) ∨
      address.epoch = client.marks ∧ client.replyInbox = .ready address.inbox := by
  by_cases here : d = c
  · subst here
    cases move with
    | stay => exact .inl h
    | quiet move =>
      rw [calls_moveTo_self] at h
      exact addressOf_quiet move h
    | permit stands | hand stands | returnPermit stands =>
      rw [calls_moveTo_self] at h
      rw [stands]
      exact .inl h
    | start | register | raise | dropPermit | dropGuard | settleFirst | settleSecond =>
      rw [calls_moveTo_self] at h
      cases h
  · rw [move.elsewhere here] at h
    exact .inl h

theorem supervisor_of_move {c : Fin n} (move : Move codec requests client c after) :
    after.supervisor = client.supervisor ∧ after.replyInbox = client.replyInbox ∧
      after.marks = client.marks ∧ after.drains = client.drains := by
  cases move <;> exact ⟨rfl, rfl, rfl, rfl⟩

theorem Supervised.move (supervised : Supervised client) (sound : Sound requests client)
    {c : Fin n} (move : Move codec requests client c after) : Supervised after := by
  obtain ⟨supervisor, inbox, marks, drains⟩ := supervisor_of_move move
  constructor
  · rw [supervisor, inbox]
    exact supervised.down
  · rw [supervisor, marks, drains]
    exact supervised.counts
  · intro d guard address holds
    rw [marks, inbox]
    rcases addressOf_move move holds with before | fresh
    · exact supervised.current d guard address before
    · exact .inr fresh
  · intro d guard address holds stale
    rw [drains] at stale
    rcases addressOf_move move holds with before | ⟨epoch, ready⟩
    · have answered := supervised.drained d guard address before stale
      exact answered.kept sound (.call c move) (guardOf_of_addressOf before)
        (guardOf_of_addressOf holds)
    · -- an address read while the inbox is ready is never behind the drains
      have := supervised.counts
      omega

theorem Supervised.step (supervised : Supervised client) (sound : Sound requests client)
    (step : Step codec requests client after) : Supervised after := by
  have keeps : ∀ d guard, guardOf (client.calls d) = some guard →
      guardOf (after.calls d) = some guard → Answered client.registry guard →
      Answered after.registry guard := fun _ _ before still answered =>
    answered.kept sound step before still
  cases step with
  | call c move => exact supervised.move sound move
  | deliver | undecodable | beginClose | closeRegistry | passDrain | cancel =>
    refine ⟨supervised.down, supervised.counts, supervised.current, ?_⟩
    intro d guard address holds stale
    have guards := guardOf_of_addressOf holds
    exact keeps d guard guards guards (supervised.drained d guard address holds stale)
  | mark running =>
    refine ⟨fun _ => rfl, ?_, ?_, supervised.drained⟩
    · have := supervised.counts
      simp only [running] at this
      simpa [markReconnecting] using this
    · intro d guard address holds
      have := supervised.current d guard address holds
      have : address.epoch < client.marks + 1 := by omega
      exact .inl this
  | @drain marked order walked =>
    have sound' := sound.step (@Step.drain n m codec requests client marked order walked)
    refine ⟨fun _ => supervised.down (by rw [marked]; simp), ?_, supervised.current, ?_⟩
    · have := supervised.counts
      simp only [marked] at this
      simpa [drainRegistry] using this
    · intro d guard address holds _
      refine sound'.answered (guardOf_of_addressOf holds) ?_
      intro expectation live
      cases live
  | reconnect waiting inbox =>
    refine ⟨fun stopped => absurd rfl stopped, ?_, ?_, supervised.drained⟩
    · have := supervised.counts
      simp only [waiting] at this
      simpa [publishInbox] using this
    · intro d guard address holds
      rcases supervised.current d guard address holds with before | ⟨_, ready⟩
      · exact .inl before
      · rw [supervised.down (by rw [waiting]; simp)] at ready
        cases ready

end Steps

theorem supervised_run (codec : ReplyCodec) (requests : Fin n → Request) (maxInFlight : ℕ)
    (inbox : String) {events : List (Event n m)}
    (allowed : (machine codec requests).Allowed (Client.new n m maxInFlight inbox) events) :
    Sound requests ((machine codec requests).run (Client.new n m maxInFlight inbox) events) ∧
      Supervised ((machine codec requests).run (Client.new n m maxInFlight inbox) events) :=
  invariant_of_run (I := fun client => Sound requests client ∧ Supervised client) codec requests
    ⟨Sound.new requests maxInFlight inbox, Supervised.new maxInFlight inbox⟩
    (fun _ _ held step => ⟨held.1.step step, held.2.step held.1 step⟩) allowed

/-- In every state of every run: a call that waits with an address read before a mark whose
drain is complete has no slot any more and its channel is ready, a call that waits on a live
slot while the inbox is ready waits with the address of that inbox, and a call that comes to
read the inbox before a new one is published fails. -/
theorem no_call_waits_on_lost_inbox (codec : ReplyCodec) (requests : Fin n → Request)
    (maxInFlight : ℕ) (inbox : String) (events : List (Event n m))
    (allowed : (machine codec requests).Allowed (Client.new n m maxInFlight inbox) events)
    (client : Client n m)
    (reached : client = (machine codec requests).run (Client.new n m maxInFlight inbox) events) :
    (∀ c guard address, client.calls c = .waiting guard address →
      address.epoch < client.drains →
        (∀ requestId expectation, listening client.registry requestId ≠
          some (guard, expectation)) ∧ Enabled client (.advance c)) ∧
    (∀ c guard address requestId expectation current,
      client.calls c = .waiting guard address →
      listening client.registry requestId = some (guard, expectation) →
      client.replyInbox = .ready current → address.inbox = current) ∧
    ∀ c guard, client.calls c = .admitted guard → client.supervisor ≠ .running →
      (next codec requests client (.advance c)).calls c =
        .leaving guard false (.finished (.error (.transport replyInboxReconnecting))) := by
  obtain ⟨sound, supervised⟩ := supervised_run codec requests maxInFlight inbox allowed
  rw [← reached] at sound supervised
  have stale : ∀ c guard address, client.calls c = .waiting guard address →
      address.epoch < client.drains → Answered client.registry guard := by
    intro c guard address waiting behind
    exact supervised.drained c guard address (by rw [waiting]; rfl) behind
  have live : ∀ guard requestId expectation,
      listening client.registry requestId = some (guard, expectation) →
      ¬ Answered client.registry guard := by
    rintro guard requestId expectation listens ⟨receiver, shown, nonempty⟩
    rw [receiverAt, sound.linked.owner requestId guard expectation listens] at shown
    exact nonempty (Option.some.inj shown).symm
  refine ⟨?_, ?_, ?_⟩
  · intro c guard address waiting behind
    have answered := stale c guard address waiting behind
    refine ⟨fun requestId expectation listens => live guard _ _ listens answered, ?_⟩
    obtain ⟨receiver, shown, nonempty⟩ := answered
    simp [Enabled, canAdvance, waiting, shown, nonempty]
  · intro c guard address requestId expectation current waiting listens ready
    have holds : addressOf (client.calls c) = some (guard, address) := by rw [waiting]; rfl
    rcases supervised.current c guard address holds with before | ⟨_, mine⟩
    · -- the inbox is ready, so every mark has been drained
      have behind : address.epoch < client.drains := by
        have running : client.supervisor = .running := by
          by_contra stopped
          rw [supervised.down stopped] at ready
          cases ready
        have counts := supervised.counts
        rw [running] at counts
        simpa [counts] using before
      exact absurd (stale c guard address waiting behind) (live guard _ _ listens)
    · rw [mine] at ready
      exact ReplyInboxState.ready.inj ready
  · intro c guard admitted stopped
    simp only [next, advance, admitted, supervised.down stopped, failWith, calls_moveTo_self]

/-- The first call waits when the inbox is lost; the second has registered after the drain. -/
def lossEvents : List (Event 2 0) :=
  List.replicate 9 (.advance firstCall) ++
    [.advance secondCall, .mark, .drain [sampleId], .advance secondCall, .advance secondCall]

theorem no_call_waits_on_lost_inbox_sample :
    Enabled ((machine sampleCodec sampleRequests).run (Client.new 2 0 4 "inbox") lossEvents)
        (.advance firstCall) ∧
      (next sampleCodec sampleRequests
        ((machine sampleCodec sampleRequests).run (Client.new 2 0 4 "inbox") lossEvents)
          (.advance secondCall)).calls secondCall =
        .leaving 1 false (.finished (.error (.transport replyInboxReconnecting))) := by
  have safe := no_call_waits_on_lost_inbox sampleCodec sampleRequests 4 "inbox" lossEvents
    (by simp only [machine]; decide +kernel) _ rfl
  exact ⟨(safe.1 firstCall 0 ⟨"inbox", 0⟩ (by decide +kernel) (by decide +kernel)).2,
    safe.2.2 secondCall 1 (by decide +kernel) (by decide +kernel)⟩

end BusClientReconnect
