import Hexeract.BusClientMoves

/-! # The pending replies that the calls hold

A call that has registered holds the guard of one pending reply until it leaves. No two
calls hold the same one, and nobody else drops it. -/
namespace BusClientGuards

open LibraryMachines BusReplyAcceptance BusRegistryEffects BusRequestClient BusClientMoves
open BusRequestRegistry hiding Event Enabled next machine

variable {n m : ℕ}

def guardOf : CallPhase → Option ℕ
  | .registered guard => some guard
  | .admitted guard => some guard
  | .addressed guard _ => some guard
  | .encoded guard _ => some guard
  | .permitted guard _ => some guard
  | .publishing guard _ => some guard
  | .published guard _ => some guard
  | .waiting guard _ => some guard
  | .woken guard => some guard
  | .rechecking guard => some guard
  | .timingOut guard _ => some guard
  | .countingRejections guard _ _ => some guard
  | .leaving guard _ _ => some guard
  | .idle | .started | .unguarded _ _ | .settling _ _ | .done _ => none

/-- The slots and the replies are linked, and every guard is held by one call only. -/
structure Sound (requests : Fin n → Request) (client : Client n m) : Prop where
  linked : Linked client.registry
  held : ∀ c guard, guardOf (client.calls c) = some guard → ∃ receiver,
    client.registry.pending[guard]? = some ⟨(requests c).requestId, receiver, false⟩
  distinct : ∀ c d guard, guardOf (client.calls c) = some guard →
    guardOf (client.calls d) = some guard → c = d

theorem Sound.new (requests : Fin n → Request) (maxInFlight : ℕ) (inbox : String) :
    Sound requests (Client.new n m maxInFlight inbox) where
  linked := .new maxInFlight
  held := by
    intro c guard holds
    cases holds
  distinct := by
    intro c d guard holds
    cases holds

def Answered (registry : RequestRegistry) (guard : ℕ) : Prop :=
  ∃ receiver, receiverAt registry guard = some receiver ∧ receiver ≠ .empty

/-- All that a step can do to the guards and to the registry. -/
inductive Change (codec : ReplyCodec) (requests : Fin n → Request) (client after : Client n m) :
    Prop
  | kept (guards : ∀ d, guardOf (after.calls d) = guardOf (client.calls d))
      (registry : after.registry = client.registry)
  | shared {event : BusRequestRegistry.Event}
      (enabled : BusRequestRegistry.Enabled client.registry event)
      (running : ∀ k, event ≠ .dropPending k) (calls : after.calls = client.calls)
      (registry : after.registry = BusRequestRegistry.next codec client.registry event)
  | taken {c : Fin n} {guard : ℕ} (stands : client.calls c = .started)
      (admitted : client.registry.register (requests c).requestId
        ⟨(requests c).replyMessageType⟩ = .ok (after.registry, guard))
      (calls : after.calls = Function.update client.calls c (.registered guard))
  | given {c : Fin n} {guard : ℕ} {report : Report}
      (stands : client.calls c = .leaving guard false report)
      (registry : after.registry = client.registry.dropPending guard)
      (calls : after.calls = Function.update client.calls c (.unguarded report true))

section Steps

variable {codec : ReplyCodec} {requests : Fin n → Request} {client after : Client n m}

theorem guardOf_quiet {c : Fin n} {before phase : CallPhase}
    (move : Quiet codec requests client c before phase) : guardOf phase = guardOf before := by
  cases move <;> rfl

theorem change_of_move {c : Fin n} (move : Move codec requests client c after) :
    Change codec requests client after := by
  have guards : guardOf (after.calls c) = guardOf (client.calls c) →
      ∀ d, guardOf (after.calls d) = guardOf (client.calls d) := by
    intro same d
    by_cases here : d = c
    · rw [here, same]
    · rw [move.elsewhere here]
  cases move with
  | stay => exact .kept (fun _ => rfl) rfl
  | quiet move =>
    refine .kept (guards ?_) rfl
    rw [calls_moveTo_self]
    exact guardOf_quiet move
  | register stands admitted => exact .taken stands admitted rfl
  | dropGuard stands => exact .given stands rfl rfl
  | start stands | raise stands | permit stands | hand stands | returnPermit stands
  | dropPermit stands | settleFirst stands | settleSecond stands =>
    refine .kept (guards ?_) rfl
    rw [calls_moveTo_self, stands]
    rfl

theorem change_of_step (step : Step codec requests client after) :
    Change codec requests client after := by
  cases step with
  | call c move => exact change_of_move move
  | deliver envelope authentication =>
    exact @Change.shared _ _ _ _ _ _ (.resolve envelope authentication) trivial
      (by rintro k ⟨⟩) rfl rfl
  | undecodable =>
    exact @Change.shared _ _ _ _ _ _ .recordUndecodable trivial (by rintro k ⟨⟩) rfl rfl
  | @closeRegistry j waits stands order walked =>
    exact @Change.shared _ _ _ _ _ _ (.close order) walked (by rintro k ⟨⟩) rfl rfl
  | @drain marked order walked =>
    exact @Change.shared _ _ _ _ _ _ (.drain order) walked (by rintro k ⟨⟩) rfl rfl
  | beginClose | passDrain | cancel | mark | reconnect => exact .kept (fun _ => rfl) rfl

/-- A guard held after a step was held before it, or was handed out by this very step. -/
theorem Change.origin (change : Change codec requests client after) {c : Fin n} {guard : ℕ}
    (holds : guardOf (after.calls c) = some guard) :
    guardOf (client.calls c) = some guard ∨
      guard = client.registry.pending.length ∧
        (∀ d, d ≠ c → after.calls d = client.calls d) ∧
        after.registry.pending =
          client.registry.pending ++ [⟨(requests c).requestId, .empty, false⟩] := by
  cases change with
  | kept guards registry =>
    rw [guards c] at holds
    exact .inl holds
  | shared enabled running calls registry =>
    rw [calls] at holds
    exact .inl holds
  | @taken d taken stands admitted calls =>
    rw [calls] at holds
    by_cases here : c = d
    · subst here
      rw [Function.update_self] at holds
      cases holds
      obtain ⟨_, _, _, registered, rfl⟩ := (register_ok client.registry).mp admitted
      refine .inr ⟨rfl, ?_, by rw [registered]; rfl⟩
      intro d other
      rw [calls, Function.update_of_ne other]
    · rw [Function.update_of_ne here] at holds
      exact .inl holds
  | @given d given report stands registry calls =>
    rw [calls] at holds
    by_cases here : c = d
    · subst here
      rw [Function.update_self] at holds
      cases holds
    · rw [Function.update_of_ne here] at holds
      exact .inl holds

theorem Sound.held_next (sound : Sound requests client) {event : BusRequestRegistry.Event}
    (enabled : BusRequestRegistry.Enabled client.registry event) {c : Fin n} {guard : ℕ}
    (holds : guardOf (client.calls c) = some guard) (other : event ≠ .dropPending guard) :
    ∃ receiver, (BusRequestRegistry.next codec client.registry event).pending[guard]? =
        some ⟨(requests c).requestId, receiver, false⟩ ∧
      ∀ old, receiverAt client.registry guard = some old → old ≠ .empty → receiver = old := by
  obtain ⟨receiver, found⟩ := sound.held c guard holds
  obtain ⟨⟨requestId, shown, dropped⟩, found', sameId, sameGuard, answered⟩ :=
    (@effect_next codec client.registry _ enabled).reply sound.linked found
  obtain rfl : requestId = (requests c).requestId := sameId
  obtain rfl : dropped = false := sameGuard other
  refine ⟨shown, found', ?_⟩
  intro old hold nonempty
  rw [receiverAt, found] at hold
  obtain rfl : receiver = old := Option.some.inj hold
  exact answered nonempty

/-- The event of the registry behind a step, which drops no guard that is still held. -/
theorem Sound.registry (sound : Sound requests client)
    (change : Change codec requests client after) :
    after.registry = client.registry ∨ ∃ event,
      BusRequestRegistry.Enabled client.registry event ∧
      after.registry = BusRequestRegistry.next codec client.registry event ∧
      ∀ c guard, guardOf (client.calls c) = some guard → guardOf (after.calls c) = some guard →
        event ≠ .dropPending guard := by
  cases change with
  | kept guards registry => exact .inl registry
  | shared enabled running calls registry =>
    exact .inr ⟨_, enabled, registry, fun _ guard _ _ => running guard⟩
  | @taken d guard stands admitted calls =>
    refine .inr ⟨.register (requests d).requestId ⟨(requests d).replyMessageType⟩, trivial, ?_, ?_⟩
    · simp only [BusRequestRegistry.next, admitted]
    · rintro _ _ _ _ ⟨⟩
  | @given d guard report stands registry calls =>
    have mine : guardOf (client.calls d) = some guard := by rw [stands]; rfl
    obtain ⟨receiver, found⟩ := sound.held d guard mine
    refine .inr ⟨.dropPending guard, ?_, registry, ?_⟩
    · simp [BusRequestRegistry.Enabled, found]
    · rintro c _ before still ⟨⟩
      obtain rfl := sound.distinct c d guard before mine
      rw [calls, Function.update_self] at still
      cases still

theorem Sound.kept (sound : Sound requests client) (change : Change codec requests client after)
    {c : Fin n} {guard : ℕ} (before : guardOf (client.calls c) = some guard)
    (still : guardOf (after.calls c) = some guard) :
    ∃ receiver, after.registry.pending[guard]? =
        some ⟨(requests c).requestId, receiver, false⟩ ∧
      ∀ old, receiverAt client.registry guard = some old → old ≠ .empty → receiver = old := by
  rcases sound.registry change with same | ⟨event, enabled, registry, other⟩
  · obtain ⟨receiver, found⟩ := sound.held c guard before
    refine ⟨receiver, by rw [same, found], ?_⟩
    intro old hold _
    rw [receiverAt, found] at hold
    exact Option.some.inj hold
  · rw [registry]
    exact sound.held_next enabled before (other c guard before still)

theorem Sound.maxInFlight (sound : Sound requests client)
    (change : Change codec requests client after) :
    after.registry.maxInFlight = client.registry.maxInFlight := by
  rcases sound.registry change with same | ⟨event, _, registry, _⟩
  · rw [same]
  · rw [registry, (settings_next client.registry event).1]

theorem Sound.step (sound : Sound requests client) (step : Step codec requests client after) :
    Sound requests after := by
  have change := change_of_step step
  have below : ∀ c guard, guardOf (client.calls c) = some guard →
      guard < client.registry.pending.length := by
    intro c guard holds
    obtain ⟨receiver, found⟩ := sound.held c guard holds
    exact (List.getElem?_eq_some_iff.mp found).1
  constructor
  · rcases sound.registry change with same | ⟨event, enabled, registry, _⟩
    · rw [same]
      exact sound.linked
    · rw [registry]
      exact sound.linked.step codec enabled
  · intro c guard holds
    rcases change.origin holds with before | ⟨rfl, _, pending⟩
    · obtain ⟨receiver, found, _⟩ := sound.kept change before holds
      exact ⟨receiver, found⟩
    · exact ⟨.empty, by rw [pending]; simp⟩
  · -- a fresh guard is out of the range of all earlier ones
    intro c d guard hc hd
    by_contra different
    rcases change.origin hc with oldC | ⟨rfl, others, _⟩
    · rcases change.origin hd with oldD | ⟨rfl, _, _⟩
      · exact different (sound.distinct c d guard oldC oldD)
      · exact absurd (below c _ oldC) (lt_irrefl _)
    · rw [others d (Ne.symm different)] at hd
      exact absurd (below d _ hd) (lt_irrefl _)

theorem Answered.kept (sound : Sound requests client) (step : Step codec requests client after)
    {c : Fin n} {guard : ℕ} (before : guardOf (client.calls c) = some guard)
    (still : guardOf (after.calls c) = some guard) (answered : Answered client.registry guard) :
    Answered after.registry guard := by
  obtain ⟨old, shown, nonempty⟩ := answered
  obtain ⟨receiver, found, same⟩ := sound.kept (change_of_step step) before still
  obtain rfl := same old shown nonempty
  exact ⟨receiver, by rw [receiverAt, found]; rfl, nonempty⟩

theorem Sound.answered (sound : Sound requests client) {c : Fin n} {guard : ℕ}
    (holds : guardOf (client.calls c) = some guard)
    (gone : ∀ expectation, listening client.registry (requests c).requestId ≠
      some (guard, expectation)) : Answered client.registry guard := by
  obtain ⟨receiver, found⟩ := sound.held c guard holds
  refine ⟨receiver, by rw [receiverAt, found]; rfl, ?_⟩
  rintro rfl
  obtain ⟨expectation, live⟩ := sound.linked.live guard _ found
  exact gone expectation live

end Steps

end BusClientGuards
