import Hexeract.RabbitmqWorker
import Hexeract.RabbitmqEnvelopeRoundTrip

/-! # What a verified delivery proves

A delivery is attacker-controlled in every byte. If a principal comes out of it, the owner
of the principal's key made a signing call for the same content, destination and audience,
and a handler hears of a publisher only on that ground. -/
namespace RabbitmqVerification

open LibraryCollections LibraryFramedBytes StdTime BusErrors BusEnvelope BusEnvelopeCanonical
open BusEnvelopeSecurity RabbitmqMetadata RabbitmqDelivery RabbitmqWorker

variable {SigningKey VerifyingKey Signature : Type}

structure SigningCall (SigningKey : Type) where
  signer : EnvelopeSigner SigningKey
  envelope : Envelope
  context : SigningContext
  keyId : KeyId
  key : SigningKey
  current : signer.currentSigningKey = .ok (keyId, key)

def SigningCall.binding (call : SigningCall SigningKey) : CanonicalBinding :=
  call.signer.binding call.context call.keyId

/-- A signature verifies only on bytes the key owner signed. What the owner signs outside
this protocol does not start with its domain. -/
structure IdealSignatures (P : Primitives SigningKey VerifyingKey Signature)
    (calls : Set (SigningCall SigningKey)) (foreign : VerifyingKey → Bytes → Prop) : Prop where
  verified : ∀ key message signature, P.verify key message signature = true →
    foreign key message ∨ ∃ call ∈ calls, P.verifyingKey call.key = key ∧
      canonicalRepresentation P.sha256 call.envelope call.binding = .ok message
  separated : ∀ key message, foreign key message →
    ¬ (frame (utf8 canonicalDomain)).IsPrefix message

/-- The signing call behind a principal, seen from the decoded envelope. -/
structure SignedFor (P : Primitives SigningKey VerifyingKey Signature)
    (verifier : EnvelopeVerifier VerifyingKey) (decoded : Envelope) (destination : String)
    (principal : VerifiedPrincipal) (call : SigningCall SigningKey) : Prop where
  owner : verifier.verificationKey principal.issuer principal.keyId =
    .ok (P.verifyingKey call.key)
  issuer : call.signer.issuer = principal.issuer
  keyId : call.keyId = principal.keyId
  algorithm : call.binding.algorithm = principal.algorithm
  destination : call.context.destination = destination
  audience : call.context.audience = principal.audience
  accepted : principal.audience ∈ verifier.config.acceptedAudiences
  covered : SameCovered call.envelope decoded
  maps : RespectsNamespace call.envelope → SameSigned call.envelope decoded

theorem starts_with_canonicalDomain {sha256 : Bytes → Bytes} {e : Envelope} {b : CanonicalBinding}
    {out : Bytes} (h : canonicalRepresentation sha256 e b = .ok out) :
    (frame (utf8 canonicalDomain)).IsPrefix out := by
  obtain ⟨since, _, _, rfl⟩ := canonicalRepresentation_ok.mp h
  simp only [signedFields, SignedFields.encode, List.flatMap_cons, List.append_assoc]
  exact List.prefix_append _ _

section Ideal

variable {P : Primitives SigningKey VerifyingKey Signature} (inj : Function.Injective P.sha256)
  {calls : Set (SigningCall SigningKey)} {foreign : VerifyingKey → Bytes → Prop}
  (ideal : IdealSignatures P calls foreign)

include inj ideal

theorem signedFor_of_verify {verifier : EnvelopeVerifier VerifyingKey} {clock : ℕ}
    {refresh : RefreshState} {decoded : Envelope} (namespaces : RespectsNamespace decoded)
    {destination : String} {principal : VerifiedPrincipal}
    (h : (verifier.verify P clock refresh decoded destination).1 = .ok (some principal)) :
    ∃ call ∈ calls, SignedFor P verifier decoded destination principal call := by
  obtain ⟨b, raw, signature, key, message, rfl, rfl, v⟩ := (verify_some P).mp h
  rcases ideal.verified key message signature v.verifies with
    outside | ⟨call, hcall, hkey, hmessage⟩
  · exact absurd (starts_with_canonicalDomain v.represented) (ideal.separated key message outside)
  · obtain ⟨covered, rfl⟩ := covered_of_equal_bytes inj hmessage v.represented
    exact ⟨call, hcall, ⟨hkey ▸ v.known, rfl, rfl, rfl, rfl, rfl, v.accepted, covered,
      fun signed => covered.signed signed namespaces⟩⟩

end Ideal

/-- The actions of a trace that is made without calling a handler. -/
def HandleFree (actions : List WorkerAction) : Prop :=
  ∀ envelope authentication, WorkerAction.handle envelope authentication ∉ actions

theorem HandleFree.append {l k : List WorkerAction} (hl : HandleFree l) (hk : HandleFree k) :
    HandleFree (l ++ k) := by
  intro envelope authentication h
  rcases List.mem_append.mp h with h | h
  · exact hl _ _ h
  · exact hk _ _ h

theorem handleFree_settleWith {action : WorkerAction} {answer : Except String Unit}
    (h : ∀ envelope authentication, WorkerAction.handle envelope authentication ≠ action) :
    HandleFree (settleWith action answer).2 := by
  intro envelope authentication hmem
  exact h envelope authentication (List.mem_singleton.mp hmem)

theorem handleFree_publishCopy (broker : Broker) (field context routingKey : String)
    (properties : BasicProperties) (payload : Bytes) :
    HandleFree (publishCopy broker field context routingKey properties payload).2 := by
  intro envelope authentication
  unfold publishCopy
  split
  · simp
  · dsimp only
    split <;> simp

theorem handleFree_retryCore {published : Except BusError Unit × List WorkerAction}
    {settle : Bool → Traced} {ack : Traced} (hp : HandleFree published.2)
    (hs : ∀ requeue, HandleFree (settle requeue).2) (ha : HandleFree ack.2) :
    HandleFree (retryCore published settle ack).2 := by
  unfold retryCore
  split
  · exact hp.append (hs _)
  · exact hp.append ha

theorem handleFree_exhaustedCore {deadLetter : Option (Except BusError Unit × List WorkerAction)}
    {settle : Bool → Traced} {ack : Traced} (hp : ∀ published ∈ deadLetter, HandleFree published.2)
    (hs : ∀ requeue, HandleFree (settle requeue).2) (ha : HandleFree ack.2) :
    HandleFree (exhaustedCore deadLetter settle ack).2 := by
  cases deadLetter with
  | none => exact ha
  | some published => exact handleFree_retryCore (hp published rfl) hs ha

section Dispatch

variable (worker : Worker VerifyingKey) (around : Surroundings) (delivery : Delivery)

theorem handleFree_deadLetter (properties : BasicProperties) (payload : Bytes) :
    ∀ published ∈ worker.config.deadLetterRoutingKey.map
      (publishDeadLetter around properties payload), HandleFree published.2 := by
  intro published hmem
  obtain ⟨key, _, rfl⟩ := Option.map_eq_some_iff.mp hmem
  exact handleFree_publishCopy _ _ _ _ _ _

theorem handleFree_ack : HandleFree (settleWith .ack around.broker.ack).2 :=
  handleFree_settleWith (by simp)

theorem handleFree_nack (requeue : Bool) : HandleFree (nackAfterFailedPublish around requeue).2 :=
  handleFree_settleWith (by simp)

theorem handleFree_handlePoison (error : BusError) :
    HandleFree (handlePoison worker around delivery error).2 := by
  have copies := handleFree_deadLetter worker around
    (if needsSanitizedQuarantine error then propertiesWithoutHeaders delivery.properties
      else delivery.properties) delivery.data
  unfold handlePoison
  dsimp only
  split
  · cases hcopy : worker.config.deadLetterRoutingKey with
    | none =>
      intro envelope authentication
      simp
    | some key =>
      rw [hcopy] at copies
      exact copies _ rfl
  · apply handleFree_exhaustedCore copies (handleFree_nack around)
    split
    · exact handleFree_settleWith (by simp)
    · exact handleFree_ack around

theorem handleFree_handleManualOutcome (envelope : Envelope) (outcome : Except BusError Unit) :
    HandleFree (handleManualOutcome worker around delivery envelope outcome).2 := by
  unfold handleManualOutcome
  split
  · exact handleFree_ack around
  · split
    · exact handleFree_retryCore (handleFree_publishCopy _ _ _ _ _ _) (handleFree_nack around)
        (handleFree_ack around)
    · exact handleFree_exhaustedCore (handleFree_deadLetter worker around _ _)
        (handleFree_nack around) (handleFree_ack around)

theorem handle_mem_runHandler {envelope e : Envelope} {given a : PublisherAuthentication}
    (h : .handle e a ∈ (runHandler worker around delivery envelope given).2) :
    e = envelope ∧ a = given ∧ (worker.handlers e.messageType).isSome = true := by
  have handled : .handle e a ∈ (handlerOutcome worker envelope given).2 := by
    unfold runHandler at h
    dsimp only at h
    split at h
    · rcases List.mem_append.mp h with h | h
      · exact h
      · exact absurd h (handleFree_handleManualOutcome worker around delivery _ _ e a)
    · exact h
  unfold handlerOutcome at handled
  split at handled
  · simp at handled
  · rename_i handler registered
    obtain ⟨rfl, rfl⟩ : e = envelope ∧ a = given := by
      split at handled <;> simpa using handled
    exact ⟨rfl, rfl, by rw [registered]; rfl⟩

theorem establishIdentity_some {P : Primitives SigningKey VerifyingKey Signature}
    {security : Option (EnvelopeVerifier VerifyingKey)} {clock : ℕ} {refresh : RefreshState}
    {envelope : Envelope} {destination : String} {userId : Option String}
    {principal : VerifiedPrincipal} :
    (establishIdentity P security clock refresh envelope destination userId).1 =
        .ok (some principal) ↔
      (∀ user ∈ userId, principal.issuer.asStr = user) ∧ ∃ verifier, security = some verifier ∧
        (verifier.verify P clock refresh envelope destination).1 = .ok (some principal) := by
  cases security with
  | none =>
    have refused : (establishIdentity P none clock refresh envelope destination userId).1 =
        .ok none := by
      cases userId <;> rfl
    simp [refused]
  | some verifier =>
    simp only [Option.some.injEq, exists_eq_left']
    unfold establishIdentity
    dsimp only
    cases userId with
    | none => simp
    | some user =>
      simp only [Option.mem_some_iff, forall_eq']
      split
      · rename_i found _ hverified hfound
        cases hfound
        rw [hverified]
        split
        · rename_i same
          simp only [hverified, Except.ok.injEq, Option.some.injEq]
          constructor
          · rintro rfl
            exact ⟨same, rfl⟩
          · exact fun h => h.2
        · rename_i other
          simp only [reduceCtorEq, Except.ok.injEq, Option.some.injEq, false_iff, not_and]
          rintro same rfl
          exact other same
      · rename_i _ _ other
        constructor
        · intro h
          exact absurd rfl (other principal user h)
        · exact fun h => h.2

theorem handle_mem_dispatch {P : Primitives SigningKey VerifyingKey Signature} {e : Envelope}
    {a : PublisherAuthentication} (h : .handle e a ∈ (dispatch worker around delivery P).1.2) :
    decodeDelivery worker around delivery = .ok e ∧
      (worker.handlers e.messageType).isSome = true ∧ ∃ principal,
      (establishIdentity P worker.config.envelopeSecurity around.clock around.refresh e
        delivery.routingKey.asStr (delivery.properties.userId.map ShortString.asStr)).1 =
          .ok principal ∧
      a = authenticationFromVerification worker.config.envelopeSecurity principal := by
  unfold dispatch at h
  cases hdecoded : decodeDelivery worker around delivery with
  | error error =>
    rw [hdecoded] at h
    exact absurd h (handleFree_handlePoison worker around delivery error e a)
  | ok envelope =>
    rw [hdecoded] at h
    dsimp only at h
    split at h
    · rename_i settled hverification
      rcases verifyBeforeSettlement_error hverification with ⟨error, _, rfl⟩ | rfl
      · exact absurd h (handleFree_handlePoison worker around delivery _ e a)
      · exact absurd h (handleFree_ack around e a)
    · rename_i principal acked hverification
      obtain ⟨identity, hacked⟩ := verifyBeforeSettlement_ok hverification
      rcases List.mem_append.mp h with h | h
      · rcases hacked with rfl | rfl
        · cases h
        · exact absurd h (handleFree_ack around e a)
      · obtain ⟨rfl, rfl, registered⟩ := handle_mem_runHandler worker around delivery h
        exact ⟨rfl, registered, principal, identity, rfl⟩

end Dispatch

theorem decodeDelivery_namespace {worker : Worker VerifyingKey} {around : Surroundings}
    {delivery : Delivery} {e : Envelope} (h : decodeDelivery worker around delivery = .ok e) :
    RespectsNamespace e := by
  obtain ⟨application, protocol⟩ := decodeHeaders_namespace (deliveryToEnvelope_ok.mp h).2.maps
  exact ⟨application, fun key hk => (protocol key hk).1⟩

/-- Whatever a delivery contains, a principal is returned and a handler is told of an
authenticated publisher only if the owner of the key signed this content for the routing
key of the delivery and for an accepted audience. -/
theorem authenticated_delivery_was_signed (P : Primitives SigningKey VerifyingKey Signature)
    (inj : Function.Injective P.sha256) (calls : Set (SigningCall SigningKey))
    (foreign : VerifyingKey → Bytes → Prop) (ideal : IdealSignatures P calls foreign)
    (worker : Worker VerifyingKey) (around : Surroundings) (delivery : Delivery) :
    (∀ verifier envelope principal, decodeDelivery worker around delivery = .ok envelope →
      (verifier.verify P around.clock around.refresh envelope delivery.routingKey.asStr).1 =
        .ok (some principal) →
      ∃ call ∈ calls, SignedFor P verifier envelope delivery.routingKey.asStr principal call) ∧
    (∀ envelope issuer,
      .handle envelope (.authenticated issuer) ∈ (dispatch worker around delivery P).1.2 →
      decodeDelivery worker around delivery = .ok envelope ∧
      ∃ verifier principal, worker.config.envelopeSecurity = some verifier ∧
        principal.issuer.asStr = issuer ∧
        ∃ call ∈ calls,
          SignedFor P verifier envelope delivery.routingKey.asStr principal call) := by
  constructor
  · intro verifier envelope principal decoded verified
    exact signedFor_of_verify inj ideal (decodeDelivery_namespace decoded) verified
  · intro envelope issuer h
    obtain ⟨decoded, _, principal?, identity, told⟩ := handle_mem_dispatch worker around delivery h
    refine ⟨decoded, ?_⟩
    cases principal? with
    | none =>
      cases hsecurity : worker.config.envelopeSecurity <;>
        simp [hsecurity, authenticationFromVerification] at told
    | some principal =>
      obtain ⟨_, verifier, configured, verified⟩ := establishIdentity_some.mp identity
      refine ⟨verifier, principal, configured, ?_, signedFor_of_verify inj ideal
        (decodeDelivery_namespace decoded) verified⟩
      rw [configured] at told
      exact (PublisherAuthentication.authenticated.inj told).symm

open RabbitmqEnvelopeRoundTrip

def sampleCall : SigningCall Unit where
  signer := sampleSecurity.signer
  envelope := sampleEnvelope
  context := ⟨"orders", sampleSecurity.audience⟩
  keyId := sampleBinding.keyId
  key := ()
  current := rfl

/-- A verifier that knows of one signature only, the one that was made. -/
def strictPrimitives : Primitives Unit Bytes Bytes :=
  { samplePrimitives with
    verify := fun key message signature =>
      key == sampleVerifyingKey && message == sampleMessage && signature == sampleSignature }

theorem canonicalRepresentation_sample :
    canonicalRepresentation sampleSha256 sampleEnvelope sampleBinding = .ok sampleMessage := by
  decide +kernel

theorem strictPrimitives_ideal :
    IdealSignatures strictPrimitives {sampleCall} (fun _ _ => False) where
  verified key message signature h := by
    simp only [strictPrimitives, Bool.and_eq_true, beq_iff_eq] at h
    obtain ⟨⟨rfl, rfl⟩, _⟩ := h
    exact Or.inr ⟨sampleCall, rfl, rfl, canonicalRepresentation_sample⟩
  separated _ _ h := h.elim

def sampleBroker : Broker := ⟨fun _ => .ok (.ack none), .ok (), fun _ => .ok ()⟩

def sampleWorker : Worker Bytes where
  queue := "orders"
  config := ⟨.manual, 5, 64, .default, some sampleVerifier, none⟩
  handlers _ := some fun _ _ => .returned (.ok ())

def sampleSurroundings : Surroundings := ⟨.hyphenated, sampleMinted, 0, ⟨none, 0⟩, sampleBroker⟩

def sampleDelivery : Delivery :=
  match sampleTransport.prepare samplePrimitives .hyphenated "orders" sampleEnvelope with
  | .ok publication => ⟨publication.routingKey, publication.properties, publication.payload⟩
  | .error _ => ⟨emptyExchange, .default, []⟩

theorem authenticated_delivery_was_signed_sample :
    ∃ envelope, decodeDelivery sampleWorker sampleSurroundings sampleDelivery = .ok envelope ∧
      (sampleVerifier.verify strictPrimitives 0 ⟨none, 0⟩ envelope "orders").1 =
        .ok (some (CanonicalBinding.principal sampleBinding)) ∧
      ∃ call ∈ ({sampleCall} : Set (SigningCall Unit)), SignedFor strictPrimitives sampleVerifier
        envelope "orders" (CanonicalBinding.principal sampleBinding) call := by
  have verified : (decodeDelivery sampleWorker sampleSurroundings sampleDelivery).map
      (fun e => (sampleVerifier.verify strictPrimitives 0 ⟨none, 0⟩ e "orders").1) =
      .ok (.ok (some (CanonicalBinding.principal sampleBinding))) := by decide +kernel
  obtain ⟨envelope, decoded, verified⟩ := map_ok.mp verified
  have inj : Function.Injective strictPrimitives.sha256 := sampleSha256_injective
  have key : sampleDelivery.routingKey.asStr = "orders" := by decide +kernel
  have signed := (authenticated_delivery_was_signed strictPrimitives inj {sampleCall}
    (fun _ _ => False) strictPrimitives_ideal sampleWorker sampleSurroundings sampleDelivery).1
    sampleVerifier envelope (CanonicalBinding.principal sampleBinding) decoded
  rw [key] at signed
  exact ⟨envelope, decoded, verified, signed verified⟩

end RabbitmqVerification
