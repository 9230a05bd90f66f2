import Hexeract.RabbitmqRetryBudget

/-! # Identity of a message across retries

An identifier the producer left out, or wrote in a form that does not parse, is minted by
the worker. The retry copy carries it in the property it was missing from, so the next
attempt reads it back; a property that parses is left in the producer's own spelling. -/
namespace RabbitmqRetryIdentity

open LibraryCollections BusErrors BusEnvelope BusEnvelopeSecurity RabbitmqMetadata
open RabbitmqDelivery RabbitmqWorker RabbitmqVerification RabbitmqWorkerRetry RabbitmqRetryBudget

variable {SigningKey VerifyingKey Signature : Type}

def heldIn (uuid : UuidText) (property : Option ShortString) : Option Uuid :=
  property.bind fun raw => uuid.parse raw.asStr

theorem isParseableUuid_eq (uuid : UuidText) (property : Option ShortString) :
    isParseableUuid uuid property = (heldIn uuid property).isSome := by
  cases property <;> rfl

theorem identifierFrom_held {uuid : UuidText} {property : Option ShortString} {id : Uuid}
    (held : heldIn uuid property = some id) (strict : Bool) (field : String) (fresh : Uuid) :
    identifierFrom uuid strict field property fresh = .ok id := by
  obtain ⟨raw, rfl, parsed⟩ := Option.bind_eq_some_iff.mp held
  simp only [identifierFrom, parsed]

def effective (uuid : UuidText) (property : Option ShortString) (id : Uuid) :
    Option ShortString :=
  if isParseableUuid uuid property then property else some (UuidText.toShortString uuid id)

theorem propertiesWithEffectiveIdentity_eq (uuid : UuidText) (properties : BasicProperties)
    (envelope : Envelope) :
    propertiesWithEffectiveIdentity uuid properties envelope =
      { properties with
        messageId := effective uuid properties.messageId envelope.messageId
        correlationId := effective uuid properties.correlationId envelope.correlationId } := by
  unfold propertiesWithEffectiveIdentity effective
  cases isParseableUuid uuid properties.messageId <;>
    cases isParseableUuid uuid properties.correlationId <;> rfl

theorem heldIn_effective {uuid : UuidText} {strict : Bool} {field : String}
    {property : Option ShortString} {fresh id : Uuid}
    (decoded : identifierFrom uuid strict field property fresh = .ok id) :
    heldIn uuid (effective uuid property id) = some id := by
  unfold effective
  rw [isParseableUuid_eq]
  cases held : heldIn uuid property with
  | none => exact uuid.parse_render id
  | some found =>
    rw [identifierFrom_held held] at decoded
    cases decoded
    exact held

/-- Both identifiers of an envelope stand in the properties of a delivery. -/
structure Identifies (uuid : UuidText) (properties : BasicProperties) (e : Envelope) : Prop where
  messageId : heldIn uuid properties.messageId = some e.messageId
  correlationId : heldIn uuid properties.correlationId = some e.correlationId

section Attempt

variable {P : Primitives SigningKey VerifyingKey Signature} {worker : Worker VerifyingKey}
  {around : Surroundings} {d : Delivery}

theorem decodeDelivery_decoded {e : Envelope} (decoded : decodeDelivery worker around d = .ok e) :
    ∃ strict, Decoded around.uuid around.minted d.properties d.data worker.config.metadataLimits
      strict e :=
  ⟨_, (deliveryToEnvelope_ok.mp decoded).2⟩

theorem decoded_of_identifies {e later : Envelope} (held : Identifies around.uuid d.properties e)
    (decoded : decodeDelivery worker around d = .ok later) :
    later.messageId = e.messageId ∧ later.correlationId = e.correlationId := by
  obtain ⟨strict, decoded⟩ := decodeDelivery_decoded decoded
  have messageId := decoded.messageId
  have correlationId := decoded.correlationId
  rw [identifierFrom_held held.messageId] at messageId
  rw [identifierFrom_held held.correlationId] at correlationId
  exact ⟨(Except.ok.inj messageId).symm, (Except.ok.inj correlationId).symm⟩

theorem retryCopy_decoded {copy : Publication}
    (retried : retryCopy P worker around d = some copy) :
    ∃ e, decodeDelivery worker around d = .ok e ∧ copy.properties = { d.properties with
      messageId := effective around.uuid d.properties.messageId e.messageId
      correlationId := effective around.uuid d.properties.correlationId e.correlationId
      deliveryMode := some 2 } := by
  obtain ⟨_, _, e, _, handed, properties, _⟩ := retryCopy_some P worker around d retried
  obtain ⟨_, principal, verified, _⟩ := (handedTo_some P worker around d).mp handed
  refine ⟨e, ((verdict_ok P worker around d).mp verified).1, ?_⟩
  rw [properties, propertiesWithEffectiveIdentity_eq]

theorem identifies_redelivered (declared : Declared worker) (firstDeath : FirstDeath)
    {copy : Publication} (retried : retryCopy P worker around d = some copy) :
    ∃ e, decodeDelivery worker around d = .ok e ∧
      Identifies around.uuid (redelivered worker declared firstDeath copy).properties e := by
  obtain ⟨e, decoded, properties⟩ := retryCopy_decoded retried
  obtain ⟨strict, fields⟩ := decodeDelivery_decoded decoded
  refine ⟨e, decoded, ?_, ?_⟩
  · rw [redelivered, properties]
    exact heldIn_effective fields.messageId
  · rw [redelivered, properties]
    exact heldIn_effective fields.correlationId

end Attempt

section Run

variable (P : Primitives SigningKey VerifyingKey Signature) {worker : Worker VerifyingKey}
  (declared : Declared worker) (around : ℕ → Surroundings) (passes : ℕ → FirstDeath)
  (delivery : Delivery)

/-- Every copy of the run holds the identifiers of the first attempt. -/
theorem identifies_copyAt {uuid : UuidText} (parser : ∀ j, (around j).uuid = uuid) {j : ℕ}
    {d : Delivery} (found : copyAt P worker declared around passes delivery (j + 1) = some d) :
    ∃ first, decodeDelivery worker (around 0) delivery = .ok first ∧
      Identifies uuid d.properties first := by
  induction j generalizing d with
  | zero =>
    obtain ⟨_, copy, ⟨⟩, retried, rfl⟩ :=
      copyAt_succ P worker declared around passes delivery found
    rw [← parser 0]
    exact identifies_redelivered declared (passes 0) retried
  | succ j ih =>
    obtain ⟨earlier, copy, hearlier, retried, rfl⟩ :=
      copyAt_succ P worker declared around passes delivery found
    obtain ⟨first, decoded, held⟩ := ih hearlier
    obtain ⟨e, again, holds⟩ := identifies_redelivered declared (passes (j + 1)) retried
    rw [← parser (j + 1)] at held
    obtain ⟨messageId, correlationId⟩ := decoded_of_identifies held again
    rw [parser] at holds
    exact ⟨first, decoded, messageId ▸ holds.messageId, correlationId ▸ holds.correlationId⟩

/-- Every attempt decodes the identifiers of the first, and a retry copy differs from the
delivery it copies in the two identifiers and the forced persistent mode only. Nothing is
assumed of the policy or of a signature. -/
theorem retries_keep_identity {uuid : UuidText} (parser : ∀ j, (around j).uuid = uuid) :
    (∀ j d first later, copyAt P worker declared around passes delivery j = some d →
      decodeDelivery worker (around 0) delivery = .ok first →
      decodeDelivery worker (around j) d = .ok later →
        later.messageId = first.messageId ∧ later.correlationId = first.correlationId) ∧
    ∀ j d copy, copyAt P worker declared around passes delivery j = some d →
      retryCopy P worker (around j) d = some copy →
        copy.properties = { d.properties with
          messageId := copy.properties.messageId
          correlationId := copy.properties.correlationId
          deliveryMode := some 2 } := by
  constructor
  · intro j d first later found atFirst decoded
    cases j with
    | zero =>
      cases found
      rw [atFirst] at decoded
      cases decoded
      exact ⟨rfl, rfl⟩
    | succ j =>
      obtain ⟨e, again, held⟩ :=
        identifies_copyAt P declared around passes delivery parser found
      rw [atFirst] at again
      cases again
      rw [← parser (j + 1)] at held
      exact decoded_of_identifies held decoded
  · intro j d copy _ retried
    obtain ⟨e, _, properties⟩ := retryCopy_decoded retried
    rw [properties]

end Run

/-- Each attempt would mint identifiers of its own. -/
def mintingSurroundings (j : ℕ) : Surroundings :=
  { sampleSurroundings with
    minted := { sampleSurroundings.minted with
      messageId := .fromU128 (100 + j)
      correlationId := .fromU128 (200 + j) } }

/-- A delivery without a message id, and with a correlation id that is no identifier. -/
def anonymousDelivery : Delivery where
  routingKey := (forgedDelivery 0).routingKey
  properties := { BasicProperties.default with
    correlationId := some ⟨"order-7", by decide⟩
    kind := (forgedDelivery 0).properties.kind }
  data := [1]

theorem retries_keep_identity_sample : ∃ d first later,
    copyAt samplePrimitives failingWorker failingWorker_declared mintingSurroundings
      (fun _ => noFirstDeath) anonymousDelivery 1 = some d ∧
    decodeDelivery failingWorker (mintingSurroundings 0) anonymousDelivery = .ok first ∧
    decodeDelivery failingWorker (mintingSurroundings 1) d = .ok later ∧
    first.messageId = .fromU128 100 ∧ first.correlationId = .fromU128 200 ∧
    later.messageId = first.messageId ∧ later.correlationId = first.correlationId := by
  have copied : ((copyAt samplePrimitives failingWorker failingWorker_declared
      mintingSurroundings (fun _ => noFirstDeath) anonymousDelivery 1).map fun d =>
        (decodeDelivery failingWorker (mintingSurroundings 1) d).isOk) = some true := by
    decide +kernel
  have started : (decodeDelivery failingWorker (mintingSurroundings 0) anonymousDelivery).map
      (fun e => (e.messageId, e.correlationId)) = .ok (.fromU128 100, .fromU128 200) := by
    decide +kernel
  obtain ⟨d, found, decodes⟩ := Option.map_eq_some_iff.mp copied
  obtain ⟨later, decoded⟩ := exists_of_isOk decodes
  obtain ⟨first, atFirst, ids⟩ := map_ok.mp started
  obtain ⟨messageId, correlationId⟩ := Prod.mk.inj ids
  exact ⟨d, first, later, found, atFirst, decoded, messageId, correlationId,
    (retries_keep_identity samplePrimitives failingWorker_declared mintingSurroundings
      (fun _ => noFirstDeath) anonymousDelivery fun _ => rfl).1 1 d first later found atFirst
      decoded⟩

end RabbitmqRetryIdentity
