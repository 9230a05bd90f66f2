import Hexeract.RabbitmqDelivery

/-! # The consumer worker

One dispatch decodes a delivery, verifies it, calls the handler and settles. Broker
operations are answered by a record of outcomes and listed in the order in which they are
made; no dispatch makes the same kind of operation twice. -/
namespace RabbitmqWorker

open LibraryCollections LibraryFramedBytes StdTime BusErrors BusEnvelope BusEnvelopeCanonical
open BusEnvelopeSecurity RabbitmqMetadata RabbitmqDelivery

variable {SigningKey VerifyingKey Signature : Type}

inductive PublisherAuthentication where
  | notEnforced
  | waivedUnsigned
  | authenticated (issuer : String)
  deriving DecidableEq, Repr

inductive AckMode where
  | manual
  | ackOnReceive
  | unacknowledged
  deriving DecidableEq, Repr

inductive DeliveryDisposition where
  | settled
  | leftForRedelivery
  deriving DecidableEq, Repr

structure Returned where
  replyText : String
  replyCode : UInt16

inductive Confirmation where
  | ack (returned : Option Returned)
  | nack (returned : Option Returned)
  | notRequested

inductive WorkerAction where
  | handle (envelope : Envelope) (authentication : PublisherAuthentication)
  | publish (publication : Publication)
  | ack
  | nack (requeue : Bool)

/-- How the broker answers each operation; a failure carries the client's error text. -/
structure Broker where
  publish : Publication → Except String Confirmation
  ack : Except String Unit
  nack : Bool → Except String Unit

inductive HandlerResult where
  | returned (outcome : Except BusError Unit)
  | panicked (message : String)

structure WorkerConfig (VerifyingKey : Type) where
  ackMode : AckMode
  maxAttempts : UInt32
  maxPayloadBytes : ℕ
  metadataLimits : AmqpMetadataLimits
  envelopeSecurity : Option (EnvelopeVerifier VerifyingKey)
  deadLetterRoutingKey : Option String

structure Worker (VerifyingKey : Type) where
  queue : String
  config : WorkerConfig VerifyingKey
  handlers : String → Option (Envelope → PublisherAuthentication → HandlerResult)

/-- What one dispatch reads from outside: clocks, minted identifiers and the broker. -/
structure Surroundings where
  uuid : UuidText
  minted : Minted
  clock : ℕ
  refresh : RefreshState
  broker : Broker

abbrev Traced := DeliveryDisposition × List WorkerAction

def DeliveryDisposition.fromSettleResult : Except String Unit → DeliveryDisposition
  | .ok _ => .settled
  | .error _ => .leftForRedelivery

def settleWith (action : WorkerAction) (answer : Except String Unit) : Traced :=
  (.fromSettleResult answer, [action])

def confirmationToResult (confirmation : Confirmation) (context routingKey : String) :
    Except BusError Unit :=
  match confirmation with
  | .ack none => .ok ()
  | .ack (some returned) | .nack (some returned) =>
    .error (.unroutable routingKey returned.replyText returned.replyCode)
  | .nack none => .error (.transport (context ++ " nacked by the broker"))
  | .notRequested =>
    .error (.internal (context ++ " completed without publisher confirms enabled"))

def emptyExchange : ShortString := ⟨"", by decide⟩

/-- The mandatory, confirmed and persistent publication of a copy, shared by the retry and
the dead-letter path under their own texts. -/
def publishCopy (broker : Broker) (field context routingKey : String)
    (properties : BasicProperties) (payload : Bytes) :
    Except BusError Unit × List WorkerAction :=
  match RabbitmqMetadata.toShortString routingKey field with
  | .error error => (.error error, [])
  | .ok key =>
    let publication : Publication :=
      ⟨emptyExchange, key, { properties with deliveryMode := some 2 }, payload⟩
    match broker.publish publication with
    | .error error => (.error (.transport error), [.publish publication])
    | .ok confirmation =>
      (confirmationToResult confirmation context routingKey, [.publish publication])

def requeueOnPublishFailure : BusError → Bool
  | .unroutable _ _ _ => false
  | _ => true

/-- Publish, then settle: the original is acked only once the copy is stored. -/
def retryCore (published : Except BusError Unit × List WorkerAction)
    (settleOnPublishFailure : Bool → Traced) (ack : Traced) : Traced :=
  match published.1 with
  | .error error =>
    let settled := settleOnPublishFailure (requeueOnPublishFailure error)
    (settled.1, published.2 ++ settled.2)
  | .ok _ => (ack.1, published.2 ++ ack.2)

def exhaustedCore (deadLetter : Option (Except BusError Unit × List WorkerAction))
    (settleOnPublishFailure : Bool → Traced) (ack : Traced) : Traced :=
  match deadLetter with
  | none => ack
  | some published => retryCore published settleOnPublishFailure ack

def isParseableUuid (uuid : UuidText) (property : Option ShortString) : Bool :=
  property.any fun raw => (uuid.parse raw.asStr).isSome

def propertiesWithEffectiveIdentity (uuid : UuidText) (properties : BasicProperties)
    (envelope : Envelope) : BasicProperties :=
  let copy := if isParseableUuid uuid properties.messageId then properties
    else { properties with
      messageId := some (UuidText.toShortString uuid envelope.messageId) }
  if isParseableUuid uuid properties.correlationId then copy
  else { copy with
    correlationId := some (UuidText.toShortString uuid envelope.correlationId) }

/-- Every descriptive field is kept; the table is emptied and the user is dropped. -/
def propertiesWithoutHeaders (properties : BasicProperties) : BasicProperties :=
  { BasicProperties.default with
    contentType := properties.contentType
    contentEncoding := properties.contentEncoding
    deliveryMode := properties.deliveryMode
    priority := properties.priority
    correlationId := properties.correlationId
    replyTo := properties.replyTo
    expiration := properties.expiration
    messageId := properties.messageId
    timestamp := properties.timestamp
    kind := properties.kind
    appId := properties.appId
    clusterId := properties.clusterId
    headers := some ∅ }

def retryQueueSuffix : String := ".retry"

def waitQueueName (queue : String) : String := queue ++ retryQueueSuffix

def fieldOf : List (ShortString × AMQPValue) → String → Option AMQPValue
  | [], _ => none
  | field :: rest, key => if field.1.asStr = key then some field.2 else fieldOf rest key

def isLongString (value : Option AMQPValue) (text : Bytes) : Bool :=
  match value with
  | some (.longString bytes) => bytes == text
  | _ => false

/-- An entry of the death history for this queue and the reason expired. -/
def isExpiredIn (waitQueue : String) (fields : List (ShortString × AMQPValue)) : Bool :=
  isLongString (fieldOf fields "queue") (utf8 waitQueue) &&
    isLongString (fieldOf fields "reason") (utf8 "expired")

def u32Max : ℕ := 2 ^ 32 - 1

/-- A negative count reads as zero and a huge one as the largest count. -/
def clampCount (count : Int64) : ℕ := min (max count.toInt 0).toNat u32Max

def deathCountIn (waitQueue : String) : List AMQPValue → ℕ
  | [] => 0
  | .fieldTable fields :: rest =>
    match isExpiredIn waitQueue fields, fieldOf fields "count" with
    | true, some (.longLongInt count) => clampCount count
    | _, _ => deathCountIn waitQueue rest
  | _ :: rest => deathCountIn waitQueue rest

def deathHeader : ShortString := ⟨"x-death", by decide⟩

def deathCount (properties : BasicProperties) (waitQueue : String) : ℕ :=
  match properties.headers with
  | none => 0
  | some table =>
    match table.lookup deathHeader with
    | some (.fieldArray deaths) => deathCountIn waitQueue deaths
    | _ => 0

inductive FailureRoute where
  | retry
  | deadLetter (attempts : ℕ)
  deriving DecidableEq, Repr

def routeFailure (error : BusError) (attempt maxAttempts : ℕ) : FailureRoute :=
  if error.isPermanentDeliveryFailure then .deadLetter 0
  else if attempt < maxAttempts then .retry
  else .deadLetter attempt

def allowsUnauthenticatedEnvelopes : VerificationPolicy → Bool
  | .required => false
  | .allowInsecureUnauthenticatedEnvelopes => true

def deriveRequiredEnvelopeFields (security : Option (EnvelopeVerifier VerifyingKey)) :
    RequiredEnvelopeFields :=
  match security with
  | none => .lenient
  | some verifier =>
    if allowsUnauthenticatedEnvelopes verifier.config.policy then .lenient else .strict

def authenticationFromVerification (security : Option (EnvelopeVerifier VerifyingKey))
    (principal : Option VerifiedPrincipal) : PublisherAuthentication :=
  match security, principal with
  | _, some principal => .authenticated principal.issuer.asStr
  | some _, none => .waivedUnsigned
  | none, none => .notEnforced

/-- The identity of the publisher, established before anything is settled. -/
def establishIdentity (P : Primitives SigningKey VerifyingKey Signature)
    (security : Option (EnvelopeVerifier VerifyingKey)) (clock : ℕ) (refresh : RefreshState)
    (envelope : Envelope) (destination : String) (observedUserId : Option String) :
    Except EnvelopeSecurityError (Option VerifiedPrincipal) × RefreshState :=
  let verified : Except EnvelopeSecurityError (Option VerifiedPrincipal) × RefreshState :=
    match security with
    | none => (.ok none, refresh)
    | some verifier => verifier.verify P clock refresh envelope destination
  match verified.1, observedUserId with
  | .ok (some principal), some userId =>
    if principal.issuer.asStr = userId then verified
    else (.error .brokerUserMismatch, verified.2)
  | _, _ => verified

/-- `ack` and `reject` are the settlements the caller would make, with their traces. -/
def verifyBeforeSettlement (P : Primitives SigningKey VerifyingKey Signature)
    (security : Option (EnvelopeVerifier VerifyingKey)) (clock : ℕ) (refresh : RefreshState)
    (envelope : Envelope) (destination : String) (observedUserId : Option String)
    (ackOnReceive : Bool) (ack : Traced) (reject : EnvelopeSecurityError → Traced) :
    Except Traced (Option VerifiedPrincipal × List WorkerAction) × RefreshState :=
  let (identity, refresh) := establishIdentity P security clock refresh envelope destination
    observedUserId
  match identity with
  | .error error => (.error (reject error), refresh)
  | .ok principal =>
    if ackOnReceive then
      match ack with
      | (.settled, acked) => (.ok (principal, acked), refresh)
      | stopped => (.error stopped, refresh)
    else (.ok (principal, []), refresh)

section Settlement

variable {P : Primitives SigningKey VerifyingKey Signature}
  {security : Option (EnvelopeVerifier VerifyingKey)} {clock : ℕ} {refresh : RefreshState}
  {envelope : Envelope} {destination : String} {observedUserId : Option String}
  {ackOnReceive : Bool} {ack : Traced} {reject : EnvelopeSecurityError → Traced}

theorem verifyBeforeSettlement_ok {principal : Option VerifiedPrincipal}
    {acked : List WorkerAction}
    (h : (verifyBeforeSettlement P security clock refresh envelope destination observedUserId
      ackOnReceive ack reject).1 = .ok (principal, acked)) :
    (establishIdentity P security clock refresh envelope destination observedUserId).1 =
      .ok principal ∧ (acked = [] ∨ acked = ack.2) := by
  unfold verifyBeforeSettlement at h
  dsimp only at h
  split at h
  · cases h
  · rename_i found hfound
    rcases ack with ⟨disposition, actions⟩
    cases ackOnReceive <;> cases disposition <;> simp at h
    all_goals
      obtain ⟨rfl, rfl⟩ := h
      exact ⟨hfound, by simp⟩

theorem verifyBeforeSettlement_error {settled : Traced}
    (h : (verifyBeforeSettlement P security clock refresh envelope destination observedUserId
      ackOnReceive ack reject).1 = .error settled) :
    (∃ error, (establishIdentity P security clock refresh envelope destination
      observedUserId).1 = .error error ∧ settled = reject error) ∨ settled = ack := by
  unfold verifyBeforeSettlement at h
  dsimp only at h
  split at h
  · rename_i error herror
    exact Or.inl ⟨error, herror, (Except.error.inj h).symm⟩
  · rcases ack with ⟨disposition, actions⟩
    cases ackOnReceive <;> cases disposition <;> simp at h
    exact Or.inr h.symm

end Settlement

section Dispatch

variable (worker : Worker VerifyingKey) (around : Surroundings) (delivery : Delivery)

def nackAfterFailedPublish (requeue : Bool) : Traced :=
  settleWith (.nack requeue) (around.broker.nack requeue)

def publishDeadLetter (properties : BasicProperties) (payload : Bytes) (routingKey : String) :
    Except BusError Unit × List WorkerAction :=
  publishCopy around.broker "dead-letter routing key" "dead-letter publish" routingKey
    properties payload

def publishToWaitQueue (envelope : Envelope) (waitQueue : String) :
    Except BusError Unit × List WorkerAction :=
  publishCopy around.broker "wait queue name" "retry publish" waitQueue
    (propertiesWithEffectiveIdentity around.uuid delivery.properties envelope) delivery.data

def poisonSettlesWithNack (ackMode : AckMode) (hasDeadLetter : Bool) : Bool :=
  ackMode == .manual && !hasDeadLetter

def handlePoison (error : BusError) : Traced :=
  let properties := if needsSanitizedQuarantine error then
    propertiesWithoutHeaders delivery.properties else delivery.properties
  let deadLetter := worker.config.deadLetterRoutingKey.map
    (publishDeadLetter around properties delivery.data)
  match worker.config.ackMode with
  | .unacknowledged => (.settled, (deadLetter.map Prod.snd).getD [])
  | ackMode =>
    exhaustedCore deadLetter (nackAfterFailedPublish around)
      (if poisonSettlesWithNack ackMode worker.config.deadLetterRoutingKey.isSome then
        settleWith (.nack false) (around.broker.nack false)
      else settleWith .ack around.broker.ack)

def handleExhausted (envelope : Envelope) : Traced :=
  exhaustedCore
    (worker.config.deadLetterRoutingKey.map
      (publishDeadLetter around delivery.properties envelope.payload))
    (nackAfterFailedPublish around) (settleWith .ack around.broker.ack)

def scheduleRetry (envelope : Envelope) (waitQueue : String) : Traced :=
  retryCore (publishToWaitQueue around delivery envelope waitQueue)
    (nackAfterFailedPublish around) (settleWith .ack around.broker.ack)

def currentAttempt : ℕ :=
  min (deathCount delivery.properties (waitQueueName worker.queue) + 1) u32Max

def handleManualOutcome (envelope : Envelope) (outcome : Except BusError Unit) : Traced :=
  match outcome with
  | .ok _ => settleWith .ack around.broker.ack
  | .error error =>
    match routeFailure error (currentAttempt worker delivery) worker.config.maxAttempts.toNat with
    | .retry => scheduleRetry around delivery envelope (waitQueueName worker.queue)
    | .deadLetter _ => handleExhausted worker around delivery envelope

/-- What the handler's result amounts to, a panic being a delivery failure. -/
def handlerOutcome (envelope : Envelope) (authentication : PublisherAuthentication) :
    Except BusError Unit × List WorkerAction :=
  match worker.handlers envelope.messageType with
  | none => (.error (.missingHandler envelope.messageType), [])
  | some handler =>
    match handler envelope authentication with
    | .returned outcome => (outcome, [.handle envelope authentication])
    | .panicked message =>
      (.error (.internal ("handler panicked: " ++ message)), [.handle envelope authentication])

def runHandler (envelope : Envelope) (authentication : PublisherAuthentication) : Traced :=
  let (outcome, handled) := handlerOutcome worker envelope authentication
  match worker.config.ackMode with
  | .manual =>
    let settled := handleManualOutcome worker around delivery envelope outcome
    (settled.1, handled ++ settled.2)
  | _ => (.settled, handled)

def decodeDelivery : Except BusError Envelope :=
  deliveryToEnvelope around.uuid around.minted delivery.properties delivery.data
    worker.config.maxPayloadBytes worker.config.metadataLimits
    (deriveRequiredEnvelopeFields worker.config.envelopeSecurity)

def dispatch (P : Primitives SigningKey VerifyingKey Signature) : Traced × RefreshState :=
  match decodeDelivery worker around delivery with
  | .error error => (handlePoison worker around delivery error, around.refresh)
  | .ok envelope =>
    let (verification, refresh) := verifyBeforeSettlement P worker.config.envelopeSecurity
      around.clock around.refresh envelope delivery.routingKey.asStr
      (delivery.properties.userId.map ShortString.asStr) (worker.config.ackMode == .ackOnReceive)
      (settleWith .ack around.broker.ack)
      fun error => handlePoison worker around delivery (.envelopeSecurity error)
    match verification with
    | .error settled => (settled, refresh)
    | .ok (principal, acked) =>
      let authentication := authenticationFromVerification worker.config.envelopeSecurity principal
      let handled := runHandler worker around delivery envelope authentication
      ((handled.1, acked ++ handled.2), refresh)

end Dispatch

end RabbitmqWorker
