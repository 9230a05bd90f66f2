import Hexeract.RabbitmqMetadata

/-! # Envelopes as AMQP properties and back

Minted identifiers and the wall clock are read by the caller and passed in; they are used
only for a field the delivery does not supply. -/
namespace RabbitmqDelivery

open LibraryCollections LibraryFramedBytes StdTime BusErrors BusEnvelope BusEnvelopeCanonical
open BusEnvelopeSecurity RabbitmqMetadata

/-- The protocol properties of a message; `kind` is the property named type on the wire. -/
structure BasicProperties where
  contentType : Option ShortString
  contentEncoding : Option ShortString
  headers : Option FieldTable
  deliveryMode : Option UInt8
  priority : Option UInt8
  correlationId : Option ShortString
  replyTo : Option ShortString
  expiration : Option ShortString
  messageId : Option ShortString
  timestamp : Option UInt64
  kind : Option ShortString
  userId : Option ShortString
  appId : Option ShortString
  clusterId : Option ShortString

def BasicProperties.default : BasicProperties :=
  ⟨none, none, none, none, none, none, none, none, none, none, none, none, none, none⟩

structure Delivery where
  routingKey : ShortString
  properties : BasicProperties
  data : Bytes

def jsonContentType : ShortString := ⟨"application/json", by decide⟩

def UuidText.toShortString (uuid : UuidText) (id : Uuid) : ShortString :=
  ⟨uuid.render id, by rw [uuid.length_render]; decide⟩

/-- Whole seconds since the epoch, zero for an earlier instant. -/
def publishedAtSecs (t : SystemTime) : UInt64 :=
  match t.durationSince unixEpoch with
  | .ok since => since.asSecs
  | .error _ => 0

def envelopeToProperties (uuid : UuidText) (envelope : Envelope) (limits : AmqpMetadataLimits)
    (security : Option SecurityHeaders) (brokerUserId : Option String) :
    Except BusError BasicProperties := do
  let amqpHeaders ← encodeHeaders envelope limits security
  let kind ← RabbitmqMetadata.toShortString envelope.messageType "message type"
  let replyTo ← envelope.replyTo.mapM fun replyTo =>
    RabbitmqMetadata.toShortString replyTo "reply_to"
  let userId ← brokerUserId.mapM fun userId => RabbitmqMetadata.toShortString userId "user id"
  return { BasicProperties.default with
    messageId := some (UuidText.toShortString uuid envelope.messageId)
    correlationId := some (UuidText.toShortString uuid envelope.correlationId)
    contentType := some jsonContentType
    kind := some kind
    deliveryMode := some 2
    timestamp := some (publishedAtSecs envelope.publishedAt)
    headers := some amqpHeaders
    replyTo, userId }

/-- Outbound facade. The issuer it was built with is the signer's. -/
structure OutboundEnvelopeSecurity (SigningKey : Type) where
  signer : EnvelopeSigner SigningKey
  audience : Audience
  bindsIssuerToBrokerUser : Bool

variable {SigningKey VerifyingKey Signature : Type}

def OutboundEnvelopeSecurity.sign (P : Primitives SigningKey VerifyingKey Signature)
    (security : OutboundEnvelopeSecurity SigningKey) (envelope : Envelope)
    (destination : String) : Except EnvelopeSecurityError SecurityHeaders :=
  security.signer.sign P envelope ⟨destination, security.audience⟩

def OutboundEnvelopeSecurity.brokerUserId (security : OutboundEnvelopeSecurity SigningKey) :
    Option String :=
  if security.bindsIssuerToBrokerUser then some security.signer.issuer.asStr else none

structure RabbitMqTransport (SigningKey : Type) where
  exchange : String
  metadataLimits : AmqpMetadataLimits
  envelopeSecurity : Option (OutboundEnvelopeSecurity SigningKey)

structure Publication where
  exchange : ShortString
  routingKey : ShortString
  properties : BasicProperties
  payload : Bytes

/-- Everything a publication does before it acquires a channel. -/
def RabbitMqTransport.prepare (P : Primitives SigningKey VerifyingKey Signature)
    (uuid : UuidText) (transport : RabbitMqTransport SigningKey) (routingKey : String)
    (envelope : Envelope) : Except BusError Publication := do
  let security ← (transport.envelopeSecurity.mapM
    fun security : OutboundEnvelopeSecurity SigningKey =>
      security.sign P envelope routingKey).mapError .envelopeSecurity
  let brokerUserId := transport.envelopeSecurity.bind (·.brokerUserId)
  let properties ← envelopeToProperties uuid envelope transport.metadataLimits security
    brokerUserId
  let exchange ← RabbitmqMetadata.toShortString transport.exchange "exchange name"
  let routingKey ← RabbitmqMetadata.toShortString routingKey "routing key"
  return { exchange, routingKey, properties, payload := envelope.payload }

inductive RequiredEnvelopeFields where
  | lenient
  | strict
  deriving DecidableEq, Repr

structure Minted where
  messageId : Uuid
  correlationId : Uuid
  now : SystemTime

/-- The two identifiers are read by the same rule under their own field names. -/
def identifierFrom (uuid : UuidText) (strict : Bool) (field : String) (raw : Option ShortString)
    (fresh : Uuid) : Except BusError Uuid :=
  match raw with
  | some raw =>
    match uuid.parse raw.asStr with
    | some id => .ok id
    | none =>
      if strict then .error (.envelopeSecurity (.malformedRequiredField field)) else .ok fresh
  | none => if strict then .error (.envelopeSecurity (.missingRequiredField field)) else .ok fresh

def publishedAtFrom (strict : Bool) (timestamp : Option UInt64) (now : SystemTime) :
    Except BusError SystemTime :=
  match timestamp with
  | some secs =>
    match unixEpoch.checkedAdd (Duration.fromSecs secs) with
    | some t => .ok t
    | none => .error (.envelopeSecurity (.malformedRequiredField "published_at"))
  | none =>
    if strict then .error (.envelopeSecurity (.missingRequiredField "published_at")) else .ok now

def messageTypeFrom (kind : Option ShortString) : Except BusError String :=
  match kind with
  | some kind => .ok kind.asStr
  | none => .error (.invalidTopology
      "rabbitmq delivery missing AMQP `type` property (envelope message_type)")

def deliveryToEnvelope (uuid : UuidText) (minted : Minted) (props : BasicProperties)
    (payload : Bytes) (maxPayloadBytes : ℕ) (limits : AmqpMetadataLimits)
    (requiredFields : RequiredEnvelopeFields) : Except BusError Envelope :=
  if payload.length ≤ maxPayloadBytes then do
    let (headers, protocolHeaders) ← decodeHeaders props.headers limits
    -- a signature covers both identifiers and the publication time
    let signaturePresent := (protocolHeaders.lookup signatureHeader).isSome
    let strict := signaturePresent || requiredFields == .strict
    let messageId ← identifierFrom uuid strict "message_id" props.messageId minted.messageId
    let correlationId ← identifierFrom uuid strict "correlation_id" props.correlationId
      minted.correlationId
    let messageType ← messageTypeFrom props.kind
    let publishedAt ← publishedAtFrom strict props.timestamp minted.now
    return { messageId, messageType, payload, correlationId,
             replyTo := props.replyTo.map ShortString.asStr, headers, protocolHeaders,
             publishedAt }
  else .error (.payloadTooLarge payload.length maxPayloadBytes)

structure Decoded (uuid : UuidText) (minted : Minted) (props : BasicProperties) (payload : Bytes)
    (limits : AmqpMetadataLimits) (strict : Bool) (e : Envelope) : Prop where
  maps : decodeHeaders props.headers limits = .ok (e.headers, e.protocolHeaders)
  messageId : identifierFrom uuid strict "message_id" props.messageId minted.messageId =
    .ok e.messageId
  correlationId : identifierFrom uuid strict "correlation_id" props.correlationId
    minted.correlationId = .ok e.correlationId
  messageType : messageTypeFrom props.kind = .ok e.messageType
  publishedAt : publishedAtFrom strict props.timestamp minted.now = .ok e.publishedAt
  payload : e.payload = payload
  replyTo : e.replyTo = props.replyTo.map ShortString.asStr

theorem deliveryToEnvelope_ok {uuid : UuidText} {minted : Minted} {props : BasicProperties}
    {payload : Bytes} {maxPayloadBytes : ℕ} {limits : AmqpMetadataLimits}
    {requiredFields : RequiredEnvelopeFields} {e : Envelope} :
    deliveryToEnvelope uuid minted props payload maxPayloadBytes limits requiredFields = .ok e ↔
      payload.length ≤ maxPayloadBytes ∧ Decoded uuid minted props payload limits
        ((e.protocolHeaders.lookup signatureHeader).isSome || requiredFields == .strict) e := by
  unfold deliveryToEnvelope
  by_cases h : payload.length ≤ maxPayloadBytes
  · rw [if_pos h]
    simp only [h, true_and]
    constructor
    · intro hdo
      obtain ⟨⟨headers, protocolHeaders⟩, maps, hdo⟩ := bind_ok.mp hdo
      obtain ⟨messageId, hid, hdo⟩ := bind_ok.mp hdo
      obtain ⟨correlationId, hcorrelation, hdo⟩ := bind_ok.mp hdo
      obtain ⟨messageType, htype, hdo⟩ := bind_ok.mp hdo
      obtain ⟨publishedAt, htime, hdo⟩ := bind_ok.mp hdo
      cases hdo
      exact ⟨maps, hid, hcorrelation, htype, htime, rfl, rfl⟩
    · rintro ⟨maps, hid, hcorrelation, htype, htime, rfl, hreply⟩
      refine bind_ok.mpr ⟨_, maps, bind_ok.mpr ⟨_, hid, bind_ok.mpr ⟨_, hcorrelation, ?_⟩⟩⟩
      refine bind_ok.mpr ⟨_, htype, bind_ok.mpr ⟨_, htime, ?_⟩⟩
      rw [← hreply]
      rfl
  · rw [if_neg h]
    simp [h]

structure Carries (uuid : UuidText) (e : Envelope) (props : BasicProperties) : Prop where
  messageId : props.messageId = some (UuidText.toShortString uuid e.messageId)
  correlationId : props.correlationId = some (UuidText.toShortString uuid e.correlationId)
  kind : props.kind.map ShortString.asStr = some e.messageType
  timestamp : props.timestamp = some (publishedAtSecs e.publishedAt)
  replyTo : props.replyTo.map ShortString.asStr = e.replyTo

theorem envelopeToProperties_ok {uuid : UuidText} {e : Envelope} {limits : AmqpMetadataLimits}
    {security : Option SecurityHeaders} {brokerUserId : Option String} {props : BasicProperties}
    (h : envelopeToProperties uuid e limits security brokerUserId = .ok props) :
    Carries uuid e props ∧
      ∃ table, props.headers = some table ∧ encodeHeaders e limits security = .ok table := by
  obtain ⟨table, htable, h⟩ := bind_ok.mp h
  obtain ⟨kind, hkind, h⟩ := bind_ok.mp h
  obtain ⟨replyTo, hreply, h⟩ := bind_ok.mp h
  obtain ⟨userId, _, h⟩ := bind_ok.mp h
  cases h
  refine ⟨⟨rfl, rfl, ?_, rfl, ?_⟩, table, rfl, htable⟩
  · exact congrArg some (toShortString_ok.mp hkind)
  · rcases optionMapM_ok.mp hreply with ⟨absent, rfl⟩ | ⟨text, short, present, hshort, rfl⟩
    · exact absent.symm
    · rw [present]
      exact congrArg some (toShortString_ok.mp hshort)

end RabbitmqDelivery
