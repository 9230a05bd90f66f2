import Hexeract.RabbitmqDelivery

/-! # From a signed publication back to the envelope

A published table splits back into the two maps it was built from exactly if the protocol
headers have reserved names in lowercase, the only names the framework itself writes. -/
namespace RabbitmqEnvelopeRoundTrip

open LibraryCollections LibraryFramedBytes StdTime BusErrors BusEnvelope BusEnvelopeCanonical
open BusEnvelopeSecurity RabbitmqMetadata RabbitmqDelivery

variable {SigningKey VerifyingKey Signature : Type}

/-- The last instant of a whole second at or before `t`. -/
def truncateToSecond (t : SystemTime) : SystemTime :=
  ⟨t.nanos / nanosPerSec * nanosPerSec, by
    have := t.in_range
    simp only [nanosPerSec] at *
    omega⟩

theorem publishedAtFrom_secs {t now : SystemTime} {strict : Bool}
    (epoch : unixEpoch.nanos ≤ t.nanos) :
    publishedAtFrom strict (some (publishedAtSecs t)) now = .ok (truncateToSecond t) := by
  obtain ⟨since, hsince⟩ := exists_durationSince epoch
  have nanos : t.nanos = since.nanos := by
    rw [(durationSince_ok.mp hsince).2]
    exact (Int.sub_zero _).symm
  have secs : publishedAtSecs t = since.asSecs := by
    rw [publishedAtSecs, hsince]
  have sum : unixEpoch.checkedAdd (Duration.fromSecs since.asSecs) =
      some (truncateToSecond t) := by
    rw [checkedAdd_eq_some]
    change t.nanos / nanosPerSec * nanosPerSec = 0 + ((nanosPerSec * since.asSecs.toNat : ℕ) : ℤ)
    rw [asSecs_toNat, nanos, Int.zero_add, Nat.mul_comm]
    push_cast
    rfl
  simp only [publishedAtFrom, secs, sum]

theorem identifierFrom_render (uuid : UuidText) (strict : Bool) (field : String) (id fresh : Uuid) :
    identifierFrom uuid strict field (some (UuidText.toShortString uuid id)) fresh = .ok id := by
  simp [identifierFrom, UuidText.toShortString, uuid.parse_render]

theorem securityHeaders_canonical (P : Primitives SigningKey VerifyingKey Signature)
    (b : CanonicalBinding) (signature : Signature) :
    ∀ pair ∈ securityHeaders P b signature, CanonicalName pair.1 := by
  intro pair hmem
  apply securityHeaderNames_canonical
  have := List.mem_map_of_mem (f := Prod.fst) hmem
  exact this

theorem lastValue_securityHeaders (P : Primitives SigningKey VerifyingKey Signature)
    (b : CanonicalBinding) (signature : Signature) {key : String}
    (h : isSecurityHeader key = false) : lastValue (securityHeaders P b signature) key = none := by
  rw [lastValue_eq_none]
  rintro pair hmem rfl
  have named : pair.1 ∈ securityHeaderNames := List.mem_map_of_mem (f := Prod.fst) hmem
  simp [isSecurityHeader, named] at h

theorem announces_of_lookup (P : Primitives SigningKey VerifyingKey Signature)
    {e : Envelope} {b : CanonicalBinding} {signature : Signature} {old : HeaderMap}
    (h : ∀ s, e.protocolHeaders.lookup s =
      (lastValue (securityHeaders P b signature) s).or (old.lookup s)) :
    e.header signatureHeader = some (P.encodeBase64 (P.toBytes signature)) ∧ Announces e b := by
  have read : ∀ name ∈ securityHeaderNames, e.header name =
      (lastValue (securityHeaders P b signature) name).or (old.lookup name) := by
    intro name hname
    rw [header_of_reserved (securityHeaderNames_canonical name hname).1, h]
  refine ⟨?_, ⟨?_, ?_, ?_, ?_, ?_⟩⟩ <;>
    rw [read _ (by decide)] <;>
    simp [securityHeaders, lastValue, signatureHeader, keyIdHeader, issuerHeader, audienceHeader,
      algorithmHeader, destinationHeader]

theorem prepare_secured {P : Primitives SigningKey VerifyingKey Signature} {uuid : UuidText}
    {transport : RabbitMqTransport SigningKey} {security : OutboundEnvelopeSecurity SigningKey}
    {routingKey : String} {e : Envelope} {publication : Publication}
    (configured : transport.envelopeSecurity = some security)
    (h : transport.prepare P uuid routingKey e = .ok publication) :
    publication.routingKey.asStr = routingKey ∧ publication.payload = e.payload ∧
      ∃ headers, security.sign P e routingKey = .ok headers ∧
        envelopeToProperties uuid e transport.metadataLimits (some headers)
          security.brokerUserId = .ok publication.properties := by
  obtain ⟨signed, hsigned, h⟩ := bind_ok.mp h
  obtain ⟨properties, hproperties, h⟩ := bind_ok.mp h
  obtain ⟨exchange, _, h⟩ := bind_ok.mp h
  obtain ⟨key, hkey, h⟩ := bind_ok.mp h
  cases h
  refine ⟨toShortString_ok.mp hkey, rfl, ?_⟩
  rw [configured] at hsigned hproperties
  rcases optionMapM_ok.mp (mapError_ok.mp hsigned) with ⟨absent, _⟩ | ⟨_, headers, same, hsign, rfl⟩
  · cases absent
  · cases same
    exact ⟨headers, hsign, hproperties⟩

/-- What a consumer must agree on with the signer of a publication. -/
structure Trusts (P : Primitives SigningKey VerifyingKey Signature)
    (verifier : EnvelopeVerifier VerifyingKey) (security : OutboundEnvelopeSecurity SigningKey)
    (keyId : KeyId) (key : SigningKey) : Prop where
  current : security.signer.currentSigningKey = .ok (keyId, key)
  known : verifier.verificationKey security.signer.issuer keyId = .ok (P.verifyingKey key)
  audience : security.audience ∈ verifier.config.acceptedAudiences

def received (e : Envelope) (headers : SecurityHeaders) : Envelope :=
  { e with
    publishedAt := truncateToSecond e.publishedAt
    protocolHeaders := writeAll e.protocolHeaders headers }

theorem sameSigned_received {P : Primitives SigningKey VerifyingKey Signature} {e d : Envelope}
    {b : CanonicalBinding} {signature : Signature}
    (h : SameEnvelope d (received e (securityHeaders P b signature))) : SameSigned e d := by
  refine ⟨h.messageId.symm, h.messageType.symm, h.correlationId.symm, h.replyTo.symm, ?_,
    h.payload.symm, fun key _ => (h.headers key).symm, fun key hs => ?_⟩
  · rw [publicationSecond, publicationSecond, h.publishedAt]
    change _ = e.publishedAt.nanos / nanosPerSec * nanosPerSec / nanosPerSec
    rw [Int.mul_ediv_cancel _ (by decide)]
  · rw [h.protocolHeaders key]
    change _ = (writeAll e.protocolHeaders (securityHeaders P b signature)).lookup key
    rw [lookup_writeAll, lastValue_securityHeaders P b signature hs, Option.none_or]

theorem decode_publication {uuid : UuidText} {e : Envelope} {limits : AmqpMetadataLimits}
    {headers : SecurityHeaders} {brokerUserId : Option String} {props : BasicProperties}
    (protocol : ∀ key ∈ e.protocolHeaders, CanonicalName key)
    (names : ∀ pair ∈ headers, CanonicalName pair.1)
    (epoch : unixEpoch.nanos ≤ e.publishedAt.nanos)
    (h : envelopeToProperties uuid e limits (some headers) brokerUserId = .ok props)
    {maxPayloadBytes : ℕ} (cap : e.payload.length ≤ maxPayloadBytes) (minted : Minted)
    (requiredFields : RequiredEnvelopeFields) :
    ∃ d, deliveryToEnvelope uuid minted props e.payload maxPayloadBytes limits requiredFields =
        .ok d ∧ SameEnvelope d (received e headers) := by
  obtain ⟨carries, table, htable, encoded⟩ := envelopeToProperties_ok h
  obtain ⟨application, protocolMap, decoded, sameApplication, lookups⟩ :=
    decodeHeaders_encodeHeaders protocol (show ∀ pair ∈ (some headers).getD [], _ from names)
      encoded
  obtain ⟨kind, hkind, htype⟩ := Option.map_eq_some_iff.mp carries.kind
  refine ⟨{ received e headers with headers := application, protocolHeaders := protocolMap },
    deliveryToEnvelope_ok.mpr ⟨cap, ⟨?_, ?_, ?_, ?_, ?_, rfl, ?_⟩⟩, ?_⟩
  · rw [htable]
    exact decoded
  · rw [carries.messageId]
    exact identifierFrom_render uuid _ _ _ _
  · rw [carries.correlationId]
    exact identifierFrom_render uuid _ _ _ _
  · rw [hkind]
    exact congrArg Except.ok htype
  · rw [carries.timestamp]
    exact publishedAtFrom_secs epoch
  · exact carries.replyTo.symm
  · refine ⟨rfl, rfl, rfl, rfl, rfl, sameApplication, fun key => ?_, rfl⟩
    rw [received, lookup_writeAll]
    exact lookups key

/-- What comes out of a delivery has canonical protocol names, so these went in. -/
theorem canonical_of_received {uuid : UuidText} {minted : Minted} {props : BasicProperties}
    {payload : Bytes} {maxPayloadBytes : ℕ} {limits : AmqpMetadataLimits}
    {requiredFields : RequiredEnvelopeFields} {e decoded : Envelope} {headers : SecurityHeaders}
    (h : deliveryToEnvelope uuid minted props payload maxPayloadBytes limits requiredFields =
      .ok decoded) (same : SameEnvelope decoded (received e headers)) :
    ∀ key ∈ e.protocolHeaders, CanonicalName key := by
  intro key hk
  obtain ⟨value, hvalue⟩ := Option.isSome_iff_exists.mp (AList.lookup_isSome.mpr hk)
  have kept : key ∈ decoded.protocolHeaders := by
    rw [← AList.lookup_isSome, same.protocolHeaders key, received, lookup_writeAll, hvalue]
    cases lastValue headers key <;> rfl
  exact (decodeHeaders_namespace (deliveryToEnvelope_ok.mp h).2.maps).2 key kept

/-- A signed publication is decoded and verified by every consumer that trusts its signer,
and gives the envelope back, exactly if its protocol headers have canonical names. -/
theorem signed_publication_recovered_iff (P : Primitives SigningKey VerifyingKey Signature)
    (lawful : P.Lawful) (uuid : UuidText) (transport : RabbitMqTransport SigningKey)
    (security : OutboundEnvelopeSecurity SigningKey) (verifier : EnvelopeVerifier VerifyingKey)
    (keyId : KeyId) (key : SigningKey) (routingKey : String) (e : Envelope)
    (publication : Publication) (maxPayloadBytes : ℕ) (minted : Minted)
    (requiredFields : RequiredEnvelopeFields) (now : ℕ) (state : RefreshState)
    (configured : transport.envelopeSecurity = some security)
    (trusts : Trusts P verifier security keyId key)
    (epoch : unixEpoch.nanos ≤ e.publishedAt.nanos)
    (cap : e.payload.length ≤ maxPayloadBytes)
    (accepted : transport.prepare P uuid routingKey e = .ok publication) :
    (∃ headers decoded, security.sign P e routingKey = .ok headers ∧
      headers.map Prod.fst = securityHeaderNames ∧
      deliveryToEnvelope uuid minted publication.properties publication.payload maxPayloadBytes
        transport.metadataLimits requiredFields = .ok decoded ∧
      (verifier.verify P now state decoded publication.routingKey.asStr).1 =
        .ok (some ⟨security.signer.issuer, security.audience, keyId, .ed25519⟩) ∧
      SameEnvelope decoded (received e headers)) ↔
    ∀ name ∈ e.protocolHeaders, isReservedHeader name = true ∧ hasAsciiUppercase name = false := by
  constructor
  · rintro ⟨headers, decoded, _, _, hdecoded, _, same⟩
    exact canonical_of_received hdecoded same
  · intro canonical
    obtain ⟨hkey, hpayload, headers, hsign, properties⟩ := prepare_secured configured accepted
    obtain ⟨keyId', handle, representation, hcurrent, represented, rfl⟩ := (sign_ok P).mp hsign
    obtain ⟨rfl, rfl⟩ : keyId' = keyId ∧ handle = key := by
      rw [trusts.current] at hcurrent
      cases hcurrent
      exact ⟨rfl, rfl⟩
    obtain ⟨decoded, hdecoded, same⟩ := decode_publication canonical
      (securityHeaders_canonical P _ _) epoch properties cap minted requiredFields
    have covered := (sameSigned_received same).covered
    have lookups : ∀ s, decoded.protocolHeaders.lookup s = _ := fun s =>
      (same.protocolHeaders s).trans (lookup_writeAll _ _ s)
    obtain ⟨carried, announces⟩ := announces_of_lookup P lookups
    have late : unixEpoch.nanos ≤ decoded.publishedAt.nanos := by
      rw [same.publishedAt]
      exact Int.mul_nonneg (Int.ediv_nonneg epoch (by decide)) (by decide)
    refine ⟨_, decoded, hsign, rfl, hpayload ▸ hdecoded, ?_, same⟩
    rw [hkey]
    refine (verify_some P).mpr ⟨_, _, _, _, representation, rfl, rfl, carried, announces,
      trusts.audience, ?_, trusts.known,
      canonicalRepresentation_of_covered covered late represented, lawful.verify_sign _ _⟩
    rw [lawful.decodeBase64_encodeBase64]
    exact lawful.fromSlice_toBytes _

def sampleSecurity : OutboundEnvelopeSecurity Unit where
  signer := ⟨sampleBinding.issuer, .ok (sampleBinding.keyId, ())⟩
  audience := sampleBinding.audience
  bindsIssuerToBrokerUser := true

def sampleTransport : RabbitMqTransport Unit := ⟨"", .default, some sampleSecurity⟩

def sampleVerifier : EnvelopeVerifier Bytes where
  verificationKey issuer keyId :=
    if issuer = sampleBinding.issuer ∧ keyId = sampleBinding.keyId then .ok sampleVerifyingKey
    else .error .unknownKey
  config := ⟨.required, [sampleBinding.audience], Duration.fromSecs 30⟩

def sampleMinted : Minted := ⟨Uuid.fromU128 7, Uuid.fromU128 8, unixEpoch⟩

/-- The sample envelope carries the signature header of an earlier signature. -/
theorem signed_publication_recovered_sample :
    ∃ publication headers decoded,
      sampleTransport.prepare samplePrimitives .hyphenated "orders" sampleEnvelope =
        .ok publication ∧
      deliveryToEnvelope .hyphenated sampleMinted publication.properties publication.payload 64
        .default .lenient = .ok decoded ∧
      (sampleVerifier.verify samplePrimitives 0 ⟨none, 0⟩ decoded
        publication.routingKey.asStr).1 = .ok (some (CanonicalBinding.principal sampleBinding)) ∧
      SameEnvelope decoded (received sampleEnvelope headers) := by
  have isOk : (sampleTransport.prepare samplePrimitives .hyphenated "orders"
      sampleEnvelope).isOk = true := by decide +kernel
  obtain ⟨publication, accepted⟩ := exists_of_isOk isOk
  have trusts : Trusts samplePrimitives sampleVerifier sampleSecurity sampleBinding.keyId () :=
    ⟨rfl, by decide, by decide⟩
  obtain ⟨headers, decoded, _, _, hdecoded, verified, same⟩ :=
    (signed_publication_recovered_iff samplePrimitives samplePrimitives_lawful .hyphenated
      sampleTransport sampleSecurity sampleVerifier sampleBinding.keyId () "orders"
      sampleEnvelope publication 64 sampleMinted .lenient 0 ⟨none, 0⟩ rfl trusts
      (by decide) (by decide) accepted).mpr (by decide)
  exact ⟨publication, headers, decoded, accepted, hdecoded, verified, same⟩

/-- An envelope handed over by a transport with one protocol header. -/
def handedOver (name : String) : Envelope :=
  Envelope.restoreFromTransport (Uuid.fromU128 1) "order.created" [123, 125] (Uuid.fromU128 2)
    none ∅ ((∅ : HeaderMap).insert name "1") unixEpoch

/-- The sample key, signing one message. -/
def signingOnce (signature : Bytes) (text : String) : Primitives Unit Bytes Bytes :=
  { samplePrimitives with sign := fun _ _ => signature, encodeBase64 := fun _ => text }

/-- The signature of the sample key over the envelope with the protocol header `trace`. -/
def tracePrimitives : Primitives Unit Bytes Bytes :=
  signingOnce
    [184, 70, 144, 213, 83, 142, 84, 155, 250, 3, 216, 248, 55, 139, 122, 84, 77, 219, 48, 231,
      123, 47, 94, 148, 85, 16, 170, 57, 200, 131, 225, 19, 238, 208, 158, 46, 80, 239, 210, 189,
      208, 127, 135, 76, 116, 216, 77, 14, 241, 41, 44, 204, 75, 227, 9, 217, 92, 175, 83, 229,
      56, 121, 70, 0]
    "uEaQ1VOOVJv6A9j4N4t6VE3bMOd7L16UVRCqOciD4RPu0J4uUO_SvdB_h0x02E0O8SkszEvjCdlcr1PlOHlGAA"

/-- And over the one with the protocol header `X-Hexeract-Request-Id`. -/
def uppercasePrimitives : Primitives Unit Bytes Bytes :=
  signingOnce
    [99, 105, 255, 211, 204, 89, 12, 129, 125, 97, 26, 161, 29, 143, 84, 46, 183, 196, 198, 128,
      223, 95, 207, 12, 209, 196, 49, 100, 222, 3, 92, 67, 76, 210, 10, 11, 108, 187, 40, 105, 39,
      36, 207, 116, 220, 229, 26, 152, 196, 89, 128, 122, 155, 95, 29, 171, 51, 235, 55, 194, 114,
      32, 237, 1]
    "Y2n_08xZDIF9YRqhHY9ULrfExoDfX88M0cQxZN4DXENM0goLbLsoaSckz3Tc5RqYxFmAeptfHasz6zfCciDtAQ"

/-- The protocol header of the first envelope comes back as an application header; the second
is published and then refused by every consumer. -/
theorem restored_names_change_envelope :
    (∃ publication decoded,
      sampleTransport.prepare tracePrimitives .hyphenated "orders" (handedOver "trace") =
        .ok publication ∧
      deliveryToEnvelope .hyphenated sampleMinted publication.properties publication.payload 64
        .default .lenient = .ok decoded ∧
      (handedOver "trace").headers.lookup "trace" = none ∧
      decoded.headers.lookup "trace" = some "1" ∧
      decoded.protocolHeaders.lookup "trace" = none) ∧
    ∃ publication,
      sampleTransport.prepare uppercasePrimitives .hyphenated "orders"
        (handedOver "X-Hexeract-Request-Id") = .ok publication ∧
      deliveryToEnvelope .hyphenated sampleMinted publication.properties publication.payload 64
        .default .lenient = .error (.invalidMetadata .nonCanonicalReservedHeader) := by
  constructor
  · have decoded : ((sampleTransport.prepare tracePrimitives .hyphenated "orders"
        (handedOver "trace")).bind fun publication =>
        deliveryToEnvelope .hyphenated sampleMinted publication.properties publication.payload 64
          .default .lenient).map (fun decoded =>
            (decoded.headers.lookup "trace", decoded.protocolHeaders.lookup "trace")) =
        .ok (some "1", none) := by
      decide +kernel
    obtain ⟨decoded, h, lookups⟩ := map_ok.mp decoded
    obtain ⟨publication, accepted, h⟩ := bind_ok.mp h
    obtain ⟨inApplication, inProtocol⟩ := Prod.mk.inj lookups
    exact ⟨publication, decoded, accepted, h, rfl, inApplication, inProtocol⟩
  · have isOk : (sampleTransport.prepare uppercasePrimitives .hyphenated "orders"
        (handedOver "X-Hexeract-Request-Id")).isOk = true := by decide +kernel
    obtain ⟨publication, accepted⟩ := exists_of_isOk isOk
    have refused : ((sampleTransport.prepare uppercasePrimitives .hyphenated "orders"
        (handedOver "X-Hexeract-Request-Id")).toOption.map fun publication =>
        (deliveryToEnvelope .hyphenated sampleMinted publication.properties publication.payload
          64 .default .lenient)) =
        some (.error (.invalidMetadata .nonCanonicalReservedHeader)) := by
      decide +kernel
    rw [accepted] at refused
    exact ⟨publication, accepted, Option.some.inj refused⟩

end RabbitmqEnvelopeRoundTrip
