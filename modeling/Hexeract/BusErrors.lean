import Mathlib.Data.Nat.Notation

/-! # Errors of the bus crates

A boxed source error is kept as the text it would render; it is never inspected. -/
namespace BusErrors

inductive IdentityKind where
  | issuer
  | audience
  | keyId
  deriving DecidableEq, Repr

inductive KeySourceError where
  | unknownKey
  | revokedKey
  | unavailable (source : String)
  | missingSigningKey
  deriving DecidableEq, Repr

inductive EnvelopeSecurityError where
  | missingSignature
  | malformedSecurityHeader (header : String)
  | unsupportedAlgorithm
  | unknownKey
  | revokedKey
  | audienceMismatch
  | destinationMismatch
  | signatureMismatch
  | brokerUserMismatch
  | missingRequiredField (field : String)
  | malformedRequiredField (field : String)
  | invalidConfiguration (field : String)
  | fieldTooLarge
  | invalidIdentity (kind : IdentityKind)
  | keySource (source : KeySourceError)
  deriving DecidableEq, Repr

inductive MetadataLimit where
  | headerCount
  | keyBytes
  | valueBytes
  | totalBytes
  deriving DecidableEq, Repr

inductive InvalidMetadataReason where
  | nonUtf8LongString
  | nonCanonicalReservedHeader
  deriving DecidableEq, Repr

inductive BusError where
  | reservedHeaderNamespace
  | metadataLimitExceeded (limit : MetadataLimit) (actual max : ℕ)
  | invalidMetadata (reason : InvalidMetadataReason)
  | serialization (source : String)
  | transport (source : String)
  | connection (source : String) (retryable : Bool)
  | unroutable (routingKey replyText : String) (replyCode : UInt16)
  | replyUndeliverable (destination replyText : String) (replyCode : UInt16)
  | shutdownDrainTimedOut (abandoned : ℕ)
  | missingHandler (messageType : String)
  | typeMismatch (expected actual : String)
  | payloadTooLarge (size max : ℕ)
  | invalidTopology (reason : String)
  | internal (message : String)
  | envelopeSecurity (error : EnvelopeSecurityError)
  deriving DecidableEq, Repr

/-- Redelivering the same delivery can never succeed for these two variants only. -/
def BusError.isPermanentDeliveryFailure : BusError → Bool
  | .missingHandler _ => true
  | .replyUndeliverable _ _ _ => true
  | _ => false

end BusErrors
