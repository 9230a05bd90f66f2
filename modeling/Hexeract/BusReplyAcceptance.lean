import Hexeract.LibraryDecimalText
import Hexeract.BusEnvelopeSecurity

/-! # Which deliveries are acceptable replies

The rules a delivery has to satisfy before it may consume the slot it names. -/
namespace BusReplyAcceptance

open LibraryDecimalText LibraryFramedBytes BusErrors BusEnvelope BusEnvelopeSecurity

abbrev RequestId := Uuid

structure ReplyExpectation where
  replyMessageType : String
  deriving DecidableEq, Repr

inductive ReplyRejectionKind where
  | undecodable
  | orphaned
  | unauthenticated
  | invalid
  | duplicate
  | late
  deriving DecidableEq, Repr

inductive ReplyRejection where
  | missingVersion
  | unsupportedVersion (version : ℕ)
  | missingStatus
  | unknownStatus
  | unexpectedType
  | unauthenticated
  | undecodableErrorPayload
  | identityMismatch
  deriving DecidableEq, Repr

def ReplyRejection.kind : ReplyRejection → ReplyRejectionKind
  | .unauthenticated => .unauthenticated
  | _ => .invalid

inductive TransportRefusal where
  | unauthenticated
  deriving DecidableEq, Repr

def TransportRefusal.toRejection : TransportRefusal → ReplyRejection
  | .unauthenticated => .unauthenticated

inductive ReplyAuthentication where
  | notEnforced
  | waivedUnsigned
  | authenticated (principal : VerifiedPrincipal)
  deriving DecidableEq

inductive RemoteErrorType where
  | internal
  | malformed
  | unavailable
  | unsupported
  | expired
  deriving DecidableEq, Repr

structure RemoteErrorPayload where
  errorType : RemoteErrorType
  requestId : Uuid
  deriving DecidableEq

/-- The text form of identifiers and the JSON decoder of an error payload, whose failure
is the text it would render. -/
structure ReplyCodec where
  uuid : UuidText
  decodeError : Bytes → Except String RemoteErrorPayload

/-- Unreadable text and a value beyond 32 bits are both no version at all. -/
def readProtocolVersion (envelope : Envelope) : Option ℕ :=
  (envelope.header protocolVersionHeader).bind fun raw =>
    (parseUnsigned raw.toList).filter fun version => version < 2 ^ 32

def accepts (expectation : ReplyExpectation) (envelope : Envelope) :
    Except ReplyRejection Unit :=
  match readProtocolVersion envelope with
  | none => .error .missingVersion
  | some version =>
    if version = protocolVersion then
      match envelope.header replyStatusHeader with
      | none => .error .missingStatus
      | some status =>
        if status = replyStatusOk then
          if envelope.messageType = expectation.replyMessageType then .ok ()
          else .error .unexpectedType
        else if status = replyStatusError then
          if envelope.messageType = replyErrorMessageType then .ok ()
          else .error .unexpectedType
        else .error .unknownStatus
    else .error (.unsupportedVersion version)

def acceptsErrorIdentity (codec : ReplyCodec) (envelope : Envelope) (expected : RequestId) :
    Except ReplyRejection Unit :=
  if envelope.header replyStatusHeader = some replyStatusError then
    match codec.decodeError envelope.payload with
    | .error _ => .error .undecodableErrorPayload
    | .ok payload =>
      if payload.requestId = expected then .ok () else .error .identityMismatch
  else .ok ()

/-- Both checks a registry makes before it consumes a slot, in its order. -/
def acceptsReply (codec : ReplyCodec) (expectation : ReplyExpectation) (requestId : RequestId)
    (envelope : Envelope) : Except ReplyRejection Unit := do
  accepts expectation envelope
  acceptsErrorIdentity codec envelope requestId

end BusReplyAcceptance
