import Hexeract.BusDeadline
import Hexeract.BusReplyAcceptance

/-! # The responder

One dispatch of an inbound request: five guards in a fixed order, then the handler, then
the publication of its reply. Everything a dispatch does to the outside is listed in order. -/
namespace BusResponder

open LibraryCollections LibraryDecimalText LibraryFramedBytes
open StdTime BusErrors BusEnvelope BusDeadline
open BusReplyAcceptance

/-! ## Reply destinations -/

def maxLength : ℕ := 255

/-- The control characters of the standard library: the general category Cc. -/
def isControl (c : Char) : Bool := c.toNat < 32 || (127 ≤ c.toNat && c.toNat < 160)

/-- A destination is built by its parser only, so its rules travel with it. -/
structure ReplyDestination where
  raw : String
  raw_ne_empty : raw ≠ ""
  length_le : (utf8 raw).length ≤ maxLength
  no_control : raw.toList.any isControl = false
  deriving DecidableEq

inductive ReplyDestinationError where
  | empty
  | tooLong
  | illegalCharacter
  | outsideReplyNamespace
  deriving DecidableEq, Repr

def ReplyDestination.parse (raw : String) : Except ReplyDestinationError ReplyDestination :=
  if hempty : raw = "" then .error .empty
  else if hlong : maxLength < (utf8 raw).length then .error .tooLong
  else if hcontrol : raw.toList.any isControl = true then .error .illegalCharacter
  else .ok ⟨raw, hempty, Nat.le_of_not_lt hlong, Bool.eq_false_of_not_eq_true hcontrol⟩

/-- The backend: which destinations it allows, and what a publication comes to. -/
structure ReplyPublisher where
  acceptDestination : String → Except ReplyDestinationError ReplyDestination
  publishReply : ReplyDestination → Envelope → Except BusError Unit

def serverNamedInboxPrefix : String := "amq.gen-"

/-- The rule of the RabbitMQ backend: a queue the broker named itself. -/
def acceptReplyDestination (raw : String) : Except ReplyDestinationError ReplyDestination := do
  let destination ← ReplyDestination.parse raw
  if (utf8 serverNamedInboxPrefix).isPrefixOf (utf8 destination.raw) then .ok destination
  else .error .outsideReplyNamespace

/-! ## Messages -/

/-- A message type: its name and its JSON codec, whose failures are the texts it renders. -/
structure Message (M : Type) where
  messageType : String
  encode : M → Except String Bytes
  decode : Bytes → Except String M

def Message.serialize {M : Type} (message : Message M) (value : M) : Except BusError Bytes :=
  (message.encode value).mapError .serialization

/-- The envelope names the type it was built for, and only that type is decoded. -/
def decodeMessage {M : Type} (message : Message M) (envelope : Envelope) : Except BusError M :=
  if envelope.messageType = message.messageType then
    (message.decode envelope.payload).mapError .serialization
  else .error (.typeMismatch message.messageType envelope.messageType)

structure Contract (Req Rep : Type) where
  request : Message Req
  reply : Message Rep

/-- The JSON form of an error payload, next to the decoder every client has. -/
structure ErrorCodec extends ReplyCodec where
  encodeError : RemoteErrorPayload → Except String Bytes
  decode_encode : ∀ payload bytes, encodeError payload = .ok bytes →
    decodeError bytes = .ok payload

def RemoteErrorType.fromBusError : BusError → RemoteErrorType
  | .reservedHeaderNamespace => .malformed
  | .metadataLimitExceeded _ _ _ => .malformed
  | .invalidMetadata _ => .malformed
  | .serialization _ => .malformed
  | .typeMismatch _ _ => .malformed
  | .payloadTooLarge _ _ => .malformed
  | .envelopeSecurity _ => .malformed
  | .connection _ _ => .unavailable
  | .transport _ => .unavailable
  | .unroutable _ _ _ => .unavailable
  | .replyUndeliverable _ _ _ => .unavailable
  | .internal _ => .internal
  | .missingHandler _ => .internal
  | .invalidTopology _ => .internal
  | .shutdownDrainTimedOut _ => .internal

/-! ## One dispatch -/

inductive RequestIdHeader where
  | present (requestId : RequestId)
  | missing
  | unreadable
  deriving DecidableEq

def parseRequestId (uuid : UuidText) (envelope : Envelope) : RequestIdHeader :=
  match envelope.header requestIdHeader with
  | none => .missing
  | some raw =>
    match uuid.parse raw with
    | some requestId => .present requestId
    | none => .unreadable

/-- The worker's own context is handed through unread. -/
structure RequestContext (Context : Type) where
  requestId : RequestId
  protocolVersion : ℕ
  deadline : Option Duration
  handler : Context

inductive HandlerResult (Rep : Type) where
  | returned (outcome : Except BusError Rep)
  | panicked (message : String)

abbrev RequestHandler (Req Rep Context : Type) :=
  Req → RequestContext Context → HandlerResult Rep

inductive ResponderCounter where
  | invalidReplyTo
  | invalidRequestId
  | unsupportedProtocolVersion
  | expiredDeadline
  | invalidDeadline
  | replyDroppedAfterDeadline
  deriving DecidableEq, Repr

inductive ResponderOutcome where
  | replied
  | repliedWithError
  | dropped
  | suppressedAfterDeadline
  deriving DecidableEq, Repr

inductive Ending where
  | returned (result : Except BusError ResponderOutcome)
  | unwound (message : String)
  deriving DecidableEq

inductive ResponderAction (Req Context : Type) where
  | count (counter : ResponderCounter)
  | handle (request : Req) (context : RequestContext Context)
  | publish (destination : ReplyDestination) (reply : Envelope)

/-- What one dispatch reads from outside: the wall clock at its guards, the time its
handler takes, and the identifier and instant a reply is stamped with. -/
structure Surroundings where
  now : SystemTime
  elapsed : Duration
  minted : Uuid
  publishedAt : SystemTime

section Dispatch

variable {Req Rep Context : Type}

def validatedReplyTo (publisher : ReplyPublisher) (envelope : Envelope) :
    Option ReplyDestination :=
  match envelope.replyTo with
  | none => none
  | some raw => (publisher.acceptDestination raw).toOption

def stampReply (uuid : UuidText) (status : String) (requestId : RequestId)
    (envelope : Envelope) : Envelope :=
  ((envelope.insertProtocolHeader replyStatusHeader status).insertProtocolHeader
    requestIdHeader (uuid.render requestId)).insertProtocolHeader
    protocolVersionHeader (String.ofList (renderNat protocolVersion))

def errorReply (codec : ErrorCodec) (around : Surroundings) (category : RemoteErrorType)
    (correlationId : Uuid) (requestId : RequestId) : Except BusError Envelope :=
  ((codec.encodeError ⟨category, requestId⟩).mapError .serialization).map fun payload =>
    ((((Envelope.restore around.minted replyErrorMessageType payload correlationId none ∅
      around.publishedAt).insertProtocolHeader replyStatusHeader
      replyStatusError).insertProtocolHeader protocolVersionHeader
      (String.ofList (renderNat protocolVersion))).insertProtocolHeader requestIdHeader
      (codec.uuid.render requestId))

/-- A reply that cannot be serialized is replaced by an opaque internal error. -/
def encodeOkReply (codec : ErrorCodec) (contract : Contract Req Rep) (around : Surroundings)
    (correlationId : Uuid) (requestId : RequestId) (reply : Rep) : Except BusError Envelope :=
  match Envelope.new around.minted correlationId contract.reply.messageType
      (contract.reply.serialize reply) around.publishedAt with
  | .ok envelope => .ok (stampReply codec.uuid replyStatusOk requestId envelope)
  | .error _ => errorReply codec around .internal correlationId requestId

def encodeHandlerErrorReply (codec : ErrorCodec) (around : Surroundings) (correlationId : Uuid)
    (requestId : RequestId) (error : BusError) : Except BusError Envelope :=
  errorReply codec around (RemoteErrorType.fromBusError error) correlationId requestId

/-- Only a reply the broker returned becomes undeliverable. -/
def asReplyFailure : BusError → BusError
  | .unroutable routingKey replyText replyCode =>
    .replyUndeliverable routingKey replyText replyCode
  | other => other

/-- Encode, then publish: a reply that cannot be encoded is not published. -/
def deliverReply (publisher : ReplyPublisher) (replyTo : ReplyDestination)
    (outcome : ResponderOutcome) (reply : Except BusError Envelope) :
    Ending × List (ResponderAction Req Context) :=
  match reply with
  | .error error => (.returned (.error error), [])
  | .ok envelope =>
    (.returned (((publisher.publishReply replyTo envelope).mapError asReplyFailure).map
      fun _ => outcome), [.publish replyTo envelope])

/-- Whether an anchored deadline has passed once the handler is done. -/
def isExpired (around : Surroundings) (deadline : Option Duration) : Bool :=
  deadline.any fun remaining => remaining.nanos < around.elapsed.nanos

variable (codec : ErrorCodec) (contract : Contract Req Rep) (publisher : ReplyPublisher)
  (handler : RequestHandler Req Rep Context) (around : Surroundings) (context : Context)
  (envelope : Envelope)

/-- A guard that answers: it counts, if it has a counter, and publishes a category. -/
def rejectWith (counted : List ResponderCounter) (category : RemoteErrorType)
    (replyTo : ReplyDestination) (requestId : RequestId) :
    Ending × List (ResponderAction Req Context) :=
  let (ending, published) := deliverReply publisher replyTo .dropped
    (errorReply codec around category envelope.correlationId requestId)
  (ending, counted.map .count ++ published)

/-- The reply a handler's outcome is encoded as, with what the dispatch then reports. -/
def encodeOutcome (requestId : RequestId) :
    Except BusError Rep → Except BusError Envelope × ResponderOutcome
  | .ok reply =>
    (encodeOkReply codec contract around envelope.correlationId requestId reply, .replied)
  | .error error =>
    (encodeHandlerErrorReply codec around envelope.correlationId requestId error,
      .repliedWithError)

/-- The last judgement of the deadline stands after the encoding and before the
publication. -/
def finish (replyTo : ReplyDestination) (requestId : RequestId) (deadline : Option Duration)
    (outcome : Except BusError Rep) : Ending × List (ResponderAction Req Context) :=
  match encodeOutcome codec contract around envelope requestId outcome with
  | (.error error, _) => (.returned (.error error), [])
  | (.ok reply, handled) =>
    if isExpired around deadline then
      (.returned (.ok .suppressedAfterDeadline), [.count .replyDroppedAfterDeadline])
    else deliverReply publisher replyTo handled (.ok reply)

/-- The fifth guard and everything behind it. -/
def serve (replyTo : ReplyDestination) (requestId : RequestId) (version : ℕ)
    (deadline : Option Duration) : Ending × List (ResponderAction Req Context) :=
  match decodeMessage contract.request envelope with
  | .error _ => rejectWith codec publisher around envelope [] .malformed replyTo requestId
  | .ok request =>
    let requestContext : RequestContext Context := ⟨requestId, version, deadline, context⟩
    match handler request requestContext with
    | .panicked message => (.unwound message, [.handle request requestContext])
    | .returned outcome =>
      let (ending, published) := finish codec contract publisher around envelope replyTo
        requestId deadline outcome
      (ending, .handle request requestContext :: published)

def dispatch : Ending × List (ResponderAction Req Context) :=
  match validatedReplyTo publisher envelope with
  | none => (.returned (.ok .dropped), [.count .invalidReplyTo])
  | some replyTo =>
    match parseRequestId codec.uuid envelope with
    | .missing | .unreadable => (.returned (.ok .dropped), [.count .invalidRequestId])
    | .present requestId =>
      if readProtocolVersion envelope = some protocolVersion then
        match readDeadline envelope around.now with
        | .expired => (.returned (.ok .dropped), [.count .expiredDeadline])
        | .invalid _ =>
          rejectWith codec publisher around envelope [.invalidDeadline] .malformed replyTo
            requestId
        | .absent =>
          serve codec contract publisher handler around context envelope replyTo requestId
            protocolVersion none
        | .live remaining =>
          serve codec contract publisher handler around context envelope replyTo requestId
            protocolVersion (some remaining)
      else
        rejectWith codec publisher around envelope [.unsupportedProtocolVersion] .unsupported
          replyTo requestId

/-! ## What a dispatch amounts to -/

def publications (actions : List (ResponderAction Req Context)) :
    List (ReplyDestination × Envelope) :=
  actions.filterMap fun
    | .publish destination reply => some (destination, reply)
    | _ => none

def handlings (actions : List (ResponderAction Req Context)) :
    List (Req × RequestContext Context) :=
  actions.filterMap fun
    | .handle request context => some (request, context)
    | _ => none

def RequestIdHeader.toOption : RequestIdHeader → Option RequestId
  | .present requestId => some requestId
  | _ => none

def servable : DeadlineReading → Option (Option Duration)
  | .absent => some none
  | .live remaining => some (some remaining)
  | _ => none

def admitted (envelope : Envelope) (now : SystemTime) : Option (Option Duration) :=
  if readProtocolVersion envelope = some protocolVersion then
    servable (readDeadline envelope now) else none

def invocation : Option (Req × RequestContext Context) := do
  let _ ← validatedReplyTo publisher envelope
  let requestId ← (parseRequestId codec.uuid envelope).toOption
  let deadline ← admitted envelope around.now
  (decodeMessage contract.request envelope).toOption.map
    fun request => (request, ⟨requestId, protocolVersion, deadline, context⟩)

/-- A value that has a JSON form, or the category that stands for the failure. -/
def verdict : Except BusError Rep → Except RemoteErrorType Rep
  | .ok value => if (contract.reply.encode value).isOk then .ok value else .error .internal
  | .error error => .error (RemoteErrorType.fromBusError error)

/-- What is said to a request that passed the first four guards. -/
def servedAnswer (requestId : RequestId) (deadline : Option Duration) :
    Option (Except RemoteErrorType Rep) :=
  match decodeMessage contract.request envelope with
  | .error _ => some (.error .malformed)
  | .ok request =>
    match handler request ⟨requestId, protocolVersion, deadline, context⟩ with
    | .panicked _ => none
    | .returned outcome =>
      if isExpired around deadline then none else some (verdict contract outcome)

/-- What the responder says to a request that has an identity, if it says anything. -/
def answer (requestId : RequestId) : Option (Except RemoteErrorType Rep) :=
  if readProtocolVersion envelope = some protocolVersion then
    match readDeadline envelope around.now with
    | .expired => none
    | .invalid _ => some (.error .malformed)
    | .absent => servedAnswer contract handler around context envelope requestId none
    | .live remaining =>
      servedAnswer contract handler around context envelope requestId (some remaining)
  else some (.error .unsupported)

def encodeAnswer (requestId : RequestId) :
    Except RemoteErrorType Rep → Except BusError Envelope
  | .ok value => (Envelope.new around.minted envelope.correlationId contract.reply.messageType
      (contract.reply.serialize value) around.publishedAt).map
      (stampReply codec.uuid replyStatusOk requestId)
  | .error category => errorReply codec around category envelope.correlationId requestId

def publication : Option (ReplyDestination × Envelope) := do
  let replyTo ← validatedReplyTo publisher envelope
  let requestId ← (parseRequestId codec.uuid envelope).toOption
  let said ← answer contract handler around context envelope requestId
  (encodeAnswer codec contract around envelope requestId said).toOption.map
    fun reply => (replyTo, reply)

end Dispatch

section Refinement

variable {Req Rep Context : Type} {codec : ErrorCodec} {contract : Contract Req Rep}
  {publisher : ReplyPublisher} {handler : RequestHandler Req Rep Context}
  {around : Surroundings} {context : Context} {envelope : Envelope} {requestId : RequestId}
  {replyTo : ReplyDestination} {deadline : Option Duration}

@[simp] theorem publications_count (counted : List ResponderCounter)
    (actions : List (ResponderAction Req Context)) :
    publications (counted.map .count ++ actions) = publications actions := by
  induction counted with
  | nil => rfl
  | cons counter rest ih => exact ih

@[simp] theorem handlings_count (counted : List ResponderCounter)
    (actions : List (ResponderAction Req Context)) :
    handlings (counted.map .count ++ actions) = handlings actions := by
  induction counted with
  | nil => rfl
  | cons counter rest ih => exact ih

theorem publications_deliverReply {outcome : ResponderOutcome}
    (reply : Except BusError Envelope) :
    publications (@deliverReply Req Context publisher replyTo outcome reply).2 =
      (reply.toOption.map fun reply => (replyTo, reply)).toList := by
  cases reply <;> rfl

theorem handlings_deliverReply {outcome : ResponderOutcome}
    (reply : Except BusError Envelope) :
    handlings (@deliverReply Req Context publisher replyTo outcome reply).2 = [] := by
  cases reply <;> rfl

theorem publications_rejectWith (counted : List ResponderCounter) (category : RemoteErrorType) :
    publications (@rejectWith Req Context codec publisher around envelope counted category
      replyTo requestId).2 =
      ((errorReply codec around category envelope.correlationId requestId).toOption.map
        fun reply => (replyTo, reply)).toList := by
  simp only [rejectWith, publications_count, publications_deliverReply]

theorem handlings_rejectWith (counted : List ResponderCounter) (category : RemoteErrorType) :
    handlings (@rejectWith Req Context codec publisher around envelope counted category
      replyTo requestId).2 = [] := by
  simp only [rejectWith, handlings_count, handlings_deliverReply]

theorem encodeOutcome_eq (outcome : Except BusError Rep) :
    (encodeOutcome codec contract around envelope requestId outcome).1 =
      encodeAnswer codec contract around envelope requestId (verdict contract outcome) := by
  cases outcome with
  | error error => rfl
  | ok value =>
    simp only [encodeOutcome, encodeOkReply, verdict, Envelope.new, Message.serialize]
    cases encoded : contract.reply.encode value with
    | error text => rfl
    | ok payload =>
      simp only [Except.isOk, Except.toBool, if_true, encodeAnswer, Envelope.new,
        Message.serialize, encoded]
      rfl

theorem publications_finish (outcome : Except BusError Rep) :
    publications (@finish Req Rep Context codec contract publisher around envelope replyTo
      requestId deadline outcome).2 =
      (if isExpired around deadline then none else
        (encodeAnswer codec contract around envelope requestId
          (verdict contract outcome)).toOption.map fun reply => (replyTo, reply)).toList := by
  rw [← encodeOutcome_eq, finish]
  rcases encodeOutcome codec contract around envelope requestId outcome with ⟨reply, handled⟩
  cases reply with
  | error error => cases isExpired around deadline <;> rfl
  | ok reply => cases isExpired around deadline <;> rfl

theorem handlings_finish (outcome : Except BusError Rep) :
    handlings (@finish Req Rep Context codec contract publisher around envelope replyTo
      requestId deadline outcome).2 = [] := by
  rw [finish]
  rcases encodeOutcome codec contract around envelope requestId outcome with ⟨reply, handled⟩
  cases reply with
  | error error => rfl
  | ok reply => cases isExpired around deadline <;> rfl

theorem publications_serve :
    publications (serve codec contract publisher handler around context envelope replyTo
      requestId protocolVersion deadline).2 =
      ((servedAnswer contract handler around context envelope requestId deadline).bind
        fun said => (encodeAnswer codec contract around envelope requestId said).toOption.map
          fun reply => (replyTo, reply)).toList := by
  rw [serve, servedAnswer]
  cases decodeMessage contract.request envelope with
  | error error =>
    dsimp only
    rw [publications_rejectWith]
    rfl
  | ok request =>
    dsimp only
    cases handler request ⟨requestId, protocolVersion, deadline, context⟩ with
    | panicked message => rfl
    | returned outcome =>
      have finished := @publications_finish Req Rep Context codec contract publisher around
        envelope requestId replyTo deadline outcome
      change publications (finish codec contract publisher around envelope replyTo requestId
        deadline outcome).2 = _
      rw [finished]
      cases isExpired around deadline <;> rfl

theorem handlings_serve :
    handlings (serve codec contract publisher handler around context envelope replyTo
      requestId protocolVersion deadline).2 =
      ((decodeMessage contract.request envelope).toOption.map fun request =>
        (request, ⟨requestId, protocolVersion, deadline, context⟩)).toList := by
  rw [serve]
  cases decodeMessage contract.request envelope with
  | error error =>
    dsimp only
    rw [handlings_rejectWith]
    rfl
  | ok request =>
    dsimp only
    cases handler request ⟨requestId, protocolVersion, deadline, context⟩ with
    | panicked message => rfl
    | returned outcome =>
      change (request, _) :: handlings (finish codec contract publisher around envelope replyTo
        requestId deadline outcome).2 = _
      rw [handlings_finish]
      rfl

theorem publications_dispatch :
    publications (dispatch codec contract publisher handler around context envelope).2 =
      (publication codec contract publisher handler around context envelope).toList := by
  rw [dispatch, publication]
  cases validatedReplyTo publisher envelope with
  | none => rfl
  | some replyTo =>
    cases parseRequestId codec.uuid envelope with
    | missing => rfl
    | unreadable => rfl
    | present requestId =>
      simp only [RequestIdHeader.toOption, answer, Option.bind_eq_bind, Option.bind_some]
      by_cases supported : readProtocolVersion envelope = some protocolVersion
      · rw [if_pos supported, if_pos supported]
        cases readDeadline envelope around.now with
        | expired => rfl
        | invalid violation =>
          dsimp only
          rw [publications_rejectWith]
          rfl
        | absent =>
          dsimp only
          rw [publications_serve]
        | live remaining =>
          dsimp only
          rw [publications_serve]
      · rw [if_neg supported, if_neg supported, publications_rejectWith]
        rfl

theorem handlings_dispatch :
    handlings (dispatch codec contract publisher handler around context envelope).2 =
      (invocation codec contract publisher around context envelope).toList := by
  rw [dispatch, invocation]
  cases validatedReplyTo publisher envelope with
  | none => rfl
  | some replyTo =>
    cases parseRequestId codec.uuid envelope with
    | missing => rfl
    | unreadable => rfl
    | present requestId =>
      simp only [RequestIdHeader.toOption, admitted, Option.bind_eq_bind, Option.bind_some]
      by_cases supported : readProtocolVersion envelope = some protocolVersion
      · rw [if_pos supported, if_pos supported]
        cases readDeadline envelope around.now with
        | expired => rfl
        | invalid violation =>
          dsimp only
          rw [handlings_rejectWith]
          rfl
        | absent =>
          dsimp only
          rw [handlings_serve]
          rfl
        | live remaining =>
          dsimp only
          rw [handlings_serve]
          rfl
      · rw [if_neg supported, if_neg supported, handlings_rejectWith]
        rfl

end Refinement

/-! ## What a reply carries -/

section Replies

variable {Req Rep Context : Type} {codec : ErrorCodec} {contract : Contract Req Rep}
  {publisher : ReplyPublisher} {handler : RequestHandler Req Rep Context}
  {around : Surroundings} {context : Context} {envelope reply : Envelope}
  {requestId : RequestId} {replyTo : ReplyDestination}

/-- The three protocol headers of a reply and the name of its payload's type. -/
structure IsReply (uuid : UuidText) (requestId : RequestId) (status messageType : String)
    (reply : Envelope) : Prop where
  identity : reply.header requestIdHeader = some (uuid.render requestId)
  version : readProtocolVersion reply = some protocolVersion
  status_eq : reply.header replyStatusHeader = some status
  type_eq : reply.messageType = messageType

theorem header_insert {key other : String} {value : String} (h : isReservedHeader key = true)
    (e : Envelope) : (e.insertProtocolHeader other value).header key =
      if key = other then some value else e.header key := by
  rw [header_of_reserved h, header_of_reserved h]
  by_cases same : key = other
  · subst same
    simp [Envelope.insertProtocolHeader]
  · simp [Envelope.insertProtocolHeader, same]

theorem reserved_replyHeaders : isReservedHeader requestIdHeader = true ∧
    isReservedHeader protocolVersionHeader = true ∧ isReservedHeader replyStatusHeader = true := by
  decide

theorem replyHeaders_ne : requestIdHeader ≠ protocolVersionHeader ∧
    replyStatusHeader ≠ requestIdHeader ∧ replyStatusHeader ≠ protocolVersionHeader := by
  decide

theorem readProtocolVersion_eq (h : reply.header protocolVersionHeader =
    some (String.ofList (renderNat protocolVersion))) :
    readProtocolVersion reply = some protocolVersion := by
  rw [readProtocolVersion, h]
  decide

theorem isReply_stampReply (uuid : UuidText) (status : String) {messageType : String}
    {e : Envelope} (h : e.messageType = messageType) :
    IsReply uuid requestId status messageType (stampReply uuid status requestId e) := by
  obtain ⟨identity, version, statusKey⟩ := reserved_replyHeaders
  refine ⟨?_, readProtocolVersion_eq ?_, ?_, h⟩
  · simp [stampReply, header_insert identity, replyHeaders_ne]
  · simp [stampReply, header_insert version]
  · simp [stampReply, header_insert statusKey, replyHeaders_ne]

theorem isReply_errorReply {category : RemoteErrorType} {correlationId : Uuid}
    (h : errorReply codec around category correlationId requestId = .ok reply) :
    IsReply codec.uuid requestId replyStatusError replyErrorMessageType reply ∧
      codec.encodeError ⟨category, requestId⟩ = .ok reply.payload := by
  obtain ⟨payload, encoded, rfl⟩ := map_ok.mp h
  obtain ⟨identity, version, statusKey⟩ := reserved_replyHeaders
  refine ⟨⟨?_, readProtocolVersion_eq ?_, ?_, rfl⟩, mapError_ok.mp encoded⟩
  · simp [header_insert identity]
  · simp [header_insert version, replyHeaders_ne.1.symm]
  · simp [header_insert statusKey, replyHeaders_ne]

theorem isReply_encodeAnswer_ok {value : Rep}
    (h : encodeAnswer codec contract around envelope requestId (.ok value) = .ok reply) :
    IsReply codec.uuid requestId replyStatusOk contract.reply.messageType reply ∧
      contract.reply.encode value = .ok reply.payload := by
  obtain ⟨built, fresh, rfl⟩ := map_ok.mp h
  obtain ⟨payload, encoded, rfl⟩ := map_ok.mp fresh
  exact ⟨isReply_stampReply codec.uuid replyStatusOk rfl, mapError_ok.mp encoded⟩

/-- The identity of a request stands in every reply to it, also in an error payload. -/
structure CarriesIdentity (codec : ErrorCodec) (requestId : RequestId) (reply : Envelope) :
    Prop where
  header_eq : reply.header requestIdHeader = some (codec.uuid.render requestId)
  payload_eq : reply.header replyStatusHeader = some replyStatusError →
    ∃ category, codec.decodeError reply.payload = .ok ⟨category, requestId⟩

theorem carriesIdentity_encodeAnswer {said : Except RemoteErrorType Rep}
    (h : encodeAnswer codec contract around envelope requestId said = .ok reply) :
    CarriesIdentity codec requestId reply := by
  cases said with
  | ok value =>
    obtain ⟨answered, -⟩ := isReply_encodeAnswer_ok h
    refine ⟨answered.identity, fun failed => ?_⟩
    rw [answered.status_eq] at failed
    exact absurd (Option.some.inj failed) (by decide)
  | error category =>
    obtain ⟨answered, encoded⟩ := isReply_errorReply h
    exact ⟨answered.identity, fun _ => ⟨category, codec.decode_encode _ _ encoded⟩⟩

/-- The publisher's own rule allows this destination for the envelope's reply address. -/
def UsableDestination (publisher : ReplyPublisher) (envelope : Envelope)
    (destination : ReplyDestination) : Prop :=
  ∃ raw, envelope.replyTo = some raw ∧ publisher.acceptDestination raw = .ok destination

theorem validatedReplyTo_eq_some :
    validatedReplyTo publisher envelope = some replyTo ↔
      UsableDestination publisher envelope replyTo := by
  rw [validatedReplyTo, UsableDestination]
  cases envelope.replyTo with
  | none => simp
  | some raw => simp [toOption_eq_some]

theorem toOption_parseRequestId :
    (parseRequestId codec.uuid envelope).toOption = some requestId ↔
      parseRequestId codec.uuid envelope = .present requestId := by
  cases parseRequestId codec.uuid envelope <;> simp [RequestIdHeader.toOption]

theorem servable_eq_some {reading : DeadlineReading} {deadline : Option Duration} :
    servable reading = some deadline ↔
      (reading = .absent ∧ deadline = none) ∨
        ∃ remaining, reading = .live remaining ∧ deadline = some remaining := by
  cases reading <;> simp [servable, eq_comm]

theorem publication_eq_some
    (h : publication codec contract publisher handler around context envelope =
      some (replyTo, reply)) :
    UsableDestination publisher envelope replyTo ∧ ∃ requestId said,
      parseRequestId codec.uuid envelope = .present requestId ∧
        answer contract handler around context envelope requestId = some said ∧
        encodeAnswer codec contract around envelope requestId said = .ok reply := by
  obtain ⟨destination, usable, h⟩ := Option.bind_eq_some_iff.mp h
  obtain ⟨requestId, identified, h⟩ := Option.bind_eq_some_iff.mp h
  obtain ⟨said, answered, h⟩ := Option.bind_eq_some_iff.mp h
  obtain ⟨built, encoded, h⟩ := Option.map_eq_some_iff.mp h
  obtain ⟨rfl, rfl⟩ := Prod.mk.inj h
  exact ⟨validatedReplyTo_eq_some.mp usable, requestId, said,
    toOption_parseRequestId.mp identified, answered, toOption_eq_some.mp encoded⟩

theorem invocation_eq_some {request : Req} {given : RequestContext Context}
    (h : invocation codec contract publisher around context envelope = some (request, given)) :
    (∃ destination, UsableDestination publisher envelope destination) ∧
      parseRequestId codec.uuid envelope = .present given.requestId ∧
      readProtocolVersion envelope = some protocolVersion ∧
      servable (readDeadline envelope around.now) = some given.deadline ∧
      decodeMessage contract.request envelope = .ok request := by
  obtain ⟨destination, usable, h⟩ := Option.bind_eq_some_iff.mp h
  obtain ⟨requestId, identified, h⟩ := Option.bind_eq_some_iff.mp h
  obtain ⟨deadline, judged, h⟩ := Option.bind_eq_some_iff.mp h
  obtain ⟨decoded, payload, h⟩ := Option.map_eq_some_iff.mp h
  obtain ⟨rfl, rfl⟩ := Prod.mk.inj h
  obtain ⟨supported, judged⟩ := Option.ite_none_right_eq_some.mp judged
  exact ⟨⟨destination, validatedReplyTo_eq_some.mp usable⟩,
    toOption_parseRequestId.mp identified, supported, judged, toOption_eq_some.mp payload⟩

theorem publications_eq_nil_of_unusable
    (unusable : (∀ destination, ¬UsableDestination publisher envelope destination) ∨
      ∀ requestId, parseRequestId codec.uuid envelope ≠ .present requestId) :
    publications (dispatch codec contract publisher handler around context envelope).2 = [] := by
  rw [publications_dispatch]
  rcases found : publication codec contract publisher handler around context envelope with
    _ | ⟨destination, reply⟩
  · rfl
  obtain ⟨usable, requestId, -, identified, -⟩ := publication_eq_some found
  rcases unusable with noDestination | noIdentity
  · exact absurd usable (noDestination destination)
  · exact absurd identified (noIdentity requestId)

theorem publications_eq_nil_of_expired
    (supported : readProtocolVersion envelope = some protocolVersion)
    (elapsed : readDeadline envelope around.now = .expired) :
    publications (dispatch codec contract publisher handler around context envelope).2 = [] := by
  rw [publications_dispatch]
  rcases found : publication codec contract publisher handler around context envelope with
    _ | ⟨destination, reply⟩
  · rfl
  obtain ⟨-, requestId, said, -, answered, -⟩ := publication_eq_some found
  rw [answer, if_pos supported, elapsed] at answered
  cases answered

/-- One dispatch publishes at most once and only to a destination and under an identity of
its own envelope, runs its handler at most once and behind every guard, and stays silent
where a guard has to. -/
theorem dispatch_guarded (codec : ErrorCodec) (contract : Contract Req Rep)
    (publisher : ReplyPublisher) (handler : RequestHandler Req Rep Context)
    (around : Surroundings) (context : Context) (envelope : Envelope) :
    let actions := (dispatch codec contract publisher handler around context envelope).2
    (publications actions).length ≤ 1 ∧
    (∀ destination reply, (destination, reply) ∈ publications actions →
      UsableDestination publisher envelope destination ∧ ∃ requestId,
        parseRequestId codec.uuid envelope = .present requestId ∧
          CarriesIdentity codec requestId reply) ∧
    (handlings actions).length ≤ 1 ∧
    (∀ request given, (request, given) ∈ handlings actions →
      (∃ destination, UsableDestination publisher envelope destination) ∧
        parseRequestId codec.uuid envelope = .present given.requestId ∧
        readProtocolVersion envelope = some protocolVersion ∧
        (readDeadline envelope around.now = .absent ∨
          ∃ remaining, readDeadline envelope around.now = .live remaining) ∧
        decodeMessage contract.request envelope = .ok request) ∧
    (((∀ destination, ¬UsableDestination publisher envelope destination) ∨
        ∀ requestId, parseRequestId codec.uuid envelope ≠ .present requestId) →
      publications actions = []) ∧
    (readProtocolVersion envelope = some protocolVersion →
      readDeadline envelope around.now = .expired → publications actions = []) := by
  refine ⟨?_, ?_, ?_, ?_, publications_eq_nil_of_unusable, publications_eq_nil_of_expired⟩
  · rw [publications_dispatch]
    exact Option.length_toList_le
  · intro destination reply member
    rw [publications_dispatch, Option.mem_toList] at member
    obtain ⟨usable, requestId, said, identified, -, encoded⟩ := publication_eq_some member
    exact ⟨usable, requestId, identified, carriesIdentity_encodeAnswer encoded⟩
  · rw [handlings_dispatch]
    exact Option.length_toList_le
  · intro request given member
    rw [handlings_dispatch, Option.mem_toList] at member
    obtain ⟨usable, identified, supported, judged, decoded⟩ := invocation_eq_some member
    refine ⟨usable, identified, supported, ?_, decoded⟩
    rcases servable_eq_some.mp judged with ⟨absent, -⟩ | ⟨remaining, live, -⟩
    · exact Or.inl absent
    · exact Or.inr ⟨remaining, live⟩

end Replies

section Samples

def sampleInbox : String := "amq.gen-Xa8sK2p"

/-- A publisher under the RabbitMQ rule whose publications all succeed. -/
def samplePublisher : ReplyPublisher := ⟨acceptReplyDestination, fun _ _ => .ok ()⟩

def sampleCaller : RequestId := Uuid.fromU128 9

def sampleRefusal : Bytes := utf8 ("\x7b\"error_type\":\"Unsupported\",\"request_id\":" ++
  "\"00000000-0000-0000-0000-000000000009\"\x7d")

/-- The JSON form of the one error payload that is written below. -/
def sampleErrorCodec : ErrorCodec where
  uuid := .hyphenated
  decodeError bytes :=
    if bytes = sampleRefusal then .ok ⟨.unsupported, sampleCaller⟩ else .error "unknown payload"
  encodeError payload :=
    if payload = ⟨.unsupported, sampleCaller⟩ then .ok sampleRefusal else .error "unknown payload"
  decode_encode payload bytes h := by
    split at h
    · rename_i same
      rw [same, ← Except.ok.inj h, if_pos rfl]
    · cases h

def sampleContract : Contract Unit Bool where
  request := ⟨"tests.ping", fun _ => .ok (utf8 "\x7b\x7d"),
    fun bytes => if bytes = utf8 "\x7b\x7d" then .ok () else .error "expected an object"⟩
  reply := ⟨"tests.pong", fun value => .ok (utf8 (if value then "true" else "false")),
    fun bytes => if bytes = utf8 "true" then .ok true
      else if bytes = utf8 "false" then .ok false else .error "expected a boolean"⟩

def sampleHandler : RequestHandler Unit Bool Unit := fun _ _ => .returned (.ok true)

def sampleSurroundings : Surroundings where
  now := ⟨5000000000, by decide⟩
  elapsed := Duration.fromSecs 1
  minted := Uuid.fromU128 10
  publishedAt := unixEpoch

/-- A request of a later protocol version whose deadline passed four seconds ago. -/
def lateUnsupported : Envelope where
  messageId := Uuid.fromU128 11
  messageType := "tests.ping"
  payload := utf8 "\x7b\x7d"
  correlationId := Uuid.fromU128 12
  replyTo := some sampleInbox
  headers := ∅
  protocolHeaders := (((∅ : HeaderMap).insert requestIdHeader
    "00000000-0000-0000-0000-000000000009").insert protocolVersionHeader "2").insert
    deadlineHeader "1000"
  publishedAt := unixEpoch

/-- The version is judged before the deadline, so this elapsed request is still answered. -/
theorem elapsed_request_answered :
    readDeadline lateUnsupported sampleSurroundings.now = .expired ∧
      (publications (dispatch sampleErrorCodec sampleContract samplePublisher sampleHandler
        sampleSurroundings () lateUnsupported).2).length = 1 := by
  decide +kernel

end Samples

end BusResponder
