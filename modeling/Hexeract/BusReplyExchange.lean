import Hexeract.BusRequestClient
import Hexeract.BusResponder

/-! # A call from end to end

What the responder publishes for a request is what the client's registry lets through and
what the client decodes. -/
namespace BusReplyExchange

open LibraryCollections LibraryDecimalText StdTime BusErrors BusEnvelope BusDeadline
open BusReplyAcceptance BusRequestRegistry BusRequestClient BusResponder

variable {Req Rep Context : Type}

def requestEnvelope (uuid : UuidText) (contract : Contract Req Rep) (minted correlationId : Uuid)
    (inbox : String) (request : Req) (requestId : RequestId) (now : SystemTime)
    (timeout : Duration) : Except BusError Envelope :=
  (Envelope.withReplyTo minted correlationId contract.request.messageType inbox
    (contract.request.serialize request) now).map fun envelope =>
    stampDeadline ((envelope.insertProtocolHeader requestIdHeader
      (uuid.render requestId)).insertProtocolHeader protocolVersionHeader
      (String.ofList (renderNat protocolVersion))) now timeout

def decodeTypedReply (codec : ReplyCodec) (message : Message Rep) (requestId : RequestId)
    (reply : Envelope) : Except RequestError Rep :=
  match readProtocolVersion reply with
  | none => .error (.protocol (.missingHeader protocolVersionHeader))
  | some version =>
    if version = protocolVersion then
      match reply.header replyStatusHeader with
      | none => .error (.protocol (.missingHeader replyStatusHeader))
      | some status =>
        if status = replyStatusOk then
          if reply.messageType = message.messageType then
            (decodeMessage message reply).mapError .decode
          else .error (.protocol (.unexpectedReplyType message.messageType reply.messageType))
        else if status = replyStatusError then
          if reply.messageType = replyErrorMessageType then
            match codec.decodeError reply.payload with
            | .error text => .error (.decode (.serialization text))
            | .ok payload =>
              if payload.requestId = requestId then .error (.remote payload.errorType requestId)
              else .error (.protocol .identityMismatch)
          else .error (.protocol (.unexpectedReplyType replyErrorMessageType reply.messageType))
        else .error (.protocol (.missingHeader replyStatusHeader))
    else .error (.protocol (.unsupportedVersion version))

/-- A call of the client's machine that awaits this message under this identity. -/
structure Awaits (message : Message Rep) (requestId : RequestId)
    (request : BusRequestClient.Request) : Prop where
  identity : request.requestId = requestId
  type_eq : request.replyMessageType = message.messageType
  decode_eq : ∀ envelope, request.decode envelope =
    (decodeMessage message envelope).map fun _ => ()

/-- The machine's decoder is the typed one without its value. -/
theorem decodeReply_of_awaits {codec : ReplyCodec} {message : Message Rep}
    {requestId : RequestId} {request : BusRequestClient.Request}
    (h : Awaits message requestId request) (reply : Envelope) :
    decodeReply codec request reply =
      (decodeTypedReply codec message requestId reply).map fun _ => () := by
  rw [decodeReply, decodeTypedReply, h.identity, h.type_eq, h.decode_eq]
  cases readProtocolVersion reply with
  | none => rfl
  | some version =>
    cases reply.header replyStatusHeader with
    | none => dsimp only; split_ifs <;> rfl
    | some status =>
      cases decodeMessage message reply <;> cases codec.decodeError reply.payload
      all_goals
        dsimp only
        split_ifs <;> rfl

/-! ## One judgement in two places

The registry checks a reply before it gives a slot away, the client checks it again before
it decodes it, each with errors of its own. -/

section Judgement

variable {codec : ReplyCodec} {message : Message Rep} {requestId : RequestId} {reply : Envelope}

structure Nominal (message : Message Rep) (reply : Envelope) : Prop where
  version : readProtocolVersion reply = some protocolVersion
  status : reply.header replyStatusHeader = some replyStatusOk
  type_eq : reply.messageType = message.messageType

structure Failed (codec : ReplyCodec) (requestId : RequestId) (payload : RemoteErrorPayload)
    (reply : Envelope) : Prop where
  version : readProtocolVersion reply = some protocolVersion
  status : reply.header replyStatusHeader = some replyStatusError
  type_eq : reply.messageType = replyErrorMessageType
  decoded : codec.decodeError reply.payload = .ok payload
  identity : payload.requestId = requestId

theorem accepts_iff {expectation : ReplyExpectation} :
    accepts expectation reply = .ok () ↔ readProtocolVersion reply = some protocolVersion ∧
      (reply.header replyStatusHeader = some replyStatusOk ∧
          reply.messageType = expectation.replyMessageType ∨
        reply.header replyStatusHeader = some replyStatusError ∧
          reply.messageType = replyErrorMessageType) := by
  have apart : replyStatusError ≠ replyStatusOk := by decide
  unfold accepts
  cases readProtocolVersion reply with
  | none => simp
  | some version =>
    cases reply.header replyStatusHeader with
    | none => by_cases supported : version = protocolVersion <;> simp [supported]
    | some status =>
      simp only [Option.some.injEq]
      by_cases supported : version = protocolVersion
      · by_cases ok : status = replyStatusOk
        · simp [supported, ok, apart.symm]
        · by_cases failed : status = replyStatusError <;> simp [supported, ok, failed, apart]
      · simp [supported]

theorem acceptsErrorIdentity_iff :
    acceptsErrorIdentity codec reply requestId = .ok () ↔
      (reply.header replyStatusHeader = some replyStatusError →
        ∃ payload, codec.decodeError reply.payload = .ok payload ∧
          payload.requestId = requestId) := by
  unfold acceptsErrorIdentity
  by_cases failed : reply.header replyStatusHeader = some replyStatusError
  · cases codec.decodeError reply.payload <;> simp [failed]
  · simp [failed]

theorem acceptance_iff :
    accepts ⟨message.messageType⟩ reply = .ok () ∧
        acceptsErrorIdentity codec reply requestId = .ok () ↔
      Nominal message reply ∨ ∃ payload, Failed codec requestId payload reply := by
  have apart : some replyStatusOk ≠ some replyStatusError := by decide
  rw [accepts_iff, acceptsErrorIdentity_iff]
  constructor
  · rintro ⟨⟨version, ⟨status, type_eq⟩ | ⟨status, type_eq⟩⟩, consistent⟩
    · exact .inl ⟨version, status, type_eq⟩
    · obtain ⟨payload, decoded, identity⟩ := consistent status
      exact .inr ⟨payload, version, status, type_eq, decoded, identity⟩
  · rintro (nominal | ⟨payload, failed⟩)
    · refine ⟨⟨nominal.version, .inl ⟨nominal.status, nominal.type_eq⟩⟩, fun status => ?_⟩
      exact absurd (nominal.status.symm.trans status) apart
    · exact ⟨⟨failed.version, .inr ⟨failed.status, failed.type_eq⟩⟩,
        fun _ => ⟨payload, failed.decoded, failed.identity⟩⟩

theorem Nominal.decode_eq (h : Nominal message reply) :
    decodeTypedReply codec message requestId reply =
      (message.decode reply.payload).mapError fun text => .decode (.serialization text) := by
  simp only [decodeTypedReply, h.version, h.status, h.type_eq, decodeMessage, if_true]
  cases message.decode reply.payload <;> rfl

theorem Failed.decode_eq {payload : RemoteErrorPayload} (h : Failed codec requestId payload reply) :
    decodeTypedReply codec message requestId reply =
      .error (.remote payload.errorType requestId) := by
  have apart : ¬replyStatusError = replyStatusOk := by decide
  simp only [decodeTypedReply, h.version, h.status, h.type_eq, h.decoded, h.identity, apart,
    if_true, if_false]

theorem judged_of_decode
    (settled : (∃ value, decodeTypedReply codec message requestId reply = .ok value) ∨
      ∃ category id, decodeTypedReply codec message requestId reply =
        .error (.remote category id)) :
    Nominal message reply ∨ ∃ payload, Failed codec requestId payload reply := by
  have apart : replyStatusError ≠ replyStatusOk := by decide
  unfold decodeTypedReply at settled
  cases version : readProtocolVersion reply with
  | none => simp [version] at settled
  | some announced =>
    by_cases supported : announced = protocolVersion
    · rw [supported] at version
      cases status : reply.header replyStatusHeader with
      | none => simp [version, status] at settled
      | some text =>
        by_cases ok : text = replyStatusOk
        · by_cases type_eq : reply.messageType = message.messageType
          · exact .inl ⟨version, status.trans (congrArg some ok), type_eq⟩
          · simp [version, status, ok, type_eq] at settled
        · by_cases failed : text = replyStatusError
          · by_cases type_eq : reply.messageType = replyErrorMessageType
            · cases decoded : codec.decodeError reply.payload with
              | error reason =>
                simp [version, status, failed, apart, type_eq, decoded] at settled
              | ok payload =>
                by_cases identity : payload.requestId = requestId
                · exact .inr ⟨payload, version, status.trans (congrArg some failed), type_eq,
                    decoded, identity⟩
                · simp [version, status, failed, apart, type_eq, decoded, identity] at settled
            · simp [version, status, failed, apart, type_eq] at settled
          · simp [version, status, ok, failed] at settled
    · simp [version, supported] at settled

end Judgement

/-- A reply both checks let through is decoded without a protocol violation, and fails to
decode only as a value; one that either check refuses is neither a value nor a remote
failure to the client. -/
theorem acceptance_agrees_with_decoding (codec : ReplyCodec) (message : Message Rep)
    (requestId : RequestId) (reply : Envelope) :
    (accepts ⟨message.messageType⟩ reply = .ok () ∧
        acceptsErrorIdentity codec reply requestId = .ok () →
      (∀ violation, decodeTypedReply codec message requestId reply ≠
        .error (.protocol violation)) ∧
      ∀ error, decodeTypedReply codec message requestId reply = .error (.decode error) →
        reply.header replyStatusHeader = some replyStatusOk ∧
          ∃ text, message.decode reply.payload = .error text) ∧
    (accepts ⟨message.messageType⟩ reply ≠ .ok () ∨
        acceptsErrorIdentity codec reply requestId ≠ .ok () →
      (∀ value, decodeTypedReply codec message requestId reply ≠ .ok value) ∧
      ∀ category id, decodeTypedReply codec message requestId reply ≠
        .error (.remote category id)) := by
  constructor
  · intro accepted
    rcases acceptance_iff.mp accepted with nominal | ⟨payload, failed⟩
    · rw [nominal.decode_eq]
      cases message.decode reply.payload with
      | ok value => exact ⟨fun _ => nofun, fun _ => nofun⟩
      | error text => exact ⟨fun _ => nofun, fun _ _ => ⟨nominal.status, text, rfl⟩⟩
    · rw [failed.decode_eq]
      exact ⟨fun _ => nofun, fun _ => nofun⟩
  · intro refused
    have unsettled :
        ¬(Nominal message reply ∨ ∃ payload, Failed codec requestId payload reply) := by
      rw [← acceptance_iff]
      exact fun both => refused.elim (absurd both.1) (absurd both.2)
    exact ⟨fun value h => unsettled (judged_of_decode (.inl ⟨value, h⟩)),
      fun category id h => unsettled (judged_of_decode (.inr ⟨category, id, h⟩))⟩

theorem header_requestEnvelope {uuid : UuidText} {contract : Contract Req Rep}
    {minted correlationId : Uuid} {inbox : String} {request : Req} {requestId : RequestId}
    {now : SystemTime} {timeout : Duration} {envelope : Envelope}
    (h : requestEnvelope uuid contract minted correlationId inbox request requestId now timeout =
      .ok envelope) :
    envelope.header requestIdHeader = some (uuid.render requestId) := by
  obtain ⟨built, -, rfl⟩ := map_ok.mp h
  have identity := reserved_replyHeaders.1
  rw [stampDeadline]
  split
  · rw [header_insert identity, if_neg (by decide), header_insert identity,
      if_neg (by decide), header_insert identity, if_pos rfl]
  · rw [header_insert identity, if_neg (by decide), header_insert identity, if_pos rfl]

section Replies

variable {codec : ErrorCodec} {contract : Contract Req Rep} {requestId : RequestId}
  {reply : Envelope} {status messageType : String}

theorem readableRequestId_reply
    (h : IsReply codec.uuid requestId status messageType reply) :
    readableRequestId codec.toReplyCodec reply = some requestId := by
  rw [readableRequestId, h.identity]
  exact codec.uuid.parse_render requestId

theorem accepts_reply {message : Message Rep} {codec : ReplyCodec}
    (h : Nominal message reply ∨ ∃ payload, Failed codec requestId payload reply) :
    acceptsReply codec ⟨message.messageType⟩ requestId reply = .ok () :=
  check_bind_ok.mpr (acceptance_iff.mpr h)

theorem pending_resolve {registry : RequestRegistry} {slot : Slot}
    {authentication : ReplyAuthentication} {codec : ReplyCodec}
    (named : readableRequestId codec reply = some requestId)
    (held : registry.slots.lookup requestId = some slot)
    (accepted : acceptsReply codec slot.expectation requestId reply = .ok ()) :
    (registry.resolve codec reply (.ok authentication)).pending =
      send registry.pending slot.sender reply authentication := by
  simp only [RequestRegistry.resolve, named, held, accepted]

/-- What was said is what the client reads, provided the reply type round-trips. -/
theorem encodeAnswer_understood {around : Surroundings} {envelope : Envelope}
    {said : Except RemoteErrorType Rep}
    (roundTrip : ∀ value bytes, contract.reply.encode value = .ok bytes →
      contract.reply.decode bytes = .ok value)
    (h : encodeAnswer codec contract around envelope requestId said = .ok reply) :
    readableRequestId codec.toReplyCodec reply = some requestId ∧
    acceptsReply codec.toReplyCodec ⟨contract.reply.messageType⟩ requestId reply = .ok () ∧
    decodeTypedReply codec.toReplyCodec contract.reply requestId reply =
      said.mapError fun category => .remote category requestId := by
  cases said with
  | ok value =>
    obtain ⟨answered, encoded⟩ := isReply_encodeAnswer_ok h
    have nominal : Nominal contract.reply reply :=
      ⟨answered.version, answered.status_eq, answered.type_eq⟩
    refine ⟨readableRequestId_reply answered, accepts_reply (.inl nominal), ?_⟩
    rw [nominal.decode_eq, roundTrip _ _ encoded]
    rfl
  | error category =>
    obtain ⟨answered, encoded⟩ := isReply_errorReply h
    have failed : Failed codec.toReplyCodec requestId ⟨category, requestId⟩ reply :=
      ⟨answered.version, answered.status_eq, answered.type_eq, codec.decode_encode _ _ encoded, rfl⟩
    exact ⟨readableRequestId_reply answered, accepts_reply (.inr ⟨_, failed⟩), failed.decode_eq⟩

end Replies

section Answers

variable {codec : ErrorCodec} {contract : Contract Req Rep} {publisher : ReplyPublisher}
  {handler : RequestHandler Req Rep Context} {around : Surroundings} {context : Context}
  {envelope : Envelope} {requestId : RequestId} {value : Rep}

theorem verdict_ok {outcome : Except BusError Rep} (h : verdict contract outcome = .ok value) :
    outcome = .ok value := by
  cases outcome with
  | error error => cases h
  | ok returned =>
    rw [verdict] at h
    split at h
    · rw [Except.ok.inj h]
    · cases h

theorem servedAnswer_ok {deadline : Option Duration}
    (h : servedAnswer contract handler around context envelope requestId deadline =
      some (.ok value)) :
    ∃ request, decodeMessage contract.request envelope = .ok request ∧
      handler request ⟨requestId, protocolVersion, deadline, context⟩ =
        .returned (.ok value) := by
  rw [servedAnswer] at h
  cases decoded : decodeMessage contract.request envelope with
  | error error =>
    rw [decoded] at h
    cases h
  | ok request =>
    rw [decoded] at h
    dsimp only at h
    refine ⟨request, rfl, ?_⟩
    cases handled : handler request ⟨requestId, protocolVersion, deadline, context⟩ with
    | panicked message =>
      rw [handled] at h
      cases h
    | returned outcome =>
      rw [handled] at h
      obtain ⟨-, h⟩ := Option.ite_none_left_eq_some.mp h
      rw [verdict_ok (Option.some.inj h)]

theorem answer_ok {destination : ReplyDestination}
    (usable : UsableDestination publisher envelope destination)
    (identified : parseRequestId codec.uuid envelope = .present requestId)
    (h : answer contract handler around context envelope requestId = some (.ok value)) :
    ∃ request given, handlings (dispatch codec contract publisher handler around context
      envelope).2 = [(request, given)] ∧ handler request given = .returned (.ok value) := by
  rw [handlings_dispatch, invocation, validatedReplyTo_eq_some.mpr usable, identified]
  simp only [RequestIdHeader.toOption, admitted, Option.bind_eq_bind, Option.bind_some]
  rw [answer] at h
  split at h
  · rename_i supported
    rw [if_pos supported]
    cases reading : readDeadline envelope around.now with
    | expired => rw [reading] at h; cases h
    | invalid violation => rw [reading] at h; cases h
    | absent =>
      rw [reading] at h
      obtain ⟨request, decoded, handled⟩ := servedAnswer_ok h
      exact ⟨request, _, by rw [decoded]; rfl, handled⟩
    | live remaining =>
      rw [reading] at h
      obtain ⟨request, decoded, handled⟩ := servedAnswer_ok h
      exact ⟨request, _, by rw [decoded]; rfl, handled⟩
  · cases h

end Answers

/-- Every reply to a request issued under an identity reaches the slot of that identity and
decodes to the value the handler returned, or to the category the responder chose. -/
theorem published_reply_understood (codec : ErrorCodec) (contract : Contract Req Rep)
    (publisher : ReplyPublisher) (handler : RequestHandler Req Rep Context)
    (around : Surroundings) (context : Context) (envelope : Envelope) (requestId : RequestId)
    (roundTrip : ∀ value bytes, contract.reply.encode value = .ok bytes →
      contract.reply.decode bytes = .ok value)
    (issued : envelope.header requestIdHeader = some (codec.uuid.render requestId))
    (destination : ReplyDestination) (reply : Envelope)
    (published : (destination, reply) ∈
      publications (dispatch codec contract publisher handler around context envelope).2) :
    acceptsReply codec.toReplyCodec ⟨contract.reply.messageType⟩ requestId reply = .ok () ∧
    (∀ (registry : RequestRegistry) (slot : Slot) (authentication : ReplyAuthentication),
      registry.slots.lookup requestId = some slot →
      slot.expectation = ⟨contract.reply.messageType⟩ →
      (registry.resolve codec.toReplyCodec reply (.ok authentication)).pending =
        send registry.pending slot.sender reply authentication) ∧
    ((∃ request given value,
        handlings (dispatch codec contract publisher handler around context envelope).2 =
          [(request, given)] ∧
        handler request given = .returned (.ok value) ∧
        decodeTypedReply codec.toReplyCodec contract.reply requestId reply = .ok value) ∨
      ∃ category,
        answer contract handler around context envelope requestId = some (.error category) ∧
        decodeTypedReply codec.toReplyCodec contract.reply requestId reply =
          .error (.remote category requestId)) := by
  have issuedId : parseRequestId codec.uuid envelope = .present requestId := by
    rw [parseRequestId, issued]
    simp only [codec.uuid.parse_render]
  rw [publications_dispatch, Option.mem_toList] at published
  obtain ⟨usable, parsed, said, identified, answered, encoded⟩ := publication_eq_some published
  obtain rfl : requestId = parsed := by
    rw [issuedId] at identified
    exact RequestIdHeader.present.inj identified
  obtain ⟨named, accepted, decoded⟩ := encodeAnswer_understood roundTrip encoded
  refine ⟨accepted, ?_, ?_⟩
  · intro registry slot authentication held expected
    rw [← expected] at accepted
    exact pending_resolve named held accepted
  · cases said with
    | ok value =>
      obtain ⟨request, given, once, handled⟩ := answer_ok usable issuedId answered
      exact Or.inl ⟨request, given, value, once, handled, decoded⟩
    | error category => exact Or.inr ⟨category, answered, decoded⟩

/-- The envelope of a call for a truth value, with a timeout of two seconds. -/
def sampleCall : Except BusError Envelope :=
  requestEnvelope .hyphenated sampleContract (Uuid.fromU128 13) (Uuid.fromU128 14) sampleInbox ()
    sampleCaller sampleSurroundings.now (Duration.fromSecs 2)

theorem published_reply_understood_sample : ∃ envelope destination reply,
    sampleCall = .ok envelope ∧
    (destination, reply) ∈ publications (dispatch sampleErrorCodec sampleContract samplePublisher
      sampleHandler sampleSurroundings () envelope).2 ∧
    acceptsReply sampleErrorCodec.toReplyCodec ⟨"tests.pong"⟩ sampleCaller reply = .ok () := by
  have round : ∀ value bytes, sampleContract.reply.encode value = .ok bytes →
      sampleContract.reply.decode bytes = .ok value := by
    rintro value bytes ⟨⟩
    cases value <;> decide +kernel
  obtain ⟨envelope, called⟩ : ∃ envelope, sampleCall = .ok envelope := ⟨_, rfl⟩
  have once : (publications (dispatch sampleErrorCodec sampleContract samplePublisher
      sampleHandler sampleSurroundings () envelope).2).length = 1 := by
    obtain rfl := Except.ok.inj called
    decide +kernel
  obtain ⟨⟨destination, reply⟩, published⟩ := List.length_eq_one_iff.mp once
  have member := List.mem_of_mem_head? (congrArg List.head? published)
  exact ⟨envelope, destination, reply, called, member,
    (published_reply_understood sampleErrorCodec sampleContract samplePublisher sampleHandler
      sampleSurroundings () envelope sampleCaller round (header_requestEnvelope called)
      destination reply member).1⟩

end BusReplyExchange
