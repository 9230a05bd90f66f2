import Hexeract.BusReplyDelivery

/-! # The request client

Any number of calls, of closers on clones of the client and of deliveries run beside one
supervisor of the reply inbox. An event is one access to shared state by one of them; what
a call does between two accesses is part of its phase. -/
namespace BusRequestClient

open LibraryMachines LibraryFramedBytes StdTime BusErrors BusEnvelope BusReplyAcceptance
open BusRequestRegistry

inductive ProtocolViolation where
  | missingHeader (header : String)
  | unsupportedVersion (version : ℕ)
  | unexpectedReplyType (expected actual : String)
  | identityCollision
  | identityMismatch
  deriving DecidableEq, Repr

inductive RequestError where
  | timeout (elapsed : Duration) (lastRejection : Option ReplyRejection)
      (rejectedDeliveries : UInt32)
  | atCapacity
  | closed
  | publicationUnknown
  | remote (errorType : RemoteErrorType) (requestId : RequestId)
  | protocol (violation : ProtocolViolation)
  | encode (error : BusError)
  | transport (error : BusError)
  | decode (error : BusError)
  deriving DecidableEq

def RequestError.fromRejection : RegisterRejection → RequestError
  | .atCapacity => .atCapacity
  | .closed => .closed
  | .slotOccupied => .protocol .identityCollision

inductive RequestOutcome where
  | succeeded
  | timedOut
  | remoteFailed
  | transportFailed
  | refused
  | publicationUnknown
  | invalidReply
  | cancelled
  deriving DecidableEq, Repr

def RequestOutcome.of {α : Type} : Except RequestError α → RequestOutcome
  | .ok _ => .succeeded
  | .error (.timeout _ _ _) => .timedOut
  | .error (.remote _ _) => .remoteFailed
  | .error (.transport _) => .transportFailed
  | .error .atCapacity => .refused
  | .error .closed => .refused
  | .error (.encode _) => .refused
  | .error (.protocol .identityCollision) => .refused
  | .error .publicationUnknown => .publicationUnknown
  | .error (.protocol _) => .invalidReply
  | .error (.decode _) => .invalidReply

structure RequestClientCounters where
  inFlight : UInt64
  started : UInt64
  succeeded : UInt64
  timedOut : UInt64
  remoteFailed : UInt64
  transportFailed : UInt64
  refused : UInt64
  publicationUnknown : UInt64
  invalidReply : UInt64
  cancelled : UInt64
  deriving DecidableEq, Repr

section Counters

variable (counters : RequestClientCounters)

def RequestClientCounters.countStarted : RequestClientCounters :=
  { counters with started := counters.started + 1 }

def RequestClientCounters.raiseInFlight : RequestClientCounters :=
  { counters with inFlight := counters.inFlight + 1 }

def RequestClientCounters.releaseInFlight : RequestClientCounters :=
  { counters with inFlight := counters.inFlight - 1 }

def RequestClientCounters.countOutcome : RequestOutcome → RequestClientCounters
  | .succeeded => { counters with succeeded := counters.succeeded + 1 }
  | .timedOut => { counters with timedOut := counters.timedOut + 1 }
  | .remoteFailed => { counters with remoteFailed := counters.remoteFailed + 1 }
  | .transportFailed => { counters with transportFailed := counters.transportFailed + 1 }
  | .refused => { counters with refused := counters.refused + 1 }
  | .publicationUnknown =>
    { counters with publicationUnknown := counters.publicationUnknown + 1 }
  | .invalidReply => { counters with invalidReply := counters.invalidReply + 1 }
  | .cancelled => { counters with cancelled := counters.cancelled + 1 }

end Counters

structure PublicationState where
  closing : Bool
  inFlight : ℕ
  drained : Bool
  deriving DecidableEq, Repr

def PublicationState.default : PublicationState := ⟨false, 0, true⟩

/-- Refused once shutdown has started. -/
def PublicationState.admission (state : PublicationState) :
    Except RequestError PublicationState :=
  if state.closing then .error .closed
  else .ok { state with
    inFlight := state.inFlight + 1
    drained := if state.inFlight = 0 then false else state.drained }

def PublicationState.dropPermit (state : PublicationState) : PublicationState :=
  { state with
    inFlight := state.inFlight - 1
    drained := if state.inFlight - 1 = 0 then true else state.drained }

inductive ReplyInboxState where
  | ready (inbox : String)
  | reconnecting
  deriving DecidableEq, Repr

/-- One call: its identity, its types and what the codecs do with its own values. -/
structure Request where
  requestId : RequestId
  replyMessageType : String
  timeout : Duration
  encode : Except BusError Unit
  decode : Envelope → Except BusError Unit

def replyChannelLost : BusError :=
  .connection "reply inbox channel closed before a reply arrived" true

def replyInboxReconnecting : BusError :=
  .connection "reply inbox is reconnecting: no fresh inbox exists yet after a broker drop" true

def decodeReply (codec : ReplyCodec) (request : Request) (reply : Envelope) :
    Except RequestError Unit :=
  match readProtocolVersion reply with
  | none => .error (.protocol (.missingHeader protocolVersionHeader))
  | some version =>
    if version = protocolVersion then
      match reply.header replyStatusHeader with
      | none => .error (.protocol (.missingHeader replyStatusHeader))
      | some status =>
        if status = replyStatusOk then
          if reply.messageType = request.replyMessageType then
            (request.decode reply).mapError .decode
          else .error (.protocol (.unexpectedReplyType request.replyMessageType
            reply.messageType))
        else if status = replyStatusError then
          if reply.messageType = replyErrorMessageType then
            match codec.decodeError reply.payload with
            | .error text => .error (.decode (.serialization text))
            | .ok payload =>
              if payload.requestId = request.requestId then
                .error (.remote payload.errorType request.requestId)
              else .error (.protocol .identityMismatch)
          else .error (.protocol (.unexpectedReplyType replyErrorMessageType reply.messageType))
        else .error (.protocol (.missingHeader replyStatusHeader))
    else .error (.protocol (.unsupportedVersion version))

theorem decodeReply_error {codec : ReplyCodec} {request : Request} {reply : Envelope}
    {error : RequestError} (h : decodeReply codec request reply = .error error) :
    (∃ violation, error = .protocol violation ∧ violation ≠ .identityCollision) ∨
      (∃ failure, error = .decode failure) ∨
      ∃ errorType requestId, error = .remote errorType requestId := by
  unfold decodeReply at h
  split at h
  · cases h
    exact .inl ⟨_, rfl, nofun⟩
  · split at h
    · split at h
      · cases h
        exact .inl ⟨_, rfl, nofun⟩
      · split at h
        · split at h
          · cases decoded : request.decode reply with
            | ok value =>
              rw [decoded] at h
              cases h
            | error failure =>
              rw [decoded] at h
              cases h
              exact .inr (.inl ⟨_, rfl⟩)
          · cases h
            exact .inl ⟨_, rfl, nofun⟩
        · split at h
          · split at h
            · split at h
              · cases h
                exact .inr (.inl ⟨_, rfl⟩)
              · split at h <;> cases h
                · exact .inr (.inr ⟨_, _, rfl⟩)
                · exact .inl ⟨_, rfl, nofun⟩
            · cases h
              exact .inl ⟨_, rfl, nofun⟩
          · cases h
            exact .inl ⟨_, rfl, nofun⟩
    · cases h
      exact .inl ⟨_, rfl, nofun⟩

/-! ## Phases -/

/-- The reply address of a call and how many marks had been made when it was read. -/
structure Address where
  inbox : String
  epoch : ℕ
  deriving DecidableEq, Repr

/-- How a call ends: with a result for its caller, or by the drop of its future. -/
inductive Report where
  | finished (result : Except RequestError ReplyAuthentication)
  | cancelled
  deriving DecidableEq

/-- Where a call stands; a guard is the position of its pending reply. -/
inductive CallPhase where
  | idle
  | started
  | registered (guard : ℕ)
  | admitted (guard : ℕ)
  | addressed (guard : ℕ) (address : Address)
  | encoded (guard : ℕ) (address : Address)
  | permitted (guard : ℕ) (address : Address)
  | publishing (guard : ℕ) (address : Address)
  | published (guard : ℕ) (address : Address)
  | waiting (guard : ℕ) (address : Address)
  | woken (guard : ℕ)
  | rechecking (guard : ℕ)
  | timingOut (guard : ℕ) (permit : Bool)
  | countingRejections (guard : ℕ) (permit : Bool) (lastRejection : Option ReplyRejection)
  | leaving (guard : ℕ) (permit : Bool) (report : Report)
  | unguarded (report : Report) (isAdmitted : Bool)
  | settling (report : Report) (isAdmitted : Bool)
  | done (report : Report)
  deriving DecidableEq

inductive CloserPhase where
  | idle
  | begun (waits : Bool)
  | registryClosed (waits : Bool)
  | drained
  | finished
  deriving DecidableEq, Repr

inductive SupervisorPhase where
  | running
  | marked
  | reconnecting
  deriving DecidableEq, Repr

/-- The last three fields are observations that no code reads. -/
structure Client (n m : ℕ) where
  registry : RequestRegistry
  counters : RequestClientCounters
  lifecycle : PublicationState
  replyInbox : ReplyInboxState
  cancelled : Bool
  supervisor : SupervisorPhase
  calls : Fin n → CallPhase
  closers : Fin m → CloserPhase
  marks : ℕ
  drains : ℕ
  handed : Fin n → Bool

def Client.new (n m maxInFlight : ℕ) (inbox : String) : Client n m where
  registry := .new maxInFlight
  counters := ⟨0, 0, 0, 0, 0, 0, 0, 0, 0, 0⟩
  lifecycle := .default
  replyInbox := .ready inbox
  cancelled := false
  supervisor := .running
  calls := fun _ => .idle
  closers := fun _ => .idle
  marks := 0
  drains := 0
  handed := fun _ => false

variable {n m : ℕ}

def Client.moveTo (client : Client n m) (c : Fin n) (phase : CallPhase) : Client n m :=
  { client with calls := Function.update client.calls c phase }

/-! ## Steps of one call -/

def lastRejection (registry : RequestRegistry) (requestId : RequestId) : Option ReplyRejection :=
  (registry.slots.lookup requestId).bind Slot.lastRejection

def rejectedDeliveries (registry : RequestRegistry) (requestId : RequestId) : UInt32 :=
  ((registry.slots.lookup requestId).map Slot.rejectedDeliveries).getD 0

/-- The observation's outcome is counted before the gauge comes down, except that a dropped
future first brings the gauge down. -/
def settleFirst (counters : RequestClientCounters) (isAdmitted : Bool) :
    Report → RequestClientCounters
  | .finished result => counters.countOutcome (.of result)
  | .cancelled => if isAdmitted then counters.releaseInFlight else counters

def settleSecond (counters : RequestClientCounters) (isAdmitted : Bool) :
    Report → RequestClientCounters
  | .finished _ => if isAdmitted then counters.releaseInFlight else counters
  | .cancelled => counters.countOutcome .cancelled

section Call

variable (codec : ReplyCodec) (requests : Fin n → Request) (client : Client n m) (c : Fin n)

def failWith (guard : ℕ) (permit : Bool) (error : RequestError) : Client n m :=
  client.moveTo c (.leaving guard permit (.finished (.error error)))

/-- The next access to shared state of a call that is not waiting for anything. -/
def advance : Client n m :=
  match client.calls c with
  | .idle => { client with counters := client.counters.countStarted }.moveTo c .started
  | .started =>
    match client.registry.register (requests c).requestId ⟨(requests c).replyMessageType⟩ with
    | .ok (registry, guard) => { client with registry }.moveTo c (.registered guard)
    | .error rejection =>
      client.moveTo c (.unguarded (.finished (.error (.fromRejection rejection))) false)
  | .registered guard =>
    { client with counters := client.counters.raiseInFlight }.moveTo c (.admitted guard)
  | .admitted guard =>
    match client.replyInbox with
    | .ready inbox => client.moveTo c (.addressed guard ⟨inbox, client.marks⟩)
    | .reconnecting => failWith client c guard false (.transport replyInboxReconnecting)
  | .addressed guard address =>
    match (requests c).encode with
    | .ok _ => client.moveTo c (.encoded guard address)
    | .error error => failWith client c guard false (.encode error)
  | .encoded guard address =>
    match client.lifecycle.admission with
    | .ok lifecycle => { client with lifecycle }.moveTo c (.permitted guard address)
    | .error error => failWith client c guard false error
  | .permitted guard address =>
    { client with handed := Function.update client.handed c true }.moveTo c
      (.publishing guard address)
  | .publishing guard address => client.moveTo c (.published guard address)
  | .published guard address =>
    { client with lifecycle := client.lifecycle.dropPermit }.moveTo c (.waiting guard address)
  | .waiting guard _ =>
    match receiverAt client.registry guard with
    | some (.holds envelope authentication) =>
      client.moveTo c (.leaving guard false (.finished
        ((decodeReply codec (requests c) envelope).map fun _ => authentication)))
    | some .closed => client.moveTo c (.woken guard)
    | _ => client
  | .woken guard =>
    if client.lifecycle.closing then failWith client c guard false .publicationUnknown
    else client.moveTo c (.rechecking guard)
  | .rechecking guard =>
    if client.registry.closed then failWith client c guard false .publicationUnknown
    else failWith client c guard false (.transport replyChannelLost)
  | .timingOut guard permit =>
    client.moveTo c (.countingRejections guard permit
      (lastRejection client.registry (requests c).requestId))
  | .countingRejections guard permit last =>
    failWith client c guard permit (.timeout (requests c).timeout last
      (rejectedDeliveries client.registry (requests c).requestId))
  -- the permit was taken after the guard, so it is dropped first
  | .leaving guard true report =>
    { client with lifecycle := client.lifecycle.dropPermit }.moveTo c (.leaving guard false report)
  | .leaving guard false report =>
    { client with registry := client.registry.dropPending guard }.moveTo c (.unguarded report true)
  | .unguarded report isAdmitted =>
    { client with counters := settleFirst client.counters isAdmitted report }.moveTo c
      (.settling report isAdmitted)
  | .settling report isAdmitted =>
    { client with counters := settleSecond client.counters isAdmitted report }.moveTo c
      (.done report)
  | .done _ => client

/-- A waiting call is polled again only once its channel is ready. -/
def canAdvance : Bool :=
  match client.calls c with
  | .waiting guard _ => receiverAt client.registry guard != some .empty
  | .done _ => false
  | _ => true

def isPublishing : Bool :=
  match client.calls c with
  | .publishing _ _ => true
  | _ => false

/-- A future can be dropped at its two await points only. -/
def atAwait : Bool :=
  match client.calls c with
  | .publishing _ _ => true
  | .waiting _ _ => true
  | _ => false

/-- The deadline is looked at after the awaited future was found pending. -/
def deadlineCanPass : Bool :=
  match client.calls c with
  | .publishing _ _ => true
  | .waiting guard _ => receiverAt client.registry guard == some .empty
  | _ => false

def publishFails (error : BusError) : Client n m :=
  match client.calls c with
  | .publishing guard _ => failWith client c guard true (.transport error)
  | _ => client

def deadlinePasses : Client n m :=
  match client.calls c with
  | .publishing guard _ => client.moveTo c (.timingOut guard true)
  | .waiting guard _ => client.moveTo c (.timingOut guard false)
  | _ => client

def dropFuture : Client n m :=
  match client.calls c with
  | .publishing guard _ => client.moveTo c (.leaving guard true .cancelled)
  | .waiting guard _ => client.moveTo c (.leaving guard false .cancelled)
  | _ => client

end Call

/-! ## Steps of the others -/

section Others

variable (client : Client n m)

/-- One closer: shutdown begins, the registry is closed, the publications admitted before
are waited for, and only then the token is cancelled. -/
def closeStep (j : Fin m) (order : List RequestId) : Client n m :=
  match client.closers j with
  | .idle =>
    { client with
      lifecycle := { client.lifecycle with closing := true }
      closers := Function.update client.closers j (.begun (client.lifecycle.inFlight != 0)) }
  | .begun waits =>
    { client with
      registry := client.registry.close order
      closers := Function.update client.closers j (.registryClosed waits) }
  | .registryClosed _ => { client with closers := Function.update client.closers j .drained }
  | .drained =>
    { client with
      cancelled := true
      closers := Function.update client.closers j .finished }
  | .finished => client

def canClose (j : Fin m) (order : List RequestId) : Bool :=
  match client.closers j with
  | .begun _ => decide (order.Perm client.registry.slots.keys)
  | .registryClosed waits => !waits || client.lifecycle.drained
  | .finished => false
  | _ => true

/-- Connection loss, first half: calls that read the inbox from now on fail fast. -/
def markReconnecting : Client n m :=
  { client with
    replyInbox := .reconnecting
    supervisor := .marked
    marks := client.marks + 1 }

def drainRegistry (order : List RequestId) : Client n m :=
  { client with
    registry := client.registry.drain order
    supervisor := .reconnecting
    drains := client.drains + 1 }

def publishInbox (inbox : String) : Client n m :=
  { client with
    replyInbox := .ready inbox
    supervisor := .running }

end Others

inductive Event (n m : ℕ) where
  | advance (c : Fin n)
  | publishFails (c : Fin n) (error : BusError)
  | deadlinePasses (c : Fin n)
  | dropFuture (c : Fin n)
  | close (j : Fin m) (order : List RequestId)
  | deliver (envelope : Envelope) (authentication : Except TransportRefusal ReplyAuthentication)
  | undecodable
  | mark
  | drain (order : List RequestId)
  | reconnect (inbox : String)

def Enabled (client : Client n m) : Event n m → Prop
  | .advance c => canAdvance client c = true
  | .publishFails c _ => isPublishing client c = true
  | .deadlinePasses c => deadlineCanPass client c = true
  | .dropFuture c => atAwait client c = true
  | .close j order => canClose client j order = true
  | .mark => client.supervisor = .running
  | .drain order => client.supervisor = .marked ∧ order.Perm client.registry.slots.keys
  | .reconnect _ => client.supervisor = .reconnecting
  | _ => True

instance (client : Client n m) : (event : Event n m) → Decidable (Enabled client event)
  | .advance _ => inferInstanceAs (Decidable (_ = true))
  | .publishFails _ _ => inferInstanceAs (Decidable (_ = true))
  | .deadlinePasses _ => inferInstanceAs (Decidable (_ = true))
  | .dropFuture _ => inferInstanceAs (Decidable (_ = true))
  | .close _ _ => inferInstanceAs (Decidable (_ = true))
  | .mark => inferInstanceAs (Decidable (client.supervisor = .running))
  | .drain _ => inferInstanceAs (Decidable (client.supervisor = .marked ∧ _))
  | .reconnect _ => inferInstanceAs (Decidable (client.supervisor = .reconnecting))
  | .deliver _ _ => isTrue trivial
  | .undecodable => isTrue trivial

def next (codec : ReplyCodec) (requests : Fin n → Request) (client : Client n m) :
    Event n m → Client n m
  | .advance c => advance codec requests client c
  | .publishFails c error => publishFails client c error
  | .deadlinePasses c => deadlinePasses client c
  | .dropFuture c => dropFuture client c
  | .close j order => closeStep client j order
  | .deliver envelope authentication =>
    { client with registry := client.registry.resolve codec envelope authentication }
  | .undecodable => { client with registry := client.registry.recordRejectionKind .undecodable }
  | .mark => markReconnecting client
  | .drain order => drainRegistry client order
  | .reconnect inbox => publishInbox client inbox

def machine (codec : ReplyCodec) (requests : Fin n → Request) : Machine (Client n m) (Event n m) :=
  ⟨Enabled, next codec requests⟩

def sampleRequest (requestId : RequestId) : Request where
  requestId := requestId
  replyMessageType := "test.pong"
  timeout := ⟨nanosPerSec, by decide⟩
  encode := .ok ()
  decode := fun _ => .ok ()

def firstCall : Fin 2 := 0

def secondCall : Fin 2 := 1

def sampleRequests {n : ℕ} (c : Fin n) : Request := sampleRequest (Uuid.fromU128 (5 + c))

end BusRequestClient
