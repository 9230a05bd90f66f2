import Hexeract.RabbitmqWorkerRetry

/-! # How a failed delivery is settled

A dispatch that fails publishes at most one copy of its delivery and settles the delivery
by what became of the copy. -/
namespace RabbitmqSettlement

open LibraryCollections LibraryFramedBytes StdTime BusErrors BusEnvelope BusEnvelopeCanonical
open BusEnvelopeSecurity RabbitmqMetadata RabbitmqDelivery RabbitmqWorker RabbitmqVerification
open RabbitmqWorkerRetry

variable {SigningKey VerifyingKey Signature : Type}

inductive Failure where
  | poison (error : BusError)
  | exhausted (envelope : Envelope)
  | retry (envelope : Envelope)

section Failures

variable (P : Primitives SigningKey VerifyingKey Signature) (worker : Worker VerifyingKey)
  (around : Surroundings) (delivery : Delivery)

def Failure.settle : Failure → Traced
  | .poison error => handlePoison worker around delivery error
  | .exhausted envelope => handleExhausted worker around delivery envelope
  | .retry envelope => scheduleRetry around delivery envelope (waitQueueName worker.queue)

/-- Where the outcome of the handler leads; only manual acknowledgement looks at it. -/
def outcomeFailure (envelope : Envelope) (outcome : Except BusError Unit) : Option Failure :=
  match worker.config.ackMode, outcome with
  | .manual, .error error =>
    match routeFailure error (currentAttempt worker delivery) worker.config.maxAttempts.toNat with
    | .retry => some (.retry envelope)
    | .deadLetter _ => some (.exhausted envelope)
  | _, _ => none

def failure : Option Failure :=
  match verdict P worker around delivery with
  | .error error => some (.poison error)
  | .ok (envelope, principal) =>
    outcomeFailure worker delivery envelope (handlerOutcome worker envelope
      (authenticationFromVerification worker.config.envelopeSecurity principal)).1

def copies (actions : List WorkerAction) : List Publication :=
  actions.filterMap fun
    | .publish copy => some copy
    | _ => none

@[simp] theorem copies_append (l k : List WorkerAction) : copies (l ++ k) = copies l ++ copies k :=
  List.filterMap_append

theorem copies_handlerOutcome (envelope : Envelope) (authentication : PublisherAuthentication) :
    copies (handlerOutcome worker envelope authentication).2 = [] := by
  rw [handlerOutcome]
  cases worker.handlers envelope.messageType with
  | none => rfl
  | some handler =>
    dsimp only
    cases handler envelope authentication <;> rfl

theorem dispatch_of_verdict_error {error : BusError}
    (h : verdict P worker around delivery = .error error) :
    (dispatch worker around delivery P).1 = handlePoison worker around delivery error := by
  rw [verdict] at h
  cases decoded : decodeDelivery worker around delivery with
  | error refused =>
    rw [decoded] at h
    obtain rfl := Except.error.inj h
    simp only [dispatch, decoded]
  | ok envelope =>
    rw [decoded] at h
    dsimp only at h
    cases identity : (establishIdentity P worker.config.envelopeSecurity around.clock
        around.refresh envelope delivery.routingKey.asStr
        (delivery.properties.userId.map ShortString.asStr)).1 with
    | error refused =>
      rw [identity] at h
      obtain rfl := Except.error.inj h
      simp only [dispatch, decoded, verifyBeforeSettlement, identity]
    | ok principal =>
      rw [identity] at h
      cases h

theorem dispatch_of_verdict_ok (manual : worker.config.ackMode = .manual) {envelope : Envelope}
    {principal : Option VerifiedPrincipal}
    (h : verdict P worker around delivery = .ok (envelope, principal)) :
    (dispatch worker around delivery P).1 =
      ((handleManualOutcome worker around delivery envelope (handlerOutcome worker envelope
        (authenticationFromVerification worker.config.envelopeSecurity principal)).1).1,
      (handlerOutcome worker envelope
        (authenticationFromVerification worker.config.envelopeSecurity principal)).2 ++
      (handleManualOutcome worker around delivery envelope (handlerOutcome worker envelope
        (authenticationFromVerification worker.config.envelopeSecurity principal)).1).2) := by
  obtain ⟨decoded, identity⟩ := (verdict_ok P worker around delivery).mp h
  have settle : (AckMode.manual == AckMode.ackOnReceive) = false := rfl
  simp only [dispatch, decoded, verifyBeforeSettlement, identity, settle, Bool.false_eq_true,
    if_false, runHandler, manual, List.nil_append]

theorem copies_dispatch_of_verdict_ok (other : worker.config.ackMode ≠ .manual)
    {envelope : Envelope} {principal : Option VerifiedPrincipal}
    (h : verdict P worker around delivery = .ok (envelope, principal)) :
    copies (dispatch worker around delivery P).1.2 = [] := by
  obtain ⟨decoded, identity⟩ := (verdict_ok P worker around delivery).mp h
  have handled : ∀ authentication, copies (runHandler worker around delivery envelope
      authentication).2 = [] := by
    intro authentication
    rw [runHandler]
    cases mode : worker.config.ackMode with
    | manual => exact absurd mode other
    | ackOnReceive => exact copies_handlerOutcome worker envelope authentication
    | unacknowledged => exact copies_handlerOutcome worker envelope authentication
  simp only [dispatch, decoded]
  cases verification : (verifyBeforeSettlement P worker.config.envelopeSecurity around.clock
      around.refresh envelope delivery.routingKey.asStr
      (delivery.properties.userId.map ShortString.asStr)
      (worker.config.ackMode == .ackOnReceive) (settleWith .ack around.broker.ack)
      fun error => handlePoison worker around delivery (.envelopeSecurity error)).1 with
  | error settled =>
    dsimp only
    rcases verifyBeforeSettlement_error verification with ⟨error, refused, -⟩ | rfl
    · rw [identity] at refused
      cases refused
    · rfl
  | ok pair =>
    obtain ⟨found, acked⟩ := pair
    dsimp only
    rw [copies_append, handled]
    rcases (verifyBeforeSettlement_ok verification).2 with rfl | rfl <;> rfl

theorem handleManualOutcome_eq (envelope : Envelope) (outcome : Except BusError Unit)
    (manual : worker.config.ackMode = .manual) :
    handleManualOutcome worker around delivery envelope outcome =
      match outcomeFailure worker delivery envelope outcome with
      | none => settleWith .ack around.broker.ack
      | some failed => failed.settle worker around delivery := by
  cases outcome with
  | ok _ => simp only [handleManualOutcome, outcomeFailure, manual]
  | error error =>
    simp only [handleManualOutcome, outcomeFailure, manual]
    cases routeFailure error (currentAttempt worker delivery) worker.config.maxAttempts.toNat <;>
      rfl

theorem copies_dispatch :
    copies (dispatch worker around delivery P).1.2 =
      match failure P worker around delivery with
      | none => []
      | some failed => copies (failed.settle worker around delivery).2 := by
  rw [failure]
  cases h : verdict P worker around delivery with
  | error error => rw [dispatch_of_verdict_error P worker around delivery h]; rfl
  | ok pair =>
    obtain ⟨envelope, principal⟩ := pair
    dsimp only
    by_cases manual : worker.config.ackMode = .manual
    · rw [dispatch_of_verdict_ok P worker around delivery manual h]
      dsimp only
      rw [copies_append, copies_handlerOutcome, List.nil_append,
        handleManualOutcome_eq worker around delivery _ _ manual]
      cases outcomeFailure worker delivery envelope _ <;> rfl
    · rw [copies_dispatch_of_verdict_ok P worker around delivery manual h]
      cases mode : worker.config.ackMode with
      | manual => exact absurd mode manual
      | ackOnReceive => simp only [outcomeFailure, mode]
      | unacknowledged => simp only [outcomeFailure, mode]

end Failures

/-! ## The copy of a failed delivery -/

section Copies

variable (worker : Worker VerifyingKey) (around : Surroundings) (delivery : Delivery)

/-- The properties the copy of a failed delivery is built from. -/
def Failure.properties : Failure → BasicProperties
  | .poison error => if needsSanitizedQuarantine error then
      propertiesWithoutHeaders delivery.properties else delivery.properties
  | .exhausted _ => delivery.properties
  | .retry envelope => propertiesWithEffectiveIdentity around.uuid delivery.properties envelope

def Failure.payload : Failure → Bytes
  | .exhausted envelope => envelope.payload
  | _ => delivery.data

def Failure.target : Failure → Option String
  | .retry _ => some (waitQueueName worker.queue)
  | _ => worker.config.deadLetterRoutingKey

/-- A persistent copy, which exists for a name that fits a short string. -/
def persistentCopy (properties : BasicProperties) (payload : Bytes) (routingKey : String) :
    Option Publication :=
  if fits : (utf8 routingKey).length ≤ 255 then
    some ⟨emptyExchange, ⟨routingKey, fits⟩, { properties with deliveryMode := some 2 }, payload⟩
  else none

def Failure.copy (failed : Failure) : Option Publication :=
  (failed.target worker).bind
    (persistentCopy (failed.properties around delivery) (failed.payload delivery))

theorem copies_publishCopy (broker : Broker) (field context routingKey : String)
    (properties : BasicProperties) (payload : Bytes) :
    copies (publishCopy broker field context routingKey properties payload).2 =
      (persistentCopy properties payload routingKey).toList := by
  rw [publishCopy, RabbitmqMetadata.toShortString, persistentCopy]
  by_cases fits : (utf8 routingKey).length ≤ 255
  · rw [dif_pos fits, dif_pos fits]
    dsimp only
    cases broker.publish _ <;> rfl
  · rw [dif_neg fits, dif_neg fits]
    rfl

theorem copies_retryCore (published : Except BusError Unit × List WorkerAction)
    {settle : Bool → Traced} {ack : Traced} (hs : ∀ requeue, copies (settle requeue).2 = [])
    (ha : copies ack.2 = []) :
    copies (retryCore published settle ack).2 = copies published.2 := by
  rcases published with ⟨result, actions⟩
  cases result with
  | error error => simp only [retryCore, copies_append, hs, List.append_nil]
  | ok _ => simp only [retryCore, copies_append, ha, List.append_nil]

theorem copies_exhaustedCore (properties : BasicProperties) (payload : Bytes) {ack : Traced}
    (ha : copies ack.2 = []) :
    copies (exhaustedCore (worker.config.deadLetterRoutingKey.map
      (publishDeadLetter around properties payload)) (nackAfterFailedPublish around) ack).2 =
      (worker.config.deadLetterRoutingKey.bind (persistentCopy properties payload)).toList := by
  cases worker.config.deadLetterRoutingKey with
  | none => exact ha
  | some key =>
    change copies (retryCore (publishDeadLetter around properties payload key) _ _).2 = _
    rw [copies_retryCore _ (fun requeue => rfl) ha, publishDeadLetter, copies_publishCopy]
    rfl

theorem copies_settle (failed : Failure) :
    copies (failed.settle worker around delivery).2 =
      (failed.copy worker around delivery).toList := by
  cases failed with
  | poison error =>
    change copies (handlePoison worker around delivery error).2 = _
    have nacked : ∀ settleWithNack : Bool, copies (if settleWithNack then
        settleWith (.nack false) (around.broker.nack false)
        else settleWith .ack around.broker.ack).2 = [] := by
      intro settleWithNack
      cases settleWithNack <;> rfl
    rw [handlePoison]
    cases worker.config.ackMode with
    | manual => exact copies_exhaustedCore worker around _ _ (nacked _)
    | ackOnReceive => exact copies_exhaustedCore worker around _ _ (nacked _)
    | unacknowledged =>
      simp only [Failure.copy, Failure.target]
      cases worker.config.deadLetterRoutingKey with
      | none => rfl
      | some key => exact copies_publishCopy _ _ _ _ _ _
  | exhausted envelope => exact copies_exhaustedCore worker around _ _ rfl
  | retry envelope =>
    change copies (retryCore (publishToWaitQueue around delivery envelope _) _ _).2 = _
    rw [copies_retryCore _ (fun requeue => rfl) rfl, publishToWaitQueue, copies_publishCopy]
    rfl

end Copies

/-! ## The user a copy is published as -/

section Users

variable {worker : Worker VerifyingKey} {around : Surroundings} {delivery : Delivery}

/-- The copy is published as the user who published the original. -/
def CarriesUser (delivery : Delivery) (copy : Publication) : Prop :=
  ∃ user, delivery.properties.userId = some user ∧ copy.properties.userId = some user

/-- Only a metadata or security failure has its properties rebuilt. -/
def Failure.sanitized : Failure → Bool
  | .poison error => needsSanitizedQuarantine error
  | _ => false

theorem userId_properties (failed : Failure) :
    (failed.properties around delivery).userId =
      if failed.sanitized then none else delivery.properties.userId := by
  cases failed with
  | poison error =>
    rw [Failure.properties, apply_ite BasicProperties.userId]
    rfl
  | exhausted envelope => rfl
  | retry envelope => exact (propertiesWithEffectiveIdentity_keeps around.uuid _ envelope).2

theorem persistentCopy_eq_some {properties : BasicProperties} {payload : Bytes}
    {routingKey : String} {copy : Publication}
    (h : persistentCopy properties payload routingKey = some copy) :
    (utf8 routingKey).length ≤ 255 ∧
      copy.properties = { properties with deliveryMode := some 2 } ∧ copy.payload = payload := by
  rw [persistentCopy] at h
  split at h
  · rename_i fits
    obtain rfl := Option.some.inj h
    exact ⟨fits, rfl, rfl⟩
  · cases h

theorem copy_eq_none {failed : Failure} :
    failed.copy worker around delivery = none ↔
      ∀ key, failed.target worker = some key → 255 < (utf8 key).length := by
  rw [Failure.copy]
  cases failed.target worker with
  | none => simp
  | some key => simp [persistentCopy]

theorem userId_copy {failed : Failure} {copy : Publication}
    (h : failed.copy worker around delivery = some copy) :
    copy.properties.userId = if failed.sanitized then none else delivery.properties.userId := by
  obtain ⟨key, -, built⟩ := Option.bind_eq_some_iff.mp h
  rw [(persistentCopy_eq_some built).2.1]
  exact userId_properties failed

theorem forall_copy_iff (failed : Failure) :
    (∀ copy ∈ (failed.copy worker around delivery).toList, ¬CarriesUser delivery copy) ↔
      delivery.properties.userId = none ∨ failed.sanitized = true ∨
        ∀ key, failed.target worker = some key → 255 < (utf8 key).length := by
  rw [← copy_eq_none]
  cases found : failed.copy worker around delivery with
  | none => simp
  | some copy =>
    have user := userId_copy found
    simp only [Option.toList_some, List.mem_singleton, forall_eq, CarriesUser, user, reduceCtorEq,
      or_false]
    cases failed.sanitized <;> cases delivery.properties.userId <;> simp

/-- No copy a dispatch publishes is published as the original's user exactly if the original
names no user or the failure it meets leaves the user behind. -/
theorem copies_drop_user_iff (P : Primitives SigningKey VerifyingKey Signature)
    (worker : Worker VerifyingKey) (around : Surroundings) (delivery : Delivery) :
    (∀ copy ∈ copies (dispatch worker around delivery P).1.2, ¬CarriesUser delivery copy) ↔
      delivery.properties.userId = none ∨
        ∀ failed, failure P worker around delivery = some failed → failed.sanitized = true ∨
          ∀ key, failed.target worker = some key → 255 < (utf8 key).length := by
  rw [copies_dispatch]
  cases failure P worker around delivery with
  | none => simp
  | some failed =>
    dsimp only
    rw [copies_settle, forall_copy_iff]
    simp only [Option.some.injEq, forall_eq']

def failingWorker : Worker Bytes where
  queue := "orders"
  config := ⟨.manual, 5, 64, .default, none, some "orders.dead"⟩
  handlers _ := some fun _ _ => .returned (.error (.internal "out of stock"))

def publishingUser : ShortString := ⟨"billing-service", by decide⟩

def placedOrder : ShortString := ⟨"orders.placed", by decide⟩

/-- A first delivery by a publisher that names its broker user. -/
def userDelivery : Delivery where
  routingKey := placedOrder
  properties := { BasicProperties.default with
    kind := some placedOrder, userId := some publishingUser }
  data := [123, 125]

/-- The first retry of the delivery already goes out as the publisher's user. -/
theorem retry_copy_carries_user :
    (copies (dispatch failingWorker sampleSurroundings userDelivery strictPrimitives).1.2).map
      (fun copy => (copy.routingKey.asStr, copy.properties.userId)) =
        [("orders.retry", some publishingUser)] := by
  decide +kernel

end Users

/-! ## One settlement per delivery -/

section Settlements

variable {P : Primitives SigningKey VerifyingKey Signature} {worker : Worker VerifyingKey}
  {around : Surroundings} {delivery : Delivery}

def isSettlement : WorkerAction → Bool
  | .ack => true
  | .nack _ => true
  | _ => false

def settleAnswer (broker : Broker) : WorkerAction → Except String Unit
  | .ack => broker.ack
  | .nack requeue => broker.nack requeue
  | _ => .ok ()

/-- The broker gave the copy back because its target is gone. -/
def ReportedUnroutable (broker : Broker) (copy : Publication) : Prop :=
  ∃ returned, broker.publish copy = .ok (.ack (some returned)) ∨
    broker.publish copy = .ok (.nack (some returned))

inductive Justified (worker : Worker VerifyingKey) (around : Surroundings) (delivery : Delivery)
    (before : List WorkerAction) : WorkerAction → Prop where
  | handled {envelope authentication handler} (called : .handle envelope authentication ∈ before)
      (registered : worker.handlers envelope.messageType = some handler)
      (succeeded : handler envelope authentication = .returned (.ok ())) :
      Justified worker around delivery before .ack
  | stored {copy} (published : .publish copy ∈ before) (same : copy.payload = delivery.data)
      (confirmed : around.broker.publish copy = .ok (.ack none)) :
      Justified worker around delivery before .ack
  | dropped {copy} (published : .publish copy ∈ before) (same : copy.payload = delivery.data)
      (unroutable : ReportedUnroutable around.broker copy) :
      Justified worker around delivery before (.nack false)
  | requeued : Justified worker around delivery before (.nack true)

/-- A trace that ends in its only settlement, for which there is a reason. -/
def SettlesOnce (worker : Worker VerifyingKey) (around : Surroundings) (delivery : Delivery)
    (traced : Traced) : Prop :=
  ∃ before settlement, traced.2 = before ++ [settlement] ∧
    (∀ action ∈ before, isSettlement action = false) ∧ isSettlement settlement = true ∧
    Justified worker around delivery before settlement ∧
    traced.1 = .fromSettleResult (settleAnswer around.broker settlement)

theorem confirmationToResult_ok {confirmation : Confirmation} {context routingKey : String} :
    confirmationToResult confirmation context routingKey = .ok () ↔ confirmation = .ack none := by
  cases confirmation with
  | ack returned => cases returned <;> simp [confirmationToResult]
  | nack returned => cases returned <;> simp [confirmationToResult]
  | notRequested => simp [confirmationToResult]

theorem returned_of_not_requeued {confirmation : Confirmation} {context routingKey : String}
    {error : BusError}
    (failed : confirmationToResult confirmation context routingKey = .error error)
    (h : requeueOnPublishFailure error = false) :
    ∃ returned, confirmation = .ack (some returned) ∨ confirmation = .nack (some returned) := by
  cases confirmation with
  | ack returned =>
    cases returned with
    | none => cases failed
    | some returned => exact ⟨returned, Or.inl rfl⟩
  | nack returned =>
    cases returned with
    | none =>
      obtain rfl := Except.error.inj failed
      cases h
    | some returned => exact ⟨returned, Or.inr rfl⟩
  | notRequested =>
    obtain rfl := Except.error.inj failed
    cases h

theorem publishCopy_cases (broker : Broker) (field context routingKey : String)
    (properties : BasicProperties) (payload : Bytes) :
    let published := publishCopy broker field context routingKey properties payload
    (published.2 = [] ∨ ∃ copy, published.2 = [.publish copy]) ∧
    (published.1 = .ok () → ∃ copy, published.2 = [.publish copy] ∧ copy.payload = payload ∧
      broker.publish copy = .ok (.ack none)) ∧
    ∀ error, published.1 = .error error → requeueOnPublishFailure error = false →
      ∃ copy, published.2 = [.publish copy] ∧ copy.payload = payload ∧
        ReportedUnroutable broker copy := by
  dsimp only
  rw [publishCopy, RabbitmqMetadata.toShortString]
  by_cases fits : (utf8 routingKey).length ≤ 255
  · rw [dif_pos fits]
    dsimp only
    cases answered : broker.publish _ with
    | error text =>
      refine ⟨Or.inr ⟨_, rfl⟩, by rintro ⟨⟩, ?_⟩
      rintro error ⟨⟩ ⟨⟩
    | ok confirmation =>
      refine ⟨Or.inr ⟨_, rfl⟩, ?_, ?_⟩
      · intro stored
        obtain rfl := confirmationToResult_ok.mp stored
        exact ⟨_, rfl, rfl, answered⟩
      · intro error failed dropped
        obtain ⟨returned, rfl | rfl⟩ := returned_of_not_requeued failed dropped
        · exact ⟨_, rfl, rfl, returned, Or.inl answered⟩
        · exact ⟨_, rfl, rfl, returned, Or.inr answered⟩
  · rw [dif_neg fits]
    refine ⟨Or.inl rfl, by rintro ⟨⟩, ?_⟩
    rintro error ⟨⟩ ⟨⟩

theorem Justified.mono {before more : List WorkerAction} {settlement : WorkerAction}
    (h : Justified worker around delivery before settlement) (included : before ⊆ more) :
    Justified worker around delivery more settlement := by
  cases h with
  | handled called registered succeeded => exact .handled (included called) registered succeeded
  | stored published same confirmed => exact .stored (included published) same confirmed
  | dropped published same unroutable => exact .dropped (included published) same unroutable
  | requeued => exact .requeued

theorem SettlesOnce.prepend {handled : List WorkerAction} {traced : Traced}
    (free : ∀ action ∈ handled, isSettlement action = false)
    (h : SettlesOnce worker around delivery traced) :
    SettlesOnce worker around delivery (traced.1, handled ++ traced.2) := by
  obtain ⟨before, settlement, ends, unsettled, settles, justified, disposed⟩ := h
  refine ⟨handled ++ before, settlement, by rw [ends, List.append_assoc], ?_, settles,
    justified.mono (List.subset_append_right _ _), disposed⟩
  intro action member
  rcases List.mem_append.mp member with member | member
  · exact free action member
  · exact unsettled action member

/-- Publish, then settle: whatever the broker answers, there is one settlement and it fits. -/
theorem settlesOnce_retryCore (field context routingKey : String) (properties : BasicProperties) :
    SettlesOnce worker around delivery
      (retryCore (publishCopy around.broker field context routingKey properties delivery.data)
        (nackAfterFailedPublish around) (settleWith .ack around.broker.ack)) := by
  obtain ⟨shape, stored, dropped⟩ :=
    publishCopy_cases around.broker field context routingKey properties delivery.data
  revert shape stored dropped
  rcases publishCopy around.broker field context routingKey properties delivery.data with
    ⟨result, actions⟩
  dsimp only
  intro shape stored dropped
  have unsettled : ∀ action ∈ actions, isSettlement action = false := by
    rcases shape with rfl | ⟨copy, rfl⟩ <;> simp [isSettlement]
  cases result with
  | ok _ =>
    obtain ⟨copy, one, same, confirmed⟩ := stored rfl
    exact ⟨actions, .ack, rfl, unsettled, rfl,
      .stored (one ▸ List.mem_singleton_self _) same confirmed, rfl⟩
  | error error =>
    refine ⟨actions, .nack (requeueOnPublishFailure error), rfl, unsettled, rfl, ?_, rfl⟩
    cases requeue : requeueOnPublishFailure error with
    | true => exact .requeued
    | false =>
      obtain ⟨copy, one, same, unroutable⟩ := dropped error rfl requeue
      exact .dropped (one ▸ List.mem_singleton_self _) same unroutable

theorem settlesOnce_settle (manual : worker.config.ackMode = .manual) {key : String}
    (configured : worker.config.deadLetterRoutingKey = some key) {failed : Failure}
    (whole : failed.payload delivery = delivery.data) :
    SettlesOnce worker around delivery (failed.settle worker around delivery) := by
  cases failed with
  | poison error =>
    have acks : poisonSettlesWithNack .manual (some key).isSome = false := rfl
    simp only [Failure.settle, handlePoison, manual, configured, Option.map_some, exhaustedCore,
      publishDeadLetter, acks, Bool.false_eq_true, if_false]
    exact settlesOnce_retryCore _ _ _ _
  | exhausted envelope =>
    simp only [Failure.payload] at whole
    simp only [Failure.settle, handleExhausted, configured, Option.map_some, exhaustedCore,
      publishDeadLetter, whole]
    exact settlesOnce_retryCore _ _ _ _
  | retry envelope => exact settlesOnce_retryCore _ _ _ _

theorem handlerOutcome_unsettled (envelope : Envelope)
    (authentication : PublisherAuthentication) :
    ∀ action ∈ (handlerOutcome worker envelope authentication).2,
      isSettlement action = false := by
  rw [handlerOutcome]
  cases worker.handlers envelope.messageType with
  | none => simp
  | some handler =>
    dsimp only
    cases handler envelope authentication <;> simp [isSettlement]

theorem handlerOutcome_ok {envelope : Envelope} {authentication : PublisherAuthentication}
    (h : (handlerOutcome worker envelope authentication).1 = .ok ()) :
    ∃ handler, worker.handlers envelope.messageType = some handler ∧
      handler envelope authentication = .returned (.ok ()) ∧
      .handle envelope authentication ∈ (handlerOutcome worker envelope authentication).2 := by
  rw [handlerOutcome] at h ⊢
  cases registered : worker.handlers envelope.messageType with
  | none =>
    rw [registered] at h
    cases h
  | some handler =>
    rw [registered] at h
    dsimp only at h ⊢
    refine ⟨handler, rfl, ?_⟩
    cases result : handler envelope authentication with
    | panicked message =>
      rw [result] at h
      cases h
    | returned outcome =>
      rw [result] at h
      exact ⟨congrArg HandlerResult.returned h, List.mem_singleton_self _⟩

theorem decodeDelivery_payload {envelope : Envelope}
    (h : decodeDelivery worker around delivery = .ok envelope) :
    envelope.payload = delivery.data :=
  (deliveryToEnvelope_ok.mp h).2.payload

theorem payload_outcomeFailure {envelope : Envelope} {outcome : Except BusError Unit}
    {failed : Failure} (whole : envelope.payload = delivery.data)
    (h : outcomeFailure worker delivery envelope outcome = some failed) :
    failed.payload delivery = delivery.data := by
  unfold outcomeFailure at h
  split at h
  · split at h
    · obtain rfl := Option.some.inj h
      rfl
    · obtain rfl := Option.some.inj h
      exact whole
  · cases h

/-- With manual acknowledgement and a dead-letter key every dispatch ends in exactly one
settlement. An ack follows the success of the handler or a stored copy, a nack without
requeue follows a copy that was reported unroutable, and every other delivery goes back. -/
theorem manual_dispatch_settles_once (P : Primitives SigningKey VerifyingKey Signature)
    (worker : Worker VerifyingKey) (around : Surroundings) (delivery : Delivery)
    (manual : worker.config.ackMode = .manual) (key : String)
    (configured : worker.config.deadLetterRoutingKey = some key) :
    SettlesOnce worker around delivery (dispatch worker around delivery P).1 := by
  cases h : verdict P worker around delivery with
  | error error =>
    rw [dispatch_of_verdict_error P worker around delivery h]
    change SettlesOnce worker around delivery
      ((Failure.poison error).settle worker around delivery)
    exact settlesOnce_settle manual configured rfl
  | ok pair =>
    obtain ⟨envelope, principal⟩ := pair
    have whole := decodeDelivery_payload ((verdict_ok P worker around delivery).mp h).1
    rw [dispatch_of_verdict_ok P worker around delivery manual h]
    generalize authenticationFromVerification worker.config.envelopeSecurity principal =
      authentication
    rw [handleManualOutcome_eq worker around delivery _ _ manual]
    cases met : outcomeFailure worker delivery envelope
        (handlerOutcome worker envelope authentication).1 with
    | some failed =>
      apply SettlesOnce.prepend (handlerOutcome_unsettled envelope authentication)
      exact settlesOnce_settle manual configured (payload_outcomeFailure whole met)
    | none =>
      -- without a failure the handler returned a success
      have succeeded : (handlerOutcome worker envelope authentication).1 = .ok () := by
        cases outcome : (handlerOutcome worker envelope authentication).1 with
        | ok _ => rfl
        | error error =>
          rw [outcome] at met
          simp only [outcomeFailure, manual] at met
          split at met <;> cases met
      obtain ⟨handler, registered, returned, called⟩ := handlerOutcome_ok succeeded
      exact ⟨_, .ack, rfl, handlerOutcome_unsettled envelope authentication, rfl,
        .handled called registered returned, rfl⟩

/-- The wait queue of the failing worker is gone: its copies come back. -/
def returningSurroundings : Surroundings :=
  { sampleSurroundings with
    broker := ⟨fun _ => .ok (.ack (some ⟨"NO_ROUTE", 312⟩)), .ok (), fun _ => .ok ()⟩ }

theorem manual_dispatch_settles_once_sample :
    SettlesOnce failingWorker returningSurroundings userDelivery
      (dispatch failingWorker returningSurroundings userDelivery strictPrimitives).1 ∧
    (dispatch failingWorker returningSurroundings userDelivery strictPrimitives).1.2.getLast? =
      some (.nack false) := by
  refine ⟨manual_dispatch_settles_once strictPrimitives failingWorker returningSurroundings
    userDelivery rfl "orders.dead" rfl, ?_⟩
  rfl

end Settlements

end RabbitmqSettlement
