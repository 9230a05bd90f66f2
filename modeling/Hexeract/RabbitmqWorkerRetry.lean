import Hexeract.RabbitmqVerification

/-! # Retries through the wait queue

A failed delivery is republished to the wait queue, expires there and is dead-lettered
back to the consumed queue. The broker's part is the death history it keeps in the field
table and the routing key it returns the copy under. -/
namespace RabbitmqWorkerRetry

open LibraryCollections LibraryFramedBytes StdTime BusErrors BusEnvelope BusEnvelopeCanonical
open BusEnvelopeSecurity RabbitmqMetadata RabbitmqDelivery RabbitmqWorker RabbitmqVerification

variable {SigningKey VerifyingKey Signature : Type}

/-! ## What the broker does -/

def integerCount : Option AMQPValue → ℤ
  | some (.shortShortInt n) => n.toInt
  | some (.shortShortUInt n) => n.toNat
  | some (.shortInt n) => n.toInt
  | some (.shortUInt n) => n.toNat
  | some (.longInt n) => n.toInt
  | some (.longUInt n) => n.toNat
  | some (.longLongInt n) => n.toInt
  | _ => 0

def setField (fields : List (ShortString × AMQPValue)) (key : ShortString) (value : AMQPValue) :
    List (ShortString × AMQPValue) :=
  match fields with
  | [] => [(key, value)]
  | field :: rest =>
    if field.1.asStr = key.asStr then (field.1, value) :: rest
    else field :: setField rest key value

def countField : ShortString := ⟨"count", by decide⟩
def queueField : ShortString := ⟨"queue", by decide⟩
def reasonField : ShortString := ⟨"reason", by decide⟩

def incrementCount (fields : List (ShortString × AMQPValue)) :
    List (ShortString × AMQPValue) :=
  setField fields countField
    (.longLongInt (Int64.ofInt (integerCount (fieldOf fields "count") + 1)))

def expiredEntry (waitQueue : String) : AMQPValue :=
  .fieldTable [(countField, .longLongInt 1), (queueField, .longString (utf8 waitQueue)),
    (reasonField, .longString (utf8 "expired"))]

/-- One is added to the count of the first entry for this queue and reason. -/
def incrementFirst (waitQueue : String) : List AMQPValue → Option (List AMQPValue)
  | [] => none
  | .fieldTable fields :: rest =>
    if isExpiredIn waitQueue fields then some (.fieldTable (incrementCount fields) :: rest)
    else (incrementFirst waitQueue rest).map (.fieldTable fields :: ·)
  | value :: rest => (incrementFirst waitQueue rest).map (value :: ·)

/-- Without such an entry one is inserted with count one. -/
def recordExpiry (waitQueue : String) (deaths : List AMQPValue) : List AMQPValue :=
  (incrementFirst waitQueue deaths).getD (expiredEntry waitQueue :: deaths)

def deathsOf (table : FieldTable) : List AMQPValue :=
  match table.lookup deathHeader with
  | some (.fieldArray deaths) => deaths
  | _ => []

def firstDeathKeyStart : String := "x-first-death-"

/-- The headers one pass adds beside the death history; later passes may add none. -/
structure FirstDeath where
  headers : List (ShortString × Bytes)
  keys : ∀ pair ∈ headers, (utf8 firstDeathKeyStart).IsPrefix (utf8 pair.1.asStr)

def deadLetterTable (waitQueue : String) (firstDeath : FirstDeath) (table : FieldTable) :
    FieldTable :=
  (writeAll table (firstDeath.headers.map fun pair => (pair.1, .longString pair.2))).insert
    deathHeader (.fieldArray (recordExpiry waitQueue (deathsOf table)))

/-- The queues were declared, so their names are short strings. -/
def Declared (worker : Worker VerifyingKey) : Prop :=
  (utf8 (waitQueueName worker.queue)).length ≤ 255

theorem Declared.queue {worker : Worker VerifyingKey} (h : Declared worker) :
    (utf8 worker.queue).length ≤ 255 := by
  have : (utf8 (waitQueueName worker.queue)).length =
      (utf8 worker.queue).length + (utf8 retryQueueSuffix).length := by
    rw [waitQueueName, utf8_append, List.length_append]
  have := h
  unfold Declared at this
  omega

/-- The expired copy, routed back by the declared dead-letter routing key. -/
def redelivered (worker : Worker VerifyingKey) (declared : Declared worker)
    (firstDeath : FirstDeath) (copy : Publication) : Delivery where
  routingKey := ⟨worker.queue, declared.queue⟩
  properties := { copy.properties with
    headers := some (deadLetterTable (waitQueueName worker.queue) firstDeath
      (copy.properties.headers.getD ∅)) }
  data := copy.payload

/-! ## What the worker does -/

section Attempt

variable (P : Primitives SigningKey VerifyingKey Signature) (worker : Worker VerifyingKey)
  (around : Surroundings) (delivery : Delivery)

/-- Decoding and verification of one delivery, up to the handler. -/
def verdict : Except BusError (Envelope × Option VerifiedPrincipal) :=
  match decodeDelivery worker around delivery with
  | .error error => .error error
  | .ok envelope =>
    match (establishIdentity P worker.config.envelopeSecurity around.clock around.refresh envelope
      delivery.routingKey.asStr (delivery.properties.userId.map ShortString.asStr)).1 with
    | .error error => .error (.envelopeSecurity error)
    | .ok principal => .ok (envelope, principal)

/-- What the handler of a registered type would be called with. -/
def handedTo : Option (Envelope × PublisherAuthentication) :=
  match verdict P worker around delivery with
  | .error _ => none
  | .ok (envelope, principal) =>
    if (worker.handlers envelope.messageType).isSome then
      some (envelope, authenticationFromVerification worker.config.envelopeSecurity principal)
    else none

/-- The copy a failed delivery is retried with; only manual acknowledgement retries. -/
def retryCopy : Option Publication :=
  match worker.config.ackMode, handedTo P worker around delivery with
  | .manual, some (envelope, authentication) =>
    match (handlerOutcome worker envelope authentication).1 with
    | .ok _ => none
    | .error error =>
      match routeFailure error (currentAttempt worker delivery) worker.config.maxAttempts.toNat,
        RabbitmqMetadata.toShortString (waitQueueName worker.queue) "wait queue name" with
      | .retry, .ok key =>
        some ⟨emptyExchange, key, { propertiesWithEffectiveIdentity around.uuid
          delivery.properties envelope with deliveryMode := some 2 }, delivery.data⟩
      | _, _ => none
  | _, _ => none

def isHandle : WorkerAction → Bool
  | .handle _ _ => true
  | _ => false

def handleCount (actions : List WorkerAction) : ℕ := actions.countP isHandle

theorem handleCount_of_free {actions : List WorkerAction} (h : HandleFree actions) :
    handleCount actions = 0 := by
  rw [handleCount, List.countP_eq_zero]
  intro action hmem
  cases action with
  | handle envelope authentication => exact absurd hmem (h envelope authentication)
  | _ => simp [isHandle]

theorem verdict_ok {envelope : Envelope} {principal : Option VerifiedPrincipal} :
    verdict P worker around delivery = .ok (envelope, principal) ↔
      decodeDelivery worker around delivery = .ok envelope ∧
      (establishIdentity P worker.config.envelopeSecurity around.clock around.refresh envelope
        delivery.routingKey.asStr (delivery.properties.userId.map ShortString.asStr)).1 =
          .ok principal := by
  unfold verdict
  cases hdecoded : decodeDelivery worker around delivery with
  | error error => simp
  | ok decoded =>
    simp only [Except.ok.injEq]
    cases hidentity : (establishIdentity P worker.config.envelopeSecurity around.clock
        around.refresh decoded delivery.routingKey.asStr
        (delivery.properties.userId.map ShortString.asStr)).1 with
    | error error =>
      constructor
      · rintro ⟨⟩
      · rintro ⟨rfl, h⟩
        rw [hidentity] at h
        cases h
    | ok found =>
      constructor
      · rintro ⟨⟩
        exact ⟨rfl, hidentity⟩
      · rintro ⟨rfl, h⟩
        rw [hidentity] at h
        cases h
        rfl

theorem handedTo_some {envelope : Envelope} {authentication : PublisherAuthentication} :
    handedTo P worker around delivery = some (envelope, authentication) ↔
      (worker.handlers envelope.messageType).isSome = true ∧
      ∃ principal, verdict P worker around delivery = .ok (envelope, principal) ∧
        authentication =
          authenticationFromVerification worker.config.envelopeSecurity principal := by
  unfold handedTo
  split
  · rename_i error herror
    simp [herror]
  · rename_i found principal hverdict
    split
    · rename_i registered
      simp only [Option.some.injEq, Prod.mk.injEq, hverdict, Except.ok.injEq]
      constructor
      · rintro ⟨rfl, rfl⟩
        exact ⟨registered, principal, ⟨rfl, rfl⟩, rfl⟩
      · rintro ⟨_, _, ⟨rfl, rfl⟩, rfl⟩
        exact ⟨rfl, rfl⟩
    · rename_i unregistered
      simp only [reduceCtorEq, hverdict, Except.ok.injEq, Prod.mk.injEq, false_iff]
      rintro ⟨registered, _, ⟨rfl, rfl⟩, _⟩
      exact unregistered registered

theorem handleFree_of_handedTo_none (h : handedTo P worker around delivery = none) :
    HandleFree (dispatch worker around delivery P).1.2 := by
  intro envelope authentication hmem
  obtain ⟨decoded, registered, principal, identity, told⟩ :=
    handle_mem_dispatch worker around delivery hmem
  have handed := (handedTo_some P worker around delivery).mpr
    ⟨registered, principal, (verdict_ok P worker around delivery).mpr ⟨decoded, identity⟩, told⟩
  rw [h] at handed
  cases handed

theorem dispatch_manual (manual : worker.config.ackMode = .manual) {envelope : Envelope}
    {authentication : PublisherAuthentication}
    (h : handedTo P worker around delivery = some (envelope, authentication)) :
    (dispatch worker around delivery P).1.2 = .handle envelope authentication ::
      (handleManualOutcome worker around delivery envelope
        (handlerOutcome worker envelope authentication).1).2 := by
  obtain ⟨registered, principal, hverdict, rfl⟩ := (handedTo_some P worker around delivery).mp h
  obtain ⟨decoded, identity⟩ := (verdict_ok P worker around delivery).mp hverdict
  obtain ⟨handler, hhandler⟩ := Option.isSome_iff_exists.mp registered
  have handled : ∀ a, (handlerOutcome worker envelope a).2 = [.handle envelope a] := by
    intro a
    unfold handlerOutcome
    rw [hhandler]
    dsimp only
    split <;> rfl
  have settle : (AckMode.manual == AckMode.ackOnReceive) = false := rfl
  simp only [dispatch, decoded, verifyBeforeSettlement, identity, settle, Bool.false_eq_true,
    if_false, runHandler, manual, handled, List.nil_append, List.singleton_append]

theorem handleCount_dispatch (manual : worker.config.ackMode = .manual) :
    handleCount (dispatch worker around delivery P).1.2 =
      (handedTo P worker around delivery).isSome.toNat := by
  cases h : handedTo P worker around delivery with
  | none => exact handleCount_of_free (handleFree_of_handedTo_none P worker around delivery h)
  | some pair =>
    obtain ⟨envelope, authentication⟩ := pair
    have free := handleCount_of_free (handleFree_handleManualOutcome worker around delivery
      envelope (handlerOutcome worker envelope authentication).1)
    rw [dispatch_manual P worker around delivery manual h, handleCount, List.countP_cons]
    unfold handleCount at free
    rw [free]
    rfl

theorem handleCount_append (l k : List WorkerAction) :
    handleCount (l ++ k) = handleCount l + handleCount k := List.countP_append

theorem handleCount_runHandler_le (envelope : Envelope)
    (authentication : PublisherAuthentication) :
    handleCount (runHandler worker around delivery envelope authentication).2 ≤ 1 := by
  have handled : handleCount (handlerOutcome worker envelope authentication).2 ≤ 1 := by
    unfold handlerOutcome
    split
    · exact Nat.zero_le 1
    · split <;> exact Nat.le_refl 1
  unfold runHandler
  dsimp only
  split
  · rw [handleCount_append, handleCount_of_free
      (handleFree_handleManualOutcome worker around delivery envelope _)]
    exact handled
  · exact handled

theorem handleCount_dispatch_le : handleCount (dispatch worker around delivery P).1.2 ≤ 1 := by
  unfold dispatch
  split
  · rw [handleCount_of_free (handleFree_handlePoison worker around delivery _)]
    exact Nat.zero_le 1
  · rename_i envelope _
    dsimp only
    split
    · rename_i settled hverification
      rw [handleCount_of_free]
      · exact Nat.zero_le 1
      · rcases verifyBeforeSettlement_error hverification with ⟨error, _, rfl⟩ | rfl
        · exact handleFree_handlePoison worker around delivery _
        · exact handleFree_ack around
    · rename_i principal acked hverification
      have free : handleCount acked = 0 := by
        rcases (verifyBeforeSettlement_ok hverification).2 with rfl | rfl
        · rfl
        · exact handleCount_of_free (handleFree_ack around)
      rw [handleCount_append, free, Nat.zero_add]
      exact handleCount_runHandler_le worker around delivery envelope _

theorem propertiesWithEffectiveIdentity_keeps (uuid : UuidText) (properties : BasicProperties)
    (envelope : Envelope) :
    (propertiesWithEffectiveIdentity uuid properties envelope).headers = properties.headers ∧
      (propertiesWithEffectiveIdentity uuid properties envelope).userId = properties.userId := by
  unfold propertiesWithEffectiveIdentity
  dsimp only
  constructor
  · split <;> split <;> rfl
  · split <;> split <;> rfl

theorem retryCopy_some {copy : Publication} (h : retryCopy P worker around delivery = some copy) :
    worker.config.ackMode = .manual ∧
    currentAttempt worker delivery < worker.config.maxAttempts.toNat ∧
    ∃ envelope authentication, handedTo P worker around delivery = some (envelope, authentication) ∧
      copy.properties = { propertiesWithEffectiveIdentity around.uuid delivery.properties envelope
        with deliveryMode := some 2 } ∧ copy.payload = delivery.data := by
  unfold retryCopy at h
  split at h
  · rename_i envelope authentication manual handed
    split at h
    · cases h
    · rename_i error _
      split at h
      · rename_i key hroute hkey
        cases h
        refine ⟨manual, ?_, envelope, authentication, handed, rfl, rfl⟩
        unfold routeFailure at hroute
        split at hroute
        · cases hroute
        · split at hroute
          · assumption
          · cases hroute
      · cases h
  · cases h

/-- The broker stores every copy and confirms every settlement. -/
structure Succeeds (broker : Broker) : Prop where
  publish : ∀ publication, broker.publish publication = .ok (.ack none)
  ack : broker.ack = .ok ()

theorem dispatch_of_retryCopy (succeeds : Succeeds around.broker) {copy : Publication}
    (h : retryCopy P worker around delivery = some copy) :
    ∃ envelope authentication, (dispatch worker around delivery P).1.2 =
      [.handle envelope authentication, .publish copy, .ack] := by
  have manual := (retryCopy_some P worker around delivery h).1
  unfold retryCopy at h
  split at h
  · rename_i envelope authentication _ handed
    split at h
    · cases h
    · rename_i error hfailed
      split at h
      · rename_i key hroute hkey
        cases h
        refine ⟨envelope, authentication, ?_⟩
        rw [dispatch_manual P worker around delivery manual handed, hfailed]
        simp only [handleManualOutcome, hroute, scheduleRetry, publishToWaitQueue, publishCopy,
          hkey, succeeds.publish, confirmationToResult, retryCore, settleWith, succeeds.ack,
          List.singleton_append]
      · cases h
  · cases h

end Attempt

/-! ## The run of one message -/

section Run

variable (P : Primitives SigningKey VerifyingKey Signature) (worker : Worker VerifyingKey)
  (declared : Declared worker) (around : ℕ → Surroundings) (passes : ℕ → FirstDeath)
  (delivery : Delivery)

/-- The delivery of each attempt, as long as the attempts before it were retried. -/
def copyAt : ℕ → Option Delivery
  | 0 => some delivery
  | j + 1 => (copyAt j).bind fun d =>
    (retryCopy P worker (around j) d).map (redelivered worker declared (passes j))

/-- How often the handler was called in the first `n` attempts. -/
def handedOver : ℕ → ℕ
  | 0 => 0
  | n + 1 => handedOver n +
    match copyAt P worker declared around passes delivery n with
    | none => 0
    | some d => handleCount (dispatch worker (around n) d P).1.2

theorem copyAt_succ {j : ℕ} {d : Delivery}
    (h : copyAt P worker declared around passes delivery (j + 1) = some d) :
    ∃ d' copy, copyAt P worker declared around passes delivery j = some d' ∧
      retryCopy P worker (around j) d' = some copy ∧
      d = redelivered worker declared (passes j) copy := by
  obtain ⟨d', hd', h⟩ := Option.bind_eq_some_iff.mp h
  obtain ⟨copy, hcopy, rfl⟩ := Option.map_eq_some_iff.mp h
  exact ⟨d', copy, hd', hcopy, rfl⟩

end Run

end RabbitmqWorkerRetry
