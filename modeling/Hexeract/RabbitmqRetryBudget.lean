import Hexeract.RabbitmqWorkerRetry

/-! # The retry budget

The attempt number is read from the death history, which a producer may have forged. The
history counts the passes through the wait queue from wherever the forged count starts, so
the budget holds unless that start is negative. -/
namespace RabbitmqRetryBudget

open LibraryCollections LibraryFramedBytes StdTime BusErrors BusEnvelope BusEnvelopeSecurity
open RabbitmqMetadata RabbitmqDelivery RabbitmqWorker RabbitmqVerification RabbitmqWorkerRetry

variable {SigningKey VerifyingKey Signature : Type}

/-- The first entry of the history for this queue and the reason expired. -/
def firstExpired (waitQueue : String) : List AMQPValue → Option (List (ShortString × AMQPValue))
  | [] => none
  | .fieldTable fields :: rest =>
    if isExpiredIn waitQueue fields then some fields else firstExpired waitQueue rest
  | _ :: rest => firstExpired waitQueue rest

/-- The count the broker adds one to, zero when it has to insert an entry. -/
def historyCount (waitQueue : String) (deaths : List AMQPValue) : ℤ :=
  match firstExpired waitQueue deaths with
  | none => 0
  | some fields => integerCount (fieldOf fields "count")

theorem fieldOf_setField_self (fields : List (ShortString × AMQPValue)) (key : ShortString)
    (value : AMQPValue) : fieldOf (setField fields key value) key.asStr = some value := by
  induction fields with
  | nil => simp [setField, fieldOf]
  | cons field rest ih =>
    by_cases h : field.1.asStr = key.asStr
    · simp [setField, fieldOf, h]
    · simp [setField, fieldOf, h, ih]

theorem fieldOf_setField_ne (fields : List (ShortString × AMQPValue)) (key : ShortString)
    (value : AMQPValue) {name : String} (ne : key.asStr ≠ name) :
    fieldOf (setField fields key value) name = fieldOf fields name := by
  induction fields with
  | nil => simp [setField, fieldOf, ne]
  | cons field rest ih =>
    by_cases h : field.1.asStr = key.asStr
    · have other : field.1.asStr ≠ name := fun he => ne (h ▸ he)
      simp [setField, fieldOf, h, ne]
    · simp [setField, fieldOf, h, ih]

theorem isExpiredIn_incrementCount (waitQueue : String)
    (fields : List (ShortString × AMQPValue)) :
    isExpiredIn waitQueue (incrementCount fields) = isExpiredIn waitQueue fields := by
  unfold isExpiredIn incrementCount
  rw [fieldOf_setField_ne _ _ _ (by decide), fieldOf_setField_ne _ _ _ (by decide)]

theorem incrementFirst_some (waitQueue : String) {deaths updated : List AMQPValue}
    (h : incrementFirst waitQueue deaths = some updated) :
    ∃ fields, firstExpired waitQueue deaths = some fields ∧
      firstExpired waitQueue updated = some (incrementCount fields) := by
  induction deaths generalizing updated with
  | nil => cases h
  | cons value rest ih =>
    cases value with
    | fieldTable fields =>
      by_cases expired : isExpiredIn waitQueue fields = true
      · simp only [incrementFirst, expired, if_true, Option.some.injEq] at h
        subst h
        exact ⟨fields, by simp [firstExpired, expired], by
          simp [firstExpired, isExpiredIn_incrementCount, expired]⟩
      · simp only [incrementFirst, expired, Bool.false_eq_true, if_false] at h
        obtain ⟨tail, htail, rfl⟩ := Option.map_eq_some_iff.mp h
        simpa [firstExpired, expired] using ih htail
    | _ =>
      obtain ⟨tail, htail, rfl⟩ := Option.map_eq_some_iff.mp h
      have found := ih htail
      exact found

theorem incrementFirst_none (waitQueue : String) {deaths : List AMQPValue}
    (h : incrementFirst waitQueue deaths = none) : firstExpired waitQueue deaths = none := by
  induction deaths with
  | nil => rfl
  | cons value rest ih =>
    cases value with
    | fieldTable fields =>
      by_cases expired : isExpiredIn waitQueue fields = true
      · simp [incrementFirst, expired] at h
      · simp only [incrementFirst, expired, Bool.false_eq_true, if_false,
          Option.map_eq_none_iff] at h
        simpa [firstExpired, expired] using ih h
    | _ => exact ih (Option.map_eq_none_iff.mp h)

theorem firstExpired_recordExpiry (waitQueue : String) (deaths : List AMQPValue) :
    ∃ fields, firstExpired waitQueue (recordExpiry waitQueue deaths) = some fields ∧
      fieldOf fields "count" =
        some (.longLongInt (Int64.ofInt (historyCount waitQueue deaths + 1))) := by
  unfold recordExpiry
  cases h : incrementFirst waitQueue deaths with
  | none =>
    have fresh : isExpiredIn waitQueue [(countField, .longLongInt 1),
        (queueField, .longString (utf8 waitQueue)),
        (reasonField, .longString (utf8 "expired"))] = true := by
      simp [isExpiredIn, fieldOf, isLongString, countField, queueField, reasonField]
    refine ⟨_, by simp only [Option.getD_none, expiredEntry, firstExpired, fresh, if_true]; rfl, ?_⟩
    simp only [historyCount, incrementFirst_none waitQueue h]
    rfl
  | some updated =>
    obtain ⟨fields, before, after⟩ := incrementFirst_some waitQueue h
    refine ⟨_, after, ?_⟩
    simp only [historyCount, before]
    exact fieldOf_setField_self fields countField _

theorem deathCountIn_of_first {waitQueue : String} {deaths : List AMQPValue}
    {fields : List (ShortString × AMQPValue)} {count : Int64}
    (first : firstExpired waitQueue deaths = some fields)
    (hcount : fieldOf fields "count" = some (.longLongInt count)) :
    deathCountIn waitQueue deaths = clampCount count := by
  induction deaths with
  | nil => cases first
  | cons value rest ih =>
    cases value with
    | fieldTable entry =>
      by_cases expired : isExpiredIn waitQueue entry = true
      · simp only [firstExpired, expired, if_true, Option.some.injEq] at first
        subst first
        simp [deathCountIn, expired, hcount]
      · simp only [firstExpired, expired, Bool.false_eq_true, if_false] at first
        simpa [deathCountIn, expired] using ih first
    | _ => exact ih first

theorem integerCount_bounds (value : Option AMQPValue) :
    -2 ^ 63 ≤ integerCount value ∧ integerCount value < 2 ^ 63 := by
  unfold integerCount
  split
  · rename_i n; have := n.le_toInt; have := n.toInt_lt; omega
  · rename_i n; have := n.toNat_lt; omega
  · rename_i n; have := n.le_toInt; have := n.toInt_lt; omega
  · rename_i n; have := n.toNat_lt; omega
  · rename_i n; have := n.le_toInt; have := n.toInt_lt; omega
  · rename_i n; have := n.toNat_lt; omega
  · rename_i n; have := n.le_toInt; have := n.toInt_lt; omega
  · omega

/-- Only the widest integer can reach the end of its range, and then the worker reads it. -/
theorem integerCount_lt {value : Option AMQPValue}
    (h : ∀ n, value = some (.longLongInt n) → n.toInt < 2 ^ 32) : integerCount value < 2 ^ 32 := by
  unfold integerCount
  split
  · rename_i n; have := n.toInt_lt; omega
  · rename_i n; have := n.toNat_lt; omega
  · rename_i n; have := n.toInt_lt; omega
  · rename_i n; have := n.toNat_lt; omega
  · rename_i n; have := n.toInt_lt; omega
  · rename_i n; have := n.toNat_lt; omega
  · rename_i n; exact h n rfl
  · decide

theorem historyCount_lt {waitQueue : String} {deaths : List AMQPValue}
    (h : deathCountIn waitQueue deaths < u32Max) : historyCount waitQueue deaths < 2 ^ 32 := by
  unfold historyCount
  split
  · decide
  · rename_i fields first
    apply integerCount_lt
    intro n hn
    rw [deathCountIn_of_first first hn, clampCount, u32Max] at h
    omega

theorem neg_le_historyCount (waitQueue : String) (deaths : List AMQPValue) :
    -2 ^ 63 ≤ historyCount waitQueue deaths := by
  unfold historyCount
  split
  · decide
  · exact (integerCount_bounds _).1

section History

variable {P : Primitives SigningKey VerifyingKey Signature} {worker : Worker VerifyingKey}

def historyOf (d : Delivery) : List AMQPValue := deathsOf (d.properties.headers.getD ∅)

theorem deathCount_eq (d : Delivery) (waitQueue : String) :
    deathCount d.properties waitQueue = deathCountIn waitQueue (historyOf d) := by
  unfold deathCount historyOf deathsOf
  cases d.properties.headers with
  | none => rfl
  | some table =>
    dsimp only [Option.getD_some]
    cases table.lookup deathHeader with
    | none => rfl
    | some value => cases value <;> rfl

theorem historyOf_redelivered {around : Surroundings} {d : Delivery} {copy : Publication}
    (declared : Declared worker) (firstDeath : FirstDeath)
    (h : retryCopy P worker around d = some copy) :
    historyOf (redelivered worker declared firstDeath copy) =
      recordExpiry (waitQueueName worker.queue) (historyOf d) := by
  obtain ⟨_, _, envelope, _, _, properties, _⟩ := retryCopy_some P worker around d h
  have headers : copy.properties.headers = d.properties.headers := by
    rw [properties]
    exact (propertiesWithEffectiveIdentity_keeps around.uuid d.properties envelope).1
  unfold historyOf redelivered
  dsimp only [Option.getD_some]
  rw [headers, deathsOf, deadLetterTable, AList.lookup_insert]

/-- One retry moves the history on by one, and the worker reads the new count. -/
theorem history_of_retry {around : Surroundings} {d : Delivery} {copy : Publication}
    (declared : Declared worker) (firstDeath : FirstDeath)
    (h : retryCopy P worker around d = some copy) :
    historyCount (waitQueueName worker.queue)
        (historyOf (redelivered worker declared firstDeath copy)) =
      historyCount (waitQueueName worker.queue) (historyOf d) + 1 ∧
    deathCountIn (waitQueueName worker.queue)
        (historyOf (redelivered worker declared firstDeath copy)) =
      min (max (historyCount (waitQueueName worker.queue) (historyOf d) + 1) 0).toNat u32Max := by
  have attempt := (retryCopy_some P worker around d h).2.1
  have max := worker.config.maxAttempts.toNat_lt
  rw [currentAttempt, deathCount_eq] at attempt
  have above := neg_le_historyCount (waitQueueName worker.queue) (historyOf d)
  have below : historyCount (waitQueueName worker.queue) (historyOf d) < 2 ^ 32 :=
    historyCount_lt (by simp only [u32Max] at *; omega)
  obtain ⟨fields, first, hcount⟩ :=
    firstExpired_recordExpiry (waitQueueName worker.queue) (historyOf d)
  have exact' : (Int64.ofInt (historyCount (waitQueueName worker.queue) (historyOf d) + 1)).toInt =
      historyCount (waitQueueName worker.queue) (historyOf d) + 1 :=
    Int64.toInt_ofInt_of_le (by omega) (by omega)
  rw [historyOf_redelivered declared firstDeath h, deathCountIn_of_first first hcount, clampCount,
    exact']
  refine ⟨?_, rfl⟩
  simp only [historyCount, first, hcount] at exact' ⊢
  exact exact'

end History

section Run

variable (P : Primitives SigningKey VerifyingKey Signature) (worker : Worker VerifyingKey)
  (declared : Declared worker) (around : ℕ → Surroundings) (passes : ℕ → FirstDeath)
  (delivery : Delivery)

/-- Where the count of the producer's own table starts. -/
def startCount : ℤ := historyCount (waitQueueName worker.queue) (historyOf delivery)

theorem historyCount_copyAt {j : ℕ} {d : Delivery}
    (h : copyAt P worker declared around passes delivery j = some d) :
    historyCount (waitQueueName worker.queue) (historyOf d) = startCount worker delivery + j := by
  induction j generalizing d with
  | zero =>
    cases h
    simp [startCount]
  | succ j ih =>
    obtain ⟨d', copy, hd', hcopy, rfl⟩ := copyAt_succ P worker declared around passes delivery h
    rw [(history_of_retry declared (passes j) hcopy).1, ih hd']
    push_cast
    omega

theorem currentAttempt_copyAt {j : ℕ} {d : Delivery}
    (h : copyAt P worker declared around passes delivery (j + 1) = some d) :
    currentAttempt worker d =
      min (min (max (startCount worker delivery + (j + 1)) 0).toNat u32Max + 1) u32Max := by
  obtain ⟨d', copy, hd', hcopy, rfl⟩ := copyAt_succ P worker declared around passes delivery h
  rw [currentAttempt, deathCount_eq, (history_of_retry declared (passes j) hcopy).2,
    historyCount_copyAt P worker declared around passes delivery hd', add_assoc]

theorem attempt_of_copyAt_succ {j : ℕ} {d : Delivery}
    (h : copyAt P worker declared around passes delivery (j + 1) = some d) :
    ∃ d', copyAt P worker declared around passes delivery j = some d' ∧
      currentAttempt worker d' < worker.config.maxAttempts.toNat := by
  obtain ⟨d', copy, hd', hcopy, rfl⟩ := copyAt_succ P worker declared around passes delivery h
  exact ⟨d', hd', (retryCopy_some P worker (around j) d' hcopy).2.1⟩

/-- A history that starts at zero or above keeps every attempt within the budget. -/
theorem copyAt_within_budget (start : 0 ≤ startCount worker delivery) {j : ℕ} {d : Delivery}
    (h : copyAt P worker declared around passes delivery j = some d) :
    j < max 1 worker.config.maxAttempts.toNat := by
  have bound := worker.config.maxAttempts.toNat_lt
  rcases j with _ | _ | j
  · omega
  · obtain ⟨d', hd', attempt⟩ := attempt_of_copyAt_succ P worker declared around passes delivery h
    simp only [currentAttempt, u32Max] at attempt
    omega
  · obtain ⟨d', hd', attempt⟩ := attempt_of_copyAt_succ P worker declared around passes delivery h
    rw [currentAttempt_copyAt P worker declared around passes delivery hd'] at attempt
    simp only [u32Max] at attempt
    omega

theorem handedOver_le {limit : ℕ}
    (within : ∀ j d, copyAt P worker declared around passes delivery j = some d →
      (handedTo P worker (around j) d).isSome = true → j < limit) (n : ℕ) :
    handedOver P worker declared around passes delivery n ≤ min n limit := by
  induction n with
  | zero => exact Nat.zero_le _
  | succ n ih =>
    have once : handedOver P worker declared around passes delivery (n + 1) ≤
        handedOver P worker declared around passes delivery n + 1 := by
      rw [handedOver]
      split
      · exact Nat.le_succ _
      · exact Nat.add_le_add_left (handleCount_dispatch_le P worker (around n) _) _
    by_cases hn : n < limit
    · omega
    · have none : handedOver P worker declared around passes delivery (n + 1) =
          handedOver P worker declared around passes delivery n := by
        rw [handedOver]
        split
        · rfl
        · rename_i d hd
          cases handed : handedTo P worker (around n) d with
          | none =>
            rw [handleCount_of_free (handleFree_of_handedTo_none P worker (around n) d handed)]
            rfl
          | some pair => exact absurd (within n d hd (by rw [handed]; rfl)) hn
      omega

theorem copyAt_of_le {j i : ℕ} {d : Delivery}
    (h : copyAt P worker declared around passes delivery j = some d) (hi : i ≤ j) :
    ∃ d', copyAt P worker declared around passes delivery i = some d' := by
  induction hi using Nat.decreasingInduction with
  | self => exact ⟨d, h⟩
  | of_succ k _ ih =>
    obtain ⟨later, hlater⟩ := ih
    obtain ⟨d', _, hd', _⟩ := copyAt_succ P worker declared around passes delivery hlater
    exact ⟨d', hd'⟩

/-- Every registered handler fails, and never with an error that is final at once. -/
def AlwaysFails : Prop :=
  ∀ envelope authentication, (worker.handlers envelope.messageType).isSome = true →
    ∃ error, (handlerOutcome worker envelope authentication).1 = .error error ∧
      error.isPermanentDeliveryFailure = false

variable {worker}

theorem retryCopy_of_failure (fails : AlwaysFails worker) (declared : Declared worker)
    (manual : worker.config.ackMode = .manual) {around : Surroundings} {d : Delivery}
    (handed : (handedTo P worker around d).isSome = true)
    (attempt : currentAttempt worker d < worker.config.maxAttempts.toNat) :
    (retryCopy P worker around d).isSome = true := by
  obtain ⟨⟨envelope, authentication⟩, hpair⟩ := Option.isSome_iff_exists.mp handed
  obtain ⟨registered, _⟩ := (handedTo_some P worker around d).mp hpair
  obtain ⟨error, hfailed, retryable⟩ := fails envelope authentication registered
  have key : RabbitmqMetadata.toShortString (waitQueueName worker.queue) "wait queue name" =
      .ok ⟨waitQueueName worker.queue, declared⟩ := dif_pos declared
  have route : routeFailure error (currentAttempt worker d) worker.config.maxAttempts.toNat =
      .retry := by
    rw [routeFailure, retryable, if_neg Bool.false_ne_true, if_pos attempt]
  unfold retryCopy
  rw [manual, hpair]
  dsimp only
  rw [hfailed]
  dsimp only
  rw [route, key]
  rfl

theorem copyAt_beyond_budget (fails : AlwaysFails worker)
    (manual : worker.config.ackMode = .manual)
    (first : currentAttempt worker delivery < worker.config.maxAttempts.toNat)
    (start : startCount worker delivery < 0)
    (reaches : ∀ j ≤ worker.config.maxAttempts.toNat, ∀ d,
      copyAt P worker declared around passes delivery j = some d →
        (handedTo P worker (around j) d).isSome = true) {j : ℕ}
    (hj : j ≤ worker.config.maxAttempts.toNat) :
    ∃ d, copyAt P worker declared around passes delivery j = some d := by
  induction j with
  | zero => exact ⟨delivery, rfl⟩
  | succ j ih =>
    obtain ⟨d, hd⟩ := ih (by omega)
    have attempt : currentAttempt worker d < worker.config.maxAttempts.toNat := by
      rcases j with _ | j
      · cases hd
        exact first
      · rw [currentAttempt_copyAt P worker declared around passes delivery hd]
        omega
    obtain ⟨copy, hcopy⟩ := Option.isSome_iff_exists.mp
      (retryCopy_of_failure P fails declared manual (reaches j (by omega) d hd) attempt)
    exact ⟨redelivered worker declared (passes j) copy, by simp [copyAt, hd, hcopy]⟩

theorem handedOver_eq (manual : worker.config.ackMode = .manual) {n : ℕ}
    (reaches : ∀ j < n, ∃ d, copyAt P worker declared around passes delivery j = some d ∧
      (handedTo P worker (around j) d).isSome = true) :
    handedOver P worker declared around passes delivery n = n := by
  induction n with
  | zero => rfl
  | succ n ih =>
    obtain ⟨d, hd, handed⟩ := reaches n (by omega)
    rw [handedOver, ih fun j hj => reaches j (by omega), hd]
    dsimp only
    rw [handleCount_dispatch P worker (around n) d manual, handed]
    rfl

/-- The worker retries nothing, or the first attempt spends the budget, or the history that
the producer wrote does not start below zero. -/
def HonestStart (worker : Worker VerifyingKey) (delivery : Delivery) : Prop :=
  worker.config.ackMode ≠ .manual ∨
    worker.config.maxAttempts.toNat ≤ currentAttempt worker delivery ∨
    0 ≤ startCount worker delivery

theorem copies_within_budget (honest : HonestStart worker delivery) {j : ℕ} {d : Delivery}
    (hd : copyAt P worker declared around passes delivery j = some d) :
    j < max 1 worker.config.maxAttempts.toNat := by
  rcases honest with automatic | spent | start
  · rcases j with _ | j
    · omega
    · obtain ⟨d', copy, _, hcopy, _⟩ := copyAt_succ P worker declared around passes delivery hd
      exact absurd (retryCopy_some P worker (around j) d' hcopy).1 automatic
  · rcases Nat.eq_zero_or_pos j with rfl | later
    · omega
    · obtain ⟨d', hd'⟩ := copyAt_of_le P worker declared around passes delivery hd (i := 1) later
      obtain ⟨d'', hd'', attempt⟩ :=
        attempt_of_copyAt_succ P worker declared around passes delivery hd'
      cases hd''
      omega
  · exact copyAt_within_budget P worker declared around passes delivery start hd

/-- The budget bounds the calls of a handler that always fails where the history starts
honestly; and where every copy reaches a handler, only there. -/
theorem handedOver_within_budget_iff (fails : AlwaysFails worker) :
    (HonestStart worker delivery → ∀ n, handedOver P worker declared around passes delivery n ≤
      max 1 worker.config.maxAttempts.toNat) ∧
    ((∀ j d, copyAt P worker declared around passes delivery j = some d →
        (handedTo P worker (around j) d).isSome = true) →
      ((∀ n, handedOver P worker declared around passes delivery n ≤
        max 1 worker.config.maxAttempts.toNat) ↔ HonestStart worker delivery)) := by
  have enough : HonestStart worker delivery → ∀ n,
      handedOver P worker declared around passes delivery n ≤
        max 1 worker.config.maxAttempts.toNat := by
    intro honest n
    have bound := handedOver_le P worker declared around passes delivery
      (fun j d hd _ => copies_within_budget P declared around passes delivery honest hd) n
    omega
  refine ⟨enough, fun reaches => ⟨fun within => ?_, enough⟩⟩
  by_contra forged
  simp only [HonestStart, not_or, not_not, not_le] at forged
  obtain ⟨manual, first, start⟩ := forged
  have handed := handedOver_eq P declared around passes delivery manual
    (n := worker.config.maxAttempts.toNat + 1) fun j hj => by
      obtain ⟨d, hd⟩ := copyAt_beyond_budget P declared around passes delivery fails manual first
        start (fun j _ => reaches j) (Nat.lt_succ_iff.mp hj)
      exact ⟨d, hd, reaches j d hd⟩
  have bound := within (worker.config.maxAttempts.toNat + 1)
  rw [handed] at bound
  have positive : 1 ≤ currentAttempt worker delivery := by
    simp only [currentAttempt, u32Max]
    omega
  omega

end Run

/-- Two attempts are allowed and every call of the handler fails. -/
def failingWorker : Worker Bytes where
  queue := "orders"
  config := ⟨.manual, 2, 64, .default, none, none⟩
  handlers := fun _ => some fun _ _ => .returned (.error (.internal "refused"))

theorem failingWorker_declared : Declared failingWorker := by
  unfold Declared
  decide

theorem failingWorker_fails : AlwaysFails failingWorker :=
  fun _ _ _ => ⟨.internal "refused", rfl, rfl⟩

def noFirstDeath : FirstDeath := ⟨[], fun _ h => absurd h (List.not_mem_nil)⟩

/-- A delivery whose producer wrote the history itself, starting from the given count. -/
def forgedDelivery (count : Int64) : Delivery where
  routingKey := ⟨"orders", by decide⟩
  properties := { BasicProperties.default with
    headers := some ((∅ : FieldTable).insert deathHeader (.fieldArray [.fieldTable
      [(countField, .longLongInt count), (queueField, .longString (utf8 "orders.retry")),
        (reasonField, .longString (utf8 "expired"))]]))
    kind := some ⟨"OrderPlaced", by decide⟩ }
  data := [1]

theorem forged_history_overruns_budget :
    AlwaysFails failingWorker ∧ Succeeds sampleSurroundings.broker ∧
    failingWorker.config.maxAttempts.toNat = 2 ∧
    handedOver samplePrimitives failingWorker failingWorker_declared (fun _ => sampleSurroundings)
      (fun _ => noFirstDeath) (forgedDelivery (-1)) 4 = 3 := by
  refine ⟨failingWorker_fails, ⟨fun _ => rfl, rfl⟩, rfl, ?_⟩
  decide +kernel

/-- A history that starts at one costs an attempt and stays within the budget; one that
starts below zero does not, and all its copies reach the handler. -/
theorem handedOver_within_budget_sample :
    (∀ n, handedOver samplePrimitives failingWorker failingWorker_declared
      (fun _ => sampleSurroundings) (fun _ => noFirstDeath) (forgedDelivery 1) n ≤ 2) ∧
    ¬ ∀ n, handedOver samplePrimitives failingWorker failingWorker_declared
      (fun _ => sampleSurroundings) (fun _ => noFirstDeath) (forgedDelivery (-1)) n ≤ 2 := by
  constructor
  · have start : startCount failingWorker (forgedDelivery 1) = 1 := by decide +kernel
    exact (handedOver_within_budget_iff samplePrimitives failingWorker_declared _ _ _
      failingWorker_fails).1 (Or.inr (Or.inr (by rw [start]; decide)))
  · have reaches : ∀ j d, copyAt samplePrimitives failingWorker failingWorker_declared
        (fun _ => sampleSurroundings) (fun _ => noFirstDeath) (forgedDelivery (-1)) j = some d →
        (handedTo samplePrimitives failingWorker sampleSurroundings d).isSome = true := by
      intro j d hd
      have early : ∀ i ≤ 2, ∀ copy ∈ copyAt samplePrimitives failingWorker failingWorker_declared
          (fun _ => sampleSurroundings) (fun _ => noFirstDeath) (forgedDelivery (-1)) i,
          (handedTo samplePrimitives failingWorker sampleSurroundings copy).isSome = true := by
        decide +kernel
      by_cases late : j ≤ 2
      · exact early j late d hd
      · obtain ⟨copy, hcopy⟩ := copyAt_of_le samplePrimitives failingWorker failingWorker_declared
          _ _ _ hd (i := 3) (by omega)
        have ended : copyAt samplePrimitives failingWorker failingWorker_declared
            (fun _ => sampleSurroundings) (fun _ => noFirstDeath) (forgedDelivery (-1)) 3 =
            none := by
          rw [← Option.isNone_iff_eq_none]
          decide +kernel
        rw [ended] at hcopy
        cases hcopy
    have forged : ¬ HonestStart failingWorker (forgedDelivery (-1)) := by
      unfold HonestStart
      decide +kernel
    exact mt ((handedOver_within_budget_iff samplePrimitives failingWorker_declared _ _ _
      failingWorker_fails).2 reaches).mp forged

end RabbitmqRetryBudget
