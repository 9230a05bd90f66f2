import Hexeract.RabbitmqRetryBudget

/-! # Signatures across retries

A signature covers the destination and every header outside the security headers. The
wait queue returns a copy under the name of the queue and with the broker's own headers,
so whether the copy still verifies depends on what a pass adds. -/
namespace RabbitmqRetrySignature

open LibraryCollections LibraryFramedBytes StdTime BusErrors BusEnvelope BusEnvelopeCanonical
open BusEnvelopeSecurity RabbitmqMetadata RabbitmqDelivery RabbitmqWorker RabbitmqVerification
open RabbitmqWorkerRetry RabbitmqRetryBudget

variable {SigningKey VerifyingKey Signature : Type}

/-! ## The texts of a returned table -/

section Table

variable (waitQueue : String) (firstDeath : FirstDeath) (table : FieldTable)

theorem entryText_short (key : ShortString) :
    entryText table.entries key.asStr = (table.lookup key).bind textOf := by
  unfold entryText
  rw [dif_pos key.short]
  rfl

theorem entryText_long {key : String} (long : ¬ (utf8 key).length ≤ 255) :
    entryText table.entries key = none := dif_neg long

theorem lookup_deadLetterTable {key : ShortString} (ne : key ≠ deathHeader) :
    (deadLetterTable waitQueue firstDeath table).lookup key =
      ((lastValue firstDeath.headers key).map AMQPValue.longString).or (table.lookup key) := by
  rw [deadLetterTable, AList.lookup_insert_ne ne, lookup_writeAll,
    lastValue_map _ AMQPValue.longString]

theorem entryText_deathHeader :
    entryText (deadLetterTable waitQueue firstDeath table).entries deathHeader.asStr = none := by
  rw [entryText_short, deadLetterTable, AList.lookup_insert]
  rfl

theorem entryText_deadLetterTable {key : ShortString} (ne : key ≠ deathHeader) :
    entryText (deadLetterTable waitQueue firstDeath table).entries key.asStr =
      match lastValue firstDeath.headers key with
      | some value => fromUtf8 value
      | none => entryText table.entries key.asStr := by
  rw [entryText_short, lookup_deadLetterTable waitQueue firstDeath table ne, entryText_short]
  cases lastValue firstDeath.headers key <;> rfl

theorem firstDeath_not_reserved {key : ShortString} {value : Bytes}
    (h : lastValue firstDeath.headers key = some value) : isReservedHeader key.asStr = false := by
  obtain ⟨rest, hrest⟩ := firstDeath.keys _ (mem_of_lastValue h)
  have start : (utf8 key.asStr).take (utf8 reservedHeaderPrefix).length =
      (utf8 firstDeathKeyStart).take (utf8 reservedHeaderPrefix).length := by
    rw [← hrest]
    exact List.take_append_of_le_length (by decide)
  unfold isReservedHeader getUpTo
  split
  · rename_i bytes hbytes
    split at hbytes
    · cases hbytes
      rw [start]
      decide
    · cases hbytes
  · rfl

theorem firstDeath_ne_deathHeader {key : ShortString} {value : Bytes}
    (h : lastValue firstDeath.headers key = some value) : key ≠ deathHeader := by
  rintro rfl
  have start : (utf8 firstDeathKeyStart).IsPrefix (utf8 deathHeader.asStr) :=
    firstDeath.keys _ (mem_of_lastValue h)
  exact absurd start (by decide)

theorem entryText_reserved {key : String} (reserved : isReservedHeader key = true) :
    entryText (deadLetterTable waitQueue firstDeath table).entries key =
      entryText table.entries key := by
  by_cases short : (utf8 key).length ≤ 255
  · have ne : (⟨key, short⟩ : ShortString) ≠ deathHeader := by
      intro h
      have : key = deathHeader.asStr := congrArg ShortString.asStr h
      rw [this] at reserved
      exact absurd reserved (by decide)
    have texts := entryText_deadLetterTable waitQueue firstDeath table ne
    cases hadded : lastValue firstDeath.headers ⟨key, short⟩ with
    | none =>
      rw [hadded] at texts
      exact texts
    | some value =>
      rw [firstDeath_not_reserved firstDeath hadded] at reserved
      cases reserved
  · rw [entryText_long _ short, entryText_long _ short]

/-- A pass that leaves every text of the table as it was: what it adds was there already,
and the death history takes the place of no text. -/
structure KeepsTexts : Prop where
  history : entryText table.entries deathHeader.asStr = none
  added : ∀ key value, lastValue firstDeath.headers key = some value →
    entryText table.entries key.asStr = fromUtf8 value

theorem keepsTexts_iff :
    (∀ key, isReservedHeader key = false →
      entryText (deadLetterTable waitQueue firstDeath table).entries key =
        entryText table.entries key) ↔ KeepsTexts firstDeath table := by
  constructor
  · intro same
    constructor
    · rw [← same deathHeader.asStr (by decide), entryText_deathHeader]
    · intro key value hadded
      rw [← same key.asStr (firstDeath_not_reserved firstDeath hadded),
        entryText_deadLetterTable waitQueue firstDeath table
          (firstDeath_ne_deathHeader firstDeath hadded), hadded]
  · intro keeps key _
    by_cases short : (utf8 key).length ≤ 255
    · by_cases history : (⟨key, short⟩ : ShortString) = deathHeader
      · have name : key = deathHeader.asStr := congrArg ShortString.asStr history
        rw [name, entryText_deathHeader, keeps.history]
      · have texts := entryText_deadLetterTable waitQueue firstDeath table history
        cases hadded : lastValue firstDeath.headers ⟨key, short⟩ with
        | none =>
          rw [hadded] at texts
          exact texts
        | some value =>
          rw [hadded] at texts
          exact texts.trans (keeps.added _ value hadded).symm
    · rw [entryText_long _ short, entryText_long _ short]

end Table

/-! ## Decoding a returned copy -/

theorem identifierFrom_strict {uuid : UuidText} {field : String} {raw : Option ShortString}
    {fresh id : Uuid} (h : identifierFrom uuid true field raw fresh = .ok id) :
    isParseableUuid uuid raw = true ∧
      ∀ other, identifierFrom uuid true field raw other = .ok id := by
  cases raw with
  | none => cases h
  | some text =>
    simp only [identifierFrom, isParseableUuid, Option.any_some] at h ⊢
    cases parsed : uuid.parse text.asStr with
    | none =>
      rw [parsed] at h
      cases h
    | some found =>
      rw [parsed] at h
      exact ⟨rfl, fun _ => h⟩

theorem publishedAtFrom_strict (timestamp : Option UInt64) (now other : SystemTime) :
    publishedAtFrom true timestamp now = publishedAtFrom true timestamp other := by
  cases timestamp <;> rfl

theorem decodeHeaders_texts {table : Option FieldTable} {limits : AmqpMetadataLimits}
    {application protocol : HeaderMap}
    (h : decodeHeaders table limits = .ok (application, protocol)) (s : String) :
    application.lookup s =
        (if isReservedHeader s then none else entryText (table.getD ∅).entries s) ∧
      protocol.lookup s =
        (if isReservedHeader s then entryText (table.getD ∅).entries s else none) := by
  cases table with
  | some table => exact decodeHeaders_lookup h s
  | none =>
    cases h
    have empty : entryText [] s = none := by
      unfold entryText
      split <;> rfl
    simp [empty]

section Copy

variable {P : Primitives SigningKey VerifyingKey Signature} {worker : Worker VerifyingKey}
  {verifier : EnvelopeVerifier VerifyingKey}

theorem decodeDelivery_required (secured : worker.config.envelopeSecurity = some verifier)
    (required : verifier.config.policy = .required) {around : Surroundings} {d : Delivery}
    {e : Envelope} :
    decodeDelivery worker around d = .ok e ↔ d.data.length ≤ worker.config.maxPayloadBytes ∧
      Decoded around.uuid around.minted d.properties d.data worker.config.metadataLimits true
        e := by
  have strict : deriveRequiredEnvelopeFields worker.config.envelopeSecurity = .strict := by
    rw [secured, deriveRequiredEnvelopeFields, required]
    rfl
  have always : ∀ present : Bool,
      (present || (RequiredEnvelopeFields.strict == RequiredEnvelopeFields.strict)) = true := by
    decide
  rw [decodeDelivery, deliveryToEnvelope_ok, strict, always]

theorem propertiesWithEffectiveIdentity_self {uuid : UuidText} {properties : BasicProperties}
    (messageId : isParseableUuid uuid properties.messageId = true)
    (correlationId : isParseableUuid uuid properties.correlationId = true) (e : Envelope) :
    propertiesWithEffectiveIdentity uuid properties e = properties := by
  unfold propertiesWithEffectiveIdentity
  rw [if_pos messageId, if_pos correlationId]

def returnedTable (worker : Worker VerifyingKey) (firstDeath : FirstDeath) (d : Delivery) :
    FieldTable :=
  deadLetterTable (waitQueueName worker.queue) firstDeath (d.properties.headers.getD ∅)

theorem decodeDelivery_returned (secured : worker.config.envelopeSecurity = some verifier)
    (required : verifier.config.policy = .required) (declared : Declared worker)
    (firstDeath : FirstDeath) {around later : Surroundings} (uuid : later.uuid = around.uuid)
    {d : Delivery} {e e' : Envelope} {copy : Publication}
    (decoded : decodeDelivery worker around d = .ok e)
    (retried : retryCopy P worker around d = some copy) :
    decodeDelivery worker later (redelivered worker declared firstDeath copy) = .ok e' ↔
      ∃ maps, decodeHeaders (some (returnedTable worker firstDeath d))
          worker.config.metadataLimits = .ok maps ∧
        e' = { e with headers := maps.1, protocolHeaders := maps.2 } := by
  obtain ⟨fits, first⟩ := (decodeDelivery_required secured required).mp decoded
  obtain ⟨parsedId, anyId⟩ := identifierFrom_strict first.messageId
  obtain ⟨parsedCorrelation, anyCorrelation⟩ := identifierFrom_strict first.correlationId
  obtain ⟨_, _, handed, _, _, properties, payload⟩ := retryCopy_some P worker around d retried
  rw [propertiesWithEffectiveIdentity_self parsedId parsedCorrelation] at properties
  rw [decodeDelivery_required secured required]
  simp only [redelivered, properties, payload, fits, true_and, uuid]
  constructor
  · intro again
    refine ⟨_, again.maps, ?_⟩
    have time := again.publishedAt
    rw [publishedAtFrom_strict _ _ around.minted.now] at time
    cases e
    cases e'
    simp only [Envelope.mk.injEq, true_and]
    exact ⟨Except.ok.inj (again.messageId.symm.trans (anyId _)),
      Except.ok.inj (again.messageType.symm.trans first.messageType),
      again.payload.trans first.payload.symm,
      Except.ok.inj (again.correlationId.symm.trans (anyCorrelation _)),
      again.replyTo.trans first.replyTo.symm,
      Except.ok.inj (time.symm.trans first.publishedAt)⟩
  · rintro ⟨maps, hmaps, rfl⟩
    refine ⟨hmaps, anyId _, anyCorrelation _, first.messageType, ?_, first.payload, first.replyTo⟩
    rw [publishedAtFrom_strict _ _ around.minted.now]
    exact first.publishedAt

theorem verdict_principal (secured : worker.config.envelopeSecurity = some verifier)
    {around : Surroundings} {d : Delivery} {e : Envelope} {p : VerifiedPrincipal} :
    verdict P worker around d = .ok (e, some p) ↔ decodeDelivery worker around d = .ok e ∧
      (∀ user ∈ d.properties.userId.map ShortString.asStr, p.issuer.asStr = user) ∧
      ∃ b raw signature key representation, b.destination = d.routingKey.asStr ∧
        CanonicalBinding.principal b = p ∧
        Verified P verifier e b raw signature key representation := by
  rw [verdict_ok, establishIdentity_some, secured]
  simp only [Option.some.injEq, exists_eq_left', verify_some]

/-! ## Verifying a returned copy -/

theorem isSecurityHeader_of_not_reserved {name : String} (h : isReservedHeader name = false) :
    isSecurityHeader name = false := by
  by_contra security
  rw [Bool.not_eq_false, isSecurityHeader, List.contains_iff_mem] at security
  rw [(securityHeaderNames_canonical name security).1] at h
  cases h

structure KeepsSignature (worker : Worker VerifyingKey) (firstDeath : FirstDeath)
    (d : Delivery) : Prop where
  destination : d.routingKey.asStr = worker.queue
  decodable : Decodable worker.config.metadataLimits (returnedTable worker firstDeath d)
  texts : KeepsTexts firstDeath (d.properties.headers.getD ∅)

/-- One pass: the copy verifies for the same principal exactly if the pass keeps the
signature. -/
theorem verdict_returned (exactly : VerifiesExactly P)
    (secured : worker.config.envelopeSecurity = some verifier)
    (required : verifier.config.policy = .required) (declared : Declared worker)
    (firstDeath : FirstDeath) {around later : Surroundings} (uuid : later.uuid = around.uuid)
    {d : Delivery} {e : Envelope} {p : VerifiedPrincipal} {copy : Publication}
    (first : verdict P worker around d = .ok (e, some p))
    (retried : retryCopy P worker around d = some copy) :
    (∃ e', verdict P worker later (redelivered worker declared firstDeath copy) =
      .ok (e', some p)) ↔ KeepsSignature worker firstDeath d := by
  obtain ⟨decoded, user, b, raw, signature, key, bytes, destination, principal, verified⟩ :=
    (verdict_principal secured).mp first
  have maps := ((decodeDelivery_required secured required).mp decoded).2.maps
  have texts := decodeHeaders_texts maps
  have userId : (redelivered worker declared firstDeath copy).properties.userId =
      d.properties.userId := by
    obtain ⟨_, _, envelope, _, _, properties, _⟩ := retryCopy_some P worker around d retried
    simp only [redelivered, properties,
      (propertiesWithEffectiveIdentity_keeps around.uuid d.properties envelope).2]
  simp only [verdict_principal secured, userId, decodeDelivery_returned secured required declared
    firstDeath uuid decoded retried]
  constructor
  · rintro ⟨e', ⟨maps', hmaps', rfl⟩, _, b', raw', signature', key', bytes', destination', _,
      verified'⟩
    have texts' := decodeHeaders_lookup hmaps'
    have headers : ∀ name, isReservedHeader name = true → e.header name =
        ({ e with headers := maps'.1, protocolHeaders := maps'.2 } : Envelope).header name := by
      intro name reserved
      rw [header_of_reserved reserved, header_of_reserved reserved, (texts name).2,
        (texts' name).2, if_pos reserved, if_pos reserved]
      exact (entryText_reserved _ firstDeath _ reserved).symm
    obtain ⟨rfl, covered⟩ := verified.same_headers exactly headers verified'
    have decoded' :
        RespectsNamespace { e with headers := maps'.1, protocolHeaders := maps'.2 } := by
      obtain ⟨application, protocol⟩ := decodeHeaders_namespace hmaps'
      exact ⟨application, fun name hname => (protocol name hname).1⟩
    have application := (maps_of_coveredHeaders_perm (decodeDelivery_namespace decoded) decoded'
      covered).1
    refine ⟨destination.symm.trans destination', (decodeHeaders_some.mp hmaps').1, ?_⟩
    apply (keepsTexts_iff (waitQueueName worker.queue) firstDeath _).mp
    intro name free
    have same := application name (isSecurityHeader_of_not_reserved free)
    rw [(texts name).1, (texts' name).1, free] at same
    exact same.symm
  · intro keeps
    obtain ⟨maps', hmaps'⟩ : ∃ maps', decodeHeaders (some (returnedTable worker firstDeath d))
        worker.config.metadataLimits = .ok maps' :=
      ⟨_, decodeHeaders_some.mpr ⟨keeps.decodable, rfl⟩⟩
    have texts' := decodeHeaders_lookup hmaps'
    have same : ∀ name, entryText (returnedTable worker firstDeath d).entries name =
        entryText (d.properties.headers.getD ∅).entries name := by
      intro name
      cases reserved : isReservedHeader name with
      | true => exact entryText_reserved _ firstDeath _ reserved
      | false => exact (keepsTexts_iff _ firstDeath _).mpr keeps.texts name reserved
    have kept : SameEnvelope e { e with headers := maps'.1, protocolHeaders := maps'.2 } := by
      refine ⟨rfl, rfl, rfl, rfl, rfl, fun name => ?_, fun name => ?_, rfl⟩
      · rw [(texts name).1, (texts' name).1, same]
      · rw [(texts name).2, (texts' name).2, same]
    exact ⟨_, ⟨maps', hmaps', rfl⟩, user, b, raw, signature, key, bytes,
      destination.trans keeps.destination, principal, verified.of_same kept⟩

end Copy

section Run

variable (P : Primitives SigningKey VerifyingKey Signature) {worker : Worker VerifyingKey}
  (declared : Declared worker) (around : ℕ → Surroundings) (passes : ℕ → FirstDeath)
  (delivery : Delivery)

/-- The exact condition under which every copy of a signed delivery verifies like the
delivery itself: each pass that happens keeps the signature. -/
theorem copies_verify_iff (exactly : VerifiesExactly P)
    {verifier : EnvelopeVerifier VerifyingKey}
    (secured : worker.config.envelopeSecurity = some verifier)
    (required : verifier.config.policy = .required) (uuid : ∀ j, (around j).uuid = (around 0).uuid)
    {e : Envelope} {p : VerifiedPrincipal}
    (first : verdict P worker (around 0) delivery = .ok (e, some p)) :
    (∀ j d, copyAt P worker declared around passes delivery j = some d →
      ∃ e', verdict P worker (around j) d = .ok (e', some p)) ↔
    ∀ j d, copyAt P worker declared around passes delivery j = some d →
      (copyAt P worker declared around passes delivery (j + 1)).isSome = true →
      KeepsSignature worker (passes j) d := by
  have step : ∀ j d e', copyAt P worker declared around passes delivery j = some d →
      verdict P worker (around j) d = .ok (e', some p) →
      ∀ d', copyAt P worker declared around passes delivery (j + 1) = some d' →
      ((∃ e'', verdict P worker (around (j + 1)) d' = .ok (e'', some p)) ↔
        KeepsSignature worker (passes j) d) := by
    intro j d e' hd verified d' hd'
    obtain ⟨before, copy, hbefore, retried, rfl⟩ :=
      copyAt_succ P worker declared around passes delivery hd'
    obtain rfl : before = d := Option.some.inj (hbefore.symm.trans hd)
    exact verdict_returned exactly secured required declared (passes j)
      ((uuid (j + 1)).trans (uuid j).symm) verified retried
  constructor
  · intro all j d hd again
    obtain ⟨d', hd'⟩ := Option.isSome_iff_exists.mp again
    obtain ⟨e', verified⟩ := all j d hd
    exact (step j d e' hd verified d' hd').mp (all (j + 1) d' hd')
  · intro keeps j
    induction j with
    | zero =>
      intro d hd
      cases hd
      exact ⟨e, first⟩
    | succ j ih =>
      intro d' hd'
      obtain ⟨d, copy, hd, _⟩ := copyAt_succ P worker declared around passes delivery hd'
      obtain ⟨e', verified⟩ := ih d hd
      exact (step j d e' hd verified d' hd').mpr (keeps j d hd (by rw [hd']; rfl))

end Run

open RabbitmqEnvelopeRoundTrip

theorem samplePrimitives_verifiesExactly : VerifiesExactly samplePrimitives := by
  intro key message other signature h k
  simp only [samplePrimitives, Bool.and_eq_true, beq_iff_eq] at h k
  have ne : ∀ bytes : Bytes, sampleSignature ≠ 0 :: bytes := by
    intro bytes same
    cases same
  have same := h.2.symm.trans k.2
  split at same <;> split at same
  · simp_all
  · exact absurd same (ne _)
  · exact absurd same.symm (ne _)
  · exact (List.cons.inj same).2

/-- The worker that received the signed sample, with a handler that fails. -/
def refusingWorker : Worker Bytes :=
  { sampleWorker with
    handlers := fun _ => some fun _ _ => .returned (.error (.internal "refused")) }

theorem refusingWorker_declared : Declared refusingWorker := by
  unfold Declared
  decide

/-- What the broker notes about the first pass through the wait queue. -/
def firstPass : FirstDeath where
  headers := [(⟨"x-first-death-exchange", by decide⟩, utf8 ""),
    (⟨"x-first-death-queue", by decide⟩, utf8 "orders.retry"),
    (⟨"x-first-death-reason", by decide⟩, utf8 "expired")]
  keys := by decide

theorem sampleDelivery_verifies :
    (verdict samplePrimitives refusingWorker sampleSurroundings sampleDelivery).map Prod.snd =
      .ok (some (CanonicalBinding.principal sampleBinding)) := by
  decide +kernel

theorem sampleCopy_mismatch :
    (copyAt samplePrimitives refusingWorker refusingWorker_declared (fun _ => sampleSurroundings)
      (fun _ => firstPass) sampleDelivery 1).map
      (fun copy => (verdict samplePrimitives refusingWorker sampleSurroundings copy).map Prod.snd) =
        some (.error (.envelopeSecurity .signatureMismatch)) := by
  decide +kernel

theorem signed_copy_becomes_poison :
    (verdict samplePrimitives refusingWorker sampleSurroundings sampleDelivery).map Prod.snd =
      .ok (some (CanonicalBinding.principal sampleBinding)) ∧
    ∃ copy, copyAt samplePrimitives refusingWorker refusingWorker_declared
        (fun _ => sampleSurroundings) (fun _ => firstPass) sampleDelivery 1 = some copy ∧
      (verdict samplePrimitives refusingWorker sampleSurroundings copy).map Prod.snd =
        .error (.envelopeSecurity .signatureMismatch) :=
  ⟨sampleDelivery_verifies, Option.map_eq_some_iff.mp sampleCopy_mismatch⟩

theorem copies_verify_sample :
    ∃ e, verdict samplePrimitives refusingWorker sampleSurroundings sampleDelivery =
        .ok (e, some (CanonicalBinding.principal sampleBinding)) ∧
      ¬ ∀ j d, copyAt samplePrimitives refusingWorker refusingWorker_declared
          (fun _ => sampleSurroundings) (fun _ => firstPass) sampleDelivery j = some d →
        ∃ e', verdict samplePrimitives refusingWorker sampleSurroundings d =
          .ok (e', some (CanonicalBinding.principal sampleBinding)) := by
  obtain ⟨⟨e, _⟩, first, rfl⟩ := map_ok.mp sampleDelivery_verifies
  refine ⟨e, first, fun all => ?_⟩
  have retried : (copyAt samplePrimitives refusingWorker refusingWorker_declared
      (fun _ => sampleSurroundings) (fun _ => firstPass) sampleDelivery 1).isSome = true := by
    rw [← Option.isSome_map, sampleCopy_mismatch]
    rfl
  have keeps := (copies_verify_iff samplePrimitives refusingWorker_declared
    (fun _ => sampleSurroundings) (fun _ => firstPass) sampleDelivery
    samplePrimitives_verifiesExactly rfl rfl (fun _ => rfl) first).mp all 0 _ rfl retried
  have added := keeps.texts.added ⟨"x-first-death-queue", by decide⟩ (utf8 "orders.retry")
    (by decide)
  exact absurd added (by decide +kernel)

end RabbitmqRetrySignature
