import Hexeract.RabbitmqMetadata

/-! # What the metadata codec guarantees, and what it costs

A table that was encoded within the limits decodes within them, and a decoded table respects
them. The limits count bytes, though, while the walk that measures a value takes one round
for every value nested in it and pushes all members of a container before it checks. -/
namespace RabbitmqMetadataBounds

open LibraryCollections LibraryFramedBytes BusErrors BusEnvelope BusEnvelopeCanonical
open BusEnvelopeSecurity RabbitmqMetadata

/-! ## Both directions of the codec -/

/-- The bounds a table respects. Sizes saturate at the largest machine word, which nothing
held in memory reaches. -/
structure WithinLimits (limits : AmqpMetadataLimits) (table : FieldTable) : Prop where
  count : table.entries.length ≤ limits.maxHeaders
  keys : ∀ entry ∈ table.entries, (utf8 entry.1.asStr).length ≤ limits.maxKeyBytes
  values : ∀ entry ∈ table.entries, min (valueBytes entry.2) usizeMax ≤ limits.maxValueBytes
  total : min (table.entries.map entrySize).sum usizeMax ≤ limits.maxTotalBytes

theorem withinLimits_of_decodable {limits : AmqpMetadataLimits} {table : FieldTable}
    (h : Decodable limits table) : WithinLimits limits table := by
  obtain ⟨values, total⟩ := measureTable_ok.mp h.measured
  exact ⟨h.count, h.keys, values, total⟩

/-- The table decodes to the envelope's own two maps, the security headers written over the
second. -/
def Recovers (e : Envelope) (limits : AmqpMetadataLimits) (security : Option SecurityHeaders)
    (table : FieldTable) : Prop :=
  ∃ application protocol, decodeHeaders (some table) limits = .ok (application, protocol) ∧
    SameMap application e.headers ∧ ∀ key, protocol.lookup key =
      (lastValue (security.getD []) key).or (e.protocolHeaders.lookup key)

def SignerNames (security : Option SecurityHeaders) : Prop :=
  ∀ headers ∈ security, headers.map Prod.fst = securityHeaderNames

theorem SignerNames.canonical {security : Option SecurityHeaders} (h : SignerNames security) :
    ∀ pair ∈ security.getD [], CanonicalName pair.1 := by
  cases security with
  | none => exact fun _ hmem => absurd hmem List.not_mem_nil
  | some headers =>
    intro pair hmem
    apply securityHeaderNames_canonical
    rw [← h headers rfl]
    exact List.mem_map_of_mem hmem

theorem reserved_of_recovers {e : Envelope} {limits : AmqpMetadataLimits}
    {security : Option SecurityHeaders} {table : FieldTable}
    (recovers : Recovers e limits security table) :
    ∀ key ∈ e.protocolHeaders, isReservedHeader key = true := by
  obtain ⟨application, protocol, decoded, _, same⟩ := recovers
  intro key hk
  obtain ⟨value, hvalue⟩ := Option.isSome_iff_exists.mp (AList.lookup_isSome.mpr hk)
  have kept : key ∈ protocol := by
    rw [← AList.lookup_isSome, same key, hvalue]
    cases lastValue (security.getD []) key <;> rfl
  exact ((decodeHeaders_namespace decoded).2 key kept).1

/-- An envelope with lowercase protocol keys comes back exactly if these keys are reserved
names; and whatever decodes keeps the namespaces apart and the bounds. -/
theorem codec_recovers_iff :
    (∀ (e : Envelope) (limits : AmqpMetadataLimits) (security : Option SecurityHeaders)
      (table : FieldTable), (∀ key ∈ e.protocolHeaders, hasAsciiUppercase key = false) →
      SignerNames security → encodeHeaders e limits security = .ok table →
        (Recovers e limits security table ↔
          ∀ key ∈ e.protocolHeaders, isReservedHeader key = true)) ∧
    ∀ (table : FieldTable) (limits : AmqpMetadataLimits) (application protocol : HeaderMap),
      decodeHeaders (some table) limits = .ok (application, protocol) →
        (∀ key ∈ application, isReservedHeader key = false) ∧
        (∀ key ∈ protocol, isReservedHeader key = true ∧ hasAsciiUppercase key = false) ∧
        WithinLimits limits table := by
  constructor
  · intro e limits security table lowercase signed encoded
    constructor
    · exact reserved_of_recovers
    · intro reserved
      exact decodeHeaders_encodeHeaders (fun key hk => ⟨reserved key hk, lowercase key hk⟩)
        signed.canonical encoded
  · intro table limits application protocol decoded
    obtain ⟨outside, inside⟩ := decodeHeaders_namespace decoded
    exact ⟨outside, inside, withinLimits_of_decodable (decodeHeaders_some.mp decoded).1⟩

/-- The signature of the sample message, as the signer writes it. -/
def sampleSecurityHeaders : SecurityHeaders :=
  securityHeaders samplePrimitives sampleBinding sampleSignature

theorem codec_recovers_sample : ∃ table,
    encodeHeaders sampleEnvelope .default (some sampleSecurityHeaders) = .ok table ∧
    Recovers sampleEnvelope .default (some sampleSecurityHeaders) table := by
  obtain ⟨table, encoded⟩ := exists_of_isOk (show (encodeHeaders sampleEnvelope .default
    (some sampleSecurityHeaders)).isOk = true by decide +kernel)
  have keys : ∀ key ∈ sampleEnvelope.protocolHeaders,
      hasAsciiUppercase key = false ∧ isReservedHeader key = true := by
    intro key hk
    rw [sampleEnvelope, AList.mem_insert, AList.mem_insert] at hk
    rcases hk with rfl | rfl | absent
    · decide
    · decide
    · exact absurd absent (AList.notMem_empty key)
  have signed : SignerNames (some sampleSecurityHeaders) := by
    intro headers written
    cases written
    rfl
  exact ⟨table, encoded, (codec_recovers_iff.1 _ .default _ table (fun key hk => (keys key hk).1)
    signed encoded).mpr fun key hk => (keys key hk).2⟩

/-- An envelope restored by a transport with one protocol header. -/
def restoredEnvelope (key : String) : Envelope where
  messageId := .fromU128 1
  messageType := "OrderPlaced"
  payload := []
  correlationId := .fromU128 2
  replyTo := none
  headers := ∅
  protocolHeaders := (∅ : HeaderMap).insert key "1"
  publishedAt := StdTime.unixEpoch

/-- The protocol header of this envelope is lowercase, but no reserved name. -/
theorem unreserved_key_changes_map : ∃ table application protocol,
    hasAsciiUppercase "trace" = false ∧
    encodeHeaders (restoredEnvelope "trace") .default none = .ok table ∧
    decodeHeaders (some table) .default = .ok (application, protocol) ∧
    (restoredEnvelope "trace").headers.lookup "trace" = none ∧
    application.lookup "trace" = some "1" ∧ protocol.lookup "trace" = none := by
  have decoded : ((encodeHeaders (restoredEnvelope "trace") .default none).bind fun table =>
      decodeHeaders (some table) .default).map
        (fun maps => (maps.1.lookup "trace", maps.2.lookup "trace")) = .ok (some "1", none) := by
    decide +kernel
  obtain ⟨⟨application, protocol⟩, decoded, lookups⟩ := map_ok.mp decoded
  obtain ⟨table, encoded, decoded⟩ := bind_ok.mp decoded
  obtain ⟨inApplication, inProtocol⟩ := Prod.mk.inj lookups
  exact ⟨table, application, protocol, by decide, encoded, decoded, rfl, inApplication, inProtocol⟩

/-! ## Measuring ends with the recursive size -/

mutual

def encodedSize : AMQPValue → ℕ
  | .fieldArray items => encodedSizeOfItems items
  | .fieldTable fields => encodedSizeOfFields fields
  | scalar => contribution scalar

def encodedSizeOfItems : List AMQPValue → ℕ
  | [] => 0
  | value :: rest => encodedSize value + encodedSizeOfItems rest

def encodedSizeOfFields : List (ShortString × AMQPValue) → ℕ
  | [] => 0
  | (key, value) :: rest =>
    (utf8 key.asStr).length + encodedSize value + encodedSizeOfFields rest

end

theorem bytesOf_cons (value : AMQPValue) (rest : List AMQPValue) :
    bytesOf (value :: rest) = ownBytes value + bytesOf rest := by
  rw [bytesOf, List.map_cons, List.sum_cons, bytesOf]

theorem bytesOf_append (values others : List AMQPValue) :
    bytesOf (values ++ others) = bytesOf values + bytesOf others := by
  rw [bytesOf, List.map_append, List.sum_append, bytesOf, bytesOf]

mutual

theorem valueBytes_eq_encodedSize : ∀ value, valueBytes value = encodedSize value
  | .fieldArray items => by
    rw [valueBytes, nested, bytesOf_cons, bytesOf_nestedItems items, encodedSize]
    exact Nat.zero_add _
  | .fieldTable fields => by
    rw [valueBytes, nested, bytesOf_cons, encodedSize]
    exact bytesOf_nestedFields fields
  | .boolean _ | .shortShortInt _ | .shortShortUInt _ | .shortInt _ | .shortUInt _ | .longInt _
  | .longUInt _ | .longLongInt _ | .float _ | .double _ | .decimalValue _ _ | .shortString _
  | .longString _ | .timestamp _ | .byteArray _ | .void => Nat.add_zero _

theorem bytesOf_nestedItems : ∀ items, bytesOf (nestedItems items) = encodedSizeOfItems items
  | [] => rfl
  | value :: rest => by
    have first := valueBytes_eq_encodedSize value
    rw [valueBytes] at first
    rw [nestedItems, bytesOf_append, first, bytesOf_nestedItems rest, encodedSizeOfItems]

theorem bytesOf_nestedFields : ∀ fields,
    (fields.map fun field : ShortString × AMQPValue => (utf8 field.1.asStr).length).sum +
      bytesOf (nestedFields fields) = encodedSizeOfFields fields
  | [] => rfl
  | (key, value) :: rest => by
    have first := valueBytes_eq_encodedSize value
    rw [valueBytes] at first
    rw [List.map_cons, List.sum_cons, nestedFields, bytesOf_append, first, encodedSizeOfFields,
      ← bytesOf_nestedFields rest]
    dsimp only
    omega

end

/-- The walk of the source, which nothing bounds beforehand: from a running total and a stack
its rounds lead to this result. -/
inductive Measures (max : ℕ) : ℕ → List AMQPValue → Except BusError ℕ → Prop
  | finished (measured : ℕ) : Measures max measured [] (.ok measured)
  | exceeded {measured : ℕ} {current : AMQPValue} (pending : List AMQPValue)
      (above : max < saturatingAdd measured (contribution current)) :
      Measures max measured (current :: pending) (.error (.metadataLimitExceeded .valueBytes
        (saturatingAdd measured (contribution current)) max))
  | round {measured : ℕ} {current : AMQPValue} {pending : List AMQPValue}
      {result : Except BusError ℕ}
      (within : saturatingAdd measured (contribution current) ≤ max)
      (rest : Measures max (saturatingAdd measured (contribution current))
        (members current ++ pending) result) :
      Measures max measured (current :: pending) result

theorem measures_measureLoop {max fuel measured : ℕ} {pending : List AMQPValue}
    (enough : (pending.flatMap nested).length ≤ fuel) :
    Measures max measured pending (measureLoop max fuel measured pending) := by
  induction fuel generalizing measured pending with
  | zero =>
    cases pending with
    | nil => exact .finished measured
    | cons current pending =>
      rw [visits_cons] at enough
      omega
  | succ fuel ih =>
    cases pending with
    | nil => exact .finished measured
    | cons current pending =>
      rw [visits_cons] at enough
      rw [measureLoop]
      split
      · rename_i within
        apply Measures.round within
        apply ih
        omega
      · rename_i above
        exact .exceeded pending (not_le.mp above)

theorem measures_measureValue (value : AMQPValue) (max : ℕ) :
    Measures max 0 [value] (measureValue value max) := by
  apply measures_measureLoop
  rw [List.flatMap_singleton, length_nested]

/-- The walk of a value whose size fits a machine word comes to an end, with that size or with
the error of the limit. -/
theorem measures_recursive_size {value : AMQPValue} (fits : encodedSize value ≤ usizeMax)
    (max : ℕ) :
    ∃ result, Measures max 0 [value] result ∧ measureValue value max = result ∧
      (encodedSize value ≤ max → result = .ok (encodedSize value)) ∧
      (max < encodedSize value → ∃ actual, max < actual ∧
        result = .error (.metadataLimitExceeded .valueBytes actual max)) := by
  have spec := measureValue_spec value max
  rw [valueBytes_eq_encodedSize, Nat.min_eq_left fits] at spec
  exact ⟨_, measures_measureValue value max, rfl, spec⟩

/-- A table of two entries, one of them an array: five bytes of keys and seven of values. -/
def smallTable : AMQPValue :=
  .fieldTable [(⟨"age", by decide⟩, .longUInt 7), (⟨"ok", by decide⟩, .fieldArray
    [.boolean true, .void, .shortInt 3])]

theorem measures_recursive_size_sample :
    measureValue smallTable 12 = .ok 12 ∧
      ∃ actual, 11 < actual ∧ measureValue smallTable 11 =
        .error (.metadataLimitExceeded .valueBytes actual 11) := by
  have size : encodedSize smallTable = 12 := by decide
  have fits : encodedSize smallTable ≤ usizeMax := by rw [size]; decide
  obtain ⟨_, _, rfl, within, _⟩ := measures_recursive_size fits 12
  obtain ⟨_, _, rfl, _, above⟩ := measures_recursive_size fits 11
  rw [size] at within above
  exact ⟨within (Nat.le_refl _), above (by decide)⟩

/-! ## The cost of measuring -/

/-- The values a walk takes from its stack, and the most the stack holds at once. -/
@[ext] structure Cost where
  visited : ℕ
  held : ℕ
  deriving DecidableEq

def Cost.none : Cost := ⟨0, 0⟩

def Cost.after (first second : Cost) : Cost :=
  ⟨first.visited + second.visited, max first.held second.held⟩

/-- One round: the stack before and after the members of the visited value are pushed. -/
def roundCost (before after : List AMQPValue) : Cost := ⟨1, max before.length after.length⟩

/-- The stack walk with its cost. The members are on the stack before the size is checked. -/
def walkLoop (maxValueBytes : ℕ) : ℕ → ℕ → List AMQPValue → Except BusError ℕ × Cost
  | _, measured, [] => (.ok measured, .none)
  | 0, measured, _ :: _ => (.ok measured, .none)
  | fuel + 1, measured, current :: pending =>
    let cost := roundCost (current :: pending) (members current ++ pending)
    let measured := saturatingAdd measured (contribution current)
    if measured ≤ maxValueBytes then
      let rest := walkLoop maxValueBytes fuel measured (members current ++ pending)
      (rest.1, cost.after rest.2)
    else (.error (.metadataLimitExceeded .valueBytes measured maxValueBytes), cost)

def walkValue (value : AMQPValue) (maxValueBytes : ℕ) : Except BusError ℕ × Cost :=
  walkLoop maxValueBytes (nodes value) 0 [value]

def walkEntries (limits : AmqpMetadataLimits) (total : ℕ) :
    List (Σ _ : ShortString, AMQPValue) → Except BusError Unit × Cost
  | [] => (.ok (), .none)
  | ⟨key, value⟩ :: rest =>
    let walk := walkValue value limits.maxValueBytes
    match walk.1 with
    | .error e => (.error e, walk.2)
    | .ok valueBytes =>
      let total := saturatingAdd (saturatingAdd total (utf8 key.asStr).length) valueBytes
      match checkAtMost .totalBytes total limits.maxTotalBytes with
      | .error e => (.error e, walk.2)
      | .ok () =>
        let others := walkEntries limits total rest
        (others.1, walk.2.after others.2)

/-- Decoding with the cost of its measurements: a table with too many entries or too long a
key is refused before anything is measured. -/
def walkHeaders (table : Option FieldTable) (limits : AmqpMetadataLimits) :
    Except BusError (HeaderMap × HeaderMap) × Cost :=
  match table with
  | .none => (.ok (∅, ∅), .none)
  | some table =>
    match checkAtMost .headerCount table.entries.length limits.maxHeaders with
    | .error e => (.error e, .none)
    | .ok () =>
      match checkAll (fun entry =>
          checkAtMost .keyBytes (utf8 entry.1.asStr).length limits.maxKeyBytes) table.entries with
      | .error e => (.error e, .none)
      | .ok () =>
        let walk := walkEntries limits 0 table.entries
        (walk.1.bind fun () => decodeEntries ∅ ∅ table.entries, walk.2)

theorem walkLoop_result (max fuel measured : ℕ) (pending : List AMQPValue) :
    (walkLoop max fuel measured pending).1 = measureLoop max fuel measured pending := by
  induction fuel generalizing measured pending with
  | zero => cases pending <;> rfl
  | succ fuel ih =>
    cases pending with
    | nil => rfl
    | cons current pending =>
      rw [walkLoop, measureLoop]
      split
      · exact ih _ _
      · rfl

theorem walkEntries_result (limits : AmqpMetadataLimits) (total : ℕ)
    (entries : List (Σ _ : ShortString, AMQPValue)) :
    (walkEntries limits total entries).1 = measureEntries limits total entries := by
  induction entries generalizing total with
  | nil => rfl
  | cons entry rest ih =>
    obtain ⟨key, value⟩ := entry
    have measured : (walkValue value limits.maxValueBytes).1 =
        measureValue value limits.maxValueBytes := walkLoop_result _ _ _ _
    rw [walkEntries, measureEntries, measured]
    cases measureValue value limits.maxValueBytes with
    | error e => rfl
    | ok valueBytes =>
      cases fits : checkAtMost .totalBytes (saturatingAdd
          (saturatingAdd total (utf8 key.asStr).length) valueBytes) limits.maxTotalBytes with
      | error e => simp [fits, bind, Except.bind]
      | ok u => simp [fits, ih, bind, Except.bind]

theorem walkHeaders_result (table : Option FieldTable) (limits : AmqpMetadataLimits) :
    (walkHeaders table limits).1 = decodeHeaders table limits := by
  cases table with
  | none => rfl
  | some table =>
    rw [walkHeaders, decodeHeaders, ← walkEntries_result]
    cases checkAtMost .headerCount table.entries.length limits.maxHeaders with
    | error e => rfl
    | ok u =>
      cases checkAll (fun entry : Σ _ : ShortString, AMQPValue =>
          checkAtMost .keyBytes (utf8 entry.1.asStr).length limits.maxKeyBytes) table.entries with
      | error e => rfl
      | ok u => rfl

/-! ## What the limits leave open -/

def weightlessIn (values : List AMQPValue) : ℕ := values.countP (ownBytes · = 0)

theorem weightlessIn_pending (current : AMQPValue) (pending : List AMQPValue) :
    weightlessIn ((current :: pending).flatMap nested) =
      weightlessIn ((members current ++ pending).flatMap nested) +
        if ownBytes current = 0 then 1 else 0 := by
  rw [weightlessIn, (pending_perm current pending).countP_eq, List.countP_cons]
  simp only [decide_eq_true_eq]
  rfl

/-- Every visit uses up a byte of the limit or a weightless value. -/
theorem walkLoop_visited {max fuel measured : ℕ} {pending : List AMQPValue}
    (within : measured ≤ max)
    (addressable : measured + bytesOf (pending.flatMap nested) ≤ usizeMax) :
    (walkLoop max fuel measured pending).2.visited ≤
      max + 1 - measured + weightlessIn (pending.flatMap nested) := by
  induction fuel generalizing measured pending with
  | zero => cases pending <;> exact Nat.zero_le _
  | succ fuel ih =>
    cases pending with
    | nil => exact Nat.zero_le _
    | cons current pending =>
      have weightless := weightlessIn_pending current pending
      have bytes := bytesOf_pending current pending
      have added : saturatingAdd measured (contribution current) = measured + ownBytes current := by
        have exact := saturatingAdd_contribution measured current
        rwa [Nat.min_eq_left (by omega), Nat.min_eq_left (by omega)] at exact
      rw [walkLoop, added]
      split
      · rename_i fits
        have rest := @ih (measured + ownBytes current) (members current ++ pending) fits (by omega)
        simp only [Cost.after, roundCost]
        split at weightless <;> omega
      · simp only [roundCost]
        omega

/-- The stack never grows by more than the members of one container a visit. -/
theorem walkLoop_held {width max fuel measured : ℕ} {pending : List AMQPValue}
    (wide : ∀ inner ∈ pending.flatMap nested, (members inner).length ≤ width) :
    (walkLoop max fuel measured pending).2.held ≤
      pending.length + width * (walkLoop max fuel measured pending).2.visited := by
  induction fuel generalizing measured pending with
  | zero => cases pending <;> exact Nat.zero_le _
  | succ fuel ih =>
    cases pending with
    | nil => exact Nat.zero_le _
    | cons current pending =>
      have inside : ∀ inner, inner ∈ (current :: pending).flatMap nested ↔
          inner ∈ current :: (members current ++ pending).flatMap nested :=
        fun _ => (pending_perm current pending).mem_iff
      have own := wide current ((inside current).mpr List.mem_cons_self)
      rw [walkLoop]
      split
      · have rest := @ih (saturatingAdd measured (contribution current))
          (members current ++ pending)
          fun inner hmem => wide inner ((inside inner).mpr (List.mem_cons_of_mem _ hmem))
        simp only [Cost.after, roundCost, List.length_append, List.length_cons, Nat.mul_add,
          Nat.mul_one] at rest ⊢
        omega
      · simp only [roundCost, List.length_append, List.length_cons, Nat.mul_one]
        omega

/-- Everything that the values of these entries hold, themselves included. -/
def everyValue (entries : List (Σ _ : ShortString, AMQPValue)) : List AMQPValue :=
  entries.flatMap fun entry => nested entry.2

section Cost

variable {limits : AmqpMetadataLimits} {width : ℕ}

theorem walkValue_cost {value : AMQPValue} (addressable : valueBytes value ≤ usizeMax)
    (wide : ∀ inner ∈ nested value, (members inner).length ≤ width) :
    (walkValue value limits.maxValueBytes).2.visited ≤
        limits.maxValueBytes + 1 + weightlessIn (nested value) ∧
      (walkValue value limits.maxValueBytes).2.held ≤
        1 + width * (limits.maxValueBytes + 1 + weightlessIn (nested value)) := by
  have walked : ([value].flatMap nested) = nested value := by simp
  have visited := @walkLoop_visited limits.maxValueBytes (nodes value) 0 [value] (Nat.zero_le _)
    (by rw [walked, Nat.zero_add]; exact addressable)
  have held := @walkLoop_held width limits.maxValueBytes (nodes value) 0 [value]
    (by rw [walked]; exact wide)
  rw [walked, Nat.sub_zero] at visited
  exact ⟨visited, held.trans (Nat.add_le_add_left (Nat.mul_le_mul_left width visited) 1)⟩

theorem walkEntries_cost {total : ℕ} {entries : List (Σ _ : ShortString, AMQPValue)}
    (addressable : ∀ entry ∈ entries, valueBytes entry.2 ≤ usizeMax)
    (wide : ∀ inner ∈ everyValue entries, (members inner).length ≤ width) :
    (walkEntries limits total entries).2.visited ≤
        entries.length * (limits.maxValueBytes + 1) + weightlessIn (everyValue entries) ∧
      (walkEntries limits total entries).2.held ≤
        1 + width * (limits.maxValueBytes + 1 + weightlessIn (everyValue entries)) := by
  induction entries generalizing total with
  | nil => exact ⟨Nat.zero_le _, Nat.zero_le _⟩
  | cons entry rest ih =>
    obtain ⟨key, value⟩ := entry
    have split : everyValue (⟨key, value⟩ :: rest) = nested value ++ everyValue rest := rfl
    have weight : weightlessIn (everyValue (⟨key, value⟩ :: rest)) =
        weightlessIn (nested value) + weightlessIn (everyValue rest) := by
      rw [split, weightlessIn, List.countP_append, weightlessIn, weightlessIn]
    rw [split] at wide
    obtain ⟨visited, held⟩ := @walkValue_cost limits width value
      (addressable _ List.mem_cons_self) fun inner hmem => wide inner (List.mem_append_left _ hmem)
    have others := fun total => @ih total
      (fun entry hmem => addressable entry (List.mem_cons_of_mem _ hmem))
      fun inner hmem => wide inner (List.mem_append_right _ hmem)
    have room : ∀ part ≤ weightlessIn (everyValue (⟨key, value⟩ :: rest)),
        1 + width * (limits.maxValueBytes + 1 + part) ≤ 1 + width * (limits.maxValueBytes + 1 +
          weightlessIn (everyValue (⟨key, value⟩ :: rest))) := fun part within =>
      Nat.add_le_add_left (Nat.mul_le_mul_left width (Nat.add_le_add_left within _)) 1
    have heldHere := held.trans (room _ (by omega))
    rw [walkEntries, List.length_cons, Nat.add_mul, Nat.one_mul]
    cases (walkValue value limits.maxValueBytes).1 with
    | error e => exact ⟨by dsimp only; omega, heldHere⟩
    | ok valueBytes =>
      dsimp only
      cases checkAtMost .totalBytes (saturatingAdd
          (saturatingAdd total (utf8 key.asStr).length) valueBytes) limits.maxTotalBytes with
      | error e => exact ⟨by dsimp only; omega, heldHere⟩
      | ok u =>
        have rest := others (saturatingAdd (saturatingAdd total (utf8 key.asStr).length) valueBytes)
        refine ⟨?_, max_le heldHere (rest.2.trans (room _ (by omega)))⟩
        simp only [Cost.after]
        omega

theorem walkHeaders_cost (table : FieldTable) :
    (walkHeaders (some table) limits).2 = .none ∨
      table.entries.length ≤ limits.maxHeaders ∧
        (walkHeaders (some table) limits).2 = (walkEntries limits 0 table.entries).2 := by
  rw [walkHeaders]
  cases count : checkAtMost .headerCount table.entries.length limits.maxHeaders with
  | error e => exact Or.inl rfl
  | ok u =>
    cases checkAll (fun entry : Σ _ : ShortString, AMQPValue =>
        checkAtMost .keyBytes (utf8 entry.1.asStr).length limits.maxKeyBytes) table.entries with
    | error e => exact Or.inl rfl
    | ok u => exact Or.inr ⟨checkAtMost_ok.mp count, rfl⟩

/-- The limits bound the walk but for the values that add nothing to the measured size: these
alone, and the width of the containers, are left to the producer. -/
theorem cost_beyond_limits {table : FieldTable}
    (addressable : ∀ entry ∈ table.entries, valueBytes entry.2 ≤ usizeMax)
    (wide : ∀ inner ∈ everyValue table.entries, (members inner).length ≤ width) :
    (walkHeaders (some table) limits).2.visited ≤
        limits.maxHeaders * (limits.maxValueBytes + 1) +
          weightlessIn (everyValue table.entries) ∧
      (walkHeaders (some table) limits).2.held ≤ 1 + width * (limits.maxValueBytes + 1 +
        weightlessIn (everyValue table.entries)) := by
  obtain ⟨visited, held⟩ := @walkEntries_cost limits width 0 _ addressable wide
  rcases walkHeaders_cost table with free | ⟨few, cost⟩
  · rw [free]
    exact ⟨Nat.zero_le _, Nat.zero_le _⟩
  · rw [cost]
    have entries := Nat.mul_le_mul_right (limits.maxValueBytes + 1) few
    exact ⟨by omega, held⟩

end Cost

def headerKey : ShortString := ⟨"h", by decide⟩

theorem emptyKey_short : (utf8 "").length ≤ 255 := by decide

def emptyKey : ShortString := ⟨"", emptyKey_short⟩

def singleEntry (key : ShortString) (value : AMQPValue) : FieldTable :=
  (∅ : FieldTable).insert key value

@[simp] theorem entries_singleEntry (key : ShortString) (value : AMQPValue) :
    (singleEntry key value).entries = [⟨key, value⟩] := rfl

theorem cost_beyond_limits_sample :
    (walkHeaders (some (singleEntry headerKey (.fieldArray [.boolean true, .void])))
        .default).2.visited ≤ 64 * (8192 + 1) + 2 ∧
      (walkHeaders (some (singleEntry headerKey (.fieldArray [.boolean true, .void])))
        .default).2.held ≤ 1 + 2 * (8192 + 1 + 2) :=
  @cost_beyond_limits .default 2 (singleEntry headerKey (.fieldArray [.boolean true, .void]))
    (by rw [entries_singleEntry, List.forall_mem_singleton]; decide) (by decide)

/-- An array of voids takes one byte each on the wire and measures nothing. -/
def voids (n : ℕ) : AMQPValue := .fieldArray (List.replicate n .void)

theorem nested_voids (n : ℕ) : nested (voids n) = voids n :: List.replicate n .void := by
  rw [voids, nested, nestedItems_eq]
  congr 1
  induction n with
  | zero => rfl
  | succ n ih =>
    rw [List.replicate_succ, List.flatMap_cons, ih]
    rfl

theorem valueBytes_voids (n : ℕ) : valueBytes (voids n) = 0 := by
  rw [valueBytes, nested_voids]
  simp [bytesOf, ownBytes, contribution, voids]

theorem walkLoop_voids {max fuel n : ℕ} (enough : n ≤ fuel) :
    (walkLoop max fuel 0 (List.replicate n .void)).2 = ⟨n, n⟩ := by
  induction n generalizing fuel with
  | zero => cases fuel <;> rfl
  | succ n ih =>
    obtain ⟨fuel, rfl⟩ := Nat.exists_eq_add_of_lt enough
    rw [List.replicate_succ, walkLoop, if_pos (by simp [saturatingAdd, contribution])]
    have rest := @ih (n + fuel) (Nat.le_add_right _ _)
    simp only [members, List.nil_append, saturatingAdd, contribution, Nat.add_zero, Nat.zero_min,
      rest, Cost.after, roundCost, List.length_cons, List.length_replicate, Cost.mk.injEq]
    omega

theorem walkValue_voids (n max : ℕ) :
    n < (walkValue (voids n) max).2.visited ∧ n ≤ (walkValue (voids n) max).2.held := by
  have count : nodes (voids n) = n + 1 := by
    rw [← length_nested, nested_voids, List.length_cons, List.length_replicate]
  have rest := @walkLoop_voids max n n le_rfl
  rw [walkValue, count, walkLoop, if_pos (by simp [saturatingAdd, contribution, voids])]
  simp only [voids, members, List.reverse_replicate, List.append_nil, saturatingAdd, contribution,
    Nat.add_zero, Nat.zero_min, rest, Cost.after, roundCost]
  omega

theorem decodable_voids {limits : AmqpMetadataLimits} {key : ShortString}
    (room : 0 < limits.maxHeaders) (short : (utf8 key.asStr).length ≤ limits.maxKeyBytes)
    (fits : (utf8 key.asStr).length ≤ limits.maxTotalBytes)
    (plain : isReservedHeader key.asStr = false) (n : ℕ) :
    Decodable limits (singleEntry key (voids n)) where
  count := by
    rw [entries_singleEntry]
    exact room
  keys := by
    rw [entries_singleEntry, List.forall_mem_singleton]
    exact short
  measured := by
    rw [measureTable_ok, entries_singleEntry, List.forall_mem_singleton, valueBytes_voids]
    refine ⟨Nat.zero_le _, ?_⟩
    simp only [List.map_cons, List.map_nil, List.sum_singleton, entrySize, valueBytes_voids]
    omega
  clean := by
    rw [entries_singleEntry, List.forall_mem_singleton]
    constructor
    · intro reserved
      rw [plain] at reserved
      cases reserved
    · intro text carried
      cases carried

theorem walkHeaders_single {limits : AmqpMetadataLimits} {key : ShortString} {value : AMQPValue}
    (decodable : Decodable limits (singleEntry key value)) :
    (walkHeaders (some (singleEntry key value)) limits).2 =
      (walkValue value limits.maxValueBytes).2.after .none := by
  obtain ⟨n, measured, checked⟩ := bind_ok.mp decodable.measured
  have walked : (walkValue value limits.maxValueBytes).1 = .ok n :=
    (walkLoop_result _ _ _ _).trans measured
  have total := (check_bind_ok.mp checked).1
  rw [walkHeaders, checkAtMost_ok.mpr decodable.count, checkAll_ok.mpr fun entry hmem =>
    checkAtMost_ok.mpr (decodable.keys entry hmem)]
  simp only [entries_singleEntry, walkEntries, walked, total]

theorem walkHeaders_voids {limits : AmqpMetadataLimits} {key : ShortString} {n : ℕ}
    (decodable : Decodable limits (singleEntry key (voids n))) :
    (∃ maps, decodeHeaders (some (singleEntry key (voids n))) limits = .ok maps) ∧
      n < (walkHeaders (some (singleEntry key (voids n))) limits).2.visited ∧
      n ≤ (walkHeaders (some (singleEntry key (voids n))) limits).2.held := by
  obtain ⟨visited, held⟩ := walkValue_voids n limits.maxValueBytes
  refine ⟨⟨_, decodeHeaders_some.mpr ⟨decodable, rfl⟩⟩, ?_⟩
  rw [walkHeaders_single decodable]
  simp only [Cost.after, Cost.none]
  omega

/-- Limits that admit no header are the only ones under which there is a bound on the values
visited and held pending over all tables. -/
theorem measuring_bounded_iff (limits : AmqpMetadataLimits) :
    (∀ table, (walkHeaders table limits).1 = decodeHeaders table limits) ∧
    ((∃ bound, ∀ table, (walkHeaders table limits).2.visited ≤ bound ∧
        (walkHeaders table limits).2.held ≤ bound) ↔ limits.maxHeaders = 0) := by
  refine ⟨fun table => walkHeaders_result table limits, ?_, ?_⟩
  · rintro ⟨bound, bounded⟩
    by_contra admits
    -- the empty key passes every limit on keys and on the total
    have decodable : Decodable limits (singleEntry emptyKey (voids bound)) :=
      decodable_voids (Nat.pos_of_ne_zero admits) (Nat.zero_le _) (Nat.zero_le _)
        (by decide) bound
    have visited := (walkHeaders_voids decodable).2.1
    have within := (bounded (some (singleEntry emptyKey (voids bound)))).1
    omega
  · intro denied
    refine ⟨0, fun table => ?_⟩
    cases table with
    | none => exact ⟨Nat.zero_le _, Nat.zero_le _⟩
    | some table =>
      rcases @walkHeaders_cost limits table with free | ⟨few, cost⟩
      · rw [free]
        exact ⟨Nat.le_refl _, Nat.le_refl _⟩
      · rw [denied] at few
        rw [cost, List.eq_nil_of_length_eq_zero (Nat.le_zero.mp few)]
        exact ⟨Nat.le_refl _, Nat.le_refl _⟩

/-- The default limits let a million voids through, and no bound holds for them: an accepted
header value that measures nothing makes the walk as long, and the stack as large, as the
producer likes. -/
theorem weightless_values_unbounded :
    ((∃ maps, decodeHeaders (some (singleEntry headerKey (voids 1000000))) .default = .ok maps) ∧
      1000000 < (walkHeaders (some (singleEntry headerKey (voids 1000000))) .default).2.visited ∧
      1000000 ≤ (walkHeaders (some (singleEntry headerKey (voids 1000000))) .default).2.held) ∧
    ∀ bound : ℕ, ∃ table, (∃ maps, decodeHeaders (some table) .default = .ok maps) ∧
      bound < (walkHeaders (some table) .default).2.visited ∧
      bound < (walkHeaders (some table) .default).2.held := by
  have decodable : ∀ n, Decodable .default (singleEntry headerKey (voids n)) :=
    decodable_voids (by decide) (by decide) (by decide) (by decide)
  refine ⟨walkHeaders_voids (decodable 1000000), fun bound => ?_⟩
  obtain ⟨accepted, visited, held⟩ := walkHeaders_voids (decodable (bound + 1))
  exact ⟨_, accepted, by omega, held⟩

end RabbitmqMetadataBounds
