import Hexeract.BusEnvelopeSecurity
import Mathlib.Algebra.Order.BigOperators.Group.List

/-! # The bounded metadata codec

Field tables are untrusted once they arrive. Both directions of the codec check the same
four bounds, and decoding splits a table into an application and a protocol map. The
entry order of a table stands for its iteration order. -/
namespace RabbitmqMetadata

open LibraryCollections LibraryFramedBytes BusErrors BusEnvelope BusEnvelopeSecurity

def usizeMax : ℕ := 2 ^ 64 - 1

def saturatingAdd (a b : ℕ) : ℕ := min (a + b) usizeMax

/-- Text of at most 255 bytes, the key type of a field table. -/
@[ext] structure ShortString where
  asStr : String
  short : (utf8 asStr).length ≤ 255
  deriving DecidableEq

/-- Floating point numbers are kept as their bits, which nothing inspects. -/
inductive AMQPValue where
  | boolean (value : Bool)
  | shortShortInt (value : Int8)
  | shortShortUInt (value : UInt8)
  | shortInt (value : Int16)
  | shortUInt (value : UInt16)
  | longInt (value : Int32)
  | longUInt (value : UInt32)
  | longLongInt (value : Int64)
  | float (bits : UInt32)
  | double (bits : UInt64)
  | decimalValue (scale : UInt8) (value : UInt32)
  | shortString (text : ShortString)
  | longString (text : Bytes)
  | fieldArray (items : List AMQPValue)
  | timestamp (value : UInt64)
  | fieldTable (fields : List (ShortString × AMQPValue))
  | byteArray (bytes : Bytes)
  | void

abbrev FieldTable := AList fun _ : ShortString => AMQPValue

/-- The text of the client library's own error is not appended to the reason. -/
def toShortString (value field : String) : Except BusError ShortString :=
  if h : (utf8 value).length ≤ 255 then .ok ⟨value, h⟩
  else .error (.invalidTopology (field ++ " exceeds the AMQP short-string limit of 255 bytes"))

structure AmqpMetadataLimits where
  maxHeaders : ℕ
  maxKeyBytes : ℕ
  maxValueBytes : ℕ
  maxTotalBytes : ℕ
  deriving DecidableEq, Repr

def AmqpMetadataLimits.default : AmqpMetadataLimits where
  maxHeaders := 64
  maxKeyBytes := 128
  maxValueBytes := 8 * 1024
  maxTotalBytes := 32 * 1024

/-- A failure whose dead-letter copy gets an empty field table. -/
def needsSanitizedQuarantine : BusError → Bool
  | .reservedHeaderNamespace => true
  | .metadataLimitExceeded _ _ _ => true
  | .invalidMetadata _ => true
  | .envelopeSecurity _ => true
  | _ => false

def allHeaders (envelope : Envelope) (security : Option SecurityHeaders) :
    List (String × String) :=
  envelope.wireHeaders ++ security.getD []

def checkAtMost (limit : MetadataLimit) (actual max : ℕ) : Except BusError Unit :=
  if actual ≤ max then .ok () else .error (.metadataLimitExceeded limit actual max)

def totalBytes (total : ℕ) : List (String × String) → ℕ
  | [] => total
  | (key, value) :: rest =>
    totalBytes (saturatingAdd (saturatingAdd total (utf8 key).length) (utf8 value).length) rest

def insertHeaders (fields : FieldTable) : List (String × String) → Except BusError FieldTable
  | [] => .ok fields
  | (key, value) :: rest => do
    let key ← toShortString key "header key"
    insertHeaders (fields.insert key (.longString (utf8 value))) rest

def encodeHeaders (envelope : Envelope) (limits : AmqpMetadataLimits)
    (security : Option SecurityHeaders) : Except BusError FieldTable := do
  envelope.validateApplicationHeaders
  let headers := allHeaders envelope security
  checkAtMost .headerCount headers.length limits.maxHeaders
  checkAll (fun pair => checkAtMost .keyBytes (utf8 pair.1).length limits.maxKeyBytes) headers
  checkAll (fun pair => checkAtMost .valueBytes (utf8 pair.2).length limits.maxValueBytes) headers
  checkAtMost .totalBytes (totalBytes 0 headers) limits.maxTotalBytes
  insertHeaders ∅ headers

/-- What one value adds to the measured size, its members excluded. -/
def contribution : AMQPValue → ℕ
  | .boolean _ | .shortShortInt _ | .shortShortUInt _ => 1
  | .shortInt _ | .shortUInt _ => 2
  | .longInt _ | .longUInt _ | .float _ => 4
  | .longLongInt _ | .double _ | .timestamp _ => 8
  | .decimalValue _ _ => 5
  | .shortString text => (utf8 text.asStr).length
  | .longString text => text.length
  | .byteArray bytes => bytes.length
  | .void => 0
  | .fieldArray _ => 0
  | .fieldTable fields => fields.foldl (fun keys entry =>
      saturatingAdd keys (utf8 entry.1.asStr).length) 0

/-- The members pushed on the stack, the one popped next first. -/
def members : AMQPValue → List AMQPValue
  | .fieldArray items => items.reverse
  | .fieldTable fields => (fields.map Prod.snd).reverse
  | _ => []

mutual

def nodes : AMQPValue → ℕ
  | .fieldArray items => 1 + nodesOfItems items
  | .fieldTable fields => 1 + nodesOfFields fields
  | _ => 1

def nodesOfItems : List AMQPValue → ℕ
  | [] => 0
  | value :: rest => nodes value + nodesOfItems rest

def nodesOfFields : List (ShortString × AMQPValue) → ℕ
  | [] => 0
  | (_, value) :: rest => nodes value + nodesOfFields rest

end

/-- The stack walk. Each round pops one value, so `fuel` counts the values to visit. -/
def measureLoop (maxValueBytes : ℕ) : ℕ → ℕ → List AMQPValue → Except BusError ℕ
  | _, measured, [] => .ok measured
  | 0, measured, _ :: _ => .ok measured
  | fuel + 1, measured, current :: pending =>
    let measured := saturatingAdd measured (contribution current)
    if measured ≤ maxValueBytes then
      measureLoop maxValueBytes fuel measured (members current ++ pending)
    else .error (.metadataLimitExceeded .valueBytes measured maxValueBytes)

def measureValue (value : AMQPValue) (maxValueBytes : ℕ) : Except BusError ℕ :=
  measureLoop maxValueBytes (nodes value) 0 [value]

def measureEntries (limits : AmqpMetadataLimits) (total : ℕ) :
    List (Σ _ : ShortString, AMQPValue) → Except BusError Unit
  | [] => .ok ()
  | ⟨key, value⟩ :: rest => do
    let valueBytes ← measureValue value limits.maxValueBytes
    let total := saturatingAdd (saturatingAdd total (utf8 key.asStr).length) valueBytes
    checkAtMost .totalBytes total limits.maxTotalBytes
    measureEntries limits total rest

def fromUtf8 (text : Bytes) : Option String := String.fromUTF8? ⟨text.toArray⟩

def decodeEntries (application protocol : HeaderMap) :
    List (Σ _ : ShortString, AMQPValue) → Except BusError (HeaderMap × HeaderMap)
  | [] => .ok (application, protocol)
  | ⟨key, value⟩ :: rest =>
    let reserved := isReservedHeader key.asStr
    if reserved && hasAsciiUppercase key.asStr then
      .error (.invalidMetadata .nonCanonicalReservedHeader)
    else
      match value with
      | .longString bytes =>
        match fromUtf8 bytes with
        | none => .error (.invalidMetadata .nonUtf8LongString)
        | some text =>
          if reserved then decodeEntries application (protocol.insert key.asStr text) rest
          else decodeEntries (application.insert key.asStr text) protocol rest
      | _ => decodeEntries application protocol rest

def decodeHeaders (table : Option FieldTable) (limits : AmqpMetadataLimits) :
    Except BusError (HeaderMap × HeaderMap) :=
  match table with
  | none => .ok (∅, ∅)
  | some table => do
    checkAtMost .headerCount table.entries.length limits.maxHeaders
    checkAll (fun entry => checkAtMost .keyBytes (utf8 entry.1.asStr).length limits.maxKeyBytes)
      table.entries
    measureEntries limits 0 table.entries
    decodeEntries ∅ ∅ table.entries

theorem toShortString_ok {value field : String} {text : ShortString} :
    toShortString value field = .ok text ↔ text.asStr = value := by
  unfold toShortString
  by_cases h : (utf8 value).length ≤ 255
  · rw [dif_pos h]
    simp only [Except.ok.injEq, ShortString.ext_iff]
    exact eq_comm
  · rw [dif_neg h]
    simp only [reduceCtorEq, false_iff]
    rintro rfl
    exact h text.short

theorem checkAtMost_ok {limit : MetadataLimit} {actual max : ℕ} :
    checkAtMost limit actual max = .ok () ↔ actual ≤ max := by
  unfold checkAtMost
  by_cases h : actual ≤ max <;> simp [h]

theorem fromUtf8_utf8 (s : String) : fromUtf8 (utf8 s) = some s := by
  have bytes : (⟨(utf8 s).toArray⟩ : ByteArray) = s.toByteArray := rfl
  rw [fromUtf8, bytes, String.fromUTF8?, dif_pos s.isValidUTF8]
  rfl

/-! ## What encoding writes -/

structure Encodable (envelope : Envelope) (limits : AmqpMetadataLimits)
    (security : Option SecurityHeaders) : Prop where
  application : ∀ key ∈ envelope.headers, isReservedHeader key = false
  count : (allHeaders envelope security).length ≤ limits.maxHeaders
  keys : ∀ pair ∈ allHeaders envelope security, (utf8 pair.1).length ≤ limits.maxKeyBytes
  values : ∀ pair ∈ allHeaders envelope security, (utf8 pair.2).length ≤ limits.maxValueBytes
  total : totalBytes 0 (allHeaders envelope security) ≤ limits.maxTotalBytes

theorem encodeHeaders_ok {envelope : Envelope} {limits : AmqpMetadataLimits}
    {security : Option SecurityHeaders} {table : FieldTable} :
    encodeHeaders envelope limits security = .ok table ↔
      Encodable envelope limits security ∧
        insertHeaders ∅ (allHeaders envelope security) = .ok table := by
  simp only [encodeHeaders, check_bind_ok, checkAtMost_ok, checkAll_ok,
    validateApplicationHeaders_ok]
  constructor
  · rintro ⟨application, count, keys, values, total, h⟩
    exact ⟨⟨application, count, keys, values, total⟩, h⟩
  · rintro ⟨⟨application, count, keys, values, total⟩, h⟩
    exact ⟨application, count, keys, values, total, h⟩

theorem insertHeaders_lookup {headers : List (String × String)} {fields table : FieldTable}
    (h : insertHeaders fields headers = .ok table) (key : ShortString) :
    table.lookup key =
      ((lastValue headers key.asStr).map fun value => .longString (utf8 value)).or
        (fields.lookup key) := by
  induction headers generalizing fields with
  | nil =>
    cases h
    simp [lastValue]
  | cons pair rest ih =>
    obtain ⟨text, value⟩ := pair
    obtain ⟨short, hshort, hrest⟩ := bind_ok.mp h
    obtain rfl := toShortString_ok.mp hshort
    rw [ih hrest, lastValue]
    by_cases same : short = key
    · subst same
      rw [AList.lookup_insert]
      cases lastValue rest short.asStr <;> simp
    · have texts : short.asStr ≠ key.asStr := fun he => same (ShortString.ext he)
      rw [AList.lookup_insert_ne (Ne.symm same)]
      simp [texts]

theorem insertHeaders_short {headers : List (String × String)} {fields table : FieldTable}
    (h : insertHeaders fields headers = .ok table) :
    ∀ pair ∈ headers, (utf8 pair.1).length ≤ 255 := by
  induction headers generalizing fields with
  | nil => simp
  | cons pair rest ih =>
    obtain ⟨short, hshort, hrest⟩ := bind_ok.mp h
    have text := toShortString_ok.mp hshort
    rw [List.forall_mem_cons]
    exact ⟨text ▸ short.short, ih hrest⟩

/-- Any nonnegative measure of the entries only loses by overwriting. -/
theorem insertHeaders_weight (weight : (Σ _ : ShortString, AMQPValue) → ℕ)
    (weightOf : String × String → ℕ)
    (agree : ∀ (key : ShortString) (value : String),
      weight ⟨key, .longString (utf8 value)⟩ = weightOf (key.asStr, value))
    {headers : List (String × String)} {fields table : FieldTable}
    (h : insertHeaders fields headers = .ok table) :
    (table.entries.map weight).sum ≤
      (fields.entries.map weight).sum + (headers.map weightOf).sum := by
  induction headers generalizing fields with
  | nil =>
    cases h
    simp
  | cons pair rest ih =>
    obtain ⟨text, value⟩ := pair
    obtain ⟨short, hshort, hrest⟩ := bind_ok.mp h
    obtain rfl := toShortString_ok.mp hshort
    have step := (insert_entries_sublist fields short (.longString (utf8 value))).map weight
    have le := step.sum_le_sum fun _ _ => Nat.zero_le _
    have rest := ih hrest
    simp only [List.map_cons, List.sum_cons, agree] at le ⊢
    omega

theorem insertHeaders_entries {headers : List (String × String)} {table : FieldTable}
    (h : insertHeaders ∅ headers = .ok table) :
    ∀ entry ∈ table.entries, ∃ value, (entry.1.asStr, value) ∈ headers ∧
      entry.2 = .longString (utf8 value) := by
  rintro ⟨key, value⟩ hmem
  have found : table.lookup key = some value :=
    (List.mem_dlookup_iff table.nodupKeys).mpr hmem
  rw [insertHeaders_lookup h key, AList.lookup_empty, Option.or_none] at found
  obtain ⟨text, htext, rfl⟩ := Option.map_eq_some_iff.mp found
  exact ⟨text, mem_of_lastValue htext, rfl⟩

/-! ## What decoding reads -/

def textOf : AMQPValue → Option String
  | .longString bytes => fromUtf8 bytes
  | _ => none

/-- The text held under a key, absent when the value there is not a string. -/
def entryText (entries : List (Σ _ : ShortString, AMQPValue)) (key : String) : Option String :=
  if h : (utf8 key).length ≤ 255 then (entries.dlookup ⟨key, h⟩).bind textOf else none

structure CleanEntry (entry : Σ _ : ShortString, AMQPValue) : Prop where
  canonical : isReservedHeader entry.1.asStr = true → hasAsciiUppercase entry.1.asStr = false
  utf8 : ∀ bytes, entry.2 = .longString bytes → (fromUtf8 bytes).isSome = true

/-- One round of the decoding loop, for an entry that is not refused. -/
def decodeEntry (entry : Σ _ : ShortString, AMQPValue) (maps : HeaderMap × HeaderMap) :
    HeaderMap × HeaderMap :=
  match textOf entry.2 with
  | none => maps
  | some text =>
    if isReservedHeader entry.1.asStr then (maps.1, maps.2.insert entry.1.asStr text)
    else (maps.1.insert entry.1.asStr text, maps.2)

theorem decodeEntries_cons {entry : Σ _ : ShortString, AMQPValue} (clean : CleanEntry entry)
    (maps : HeaderMap × HeaderMap) (rest : List (Σ _ : ShortString, AMQPValue)) :
    decodeEntries maps.1 maps.2 (entry :: rest) =
      decodeEntries (decodeEntry entry maps).1 (decodeEntry entry maps).2 rest := by
  obtain ⟨key, value⟩ := entry
  have accepted : ¬ (isReservedHeader key.asStr && hasAsciiUppercase key.asStr) = true := by
    rw [Bool.and_eq_true]
    rintro ⟨reserved, upper⟩
    rw [clean.canonical reserved] at upper
    cases upper
  cases value with
  | longString bytes =>
    obtain ⟨text, htext⟩ := Option.isSome_iff_exists.mp (clean.utf8 bytes rfl)
    rw [decodeEntries, if_neg accepted]
    cases reserved : isReservedHeader key.asStr <;>
      simp [decodeEntry, textOf, htext, reserved]
  | _ => exact if_neg accepted

theorem decodeEntries_refused {entry : Σ _ : ShortString, AMQPValue} (refused : ¬ CleanEntry entry)
    (maps : HeaderMap × HeaderMap) (rest : List (Σ _ : ShortString, AMQPValue))
    (out : HeaderMap × HeaderMap) : decodeEntries maps.1 maps.2 (entry :: rest) ≠ .ok out := by
  obtain ⟨key, value⟩ := entry
  intro h
  apply refused
  constructor
  · intro reserved
    by_contra upper
    have error : decodeEntries maps.1 maps.2 (⟨key, value⟩ :: rest) =
        .error (.invalidMetadata .nonCanonicalReservedHeader) :=
      if_pos (by simpa [reserved] using upper)
    rw [error] at h
    cases h
  · rintro bytes ⟨⟩
    by_contra invalid
    have none : fromUtf8 bytes = none := by simpa using invalid
    rw [decodeEntries] at h
    split at h
    · cases h
    · simp [none] at h

theorem decodeEntries_ok {entries : List (Σ _ : ShortString, AMQPValue)}
    {maps out : HeaderMap × HeaderMap} :
    decodeEntries maps.1 maps.2 entries = .ok out ↔
      (∀ entry ∈ entries, CleanEntry entry) ∧
        out = entries.foldl (fun maps entry => decodeEntry entry maps) maps := by
  induction entries generalizing maps with
  | nil =>
    simp only [decodeEntries, Except.ok.injEq, List.not_mem_nil, false_implies, implies_true,
      List.foldl_nil, true_and]
    exact eq_comm
  | cons entry rest ih =>
    rw [List.forall_mem_cons, List.foldl_cons, and_assoc, ← ih]
    by_cases clean : CleanEntry entry
    · rw [decodeEntries_cons clean]
      simp only [clean, true_and]
    · simp only [clean, false_and, iff_false]
      exact decodeEntries_refused clean maps rest out

theorem entryText_cons {key : ShortString} {value : AMQPValue}
    {rest : List (Σ _ : ShortString, AMQPValue)} (fresh : key ∉ rest.keys) (s : String) :
    entryText (⟨key, value⟩ :: rest) s =
      (entryText rest s).or (if key.asStr = s then textOf value else none) := by
  unfold entryText
  by_cases short : (utf8 s).length ≤ 255
  · rw [dif_pos short, dif_pos short]
    by_cases same : key.asStr = s
    · subst same
      rw [List.dlookup_cons_eq, List.dlookup_eq_none.mpr fresh]
      simp
    · have ne : (⟨s, short⟩ : ShortString) ≠ key := fun h => same (h ▸ rfl)
      rw [List.dlookup_cons_ne _ _ ne]
      simp [same]
  · have ne : key.asStr ≠ s := fun h => short (h ▸ key.short)
    simp [short, ne]

theorem foldl_decodeEntry_lookup {entries : List (Σ _ : ShortString, AMQPValue)}
    (nodup : entries.NodupKeys) (maps : HeaderMap × HeaderMap) (s : String) :
    (entries.foldl (fun maps entry => decodeEntry entry maps) maps).1.lookup s =
        (if isReservedHeader s then none else entryText entries s).or (maps.1.lookup s) ∧
      (entries.foldl (fun maps entry => decodeEntry entry maps) maps).2.lookup s =
        (if isReservedHeader s then entryText entries s else none).or (maps.2.lookup s) := by
  induction entries generalizing maps with
  | nil => simp [entryText]
  | cons entry rest ih =>
    obtain ⟨key, value⟩ := entry
    obtain ⟨fresh, nodup⟩ := List.nodupKeys_cons.mp nodup
    rw [List.foldl_cons, (ih nodup _).1, (ih nodup _).2, entryText_cons fresh]
    cases htext : textOf value with
    | none => simp [decodeEntry, htext]
    | some text =>
      by_cases same : key.asStr = s
      · subst same
        have none : entryText rest key.asStr = none := by
          simp [entryText, List.dlookup_eq_none.mpr fresh]
        cases reserved : isReservedHeader key.asStr <;>
          simp [decodeEntry, htext, reserved, none]
      · have ne : s ≠ key.asStr := Ne.symm same
        cases reserved : isReservedHeader key.asStr <;>
          simp [decodeEntry, htext, reserved, same, AList.lookup_insert_ne ne]

/-- The bounds and spellings a table must respect to be decoded. -/
structure Decodable (limits : AmqpMetadataLimits) (table : FieldTable) : Prop where
  count : table.entries.length ≤ limits.maxHeaders
  keys : ∀ entry ∈ table.entries, (utf8 entry.1.asStr).length ≤ limits.maxKeyBytes
  measured : measureEntries limits 0 table.entries = .ok ()
  clean : ∀ entry ∈ table.entries, CleanEntry entry

theorem decodeHeaders_some {limits : AmqpMetadataLimits} {table : FieldTable}
    {maps : HeaderMap × HeaderMap} :
    decodeHeaders (some table) limits = .ok maps ↔ Decodable limits table ∧
      maps = table.entries.foldl (fun maps entry => decodeEntry entry maps) (∅, ∅) := by
  simp only [decodeHeaders, check_bind_ok, checkAtMost_ok, checkAll_ok]
  rw [@decodeEntries_ok _ (∅, ∅)]
  constructor
  · rintro ⟨count, keys, measured, clean, out⟩
    exact ⟨⟨count, keys, measured, clean⟩, out⟩
  · rintro ⟨⟨count, keys, measured, clean⟩, out⟩
    exact ⟨count, keys, measured, clean, out⟩

theorem decodeHeaders_lookup {limits : AmqpMetadataLimits} {table : FieldTable}
    {application protocol : HeaderMap}
    (h : decodeHeaders (some table) limits = .ok (application, protocol)) (s : String) :
    application.lookup s = (if isReservedHeader s then none else entryText table.entries s) ∧
      protocol.lookup s = (if isReservedHeader s then entryText table.entries s else none) := by
  obtain ⟨_, maps⟩ := decodeHeaders_some.mp h
  obtain ⟨rfl, rfl⟩ := Prod.mk.inj maps
  have both := foldl_decodeEntry_lookup table.nodupKeys (∅, ∅) s
  simpa using both

/-- Reserved names in their canonical spelling, the only ones the crates write. -/
def CanonicalName (key : String) : Prop :=
  isReservedHeader key = true ∧ hasAsciiUppercase key = false

theorem securityHeaderNames_canonical :
    ∀ name ∈ BusEnvelopeCanonical.securityHeaderNames, CanonicalName name := by
  unfold CanonicalName
  decide

theorem mem_of_entryText {entries : List (Σ _ : ShortString, AMQPValue)} {s text : String}
    (h : entryText entries s = some text) : ∃ entry ∈ entries, entry.1.asStr = s := by
  unfold entryText at h
  split at h
  · obtain ⟨value, hvalue, _⟩ := Option.bind_eq_some_iff.mp h
    exact ⟨_, List.of_mem_dlookup hvalue, rfl⟩
  · cases h

theorem decodeHeaders_namespace {table : Option FieldTable} {limits : AmqpMetadataLimits}
    {application protocol : HeaderMap}
    (h : decodeHeaders table limits = .ok (application, protocol)) :
    (∀ key ∈ application, isReservedHeader key = false) ∧
      ∀ key ∈ protocol, CanonicalName key := by
  cases table with
  | none =>
    cases h
    constructor <;> intro key hk <;> exact absurd hk (AList.notMem_empty key)
  | some table =>
    have lookups := decodeHeaders_lookup h
    obtain ⟨decodable, _⟩ := decodeHeaders_some.mp h
    constructor
    · intro key hk
      obtain ⟨value, hvalue⟩ := Option.isSome_iff_exists.mp (AList.lookup_isSome.mpr hk)
      rw [(lookups key).1] at hvalue
      by_contra reserved
      simp [reserved] at hvalue
    · intro key hk
      obtain ⟨value, hvalue⟩ := Option.isSome_iff_exists.mp (AList.lookup_isSome.mpr hk)
      rw [(lookups key).2] at hvalue
      split at hvalue
      · rename_i reserved
        obtain ⟨entry, hmem, rfl⟩ := mem_of_entryText hvalue
        exact ⟨reserved, (decodable.clean entry hmem).canonical reserved⟩
      · cases hvalue

/-! ## What measuring finds -/

mutual

def nested : AMQPValue → List AMQPValue
  | .fieldArray items => .fieldArray items :: nestedItems items
  | .fieldTable fields => .fieldTable fields :: nestedFields fields
  | value => [value]

def nestedItems : List AMQPValue → List AMQPValue
  | [] => []
  | value :: rest => nested value ++ nestedItems rest

def nestedFields : List (ShortString × AMQPValue) → List AMQPValue
  | [] => []
  | (_, value) :: rest => nested value ++ nestedFields rest

end

theorem nestedItems_eq (items : List AMQPValue) : nestedItems items = items.flatMap nested := by
  induction items with
  | nil => rfl
  | cons value rest ih => rw [nestedItems, ih, List.flatMap_cons]

theorem nestedFields_eq (fields : List (ShortString × AMQPValue)) :
    nestedFields fields = (fields.map Prod.snd).flatMap nested := by
  induction fields with
  | nil => rfl
  | cons field rest ih => rw [nestedFields, ih, List.map_cons, List.flatMap_cons]

mutual

theorem length_nested : ∀ value, (nested value).length = nodes value
  | .fieldArray items => by
    rw [nested, nodes, List.length_cons, length_nestedItems items, Nat.add_comm]
  | .fieldTable fields => by
    rw [nested, nodes, List.length_cons, length_nestedFields fields, Nat.add_comm]
  | .boolean _ | .shortShortInt _ | .shortShortUInt _ | .shortInt _ | .shortUInt _ | .longInt _
  | .longUInt _ | .longLongInt _ | .float _ | .double _ | .decimalValue _ _ | .shortString _
  | .longString _ | .timestamp _ | .byteArray _ | .void => rfl

theorem length_nestedItems : ∀ items, (nestedItems items).length = nodesOfItems items
  | [] => rfl
  | value :: rest => by
    rw [nestedItems, nodesOfItems, List.length_append, length_nested value,
      length_nestedItems rest]

theorem length_nestedFields : ∀ fields, (nestedFields fields).length = nodesOfFields fields
  | [] => rfl
  | (_, value) :: rest => by
    rw [nestedFields, nodesOfFields, List.length_append, length_nested value,
      length_nestedFields rest]

end

theorem nested_perm (value : AMQPValue) :
    (nested value).Perm (value :: (members value).flatMap nested) := by
  cases value with
  | fieldArray items =>
    rw [nested, nestedItems_eq]
    exact ((List.reverse_perm items).symm.flatMap_right nested).cons _
  | fieldTable fields =>
    rw [nested, nestedFields_eq]
    exact ((List.reverse_perm _).symm.flatMap_right nested).cons _
  | _ => exact List.Perm.refl _

theorem pending_perm (current : AMQPValue) (pending : List AMQPValue) :
    ((current :: pending).flatMap nested).Perm
      (current :: (members current ++ pending).flatMap nested) := by
  rw [List.flatMap_cons, List.flatMap_append, ← List.cons_append]
  exact (nested_perm current).append_right _

theorem visits_cons (current : AMQPValue) (pending : List AMQPValue) :
    ((current :: pending).flatMap nested).length =
      ((members current ++ pending).flatMap nested).length + 1 :=
  (pending_perm current pending).length_eq

/-- What one value adds to the size, its members excluded. -/
def ownBytes : AMQPValue → ℕ
  | .fieldTable fields => (fields.map fun field => (utf8 field.1.asStr).length).sum
  | value => contribution value

def bytesOf (values : List AMQPValue) : ℕ := (values.map ownBytes).sum

def valueBytes (value : AMQPValue) : ℕ := bytesOf (nested value)

theorem saturating_keys (fields : List (ShortString × AMQPValue)) (keys : ℕ) :
    fields.foldl (fun keys entry => saturatingAdd keys (utf8 entry.1.asStr).length)
        (min keys usizeMax) =
      min (keys + (fields.map fun field => (utf8 field.1.asStr).length).sum) usizeMax := by
  induction fields generalizing keys with
  | nil => simp
  | cons field rest ih =>
    have step : saturatingAdd (min keys usizeMax) (utf8 field.1.asStr).length =
        min (keys + (utf8 field.1.asStr).length) usizeMax := by
      rw [saturatingAdd]
      omega
    rw [List.foldl_cons, step, ih, List.map_cons, List.sum_cons, Nat.add_assoc]

/-- The running total is the exact one, up to the largest machine word. -/
theorem saturatingAdd_contribution (measured : ℕ) (value : AMQPValue) :
    saturatingAdd (min measured usizeMax) (contribution value) =
      min (measured + ownBytes value) usizeMax := by
  cases value with
  | fieldTable fields =>
    have keys := saturating_keys fields 0
    simp only [Nat.zero_min, Nat.zero_add] at keys
    rw [contribution, keys, ownBytes, saturatingAdd]
    omega
  | _ =>
    simp only [saturatingAdd, ownBytes]
    omega

theorem bytesOf_perm {values other : List AMQPValue} (h : values.Perm other) :
    bytesOf values = bytesOf other := (h.map ownBytes).sum_eq

theorem bytesOf_pending (current : AMQPValue) (pending : List AMQPValue) :
    bytesOf ((current :: pending).flatMap nested) =
      ownBytes current + bytesOf ((members current ++ pending).flatMap nested) := by
  rw [bytesOf_perm (pending_perm current pending), bytesOf, List.map_cons, List.sum_cons]
  rfl

/-- The walk ends with the size of what is pending added to the running total, or with an
error as soon as that exceeds the limit. -/
theorem measureLoop_spec {max fuel measured : ℕ} {pending : List AMQPValue}
    (enough : (pending.flatMap nested).length ≤ fuel) (within : min measured usizeMax ≤ max) :
    (min (measured + bytesOf (pending.flatMap nested)) usizeMax ≤ max →
      measureLoop max fuel (min measured usizeMax) pending =
        .ok (min (measured + bytesOf (pending.flatMap nested)) usizeMax)) ∧
    (max < min (measured + bytesOf (pending.flatMap nested)) usizeMax →
      ∃ actual, max < actual ∧ measureLoop max fuel (min measured usizeMax) pending =
        .error (.metadataLimitExceeded .valueBytes actual max)) := by
  induction fuel generalizing measured pending with
  | zero =>
    cases pending with
    | nil =>
      refine ⟨fun _ => rfl, fun above => absurd above (not_lt.mpr within)⟩
    | cons current pending =>
      rw [visits_cons] at enough
      omega
  | succ fuel ih =>
    cases pending with
    | nil => refine ⟨fun _ => rfl, fun above => absurd above (not_lt.mpr within)⟩
    | cons current pending =>
      rw [visits_cons] at enough
      have total := bytesOf_pending current pending
      rw [measureLoop, saturatingAdd_contribution, total, ← Nat.add_assoc]
      by_cases fits : min (measured + ownBytes current) usizeMax ≤ max
      · rw [if_pos fits]
        exact ih (by omega) fits
      · rw [if_neg fits]
        refine ⟨fun small => ?_, fun _ => ⟨_, not_le.mp fits, rfl⟩⟩
        omega

theorem measureValue_spec (value : AMQPValue) (max : ℕ) :
    (min (valueBytes value) usizeMax ≤ max →
      measureValue value max = .ok (min (valueBytes value) usizeMax)) ∧
    (max < min (valueBytes value) usizeMax → ∃ actual, max < actual ∧
      measureValue value max = .error (.metadataLimitExceeded .valueBytes actual max)) := by
  have walked : ([value].flatMap nested) = nested value := by simp
  have spec := @measureLoop_spec max (nodes value) 0 [value]
    (by rw [walked, length_nested]) (by simp)
  rw [walked] at spec
  simp only [Nat.zero_min, Nat.zero_add] at spec
  exact spec

theorem measureValue_ok {value : AMQPValue} {max n : ℕ} :
    measureValue value max = .ok n ↔ n = min (valueBytes value) usizeMax ∧ n ≤ max := by
  obtain ⟨measured, exceeded⟩ := measureValue_spec value max
  by_cases fits : min (valueBytes value) usizeMax ≤ max
  · rw [measured fits, Except.ok.injEq]
    constructor
    · rintro rfl
      exact ⟨rfl, fits⟩
    · rintro ⟨rfl, _⟩
      rfl
  · obtain ⟨actual, _, error⟩ := exceeded (not_le.mp fits)
    rw [error]
    simp only [reduceCtorEq, false_iff, not_and]
    rintro rfl
    exact fits

def entrySize (entry : Σ _ : ShortString, AMQPValue) : ℕ :=
  (utf8 entry.1.asStr).length + valueBytes entry.2

theorem measureEntries_ok {limits : AmqpMetadataLimits}
    {entries : List (Σ _ : ShortString, AMQPValue)} {total : ℕ} :
    measureEntries limits (min total usizeMax) entries = .ok () ↔
      (∀ entry ∈ entries, min (valueBytes entry.2) usizeMax ≤ limits.maxValueBytes) ∧
        (entries ≠ [] →
          min (total + (entries.map entrySize).sum) usizeMax ≤ limits.maxTotalBytes) := by
  induction entries generalizing total with
  | nil => simp [measureEntries]
  | cons entry rest ih =>
    obtain ⟨key, value⟩ := entry
    have step : ∀ n, n = min (valueBytes value) usizeMax →
        saturatingAdd (saturatingAdd (min total usizeMax) (utf8 key.asStr).length) n =
          min (total + entrySize ⟨key, value⟩) usizeMax := by
      rintro n rfl
      simp only [saturatingAdd, entrySize]
      omega
    rw [measureEntries, bind_ok, List.forall_mem_cons]
    constructor
    · rintro ⟨n, measured, checked⟩
      obtain ⟨size, fits⟩ := measureValue_ok.mp measured
      rw [check_bind_ok, checkAtMost_ok, step n size, ih] at checked
      obtain ⟨below, others, all⟩ := checked
      refine ⟨⟨size ▸ fits, others⟩, fun _ => ?_⟩
      rw [List.map_cons, List.sum_cons, ← Nat.add_assoc]
      cases rest with
      | nil => simpa using below
      | cons next more => exact all (List.cons_ne_nil _ _)
    · rintro ⟨⟨fits, others⟩, all⟩
      have whole := all (List.cons_ne_nil _ _)
      rw [List.map_cons, List.sum_cons, ← Nat.add_assoc] at whole
      refine ⟨_, measureValue_ok.mpr ⟨rfl, fits⟩, ?_⟩
      rw [check_bind_ok, checkAtMost_ok, step _ rfl, ih]
      exact ⟨by omega, others, fun _ => whole⟩

theorem measureTable_ok {limits : AmqpMetadataLimits}
    {entries : List (Σ _ : ShortString, AMQPValue)} :
    measureEntries limits 0 entries = .ok () ↔
      (∀ entry ∈ entries, min (valueBytes entry.2) usizeMax ≤ limits.maxValueBytes) ∧
        min (entries.map entrySize).sum usizeMax ≤ limits.maxTotalBytes := by
  have whole := @measureEntries_ok limits entries 0
  simp only [Nat.zero_min, Nat.zero_add] at whole
  rw [whole]
  cases entries with
  | nil => simp
  | cons entry rest => simp

/-! ## Decoding what was encoded -/

def pairBytes (pair : String × String) : ℕ := (utf8 pair.1).length + (utf8 pair.2).length

theorem valueBytes_longString (text : Bytes) : valueBytes (.longString text) = text.length :=
  Nat.add_zero _

theorem totalBytes_eq {headers : List (String × String)} {total : ℕ} (h : total ≤ usizeMax) :
    totalBytes total headers = min (total + (headers.map pairBytes).sum) usizeMax := by
  induction headers generalizing total with
  | nil =>
    simp only [totalBytes, List.map_nil, List.sum_nil]
    omega
  | cons pair rest ih =>
    obtain ⟨key, value⟩ := pair
    have small : saturatingAdd (saturatingAdd total (utf8 key).length) (utf8 value).length ≤
        usizeMax := Nat.min_le_right _ _
    rw [totalBytes, ih small]
    simp only [saturatingAdd, List.map_cons, List.sum_cons, pairBytes]
    omega

theorem entryText_of_insertHeaders {headers : List (String × String)} {table : FieldTable}
    (h : insertHeaders ∅ headers = .ok table) (s : String) :
    entryText table.entries s = lastValue headers s := by
  unfold entryText
  by_cases short : (utf8 s).length ≤ 255
  · rw [dif_pos short]
    have found := insertHeaders_lookup h ⟨s, short⟩
    rw [AList.lookup_empty, Option.or_none] at found
    rw [show table.entries.dlookup ⟨s, short⟩ = table.lookup ⟨s, short⟩ from rfl, found]
    cases lastValue headers s with
    | none => rfl
    | some value => exact fromUtf8_utf8 value
  · rw [dif_neg short]
    symm
    rw [lastValue_eq_none]
    rintro pair hmem rfl
    exact short (insertHeaders_short h pair hmem)

theorem lastValue_allHeaders (e : Envelope) (security : Option SecurityHeaders) (s : String) :
    lastValue (allHeaders e security) s =
      (lastValue (security.getD []) s).or
        ((e.protocolHeaders.lookup s).or (e.headers.lookup s)) := by
  have entries : ∀ m : HeaderMap, lastValue (m.entries.map entryPair) s = m.lookup s :=
    fun m => lastValue_entries m s
  rw [allHeaders, Envelope.wireHeaders, List.map_append, lastValue_append, lastValue_append,
    entries, entries]

theorem decodable_of_encodeHeaders {e : Envelope} {limits : AmqpMetadataLimits}
    {security : Option SecurityHeaders} {table : FieldTable}
    (protocol : ∀ key ∈ e.protocolHeaders, CanonicalName key)
    (names : ∀ pair ∈ security.getD [], CanonicalName pair.1)
    (h : encodeHeaders e limits security = .ok table) : Decodable limits table := by
  obtain ⟨encodable, inserted⟩ := encodeHeaders_ok.mp h
  have fromHeaders := insertHeaders_entries inserted
  constructor
  · have count : table.entries.length ≤ (allHeaders e security).length := by
      simpa using insertHeaders_weight (fun _ => 1) (fun _ => 1) (fun _ _ => rfl) inserted
    exact count.trans encodable.count
  · intro entry hmem
    obtain ⟨value, hpair, _⟩ := fromHeaders entry hmem
    exact encodable.keys _ hpair
  · refine measureTable_ok.mpr ⟨fun entry hmem => ?_, ?_⟩
    · obtain ⟨value, hpair, hvalue⟩ := fromHeaders entry hmem
      rw [hvalue, valueBytes_longString]
      exact (Nat.min_le_left _ _).trans (encodable.values _ hpair)
    · have sizes : ∀ (key : ShortString) (value : String),
          entrySize ⟨key, .longString (utf8 value)⟩ = pairBytes (key.asStr, value) := by
        intro key value
        rw [entrySize, valueBytes_longString, pairBytes]
      have weight := insertHeaders_weight entrySize pairBytes sizes inserted
      have total := encodable.total
      rw [totalBytes_eq (Nat.zero_le _)] at total
      simp only [AList.empty_entries, List.map_nil, List.sum_nil, Nat.zero_add] at weight total ⊢
      omega
  · intro entry hmem
    obtain ⟨value, hpair, hvalue⟩ := fromHeaders entry hmem
    constructor
    · intro reserved
      rcases List.mem_append.mp hpair with wire | secured
      · rcases mem_wireHeaders.mp wire with application | hprotocol
        · have key : entry.1.asStr ∈ e.headers := AList.lookup_isSome.mp (by simp [application])
          rw [encodable.application _ key] at reserved
          cases reserved
        · exact (protocol _ (AList.lookup_isSome.mp (by simp [hprotocol]))).2
      · exact (names _ secured).2
    · intro bytes hbytes
      rw [hvalue] at hbytes
      cases hbytes
      simp [fromUtf8_utf8]

theorem decodeHeaders_encodeHeaders {e : Envelope} {limits : AmqpMetadataLimits}
    {security : Option SecurityHeaders} {table : FieldTable}
    (protocol : ∀ key ∈ e.protocolHeaders, CanonicalName key)
    (names : ∀ pair ∈ security.getD [], CanonicalName pair.1)
    (h : encodeHeaders e limits security = .ok table) :
    ∃ application protocol, decodeHeaders (some table) limits = .ok (application, protocol) ∧
      SameMap application e.headers ∧ ∀ s, protocol.lookup s =
        (lastValue (security.getD []) s).or (e.protocolHeaders.lookup s) := by
  obtain ⟨encodable, inserted⟩ := encodeHeaders_ok.mp h
  have namespaces : RespectsNamespace e :=
    ⟨encodable.application, fun key hk => (protocol key hk).1⟩
  have unwritten : ∀ s, isReservedHeader s = false → lastValue (security.getD []) s = none := by
    intro s hs
    rw [lastValue_eq_none]
    rintro pair hmem rfl
    rw [(names pair hmem).1] at hs
    cases hs
  have decoded := decodeHeaders_some.mpr ⟨decodable_of_encodeHeaders protocol names h, rfl⟩
  have lookups : ∀ s, _ ∧ _ := fun s => decodeHeaders_lookup decoded s
  simp only [entryText_of_insertHeaders inserted, lastValue_allHeaders] at lookups
  refine ⟨_, _, decoded, fun s => ?_, fun s => ?_⟩
  · rw [(lookups s).1]
    cases reserved : isReservedHeader s with
    | true => simp [namespaces.lookup_application reserved]
    | false => simp [unwritten s reserved, namespaces.lookup_protocol reserved]
  · rw [(lookups s).2]
    cases reserved : isReservedHeader s with
    | true => simp [namespaces.lookup_application reserved]
    | false => simp [unwritten s reserved, namespaces.lookup_protocol reserved]

end RabbitmqMetadata
