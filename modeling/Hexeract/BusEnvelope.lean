import Hexeract.LibraryFramedBytes
import Hexeract.StdTime
import Hexeract.BusErrors
import Mathlib.Data.List.AList

/-! # Envelopes and the reserved header namespace

A header map is an association list without repeated keys. Its list order stands for
the iteration order of the hash map, so a result that must not depend on that order is
stated for permuted lists. -/
namespace BusEnvelope

open LibraryFramedBytes StdTime BusErrors

def utf8 (s : String) : Bytes := s.toByteArray.data.toList

@[ext] structure Uuid where
  bytes : Bytes
  length_bytes : bytes.length = 16
  deriving DecidableEq, Repr

def Uuid.fromU128 (n : ℕ) : Uuid := ⟨bigEndian 16 n, length_bigEndian 16 n⟩

/-- Text form of identifiers, provided by the identifier crate. -/
structure UuidText where
  parse : String → Option Uuid
  render : Uuid → String
  parse_render : ∀ id, parse (render id) = some id
  length_render : ∀ id, (utf8 (render id)).length = 36

def hexDigit (n : ℕ) : Char := if n < 10 then Char.ofNat (48 + n) else Char.ofNat (87 + n)

def hexValue (c : Char) : Option ℕ :=
  if '0' ≤ c ∧ c ≤ '9' then some (c.toNat - 48)
  else if 'a' ≤ c ∧ c ≤ 'f' then some (c.toNat - 87)
  else none

def hexText (bytes : Bytes) : List Char :=
  bytes.flatMap fun b => [hexDigit (b.toNat / 16), hexDigit (b.toNat % 16)]

def hexBytes : List Char → Option Bytes
  | [] => some []
  | [_] => none
  | high :: low :: rest => do
    let high ← hexValue high
    let low ← hexValue low
    let bytes ← hexBytes rest
    return UInt8.ofNat (16 * high + low) :: bytes

theorem hexValue_hexDigit :
    ∀ n < 16, hexValue (hexDigit n) = some n ∧ hexDigit n ≠ '-' ∧ (hexDigit n).utf8Size = 1 := by
  decide

theorem hexBytes_hexText (bytes : Bytes) : hexBytes (hexText bytes) = some bytes := by
  induction bytes with
  | nil => rfl
  | cons b rest ih =>
    have small := b.toNat_lt
    have high := (hexValue_hexDigit (b.toNat / 16) (by omega)).1
    have low := (hexValue_hexDigit (b.toNat % 16) (by omega)).1
    have whole : UInt8.ofNat (16 * (b.toNat / 16) + b.toNat % 16) = b := by
      rw [Nat.div_add_mod]
      exact UInt8.ofNat_toNat
    change hexBytes (hexDigit (b.toNat / 16) :: hexDigit (b.toNat % 16) :: hexText rest) = _
    simp only [hexBytes, high, low, ih, Option.bind_eq_bind, Option.bind_some, Option.pure_def,
      whole]

theorem hexText_filter (bytes : Bytes) : (hexText bytes).filter (· != '-') = hexText bytes := by
  rw [List.filter_eq_self]
  intro c hc
  obtain ⟨b, _, hb⟩ := List.mem_flatMap.mp hc
  have small := b.toNat_lt
  rcases List.mem_pair.mp hb with rfl | rfl
  · simpa using (hexValue_hexDigit (b.toNat / 16) (by omega)).2.1
  · simpa using (hexValue_hexDigit (b.toNat % 16) (by omega)).2.1

/-- Lowercase digits in groups of eight, four, four, four and twelve. -/
def hyphenatedText (bytes : Bytes) : List Char :=
  hexText (bytes.take 4) ++ '-' :: (hexText ((bytes.drop 4).take 2) ++
    '-' :: (hexText ((bytes.drop 6).take 2) ++ '-' :: (hexText ((bytes.drop 8).take 2) ++
      '-' :: hexText (bytes.drop 10))))

theorem hyphenatedText_filter (bytes : Bytes) :
    (hyphenatedText bytes).filter (· != '-') = hexText bytes := by
  have hyphen : ('-' != '-') = false := rfl
  simp only [hyphenatedText, List.filter_append, List.filter_cons, hyphen, hexText_filter,
    Bool.false_eq_true, if_false]
  simp only [hexText, ← List.flatMap_append]
  have pair : ∀ n, (bytes.drop n).take 2 ++ bytes.drop (n + 2) = bytes.drop n := by
    intro n
    rw [← List.drop_drop]
    exact List.take_append_drop 2 _
  rw [pair 8, pair 6, pair 4, List.take_append_drop]

theorem length_utf8_hexText (bytes : Bytes) :
    ((hexText bytes).flatMap String.utf8EncodeChar).length = 2 * bytes.length := by
  induction bytes with
  | nil => rfl
  | cons b rest ih =>
    have small := b.toNat_lt
    have high := (hexValue_hexDigit (b.toNat / 16) (by omega)).2.2
    have low := (hexValue_hexDigit (b.toNat % 16) (by omega)).2.2
    change ((hexDigit (b.toNat / 16) :: hexDigit (b.toNat % 16) :: hexText rest).flatMap
      String.utf8EncodeChar).length = 2 * (rest.length + 1)
    simp only [List.flatMap_cons, List.length_append, String.length_utf8EncodeChar, high, low, ih]
    omega

theorem utf8_ofList (text : List Char) :
    utf8 (String.ofList text) = text.flatMap String.utf8EncodeChar := by
  rw [utf8, String.toByteArray_ofList, List.utf8Encode, List.data_toByteArray]

theorem length_utf8_hyphenatedText {bytes : Bytes} (h : bytes.length = 16) :
    (utf8 (String.ofList (hyphenatedText bytes))).length = 36 := by
  have hyphen : (String.utf8EncodeChar '-').length = 1 := rfl
  rw [utf8_ofList]
  simp only [hyphenatedText, List.flatMap_append, List.flatMap_cons, List.length_append,
    length_utf8_hexText, hyphen, List.length_take, List.length_drop, h]
  decide

/-- The text the identifier crate renders, and the parser restricted to that form. -/
def UuidText.hyphenated : UuidText where
  parse s :=
    match hexBytes (s.toList.filter (· != '-')) with
    | some bytes => if h : bytes.length = 16 then some ⟨bytes, h⟩ else none
    | none => none
  render id := String.ofList (hyphenatedText id.bytes)
  parse_render id := by
    simp [hyphenatedText_filter, hexBytes_hexText, id.length_bytes]
  length_render id := length_utf8_hyphenatedText id.length_bytes

abbrev HeaderMap := AList fun _ : String => String

/-- Equality of two maps, whatever their iteration orders. -/
def SameMap (m k : HeaderMap) : Prop := ∀ key, m.lookup key = k.lookup key

def reservedHeaderPrefix : String := "x-hexeract-"

def toAsciiLowercase (b : UInt8) : UInt8 := if 65 ≤ b ∧ b ≤ 90 then b + 32 else b

def isAsciiUppercase (b : UInt8) : Bool := 65 ≤ b && b ≤ 90

def eqIgnoreAsciiCase (a b : Bytes) : Bool :=
  a.map toAsciiLowercase == b.map toAsciiLowercase

def isCharBoundary (bytes : Bytes) (index : ℕ) : Bool :=
  index == 0 || index == bytes.length ||
    match bytes[index]? with
    | some b => b < 128 || 192 ≤ b
    | none => false

/-- The first `n` bytes of a string, absent when that would split a character. -/
def getUpTo (bytes : Bytes) (n : ℕ) : Option Bytes :=
  if isCharBoundary bytes n then some (bytes.take n) else none

def isReservedHeader (key : String) : Bool :=
  match getUpTo (utf8 key) (utf8 reservedHeaderPrefix).length with
  | some start => eqIgnoreAsciiCase start (utf8 reservedHeaderPrefix)
  | none => false

def hasAsciiUppercase (key : String) : Bool := (utf8 key).any isAsciiUppercase

def protocolVersionHeader : String := "x-hexeract-protocol-version"
def requestIdHeader : String := "x-hexeract-request-id"
def replyStatusHeader : String := "x-hexeract-reply-status"
def deadlineHeader : String := "x-hexeract-deadline"
def protocolVersion : ℕ := 1
def replyStatusOk : String := "ok"
def replyStatusError : String := "error"
def replyErrorMessageType : String := "hexeract.rpc.error"

structure Envelope where
  messageId : Uuid
  messageType : String
  payload : Bytes
  correlationId : Uuid
  replyTo : Option String
  headers : HeaderMap
  protocolHeaders : HeaderMap
  publishedAt : SystemTime
  deriving DecidableEq

/-- Minting, the clock and the JSON encoder are read by the caller of this function. -/
def Envelope.new (messageId correlationId : Uuid) (messageType : String)
    (encoded : Except BusError Bytes) (now : SystemTime) : Except BusError Envelope :=
  encoded.map fun payload =>
    { messageId, messageType, payload, correlationId, replyTo := none,
      headers := ∅, protocolHeaders := ∅, publishedAt := now }

def Envelope.withReplyTo (messageId correlationId : Uuid) (messageType replyTo : String)
    (encoded : Except BusError Bytes) (now : SystemTime) : Except BusError Envelope :=
  (Envelope.new messageId correlationId messageType encoded now).map fun envelope =>
    { envelope with replyTo := some replyTo }

def Envelope.restore (messageId : Uuid) (messageType : String) (payload : Bytes)
    (correlationId : Uuid) (replyTo : Option String) (headers : HeaderMap)
    (publishedAt : SystemTime) : Envelope :=
  { messageId, messageType, payload, correlationId, replyTo, headers,
    protocolHeaders := ∅, publishedAt }

/-- What a transport hands over is not checked, the names of protocol headers included. -/
def Envelope.restoreFromTransport (messageId : Uuid) (messageType : String) (payload : Bytes)
    (correlationId : Uuid) (replyTo : Option String) (headers protocolHeaders : HeaderMap)
    (publishedAt : SystemTime) : Envelope :=
  { messageId, messageType, payload, correlationId, replyTo, headers, protocolHeaders,
    publishedAt }

def Envelope.header (e : Envelope) (key : String) : Option String :=
  if isReservedHeader key then e.protocolHeaders.lookup key else e.headers.lookup key

def entryPair (entry : Σ _ : String, String) : String × String := (entry.1, entry.2)

/-- Application entries first, then protocol entries, as they are written to the wire. -/
def Envelope.wireHeaders (e : Envelope) : List (String × String) :=
  (e.headers.entries ++ e.protocolHeaders.entries).map entryPair

def Envelope.validateApplicationHeaders (e : Envelope) : Except BusError Unit :=
  if e.headers.keys.any isReservedHeader then .error .reservedHeaderNamespace else .ok ()

def Envelope.withHeaders (messageId correlationId : Uuid) (messageType : String)
    (headers : HeaderMap) (encoded : Except BusError Bytes) (now : SystemTime) :
    Except BusError Envelope := do
  let envelope ← Envelope.new messageId correlationId messageType encoded now
  let envelope := { envelope with headers }
  envelope.validateApplicationHeaders
  return envelope

def Envelope.insertProtocolHeader (e : Envelope) (key value : String) : Envelope :=
  { e with protocolHeaders := e.protocolHeaders.insert key value }

/-- Equality of two envelopes, whatever the iteration orders of their maps. -/
structure SameEnvelope (e f : Envelope) : Prop where
  messageId : e.messageId = f.messageId
  messageType : e.messageType = f.messageType
  payload : e.payload = f.payload
  correlationId : e.correlationId = f.correlationId
  replyTo : e.replyTo = f.replyTo
  headers : SameMap e.headers f.headers
  protocolHeaders : SameMap e.protocolHeaders f.protocolHeaders
  publishedAt : e.publishedAt = f.publishedAt

/-- No application key is reserved and every protocol key is. -/
structure RespectsNamespace (e : Envelope) : Prop where
  application : ∀ key ∈ e.headers, isReservedHeader key = false
  protocol : ∀ key ∈ e.protocolHeaders, isReservedHeader key = true

theorem utf8_injective : Function.Injective utf8 := by
  intro s t h
  apply String.toByteArray_inj.mp
  have hd : s.toByteArray.data = t.toByteArray.data := Array.toList_inj.mp h
  exact ByteArray.ext hd

theorem utf8_append (s t : String) : utf8 (s ++ t) = utf8 s ++ utf8 t := by
  simp [utf8]

theorem sameMap_iff_perm (m k : HeaderMap) : SameMap m k ↔ m.entries.Perm k.entries := by
  constructor
  · intro h
    apply List.lookup_ext m.nodupKeys k.nodupKeys
    intro key value
    have := h key
    simp only [AList.lookup] at this
    rw [this]
  · intro h key
    exact AList.perm_lookup h

theorem SameMap.symm {m k : HeaderMap} (h : SameMap m k) : SameMap k m :=
  fun key => (h key).symm

theorem SameMap.mem_iff {m k : HeaderMap} (h : SameMap m k) (key : String) :
    key ∈ m ↔ key ∈ k := by
  rw [← AList.lookup_isSome, ← AList.lookup_isSome, h key]

theorem SameEnvelope.wireHeaders_perm {e f : Envelope} (h : SameEnvelope e f) :
    e.wireHeaders.Perm f.wireHeaders :=
  (((sameMap_iff_perm _ _).mp h.headers).append
    ((sameMap_iff_perm _ _).mp h.protocolHeaders)).map entryPair

theorem mem_map_entryPair {m : HeaderMap} {key value : String} :
    (key, value) ∈ m.entries.map entryPair ↔ m.lookup key = some value := by
  rw [← Option.mem_def, AList.mem_lookup_iff]
  constructor
  · intro h
    obtain ⟨⟨k, v⟩, hm, he⟩ := List.mem_map.mp h
    obtain ⟨rfl, rfl⟩ := Prod.mk.inj he
    exact hm
  · exact fun h => List.mem_map.mpr ⟨_, h, rfl⟩

theorem mem_wireHeaders {e : Envelope} {key value : String} :
    (key, value) ∈ e.wireHeaders ↔
      e.headers.lookup key = some value ∨ e.protocolHeaders.lookup key = some value := by
  rw [Envelope.wireHeaders, List.map_append, List.mem_append, mem_map_entryPair,
    mem_map_entryPair]

theorem RespectsNamespace.lookup_application {e : Envelope} (h : RespectsNamespace e)
    {key : String} (hr : isReservedHeader key = true) : e.headers.lookup key = none := by
  rw [AList.lookup_eq_none]
  intro hk
  rw [h.application key hk] at hr
  cases hr

theorem RespectsNamespace.lookup_protocol {e : Envelope} (h : RespectsNamespace e)
    {key : String} (hr : isReservedHeader key = false) : e.protocolHeaders.lookup key = none := by
  rw [AList.lookup_eq_none]
  intro hk
  rw [h.protocol key hk] at hr
  cases hr

theorem header_of_reserved {key : String} (h : isReservedHeader key = true) (e : Envelope) :
    e.header key = e.protocolHeaders.lookup key := by
  simp [Envelope.header, h]

theorem validateApplicationHeaders_ok {e : Envelope} :
    e.validateApplicationHeaders = .ok () ↔ ∀ key ∈ e.headers, isReservedHeader key = false := by
  simp only [Envelope.validateApplicationHeaders]
  split
  · rename_i h
    obtain ⟨key, hk, hr⟩ := List.any_eq_true.mp h
    simp only [reduceCtorEq, false_iff, not_forall]
    exact ⟨key, AList.mem_keys.mpr hk, by simp [hr]⟩
  · rename_i h
    simp only [true_iff]
    intro key hk
    by_contra hr
    exact h (List.any_eq_true.mpr ⟨key, AList.mem_keys.mp hk, by simpa using hr⟩)

end BusEnvelope
