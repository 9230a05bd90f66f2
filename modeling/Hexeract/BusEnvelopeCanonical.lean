import Hexeract.LibraryCollections
import Hexeract.BusEnvelope

/-! # Identities and the signed byte representation

The canonical representation is written field by field with length prefixes. Its
inversion lemma turns a successful run into one self-delimiting word, from which the
covered fields are recovered. -/
namespace BusEnvelopeCanonical

open LibraryCollections LibraryFramedBytes StdTime BusErrors BusEnvelope

def maxIdentityBytes : ℕ := 128

def isAsciiGraphic (b : UInt8) : Bool := 33 ≤ b && b ≤ 126

def isValidIdentity (value : String) : Bool :=
  !(utf8 value).isEmpty && (utf8 value).length ≤ maxIdentityBytes &&
    (utf8 value).all isAsciiGraphic

/-- One type for the three identities, which share their validation rule. -/
structure Identity (kind : IdentityKind) where
  asStr : String
  valid : isValidIdentity asStr = true
  deriving DecidableEq

def Identity.new (kind : IdentityKind) (value : String) :
    Except EnvelopeSecurityError (Identity kind) :=
  if h : isValidIdentity value = true then .ok ⟨value, h⟩ else .error (.invalidIdentity kind)

abbrev Issuer := Identity .issuer
abbrev Audience := Identity .audience
abbrev KeyId := Identity .keyId

inductive SignatureAlgorithm where
  | ed25519
  deriving DecidableEq, Repr

def SignatureAlgorithm.asWireStr : SignatureAlgorithm → String
  | .ed25519 => "ed25519"

def SignatureAlgorithm.fromWireStr (token : String) :
    Except EnvelopeSecurityError SignatureAlgorithm :=
  if token = "ed25519" then .ok .ed25519 else .error .unsupportedAlgorithm

def signatureHeader : String := "x-hexeract-signature"
def keyIdHeader : String := "x-hexeract-key-id"
def issuerHeader : String := "x-hexeract-issuer"
def audienceHeader : String := "x-hexeract-audience"
def algorithmHeader : String := "x-hexeract-algorithm"
def destinationHeader : String := "x-hexeract-destination"
def canonicalDomain : String := "hexeract-envelope-v1"

def securityHeaderNames : List String :=
  [signatureHeader, keyIdHeader, issuerHeader, audienceHeader, algorithmHeader,
    destinationHeader]

def isSecurityHeader (key : String) : Bool := securityHeaderNames.contains key

structure CanonicalBinding where
  destination : String
  issuer : Issuer
  audience : Audience
  keyId : KeyId
  algorithm : SignatureAlgorithm
  deriving DecidableEq

def pushField (bytes field : Bytes) : Except EnvelopeSecurityError Bytes :=
  if field.length < 2 ^ 32 then .ok (bytes ++ (bigEndian 4 field.length ++ field))
  else .error .fieldTooLarge

def pushOptionalField (bytes : Bytes) : Option Bytes → Except EnvelopeSecurityError Bytes
  | some field => pushField (bytes ++ [1]) field
  | none => .ok (bytes ++ [0])

/-- Key bytes first, then value bytes: the two maps may hold the same key. -/
def compareHeaders (left right : String × String) : Ordering :=
  (compare (utf8 left.1) (utf8 right.1)).then (compare (utf8 left.2) (utf8 right.2))

def pushPairs (bytes : Bytes) :
    List (String × String) → Except EnvelopeSecurityError Bytes
  | [] => .ok bytes
  | (key, value) :: rest => do
    let bytes ← pushField bytes (utf8 key)
    let bytes ← pushField bytes (utf8 value)
    pushPairs bytes rest

def pushHeaders (bytes : Bytes) (headers protocolHeaders : HeaderMap) :
    Except EnvelopeSecurityError Bytes :=
  let pairs := ((headers.entries ++ protocolHeaders.entries).map entryPair).filter
    fun pair => !isSecurityHeader pair.1
  let pairs := sortBy compareHeaders pairs
  if pairs.length < 2 ^ 32 then pushPairs (bytes ++ bigEndian 4 pairs.length) pairs
  else .error .fieldTooLarge

section Representation

variable (sha256 : Bytes → Bytes)

def canonicalRepresentation (envelope : Envelope) (binding : CanonicalBinding) :
    Except EnvelopeSecurityError Bytes := do
  let sinceEpoch ← (envelope.publishedAt.durationSince unixEpoch).mapError
    fun _ => .missingRequiredField "published_at"
  let publishedAtSeconds := sinceEpoch.asSecs
  let bytes ← pushField [] (utf8 canonicalDomain)
  let bytes ← pushField bytes envelope.messageId.bytes
  let bytes ← pushField bytes (utf8 envelope.messageType)
  let bytes ← pushField bytes envelope.correlationId.bytes
  let bytes ← pushOptionalField bytes (envelope.replyTo.map utf8)
  let bytes ← pushField bytes (bigEndian 8 publishedAtSeconds.toNat)
  let bytes ← pushField bytes (utf8 binding.destination)
  let bytes ← pushField bytes (utf8 binding.issuer.asStr)
  let bytes ← pushField bytes (utf8 binding.audience.asStr)
  let bytes ← pushField bytes (utf8 binding.keyId.asStr)
  let bytes ← pushField bytes (utf8 binding.algorithm.asWireStr)
  let bytes ← pushHeaders bytes envelope.headers envelope.protocolHeaders
  pushField bytes (sha256 envelope.payload)

def coveredHeaders (e : Envelope) : List (String × String) :=
  e.wireHeaders.filter fun pair => !isSecurityHeader pair.1

/-- What the representation covers, in the order in which it is written. -/
structure SignedFields where
  leading : List Bytes
  replyTo : Option Bytes
  bound : List Bytes
  headers : List (String × String)
  digest : Bytes

def signedFields (e : Envelope) (b : CanonicalBinding) (seconds : UInt64) : SignedFields where
  leading := [utf8 canonicalDomain, e.messageId.bytes, utf8 e.messageType, e.correlationId.bytes]
  replyTo := e.replyTo.map utf8
  bound := [bigEndian 8 seconds.toNat, utf8 b.destination, utf8 b.issuer.asStr,
    utf8 b.audience.asStr, utf8 b.keyId.asStr, utf8 b.algorithm.asWireStr]
  headers := sortBy compareHeaders (coveredHeaders e)
  digest := sha256 e.payload

end Representation

def encodePair (pair : String × String) : Bytes := frame (utf8 pair.1) ++ frame (utf8 pair.2)

def PairFits (pair : String × String) : Prop :=
  (utf8 pair.1).length < 2 ^ 32 ∧ (utf8 pair.2).length < 2 ^ 32

def SignedFields.encode (s : SignedFields) : Bytes :=
  s.leading.flatMap frame ++ (optionalFrame s.replyTo ++ (s.bound.flatMap frame ++
    (counted encodePair s.headers ++ frame s.digest)))

/-- Every length and count can be written on four bytes. -/
structure SignedFields.Fits (s : SignedFields) : Prop where
  leading : ∀ field ∈ s.leading, field.length < 2 ^ 32
  replyTo : ∀ field ∈ s.replyTo, field.length < 2 ^ 32
  bound : ∀ field ∈ s.bound, field.length < 2 ^ 32
  headers : s.headers.length < 2 ^ 32 ∧ ∀ pair ∈ s.headers, PairFits pair
  digest : s.digest.length < 2 ^ 32

theorem pushField_ok {bytes field out : Bytes} :
    pushField bytes field = .ok out ↔ field.length < 2 ^ 32 ∧ out = bytes ++ frame field := by
  unfold pushField
  by_cases h : field.length < 2 ^ 32
  · simp only [h, if_true, true_and, Except.ok.injEq]
    exact eq_comm
  · simp only [h, if_false, false_and, reduceCtorEq]

theorem pushField_bind_ok {bytes field out : Bytes}
    {rest : Bytes → Except EnvelopeSecurityError Bytes} :
    pushField bytes field >>= rest = .ok out ↔
      field.length < 2 ^ 32 ∧ rest (bytes ++ frame field) = .ok out :=
  bind_ok_of_iff fun _ => pushField_ok

theorem pushOptionalField_ok {bytes out : Bytes} {field : Option Bytes} :
    pushOptionalField bytes field = .ok out ↔
      (∀ b ∈ field, b.length < 2 ^ 32) ∧ out = bytes ++ optionalFrame field := by
  cases field with
  | none =>
    simp only [pushOptionalField, optionalFrame, Except.ok.injEq, Option.not_mem_none,
      false_implies, implies_true, true_and]
    exact eq_comm
  | some field =>
    simp only [pushOptionalField, pushField_ok, optionalFrame, Option.mem_some_iff,
      forall_eq', List.append_assoc, List.singleton_append]

theorem pushOptionalField_bind_ok {bytes out : Bytes} {field : Option Bytes}
    {rest : Bytes → Except EnvelopeSecurityError Bytes} :
    pushOptionalField bytes field >>= rest = .ok out ↔
      (∀ b ∈ field, b.length < 2 ^ 32) ∧ rest (bytes ++ optionalFrame field) = .ok out :=
  bind_ok_of_iff fun _ => pushOptionalField_ok

theorem pushPairs_ok {pairs : List (String × String)} {bytes out : Bytes} :
    pushPairs bytes pairs = .ok out ↔
      (∀ pair ∈ pairs, PairFits pair) ∧ out = bytes ++ pairs.flatMap encodePair := by
  induction pairs generalizing bytes with
  | nil =>
    simp only [pushPairs, Except.ok.injEq, List.not_mem_nil, false_implies, implies_true,
      List.flatMap_nil, List.append_nil, true_and]
    exact eq_comm
  | cons pair rest ih =>
    obtain ⟨key, value⟩ := pair
    simp only [pushPairs, pushField_bind_ok, ih, List.forall_mem_cons, PairFits,
      List.flatMap_cons, encodePair, List.append_assoc, and_assoc]

theorem pushHeaders_ok {e : Envelope} {bytes out : Bytes} :
    pushHeaders bytes e.headers e.protocolHeaders = .ok out ↔
      ((sortBy compareHeaders (coveredHeaders e)).length < 2 ^ 32 ∧
        ∀ pair ∈ sortBy compareHeaders (coveredHeaders e), PairFits pair) ∧
      out = bytes ++ counted encodePair (sortBy compareHeaders (coveredHeaders e)) := by
  change (if (sortBy compareHeaders (coveredHeaders e)).length < 2 ^ 32 then
      pushPairs (bytes ++ bigEndian 4 (sortBy compareHeaders (coveredHeaders e)).length)
        (sortBy compareHeaders (coveredHeaders e)) else .error .fieldTooLarge) = .ok out ↔ _
  by_cases h : (sortBy compareHeaders (coveredHeaders e)).length < 2 ^ 32
  · simp only [h, if_true, true_and, pushPairs_ok, counted, List.append_assoc]
  · simp only [h, if_false, false_and, reduceCtorEq]

theorem pushHeaders_bind_ok {e : Envelope} {bytes out : Bytes}
    {rest : Bytes → Except EnvelopeSecurityError Bytes} :
    pushHeaders bytes e.headers e.protocolHeaders >>= rest = .ok out ↔
      ((sortBy compareHeaders (coveredHeaders e)).length < 2 ^ 32 ∧
        ∀ pair ∈ sortBy compareHeaders (coveredHeaders e), PairFits pair) ∧
      rest (bytes ++ counted encodePair (sortBy compareHeaders (coveredHeaders e))) = .ok out :=
  bind_ok_of_iff fun _ => pushHeaders_ok

/-- A successful run writes exactly the framed fields, and only lengths can make it fail
after the publication time was accepted. -/
theorem canonicalRepresentation_ok {sha256 : Bytes → Bytes} {e : Envelope}
    {b : CanonicalBinding} {out : Bytes} :
    canonicalRepresentation sha256 e b = .ok out ↔
      ∃ since, e.publishedAt.durationSince unixEpoch = .ok since ∧
        (signedFields sha256 e b since.asSecs).Fits ∧
        out = (signedFields sha256 e b since.asSecs).encode := by
  rw [canonicalRepresentation, bind_ok]
  apply exists_congr
  intro since
  rw [mapError_ok]
  apply and_congr_right
  intro _
  simp only [pushField_bind_ok, pushOptionalField_bind_ok, pushHeaders_bind_ok, pushField_ok]
  constructor
  · rintro ⟨h1, h2, h3, h4, h5, h6, h7, h8, h9, h10, h11, h12, h13, rfl⟩
    refine ⟨⟨?_, h5, ?_, h12, h13⟩, ?_⟩
    · simp only [signedFields, List.forall_mem_cons, List.not_mem_nil, false_implies,
        implies_true, and_true]
      exact ⟨h1, h2, h3, h4⟩
    · simp only [signedFields, List.forall_mem_cons, List.not_mem_nil, false_implies,
        implies_true, and_true]
      exact ⟨h6, h7, h8, h9, h10, h11⟩
    · simp [signedFields, SignedFields.encode]
  · rintro ⟨⟨hl, h5, hb, h12, h13⟩, rfl⟩
    simp only [signedFields, List.forall_mem_cons, List.not_mem_nil, false_implies,
      implies_true, and_true] at hl hb
    obtain ⟨h1, h2, h3, h4⟩ := hl
    obtain ⟨h6, h7, h8, h9, h10, h11⟩ := hb
    refine ⟨h1, h2, h3, h4, h5, h6, h7, h8, h9, h10, h11, h12, h13, ?_⟩
    simp [signedFields, SignedFields.encode]

theorem selfDelimiting_encodePair : SelfDelimiting PairFits encodePair := by
  apply (selfDelimiting_frame.append selfDelimiting_frame).comap
    (g := fun pair : String × String => (utf8 pair.1, utf8 pair.2))
  · exact fun _ fits => fits
  · intro p q _ _ h
    obtain ⟨hk, hv⟩ := Prod.mk.inj h
    exact Prod.ext (utf8_injective hk) (utf8_injective hv)

theorem SignedFields.encode_inj {s t : SignedFields} (hs : s.Fits) (ht : t.Fits)
    (hl : s.leading.length = t.leading.length) (hb : s.bound.length = t.bound.length)
    (h : s.encode = t.encode) : s = t := by
  obtain ⟨leading, h⟩ := flatMap_cancel selfDelimiting_frame hl hs.leading ht.leading h
  obtain ⟨replyTo, h⟩ := selfDelimiting_optionalFrame _ _ _ _ hs.replyTo ht.replyTo h
  obtain ⟨bound, h⟩ := flatMap_cancel selfDelimiting_frame hb hs.bound ht.bound h
  obtain ⟨headers, h⟩ := selfDelimiting_counted selfDelimiting_encodePair _ _ _ _
    hs.headers ht.headers h
  have digest := selfDelimiting_frame.inj hs.digest ht.digest h
  cases s
  cases t
  simp_all

instance : Std.TransCmp compareHeaders := by
  have : compareHeaders = compareLex (compareOn fun p : String × String => utf8 p.1)
      (compareOn fun p : String × String => utf8 p.2) := rfl
  rw [this]
  infer_instance

instance : Std.LawfulEqCmp compareHeaders where
  eq_of_compare := by
    intro p q h
    obtain ⟨hk, hv⟩ := Ordering.then_eq_eq.mp h
    exact Prod.ext (utf8_injective (Std.LawfulEqCmp.eq_of_compare hk))
      (utf8_injective (Std.LawfulEqCmp.eq_of_compare hv))

theorem Identity.ext_asStr {kind : IdentityKind} {a b : Identity kind}
    (h : utf8 a.asStr = utf8 b.asStr) : a = b := by
  cases a
  cases b
  simpa using utf8_injective h

def publicationSecond (e : Envelope) : ℤ := e.publishedAt.nanos / nanosPerSec

theorem publicationSecond_eq {e : Envelope} {since : Duration}
    (h : e.publishedAt.durationSince unixEpoch = .ok since) :
    publicationSecond e = since.asSecs.toNat := by
  obtain ⟨_, hn⟩ := durationSince_ok.mp h
  rw [asSecs_toNat, publicationSecond]
  have : e.publishedAt.nanos = since.nanos := by
    rw [hn]
    exact (Int.sub_zero _).symm
  rw [this]
  rfl

/-- The fields two envelopes share when their representations are equal. Headers are
compared as they travel, the two maps merged. -/
structure SameCovered (e f : Envelope) : Prop where
  messageId : e.messageId = f.messageId
  messageType : e.messageType = f.messageType
  correlationId : e.correlationId = f.correlationId
  replyTo : e.replyTo = f.replyTo
  second : publicationSecond e = publicationSecond f
  payload : e.payload = f.payload
  headers : (coveredHeaders e).Perm (coveredHeaders f)

theorem signedFields_of_equal_bytes {sha256 : Bytes → Bytes} {e f : Envelope}
    {b c : CanonicalBinding} {out : Bytes} (he : canonicalRepresentation sha256 e b = .ok out)
    (hf : canonicalRepresentation sha256 f c = .ok out) :
    ∃ since since', e.publishedAt.durationSince unixEpoch = .ok since ∧
      f.publishedAt.durationSince unixEpoch = .ok since' ∧
      signedFields sha256 e b since.asSecs = signedFields sha256 f c since'.asSecs := by
  obtain ⟨since, sinceE, fitsE, rfl⟩ := canonicalRepresentation_ok.mp he
  obtain ⟨since', sinceF, fitsF, bytes⟩ := canonicalRepresentation_ok.mp hf
  exact ⟨since, since', sinceE, sinceF, SignedFields.encode_inj fitsE fitsF rfl rfl bytes⟩

/-- The headers can be read back whatever the digest of the payload is. -/
theorem coveredHeaders_of_equal_bytes {sha256 : Bytes → Bytes} {e f : Envelope}
    {b c : CanonicalBinding} {out : Bytes} (he : canonicalRepresentation sha256 e b = .ok out)
    (hf : canonicalRepresentation sha256 f c = .ok out) :
    (coveredHeaders e).Perm (coveredHeaders f) := by
  obtain ⟨_, _, _, _, same⟩ := signedFields_of_equal_bytes he hf
  exact (sortBy_eq_iff _).mp (congrArg SignedFields.headers same)

theorem covered_of_equal_bytes {sha256 : Bytes → Bytes} (inj : Function.Injective sha256)
    {e f : Envelope} {b c : CanonicalBinding} {out : Bytes}
    (he : canonicalRepresentation sha256 e b = .ok out)
    (hf : canonicalRepresentation sha256 f c = .ok out) : SameCovered e f ∧ b = c := by
  obtain ⟨since, since', sinceE, sinceF, same⟩ := signedFields_of_equal_bytes he hf
  simp only [signedFields, SignedFields.mk.injEq, List.cons.injEq, and_true, true_and] at same
  obtain ⟨⟨id, type, correlation⟩, reply, ⟨second, destination, issuer, audience, key⟩,
    _, digest⟩ := same
  constructor
  · refine ⟨Uuid.ext id, utf8_injective type, Uuid.ext correlation,
      Option.map_injective utf8_injective reply, ?_, inj digest,
      coveredHeaders_of_equal_bytes he hf⟩
    rw [publicationSecond_eq sinceE, publicationSecond_eq sinceF]
    have := @bigEndian_inj 8 _ _ since.asSecs.toNat_lt since'.asSecs.toNat_lt second
    rw [this]
  · cases b
    cases c
    simp only [CanonicalBinding.mk.injEq, and_true]
    exact ⟨utf8_injective destination, Identity.ext_asStr issuer, Identity.ext_asStr audience,
      Identity.ext_asStr key⟩

/-- Two maps with the same entries once the six security headers are removed. -/
def SameOutsideSecurity (m k : HeaderMap) : Prop :=
  ∀ key, isSecurityHeader key = false → m.lookup key = k.lookup key

theorem mem_coveredHeaders {e : Envelope} {key value : String} :
    (key, value) ∈ coveredHeaders e ↔ isSecurityHeader key = false ∧
      (e.headers.lookup key = some value ∨ e.protocolHeaders.lookup key = some value) := by
  rw [coveredHeaders, List.mem_filter, mem_wireHeaders, and_comm]
  simp

/-- The merged list gives both maps back, because a key's namespace tells its map. -/
theorem maps_of_coveredHeaders_perm {e f : Envelope} (he : RespectsNamespace e)
    (hf : RespectsNamespace f) (h : (coveredHeaders e).Perm (coveredHeaders f)) :
    SameOutsideSecurity e.headers f.headers ∧
      SameOutsideSecurity e.protocolHeaders f.protocolHeaders := by
  have same : ∀ key value, isSecurityHeader key = false →
      ((e.headers.lookup key = some value ∨ e.protocolHeaders.lookup key = some value) ↔
        (f.headers.lookup key = some value ∨ f.protocolHeaders.lookup key = some value)) := by
    intro key value hs
    have := h.mem_iff (a := (key, value))
    simpa only [mem_coveredHeaders, hs, true_and] using this
  constructor
  · intro key hs
    cases hr : isReservedHeader key with
    | true => rw [he.lookup_application hr, hf.lookup_application hr]
    | false =>
      apply Option.ext
      intro value
      simpa [he.lookup_protocol hr, hf.lookup_protocol hr] using same key value hs
  · intro key hs
    cases hr : isReservedHeader key with
    | true =>
      apply Option.ext
      intro value
      simpa [he.lookup_application hr, hf.lookup_application hr] using same key value hs
    | false => rw [he.lookup_protocol hr, hf.lookup_protocol hr]

theorem filter_entries_perm {m k : HeaderMap} (h : SameOutsideSecurity m k) :
    ((m.entries.map entryPair).filter fun pair => !isSecurityHeader pair.1).Perm
      ((k.entries.map entryPair).filter fun pair => !isSecurityHeader pair.1) := by
  have nodup : ∀ m : HeaderMap, (m.entries.map entryPair).Nodup := by
    intro m
    apply m.nodupKeys.nodup.map
    rintro ⟨a, b⟩ ⟨c, d⟩ he
    obtain ⟨rfl, rfl⟩ := Prod.mk.inj he
    rfl
  rw [List.perm_ext_iff_of_nodup ((nodup m).filter _) ((nodup k).filter _)]
  rintro ⟨key, value⟩
  simp only [List.mem_filter, mem_map_entryPair, Bool.not_eq_true']
  apply and_congr_left
  intro hs
  rw [h key hs]

theorem coveredHeaders_perm {e f : Envelope} (h : SameEnvelope e f) :
    (coveredHeaders e).Perm (coveredHeaders f) :=
  h.wireHeaders_perm.filter _

theorem pushHeaders_of_same {e f : Envelope} (h : SameEnvelope e f) (bytes : Bytes) :
    pushHeaders bytes e.headers e.protocolHeaders =
      pushHeaders bytes f.headers f.protocolHeaders := by
  have sorted : sortBy compareHeaders (coveredHeaders e) =
      sortBy compareHeaders (coveredHeaders f) :=
    (sortBy_eq_iff _).mpr (coveredHeaders_perm h)
  simp only [coveredHeaders, Envelope.wireHeaders] at sorted
  simp only [pushHeaders, sorted]

/-- Failures included, the result is a function of the maps and not of their order. -/
theorem canonicalRepresentation_of_same (sha256 : Bytes → Bytes) {e f : Envelope}
    (h : SameEnvelope e f) (b : CanonicalBinding) :
    canonicalRepresentation sha256 e b = canonicalRepresentation sha256 f b := by
  simp only [canonicalRepresentation, h.messageId, h.messageType, h.payload, h.correlationId,
    h.replyTo, h.publishedAt, pushHeaders_of_same h]

/-- Everything a signature commits to, read back from two envelopes. -/
structure SameSigned (e f : Envelope) : Prop where
  messageId : e.messageId = f.messageId
  messageType : e.messageType = f.messageType
  correlationId : e.correlationId = f.correlationId
  replyTo : e.replyTo = f.replyTo
  second : publicationSecond e = publicationSecond f
  payload : e.payload = f.payload
  headers : SameOutsideSecurity e.headers f.headers
  protocolHeaders : SameOutsideSecurity e.protocolHeaders f.protocolHeaders

theorem SameCovered.signed {e f : Envelope} (h : SameCovered e f) (he : RespectsNamespace e)
    (hf : RespectsNamespace f) : SameSigned e f := by
  obtain ⟨application, protocol⟩ := maps_of_coveredHeaders_perm he hf h.headers
  exact ⟨h.messageId, h.messageType, h.correlationId, h.replyTo, h.second, h.payload,
    application, protocol⟩

theorem SameSigned.covered {e f : Envelope} (h : SameSigned e f) : SameCovered e f := by
  refine ⟨h.messageId, h.messageType, h.correlationId, h.replyTo, h.second, h.payload, ?_⟩
  simp only [coveredHeaders, Envelope.wireHeaders, List.map_append, List.filter_append]
  exact (filter_entries_perm h.headers).append (filter_entries_perm h.protocolHeaders)

theorem canonicalRepresentation_of_covered {sha256 : Bytes → Bytes} {e f : Envelope}
    {b : CanonicalBinding} {out : Bytes} (h : SameCovered e f)
    (epoch : unixEpoch.nanos ≤ f.publishedAt.nanos)
    (he : canonicalRepresentation sha256 e b = .ok out) :
    canonicalRepresentation sha256 f b = .ok out := by
  obtain ⟨since, hsince, fits, rfl⟩ := canonicalRepresentation_ok.mp he
  obtain ⟨since', hsince'⟩ := exists_durationSince epoch
  have seconds : since'.asSecs = since.asSecs := by
    have := h.second
    rw [publicationSecond_eq hsince, publicationSecond_eq hsince'] at this
    exact UInt64.toNat_inj.mp (by exact_mod_cast this.symm)
  have fields : signedFields sha256 f b since'.asSecs = signedFields sha256 e b since.asSecs := by
    simp only [signedFields, h.messageId, h.messageType, h.correlationId, h.replyTo, h.payload,
      seconds, (sortBy_eq_iff compareHeaders).mpr h.headers]
  exact canonicalRepresentation_ok.mpr ⟨since', hsince', fields ▸ fits, by rw [fields]⟩

/-- Equal representations commit to equal envelopes and equal bindings, and the
representation does not depend on the iteration order of the header maps. -/
theorem canonicalRepresentation_commits (sha256 : Bytes → Bytes)
    (inj : Function.Injective sha256) :
    (∀ (e f : Envelope) (b c : CanonicalBinding) (out : Bytes),
      RespectsNamespace e → RespectsNamespace f →
      canonicalRepresentation sha256 e b = .ok out →
      canonicalRepresentation sha256 f c = .ok out → SameSigned e f ∧ b = c) ∧
    (∀ (e f : Envelope) (b : CanonicalBinding), SameEnvelope e f →
      canonicalRepresentation sha256 e b = canonicalRepresentation sha256 f b) := by
  constructor
  · intro e f b c out he hf hout hout'
    obtain ⟨covered, bindings⟩ := covered_of_equal_bytes inj hout hout'
    exact ⟨covered.signed he hf, bindings⟩
  · intro e f b same
    exact canonicalRepresentation_of_same sha256 same b

/-- An injective function with the digest of the empty JSON object at its place. -/
def sampleSha256 (message : Bytes) : Bytes :=
  if message = [123, 125] then
    [68, 19, 111, 163, 85, 179, 103, 138, 17, 70, 173, 22, 247, 232, 100, 158,
      148, 251, 79, 194, 31, 231, 126, 131, 16, 192, 96, 246, 28, 170, 255, 138]
  else 0 :: message

theorem sampleSha256_injective : Function.Injective sampleSha256 := by
  intro m k h
  unfold sampleSha256 at h
  by_cases hm : m = [123, 125] <;> by_cases hk : k = [123, 125] <;> simp_all

def sampleBinding : CanonicalBinding where
  destination := "orders"
  issuer := ⟨"billing-service", by decide⟩
  audience := ⟨"ledger-service", by decide⟩
  keyId := ⟨"2026-09", by decide⟩
  algorithm := .ed25519

def sampleEnvelope : Envelope where
  messageId := Uuid.fromU128 1
  messageType := "order.created"
  payload := [123, 125]
  correlationId := Uuid.fromU128 2
  replyTo := some "replies"
  headers := ((∅ : HeaderMap).insert "region" "eu").insert "tenant" "t1"
  protocolHeaders := ((∅ : HeaderMap).insert requestIdHeader "r1").insert signatureHeader "earlier"
  publishedAt := ⟨1500000000, by decide⟩

/-- The same message in another iteration order, half a second earlier, not yet signed. -/
def reorderedEnvelope : Envelope :=
  { sampleEnvelope with
    headers := ((∅ : HeaderMap).insert "tenant" "t1").insert "region" "eu"
    protocolHeaders := (∅ : HeaderMap).insert requestIdHeader "r1"
    publishedAt := ⟨1250000000, by decide⟩ }

theorem sampleEnvelope_namespace : RespectsNamespace sampleEnvelope := by
  constructor <;> decide

theorem canonicalRepresentation_commits_sample :
    ∃ out, canonicalRepresentation sampleSha256 sampleEnvelope sampleBinding = .ok out ∧
      canonicalRepresentation sampleSha256 reorderedEnvelope sampleBinding = .ok out ∧
      SameSigned sampleEnvelope reorderedEnvelope := by
  have same : canonicalRepresentation sampleSha256 reorderedEnvelope sampleBinding =
      canonicalRepresentation sampleSha256 sampleEnvelope sampleBinding := by decide +kernel
  have isOk : (canonicalRepresentation sampleSha256 sampleEnvelope sampleBinding).isOk = true := by
    decide +kernel
  obtain ⟨out, h⟩ := exists_of_isOk isOk
  have reordered : RespectsNamespace reorderedEnvelope := by
    constructor <;> decide
  have k := same.trans h
  exact ⟨out, h, k, ((canonicalRepresentation_commits sampleSha256 sampleSha256_injective).1
    sampleEnvelope reorderedEnvelope sampleBinding sampleBinding out sampleEnvelope_namespace
    reordered h k).1⟩

end BusEnvelopeCanonical
