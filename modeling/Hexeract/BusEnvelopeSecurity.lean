import Hexeract.BusEnvelopeCanonical

/-! # Signing and verifying envelopes

The signer announces the binding it signed in six headers; the verifier reads the
binding back from them, checks it against the observed destination and its own
configuration, and only then verifies the signature. -/
namespace BusEnvelopeSecurity

open LibraryCollections LibraryFramedBytes StdTime BusErrors BusEnvelope BusEnvelopeCanonical

/-- The digest, the signature scheme and the text encoding of signatures. -/
structure Primitives (SigningKey VerifyingKey Signature : Type) where
  sha256 : Bytes → Bytes
  verifyingKey : SigningKey → VerifyingKey
  sign : SigningKey → Bytes → Signature
  verify : VerifyingKey → Bytes → Signature → Bool
  toBytes : Signature → Bytes
  fromSlice : Bytes → Option Signature
  encodeBase64 : Bytes → String
  decodeBase64 : String → Option Bytes

/-- The laws honest use relies on. -/
structure Primitives.Lawful {SigningKey VerifyingKey Signature : Type}
    (P : Primitives SigningKey VerifyingKey Signature) : Prop where
  verify_sign : ∀ key message, P.verify (P.verifyingKey key) message (P.sign key message) = true
  fromSlice_toBytes : ∀ signature, P.fromSlice (P.toBytes signature) = some signature
  decodeBase64_encodeBase64 : ∀ bytes, P.decodeBase64 (P.encodeBase64 bytes) = some bytes

inductive VerificationPolicy where
  | required
  | allowInsecureUnauthenticatedEnvelopes
  deriving DecidableEq, Repr

structure EnvelopeSecurityConfig where
  policy : VerificationPolicy
  acceptedAudiences : List Audience
  keyRefreshInterval : Duration

structure VerifiedPrincipal where
  issuer : Issuer
  audience : Audience
  keyId : KeyId
  algorithm : SignatureAlgorithm
  deriving DecidableEq

variable {SigningKey VerifyingKey Signature : Type}

/-- The issuer and what its key source answers when asked for the current key. -/
structure EnvelopeSigner (SigningKey : Type) where
  issuer : Issuer
  currentSigningKey : Except KeySourceError (KeyId × SigningKey)

structure SigningContext where
  destination : String
  audience : Audience

abbrev SecurityHeaders := List (String × String)

def EnvelopeSigner.binding (signer : EnvelopeSigner SigningKey) (context : SigningContext)
    (keyId : KeyId) : CanonicalBinding where
  destination := context.destination
  issuer := signer.issuer
  audience := context.audience
  keyId := keyId
  algorithm := .ed25519

def securityHeaders (P : Primitives SigningKey VerifyingKey Signature)
    (binding : CanonicalBinding) (signature : Signature) : SecurityHeaders :=
  [(signatureHeader, P.encodeBase64 (P.toBytes signature)),
    (keyIdHeader, binding.keyId.asStr),
    (issuerHeader, binding.issuer.asStr),
    (audienceHeader, binding.audience.asStr),
    (algorithmHeader, binding.algorithm.asWireStr),
    (destinationHeader, binding.destination)]

def EnvelopeSigner.sign (P : Primitives SigningKey VerifyingKey Signature)
    (signer : EnvelopeSigner SigningKey) (envelope : Envelope) (context : SigningContext) :
    Except EnvelopeSecurityError SecurityHeaders := do
  let (keyId, handle) ← signer.currentSigningKey.mapError .keySource
  let binding := signer.binding context keyId
  let representation ← canonicalRepresentation P.sha256 envelope binding
  return securityHeaders P binding (P.sign handle representation)

def requiredHeader (envelope : Envelope) (header : String) :
    Except EnvelopeSecurityError String :=
  match envelope.header header with
  | some value => .ok value
  | none => .error (.malformedSecurityHeader header)

/-- The checks made before any signature is decoded, in the order in which they fail. -/
def announcedBinding (config : EnvelopeSecurityConfig) (envelope : Envelope)
    (destination : String) : Except EnvelopeSecurityError CanonicalBinding := do
  let announcedDestination ← requiredHeader envelope destinationHeader
  if announcedDestination = destination then
    let issuer ← Identity.new .issuer (← requiredHeader envelope issuerHeader)
    let audience ← Identity.new .audience (← requiredHeader envelope audienceHeader)
    let keyId ← Identity.new .keyId (← requiredHeader envelope keyIdHeader)
    let algorithm ← SignatureAlgorithm.fromWireStr (← requiredHeader envelope algorithmHeader)
    if audience ∈ config.acceptedAudiences then
      .ok { destination, issuer, audience, keyId, algorithm }
    else .error .audienceMismatch
  else .error .destinationMismatch

def decodeSignature (P : Primitives SigningKey VerifyingKey Signature) (raw : String) :
    Except EnvelopeSecurityError Signature :=
  match (P.decodeBase64 raw).bind P.fromSlice with
  | some signature => .ok signature
  | none => .error (.malformedSecurityHeader signatureHeader)

/-- When the key source was last refreshed, on the monotonic clock, and how often. -/
structure RefreshState where
  lastRefresh : Option ℕ
  refreshes : ℕ
  deriving DecidableEq, Repr

def refreshIfDue (config : EnvelopeSecurityConfig) (now : ℕ) (state : RefreshState) :
    RefreshState :=
  if state.lastRefresh.all fun previous => config.keyRefreshInterval.nanos ≤ now - previous then
    { lastRefresh := some now, refreshes := state.refreshes + 1 }
  else state

/-- A key source lookup; only an unknown key may trigger a refresh. -/
def resolveKey (config : EnvelopeSecurityConfig)
    (verificationKey : Issuer → KeyId → Except KeySourceError VerifyingKey)
    (now : ℕ) (state : RefreshState) (issuer : Issuer) (keyId : KeyId) :
    Except EnvelopeSecurityError VerifyingKey × RefreshState :=
  match verificationKey issuer keyId with
  | .ok key => (.ok key, state)
  | .error .revokedKey => (.error .revokedKey, state)
  | .error .unknownKey => (.error .unknownKey, refreshIfDue config now state)
  | .error error => (.error (.keySource error), state)

structure EnvelopeVerifier (VerifyingKey : Type) where
  verificationKey : Issuer → KeyId → Except KeySourceError VerifyingKey
  config : EnvelopeSecurityConfig

def checkSignature (P : Primitives SigningKey VerifyingKey Signature) (envelope : Envelope)
    (binding : CanonicalBinding) (signature : Signature) (key : VerifyingKey) :
    Except EnvelopeSecurityError (Option VerifiedPrincipal) := do
  let representation ← canonicalRepresentation P.sha256 envelope binding
  if P.verify key representation signature then
    .ok (some { issuer := binding.issuer, audience := binding.audience,
                keyId := binding.keyId, algorithm := binding.algorithm })
  else .error .signatureMismatch

def EnvelopeVerifier.verify (P : Primitives SigningKey VerifyingKey Signature)
    (verifier : EnvelopeVerifier VerifyingKey) (now : ℕ) (state : RefreshState)
    (envelope : Envelope) (destination : String) :
    Except EnvelopeSecurityError (Option VerifiedPrincipal) × RefreshState :=
  match envelope.header signatureHeader with
  | none =>
    match verifier.config.policy with
    | .required => (.error .missingSignature, state)
    | .allowInsecureUnauthenticatedEnvelopes => (.ok none, state)
  | some raw =>
    let announced := do
      let binding ← announcedBinding verifier.config envelope destination
      let signature ← decodeSignature P raw
      return (binding, signature)
    match announced with
    | .error error => (.error error, state)
    | .ok (binding, signature) =>
      let (key, state) := resolveKey verifier.config verifier.verificationKey now state
        binding.issuer binding.keyId
      (key.bind (checkSignature P envelope binding signature), state)

/-- The five headers other than the signature carry this binding. -/
structure Announces (e : Envelope) (b : CanonicalBinding) : Prop where
  destination : e.header destinationHeader = some b.destination
  issuer : e.header issuerHeader = some b.issuer.asStr
  audience : e.header audienceHeader = some b.audience.asStr
  keyId : e.header keyIdHeader = some b.keyId.asStr
  algorithm : e.header algorithmHeader = some b.algorithm.asWireStr

theorem requiredHeader_ok {e : Envelope} {header value : String} :
    requiredHeader e header = .ok value ↔ e.header header = some value := by
  unfold requiredHeader
  cases e.header header <;> simp

theorem Identity.new_ok {kind : IdentityKind} {value : String} {identity : Identity kind} :
    Identity.new kind value = .ok identity ↔ identity.asStr = value := by
  unfold Identity.new
  by_cases h : isValidIdentity value = true
  · obtain ⟨text, valid⟩ := identity
    rw [dif_pos h]
    simp only [Except.ok.injEq, Identity.mk.injEq]
    exact eq_comm
  · rw [dif_neg h]
    simp only [reduceCtorEq, false_iff]
    rintro rfl
    exact h identity.valid

theorem fromWireStr_ok {token : String} {algorithm : SignatureAlgorithm} :
    SignatureAlgorithm.fromWireStr token = .ok algorithm ↔ algorithm.asWireStr = token := by
  cases algorithm
  unfold SignatureAlgorithm.fromWireStr
  by_cases h : token = "ed25519"
  · simp [h, SignatureAlgorithm.asWireStr]
  · simp [h, SignatureAlgorithm.asWireStr, Ne.symm h]

theorem announcedBinding_ok {config : EnvelopeSecurityConfig} {e : Envelope}
    {destination : String} {b : CanonicalBinding} :
    announcedBinding config e destination = .ok b ↔
      Announces e b ∧ b.destination = destination ∧ b.audience ∈ config.acceptedAudiences := by
  constructor
  · intro h
    obtain ⟨announced, hd, h⟩ := bind_ok.mp h
    split at h
    · rename_i same
      obtain ⟨issuerText, hi, h⟩ := bind_ok.mp h
      obtain ⟨issuer, hissuer, h⟩ := bind_ok.mp h
      obtain ⟨audienceText, ha, h⟩ := bind_ok.mp h
      obtain ⟨audience, haudience, h⟩ := bind_ok.mp h
      obtain ⟨keyText, hk, h⟩ := bind_ok.mp h
      obtain ⟨keyId, hkey, h⟩ := bind_ok.mp h
      obtain ⟨algorithmText, hg, h⟩ := bind_ok.mp h
      obtain ⟨algorithm, halgorithm, h⟩ := bind_ok.mp h
      rw [requiredHeader_ok] at hd hi ha hk hg
      rw [Identity.new_ok] at hissuer haudience hkey
      rw [fromWireStr_ok] at halgorithm
      split at h
      · rename_i accepted
        cases h
        subst same hissuer haudience hkey halgorithm
        exact ⟨⟨hd, hi, ha, hk, hg⟩, rfl, accepted⟩
      · cases h
    · cases h
  · rintro ⟨⟨hd, hi, ha, hk, hg⟩, rfl, accepted⟩
    refine bind_ok.mpr ⟨_, requiredHeader_ok.mpr hd, ?_⟩
    rw [if_pos rfl]
    refine bind_ok.mpr ⟨_, requiredHeader_ok.mpr hi, bind_ok.mpr ⟨_, Identity.new_ok.mpr rfl, ?_⟩⟩
    refine bind_ok.mpr ⟨_, requiredHeader_ok.mpr ha, bind_ok.mpr ⟨_, Identity.new_ok.mpr rfl, ?_⟩⟩
    refine bind_ok.mpr ⟨_, requiredHeader_ok.mpr hk, bind_ok.mpr ⟨_, Identity.new_ok.mpr rfl, ?_⟩⟩
    refine bind_ok.mpr ⟨_, requiredHeader_ok.mpr hg, bind_ok.mpr ⟨_, fromWireStr_ok.mpr rfl, ?_⟩⟩
    rw [if_pos accepted]

theorem Announces.of_headers {e f : Envelope} {b : CanonicalBinding}
    (same : ∀ key, isReservedHeader key = true → e.header key = f.header key)
    (h : Announces e b) : Announces f b where
  destination := (same _ (by decide)).symm.trans h.destination
  issuer := (same _ (by decide)).symm.trans h.issuer
  audience := (same _ (by decide)).symm.trans h.audience
  keyId := (same _ (by decide)).symm.trans h.keyId
  algorithm := (same _ (by decide)).symm.trans h.algorithm

theorem Announces.unique {e : Envelope} {b c : CanonicalBinding} (hb : Announces e b)
    (hc : Announces e c) : b = c := by
  have issuer := Option.some.inj (hb.issuer.symm.trans hc.issuer)
  have audience := Option.some.inj (hb.audience.symm.trans hc.audience)
  have keyId := Option.some.inj (hb.keyId.symm.trans hc.keyId)
  cases b
  cases c
  simp only [CanonicalBinding.mk.injEq, and_true]
  exact ⟨Option.some.inj (hb.destination.symm.trans hc.destination),
    Identity.ext_asStr (congrArg utf8 issuer), Identity.ext_asStr (congrArg utf8 audience),
    Identity.ext_asStr (congrArg utf8 keyId)⟩

section Signing

variable (P : Primitives SigningKey VerifyingKey Signature)

theorem sign_ok {signer : EnvelopeSigner SigningKey} {e : Envelope} {context : SigningContext}
    {headers : SecurityHeaders} :
    signer.sign P e context = .ok headers ↔
      ∃ keyId handle representation, signer.currentSigningKey = .ok (keyId, handle) ∧
        canonicalRepresentation P.sha256 e (signer.binding context keyId) = .ok representation ∧
        headers = securityHeaders P (signer.binding context keyId)
          (P.sign handle representation) := by
  constructor
  · intro h
    obtain ⟨⟨keyId, handle⟩, hk, h⟩ := bind_ok.mp h
    obtain ⟨representation, hr, h⟩ := bind_ok.mp h
    cases h
    exact ⟨keyId, handle, representation, mapError_ok.mp hk, hr, rfl⟩
  · rintro ⟨keyId, handle, representation, hk, hr, rfl⟩
    refine bind_ok.mpr ⟨(keyId, handle), mapError_ok.mpr hk, ?_⟩
    exact bind_ok.mpr ⟨representation, hr, rfl⟩

theorem decodeSignature_ok {raw : String} {signature : Signature} :
    decodeSignature P raw = .ok signature ↔
      (P.decodeBase64 raw).bind P.fromSlice = some signature := by
  unfold decodeSignature
  cases (P.decodeBase64 raw).bind P.fromSlice <;> simp

theorem resolveKey_ok {config : EnvelopeSecurityConfig}
    {verificationKey : Issuer → KeyId → Except KeySourceError VerifyingKey} {now : ℕ}
    {state : RefreshState} {issuer : Issuer} {keyId : KeyId} {key : VerifyingKey} :
    (resolveKey config verificationKey now state issuer keyId).1 = .ok key ↔
      verificationKey issuer keyId = .ok key := by
  unfold resolveKey
  rcases verificationKey issuer keyId with error | found
  · cases error <;> simp
  · simp

theorem checkSignature_ok {e : Envelope} {b : CanonicalBinding} {signature : Signature}
    {key : VerifyingKey} {verdict : Option VerifiedPrincipal} :
    checkSignature P e b signature key = .ok verdict ↔
      ∃ representation, canonicalRepresentation P.sha256 e b = .ok representation ∧
        P.verify key representation signature = true ∧
        verdict = some ⟨b.issuer, b.audience, b.keyId, b.algorithm⟩ := by
  unfold checkSignature
  rw [bind_ok]
  apply exists_congr
  intro representation
  apply and_congr_right
  intro _
  by_cases h : P.verify key representation signature = true
  · rw [if_pos h]
    simp only [Except.ok.injEq, h, true_and]
    exact eq_comm
  · rw [if_neg h]
    simp [h]

/-- What a returned principal stands for, and all that is needed to get one. -/
structure Verified (verifier : EnvelopeVerifier VerifyingKey) (e : Envelope)
    (b : CanonicalBinding) (raw : String) (signature : Signature) (key : VerifyingKey)
    (representation : Bytes) : Prop where
  carried : e.header signatureHeader = some raw
  announces : Announces e b
  accepted : b.audience ∈ verifier.config.acceptedAudiences
  decoded : (P.decodeBase64 raw).bind P.fromSlice = some signature
  known : verifier.verificationKey b.issuer b.keyId = .ok key
  represented : canonicalRepresentation P.sha256 e b = .ok representation
  verifies : P.verify key representation signature = true

def CanonicalBinding.principal (b : CanonicalBinding) : VerifiedPrincipal where
  issuer := b.issuer
  audience := b.audience
  keyId := b.keyId
  algorithm := b.algorithm

theorem verify_some {verifier : EnvelopeVerifier VerifyingKey} {now : ℕ} {state : RefreshState}
    {e : Envelope} {destination : String} {p : VerifiedPrincipal} :
    (verifier.verify P now state e destination).1 = .ok (some p) ↔
      ∃ b raw signature key representation, b.destination = destination ∧
        CanonicalBinding.principal b = p ∧
        Verified P verifier e b raw signature key representation := by
  unfold EnvelopeVerifier.verify
  cases hraw : e.header signatureHeader with
  | none =>
    constructor
    · intro h
      cases hp : verifier.config.policy <;> simp [hp] at h
    · rintro ⟨b, raw, signature, key, representation, _, _, v⟩
      rw [v.carried] at hraw
      cases hraw
  | some raw =>
    constructor
    · intro h
      dsimp only at h
      split at h
      · cases h
      · rename_i binding signature hannounced
        obtain ⟨b, hb, hrest⟩ := bind_ok.mp hannounced
        obtain ⟨s, hs, hpair⟩ := bind_ok.mp hrest
        cases hpair
        obtain ⟨key, hkey, hcheck⟩ := bind_ok.mp h
        obtain ⟨announces, hd, accepted⟩ := announcedBinding_ok.mp hb
        obtain ⟨representation, hr, hv, hp⟩ := (checkSignature_ok P).mp hcheck
        exact ⟨binding, raw, signature, key, representation, hd, (Option.some.inj hp).symm,
          ⟨hraw, announces, accepted, (decodeSignature_ok P).mp hs, resolveKey_ok.mp hkey, hr, hv⟩⟩
    · rintro ⟨b, raw', signature, key, representation, hd, rfl, v⟩
      obtain rfl : raw' = raw := Option.some.inj (v.carried.symm.trans hraw)
      have hannounced : (do
          let binding ← announcedBinding verifier.config e destination
          let signature ← decodeSignature P raw'
          return (binding, signature)) = Except.ok (b, signature) :=
        bind_ok.mpr ⟨b, announcedBinding_ok.mpr ⟨v.announces, hd, v.accepted⟩,
          bind_ok.mpr ⟨signature, (decodeSignature_ok P).mpr v.decoded, rfl⟩⟩
      dsimp only
      rw [hannounced]
      exact bind_ok.mpr ⟨key, resolveKey_ok.mpr v.known,
        (checkSignature_ok P).mpr ⟨representation, v.represented, v.verifies, rfl⟩⟩

end Signing

/-- A signature verifies on the bytes it was made for and on no others. -/
def VerifiesExactly (P : Primitives SigningKey VerifyingKey Signature) : Prop :=
  ∀ key message other signature, P.verify key message signature = true →
    P.verify key other signature = true → message = other

section Headers

variable {P : Primitives SigningKey VerifyingKey Signature}
  {verifier : EnvelopeVerifier VerifyingKey} {e e' : Envelope} {b b' : CanonicalBinding}
  {raw raw' : String}
  {signature signature' : Signature} {key key' : VerifyingKey} {bytes bytes' : Bytes}

theorem Verified.of_same (h : SameEnvelope e e')
    (v : Verified P verifier e b raw signature key bytes) :
    Verified P verifier e' b raw signature key bytes := by
  have headers : ∀ name, isReservedHeader name = true → e.header name = e'.header name := by
    intro name reserved
    rw [header_of_reserved reserved, header_of_reserved reserved, h.protocolHeaders]
  exact ⟨(headers _ (by decide)).symm.trans v.carried, v.announces.of_headers headers, v.accepted,
    v.decoded, v.known, (canonicalRepresentation_of_same P.sha256 h b).symm.trans v.represented,
    v.verifies⟩

theorem Verified.same_headers (exactly : VerifiesExactly P)
    (headers : ∀ name, isReservedHeader name = true → e.header name = e'.header name)
    (v : Verified P verifier e b raw signature key bytes)
    (v' : Verified P verifier e' b' raw' signature' key' bytes') :
    b = b' ∧ (coveredHeaders e).Perm (coveredHeaders e') := by
  obtain rfl : b = b' := (v.announces.of_headers headers).unique v'.announces
  obtain rfl : raw = raw' :=
    Option.some.inj ((v.carried.symm.trans (headers _ (by decide))).trans v'.carried)
  obtain rfl : signature = signature' := Option.some.inj (v.decoded.symm.trans v'.decoded)
  obtain rfl : key = key' := Except.ok.inj (v.known.symm.trans v'.known)
  obtain rfl : bytes = bytes' := exactly _ _ _ _ v.verifies v'.verifies
  exact ⟨rfl, coveredHeaders_of_equal_bytes v.represented v'.represented⟩

end Headers

/-! ## One key pair and one signed message -/

def sampleMessage : Bytes :=
  match canonicalRepresentation sampleSha256 sampleEnvelope sampleBinding with
  | .ok message => message
  | .error _ => []

/-- The Ed25519 public key of the seed whose 32 bytes are all one. -/
def sampleVerifyingKey : Bytes :=
  [138, 136, 227, 221, 116, 9, 241, 149, 253, 82, 219, 45, 60, 186, 93, 114, 202, 103, 9, 191,
   29, 148, 18, 27, 243, 116, 136, 1, 180, 15, 111, 92]

def sampleSignature : Bytes :=
  [74, 10, 227, 89, 123, 181, 136, 167, 154, 57, 87, 241, 108, 231, 197, 157, 35, 76, 157, 214,
   236, 68, 41, 77, 116, 28, 112, 231, 207, 28, 104, 110, 235, 0, 136, 155, 135, 144, 168, 117,
   44, 81, 55, 46, 74, 155, 170, 33, 126, 199, 20, 98, 9, 202, 179, 68, 74, 253, 106, 205, 93,
   173, 119, 12]

def sampleSignatureText : String :=
  "SgrjWXu1iKeaOVfxbOfFnSNMndbsRClNdBxw588caG7rAIibh5CodSxRNy5Km6ohfscUYgnKs0RK_WrNXa13DA"

def widen (b : UInt8) : Char := Char.ofNat (256 + b.toNat)

/-- The real values on the sample message, and an injective continuation elsewhere. -/
def samplePrimitives : Primitives Unit Bytes Bytes where
  sha256 := sampleSha256
  verifyingKey _ := sampleVerifyingKey
  sign _ message := if message = sampleMessage then sampleSignature else 0 :: message
  verify key message signature := key == sampleVerifyingKey &&
    signature == (if message = sampleMessage then sampleSignature else 0 :: message)
  toBytes := id
  fromSlice := some
  encodeBase64 bytes :=
    if bytes = sampleSignature then sampleSignatureText else String.ofList (bytes.map widen)
  decodeBase64 text :=
    if text = sampleSignatureText then some sampleSignature
    else some (text.toList.map fun c => UInt8.ofNat c.toNat)

theorem toNat_widen (b : UInt8) : (widen b).toNat = 256 + b.toNat := by
  have table : ∀ n < 256, (Char.ofNat (256 + n)).toNat = 256 + n := by decide +kernel
  exact table b.toNat b.toNat_lt

theorem ofList_widen_ne (bytes : Bytes) :
    String.ofList (bytes.map widen) ≠ sampleSignatureText := by
  intro h
  have chars : bytes.map widen = sampleSignatureText.toList := by
    rw [← h, String.toList_ofList]
  cases bytes with
  | nil => exact absurd chars (by decide)
  | cons b rest =>
    have first : widen b = 'S' := (List.cons.inj chars).1
    have := toNat_widen b
    rw [first] at this
    have : ('S').toNat = 83 := rfl
    omega

theorem samplePrimitives_lawful : samplePrimitives.Lawful where
  verify_sign _ _ := by simp [samplePrimitives]
  fromSlice_toBytes _ := rfl
  decodeBase64_encodeBase64 bytes := by
    simp only [samplePrimitives]
    by_cases h : bytes = sampleSignature
    · simp [h]
    · have back : ∀ b : UInt8, UInt8.ofNat (widen b).toNat = b := by
        intro b
        rw [toNat_widen, UInt8.ofNat_add, UInt8.ofNat_toNat]
        exact UInt8.zero_add b
      rw [if_neg h, if_neg (ofList_widen_ne bytes), String.toList_ofList, List.map_map]
      congr 1
      exact (List.map_congr_left fun b _ => back b).trans (List.map_id bytes)

end BusEnvelopeSecurity
