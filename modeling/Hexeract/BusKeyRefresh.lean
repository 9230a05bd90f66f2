import Hexeract.LibraryMachines
import Hexeract.BusEnvelopeSecurity

/-! # How often concurrent verifications refresh the key source

Any number of verifications share one verifier. Each runs alone up to its next await; there
others run, or it is cancelled for good. The decision to refresh is made under a lock, from
one reading of the monotonic clock, and the refresh itself after the lock is released. -/
namespace BusKeyRefresh

open LibraryCollections LibraryMachines StdTime BusErrors BusEnvelope BusEnvelopeCanonical
  BusEnvelopeSecurity

/-! ## The configuration -/

structure EnvelopeSecurityConfigBuilder where
  policy : VerificationPolicy := .required
  acceptedAudiences : List Audience := []
  keyRefreshInterval : Duration := Duration.fromSecs 30

def EnvelopeSecurityConfigBuilder.build (builder : EnvelopeSecurityConfigBuilder) :
    Except EnvelopeSecurityError EnvelopeSecurityConfig :=
  if builder.policy = .required ∧ builder.acceptedAudiences = [] then
    .error (.missingRequiredField "accepted_audiences")
  else if builder.keyRefreshInterval.nanos = 0 then
    .error (.invalidConfiguration "key_refresh_interval")
  else
    .ok { policy := builder.policy, acceptedAudiences := builder.acceptedAudiences,
          keyRefreshInterval := builder.keyRefreshInterval }

theorem keyRefreshInterval_pos {builder : EnvelopeSecurityConfigBuilder}
    {config : EnvelopeSecurityConfig} (built : builder.build = .ok config) :
    0 < config.keyRefreshInterval.nanos := by
  unfold EnvelopeSecurityConfigBuilder.build at built
  split_ifs at built with _ zero
  cases built
  exact Nat.pos_of_ne_zero zero

/-! ## The machine -/

section Machine

variable {SigningKey VerifyingKey Signature : Type} {ι : Type*} [DecidableEq ι]

/-- Where one verification stands. From `locked` to the end of the decision it does not
await, so it can only be suspended, not cancelled. -/
inductive Phase (Signature : Type) where
  | idle
  | lookingUp (envelope : Envelope) (binding : CanonicalBinding) (signature : Signature)
  | waiting
  | locked
  | read (now : ℕ)
  | refreshing
  | finished (result : Except EnvelopeSecurityError (Option VerifiedPrincipal))
  | cancelled

def announced (P : Primitives SigningKey VerifyingKey Signature) (config : EnvelopeSecurityConfig)
    (envelope : Envelope) (destination raw : String) :
    Except EnvelopeSecurityError (CanonicalBinding × Signature) := do
  let binding ← announcedBinding config envelope destination
  let signature ← decodeSignature P raw
  return (binding, signature)

/-- The part of `verify` before its first await. -/
def Phase.begin (P : Primitives SigningKey VerifyingKey Signature)
    (config : EnvelopeSecurityConfig) (envelope : Envelope) (destination : String) :
    Phase Signature :=
  match envelope.header signatureHeader with
  | none =>
    match config.policy with
    | .required => .finished (.error .missingSignature)
    | .allowInsecureUnauthenticatedEnvelopes => .finished (.ok none)
  | some raw =>
    match announced P config envelope destination raw with
    | .error error => .finished (.error error)
    | .ok (binding, signature) => .lookingUp envelope binding signature

def Phase.answered (P : Primitives SigningKey VerifyingKey Signature)
    (answer : Except KeySourceError VerifyingKey) : Phase Signature → Phase Signature
  | .lookingUp envelope binding signature =>
    match answer with
    | .ok key => .finished (checkSignature P envelope binding signature key)
    | .error .revokedKey => .finished (.error .revokedKey)
    | .error .unknownKey => .waiting
    | .error error => .finished (.error (.keySource error))
  | phase => phase

def Phase.isIdle : Phase Signature → Bool
  | .idle => true
  | _ => false

def Phase.isLookingUp : Phase Signature → Bool
  | .lookingUp .. => true
  | _ => false

def Phase.isWaiting : Phase Signature → Bool
  | .waiting => true
  | _ => false

def Phase.isLocked : Phase Signature → Bool
  | .locked => true
  | _ => false

def Phase.hasRead : Phase Signature → Bool
  | .read _ => true
  | _ => false

def Phase.isRefreshing : Phase Signature → Bool
  | .refreshing => true
  | _ => false

def Phase.awaits (phase : Phase Signature) : Bool :=
  phase.isLookingUp || phase.isWaiting || phase.isRefreshing

/-- `decided` lists the refreshes decided so far: by which verification, and on which
reading of the clock. -/
structure State (ι : Type*) (Signature : Type) where
  now : ℕ
  shared : RefreshState
  owner : Option ι
  tasks : ι → Phase Signature
  decided : List (ι × ℕ)

def State.new (now : ℕ) : State ι Signature := ⟨now, ⟨none, 0⟩, none, fun _ => .idle, []⟩

def isDue (config : EnvelopeSecurityConfig) (now : ℕ) (shared : RefreshState) : Bool :=
  shared.lastRefresh.all fun previous => config.keyRefreshInterval.nanos ≤ now - previous

def State.move (s : State ι Signature) (i : ι) (phase : Phase Signature) : State ι Signature :=
  { s with tasks := Function.update s.tasks i phase }

/-- The end of the critical section of `refresh_if_due`. -/
def State.settle (config : EnvelopeSecurityConfig) (s : State ι Signature) (i : ι) (now : ℕ) :
    State ι Signature :=
  if isDue config now s.shared then
    { s.move i .refreshing with
      owner := none
      shared := refreshIfDue config now s.shared
      decided := s.decided ++ [(i, now)] }
  else { s.move i (.finished (.error .unknownKey)) with owner := none }

inductive Event (ι : Type*) (VerifyingKey : Type) where
  | start (i : ι) (envelope : Envelope) (destination : String)
  | answer (i : ι) (answer : Except KeySourceError VerifyingKey)
  | acquire (i : ι)
  | read (i : ι)
  | settle (i : ι)
  | refreshed (i : ι)
  | cancel (i : ι)
  | tick (later : ℕ)

def Enabled (s : State ι Signature) : Event ι VerifyingKey → Prop
  | .start i _ _ => (s.tasks i).isIdle = true
  | .answer i _ => (s.tasks i).isLookingUp = true
  | .acquire i => (s.tasks i).isWaiting = true ∧ s.owner = none
  | .read i => (s.tasks i).isLocked = true
  | .settle i => (s.tasks i).hasRead = true
  | .refreshed i => (s.tasks i).isRefreshing = true
  | .cancel i => (s.tasks i).awaits = true
  | .tick later => s.now ≤ later

instance (s : State ι Signature) (e : Event ι VerifyingKey) : Decidable (Enabled s e) := by
  cases e <;> simp only [Enabled] <;> infer_instance

def next (P : Primitives SigningKey VerifyingKey Signature) (config : EnvelopeSecurityConfig)
    (s : State ι Signature) : Event ι VerifyingKey → State ι Signature
  | .start i envelope destination => s.move i (Phase.begin P config envelope destination)
  | .answer i answer => s.move i ((s.tasks i).answered P answer)
  | .acquire i => { s.move i .locked with owner := some i }
  | .read i => s.move i (.read s.now)
  | .settle i =>
    match s.tasks i with
    | .read now => s.settle config i now
    | _ => s
  -- the outcome of the refresh is only logged
  | .refreshed i => s.move i (.finished (.error .unknownKey))
  | .cancel i => s.move i .cancelled
  | .tick later => { s with now := later }

def machine (P : Primitives SigningKey VerifyingKey Signature) (config : EnvelopeSecurityConfig) :
    Machine (State ι Signature) (Event ι VerifyingKey) where
  enabled := Enabled
  next := next P config

end Machine

/-! ## Undisturbed verifications -/

section Alone

variable {SigningKey VerifyingKey Signature : Type} {ι : Type*} [DecidableEq ι]
  (P : Primitives SigningKey VerifyingKey Signature) {s : State ι Signature} {i : ι}

theorem refreshIfDue_of_not_due {config : EnvelopeSecurityConfig} {now : ℕ}
    {shared : RefreshState} (notDue : ¬ isDue config now shared = true) :
    refreshIfDue config now shared = shared :=
  if_neg notDue

theorem alone_refreshIfDue (config : EnvelopeSecurityConfig) (waits : s.tasks i = .waiting)
    (free : s.owner = none) :
    ∃ events : List (Event ι VerifyingKey), (machine P config).Allowed s events ∧
      ((machine P config).run s events).tasks i = .finished (.error .unknownKey) ∧
      ((machine P config).run s events).shared = refreshIfDue config s.now s.shared := by
  by_cases due : isDue config s.now s.shared = true
  · refine ⟨[.acquire i, .read i, .settle i, .refreshed i], ?_, ?_, ?_⟩
    all_goals simp [machine, Machine.Allowed, Enabled, next, State.move, State.settle, due, waits,
      free, Phase.isWaiting, Phase.isLocked, Phase.hasRead, Phase.isRefreshing]
  · refine ⟨[.acquire i, .read i, .settle i], ?_, ?_, ?_⟩
    all_goals simp [machine, Machine.Allowed, Enabled, next, State.move, State.settle, due, waits,
      free, Phase.isWaiting, Phase.isLocked, Phase.hasRead, refreshIfDue_of_not_due due]

theorem verify_of_begin (verifier : EnvelopeVerifier VerifyingKey) (envelope : Envelope)
    (destination : String) :
    (∃ result, Phase.begin P verifier.config envelope destination = .finished result ∧
      ∀ now shared, verifier.verify P now shared envelope destination = (result, shared)) ∨
    ∃ binding signature,
      Phase.begin P verifier.config envelope destination =
        .lookingUp envelope binding signature ∧
      ∀ now shared, verifier.verify P now shared envelope destination =
        let resolved := resolveKey verifier.config verifier.verificationKey now shared
          binding.issuer binding.keyId
        (resolved.1.bind (checkSignature P envelope binding signature), resolved.2) := by
  unfold Phase.begin EnvelopeVerifier.verify
  cases envelope.header signatureHeader with
  | none => cases verifier.config.policy <;> exact Or.inl ⟨_, rfl, fun _ _ => rfl⟩
  | some raw =>
    have read : (do
        let binding ← announcedBinding verifier.config envelope destination
        let signature ← decodeSignature P raw
        return (binding, signature)) = announced P verifier.config envelope destination raw := rfl
    simp only [read]
    rcases announced P verifier.config envelope destination raw with error | ⟨binding, signature⟩
    · exact Or.inl ⟨_, rfl, fun _ _ => rfl⟩
    · exact Or.inr ⟨binding, signature, rfl, fun _ _ => rfl⟩

/-- Run without anyone in between, a verification returns what `verify` returns and leaves
the shared state `verify` leaves. -/
theorem alone_verify (verifier : EnvelopeVerifier VerifyingKey) (envelope : Envelope)
    (destination : String) (idle : s.tasks i = .idle) (free : s.owner = none) :
    ∃ events : List (Event ι VerifyingKey),
      (machine P verifier.config).Allowed s events ∧
      ((machine P verifier.config).run s events).tasks i =
        .finished (verifier.verify P s.now s.shared envelope destination).1 ∧
      ((machine P verifier.config).run s events).shared =
        (verifier.verify P s.now s.shared envelope destination).2 := by
  have starts : Enabled s (.start i envelope destination : Event ι VerifyingKey) := by
    rw [Enabled, idle]
    rfl
  rcases verify_of_begin P verifier envelope destination with
    ⟨result, ended, verdict⟩ | ⟨binding, signature, looksUp, verdict⟩
  · rw [verdict]
    refine ⟨[.start i envelope destination], ⟨starts, trivial⟩, ?_, rfl⟩
    simp [machine, next, State.move, ended]
  · rw [verdict]
    let asked := (machine P verifier.config).run s [.start i envelope destination,
      .answer i (verifier.verificationKey binding.issuer binding.keyId)]
    have stands : asked.tasks i = (Phase.lookingUp envelope binding signature).answered P
        (verifier.verificationKey binding.issuer binding.keyId) := by
      simp [asked, machine, next, State.move, looksUp]
    have answers : (machine P verifier.config).Allowed s [.start i envelope destination,
        .answer i (verifier.verificationKey binding.issuer binding.keyId)] := by
      refine ⟨starts, ?_, trivial⟩
      simp [machine, Enabled, next, State.move, looksUp, Phase.isLookingUp]
    unfold resolveKey
    rcases answer : verifier.verificationKey binding.issuer binding.keyId with error | key
    · cases error with
      | unknownKey =>
        rw [answer] at stands
        obtain ⟨events, allowed, finished, shared⟩ :=
          alone_refreshIfDue P verifier.config (s := asked) stands free
        exact ⟨_ ++ events, allowed_append.mpr ⟨answers, allowed⟩,
          by rw [run_append]; exact finished, by rw [run_append]; exact shared⟩
      | revokedKey => exact ⟨_, answers, by rw [answer] at stands; exact stands, rfl⟩
      | unavailable source => exact ⟨_, answers, by rw [answer] at stands; exact stands, rfl⟩
      | missingSigningKey => exact ⟨_, answers, by rw [answer] at stands; exact stands, rfl⟩
    · exact ⟨_, answers, by rw [answer] at stands; exact stands, rfl⟩

end Alone

/-! ## Decisions are an interval apart -/

section Limit

variable {SigningKey VerifyingKey Signature : Type} {ι : Type*} [DecidableEq ι]
  {P : Primitives SigningKey VerifyingKey Signature} {config : EnvelopeSecurityConfig}
  {s : State ι Signature}

def Phase.inSection (phase : Phase Signature) : Bool := phase.isLocked || phase.hasRead

def Phase.hasDecided : Phase Signature → Bool
  | .refreshing | .finished (.error .unknownKey) | .cancelled => true
  | _ => false

/-- What holds of a verifier at any point of any interleaving. The reading in the critical
section is no older than the last decision, because only the owner of the lock decides. -/
structure Limited (config : EnvelopeSecurityConfig) (s : State ι Signature) : Prop where
  holder : ∀ i, (s.tasks i).inSection = true → s.owner = some i
  reading : ∀ i now, s.tasks i = .read now →
    now ≤ s.now ∧ ∀ last ∈ s.shared.lastRefresh, last ≤ now
  past : ∀ last ∈ s.shared.lastRefresh, last ≤ s.now
  recorded : ∀ d ∈ s.decided, ∃ last ∈ s.shared.lastRefresh, d.2 ≤ last
  spaced : (s.decided.map Prod.snd).Pairwise fun a b => a + config.keyRefreshInterval.nanos ≤ b
  counted : s.shared.refreshes = s.decided.length
  settled : ∀ d ∈ s.decided, (s.tasks d.1).hasDecided = true

theorem not_hasDecided {phase : Phase Signature}
    (early : phase.isIdle = true ∨ phase.isLookingUp = true ∨ phase.isWaiting = true ∨
      phase.isLocked = true) : ¬ phase.hasDecided = true := by
  intro decided
  rcases early with h | h | h | h <;> cases phase <;>
    first | (cases h; done) | cases decided

omit [DecidableEq ι] in
theorem limited_new (now : ℕ) : Limited config (State.new now : State ι Signature) where
  holder i inside := by cases inside
  reading i now read := by cases read
  past last some := by cases some
  recorded d mem := by cases mem
  spaced := List.Pairwise.nil
  counted := rfl
  settled d mem := by cases mem

theorem inSection_begin (envelope : Envelope) (destination : String) :
    (Phase.begin P config envelope destination).inSection = false := by
  unfold Phase.begin
  split
  · split <;> rfl
  · split <;> rfl

theorem inSection_answered {phase : Phase Signature} {answer : Except KeySourceError VerifyingKey}
    (looksUp : phase.isLookingUp = true) : (phase.answered P answer).inSection = false := by
  cases phase <;> cases looksUp
  rcases answer with error | key
  · cases error <;> rfl
  · rfl

omit [DecidableEq ι] in
theorem Limited.alone (limited : Limited config s) {i j : ι}
    (inside : (s.tasks i).inSection = true) (other : (s.tasks j).inSection = true) : j = i :=
  Option.some.inj ((limited.holder j other).symm.trans (limited.holder i inside))

/-- One verification moves, and may take or release the lock. -/
theorem Limited.replace (limited : Limited config s) {i : ι} {phase : Phase Signature}
    {owner : Option ι} (holds : phase.inSection = true → owner = some i)
    (others : ∀ j ≠ i, (s.tasks j).inSection = true → owner = some j)
    (reads : ∀ now, phase = .read now → now ≤ s.now ∧ ∀ last ∈ s.shared.lastRefresh, last ≤ now)
    (remembers : (s.tasks i).hasDecided = true → phase.hasDecided = true) :
    Limited config { s.move i phase with owner := owner } where
  holder j inside := by
    by_cases same : j = i
    · subst same
      exact holds (by simpa [State.move] using inside)
    · exact others j same (by simpa [State.move, same] using inside)
  reading j now read := by
    by_cases same : j = i
    · subst same
      exact reads now (by simpa [State.move] using read)
    · exact limited.reading j now (by simpa [State.move, same] using read)
  past := limited.past
  recorded := limited.recorded
  spaced := limited.spaced
  counted := limited.counted
  settled d mem := by
    have decided := limited.settled d mem
    by_cases same : d.1 = i
    · subst same
      simpa [State.move] using remembers decided
    · simpa [State.move, same] using decided

theorem Limited.move (limited : Limited config s) {i : ι} {phase : Phase Signature}
    (outside : phase.inSection = false)
    (remembers : (s.tasks i).hasDecided = true → phase.hasDecided = true) :
    Limited config (s.move i phase) := by
  refine limited.replace (fun inside => ?_) (fun j _ => limited.holder j) (fun now read => ?_)
    remembers
  · rw [outside] at inside
    cases inside
  · subst read
    cases outside

theorem Limited.acquire (limited : Limited config s) {i : ι}
    (waits : (s.tasks i).isWaiting = true) (free : s.owner = none) :
    Limited config { s.move i .locked with owner := some i } := by
  refine limited.replace (fun _ => rfl) (fun j _ inside => ?_) (fun now read => ?_)
    fun decided => ?_
  · have owned := limited.holder j inside
    rw [free] at owned
    cases owned
  · cases read
  · exact absurd decided (not_hasDecided (Or.inr (Or.inr (Or.inl waits))))

theorem Limited.read (limited : Limited config s) {i : ι} (locked : (s.tasks i).isLocked = true) :
    Limited config (s.move i (.read s.now)) := by
  have inside : (s.tasks i).inSection = true := by rw [Phase.inSection, locked, Bool.true_or]
  refine limited.replace (fun _ => limited.holder i inside) (fun j _ => limited.holder j)
    (fun now read => ?_) fun decided => ?_
  · cases read
    exact ⟨le_rfl, limited.past⟩
  · exact absurd decided (not_hasDecided (Or.inr (Or.inr (Or.inr locked))))

theorem Limited.release (limited : Limited config s) {i : ι} {phase : Phase Signature}
    (inside : (s.tasks i).inSection = true) (decided : phase.hasDecided = true) :
    Limited config { s.move i phase with owner := none } := by
  have outside : phase.inSection = false := by
    cases phase <;> first | rfl | cases decided
  refine limited.replace (fun again => ?_) (fun j other again => ?_) (fun now read => ?_)
    fun _ => decided
  · rw [outside] at again
    cases again
  · exact absurd (limited.alone inside again) other
  · subst read
    cases decided

theorem isDue_some {config : EnvelopeSecurityConfig} {now : ℕ} {shared : RefreshState}
    (due : isDue config now shared = true) {last : ℕ} (previous : last ∈ shared.lastRefresh)
    (order : last ≤ now) : last + config.keyRefreshInterval.nanos ≤ now := by
  rw [isDue, previous, Option.all_some, decide_eq_true_eq] at due
  omega

omit [DecidableEq ι] in
theorem Limited.record (limited : Limited config s) {i : ι} {now : ℕ} (free : s.owner = none)
    (decided : (s.tasks i).hasDecided = true) (read : now ≤ s.now)
    (fresh : ∀ last ∈ s.shared.lastRefresh, last ≤ now) (due : isDue config now s.shared = true) :
    Limited config { s with
      shared := refreshIfDue config now s.shared, decided := s.decided ++ [(i, now)] } := by
  have stored : refreshIfDue config now s.shared = ⟨some now, s.shared.refreshes + 1⟩ :=
    if_pos due
  have latest : ∀ last ∈ (some now : Option ℕ), last = now := fun last mem =>
    (Option.some.inj mem).symm
  constructor
  case holder => exact limited.holder
  case reading =>
    intro j reading stands
    have owned := limited.holder j (by
      change s.tasks j = .read reading at stands
      rw [stands]
      rfl)
    rw [free] at owned
    cases owned
  case past =>
    intro last mem
    rw [stored] at mem
    rw [latest last mem]
    exact read
  case recorded =>
    intro d mem
    rw [stored]
    refine ⟨now, rfl, ?_⟩
    rcases List.mem_append.mp mem with old | new
    · obtain ⟨last, previous, before⟩ := limited.recorded d old
      exact before.trans (fresh last previous)
    · rw [List.mem_singleton.mp new]
  case spaced =>
    rw [List.map_append, List.map_singleton, List.pairwise_append]
    refine ⟨limited.spaced, List.pairwise_singleton _ _, fun a old b new => ?_⟩
    rw [List.mem_singleton.mp new]
    obtain ⟨d, mem, rfl⟩ := List.mem_map.mp old
    obtain ⟨last, previous, before⟩ := limited.recorded d mem
    exact (Nat.add_le_add_right before _).trans (isDue_some due previous (fresh last previous))
  case counted =>
    rw [stored, List.length_append, ← limited.counted]
    rfl
  case settled =>
    intro d mem
    rcases List.mem_append.mp mem with old | new
    · exact limited.settled d old
    · rw [List.mem_singleton.mp new]
      exact decided

theorem Limited.settle (limited : Limited config s) {i : ι} {now : ℕ}
    (stands : s.tasks i = .read now) : Limited config (s.settle config i now) := by
  have inside : (s.tasks i).inSection = true := by
    rw [stands]
    rfl
  unfold State.settle
  split_ifs with due
  · have released : Limited config { s.move i .refreshing with owner := none } :=
      limited.release inside rfl
    exact released.record rfl (by simp [State.move, Phase.hasDecided])
      (limited.reading i now stands).1 (limited.reading i now stands).2 due
  · exact limited.release inside rfl

omit [DecidableEq ι] in
theorem Limited.tick (limited : Limited config s) {later : ℕ} (forward : s.now ≤ later) :
    Limited config { s with now := later } where
  holder := limited.holder
  reading i now read := ⟨(limited.reading i now read).1.trans forward,
    (limited.reading i now read).2⟩
  past last mem := (limited.past last mem).trans forward
  recorded := limited.recorded
  spaced := limited.spaced
  counted := limited.counted
  settled := limited.settled

theorem Limited.step (limited : Limited config s) {e : Event ι VerifyingKey} (h : Enabled s e) :
    Limited config (next P config s e) := by
  cases e with
  | start i envelope destination =>
    exact limited.move (inSection_begin envelope destination) fun decided =>
      absurd decided (not_hasDecided (Or.inl h))
  | answer i answer =>
    exact limited.move (inSection_answered h) fun decided =>
      absurd decided (not_hasDecided (Or.inr (Or.inl h)))
  | acquire i => exact limited.acquire h.1 h.2
  | read i => exact limited.read h
  | settle i =>
    cases stands : s.tasks i <;> rw [Enabled, stands] at h <;> cases h
    simp only [next, stands]
    exact limited.settle stands
  | refreshed i => exact limited.move rfl fun _ => rfl
  | cancel i => exact limited.move rfl fun _ => rfl
  | tick later => exact limited.tick h

/-- However the verifications interleave and whichever of them are cancelled, a window of
time holds at most one refresh for each interval it spans and one more; and a refusal for any
reason but an unknown key is of a verification that decided no refresh. -/
theorem refreshes_rate_limited (P : Primitives SigningKey VerifyingKey Signature)
    (builder : EnvelopeSecurityConfigBuilder) (config : EnvelopeSecurityConfig)
    (built : builder.build = .ok config) (clock : ℕ) (events : List (Event ι VerifyingKey))
    (allowed : (machine P config).Allowed (State.new clock) events) (first span : ℕ) :
    (((machine P config).run (State.new clock) events).decided.map Prod.snd).countP
        (fun now => decide (first ≤ now ∧ now ≤ first + span)) ≤
      1 + span / config.keyRefreshInterval.nanos ∧
    ∀ i error, ((machine P config).run (State.new clock) events).tasks i =
        .finished (.error error) → error ≠ .unknownKey →
      ∀ d ∈ ((machine P config).run (State.new clock) events).decided, d.1 ≠ i := by
  have limited : Limited config ((machine P config).run (State.new clock) events) :=
    invariant_of_steps (limited_new clock) (fun _ _ limited h => limited.step h) allowed
  refine ⟨countP_window_le (keyRefreshInterval_pos built) limited.spaced first span, ?_⟩
  rintro i error stands other d mem rfl
  have decided := limited.settled d mem
  rw [stands] at decided
  cases error <;> first | exact other rfl | cases decided

/-- An envelope that announces the sample binding, under a key the source does not know. -/
def forgedEnvelope : Envelope :=
  { sampleEnvelope with
    protocolHeaders := ((((((∅ : HeaderMap).insert signatureHeader "forged").insert
      destinationHeader "orders").insert issuerHeader "billing-service").insert
      audienceHeader "ledger-service").insert keyIdHeader "2026-09").insert
      algorithmHeader "ed25519" }

def floodBuilder : EnvelopeSecurityConfigBuilder :=
  { acceptedAudiences := [sampleBinding.audience] }

/-- Four verifications of it: the first is cancelled while it refreshes, the second comes
before the interval is over, the third observes another destination, the last is due. -/
def flood : List (Event (Fin 4) Bytes) :=
  [.start 0 forgedEnvelope "orders", .start 1 forgedEnvelope "orders",
   .answer 0 (.error .unknownKey), .answer 1 (.error .unknownKey), .acquire 0, .read 0, .settle 0,
   .cancel 0, .tick 29999999999, .acquire 1, .read 1, .settle 1, .tick 30000000000,
   .start 2 forgedEnvelope "refunds", .start 3 forgedEnvelope "orders",
   .answer 3 (.error .unknownKey), .acquire 3, .read 3, .settle 3, .refreshed 3]

theorem refreshes_rate_limited_sample :
    ∃ config, floodBuilder.build = .ok config ∧
      (machine samplePrimitives config).Allowed (State.new 0) flood ∧
      ((machine samplePrimitives config).run (State.new 0) flood).decided =
        [(0, 0), (3, 30000000000)] ∧
      (((machine samplePrimitives config).run (State.new 0) flood).decided.map Prod.snd).countP
          (fun now => decide (0 ≤ now ∧ now ≤ 0 + 30000000000)) ≤
        1 + 30000000000 / config.keyRefreshInterval.nanos ∧
      ∀ d ∈ ((machine samplePrimitives config).run (State.new 0) flood).decided, d.1 ≠ 2 := by
  have allowed : (machine samplePrimitives ⟨.required, [sampleBinding.audience],
      Duration.fromSecs 30⟩).Allowed (State.new 0) flood := by
    simp only [machine]
    decide +kernel
  have limits := refreshes_rate_limited samplePrimitives floodBuilder _ rfl 0 flood allowed
    0 30000000000
  exact ⟨_, rfl, allowed, by decide +kernel, limits.1,
    limits.2 2 .destinationMismatch rfl (by decide)⟩

end Limit

end BusKeyRefresh
