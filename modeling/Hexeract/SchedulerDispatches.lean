import Hexeract.SchedulerWorkers

/-! # Dispatches and leases in time

The builder asks for a lease that covers one dispatch timeout for every occurrence of a
batch. Store operations take no time here: the clock moves on only while every worker sleeps
or waits for its sink, and not past the timeout of a dispatch. Each occurrence of a batch is
then dispatched before its lease ends, and until it ends nobody else can claim the schedule,
unless it has been moved to an instant that lies ahead. -/
namespace SchedulerDispatches

open LibraryCollections LibraryTables LibraryMachines StdTime BusEnvelope SchedulerMessages
open SchedulerMemory SchedulerMemorySteps SchedulerWorker SchedulerWorkers
open SchedulerOccurrences (ControlCall StrictlyAfter callOf)

variable {engine : CronEngine} {n : ℕ}

/-! ## The builder's check -/

theorem require_ok {holds : Bool} {reason : String} :
    SchedulerWorker.require holds reason = .ok () ↔ holds = true := by
  cases holds <;> simp [SchedulerWorker.require]

/-- What the builder has checked, where the batch size fits the type it multiplies with. -/
theorem lease_of_accepted (w : Worker) (fits : w.config.batchSize < 2 ^ 32) :
    0 < w.config.dispatchTimeout.nanos ∧ 0 < w.config.lease.nanos ∧
      w.config.dispatchTimeout.nanos * w.config.batchSize ≤ w.config.lease.nanos := by
  obtain ⟨debug, accepted⟩ := w.accepted
  simp only [SchedulerWorkerConfig.build, check_bind_ok, require_ok, decide_eq_true_eq,
    ne_eq] at accepted
  obtain ⟨_, _, lease, timeout, _, _, covers⟩ := accepted
  refine ⟨Nat.pos_of_ne_zero timeout, Nat.pos_of_ne_zero lease, ?_⟩
  have size : (UInt32.ofNat (min w.config.batchSize (2 ^ 32 - 1))).toNat = w.config.batchSize := by
    rw [UInt32.toNat_ofNat']
    omega
  unfold SchedulerWorkerConfig.requireLease Duration.checkedMul at covers
  split at covers
  · rename_i minimum product
    split at product
    · cases product
      rw [require_ok, decide_eq_true_eq] at covers
      change w.config.dispatchTimeout.nanos * _ ≤ _ at covers
      rwa [size] at covers
    · cases product
  · cases covers

/-! ## Time -/

/-- The clock may reach `later` without the worker taking a step. -/
def Waits (timeout : Duration) (later : SystemTime) : Phase engine → Prop
  | .idle => True
  | .swept => True
  | .dispatching _ began _ => later.nanos ≤ began.nanos + timeout.nanos
  | _ => False

instance (timeout : Duration) (later : SystemTime) :
    (phase : Phase engine) → Decidable (Waits timeout later phase)
  | .idle => isTrue trivial
  | .swept => isTrue trivial
  | .dispatching _ began _ =>
    inferInstanceAs (Decidable (later.nanos ≤ began.nanos + timeout.nanos))
  | .claiming _ => isFalse id
  | .settling _ => isFalse id
  | .answered _ _ _ => isFalse id

/-- Operations of the store and of control take no time, and a dispatch that runs into its
timeout stops there. -/
def Instantaneous (timeout : Duration) (s : State engine n) : Event engine n → Prop
  | .tick later => s.control = [] ∧ ∀ i, Waits timeout later (s.workers i)
  | _ => True

instance (timeout : Duration) (s : State engine n) :
    (e : Event engine n) → Decidable (Instantaneous timeout s e)
  | .tick later =>
    inferInstanceAs (Decidable (s.control = [] ∧ ∀ i, Waits timeout later (s.workers i)))
  | .insert _ _ => isTrue trivial
  | .advance _ _ => isTrue trivial
  | .crash _ => isTrue trivial
  | .pause _ => isTrue trivial
  | .cancel _ => isTrue trivial
  | .resume _ => isTrue trivial
  | .finish _ _ => isTrue trivial

def dispatching (timeout : Duration) (now : SystemTime) :
    Phase engine → Option (LeasedOccurrence engine)
  | .dispatching o began _ => if now.nanos < began.nanos + timeout.nanos then some o else none
  | _ => none

/-! ## Readings are current -/

/-- No time has passed since a worker or control read the clock for what it does next. -/
structure Punctual (s : State engine n) : Prop where
  reading : ∀ i reading, s.workers i = .claiming reading → reading = s.now
  computed : ∀ i o instant, (s.workers i).computed = some (o, instant) → s.now < instant
  control : ∀ k instant, (k, .resume (some instant)) ∈ s.control → s.now < instant

theorem punctual_initial (now : SystemTime) : Punctual (initial now : State engine n) where
  reading := by
    intro i reading stands
    cases stands
  computed := by
    intro i o instant waits
    cases waits
  control := by
    intro k instant mem
    cases mem

section Steps

variable {workers : Fin n → Worker} {timeout : Duration} {s : State engine n}
  {e : Event engine n} {k : Uuid} {before after : StoredSchedule engine}

theorem now_next (workers : Fin n → Worker) (instant : Instantaneous timeout s e) :
    (next workers s e).now = s.now ∨ s.control = [] ∧ (next workers s e).control = [] ∧
      ∀ i, (next workers s e).workers i = s.workers i ∧
        Waits timeout (next workers s e).now (s.workers i) := by
  cases e with
  | tick later => exact .inr ⟨instant.1, instant.1, fun i => ⟨rfl, instant.2 i⟩⟩
  | _ => exact .inl rfl

theorem punctual_next (strict : StrictlyAfter engine) (punctual : Punctual s)
    (instant : Instantaneous timeout s e) : Punctual (next workers s e) := by
  rcases now_next workers instant with still | ⟨none, none', waiting⟩
  · constructor
    · intro i reading stands
      rw [still]
      rcases reading_next stands with old | read
      · exact punctual.reading i reading old
      · exact read
    · intro i o instant waits
      rw [still]
      rcases computed_next strict waits with old | ⟨_, later⟩
      · exact punctual.computed i o instant old
      · exact later
    · intro k instant mem
      rw [still]
      rcases mem_control_next mem with old | ⟨_, decided⟩ | ⟨_, decided⟩
      · exact punctual.control k instant old
      · cases eq_cancel_of_cancelDecision decided
      · obtain ⟨_, _, _, _, later⟩ := realigning_of_resumeDecision strict decided
        exact later
  · -- the clock moves: nobody is claiming, and nothing waits to be stored
    constructor
    · intro i reading stands
      obtain ⟨kept, waits⟩ := waiting i
      rw [← kept, stands] at waits
      exact waits.elim
    · intro i o instant waits
      obtain ⟨kept, sleeps⟩ := waiting i
      rw [kept] at waits
      cases stands : s.workers i with
      | answered _ _ _ =>
        rw [stands] at sleeps
        exact sleeps.elim
      | _ =>
        rw [stands] at waits
        cases waits
    · intro k instant mem
      rw [none'] at mem
      cases mem

/-- An event leaves the instant of a schedule, or moves it to one that lies ahead. -/
theorem instant_of_effect (punctual : Punctual s) (enabled : Enabled workers s e)
    (effect : Effect workers s e k before after) :
    after.message.scheduledFor = before.message.scheduledFor ∨
      s.now < after.message.scheduledFor := by
  cases effect with
  | untouched => exact .inl rfl
  | changed issued change =>
    have issues := issues_of_operationOf issued
    cases change with
    | rescheduled _ _ _ =>
      cases issues with
      | acknowledge i choice o _ rest stands =>
        exact .inr (punctual.computed i o _ (by rw [stands]; rfl))
    | realigned _ _ =>
      cases issues with
      | resume => exact .inr (punctual.control k _ enabled.1)
    | replayed _ _ => cases issues
    | _ => exact .inl rfl

end Steps

/-! ## Leases outlast dispatches -/

/-- The lease of every occurrence in hand covers a timeout for it and for all that are to be
dispatched before it. -/
def Roomy (timeout : Duration) (now : SystemTime) : Phase engine → Prop
  | .settling batch => ∀ o ∈ batch,
      now.nanos + (timeout.nanos * batch.length : ℕ) ≤ o.leasedUntil.nanos
  | .dispatching o began rest => now.nanos ≤ began.nanos + timeout.nanos ∧ ∀ p ∈ o :: rest,
      began.nanos + (timeout.nanos * (rest.length + 1) : ℕ) ≤ p.leasedUntil.nanos
  | .answered _ _ rest => ∀ p ∈ rest,
      now.nanos + (timeout.nanos * rest.length : ℕ) ≤ p.leasedUntil.nanos
  | _ => True

def active (timeout : Duration) (now : SystemTime) : Phase engine → List (LeasedOccurrence engine)
  | .settling batch => batch
  | .dispatching o began rest =>
    if now.nanos < began.nanos + timeout.nanos then o :: rest else rest
  | .answered _ _ rest => rest
  | _ => []

theorem mem_held_of_active {timeout : Duration} {now : SystemTime} {phase : Phase engine}
    {o : LeasedOccurrence engine} (mem : o ∈ active timeout now phase) : o ∈ phase.held := by
  cases phase with
  | settling batch => exact mem
  | dispatching head began rest =>
    rw [active] at mem
    split at mem
    · exact mem
    · exact List.mem_cons_of_mem head mem
  | answered head call rest => exact List.mem_cons_of_mem head mem
  | _ => cases mem

theorem mem_active_of_dispatching {timeout : Duration} {now : SystemTime} {phase : Phase engine}
    {o : LeasedOccurrence engine} (running : dispatching timeout now phase = some o) :
    o ∈ active timeout now phase := by
  cases phase with
  | dispatching head began rest =>
    rw [dispatching] at running
    split at running
    · rename_i within
      cases running
      rw [active, if_pos within]
      exact List.mem_cons_self
    · cases running
  | _ => cases running

theorem live_of_active {timeout : Duration} {now : SystemTime} {phase : Phase engine}
    (positive : 0 < timeout.nanos) (roomy : Roomy timeout now phase)
    {o : LeasedOccurrence engine} (mem : o ∈ active timeout now phase) : now < o.leasedUntil := by
  show now.nanos < o.leasedUntil.nanos
  have several : ∀ {l : List (LeasedOccurrence engine)}, o ∈ l →
      timeout.nanos ≤ timeout.nanos * l.length := fun held =>
    Nat.le_mul_of_pos_right _ (List.length_pos_of_mem held)
  cases phase with
  | settling batch =>
    have room := roomy o mem
    have := several (show o ∈ batch from mem)
    omega
  | dispatching head began rest =>
    obtain ⟨within, room⟩ := roomy
    rw [active] at mem
    have ends := room o (by
      split at mem
      · exact mem
      · exact List.mem_cons_of_mem head mem)
    rw [Nat.mul_succ] at ends
    split at mem
    · omega
    · have := several mem
      omega
  | answered head call rest =>
    have room := roomy o mem
    have := several (show o ∈ rest from mem)
    omega
  | _ => cases mem

theorem mem_active_turn {timeout : Duration} {config : SchedulerWorkerConfig} {now : SystemTime}
    {store : Store engine} {choice : Choice} {phase : Phase engine} {o : LeasedOccurrence engine}
    (mem : o ∈ active timeout now (phase.next config now store choice)) :
    o ∈ active timeout now phase ∨ o ∈ phase.claims config store choice := by
  cases phase with
  | claiming reading => exact .inr mem
  | settling batch =>
    left
    cases batch with
    | nil => cases mem
    | cons head rest =>
      rw [Phase.next] at mem
      split at mem
      · exact List.mem_cons_of_mem head mem
      · exact mem_held_of_active mem
  | dispatching head began rest =>
    left
    have later : o ∈ rest := by
      rw [Phase.next] at mem
      split at mem <;> exact mem
    rw [active]
    split
    · exact List.mem_cons_of_mem head later
    · exact later
  | answered head call rest => exact .inl mem
  | _ => cases mem

section Room

variable {w : Worker} {s : State engine n} {e : Event engine n}

theorem roomy_turn {timeout : Duration} {config : SchedulerWorkerConfig} {now : SystemTime}
    {store : Store engine} {choice : Choice} {phase : Phase engine}
    (roomy : Roomy timeout now phase)
    (claims : Roomy timeout now (.settling (phase.claims config store choice))) :
    Roomy timeout now (phase.next config now store choice) := by
  cases phase with
  | claiming reading => exact claims
  | settling batch =>
    cases batch with
    | nil => trivial
    | cons o rest =>
      have room : ∀ p ∈ o :: rest, now.nanos + (timeout.nanos * (rest.length + 1) : ℕ) ≤
          p.leasedUntil.nanos := roomy
      rw [Phase.next]
      split
      · intro p mem
        have := room p (List.mem_cons_of_mem o mem)
        rw [Nat.mul_succ] at this
        omega
      · exact ⟨by omega, room⟩
  | dispatching o began rest =>
    obtain ⟨within, room⟩ := roomy
    have left : ∀ p ∈ rest, now.nanos + (timeout.nanos * rest.length : ℕ) ≤
        p.leasedUntil.nanos := by
      intro p mem
      have := room p (List.mem_cons_of_mem o mem)
      rw [Nat.mul_succ] at this
      omega
    rw [Phase.next]
    split <;> exact left
  | answered o call rest => exact roomy
  | _ => trivial

/-- A claim leases its batch for as long as the dispatches of all of it may take. -/
theorem roomy_claims (fits : w.config.batchSize < 2 ^ 32) (keyed : Keyed s.store)
    (punctual : Punctual s) {i : Fin n} {choice : Choice}
    (enabled : Enabled (fun _ => w) s (.advance i choice)) :
    Roomy w.config.dispatchTimeout s.now
      (.settling ((s.workers i).claims w.config s.store choice)) := by
  intro o mem
  obtain ⟨_, _, covers⟩ := lease_of_accepted w fits
  obtain ⟨j, _, reading, _, here, stands, _, _, _, token, _⟩ := claimed_spec keyed enabled mem
  have few : w.config.dispatchTimeout.nanos *
      ((s.workers i).claims w.config s.store choice).length ≤ w.config.lease.nanos :=
    (Nat.mul_le_mul_left _ (length_claimed_le enabled)).trans covers
  have current := punctual.reading j reading stands
  rw [current] at token
  omega

theorem roomy_next (fits : w.config.batchSize < 2 ^ 32) (keyed : Keyed s.store)
    (punctual : Punctual s) (enabled : Enabled (fun _ => w) s e)
    (instant : Instantaneous w.config.dispatchTimeout s e) {j : Fin n}
    (roomy : Roomy w.config.dispatchTimeout s.now (s.workers j)) :
    Roomy w.config.dispatchTimeout (next (fun _ => w) s e).now
      ((next (fun _ => w) s e).workers j) := by
  rcases now_next (fun _ => w) instant with still | ⟨_, _, waiting⟩
  · rw [still]
    rcases phase_next (fun _ => w) s e j with kept | ⟨choice, rfl, moved⟩ | idle
    · rw [kept]
      exact roomy
    · rw [moved]
      exact roomy_turn roomy (roomy_claims fits keyed punctual enabled)
    · rw [idle]
      trivial
  · obtain ⟨kept, waits⟩ := waiting j
    rw [kept]
    cases stands : s.workers j with
    | dispatching o began rest =>
      rw [stands] at roomy waits
      exact ⟨waits, roomy.2⟩
    | idle => trivial
    | swept => trivial
    | _ =>
      rw [stands] at waits
      exact waits.elim

end Room

/-! ## Who holds a schedule -/

/-- Until its lease ends, a claim has its schedule to itself, unless the schedule has ended
or been moved past the clock of the claim. -/
def Covered (lease : Duration) (now : SystemTime) (store : Store engine)
    (o : LeasedOccurrence engine) : Prop :=
  ∃ stored, store.find o.message.scheduleId = some stored ∧
    (o.leasedUntil ≤ now ∨ isTerminal stored.status = true ∨
      stored.leasedUntil = some o.leasedUntil ∨
      o.leasedUntil.nanos < stored.message.scheduledFor.nanos + lease.nanos)

structure Exclusive (w : Worker) (s : State engine n) : Prop where
  keyed : Keyed s.store
  punctual : Punctual s
  roomy : ∀ i, Roomy w.config.dispatchTimeout s.now (s.workers i)
  origin : ∀ i, ∀ o ∈ (s.workers i).held,
    o.message.scheduledFor.nanos + w.config.lease.nanos ≤ o.leasedUntil.nanos ∧
      o.leasedUntil.nanos ≤ s.now.nanos + w.config.lease.nanos
  distinct : ∀ i, ((s.workers i).held.map fun o => o.message.scheduleId).Nodup
  apart : ∀ i j, i ≠ j → ∀ o ∈ (s.workers i).held, ∀ p ∈ (s.workers j).held,
    o.message.scheduleId = p.message.scheduleId → o.leasedUntil ≠ p.leasedUntil
  covered : ∀ i, ∀ o ∈ (s.workers i).held, Covered w.config.lease s.now s.store o
  exclusive : ∀ i j, i ≠ j → ∀ o ∈ active w.config.dispatchTimeout s.now (s.workers i),
    ∀ p ∈ active w.config.dispatchTimeout s.now (s.workers j),
      o.message.scheduleId = p.message.scheduleId →
        o.message.scheduledFor ≠ p.message.scheduledFor

theorem exclusive_initial (w : Worker) (now : SystemTime) :
    Exclusive w (initial now : State engine n) where
  keyed := by
    intro k stored found
    cases found
  punctual := punctual_initial now
  roomy := fun _ => trivial
  origin := fun _ _ mem => by cases mem
  distinct := fun _ => List.nodup_nil
  apart := fun _ _ _ _ mem => by cases mem
  covered := fun _ _ mem => by cases mem
  exclusive := fun _ _ _ _ mem => by cases mem

section Holding

variable {w : Worker} {s : State engine n} {e : Event engine n}

/-- A schedule that is claimed while another claim of it is live has been moved. -/
theorem moved_of_claimable {lease : Duration} {now : SystemTime} {store : Store engine}
    {o : LeasedOccurrence engine} (covered : Covered lease now store o)
    (live : now < o.leasedUntil) {stored : StoredSchedule engine}
    (found : store.find o.message.scheduleId = some stored)
    (claimable : stored.isClaimable now = true) :
    o.leasedUntil.nanos < stored.message.scheduledFor.nanos + lease.nanos := by
  obtain ⟨pending, _, unleased, _⟩ := status_of_isClaimable claimable
  obtain ⟨same, hsame, elapsed | ended | held | moved⟩ := covered <;>
    obtain rfl := Option.some.inj (found.symm.trans hsame)
  · exact absurd live (not_lt.mpr elapsed)
  · rw [pending] at ended
    cases ended
  · rw [StoredSchedule.isUnleased, held, decide_eq_true_eq] at unleased
    exact absurd live (not_lt.mpr unleased)
  · exact moved

theorem claim_now (punctual : Punctual s) (keyed : Keyed s.store)
    (enabled : Enabled (fun _ => w) s e) {o : LeasedOccurrence engine}
    (mem : o ∈ claimed (fun _ => w) s e) :
    ∃ before, s.store.find o.message.scheduleId = some before ∧ before.message = o.message ∧
      before.isClaimable s.now = true ∧
      o.leasedUntil.nanos = s.now.nanos + w.config.lease.nanos ∧
      (next (fun _ => w) s e).store.find o.message.scheduleId =
        some (before.claim o.leasedUntil) := by
  obtain ⟨i, _, reading, before, _, stands, found, copied, claimable, token, leased⟩ :=
    claimed_spec keyed enabled mem
  obtain rfl := punctual.reading i reading stands
  exact ⟨before, found, copied, claimable, token, leased⟩

variable (held : Exclusive w s) (enabled : Enabled (fun _ => w) s e)
include held enabled

theorem origin_next {i : Fin n} {o : LeasedOccurrence engine}
    (mem : o ∈ ((next (fun _ => w) s e).workers i).held) :
    o.message.scheduledFor.nanos + w.config.lease.nanos ≤ o.leasedUntil.nanos ∧
      o.leasedUntil.nanos ≤ (next (fun _ => w) s e).now.nanos + w.config.lease.nanos := by
  have later : s.now.nanos ≤ (next (fun _ => w) s e).now.nanos := now_le_next enabled
  rcases held_next (fun _ => w) s e i with kept | ⟨_, _, same⟩
  · obtain ⟨due, ends⟩ := held.origin i o (kept.subset mem)
    exact ⟨due, by omega⟩
  · rw [same] at mem
    obtain ⟨before, _, copied, claimable, token, _⟩ :=
      claim_now held.punctual held.keyed enabled mem
    have due : before.message.scheduledFor.nanos ≤ s.now.nanos :=
      (status_of_isClaimable claimable).2.1
    rw [copied] at due
    exact ⟨by omega, by omega⟩

theorem distinct_next (i : Fin n) :
    (((next (fun _ => w) s e).workers i).held.map fun o => o.message.scheduleId).Nodup := by
  rcases held_next (fun _ => w) s e i with kept | ⟨_, _, same⟩
  · exact (held.distinct i).sublist (kept.map _)
  · rw [same]
    exact claimed_nodup held.keyed enabled

theorem token_of_acknowledged {i j : Fin n} {choice : Choice} {q o : LeasedOccurrence engine}
    {call : Call} {rest : List (LeasedOccurrence engine)} (here : e = .advance j choice)
    (stands : s.workers j = .answered q call rest) (old : o ∈ (s.workers i).held)
    (mem : o ∈ ((next (fun _ => w) s e).workers i).held)
    (same : o.message.scheduleId = q.message.scheduleId) : o.leasedUntil ≠ q.leasedUntil := by
  by_cases apart : i = j
  · subst apart here
    have after : (next (fun _ => w) s (.advance i choice)).workers i = .settling rest := by
      refine (Function.update_self i _ s.workers).trans ?_
      rw [stands]
      rfl
    have distinct := held.distinct i
    rw [stands, Phase.held, List.map_cons, List.nodup_cons] at distinct
    rw [after] at mem
    exact absurd (List.mem_map.mpr ⟨o, mem, same⟩) distinct.1
  · exact held.apart i j apart o old q (by rw [stands]; exact List.mem_cons_self) same

/-- A schedule stays with the claim whose token it carries until it ends or moves ahead. -/
theorem kept_of_effect {i : Fin n} {k : Uuid} {o : LeasedOccurrence engine}
    {before after : StoredSchedule engine} (old : o ∈ (s.workers i).held)
    (mem : o ∈ ((next (fun _ => w) s e).workers i).held) (key : o.message.scheduleId = k)
    (live : s.now < o.leasedUntil) (effect : Effect (fun _ => w) s e k before after)
    (leased : before.leasedUntil = some o.leasedUntil) :
    isTerminal after.status = true ∨ after.leasedUntil = some o.leasedUntil ∨
      s.now < after.message.scheduledFor := by
  cases effect with
  | untouched => exact .inr (.inl leased)
  | changed issued change =>
    have issues := issues_of_operationOf issued
    cases change with
    | claimed claimable _ =>
      cases issues with
      | claim j choice _ stands =>
        obtain rfl := held.punctual.reading j _ stands
        have unleased := (status_of_isClaimable claimable).2.2.1
        rw [StoredSchedule.isUnleased, leased, decide_eq_true_eq] at unleased
        exact absurd live (not_lt.mpr unleased)
    | failed _ fenced _ =>
      cases issues with
      | acknowledge j choice q call rest stands =>
        have other := token_of_acknowledged held enabled rfl stands old mem key
        rw [leased] at fenced
        exact absurd (Option.some.inj fenced) other
    | rescheduled _ _ _ =>
      cases issues with
      | acknowledge j choice q _ rest stands =>
        exact .inr (.inr (held.punctual.computed j q _ (by rw [stands]; rfl)))
    | realigned _ _ =>
      cases issues with
      | resume => exact .inr (.inr (held.punctual.control k _ enabled.1))
    | delivered _ _ => exact .inl rfl
    | deadLettered _ _ => exact .inl rfl
    | swept _ => exact .inl rfl
    | cancelled _ => exact .inl rfl
    | replayed _ _ => cases issues
    | _ => exact .inr (.inl leased)

theorem covered_next {i : Fin n} {o : LeasedOccurrence engine}
    (mem : o ∈ ((next (fun _ => w) s e).workers i).held) :
    Covered w.config.lease (next (fun _ => w) s e).now (next (fun _ => w) s e).store o := by
  have later : s.now ≤ (next (fun _ => w) s e).now := now_le_next enabled
  rcases held_next (fun _ => w) s e i with kept | ⟨_, _, same⟩
  · have old := kept.subset mem
    have ends := (held.origin i o old).2
    obtain ⟨before, found, cover⟩ := held.covered i o old
    obtain ⟨after, hafter, effect⟩ := effect_next enabled found
    refine ⟨after, hafter, ?_⟩
    have ahead : s.now < after.message.scheduledFor →
        o.leasedUntil.nanos < after.message.scheduledFor.nanos + w.config.lease.nanos := by
      intro lies
      have : s.now.nanos < after.message.scheduledFor.nanos := lies
      omega
    rcases cover with elapsed | ended | leased | moved
    · exact .inl (elapsed.trans later)
    · exact .inr (.inl ((terminal_of_effect effect ended).symm ▸ ended))
    · by_cases live : s.now < o.leasedUntil
      · exact .inr ((kept_of_effect held enabled old mem rfl live effect leased).imp_right
          (Or.imp_right ahead))
      · exact .inl ((not_lt.mp live).trans later)
    · right; right; right
      rcases instant_of_effect held.punctual enabled effect with same | lies
      · rw [same]
        exact moved
      · exact ahead lies
  · rw [same] at mem
    obtain ⟨before, _, _, _, _, leased⟩ := claim_now held.punctual held.keyed enabled mem
    exact ⟨_, leased, .inr (.inr (.inl rfl))⟩

theorem token_of_claimed (positive : 0 < w.config.lease.nanos) {o p : LeasedOccurrence engine}
    {j : Fin n} (new : o ∈ claimed (fun _ => w) s e) (old : p ∈ (s.workers j).held)
    (same : p.message.scheduleId = o.message.scheduleId) : p.leasedUntil ≠ o.leasedUntil := by
  intro tokens
  obtain ⟨before, found, _, claimable, token, _⟩ :=
    claim_now held.punctual held.keyed enabled new
  have due : before.message.scheduledFor.nanos ≤ s.now.nanos :=
    (status_of_isClaimable claimable).2.1
  have moved := moved_of_claimable (held.covered j p old)
    (show s.now.nanos < p.leasedUntil.nanos by rw [tokens]; omega) (same ▸ found) claimable
  rw [tokens] at moved
  omega

theorem apart_next (positive : 0 < w.config.lease.nanos) {i j : Fin n} (apart : i ≠ j)
    {o p : LeasedOccurrence engine} (mem : o ∈ ((next (fun _ => w) s e).workers i).held)
    (mem' : p ∈ ((next (fun _ => w) s e).workers j).held)
    (same : o.message.scheduleId = p.message.scheduleId) : o.leasedUntil ≠ p.leasedUntil := by
  rcases held_next (fun _ => w) s e i with old | ⟨choice, here, new⟩ <;>
    rcases held_next (fun _ => w) s e j with old' | ⟨choice', here', new'⟩
  · exact held.apart i j apart o (old.subset mem) p (old'.subset mem') same
  · exact token_of_claimed held enabled positive (new' ▸ mem') (old.subset mem) same
  · exact (token_of_claimed held enabled positive (new ▸ mem) (old'.subset mem') same.symm).symm
  · cases here.symm.trans here'
    exact absurd rfl apart

omit held in
theorem active_next {timeout : Duration} (instant : Instantaneous timeout s e) {i : Fin n}
    {o : LeasedOccurrence engine}
    (mem : o ∈ active timeout (next (fun _ => w) s e).now ((next (fun _ => w) s e).workers i)) :
    o ∈ active timeout s.now (s.workers i) ∨
      ∃ choice, e = .advance i choice ∧ o ∈ claimed (fun _ => w) s e := by
  rcases now_next (fun _ => w) instant with still | ⟨_, _, waiting⟩
  · rw [still] at mem
    rcases phase_next (fun _ => w) s e i with kept | ⟨choice, rfl, moved⟩ | idle
    · exact .inl (kept ▸ mem)
    · rw [moved] at mem
      exact (mem_active_turn mem).imp_right fun new => ⟨choice, rfl, new⟩
    · rw [idle] at mem
      cases mem
  · have later : s.now.nanos ≤ (next (fun _ => w) s e).now.nanos := now_le_next enabled
    rw [(waiting i).1] at mem
    left
    cases stands : s.workers i with
    | dispatching head began rest =>
      rw [stands, active] at mem
      rw [active]
      split at mem
      · rw [if_pos (by omega)]
        exact mem
      · split
        · exact List.mem_cons_of_mem head mem
        · exact mem
    | _ =>
      rw [stands] at mem
      exact mem

theorem instant_of_claimed (positive : 0 < w.config.dispatchTimeout.nanos)
    {o p : LeasedOccurrence engine} {j : Fin n} (new : o ∈ claimed (fun _ => w) s e)
    (old : p ∈ active w.config.dispatchTimeout s.now (s.workers j))
    (same : p.message.scheduleId = o.message.scheduleId) :
    p.message.scheduledFor ≠ o.message.scheduledFor := by
  intro instants
  obtain ⟨before, found, copied, claimable, _⟩ :=
    claim_now held.punctual held.keyed enabled new
  have mem := mem_held_of_active old
  have moved := moved_of_claimable (held.covered j p mem)
    (live_of_active positive (held.roomy j) old) (same ▸ found) claimable
  have due := (held.origin j p mem).1
  rw [copied, ← instants] at moved
  omega

theorem exclusive_active (positive : 0 < w.config.dispatchTimeout.nanos)
    (instant : Instantaneous w.config.dispatchTimeout s e) {i j : Fin n} (apart : i ≠ j)
    {o p : LeasedOccurrence engine}
    (mem : o ∈ active w.config.dispatchTimeout (next (fun _ => w) s e).now
      ((next (fun _ => w) s e).workers i))
    (mem' : p ∈ active w.config.dispatchTimeout (next (fun _ => w) s e).now
      ((next (fun _ => w) s e).workers j))
    (same : o.message.scheduleId = p.message.scheduleId) :
    o.message.scheduledFor ≠ p.message.scheduledFor := by
  rcases active_next enabled instant mem with old | ⟨choice, here, new⟩ <;>
    rcases active_next enabled instant mem' with old' | ⟨choice', here', new'⟩
  · exact held.exclusive i j apart o old p old' same
  · exact instant_of_claimed held enabled positive new' old same
  · exact (instant_of_claimed held enabled positive new old' same.symm).symm
  · cases here.symm.trans here'
    exact absurd rfl apart

theorem exclusive_next (strict : StrictlyAfter engine) (fits : w.config.batchSize < 2 ^ 32)
    (instant : Instantaneous w.config.dispatchTimeout s e) :
    Exclusive w (next (fun _ => w) s e) := by
  obtain ⟨timeout, lease, _⟩ := lease_of_accepted w fits
  exact {
    keyed := keyed_next enabled held.keyed
    punctual := punctual_next strict held.punctual instant
    roomy := fun i => roomy_next fits held.keyed held.punctual enabled instant (held.roomy i)
    origin := fun i o mem => origin_next held enabled mem
    distinct := distinct_next held enabled
    apart := fun i j apart o mem p mem' => apart_next held enabled lease apart mem mem'
    covered := fun i o mem => covered_next held enabled mem
    exclusive := fun i j apart o mem p mem' =>
      exclusive_active held enabled timeout instant apart mem mem' }

end Holding

/-! ## Whole runs -/

/-- No occurrence is being dispatched by two workers at one instant. -/
theorem dispatches_exclusive (strict : StrictlyAfter engine) {w : Worker}
    (fits : w.config.batchSize < 2 ^ 32) {start : SystemTime} {events : List (Event engine n)}
    (allowed : ((machine fun _ => w).under (Instantaneous w.config.dispatchTimeout)).Allowed
      (initial start) events) {i j : Fin n} (apart : i ≠ j) {o p : LeasedOccurrence engine}
    (one : dispatching w.config.dispatchTimeout
      ((machine fun _ => w).run (initial start) events).now
      (((machine fun _ => w).run (initial start) events).workers i) = some o)
    (two : dispatching w.config.dispatchTimeout
      ((machine fun _ => w).run (initial start) events).now
      (((machine fun _ => w).run (initial start) events).workers j) = some p) :
    ¬(o.message.scheduleId = p.message.scheduleId ∧
      o.message.scheduledFor = p.message.scheduledFor) := by
  have held : Exclusive w ((machine fun _ => w).run (initial start) events) :=
    invariant_under_condition (exclusive_initial w start)
      (fun _ _ held enabled instant => exclusive_next held enabled strict fits instant) allowed
  rintro ⟨schedule, due⟩
  exact held.exclusive i j apart o (mem_active_of_dispatching one) p
    (mem_active_of_dispatching two) schedule due

open SchedulerLeases (sampleSchedule second)
open SchedulerOccurrences (minutely minutely_strictlyAfter sampleMessage)

/-- The shortest lease the builder accepts for batches of one and the default timeout. -/
def tightWorker : Worker :=
  ⟨{ SchedulerWorkerConfig.default with batchSize := 1, lease := .fromSecs 30 }, fun _ => "", rfl⟩

def otherSchedule : Uuid := .fromU128 2

/-- Each of two workers claims a schedule and is ten seconds into its dispatch. -/
def bothDispatching (a b : Fin 2) : List (Event minutely 2) :=
  let turns (i : Fin 2) : List (Event minutely 2) :=
    List.replicate 4 (.advance i ⟨[sampleSchedule, otherSchedule], .ok (), fun _ => 0⟩)
  [.insert sampleMessage 2, .insert { sampleMessage with scheduleId := otherSchedule } 2,
    .tick (second 22)] ++ turns a ++ turns b ++ [.tick (second 32)]

theorem dispatches_exclusive_sample :
    let timeout := tightWorker.config.dispatchTimeout
    let s := (machine fun _ => tightWorker).run (initial (second 5)) (bothDispatching 0 1)
    StrictlyAfter minutely ∧ tightWorker.config.batchSize < 2 ^ 32 ∧
      ((machine fun _ => tightWorker).under (Instantaneous timeout)).Allowed
        (initial (second 5)) (bothDispatching 0 1) ∧
      ∃ o p, dispatching timeout s.now (s.workers 0) = some o ∧
        dispatching timeout s.now (s.workers 1) = some p ∧
        ¬(o.message.scheduleId = p.message.scheduleId ∧
          o.message.scheduledFor = p.message.scheduledFor) := by
  have allowed : ((machine fun _ => tightWorker).under
      (Instantaneous tightWorker.config.dispatchTimeout)).Allowed
        (initial (second 5)) (bothDispatching 0 1) := by
    decide +kernel
  obtain ⟨o, one⟩ := Option.isSome_iff_exists.mp (show (dispatching
    tightWorker.config.dispatchTimeout
    ((machine fun _ => tightWorker).run (initial (second 5)) (bothDispatching 0 1)).now
    (((machine fun _ => tightWorker).run (initial (second 5)) (bothDispatching 0 1)).workers
      0)).isSome = true by decide +kernel)
  obtain ⟨p, two⟩ := Option.isSome_iff_exists.mp (show (dispatching
    tightWorker.config.dispatchTimeout
    ((machine fun _ => tightWorker).run (initial (second 5)) (bothDispatching 0 1)).now
    (((machine fun _ => tightWorker).run (initial (second 5)) (bothDispatching 0 1)).workers
      1)).isSome = true by decide +kernel)
  exact ⟨minutely_strictlyAfter, by decide, allowed, o, p, one, two,
    dispatches_exclusive minutely_strictlyAfter (by decide) allowed (by decide) one two⟩

end SchedulerDispatches
