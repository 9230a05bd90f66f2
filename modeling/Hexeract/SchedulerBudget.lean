import Hexeract.SchedulerWorkers

/-! # The attempt budget of an occurrence

A claim takes one attempt from the budget of its schedule, and the sink is invoked at most
once for each claim. The counter is reset only together with a move to another instant. What
could move a schedule back to an instant it has had is a worker that computed the next
occurrence, was held up, and finds its token on the schedule again: the fence compares
deadlines, and a later claim or backoff can end at the same one. -/
namespace SchedulerBudget

open LibraryCollections LibraryTables LibraryMachines LibraryFramedBytes StdTime BusEnvelope
open SchedulerMessages SchedulerMemory SchedulerMemorySteps SchedulerWorker SchedulerWorkers
open SchedulerOccurrences (ControlCall StrictlyAfter callOf callOf_reschedule
  resumeCall_realigns occurrenceName occurrenceName_inj occurrenceId occurrenceNamespace)

variable {engine : CronEngine} {n : ℕ}

/-! ## The runs considered -/

def OneAtATime (s : State engine n) : Event engine n → Prop
  | .pause id => id ∉ s.control.map Prod.fst
  | .cancel id => id ∉ s.control.map Prod.fst
  | .resume id => id ∉ s.control.map Prod.fst
  | _ => True

instance (s : State engine n) : (e : Event engine n) → Decidable (OneAtATime s e)
  | .pause id => inferInstanceAs (Decidable (id ∉ s.control.map Prod.fst))
  | .cancel id => inferInstanceAs (Decidable (id ∉ s.control.map Prod.fst))
  | .resume id => inferInstanceAs (Decidable (id ∉ s.control.map Prod.fst))
  | .tick _ => isTrue trivial
  | .insert _ _ => isTrue trivial
  | .advance _ _ => isTrue trivial
  | .crash _ => isTrue trivial
  | .finish _ _ => isTrue trivial

/-- No lease or backoff of a schedule ends at the token of a claim whose next occurrence
waits to be stored. -/
def Unclashing (workers : Fin n → Worker) (s : State engine n) (e : Event engine n) : Prop :=
  ∀ issued ∈ operationOf workers s e, ∀ i, ∀ waiting ∈ (s.workers i).computed,
    newDeadline issued.1 s.store issued.2 waiting.1.message.scheduleId ≠
      some waiting.1.leasedUntil

instance (workers : Fin n → Worker) (s : State engine n) (e : Event engine n) :
    Decidable (Unclashing workers s e) :=
  inferInstanceAs (Decidable (∀ _ ∈ _, _))

/-! ## Instants move forward -/

/-- A leased schedule is due, and what waits to be stored or to be realigned moves its
schedule forward. -/
structure Forward (s : State engine n) : Prop where
  keyed : Keyed s.store
  dated : Dated s
  due : ∀ k stored deadline, s.store.find k = some stored → stored.leasedUntil = some deadline →
    stored.message.scheduledFor ≤ s.now
  ahead : ∀ i o next, (s.workers i).computed = some (o, next) → ∀ stored,
    s.store.find o.message.scheduleId = some stored →
      stored.leasedUntil = some o.leasedUntil → stored.message.scheduledFor < next
  single : (s.control.map Prod.fst).Nodup
  realigning : ∀ k instant, (k, .resume (some instant)) ∈ s.control → ∃ stored,
    s.store.find k = some stored ∧ stored.status = .paused ∧
      stored.message.scheduledFor < instant

theorem forward_initial (now : SystemTime) : Forward (initial now : State engine n) where
  keyed := by
    intro k stored found
    cases found
  dated := by
    intro i reading stands
    cases stands
  due := by
    intro k stored deadline found
    cases found
  ahead := by
    intro i o next waits
    cases waits
  single := List.nodup_nil
  realigning := by
    intro k instant mem
    cases mem

section Steps

variable {workers : Fin n → Worker} {s : State engine n} {e : Event engine n} {k : Uuid}
  {before after : StoredSchedule engine}

theorem lease_of_effect (effect : Effect workers s e k before after) {deadline : SystemTime}
    (leased : after.leasedUntil = some deadline) :
    (∃ issued ∈ operationOf workers s e, newDeadline issued.1 s.store issued.2 k = some deadline) ∨
      before.leasedUntil = some deadline ∧ after.message = before.message := by
  cases effect with
  | untouched => exact .inr ⟨leased, rfl⟩
  | changed issued change =>
    cases change with
    | kept _ _ => exact .inr ⟨leased, rfl⟩
    | claimed _ stamped => exact .inl ⟨_, issued, stamped.trans leased⟩
    | failed _ _ stamped => exact .inl ⟨_, issued, stamped.trans leased⟩
    | paused _ => exact .inr ⟨leased, rfl⟩
    | unpaused _ => exact .inr ⟨leased, rfl⟩
    | resumed _ => exact .inr ⟨leased, rfl⟩
    | _ => cases leased

theorem due_next (forward : Forward s) (enabled : Enabled workers s e) {deadline : SystemTime}
    (found : (next workers s e).store.find k = some after)
    (leased : after.leasedUntil = some deadline) :
    after.message.scheduledFor ≤ (next workers s e).now := by
  refine le_trans ?_ (now_le_next enabled)
  rcases effect_cases enabled found with ⟨_, _, _, _, _, rfl⟩ | ⟨before, hbefore, effect⟩
  · cases leased
  have old : before.leasedUntil = some deadline → before.message.scheduledFor ≤ s.now :=
    forward.due k before deadline hbefore
  cases effect with
  | untouched => exact old leased
  | changed issued change =>
    cases change with
    | kept _ _ => exact old leased
    | claimed claimable _ =>
      exact (status_of_isClaimable claimable).2.1.trans (reading_le forward.dated issued)
    | failed _ held _ => exact forward.due k before _ hbefore held
    | paused _ => exact old leased
    | unpaused _ => exact old leased
    | resumed _ => exact old leased
    | _ => cases leased

theorem ahead_next (strict : StrictlyAfter engine) (forward : Forward s)
    (enabled : Enabled workers s e) (clear : Unclashing workers s e) {i : Fin n}
    {o : LeasedOccurrence engine} {instant : SystemTime}
    (waits : ((next workers s e).workers i).computed = some (o, instant))
    (found : (next workers s e).store.find o.message.scheduleId = some after)
    (leased : after.leasedUntil = some o.leasedUntil) :
    after.message.scheduledFor < instant := by
  rcases effect_cases enabled found with ⟨_, _, _, _, _, rfl⟩ | ⟨before, hbefore, effect⟩
  · cases leased
  rcases computed_next strict waits with old | ⟨unissued, later⟩
  · rcases lease_of_effect effect leased with ⟨issued, mem, stamped⟩ | ⟨held, kept⟩
    · exact absurd stamped (clear issued mem i (o, instant) old)
    · rw [kept]
      exact forward.ahead i o instant old before hbefore held
  · rcases lease_of_effect effect leased with ⟨issued, mem, _⟩ | ⟨held, kept⟩
    · rw [unissued] at mem
      cases mem
    · rw [kept]
      exact lt_of_le_of_lt (forward.due _ before _ hbefore held) later

theorem paused_of_effect (effect : Effect workers s e k before after)
    (paused : before.status = .paused) : after = before ∨ ∃ call, e = .finish k call := by
  cases effect with
  | untouched => exact .inl rfl
  | changed issued change =>
    have issues := issues_of_operationOf issued
    cases change with
    | kept _ _ => exact .inl rfl
    | claimed claimable _ => cases paused.symm.trans (status_of_isClaimable claimable).1
    | swept exhausted => simp [StoredSchedule.isExhausted, paused] at exhausted
    | cancelled _ =>
      cases issues
      exact .inr ⟨_, rfl⟩
    | resumed _ =>
      cases issues
      exact .inr ⟨_, rfl⟩
    | realigned _ _ =>
      cases issues
      exact .inr ⟨_, rfl⟩
    | unpaused _ => cases issues
    | replayed _ _ => cases issues
    | delivered pending _ => cases paused.symm.trans pending
    | rescheduled pending _ _ => cases paused.symm.trans pending
    | failed pending _ _ => cases paused.symm.trans pending
    | deadLettered pending _ => cases paused.symm.trans pending
    | paused pending => cases paused.symm.trans pending

theorem single_next (forward : Forward s) (one : OneAtATime s e) :
    ((next workers s e).control.map Prod.fst).Nodup := by
  cases e with
  | cancel id =>
    change ((cancelDecision s.store id).elim s.control _ |>.map Prod.fst).Nodup
    cases cancelDecision s.store id with
    | none => exact forward.single
    | some call => exact List.nodup_cons.mpr ⟨one, forward.single⟩
  | resume id =>
    change ((resumeDecision s.store id s.now).elim s.control _ |>.map Prod.fst).Nodup
    cases resumeDecision s.store id s.now with
    | none => exact forward.single
    | some call => exact List.nodup_cons.mpr ⟨one, forward.single⟩
  | finish id call => exact forward.single.sublist (List.erase_sublist.map Prod.fst)
  | _ => exact forward.single

theorem realigning_next (strict : StrictlyAfter engine) (forward : Forward s)
    (enabled : Enabled workers s e) {instant : SystemTime}
    (mem : (k, ControlCall.resume (some instant)) ∈ (next workers s e).control) :
    ∃ stored, (next workers s e).store.find k = some stored ∧ stored.status = .paused ∧
      stored.message.scheduledFor < instant := by
  rcases mem_control_next mem with old | ⟨rfl, decided⟩ | ⟨rfl, decided⟩
  · obtain ⟨stored, found, paused, later⟩ := forward.realigning k instant old
    obtain ⟨after, hafter, effect⟩ := effect_next enabled found
    have unmade : ¬∃ call, e = .finish k call := by
      rintro ⟨call, rfl⟩
      -- the call just made is the only one under way on its schedule
      have same := List.inj_on_of_nodup_map forward.single old enabled.1 rfl
      exact (forward.single.of_map.mem_erase_iff.mp mem).1 same
    obtain rfl := (paused_of_effect effect paused).resolve_right unmade
    exact ⟨after, hafter, paused, later⟩
  · cases eq_cancel_of_cancelDecision decided
  · obtain ⟨stored, found, paused, past, later⟩ := realigning_of_resumeDecision strict decided
    exact ⟨stored, found, paused, lt_of_le_of_lt past later⟩

theorem forward_next (strict : StrictlyAfter engine) (forward : Forward s)
    (enabled : Enabled workers s e) (one : OneAtATime s e) (clear : Unclashing workers s e) :
    Forward (next workers s e) where
  keyed := keyed_next enabled forward.keyed
  dated := dated_next enabled forward.dated
  due := fun _ _ _ found leased => due_next forward enabled found leased
  ahead := fun _ _ _ waits _ found leased =>
    ahead_next strict forward enabled clear waits found leased
  single := single_next forward one
  realigning := fun _ _ mem => realigning_next strict forward enabled mem

/-- An event keeps the instant of a schedule and takes no attempt back, or moves it forward. -/
theorem instant_of_effect (forward : Forward s) (enabled : Enabled workers s e)
    (found : s.store.find k = some before) (effect : Effect workers s e k before after) :
    (after.message.scheduledFor = before.message.scheduledFor ∧
        before.attempts ≤ after.attempts) ∨
      before.message.scheduledFor < after.message.scheduledFor := by
  cases effect with
  | untouched => exact .inl ⟨rfl, le_rfl⟩
  | changed issued change =>
    have issues := issues_of_operationOf issued
    cases change with
    | claimed _ _ => exact .inl ⟨rfl, Nat.le_succ _⟩
    | rescheduled _ held _ =>
      cases issues with
      | acknowledge i choice o _ rest stands =>
        exact .inr (forward.ahead i o _ (by rw [stands]; rfl) before found held)
    | realigned _ _ =>
      cases issues with
      | resume =>
        obtain ⟨stored, same, _, later⟩ := forward.realigning k _ enabled.1
        obtain rfl := Option.some.inj (found.symm.trans same)
        exact .inr later
    | replayed _ _ => cases issues
    | _ => exact .inl ⟨rfl, le_rfl⟩

theorem budget_of_effect (effect : Effect workers s e k before after) :
    after.maxAttempts = before.maxAttempts ∧
      (before.attempts ≤ before.maxAttempts → after.attempts ≤ after.maxAttempts) := by
  cases effect with
  | untouched => exact ⟨rfl, id⟩
  | changed issued change =>
    cases change with
    | claimed claimable _ => exact ⟨rfl, fun _ => (status_of_isClaimable claimable).2.2.2⟩
    | rescheduled _ _ _ => exact ⟨rfl, fun _ => Nat.zero_le _⟩
    | realigned _ _ => exact ⟨rfl, fun _ => Nat.zero_le _⟩
    | replayed _ _ => exact ⟨rfl, fun _ => Nat.zero_le _⟩
    | _ => exact ⟨rfl, id⟩

end Steps

/-! ## Attempts and dispatches -/

def isOf (k : Uuid) (instant : SystemTime) (o : LeasedOccurrence engine) : Bool :=
  decide (o.message.scheduleId = k) && decide (o.message.scheduledFor = instant)

/-- The occurrences a worker has claimed and not yet handed to the sink. -/
def queue : Phase engine → List (LeasedOccurrence engine)
  | .settling batch => batch
  | .dispatching _ _ rest => rest
  | .answered _ _ rest => rest
  | _ => []

/-- The claims of an occurrence that were, or may still be, handed to the sink. -/
def uses (s : State engine n) (k : Uuid) (instant : SystemTime) : ℕ :=
  s.dispatched.countP (isOf k instant) + ∑ i, (queue (s.workers i)).countP (isOf k instant)

section Counting

variable {workers : Fin n → Worker} {s : State engine n} {e : Event engine n} {k : Uuid}
  {before after : StoredSchedule engine} {instant : SystemTime}

theorem countP_queue (config : SchedulerWorkerConfig) (now : SystemTime) (store : Store engine)
    (choice : Choice) (p : LeasedOccurrence engine → Bool) (phase : Phase engine) :
    (queue (phase.next config now store choice)).countP p + (phase.begins now).countP p ≤
      (queue phase).countP p + (phase.claims config store choice).countP p := by
  cases phase with
  | claiming reading => simp [Phase.next, Phase.begins, queue, Phase.claims]
  | settling batch =>
    cases batch with
    | nil => simp [Phase.next, Phase.begins, queue, Phase.claims]
    | cons o rest =>
      rw [Phase.next, Phase.begins]
      split
      · simp [queue, Phase.claims, List.countP_cons]
      · simp [queue, Phase.claims, List.countP_cons]
  | dispatching o began rest =>
    rw [Phase.next]
    split <;> simp [queue, Phase.begins, Phase.claims]
  | _ => simp [Phase.next, Phase.begins, queue, Phase.claims]

theorem uses_next (workers : Fin n → Worker) (s : State engine n) (e : Event engine n) (k : Uuid)
    (instant : SystemTime) :
    uses (next workers s e) k instant ≤
      uses s k instant + (claimed workers s e).countP (isOf k instant) := by
  have weigh := fun i phase => sum_update
    (fun phase => (queue phase).countP (isOf k instant)) s.workers i phase
  unfold uses
  cases e with
  | advance i choice =>
    have moved := weigh i ((s.workers i).next (workers i).config s.now s.store choice)
    have turn := countP_queue (workers i).config s.now s.store choice (isOf k instant)
      (s.workers i)
    simp only [next, workersAfter, dispatchedBy, claimed, List.countP_append]
    omega
  | crash i =>
    have moved := weigh i .idle
    simp only [next, workersAfter, dispatchedBy, claimed, List.append_nil, List.countP_nil, queue]
      at moved ⊢
    omega
  | _ => simp [next, workersAfter, dispatchedBy, claimed]

theorem countP_claimed_le (keyed : Keyed s.store) (enabled : Enabled workers s e) :
    (claimed workers s e).countP (isOf k instant) ≤ 1 := by
  calc (claimed workers s e).countP (isOf k instant)
      ≤ (claimed workers s e).countP fun o => decide (o.message.scheduleId = k) := by
        refine List.countP_mono_left fun o _ holds => ?_
        simp only [isOf, Bool.and_eq_true] at holds
        exact holds.1
    _ = ((claimed workers s e).map fun o => o.message.scheduleId).count k := by
        rw [List.count, List.countP_map]
        exact List.countP_congr fun o _ => by simp
    _ ≤ 1 := List.nodup_iff_count_le_one.mp (claimed_nodup keyed enabled) k

theorem attempt_of_claimed (keyed : Keyed s.store) (enabled : Enabled workers s e)
    (taken : (claimed workers s e).countP (isOf k instant) ≠ 0) :
    ∃ before after, s.store.find k = some before ∧ (next workers s e).store.find k = some after ∧
      before.message.scheduledFor = instant ∧ after.message.scheduledFor = instant ∧
      after.attempts = before.attempts + 1 := by
  obtain ⟨o, mem, holds⟩ := List.countP_pos_iff.mp (Nat.pos_of_ne_zero taken)
  simp only [isOf, Bool.and_eq_true, decide_eq_true_eq] at holds
  obtain ⟨rfl, rfl⟩ := holds
  obtain ⟨_, _, _, before, _, _, found, copied, _, _, hafter⟩ := claimed_spec keyed enabled mem
  exact ⟨before, _, found, hafter, by rw [copied], by rw [← copied]; rfl, rfl⟩

/-- The uses of an occurrence are within its budget: those of the current instant are counted
by the schedule, and there are none of a later one. -/
structure Counted (s : State engine n) : Prop where
  within : ∀ k stored, s.store.find k = some stored → stored.attempts ≤ stored.maxAttempts
  current : ∀ k stored, s.store.find k = some stored →
    uses s k stored.message.scheduledFor ≤ stored.attempts
  future : ∀ k stored instant, s.store.find k = some stored →
    stored.message.scheduledFor < instant → uses s k instant = 0
  bounded : ∀ k stored instant, s.store.find k = some stored →
    uses s k instant ≤ stored.maxAttempts
  absent : ∀ k instant, s.store.find k = none → uses s k instant = 0

theorem counted_initial (now : SystemTime) : Counted (initial now : State engine n) where
  within := fun k stored found => by cases found
  current := fun k stored found => by cases found
  future := fun k stored instant found => by cases found
  bounded := fun k stored instant found => by cases found
  absent := fun k instant _ => by simp [uses, initial, queue]

theorem uses_next_le (unclaimed : (claimed workers s e).countP (isOf k instant) = 0) :
    uses (next workers s e) k instant ≤ uses s k instant := by
  have grows := uses_next workers s e k instant
  omega

theorem uses_next_of_absent (counted : Counted s) (keyed : Keyed s.store)
    (enabled : Enabled workers s e) (missing : s.store.find k = none) (instant : SystemTime) :
    uses (next workers s e) k instant = 0 := by
  have unclaimed : (claimed workers s e).countP (isOf k instant) = 0 := by
    by_contra taken
    obtain ⟨before, _, found, _⟩ := attempt_of_claimed keyed enabled taken
    rw [missing] at found
    cases found
  have grows := uses_next_le unclaimed
  rw [counted.absent k instant missing] at grows
  exact Nat.le_zero.mp grows

section Step

variable (forward : Forward s) (enabled : Enabled workers s e)
  (found : s.store.find k = some before)
  (hafter : (next workers s e).store.find k = some after)
include forward enabled found hafter

/-- Either nothing of the occurrence was claimed, or one attempt on the current one was. -/
theorem uses_of_found (instant : SystemTime) :
    uses (next workers s e) k instant ≤ uses s k instant ∨
      uses (next workers s e) k instant ≤ uses s k instant + 1 ∧
        before.message.scheduledFor = instant ∧ after.message.scheduledFor = instant ∧
        after.attempts = before.attempts + 1 := by
  by_cases unclaimed : (claimed workers s e).countP (isOf k instant) = 0
  · exact .inl (uses_next_le unclaimed)
  · have once := @countP_claimed_le engine n workers s e k instant forward.keyed enabled
    have grows := uses_next workers s e k instant
    obtain ⟨stored, later, old, new, takes⟩ := attempt_of_claimed forward.keyed enabled unclaimed
    obtain rfl := Option.some.inj (found.symm.trans old)
    obtain rfl := Option.some.inj (hafter.symm.trans new)
    exact .inr ⟨by omega, takes⟩

variable (effect : Effect workers s e k before after) (counted : Counted s)
include effect counted

theorem current_of_effect :
    uses (next workers s e) k after.message.scheduledFor ≤ after.attempts := by
  have old := counted.current k before found
  rcases uses_of_found forward enabled found hafter after.message.scheduledFor with
    grows | ⟨grows, due, _, takes⟩
  · rcases instant_of_effect forward enabled found effect with ⟨same, kept⟩ | later
    · rw [← same] at old
      omega
    · have fresh := counted.future k before _ found later
      omega
  · rw [due] at old
    omega

theorem future_of_effect (later : after.message.scheduledFor < instant) :
    uses (next workers s e) k instant = 0 := by
  have behind : before.message.scheduledFor ≤ after.message.scheduledFor := by
    rcases instant_of_effect forward enabled found effect with ⟨same, _⟩ | moved
    · exact le_of_eq same.symm
    · exact le_of_lt moved
  have fresh := counted.future k before instant found (lt_of_le_of_lt behind later)
  rcases uses_of_found forward enabled found hafter instant with
    grows | ⟨_, _, due, _⟩
  · omega
  · exact absurd due (ne_of_lt later)

theorem bounded_of_effect (instant : SystemTime) :
    uses (next workers s e) k instant ≤ after.maxAttempts := by
  obtain ⟨fixed, stays⟩ := budget_of_effect effect
  rcases uses_of_found forward enabled found hafter instant with
    grows | ⟨grows, due, _, takes⟩
  · have old := counted.bounded k before instant found
    omega
  · have old := counted.current k before found
    have within := stays (counted.within k before found)
    rw [due] at old
    omega

end Step

theorem counted_next (counted : Counted s) (forward : Forward s) (enabled : Enabled workers s e) :
    Counted (next workers s e) where
  within := by
    intro k after hafter
    rcases effect_cases enabled hafter with ⟨_, _, _, _, _, rfl⟩ | ⟨before, found, effect⟩
    · exact Nat.zero_le _
    · exact (budget_of_effect effect).2 (counted.within k before found)
  current := by
    intro k after hafter
    rcases effect_cases enabled hafter with ⟨missing, _, _, _, _, rfl⟩ | ⟨before, found, effect⟩
    · exact le_of_eq (uses_next_of_absent counted forward.keyed enabled missing _)
    · exact current_of_effect forward enabled found hafter effect counted
  future := by
    intro k after instant hafter later
    rcases effect_cases enabled hafter with ⟨missing, _⟩ | ⟨before, found, effect⟩
    · exact uses_next_of_absent counted forward.keyed enabled missing instant
    · exact future_of_effect forward enabled found hafter effect counted later
  bounded := by
    intro k after instant hafter
    rcases effect_cases enabled hafter with ⟨missing, _⟩ | ⟨before, found, effect⟩
    · rw [uses_next_of_absent counted forward.keyed enabled missing instant]
      exact Nat.zero_le _
    · exact bounded_of_effect forward enabled found hafter effect counted instant
  absent := by
    intro k instant missing
    refine uses_next_of_absent counted forward.keyed enabled ?_ instant
    by_contra present
    obtain ⟨before, found⟩ := Option.ne_none_iff_exists'.mp present
    obtain ⟨after, hafter, _⟩ := effect_next enabled found
    rw [missing] at hafter
    cases hafter

end Counting

/-! ## Spent schedules -/

section Sweep

variable {workers : Fin n → Worker} {s : State engine n} {k : Uuid}
  {stored : StoredSchedule engine}

theorem deadLettered_of_sweep {i : Fin n} {choice : Choice} (stands : s.workers i = .idle)
    (found : s.store.find k = some stored) (exhausted : stored.isExhausted s.now = true) :
    ∃ after, (next workers s (.advance i choice)).store.find k = some after ∧
      after.status = .deadLettered := by
  have issued : operationOf workers s (.advance i choice) = some (s.now, .deadLetterExhausted) := by
    rw [operationOf, stands]
    rfl
  rw [next, issued]
  change ∃ after, (step s.now s.store .deadLetterExhausted).1.find k = some after ∧ _
  rw [step, reporting, deadLetterExhausted, find_updateWhere, found, Option.map_some,
    if_pos exhausted]
  exact ⟨_, rfl, rfl⟩

theorem deadLettered_run {events : List (Event engine n)}
    (allowed : (machine workers).Allowed s events) (found : s.store.find k = some stored)
    (dead : stored.status = .deadLettered) :
    ∃ after, ((machine workers).run s events).store.find k = some after ∧
      after.status = .deadLettered := by
  induction events generalizing s stored with
  | nil => exact ⟨stored, found, dead⟩
  | cons e rest ih =>
    obtain ⟨after, hafter, effect⟩ := effect_next allowed.1 found
    have kept := terminal_of_effect effect (by rw [dead]; rfl)
    exact ih allowed.2 hafter (kept.trans dead)

end Sweep

/-! ## Whole runs -/

def dispatchedNames (s : State engine n) : Set Bytes :=
  { name | ∃ o ∈ s.dispatched, name = occurrenceName o.message.scheduleId o.message.scheduledFor }

theorem occurrenceName_schedule {id other : Uuid} {t u : SystemTime}
    (same : occurrenceName id t = occurrenceName other u) : id = other := by
  have split := List.append_inj same (by rw [id.length_bytes, other.length_bytes])
  exact Uuid.ext split.1

theorem countP_occurrenceId_le {s : State engine n} {newV5 : Uuid → Bytes → Uuid}
    (injective : Set.InjOn (newV5 occurrenceNamespace) (dispatchedNames s))
    {o : LeasedOccurrence engine} (mem : o ∈ s.dispatched) :
    s.dispatched.countP (fun p => decide (occurrenceId newV5 p = occurrenceId newV5 o)) ≤
      s.dispatched.countP (isOf o.message.scheduleId o.message.scheduledFor) := by
  refine List.countP_mono_left fun p other same => ?_
  have names := injective ⟨p, other, rfl⟩ ⟨o, mem, rfl⟩ (of_decide_eq_true same)
  have schedule := occurrenceName_schedule names
  rw [schedule] at names
  simp [isOf, schedule, occurrenceName_inj names]

theorem invariant_run (strict : StrictlyAfter engine) {workers : Fin n → Worker}
    {start : SystemTime} {events : List (Event engine n)}
    (allowed : (((machine workers).under OneAtATime).under (Unclashing workers)).Allowed
      (initial start) events) :
    Forward ((machine workers).run (initial start) events) ∧
      Counted ((machine workers).run (initial start) events) := by
  refine invariant_under_condition (M := (machine workers).under OneAtATime)
    (I := fun s => Forward s ∧ Counted s) ⟨forward_initial start, counted_initial start⟩ ?_ allowed
  rintro s e ⟨forward, counted⟩ ⟨enabled, one⟩ clear
  exact ⟨forward_next strict forward enabled one clear, counted_next counted forward enabled⟩

/-- In every run in which no deadline meets the token of a next occurrence that waits to be
stored, counters stay within their budgets, the sink is invoked no more often for an
occurrence than its schedule has attempts, and a schedule that a poll cycle finds spent and
unleased is dead-lettered from then on. -/
theorem attempts_within_budget (strict : StrictlyAfter engine) {workers : Fin n → Worker}
    {start : SystemTime} {events : List (Event engine n)}
    (allowed : (((machine workers).under OneAtATime).under (Unclashing workers)).Allowed
      (initial start) events) :
    let s := (machine workers).run (initial start) events
    (∀ k stored, s.store.find k = some stored → stored.attempts ≤ stored.maxAttempts ∧
      ∀ instant, s.dispatched.countP (isOf k instant) ≤ stored.maxAttempts) ∧
    (∀ newV5, Set.InjOn (newV5 occurrenceNamespace) (dispatchedNames s) → ∀ o ∈ s.dispatched,
      ∃ stored, s.store.find o.message.scheduleId = some stored ∧
        s.dispatched.countP (fun p => decide (occurrenceId newV5 p = occurrenceId newV5 o)) ≤
          stored.maxAttempts) ∧
    ∀ before i choice rest, events = before ++ .advance i choice :: rest →
      let swept := (machine workers).run (initial start) before
      swept.workers i = .idle → ∀ k stored, swept.store.find k = some stored →
        stored.isExhausted swept.now = true →
          ∃ after, s.store.find k = some after ∧ after.status = .deadLettered := by
  obtain ⟨_, counted⟩ := invariant_run strict allowed
  have invoked : ∀ k stored instant,
      ((machine workers).run (initial start) events).store.find k = some stored →
        ((machine workers).run (initial start) events).dispatched.countP (isOf k instant) ≤
          stored.maxAttempts := fun k stored instant found =>
    (Nat.le_add_right _ _).trans (counted.bounded k stored instant found)
  refine ⟨fun k stored found => ⟨counted.within k stored found,
    fun instant => invoked k stored instant found⟩, ?_, ?_⟩
  · intro newV5 injective o mem
    have stored : ((machine workers).run (initial start) events).store.find
        o.message.scheduleId ≠ none := by
      intro missing
      have unused := counted.absent _ o.message.scheduledFor missing
      have once : 0 < ((machine workers).run (initial start) events).dispatched.countP
          (isOf o.message.scheduleId o.message.scheduledFor) :=
        List.countP_pos_iff.mpr ⟨o, mem, by simp [isOf]⟩
      unfold uses at unused
      omega
    obtain ⟨stored, found⟩ := Option.ne_none_iff_exists'.mp stored
    exact ⟨stored, found, (countP_occurrenceId_le injective mem).trans (invoked _ _ _ found)⟩
  · rintro before i choice rest rfl swept idle k stored found exhausted
    obtain ⟨_, _, later⟩ := allowed_append.mp (allowed_of_under (allowed_of_under allowed))
    obtain ⟨after, hafter, dead⟩ := deadLettered_of_sweep idle found exhausted
    rw [run_append, run_cons]
    exact deadLettered_run later hafter dead

open SchedulerLeases (sampleSchedule second)
open SchedulerOccurrences (minutely minutely_strictlyAfter sampleMessage)

def sampleWorkers (_ : Fin 2) : Worker :=
  ⟨{ SchedulerWorkerConfig.default with retryBaseDelay := .fromSecs 150 }, fun _ => "", rfl⟩

/-- A worker's next step; a failure backs off by these seconds. -/
def turn (i : Fin 2) (outcome : Except String Unit) (backoff : UInt64) : Event minutely 2 :=
  .advance i ⟨[sampleSchedule], outcome, fun _ => backoff * 1000000000⟩

/-- A poll cycle up to the dispatch. -/
def cycle (i : Fin 2) : List (Event minutely 2) := List.replicate 4 (turn i (.ok ()) 0)

/-- The first worker computes the occurrence at second 82 and is held up. The schedule is
paused and realigned to that very occurrence, and the second worker claims it and fails. -/
def heldUp (a b : Fin 2) (backoff : UInt64) : List (Event minutely 2) :=
  [.insert sampleMessage 2, .tick (second 22)] ++ cycle a ++ [.tick (second 24), turn a (.ok ()) 0,
    .pause sampleSchedule, .resume sampleSchedule,
    .finish sampleSchedule (.resume (some (second 82))), .tick (second 82)] ++ cycle b ++
  [.tick (second 83), turn b (.error "down") backoff, turn b (.ok ()) 0, turn a (.ok ()) 0]

theorem attempts_within_budget_sample :
    let s := (machine sampleWorkers).run (initial (second 5)) (heldUp 0 1 100)
    StrictlyAfter minutely ∧
      (((machine sampleWorkers).under OneAtATime).under (Unclashing sampleWorkers)).Allowed
        (initial (second 5)) (heldUp 0 1 100) ∧
      ∃ stored, s.store.find sampleSchedule = some stored ∧
        stored.attempts ≤ stored.maxAttempts ∧
        s.dispatched.countP (isOf sampleSchedule (second 82)) ≤ stored.maxAttempts := by
  have allowed : (((machine sampleWorkers).under OneAtATime).under
      (Unclashing sampleWorkers)).Allowed (initial (second 5)) (heldUp 0 1 100) := by
    decide +kernel
  obtain ⟨stored, found⟩ : ∃ stored, ((machine sampleWorkers).run (initial (second 5))
      (heldUp 0 1 100)).store.find sampleSchedule = some stored :=
    Option.isSome_iff_exists.mp (by decide +kernel)
  obtain ⟨within, invoked⟩ :=
    (attempts_within_budget minutely_strictlyAfter allowed).1 sampleSchedule stored found
  exact ⟨minutely_strictlyAfter, allowed, stored, found, within, invoked (second 82)⟩

/-- The backoff ends at the token of the first claim, so that the first worker stores the
occurrence again, with a new budget. -/
theorem occurrence_dispatched_thrice :
    let M := (machine sampleWorkers).under OneAtATime
    let events := heldUp 0 1 239 ++ turn 1 (.ok ()) 0 :: cycle 1 ++
      [turn 1 (.error "down") 0, turn 1 (.ok ()) 0, turn 1 (.ok ()) 0] ++ cycle 1
    let s := M.run (initial (second 5)) events
    M.Allowed (initial (second 5)) events ∧
      (s.store.find sampleSchedule).map (·.maxAttempts) = some 2 ∧
      s.dispatched.countP (isOf sampleSchedule (second 82)) = 3 := by
  decide +kernel

end SchedulerBudget
