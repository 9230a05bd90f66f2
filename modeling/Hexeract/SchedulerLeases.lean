import Hexeract.LibraryMachines
import Hexeract.SchedulerStatements
import Hexeract.SchedulerMessages

/-! # Leases of the SQL scheduler

Any number of workers, sweepers and operators issue the statements of the store, one at a
time, while the database clock moves on. `claims` is the history of what claims returned:
which occurrence, under which lease deadline, and whether its holder has acknowledged it.
The statements read the table and the clock only. -/
namespace SchedulerLeases

open LibraryTables LibraryMachines StdTime BusEnvelope SchedulerStatements SchedulerMessages

inductive Ack (τ : Type) where
  | delivered
  | reschedule (next : τ)
  | failed (retryAt : τ) (error : String)
  | deadLettered (error : String)
  deriving DecidableEq, Repr

structure Claim (κ τ : Type) where
  id : κ
  instant : τ
  deadline : τ
  acknowledged : Bool
  deriving DecidableEq, Repr

structure State (κ τ γ : Type) where
  now : τ
  table : Schedules κ τ γ
  claims : List (Claim κ τ)

inductive Event (κ τ γ : Type) where
  | tick (later : τ)
  | insert (id : κ) (content : γ) (scheduledFor : τ) (maxAttempts : ℤ)
  | claim (locked : List κ) (limit : ℕ) (deadline : τ)
  | acknowledge (claim : ℕ) (ack : Ack τ)
  | sweep
  | cancel (id : κ)
  | setPaused (id : κ) (paused : Bool)
  | resume (id : κ) (next : Option τ)
  | replay (id : κ)
  deriving DecidableEq, Repr

variable {κ τ γ : Type} [DecidableEq κ] [LinearOrder τ]

def Ack.apply (now : τ) (t : Schedules κ τ γ) (id : κ) (lease : τ) :
    Ack τ → Schedules κ τ γ × Bool
  | .delivered => markDelivered now t id lease
  | .reschedule next => SchedulerStatements.reschedule next t id lease
  | .failed retryAt error => markFailed retryAt error t id lease
  | .deadLettered error => markDeadLettered now error t id lease

def Claim.of (deadline : τ) (row : κ × Row τ γ) : Claim κ τ :=
  ⟨row.1, row.2.scheduledFor, deadline, false⟩

def State.due (s : State κ τ γ) (locked : List κ) (limit : ℕ) (deadline : τ) :
    List (κ × Row τ γ) :=
  (claimDue s.now deadline s.table locked limit).2

/-- The clock never goes back, and a holder acknowledges its claim once. -/
def Enabled (s : State κ τ γ) : Event κ τ γ → Prop
  | .tick later => s.now ≤ later
  | .acknowledge k _ => (s.claims[k]?.any fun c => !c.acknowledged) = true
  | _ => True

instance (s : State κ τ γ) (e : Event κ τ γ) : Decidable (Enabled s e) := by
  cases e <;> simp only [Enabled] <;> infer_instance

def next (s : State κ τ γ) : Event κ τ γ → State κ τ γ
  | .tick later => { s with now := later }
  | .insert id content scheduledFor maxAttempts =>
    { s with table := (insert s.table id content scheduledFor maxAttempts).getD s.table }
  | .claim locked limit deadline =>
    { s with
      table := (claimDue s.now deadline s.table locked limit).1
      claims := s.claims ++ (s.due locked limit deadline).map (Claim.of deadline) }
  | .acknowledge k ack =>
    match s.claims[k]? with
    | none => s
    | some c =>
      { s with
        table := (ack.apply s.now s.table c.id c.deadline).1
        claims := s.claims.set k { c with acknowledged := true } }
  | .sweep => { s with table := (deadLetterExhausted s.now s.table).1 }
  | .cancel id => { s with table := (cancel s.now s.table id).1 }
  | .setPaused id paused => { s with table := (setPaused paused s.table id).1 }
  | .resume id next => { s with table := (resume s.table id next).1 }
  | .replay id => { s with table := (replay s.now s.table id).1 }

def machine : Machine (State κ τ γ) (Event κ τ γ) := ⟨Enabled, next⟩

instance (s : State κ τ γ) (e : Event κ τ γ) : Decidable (machine.enabled s e) :=
  inferInstanceAs (Decidable (Enabled s e))

/-- The holder has not acknowledged, and the deadline lies ahead. -/
def Claim.Held (now : τ) (c : Claim κ τ) : Prop := c.acknowledged = false ∧ now < c.deadline

instance (now : τ) (c : Claim κ τ) : Decidable (c.Held now) :=
  inferInstanceAs (Decidable (_ ∧ _))

/-- A resume that takes effect finds no claim of the schedule held. -/
def ResumesReleased (s : State κ τ γ) : Event κ τ γ → Prop
  | .resume id _ => ∀ r ∈ s.table.find id, r.paused = true → r.isOpen = true →
      ∀ c ∈ s.claims, c.id = id → ¬c.Held s.now
  | _ => True

instance (s : State κ τ γ) (e : Event κ τ γ) : Decidable (ResumesReleased s e) := by
  cases e <;> simp only [ResumesReleased] <;> infer_instance

/-- The row still belongs to the claim, or was cancelled under it. -/
def Covers (r : Row τ γ) (c : Claim κ τ) : Prop :=
  r.cancelledAt.isSome = true ∨
    (r.isOpen = true ∧ r.leasedUntil = some c.deadline ∧ r.scheduledFor = c.instant)

structure Guarded (s : State κ τ γ) : Prop where
  covered : ∀ c ∈ s.claims, c.Held s.now → ∃ r, s.table.find c.id = some r ∧ Covers r c
  single : ∀ (i j : ℕ) (c d : Claim κ τ), s.claims[i]? = some c → s.claims[j]? = some d →
    c.Held s.now → d.Held s.now → c.id = d.id → i = j

theorem guarded_of_no_claims {s : State κ τ γ} (h : s.claims = []) : Guarded s := by
  constructor
  · intro c mem
    rw [h] at mem
    cases mem
  · intro i j c d hc
    rw [h] at hc
    cases hc

omit [DecidableEq κ] in
theorem leased_of_covers {now : τ} {r : Row τ γ} {c : Claim κ τ} (held : c.Held now)
    (cover : Covers r c) : r.isOpen = false ∨ r.isUnleased now = false := by
  rcases cover with cancelled | ⟨_, leased, _⟩
  · exact Or.inl (not_isOpen_of_cancelled cancelled)
  · refine Or.inr (eq_false_of_ne_true fun free => ?_)
    exact absurd (isUnleased_iff.mp free _ leased) (not_le.mpr held.2)

theorem guarded_table {s : State κ τ γ} (g : Guarded s) {t : Schedules κ τ γ}
    (rows : ∀ c ∈ s.claims, c.Held s.now → ∀ r, s.table.find c.id = some r → Covers r c →
      ∃ r', t.find c.id = some r' ∧ Covers r' c) : Guarded { s with table := t } := by
  refine ⟨?_, g.single⟩
  intro c mem held
  obtain ⟨r, found, cover⟩ := g.covered c mem held
  exact rows c mem held r found cover

theorem guarded_updateById {s : State κ τ γ} (g : Guarded s) {id : κ} {p : Row τ γ → Bool}
    {f : Row τ γ → Row τ γ}
    (keep : ∀ c ∈ s.claims, c.Held s.now → c.id = id → ∀ r, s.table.find id = some r →
      p r = true → Covers r c → Covers (f r) c) :
    Guarded { s with table := (updateById s.table id p f).1 } := by
  apply guarded_table g
  intro c mem held r found cover
  rw [find_updateById, found, Option.map_some]
  refine ⟨_, rfl, ?_⟩
  split
  · rename_i h
    exact keep c mem held h.1 r (h.1 ▸ found) h.2 cover
  · exact cover

theorem guarded_tick {s : State κ τ γ} (g : Guarded s) {later : τ} (h : s.now ≤ later) :
    Guarded { s with now := later } := by
  have earlier : ∀ c : Claim κ τ, c.Held later → c.Held s.now :=
    fun c held => ⟨held.1, lt_of_le_of_lt h held.2⟩
  constructor
  · intro c mem held
    exact g.covered c mem (earlier c held)
  · intro i j c d hc hd heldc heldd
    exact g.single i j c d hc hd (earlier c heldc) (earlier d heldd)

theorem guarded_insert {s : State κ τ γ} (g : Guarded s) (id : κ) (content : γ)
    (scheduledFor : τ) (maxAttempts : ℤ) :
    Guarded (next s (.insert id content scheduledFor maxAttempts)) := by
  simp only [next]
  cases inserted : insert s.table id content scheduledFor maxAttempts with
  | none => exact g
  | some t =>
    apply guarded_table g
    intro c _ _ r found cover
    exact ⟨r, find_insert_of_some inserted found, cover⟩

theorem guarded_sweep {s : State κ τ γ} (g : Guarded s) : Guarded (next s .sweep) := by
  apply guarded_table g
  intro c _ held r found cover
  rw [find_deadLetterExhausted, found, Option.map_some]
  refine ⟨_, rfl, ?_⟩
  have spared : r.isExhausted s.now = false := by
    rcases leased_of_covers held cover with h | h <;> simp [Row.isExhausted, h]
  rw [spared, if_neg (by simp)]
  exact cover

theorem guarded_cancel {s : State κ τ γ} (g : Guarded s) (id : κ) :
    Guarded (next s (.cancel id)) :=
  guarded_updateById g fun _ _ _ _ _ _ _ _ => Or.inl rfl

theorem guarded_setPaused {s : State κ τ γ} (g : Guarded s) (id : κ) (paused : Bool) :
    Guarded (next s (.setPaused id paused)) :=
  guarded_updateById g fun _ _ _ _ _ _ _ cover => cover

theorem guarded_replay {s : State κ τ γ} (g : Guarded s) (id : κ) :
    Guarded (next s (.replay id)) := by
  apply guarded_updateById g
  intro c _ _ _ r _ dead cover
  rcases cover with cancelled | ⟨opened, _⟩
  · exact Or.inl cancelled
  · rw [not_isOpen_of_deadLettered dead] at opened
    cases opened

theorem guarded_resume {s : State κ τ γ} (g : Guarded s) (id : κ) (next? : Option τ)
    (released : ResumesReleased s (.resume id next?)) :
    Guarded (next s (.resume id next?)) := by
  have none_held : ∀ f : Row τ γ → Row τ γ, ∀ c ∈ s.claims, c.Held s.now → c.id = id →
      ∀ r, s.table.find id = some r → (r.paused && r.isOpen) = true → Covers r c →
        Covers (f r) c := by
    intro f c mem held same r found matched _
    rw [Bool.and_eq_true] at matched
    exact absurd held (released r found matched.1 matched.2 c mem same)
  cases next? with
  | none => exact guarded_updateById g (none_held _)
  | some next => exact guarded_updateById g (none_held _)

def Ack.write (now : τ) (r : Row τ γ) : Ack τ → Row τ γ
  | .delivered => { r with deliveredAt := some now, leasedUntil := none }
  | .reschedule next =>
    { r with scheduledFor := next, attempts := 0, leasedUntil := none, lastError := none }
  | .failed retryAt error => { r with leasedUntil := some retryAt, lastError := some error }
  | .deadLettered error =>
    { r with deadLetteredAt := some now, lastError := some error, leasedUntil := none }

theorem ack_apply (now : τ) (t : Schedules κ τ γ) (id : κ) (lease : τ) (ack : Ack τ) :
    ack.apply now t id lease = acknowledge t id lease fun r => ack.write now r := by
  cases ack <;> rfl

/-- The fence matches only the claim's own row: another held claim of the schedule would
carry the same deadline, and then be the same claim. -/
theorem guarded_acknowledge {s : State κ τ γ} (g : Guarded s) (k : ℕ) (ack : Ack τ)
    (enabled : Enabled s (.acknowledge k ack)) : Guarded (next s (.acknowledge k ack)) := by
  simp only [next]
  cases at_k : s.claims[k]? with
  | none => exact g
  | some c =>
    have unacknowledged : c.acknowledged = false := by
      simpa [Enabled, at_k] using enabled
    have bound : k < s.claims.length := (List.getElem?_eq_some_iff.mp at_k).1
    -- a claim still held afterwards stands at another index, unchanged
    have other : ∀ (j : ℕ) (d : Claim κ τ),
        (s.claims.set k { c with acknowledged := true })[j]? = some d → d.Held s.now →
          j ≠ k ∧ s.claims[j]? = some d := by
      intro j d hd held
      by_cases same : j = k
      · subst same
        rw [List.getElem?_set_self bound] at hd
        cases hd
        cases held.1
      · rw [List.getElem?_set_ne (Ne.symm same)] at hd
        exact ⟨same, hd⟩
    dsimp only
    constructor
    · intro d mem held
      obtain ⟨j, hj⟩ := List.mem_iff_getElem?.mp mem
      obtain ⟨apart, hd⟩ := other j d hj held
      obtain ⟨r, found, cover⟩ := g.covered d (List.mem_of_getElem? hd) held
      rw [ack_apply, acknowledge, find_updateById, found, Option.map_some]
      refine ⟨_, rfl, ?_⟩
      rw [if_neg]
      · exact cover
      · rintro ⟨same, fence⟩
        simp only [Bool.and_eq_true, decide_eq_true_eq] at fence
        rcases cover with cancelled | ⟨_, leased, _⟩
        · rw [not_isOpen_of_cancelled cancelled] at fence
          cases fence.2
        · have deadline : d.deadline = c.deadline := by
            rw [leased] at fence
            exact Option.some.inj fence.1
          exact apart (g.single j k d c hd at_k held
            ⟨unacknowledged, deadline ▸ held.2⟩ same)
    · intro i j d e hd he heldd helde same
      exact g.single i j d e (other i d hd heldd).2 (other j e he helde).2 heldd helde same

omit [DecidableEq κ] in
theorem not_eligible_of_covers {now : τ} {r : Row τ γ} {c : Claim κ τ} (held : c.Held now)
    (cover : Covers r c) : ¬r.isEligible now = true := by
  intro eligible
  rcases leased_of_covers held cover with closed | leased
  · rw [isOpen_of_isEligible eligible] at closed
    cases closed
  · rw [isUnleased_of_isEligible eligible] at leased
    cases leased

theorem not_held_of_due {s : State κ τ γ} (g : Guarded s) {locked : List κ} {limit : ℕ}
    {deadline : τ} {row : κ × Row τ γ} (due : row ∈ s.due locked limit deadline)
    {c : Claim κ τ} (mem : c ∈ s.claims) (same : c.id = row.1) : ¬c.Held s.now := by
  intro held
  obtain ⟨r, found, eligible, _⟩ := claimDue_returns due
  obtain ⟨r', found', cover⟩ := g.covered c mem held
  rw [same, found] at found'
  cases found'
  exact not_eligible_of_covers held cover eligible

theorem guarded_claim {s : State κ τ γ} (g : Guarded s) (locked : List κ) (limit : ℕ)
    (deadline : τ) : Guarded (next s (.claim locked limit deadline)) := by
  constructor
  · intro c mem held
    rcases List.mem_append.mp mem with old | new
    · obtain ⟨r, found, cover⟩ := g.covered c old held
      simp only [next]
      rw [find_claimDue, found, Option.map_some]
      refine ⟨_, rfl, ?_⟩
      rw [if_neg]
      · exact cover
      · intro chosen
        obtain ⟨row, due, same⟩ := List.mem_map.mp chosen
        obtain ⟨found', eligible⟩ := isEligible_of_mem_dueRows due
        rw [same, found] at found'
        cases found'
        exact not_eligible_of_covers held cover eligible
    · obtain ⟨row, due, rfl⟩ := List.mem_map.mp new
      obtain ⟨r, _, eligible, shape, after⟩ := claimDue_returns due
      refine ⟨row.2, after, Or.inr ⟨?_, ?_, rfl⟩⟩
      · rw [shape]
        exact (isOpen_of_isEligible eligible : r.isOpen = true)
      · rw [shape]
        rfl
  · intro i j c d hc hd heldc heldd same
    simp only [next, List.getElem?_append] at hc hd
    split at hc
    · split at hd
      · exact g.single i j c d hc hd heldc heldd same
      · obtain ⟨row, due, rfl⟩ := List.mem_map.mp (List.mem_of_getElem? hd)
        exact absurd heldc (not_held_of_due g due (List.mem_of_getElem? hc) same)
    · split at hd
      · obtain ⟨row, due, rfl⟩ := List.mem_map.mp (List.mem_of_getElem? hc)
        exact absurd heldd (not_held_of_due g due (List.mem_of_getElem? hd) same.symm)
      · -- both are of this batch, whose rows have distinct ids
        rw [List.getElem?_map, Option.map_eq_some_iff] at hc hd
        obtain ⟨row, hc, rfl⟩ := hc
        obtain ⟨row', hd, rfl⟩ := hd
        have distinct := claimDue_ids_nodup s.now deadline s.table locked limit
        have at_i := congrArg (Option.map Prod.fst) hc
        have at_j := congrArg (Option.map Prod.fst) hd
        rw [← List.getElem?_map] at at_i at_j
        have bound := (List.getElem?_eq_some_iff.mp at_i).1
        have := (List.getElem?_inj bound distinct).mp
          (at_i.trans ((congrArg some same).trans at_j.symm))
        omega

theorem guarded_step {s : State κ τ γ} (g : Guarded s) {e : Event κ τ γ} (h : Enabled s e)
    (released : ResumesReleased s e) : Guarded (next s e) := by
  cases e with
  | tick later => exact guarded_tick g h
  | insert id content scheduledFor maxAttempts => exact guarded_insert g ..
  | claim locked limit deadline => exact guarded_claim g ..
  | acknowledge k ack => exact guarded_acknowledge g k ack h
  | sweep => exact guarded_sweep g
  | cancel id => exact guarded_cancel g id
  | setPaused id paused => exact guarded_setPaused g id paused
  | resume id next => exact guarded_resume g id next released
  | replay id => exact guarded_replay g id

/-- In a run whose resumes find no claim held, no claim returns an occurrence whose
earlier claim is neither acknowledged nor past its deadline. -/
theorem occurrence_claimed_alone {start : State κ τ γ} (fresh : start.claims = [])
    {events : List (Event κ τ γ)}
    (allowed : (machine.under ResumesReleased).Allowed start events)
    (locked : List κ) (limit : ℕ) (deadline : τ) :
    ∀ row ∈ (machine.run start events).due locked limit deadline,
      ∀ c ∈ (machine.run start events).claims, c.id = row.1 →
        c.instant = row.2.scheduledFor → ¬c.Held (machine.run start events).now := by
  have g : Guarded (machine.run start events) :=
    invariant_under_condition (guarded_of_no_claims fresh)
      (fun _ _ g enabled released => guarded_step g enabled released) allowed
  intro row due c mem same _
  exact not_held_of_due g due mem same

section Control

variable {engine : CronEngine}

/-- The snapshot `inspect` decodes from a row. -/
def snapshot (id : Uuid) (r : Row SystemTime (Trigger engine)) : ScheduleSnapshot engine where
  scheduleId := id
  status := statusWithPaused
    (terminalStatus r.deliveredAt.isSome r.cancelledAt.isSome r.deadLetteredAt.isSome) r.paused
  scheduledFor := r.scheduledFor
  attempts := attemptsFromI64 r.attempts
  maxAttempts := attemptsFromI64 r.maxAttempts
  trigger := r.content
  lastError := r.lastError

/-- `SchedulerControl::resume`: it inspects the schedule, and the statement it decides on
runs as an event of its own. -/
def controlResume (s : State Uuid SystemTime (Trigger engine)) (id : Uuid) (clock : SystemTime) :
    Except SchedulerError (Option (Event Uuid SystemTime (Trigger engine))) :=
  match s.table.find id with
  | none => .error (.scheduleNotFound id)
  | some r => (resumeCall (snapshot id r) clock).map fun call => call.map (.resume id)

def sampleEngine : CronEngine := ⟨fun _ => .ok (), fun _ _ => none⟩

def second (n : UInt64) : SystemTime := (unixEpoch.checkedAdd (.fromSecs n)).getD unixEpoch

def sampleSchedule : Uuid := Uuid.fromU128 7

def sampleStart : State Uuid SystemTime (Trigger sampleEngine) := ⟨second 100, .empty, []⟩

/-- A delayed message is claimed under a lease of thirty seconds and paused. -/
def pausedUnderLease : List (Event Uuid SystemTime (Trigger sampleEngine)) :=
  [.insert sampleSchedule (.delay (second 90)) (second 90) 5,
    .claim [] 10 (second 130),
    .setPaused sampleSchedule true,
    .tick (second 105)]

def resumedUnderLease : List (Event Uuid SystemTime (Trigger sampleEngine)) :=
  pausedUnderLease ++ [.resume sampleSchedule none]

/-- The message is resumed after its lease has elapsed. -/
def resumedAfterLease : List (Event Uuid SystemTime (Trigger sampleEngine)) :=
  pausedUnderLease ++ [.tick (second 140), .resume sampleSchedule none]

theorem occurrence_claimed_alone_sample :
    sampleStart.claims = [] ∧
      (machine.under ResumesReleased).Allowed sampleStart resumedAfterLease ∧
      ∀ row ∈ (machine.run sampleStart resumedAfterLease).due [] 10 (second 170),
        ∀ c ∈ (machine.run sampleStart resumedAfterLease).claims, c.id = row.1 →
          c.instant = row.2.scheduledFor →
            ¬c.Held (machine.run sampleStart resumedAfterLease).now :=
  have allowed : (machine.under ResumesReleased).Allowed sampleStart resumedAfterLease := by
    decide +kernel
  ⟨rfl, allowed, occurrence_claimed_alone rfl allowed [] 10 (second 170)⟩

/-- Control resumes the paused message by the statement that clears its lease, and five
seconds into the first lease a second claim returns the same occurrence. -/
theorem resume_frees_held_claim :
    controlResume (machine.run sampleStart pausedUnderLease) sampleSchedule (second 105) =
        .ok (some (.resume sampleSchedule none)) ∧
      machine.Allowed sampleStart resumedUnderLease ∧
      ∃ row ∈ (machine.run sampleStart resumedUnderLease).due [] 10 (second 135),
        ∃ c ∈ (machine.run sampleStart resumedUnderLease).claims,
          c.id = row.1 ∧ c.instant = row.2.scheduledFor ∧
            c.Held (machine.run sampleStart resumedUnderLease).now := by
  refine ⟨?_, by decide +kernel, by decide +kernel⟩
  have found : (machine.run sampleStart pausedUnderLease).table.find sampleSchedule =
      some ⟨.delay (second 90), second 90, 1, 5, some (second 130), true, none, none, none,
        none⟩ := by decide +kernel
  rw [controlResume, found]
  rfl

end Control

end SchedulerLeases
