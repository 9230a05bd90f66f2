import Hexeract.OutboxWorkers

/-! # Rows left behind by a last attempt

A claim consumes an attempt before the dispatch, and only the settlement that follows can
move an exhausted row to the dead-letter table. Where every last attempt is settled within
its lease, each undelivered row comes back to the poll; a crash or a failed settlement in
between leaves the row in the main table, where no poll selects it. -/
namespace OutboxStranding

open LibraryTables LibraryMachines OutboxStatements OutboxWorkers

variable {ω κ τ γ : Type} [DecidableEq ω] [DecidableEq κ] [LinearOrder τ]
  {sys : System ω γ} {budget : ℕ} {s : State ω κ τ γ}

/-- Last attempts are looked after: no worker stops with one, none of their settlements
fails, and the clock does not reach the end of their leases. -/
def Attended (budget : ℕ) (s : State ω κ τ γ) : Event ω κ τ γ → Prop
  | .tick later => ∀ w, ∀ e ∈ (s.workers w).held, budget ≤ e.claimedAttempt →
      ∀ r ∈ s.tables.main.find e.eventId, r.attempts = e.claimedAttempt →
        ∀ deadline ∈ r.nextRetryAt, later < deadline
  | .claim _ deadline => s.now < deadline
  | .settle w outcome _ => ∀ e ∈ (s.workers w).held.head?, outcome ≠ .ok () →
      budget ≤ e.claimedAttempt → s.tables.deadLetter.find e.eventId = none
  | .rollback w => ∀ e ∈ (s.workers w).held.head?, e.claimedAttempt < budget
  | .crash w => ∀ e ∈ (s.workers w).held, e.claimedAttempt < budget
  | _ => True

/-- A worker holds the row's latest claim, and its lease lies ahead. -/
def Held (s : State ω κ τ γ) (k : κ) (r : Row τ γ) : Prop :=
  ∃ w, ∃ e ∈ (s.workers w).held, e.eventId = k ∧ r.attempts = e.claimedAttempt ∧
    ∃ deadline, r.nextRetryAt = some deadline ∧ s.now < deadline

structure Watched (sys : System ω γ) (budget : ℕ) (s : State ω κ τ γ) : Prop where
  polled : WellPolled sys s
  within : ∀ w, ∀ e ∈ (s.workers w).held, e.claimedAttempt ≤ budget
  rows : ∀ k r, s.tables.main.find k = some r → r.deliveredAt = none →
    r.attempts < budget ∨ Held s k r

omit [DecidableEq κ] in
theorem held_setWorker {k : κ} {r : Row τ γ} (h : Held s k r) {w : ω} {worker : Worker κ τ γ}
    (kept : ∀ e ∈ (s.workers w).held, e.eventId = k → r.attempts = e.claimedAttempt →
      e ∈ worker.held) : Held (s.setWorker w worker) k r := by
  obtain ⟨v, e, mem, same, attempt, lease⟩ := h
  refine ⟨v, e, ?_, same, attempt, lease⟩
  by_cases mine : v = w
  · subst mine
    simpa [State.setWorker] using kept e mem same attempt
  · simpa [State.setWorker, mine] using mem

/-- A step that writes no row may drop envelopes below the budget only. -/
theorem watched_setWorker (h : Watched sys budget s) {w : ω} {worker : Worker κ τ γ}
    (own : Polled sys w worker.polled) (held : worker.held ⊆ (s.workers w).held)
    (kept : ∀ e ∈ (s.workers w).held, budget ≤ e.claimedAttempt → e ∈ worker.held) :
    Watched sys budget (s.setWorker w worker) where
  polled := h.polled.setWorker own
  within := forall_setWorker (P := fun _ worker => ∀ e ∈ worker.held, e.claimedAttempt ≤ budget)
    h.within fun e mem => h.within w e (held mem)
  rows := by
    intro k r found undelivered
    by_cases below : r.attempts < budget
    · exact Or.inl below
    · have watched := (h.rows k r found undelivered).resolve_left below
      refine Or.inr (held_setWorker watched fun e mem _ attempt => kept e mem ?_)
      omega

theorem watched_tick (h : Watched sys budget s) {later : τ}
    (attended : Attended budget s (.tick later)) :
    Watched sys budget (next sys s (.tick later)) := by
  refine ⟨h.polled, h.within, ?_⟩
  intro k r found undelivered
  by_cases below : r.attempts < budget
  · exact Or.inl below
  · obtain ⟨w, e, mem, rfl, attempt, deadline, lease, _⟩ :=
      (h.rows k r found undelivered).resolve_left below
    exact Or.inr ⟨w, e, mem, rfl, attempt, deadline, lease,
      attended w e mem (by omega) r found attempt deadline lease⟩

theorem watched_insert (h : Watched sys budget s) (positive : 1 ≤ budget) (eventId : κ)
    (content : γ) : Watched sys budget (next sys s (.insert eventId content)) := by
  refine ⟨h.polled, h.within, ?_⟩
  intro k r found' undelivered
  rcases row_after_insert found' with ⟨_, rfl⟩ | found
  · left
    simp only [Row.fresh]
    omega
  · exact h.rows k r found undelivered

omit [DecidableEq ω] [DecidableEq κ] [LinearOrder τ] in
theorem claimedAttempt_le {w : ω} {rows : List (κ × Row τ γ)} (polled : Polled sys w rows)
    (shared : ∀ w, (sys.config w).maxAttempts = budget) (positive : 1 ≤ budget) :
    ∀ e ∈ rows.map envelopeOf, e.claimedAttempt ≤ budget := by
  intro e mem
  obtain ⟨row, read, rfl⟩ := List.mem_map.mp mem
  have below := polled.below row read
  have bound := pollBound_le sys.dialect (sys.config w).maxAttempts
  rw [shared] at below bound
  simp only [envelopeOf, Envelope.claimedAttempt, attemptsOf]
  omega

theorem watched_claim (h : Watched sys budget s)
    (shared : ∀ w, (sys.config w).maxAttempts = budget) (positive : 1 ≤ budget) {w : ω}
    {deadline : τ} (polling : (s.workers w).polled ≠ []) (ahead : s.now < deadline) :
    Watched sys budget (claimStep s w deadline) := by
  have empty : (s.workers w).held = [] := Worker.held_eq_nil polling
  have none_held : ∀ {P : Prop}, ∀ e ∈ (s.workers w).held, P := by
    intro P e mem
    rw [empty] at mem
    cases mem
  rcases claimStep_cases s w deadline with failed | ⟨claims, bound, shape⟩
  · rw [failed]
    exact watched_setWorker h (polled_nil w) (List.nil_subset _) fun e mem _ => none_held e mem
  · rw [shape]
    have idle : ∀ k r, Held s k r →
        Held (s.setWorker w (.settling (won s w deadline claims))) k r :=
      fun k r watched => held_setWorker watched fun e mem _ _ => none_held e mem
    refine ⟨?_, ?_, ?_⟩
    · exact h.polled.settling w _
    · apply forall_setWorker
        (P := fun _ worker => ∀ e ∈ worker.held, e.claimedAttempt ≤ budget) h.within
      intro e mem
      exact claimedAttempt_le (h.polled w) shared positive e (List.mem_filter.mp mem).1
    · intro k r' found' undelivered
      rcases row_after_claim (h.polled w) bound found' with
        ⟨found, _⟩ | ⟨r, _, rfl, e, obtained, same, attempts⟩
      · rcases h.rows k r' found undelivered with below | watched
        · exact Or.inl below
        · exact Or.inr (idle k r' watched)
      · refine Or.inr ⟨w, e, ?_, same, ?_, deadline, rfl, ahead⟩
        · simpa [State.setWorker, Worker.held] using obtained
        · simp only [attempts, Envelope.claimedAttempt]
          omega

theorem rows_without_head (h : Watched sys budget s) {w : ω} {e : Envelope κ}
    {rest : List (Envelope κ)} (held : (s.workers w).held = e :: rest) {k : κ} {r : Row τ γ}
    (found : s.tables.main.find k = some r) (undelivered : r.deliveredAt = none)
    (apart : ¬(e.eventId = k ∧ r.attempts = e.claimedAttempt)) :
    r.attempts < budget ∨ Held (s.setWorker w (.settling rest)) k r := by
  rcases h.rows k r found undelivered with below | watched
  · exact Or.inl below
  · right
    apply held_setWorker watched
    intro e' mem same attempt
    rw [held] at mem
    rcases List.mem_cons.mp mem with rfl | mem
    · exact absurd ⟨same, attempt⟩ apart
    · exact mem

theorem watched_settle (h : Watched sys budget s)
    (shared : ∀ w, (sys.config w).maxAttempts = budget) (bindable : budget ≤ i32Max)
    (deadLettering : sys.deadLettering = true) {w : ω} {outcome : Except String Unit}
    {retryAt : τ} (holding : (s.workers w).held ≠ [])
    (attended : Attended budget s (.settle w outcome retryAt)) :
    Watched sys budget (settleStep sys s w outcome retryAt) := by
  obtain ⟨e, rest, held⟩ := List.exists_cons_of_ne_nil holding
  have fits : e.claimedAttempt ≤ budget := h.within w e (by simp [held])
  have free : outcome ≠ .ok () → (sys.config w).maxAttempts ≤ e.claimedAttempt →
      s.tables.deadLetter.find e.eventId = none := by
    rw [shared]
    exact attended e (by simp [held])
  rcases settleStep_cases sys held outcome retryAt with ⟨err, failed, _⟩ | ⟨t, a, settled, shape⟩
  · obtain ⟨result, committed⟩ := exists_dispatchAndSettle (fits.trans bindable)
      fun failed last _ => free failed last
    rw [committed] at failed
    cases failed
  · rw [shape]
    refine ⟨?_, ?_, ?_⟩
    · exact h.polled.settling w _
    · apply forall_setWorker
        (P := fun _ worker => ∀ e ∈ worker.held, e.claimedAttempt ≤ budget) h.within
      intro e' mem
      exact h.within w e' (held ▸ List.mem_cons_of_mem e mem)
    · intro k r found' open'
      by_cases same : k = e.eventId
      · subst same
        cases settles_of_ok settled with
        | refused stale rows =>
          rw [rows] at found'
          exact rows_without_head h held found' open' fun mine => stale ⟨r, found', mine.2, open'⟩
        | delivered found attempt undelivered rows =>
          rw [rows, if_pos rfl] at found'
          cases found'
          cases open'
        | failed found attempt undelivered remains rows =>
          rw [rows, if_pos rfl] at found'
          cases found'
          rw [shared, deadLettering] at remains
          have more : ¬budget ≤ e.claimedAttempt := fun last => absurd (remains last) (by simp)
          left
          dsimp only
          omega
        | deadLettered found attempt undelivered exhausted rows =>
          rw [rows, if_pos rfl] at found'
          cases found'
      · rw [(settles_of_ok settled).find_other same] at found'
        exact rows_without_head h held found' open' fun mine => same mine.1.symm

theorem watched_step (h : Watched sys budget s)
    (shared : ∀ w, (sys.config w).maxAttempts = budget) (positive : 1 ≤ budget)
    (bindable : budget ≤ i32Max) (deadLettering : sys.deadLettering = true)
    {e : Event ω κ τ γ} (enabled : Enabled s e) (attended : Attended budget s e) :
    Watched sys budget (next sys s e) := by
  cases e with
  | tick later => exact watched_tick h attended
  | insert eventId content => exact watched_insert h positive eventId content
  | poll w locked =>
    apply watched_setWorker h (polled_poll sys s w locked) (List.nil_subset _)
    intro e mem
    rw [enabled.2] at mem
    cases mem
  | claim w deadline => exact watched_claim h shared positive enabled attended
  | settle w outcome retryAt =>
    exact watched_settle h shared bindable deadLettering enabled attended
  | rollback w =>
    apply watched_setWorker h (polled_nil w) (List.tail_subset _)
    intro e mem last
    obtain ⟨first, rest, held⟩ := List.exists_cons_of_ne_nil enabled
    have below : first.claimedAttempt < budget := attended first (by simp [held])
    change e ∈ (s.workers w).held.tail
    rw [held] at mem ⊢
    rcases List.mem_cons.mp mem with rfl | mem
    · exact absurd below (not_lt.mpr last)
    · exact mem
  | crash w =>
    apply watched_setWorker h (polled_nil w) (List.nil_subset _)
    intro e mem last
    exact absurd (attended e mem) (not_lt.mpr last)

/-- In a run that looks after its last attempts, every undelivered row whose lease or
backoff has elapsed is eligible for the next poll. -/
theorem elapsed_row_pollable (shared : ∀ w, (sys.config w).maxAttempts = budget)
    (positive : 1 ≤ budget) (bindable : budget ≤ i32Max)
    (deadLettering : sys.deadLettering = true) {now : τ} {events : List (Event ω κ τ γ)}
    (allowed : ((machine sys).under (Attended budget)).Allowed (initial now) events) :
    ∀ k r, ((machine sys).run (initial now) events).tables.main.find k = some r →
      r.deliveredAt = none →
      r.isElapsed ((machine sys).run (initial now) events).now = true →
      r.isPollable ((machine sys).run (initial now) events).now
        (sys.dialect.pollBound budget) = true := by
  have start : Watched sys budget (initial now : State ω κ τ γ) := by
    refine ⟨fun w => polled_nil w, ?_, ?_⟩
    · intro w e mem
      cases mem
    · intro k r found
      cases found
  have watched : Watched sys budget ((machine sys).run (initial now) events) :=
    invariant_under_condition start
      (fun _ _ h enabled attended =>
        watched_step h shared positive bindable deadLettering enabled attended) allowed
  intro k r found undelivered elapsed
  rcases watched.rows k r found undelivered with below | ⟨_, _, _, _, _, deadline, lease, ahead⟩
  · rw [Row.isPollable, elapsed, undelivered, pollBound_eq sys.dialect bindable]
    simpa using below
  · simp only [Row.isElapsed, lease, decide_eq_true_eq] at elapsed
    exact absurd ahead (not_lt.mpr elapsed)

section Sample

instance [Fintype ω] (s : State ω κ τ γ) (e : Event ω κ τ γ) :
    Decidable (Attended budget s e) :=
  match e with
  | .tick later => inferInstanceAs (Decidable (∀ w, ∀ e ∈ (s.workers w).held,
      budget ≤ e.claimedAttempt → ∀ r ∈ s.tables.main.find e.eventId,
        r.attempts = e.claimedAttempt → ∀ deadline ∈ r.nextRetryAt, later < deadline))
  | .claim _ deadline => inferInstanceAs (Decidable (s.now < deadline))
  | .settle w outcome _ => inferInstanceAs (Decidable (∀ e ∈ (s.workers w).held.head?,
      outcome ≠ .ok () → budget ≤ e.claimedAttempt → s.tables.deadLetter.find e.eventId = none))
  | .rollback w => inferInstanceAs (Decidable (∀ e ∈ (s.workers w).held.head?,
      e.claimedAttempt < budget))
  | .crash w => inferInstanceAs (Decidable (∀ e ∈ (s.workers w).held, e.claimedAttempt < budget))
  | .insert _ _ => isTrue trivial
  | .poll _ _ => isTrue trivial

/-- A worker crashes with a first attempt; the last one fails within its lease and the
envelope is dead-lettered, while a second envelope waits for its retry. -/
def attendedRun : List (Event Bool ℕ ℕ Unit) :=
  [.insert 7 (), .poll false [], .claim false 30, .tick 10, .crash false, .insert 8 (), .tick 30,
    .poll true [], .claim true 60, .tick 40, .settle true (.error "handler failed") 90,
    .settle true (.error "handler failed") 50, .tick 55]

theorem elapsed_row_pollable_sample :
    ((machine sampleSystem).under (Attended 2)).Allowed (initial 0) attendedRun ∧
      ∀ k r, ((machine sampleSystem).run (initial 0) attendedRun).tables.main.find k = some r →
        r.deliveredAt = none →
        r.isElapsed ((machine sampleSystem).run (initial 0) attendedRun).now = true →
        r.isPollable ((machine sampleSystem).run (initial 0) attendedRun).now
          (sampleSystem.dialect.pollBound 2) = true := by
  have allowed : ((machine sampleSystem).under (Attended 2)).Allowed (initial 0) attendedRun := by
    decide +kernel
  exact ⟨allowed, elapsed_row_pollable (fun _ => rfl) (by decide) (by decide) rfl allowed⟩

/-- Up to the claim of the second and last attempt. -/
def lastAttempt : List (Event Bool ℕ ℕ Unit) :=
  [.insert 7 (), .poll false [], .claim false 30, .settle false (.error "handler failed") 20,
    .tick 20, .poll true [], .claim true 50]

/-- Undelivered, neither leased nor backed off, and excluded by its counter. -/
def Stranded (sys : System ω γ) (budget : ℕ) (s : State ω κ τ γ) (k : κ) : Prop :=
  ∃ r ∈ s.tables.main.find k, r.deliveredAt = none ∧ r.isElapsed s.now = true ∧
    r.isPollable s.now (sys.dialect.pollBound budget) = false

instance (sys : System ω γ) (s : State ω κ τ γ) (k : κ) : Decidable (Stranded sys budget s k) :=
  inferInstanceAs (Decidable (∃ r ∈ s.tables.main.find k, r.deliveredAt = none ∧
    r.isElapsed s.now = true ∧ r.isPollable s.now (sys.dialect.pollBound budget) = false))

def crashedRun : List (Event Bool ℕ ℕ Unit) := lastAttempt ++ [.crash true, .tick 50]

def rolledBackRun : List (Event Bool ℕ ℕ Unit) := lastAttempt ++ [.rollback true, .tick 50]

/-- A crash after the last claim strands the row, and so does a failed settlement. -/
theorem last_attempt_strands_row :
    ((machine sampleSystem).Allowed (initial 0) crashedRun ∧
      Stranded sampleSystem 2 ((machine sampleSystem).run (initial 0) crashedRun) 7) ∧
    (machine sampleSystem).Allowed (initial 0) rolledBackRun ∧
      Stranded sampleSystem 2 ((machine sampleSystem).run (initial 0) rolledBackRun) 7 := by
  decide +kernel

end Sample

/-- An exhausted row that no worker has in hand. -/
structure Abandoned (sys : System ω γ) (budget : ℕ) (k : κ) (r : Row τ γ)
    (s : State ω κ τ γ) : Prop where
  row : s.tables.main.find k = some r
  exhausted : sys.dialect.pollBound budget ≤ r.attempts
  unpolled : ∀ w, ∀ row ∈ (s.workers w).polled, row.1 ≠ k
  unheld : ∀ w, ∀ e ∈ (s.workers w).held, e.eventId ≠ k

omit [LinearOrder τ] in
theorem abandoned_worker {k : κ} {r : Row τ γ} (h : Abandoned sys budget k r s)
    {w : ω} (worker : Worker κ τ γ) {t : Tables κ τ γ} (row : t.main.find k = some r)
    (unpolled : ∀ row ∈ worker.polled, row.1 ≠ k) (unheld : ∀ e ∈ worker.held, e.eventId ≠ k) :
    Abandoned sys budget k r { s.setWorker w worker with tables := t } where
  row := row
  exhausted := h.exhausted
  unpolled := forall_setWorker (P := fun _ worker => ∀ row ∈ worker.polled, row.1 ≠ k)
    h.unpolled unpolled
  unheld := forall_setWorker (P := fun _ worker => ∀ e ∈ worker.held, e.eventId ≠ k)
    h.unheld unheld

omit [LinearOrder τ] in
theorem abandoned_claim {k : κ} {r : Row τ γ} (h : Abandoned sys budget k r s) (w : ω)
    (deadline : τ) : Abandoned sys budget k r (claimStep s w deadline) := by
  have away : ∀ e ∈ (s.workers w).polled.map envelopeOf, e.eventId ≠ k := by
    intro e mem
    obtain ⟨row, read, rfl⟩ := List.mem_map.mp mem
    exact h.unpolled w row read
  rcases claimStep_cases s w deadline with failed | ⟨claims, bound, shape⟩
  · rw [failed]
    exact abandoned_worker h .idle h.row (by simp [Worker.idle, Worker.polled])
      (by simp [Worker.idle, Worker.held])
  · rw [shape]
    have row : (claim deadline s.tables.main claims).1.find k = some r := by
      rw [find_claim, h.row, Option.map_some, if_neg]
      intro offered
      obtain ⟨e, mem, same, _⟩ := (mem_bindableClaims bound).mp offered
      exact away e mem same
    have kept := abandoned_worker h (w := w) (.settling (won s w deadline claims))
      (t := { s.tables with main := (claim deadline s.tables.main claims).1 }) row
      (by simp [Worker.polled]) fun e mem => away e (List.mem_filter.mp mem).1
    exact ⟨kept.row, kept.exhausted, kept.unpolled, kept.unheld⟩

theorem abandoned_step {k : κ} {r : Row τ γ} (h : Abandoned sys budget k r s)
    (shared : ∀ w, (sys.config w).maxAttempts = budget) {e : Event ω κ τ γ}
    (enabled : Enabled s e) : Abandoned sys budget k r (next sys s e) := by
  cases e with
  | tick later => exact ⟨h.row, h.exhausted, h.unpolled, h.unheld⟩
  | insert eventId content => exact ⟨find_after_insert h.row, h.exhausted, h.unpolled, h.unheld⟩
  | poll w locked =>
    apply abandoned_worker h _ h.row
    · rintro row mem rfl
      -- the poll read the stored row, whose counter is at the bound
      have read := (mem_select (List.mem_filter.mp mem).1).1
      rw [h.row] at read
      cases read
      have below := (polled_poll sys s w locked).below row mem
      rw [shared] at below
      exact absurd below (not_lt.mpr h.exhausted)
    · simp [Worker.held]
  | claim w deadline => exact abandoned_claim h w deadline
  | settle w outcome retryAt =>
    obtain ⟨e, rest, held⟩ := List.exists_cons_of_ne_nil enabled
    have away : ∀ e' ∈ e :: rest, e'.eventId ≠ k := held ▸ h.unheld w
    rw [List.forall_mem_cons] at away
    rcases settleStep_cases sys held outcome retryAt with
      ⟨_, _, shape⟩ | ⟨t, a, settled, shape⟩
    · simp only [next, shape]
      exact abandoned_worker h _ h.row (by simp [Worker.polled]) away.2
    · simp only [next, shape]
      refine abandoned_worker h _ ?_ (by simp [Worker.polled]) away.2
      exact (settles_of_ok settled).find_of_unfenced h.row fun same => absurd same.symm away.1
  | rollback w =>
    exact abandoned_worker h _ h.row (by simp [Worker.polled])
      fun e mem => h.unheld w e (List.tail_subset _ mem)
  | crash w =>
    exact abandoned_worker h .idle h.row (by simp [Worker.idle, Worker.polled])
      (by simp [Worker.idle, Worker.held])

/-- No later step of any worker takes such a row up: it stays as it is. -/
theorem abandoned_run {k : κ} {r : Row τ γ} (h : Abandoned sys budget k r s)
    (shared : ∀ w, (sys.config w).maxAttempts = budget) {events : List (Event ω κ τ γ)}
    (allowed : (machine sys).Allowed s events) :
    Abandoned sys budget k r ((machine sys).run s events) :=
  invariant_of_steps h (fun _ _ h enabled => abandoned_step h shared enabled) allowed

end OutboxStranding
