import Hexeract.LibraryMachines
import Hexeract.OutboxStatements

/-! # Outbox workers over one database

Any number of workers poll, claim and settle; a worker may crash at any point, which
abandons its open transaction and what it held. A transaction that writes is one step:
its rows stay locked until it commits. A poll is a step of its own, and other
transactions may come between it and the claim. `inserted` and `obtained` are histories:
the event ids ever inserted, and the attempt numbers claims have given to workers. -/
namespace OutboxWorkers

open LibraryCollections LibraryTables LibraryMachines OutboxStatements

structure Config where
  batchSize : ℕ
  maxAttempts : ℕ
  deriving DecidableEq, Repr

/-- The store, the configuration of each worker, and which contents decode. -/
structure System (ω γ : Type) where
  dialect : Dialect
  deadLettering : Bool
  config : ω → Config
  decodes : γ → Bool

/-- A worker is between the poll and the claim of a batch, or settles what it claimed. -/
inductive Worker (κ τ γ : Type) where
  | claiming (batch : List (κ × Row τ γ))
  | settling (batch : List (Envelope κ))

def Worker.polled {κ τ γ : Type} : Worker κ τ γ → List (κ × Row τ γ)
  | .claiming batch => batch
  | .settling _ => []

def Worker.held {κ τ γ : Type} : Worker κ τ γ → List (Envelope κ)
  | .claiming _ => []
  | .settling batch => batch

theorem Worker.held_eq_nil {κ τ γ : Type} {worker : Worker κ τ γ} (polling : worker.polled ≠ []) :
    worker.held = [] := by
  cases worker with
  | claiming batch => rfl
  | settling batch => exact absurd rfl polling

structure Obtained (ω κ : Type) where
  worker : ω
  eventId : κ
  attempt : ℕ
  deriving DecidableEq, Repr

def Obtained.number {ω κ : Type} (o : Obtained ω κ) : κ × ℕ := (o.eventId, o.attempt)

structure State (ω κ τ γ : Type) where
  now : τ
  tables : Tables κ τ γ
  workers : ω → Worker κ τ γ
  inserted : List κ
  obtained : List (Obtained ω κ)

inductive Event (ω κ τ γ : Type) where
  | tick (later : τ)
  | insert (eventId : κ) (content : γ)
  | poll (w : ω) (locked : List κ)
  | claim (w : ω) (deadline : τ)
  | settle (w : ω) (outcome : Except String Unit) (retryAt : τ)
  | rollback (w : ω)
  | crash (w : ω)

variable {ω κ τ γ : Type}

def Worker.idle : Worker κ τ γ := .settling []

def initial (now : τ) : State ω κ τ γ := ⟨now, ⟨.empty, .empty⟩, fun _ => .idle, [], []⟩

def envelopeOf (row : κ × Row τ γ) : Envelope κ := ⟨row.1, attemptsOf row.2.attempts⟩

/-- `bindable_claims`: one attempt number that cannot be bound fails the whole claim. -/
def bindableClaims (batch : List (Envelope κ)) : Except OutboxError (List (κ × ℤ)) :=
  batch.mapM fun e => (fenceValue e.attempts).map fun attempt => (e.eventId, attempt)

section Step

variable [DecidableEq ω] [DecidableEq κ] [LinearOrder τ] (sys : System ω γ)

def State.setWorker (s : State ω κ τ γ) (w : ω) (worker : Worker κ τ γ) : State ω κ τ γ :=
  { s with workers := Function.update s.workers w worker }

/-- Rows that do not decode are skipped after the limit was applied. -/
def pollStep (s : State ω κ τ γ) (w : ω) (locked : List κ) : State ω κ τ γ :=
  let rows := poll s.now (sys.dialect.pollBound (sys.config w).maxAttempts) s.tables.main locked
    (sys.config w).batchSize
  s.setWorker w (.claiming (rows.filter fun row => sys.decodes row.2.content))

def won (s : State ω κ τ γ) (w : ω) (deadline : τ) (claims : List (κ × ℤ)) :
    List (Envelope κ) :=
  ((s.workers w).polled.map envelopeOf).filter fun e =>
    (claim deadline s.tables.main claims).2.contains e.eventId

/-- The claim and the commit. The worker goes on with the envelopes it obtained. -/
def claimStep (s : State ω κ τ γ) (w : ω) (deadline : τ) : State ω κ τ γ :=
  match bindableClaims ((s.workers w).polled.map envelopeOf) with
  | .error _ => s.setWorker w .idle
  | .ok claims =>
    { s.setWorker w (.settling (won s w deadline claims)) with
      tables := { s.tables with main := (claim deadline s.tables.main claims).1 }
      obtained := s.obtained ++
        (won s w deadline claims).map fun e => ⟨w, e.eventId, e.claimedAttempt⟩ }

/-- The settlement of the next envelope; an error rolls back and the batch goes on. -/
def settleStep (s : State ω κ τ γ) (w : ω) (outcome : Except String Unit) (retryAt : τ) :
    State ω κ τ γ :=
  match (s.workers w).held with
  | [] => s
  | e :: rest =>
    match dispatchAndSettle sys.deadLettering (sys.config w).maxAttempts s.now retryAt s.tables e
      outcome with
    | .error _ => s.setWorker w (.settling rest)
    | .ok settled => { s.setWorker w (.settling rest) with tables := settled.1 }

def Enabled (s : State ω κ τ γ) : Event ω κ τ γ → Prop
  | .poll w _ => (s.workers w).polled = [] ∧ (s.workers w).held = []
  | .claim w _ => (s.workers w).polled ≠ []
  | .settle w _ _ => (s.workers w).held ≠ []
  | .rollback w => (s.workers w).held ≠ []
  | _ => True

instance (s : State ω κ τ γ) (e : Event ω κ τ γ) : Decidable (Enabled s e) := by
  cases e <;> simp only [Enabled] <;> infer_instance

def next (s : State ω κ τ γ) : Event ω κ τ γ → State ω κ τ γ
  | .tick later => { s with now := later }
  | .insert eventId content =>
    { s with
      tables := { s.tables with main :=
        (s.tables.main.insert eventId (.fresh s.inserted.length content)).getD s.tables.main }
      inserted := eventId :: s.inserted }
  | .poll w locked => pollStep sys s w locked
  | .claim w deadline => claimStep s w deadline
  | .settle w outcome retryAt => settleStep sys s w outcome retryAt
  | .rollback w => s.setWorker w (.settling (s.workers w).held.tail)
  | .crash w => s.setWorker w .idle

def machine : Machine (State ω κ τ γ) (Event ω κ τ γ) := ⟨Enabled, next sys⟩

instance (s : State ω κ τ γ) (e : Event ω κ τ γ) : Decidable ((machine sys).enabled s e) :=
  inferInstanceAs (Decidable (Enabled s e))

def InsertsOnce (s : State ω κ τ γ) : Event ω κ τ γ → Prop
  | .insert eventId _ => eventId ∉ s.inserted
  | _ => True

/-- No other statement has touched the polled rows when their claim runs. -/
def Untouched (s : State ω κ τ γ) : Event ω κ τ γ → Prop
  | .claim w _ => ∀ row ∈ (s.workers w).polled, s.tables.main.find row.1 = some row.2
  | _ => True

end Step

theorem mem_bindableClaims {batch : List (Envelope κ)} {claims : List (κ × ℤ)}
    (bound : bindableClaims batch = .ok claims) {k : κ} {attempt : ℤ} :
    (k, attempt) ∈ claims ↔ ∃ e ∈ batch, e.eventId = k ∧ (e.attempts : ℤ) = attempt := by
  rw [mem_listMapM_ok bound]
  constructor
  · rintro ⟨e, mem, h⟩
    obtain ⟨fence, value, shape⟩ := map_ok.mp h
    obtain ⟨-, rfl⟩ := fenceValue_ok.mp value
    cases shape
    exact ⟨e, mem, rfl, rfl⟩
  · rintro ⟨e, mem, rfl, rfl⟩
    -- every envelope of the batch was bindable, or the claim would have failed
    obtain ⟨pair, h⟩ := exists_listMapM_ok.mp ⟨claims, bound⟩ e mem
    obtain ⟨fence, value, _⟩ := map_ok.mp h
    obtain ⟨-, rfl⟩ := fenceValue_ok.mp value
    exact ⟨e, mem, map_ok.mpr ⟨_, value, rfl⟩⟩

section Proofs

variable [DecidableEq ω] [DecidableEq κ] [LinearOrder τ] {sys : System ω γ} {s : State ω κ τ γ}

/-- What a poll leaves with a worker: distinct rows, undelivered and below the bound. -/
structure Polled (sys : System ω γ) (w : ω) (rows : List (κ × Row τ γ)) : Prop where
  distinct : (rows.map Prod.fst).Nodup
  undelivered : ∀ row ∈ rows, row.2.deliveredAt = none
  below : ∀ row ∈ rows, row.2.attempts < sys.dialect.pollBound (sys.config w).maxAttempts

omit [DecidableEq ω] [DecidableEq κ] [LinearOrder τ] in
theorem polled_nil (w : ω) : Polled sys w ([] : List (κ × Row τ γ)) :=
  ⟨List.nodup_nil, by simp, by simp⟩

omit [DecidableEq ω] in
theorem polled_poll (sys : System ω γ) (s : State ω κ τ γ) (w : ω) (locked : List κ) :
    Polled sys w ((poll s.now (sys.dialect.pollBound (sys.config w).maxAttempts) s.tables.main
      locked (sys.config w).batchSize).filter fun row => sys.decodes row.2.content) := by
  have pollable : ∀ row ∈ poll s.now (sys.dialect.pollBound (sys.config w).maxAttempts)
      s.tables.main locked (sys.config w).batchSize,
      row.2.deliveredAt = none ∧
        row.2.attempts < sys.dialect.pollBound (sys.config w).maxAttempts := by
    intro row mem
    have matched := (mem_select mem).2
    simp only [Row.isPollable, Bool.and_eq_true, Option.isNone_iff_eq_none,
      decide_eq_true_eq] at matched
    exact matched.1.1
  refine ⟨?_, ?_, ?_⟩
  · exact (select_keys_nodup _ _ _ _).sublist (List.filter_sublist.map _)
  · intro row mem
    exact (pollable row (List.mem_filter.mp mem).1).1
  · intro row mem
    exact (pollable row (List.mem_filter.mp mem).1).2

omit [LinearOrder τ] in
/-- A claim fails before it writes, or writes and reports what it wrote. -/
theorem claimStep_cases (s : State ω κ τ γ) (w : ω) (deadline : τ) :
    claimStep s w deadline = s.setWorker w .idle ∨
      ∃ claims, bindableClaims ((s.workers w).polled.map envelopeOf) = .ok claims ∧
        claimStep s w deadline =
          { s.setWorker w (.settling (won s w deadline claims)) with
            tables := { s.tables with main := (claim deadline s.tables.main claims).1 }
            obtained := s.obtained ++
              (won s w deadline claims).map fun e => ⟨w, e.eventId, e.claimedAttempt⟩ } := by
  unfold claimStep
  cases bound : bindableClaims ((s.workers w).polled.map envelopeOf) with
  | error _ => exact Or.inl rfl
  | ok claims => exact Or.inr ⟨claims, rfl, rfl⟩

omit [LinearOrder τ] in
theorem settleStep_cases (sys : System ω γ) {w : ω} {e : Envelope κ} {rest : List (Envelope κ)}
    (held : (s.workers w).held = e :: rest) (outcome : Except String Unit) (retryAt : τ) :
    (∃ err, dispatchAndSettle sys.deadLettering (sys.config w).maxAttempts s.now retryAt
        s.tables e outcome = .error err ∧
      settleStep sys s w outcome retryAt = s.setWorker w (.settling rest)) ∨
    ∃ t a, dispatchAndSettle sys.deadLettering (sys.config w).maxAttempts s.now retryAt
        s.tables e outcome = .ok (t, a) ∧
      settleStep sys s w outcome retryAt = { s.setWorker w (.settling rest) with tables := t } := by
  unfold settleStep
  rw [held]
  dsimp only
  cases settled : dispatchAndSettle sys.deadLettering (sys.config w).maxAttempts s.now retryAt
      s.tables e outcome with
  | error err => exact Or.inl ⟨err, rfl, rfl⟩
  | ok result => exact Or.inr ⟨result.1, result.2, rfl, rfl⟩

omit [DecidableEq ω] [DecidableEq κ] [LinearOrder τ] in
theorem batch_ids_nodup {w : ω} {rows : List (κ × Row τ γ)} (polled : Polled sys w rows) :
    ((rows.map envelopeOf).map Envelope.eventId).Nodup := by
  rw [List.map_map]
  exact polled.distinct

omit [DecidableEq ω] [LinearOrder τ] in
theorem mem_won {w : ω} {deadline : τ} {claims : List (κ × ℤ)} {e : Envelope κ}
    (polled : Polled sys w (s.workers w).polled)
    (bound : bindableClaims ((s.workers w).polled.map envelopeOf) = .ok claims) :
    e ∈ won s w deadline claims ↔ e ∈ (s.workers w).polled.map envelopeOf ∧
      ∃ r, s.tables.main.find e.eventId = some r ∧ r.attempts = e.attempts := by
  simp only [won, List.mem_filter, List.contains_iff_mem, mem_claim, mem_bindableClaims bound]
  constructor
  · rintro ⟨mem, r, found, e', mem', same, attempt⟩
    have : e' = e := List.inj_on_of_nodup_map (batch_ids_nodup polled) mem' mem same
    subst this
    exact ⟨mem, r, found, attempt.symm⟩
  · rintro ⟨mem, r, found, attempt⟩
    exact ⟨mem, r, found, e, mem, rfl, attempt.symm⟩

omit [DecidableEq ω] [LinearOrder τ] in
theorem row_after_claim {w : ω} {deadline : τ} {claims : List (κ × ℤ)} {k : κ} {r' : Row τ γ}
    (polled : Polled sys w (s.workers w).polled)
    (bound : bindableClaims ((s.workers w).polled.map envelopeOf) = .ok claims)
    (found' : (claim deadline s.tables.main claims).1.find k = some r') :
    (s.tables.main.find k = some r' ∧ ∀ e ∈ won s w deadline claims, e.eventId ≠ k) ∨
      ∃ r, s.tables.main.find k = some r ∧
        r' = { r with nextRetryAt := some deadline, attempts := r.attempts + 1 } ∧
        ∃ e ∈ won s w deadline claims, e.eventId = k ∧ r.attempts = e.attempts := by
  rw [find_claim] at found'
  obtain ⟨r, found, shape⟩ := Option.map_eq_some_iff.mp found'
  by_cases offered : (k, r.attempts) ∈ claims
  · rw [if_pos offered] at shape
    obtain ⟨e, mem, rfl, attempt⟩ := (mem_bindableClaims bound).mp offered
    refine Or.inr ⟨r, found, shape.symm, e, ?_, rfl, attempt.symm⟩
    exact (mem_won polled bound).mpr ⟨mem, r, found, attempt.symm⟩
  · rw [if_neg offered] at shape
    subst shape
    refine Or.inl ⟨found, ?_⟩
    rintro e mem rfl
    obtain ⟨mem, r', found', attempt⟩ := (mem_won polled bound).mp mem
    rw [found] at found'
    cases found'
    exact offered ((mem_bindableClaims bound).mpr ⟨e, mem, rfl, attempt.symm⟩)

omit [DecidableEq κ] [LinearOrder τ] in
theorem forall_setWorker {P : ω → Worker κ τ γ → Prop} {w : ω} {worker : Worker κ τ γ}
    (all : ∀ v, P v (s.workers v)) (mine : P w worker) :
    ∀ v, P v ((s.setWorker w worker).workers v) := by
  intro v
  by_cases same : v = w
  · subst same
    simpa [State.setWorker] using mine
  · simpa [State.setWorker, same] using all v

/-- What the workers hold of their polls, in every state of every run. -/
def WellPolled (sys : System ω γ) (s : State ω κ τ γ) : Prop :=
  ∀ w, Polled sys w (s.workers w).polled

omit [DecidableEq κ] [LinearOrder τ] in
theorem WellPolled.setWorker (h : WellPolled sys s) {w : ω} {worker : Worker κ τ γ}
    (own : Polled sys w worker.polled) : WellPolled sys (s.setWorker w worker) :=
  forall_setWorker (P := fun v worker => Polled sys v worker.polled) h own

omit [DecidableEq κ] [LinearOrder τ] in
theorem WellPolled.settling (h : WellPolled sys s) (w : ω) (held : List (Envelope κ)) :
    WellPolled sys (s.setWorker w (.settling held)) :=
  h.setWorker (polled_nil w)

theorem wellPolled_step (h : WellPolled sys s) {e : Event ω κ τ γ} (enabled : Enabled s e) :
    WellPolled sys (next sys s e) := by
  cases e with
  | tick later => exact h
  | insert eventId content => exact h
  | poll w locked => exact h.setWorker (polled_poll sys s w locked)
  | claim w deadline =>
    rcases claimStep_cases s w deadline with failed | ⟨claims, _, shape⟩
    · simp only [next, failed]
      exact h.settling w []
    · simp only [next, shape]
      exact h.settling w _
  | settle w outcome retryAt =>
    obtain ⟨e, rest, held⟩ := List.exists_cons_of_ne_nil enabled
    rcases settleStep_cases sys held outcome retryAt with
      ⟨_, _, shape⟩ | ⟨_, _, _, shape⟩
    · simp only [next, shape]
      exact h.settling w rest
    · simp only [next, shape]
      exact h.settling w rest
  | rollback w => exact h.settling w _
  | crash w => exact h.settling w []

/-- The counter of a row is at or past every attempt number claims have given out. -/
structure Sound (sys : System ω γ) (s : State ω κ τ γ) : Prop where
  polled : WellPolled sys s
  known : ∀ k r, s.tables.main.find k = some r → k ∈ s.inserted
  counted : ∀ k r, s.tables.main.find k = some r → ∀ o ∈ s.obtained, o.eventId = k →
    (o.attempt : ℤ) ≤ r.attempts
  claimed : ∀ o ∈ s.obtained, o.eventId ∈ s.inserted
  once : (s.obtained.map Obtained.number).Nodup
  held : ∀ w, ∀ e ∈ (s.workers w).held, Obtained.mk w e.eventId e.claimedAttempt ∈ s.obtained

omit [DecidableEq ω] [LinearOrder τ] in
theorem sound_initial (now : τ) : Sound sys (initial now : State ω κ τ γ) where
  polled := fun w => polled_nil w
  known := by
    intro k r found
    cases found
  counted := by
    intro k r found
    cases found
  claimed := by
    intro o mem
    cases mem
  once := List.nodup_nil
  held := by
    intro w e mem
    cases mem

omit [LinearOrder τ] in
theorem sound_rows (h : Sound sys s) {w : ω} {worker : Worker κ τ γ} {t : Tables κ τ γ}
    (own : Polled sys w worker.polled) (kept : worker.held ⊆ (s.workers w).held)
    (rows : ∀ k r', t.main.find k = some r' →
      ∃ r, s.tables.main.find k = some r ∧ r'.attempts = r.attempts) :
    Sound sys { s.setWorker w worker with tables := t } where
  polled := h.polled.setWorker own
  known := by
    intro k r' found'
    obtain ⟨r, found, _⟩ := rows k r' found'
    exact h.known k r found
  counted := by
    intro k r' found' o mem same
    obtain ⟨r, found, attempts⟩ := rows k r' found'
    rw [attempts]
    exact h.counted k r found o mem same
  claimed := h.claimed
  once := h.once
  held := forall_setWorker
    (P := fun v worker => ∀ e ∈ worker.held,
      Obtained.mk v e.eventId e.claimedAttempt ∈ s.obtained)
    h.held fun e mem => h.held w e (kept mem)

theorem row_after_insert {eventId k : κ} {content : γ} {r' : Row τ γ}
    (found' : (next sys s (.insert eventId content)).tables.main.find k = some r') :
    (k = eventId ∧ r' = .fresh s.inserted.length content) ∨
      s.tables.main.find k = some r' := by
  simp only [next] at found'
  cases inserted : s.tables.main.insert eventId (Row.fresh s.inserted.length content) with
  | none =>
    rw [inserted] at found'
    exact Or.inr found'
  | some t =>
    rw [inserted, Option.getD_some, find_insert inserted] at found'
    split at found'
    · rename_i same
      exact Or.inl ⟨same, (Option.some.inj found').symm⟩
    · exact Or.inr found'

theorem find_after_insert {eventId k : κ} {content : γ} {r : Row τ γ}
    (found : s.tables.main.find k = some r) :
    (next sys s (.insert eventId content)).tables.main.find k = some r := by
  simp only [next]
  cases inserted : s.tables.main.insert eventId (Row.fresh s.inserted.length content) with
  | none => exact found
  | some t => exact find_insert_of_some inserted found

theorem sound_insert (h : Sound sys s) {eventId : κ} {content : γ} (new : eventId ∉ s.inserted) :
    Sound sys (next sys s (.insert eventId content)) := by
  constructor
  · exact h.polled
  · intro k r' found'
    rcases row_after_insert found' with ⟨rfl, _⟩ | found
    · exact List.mem_cons_self
    · exact List.mem_cons_of_mem _ (h.known k r' found)
  · intro k r' found' o mem same
    rcases row_after_insert found' with ⟨rfl, _⟩ | found
    · exact absurd (same ▸ h.claimed o mem) new
    · exact h.counted k r' found o mem same
  · intro o mem
    exact List.mem_cons_of_mem _ (h.claimed o mem)
  · exact h.once
  · exact h.held

omit [DecidableEq ω] [LinearOrder τ] in
theorem won_ids_nodup {w : ω} (polled : Polled sys w (s.workers w).polled) (deadline : τ)
    (claims : List (κ × ℤ)) : ((won s w deadline claims).map Envelope.eventId).Nodup :=
  (batch_ids_nodup polled).sublist (List.filter_sublist.map _)

omit [LinearOrder τ] in
theorem sound_claim (h : Sound sys s) (w : ω) (deadline : τ) :
    Sound sys (claimStep s w deadline) := by
  rcases claimStep_cases s w deadline with failed | ⟨claims, bound, shape⟩
  · rw [failed]
    exact sound_rows h (polled_nil w) (List.nil_subset _) fun k r found => ⟨r, found, rfl⟩
  rw [shape]
  have stored : ∀ e ∈ won s w deadline claims,
      ∃ r, s.tables.main.find e.eventId = some r ∧ r.attempts = e.attempts :=
    fun e mem => ((mem_won (h.polled w) bound).mp mem).2
  -- the counter was past every number given out, and the claim gives out the next one
  have ahead : ∀ o ∈ s.obtained, ∀ e ∈ won s w deadline claims, o.eventId = e.eventId →
      o.attempt < e.claimedAttempt := by
    intro o old e mem same
    obtain ⟨r, found, attempts⟩ := stored e mem
    have := h.counted _ r found o old same
    unfold Envelope.claimedAttempt
    omega
  constructor
  · exact h.polled.settling w _
  · intro k r' found'
    rcases row_after_claim (h.polled w) bound found' with ⟨found, _⟩ | ⟨r, found, _⟩
    · exact h.known k r' found
    · exact h.known k r found
  · intro k r' found' o mem same
    rcases row_after_claim (h.polled w) bound found' with
      ⟨found, lost⟩ | ⟨r, found, rfl, e, obtained, rfl, attempts⟩
    · rcases List.mem_append.mp mem with old | new
      · exact h.counted k r' found o old same
      · obtain ⟨e, obtained, rfl⟩ := List.mem_map.mp new
        exact absurd same (lost e obtained)
    · rcases List.mem_append.mp mem with old | new
      · have := h.counted _ r found o old same
        dsimp only
        omega
      · obtain ⟨e', obtained', rfl⟩ := List.mem_map.mp new
        have : e' = e :=
          List.inj_on_of_nodup_map (won_ids_nodup (h.polled w) deadline claims) obtained' obtained
            same
        subst this
        simp only [Envelope.claimedAttempt, attempts]
        omega
  · intro o mem
    rcases List.mem_append.mp mem with old | new
    · exact h.claimed o old
    · obtain ⟨e, obtained, rfl⟩ := List.mem_map.mp new
      obtain ⟨r, found, _⟩ := stored e obtained
      exact h.known _ r found
  · rw [List.map_append, List.nodup_append']
    refine ⟨h.once, ?_, ?_⟩
    · apply List.Nodup.of_map Prod.fst
      rw [List.map_map, List.map_map]
      exact won_ids_nodup (h.polled w) deadline claims
    · intro number given giving
      obtain ⟨o, old, rfl⟩ := List.mem_map.mp given
      obtain ⟨_, new, same⟩ := List.mem_map.mp giving
      obtain ⟨e, obtained, rfl⟩ := List.mem_map.mp new
      obtain ⟨ids, attempts⟩ := Prod.mk.inj same
      exact absurd attempts.symm (ahead o old e obtained ids.symm).ne
  · apply forall_setWorker (P := fun v worker => ∀ e ∈ worker.held,
      Obtained.mk v e.eventId e.claimedAttempt ∈ s.obtained ++ _)
    · intro v e mem
      exact List.mem_append_left _ (h.held v e mem)
    · intro e mem
      exact List.mem_append_right _ (List.mem_map.mpr ⟨e, mem, rfl⟩)

theorem sound_step (h : Sound sys s) {e : Event ω κ τ γ} (enabled : Enabled s e)
    (new : InsertsOnce s e) : Sound sys (next sys s e) := by
  have unchanged : ∀ k r, s.tables.main.find k = some r →
      ∃ r', s.tables.main.find k = some r' ∧ r.attempts = r'.attempts :=
    fun k r found => ⟨r, found, rfl⟩
  cases e with
  | tick later => exact ⟨h.polled, h.known, h.counted, h.claimed, h.once, h.held⟩
  | insert eventId content => exact sound_insert h new
  | poll w locked => exact sound_rows h (polled_poll sys s w locked) (List.nil_subset _) unchanged
  | claim w deadline => exact sound_claim h w deadline
  | settle w outcome retryAt =>
    obtain ⟨e, rest, held⟩ := List.exists_cons_of_ne_nil enabled
    have kept : rest ⊆ (s.workers w).held := by
      rw [held]
      exact List.subset_cons_self e rest
    rcases settleStep_cases sys held outcome retryAt with
      ⟨_, _, shape⟩ | ⟨t, a, settled, shape⟩
    · simp only [next, shape]
      exact sound_rows h (polled_nil w) kept unchanged
    · simp only [next, shape]
      exact sound_rows h (polled_nil w) kept
        fun k r' found' => (settles_of_ok settled).row_of_row found'
  | rollback w => exact sound_rows h (polled_nil w) (List.tail_subset _) unchanged
  | crash w => exact sound_rows h (polled_nil w) (List.nil_subset _) unchanged

def Delivered (s : State ω κ τ γ) (k : κ) : Prop :=
  ∃ r ∈ s.tables.main.find k, r.deliveredAt ≠ none

/-- What the fences give in one state, for any settlement a worker may issue there. -/
structure Fencing (sys : System ω γ) (s : State ω κ τ γ) : Prop where
  once : (s.obtained.map Obtained.number).Nodup
  latest : ∀ w e rest outcome retryAt t a, (s.workers w).held = e :: rest →
    dispatchAndSettle sys.deadLettering (sys.config w).maxAttempts s.now retryAt s.tables e
      outcome = .ok (t, a) →
    (a ≠ .nothing ∨ ∃ k, t.main.find k ≠ s.tables.main.find k) →
      Obtained.mk w e.eventId e.claimedAttempt ∈ s.obtained ∧
        ∀ o ∈ s.obtained, o.eventId = e.eventId → o.attempt ≤ e.claimedAttempt
  keeps : ∀ w outcome retryAt k r, s.tables.main.find k = some r → r.deliveredAt ≠ none →
    (settleStep sys s w outcome retryAt).tables.main.find k = some r

omit [LinearOrder τ] in
/-- A settlement leaves delivered rows alone, in any state. -/
theorem settleStep_keeps_delivered {k : κ} {r : Row τ γ} (w : ω) (outcome : Except String Unit)
    (retryAt : τ) (found : s.tables.main.find k = some r) (delivered : r.deliveredAt ≠ none) :
    (settleStep sys s w outcome retryAt).tables.main.find k = some r := by
  cases held : (s.workers w).held with
  | nil =>
    rw [settleStep, held]
    exact found
  | cons e rest =>
    rcases settleStep_cases sys held outcome retryAt with
      ⟨_, _, shape⟩ | ⟨t, a, settled, shape⟩
    · rw [shape]
      exact found
    · rw [shape]
      exact (settles_of_ok settled).find_of_unfenced found fun _ _ => delivered

omit [LinearOrder τ] in
theorem fencing_of_sound (h : Sound sys s) : Fencing sys s where
  once := h.once
  latest := by
    intro w e rest outcome retryAt t a held settled applied
    obtain ⟨r, found, attempts, _⟩ := (settles_of_ok settled).fenced_of_applied applied
    refine ⟨h.held w e ?_, ?_⟩
    · rw [held]
      exact List.mem_cons_self
    · intro o mem same
      have := h.counted _ r found o mem same
      omega
  keeps := fun w outcome retryAt _ _ found delivered =>
    settleStep_keeps_delivered w outcome retryAt found delivered

/-- The envelope is delivered, and its claims are the ones of the history. -/
structure Closed (sys : System ω γ) (k : κ) (history : List (Obtained ω κ))
    (s : State ω κ τ γ) : Prop where
  polled : WellPolled sys s
  delivered : Delivered s k
  claims : ∀ o ∈ s.obtained, o.eventId = k → o ∈ history

omit [DecidableEq ω] [LinearOrder τ] in
theorem not_polled_of_delivered {w : ω} {deadline : τ} {k : κ}
    (polled : Polled sys w (s.workers w).polled) (untouched : Untouched s (.claim w deadline))
    (delivered : Delivered s k) : ∀ e ∈ (s.workers w).polled.map envelopeOf, e.eventId ≠ k := by
  rintro e mem rfl
  obtain ⟨row, read, rfl⟩ := List.mem_map.mp mem
  obtain ⟨r, found, set⟩ := delivered
  have same : s.tables.main.find row.1 = some r := found
  rw [untouched row read] at same
  cases same
  exact set (polled.undelivered row read)

omit [LinearOrder τ] in
theorem closed_claim {k : κ} {history : List (Obtained ω κ)} (h : Closed sys k history s)
    {w : ω} {deadline : τ} (untouched : Untouched s (.claim w deadline)) :
    Closed sys k history (claimStep s w deadline) := by
  have away := not_polled_of_delivered (h.polled w) untouched h.delivered
  rcases claimStep_cases s w deadline with failed | ⟨claims, bound, shape⟩
  · rw [failed]
    exact ⟨h.polled.settling w [], h.delivered, h.claims⟩
  · rw [shape]
    refine ⟨h.polled.settling w _, ?_, ?_⟩
    · obtain ⟨r, found, set⟩ := h.delivered
      refine ⟨r, ?_, set⟩
      rw [Option.mem_def, find_claim, Option.mem_def.mp found, Option.map_some, if_neg]
      intro offered
      obtain ⟨e, mem, same, _⟩ := (mem_bindableClaims bound).mp offered
      exact away e mem same
    · intro o mem same
      rcases List.mem_append.mp mem with old | new
      · exact h.claims o old same
      · obtain ⟨e, obtained, rfl⟩ := List.mem_map.mp new
        exact absurd same (away e (List.mem_filter.mp obtained).1)

theorem closed_step {k : κ} {history : List (Obtained ω κ)} (h : Closed sys k history s)
    {e : Event ω κ τ γ} (enabled : Enabled s e) (untouched : Untouched s e) :
    Closed sys k history (next sys s e) := by
  have polled := wellPolled_step h.polled enabled
  obtain ⟨r, found, set⟩ := h.delivered
  cases e with
  | tick later => exact ⟨polled, ⟨r, found, set⟩, h.claims⟩
  | insert eventId content => exact ⟨polled, ⟨r, find_after_insert found, set⟩, h.claims⟩
  | claim w deadline => exact closed_claim h untouched
  | settle w outcome retryAt =>
    refine ⟨polled, ⟨r, settleStep_keeps_delivered w outcome retryAt found set, set⟩, ?_⟩
    have same : (settleStep sys s w outcome retryAt).obtained = s.obtained := by
      obtain ⟨e, rest, held⟩ := List.exists_cons_of_ne_nil enabled
      rcases settleStep_cases sys held outcome retryAt with
        ⟨_, _, shape⟩ | ⟨_, _, _, shape⟩ <;> rw [shape] <;> rfl
    simp only [next, same]
    exact h.claims
  | poll w locked => exact ⟨polled, ⟨r, found, set⟩, h.claims⟩
  | rollback w => exact ⟨polled, ⟨r, found, set⟩, h.claims⟩
  | crash w => exact ⟨polled, ⟨r, found, set⟩, h.claims⟩

/-- Whatever the interleaving and the crashes, the claims of an envelope give out distinct
attempt numbers, a settlement applies only for the latest of them, and delivered rows stay
as they are; where polled rows are untouched until their claim, a delivered envelope is
not claimed again. -/
theorem claims_fence_settlements {now : τ} {events : List (Event ω κ τ γ)}
    (allowed : ((machine sys).under InsertsOnce).Allowed (initial now) events) :
    Fencing sys ((machine sys).run (initial now) events) ∧
      (((machine sys).under Untouched).Allowed (initial now) events →
        ∀ before after, events = before ++ after →
          ∀ k, Delivered ((machine sys).run (initial now) before) k →
            ∀ o ∈ ((machine sys).run (initial now) events).obtained, o.eventId = k →
              o ∈ ((machine sys).run (initial now) before).obtained) := by
  constructor
  · have sound : Sound sys ((machine sys).run (initial now) events) :=
      invariant_under_condition (sound_initial now)
        (fun _ _ h enabled new => sound_step h enabled new) allowed
    exact fencing_of_sound sound
  · rintro untouched before after rfl k delivered
    obtain ⟨first, second⟩ := allowed_append.mp untouched
    have polled : WellPolled sys ((machine sys).run (initial now) before) :=
      invariant_under_condition (fun w => polled_nil w)
        (fun _ _ h enabled _ => wellPolled_step h enabled) first
    have closed : Closed sys k ((machine sys).run (initial now) before).obtained
        ((machine sys).run ((machine sys).run (initial now) before) after) :=
      invariant_under_condition ⟨polled, delivered, fun _ mem _ => mem⟩
        (fun _ _ h enabled untouched => closed_step h enabled untouched) second
    rw [run_append]
    exact closed.claims

end Proofs

section Sample

instance [DecidableEq κ] (s : State ω κ τ γ) (e : Event ω κ τ γ) :
    Decidable (InsertsOnce s e) := by
  cases e <;> simp only [InsertsOnce] <;> infer_instance

instance [DecidableEq κ] [DecidableEq τ] [DecidableEq γ] (s : State ω κ τ γ)
    (e : Event ω κ τ γ) : Decidable (Untouched s e) := by
  cases e <;> simp only [Untouched] <;> infer_instance

def sampleSystem : System Bool Unit :=
  ⟨.sqlite, true, fun _ => ⟨10, 2⟩, fun _ => true⟩

/-- The first worker outlives its lease; the second takes the envelope over and delivers it. -/
def takenOver : List (Event Bool ℕ ℕ Unit) :=
  [.insert 7 (), .poll false [], .claim false 30, .tick 30, .poll true [], .claim true 60,
    .settle true (.ok ()) 60]

/-- The first worker reports a failure, and both poll again. -/
def reportedLate : List (Event Bool ℕ ℕ Unit) :=
  [.settle false (.error "handler failed") 50, .tick 90, .poll false [], .poll true []]

instance (s : State ω κ τ γ) (k : κ) [DecidableEq κ] : Decidable (Delivered s k) :=
  inferInstanceAs (Decidable (∃ r ∈ s.tables.main.find k, r.deliveredAt ≠ none))

theorem claims_fence_settlements_sample :
    ((machine sampleSystem).under InsertsOnce).Allowed (initial 0) (takenOver ++ reportedLate) ∧
      Delivered ((machine sampleSystem).run (initial 0) takenOver) 7 ∧
      Fencing sampleSystem
        ((machine sampleSystem).run (initial 0) (takenOver ++ reportedLate)) ∧
      ∀ o ∈ ((machine sampleSystem).run (initial 0) (takenOver ++ reportedLate)).obtained,
        o.eventId = 7 → o ∈ ((machine sampleSystem).run (initial 0) takenOver).obtained := by
  have allowed : ((machine sampleSystem).under InsertsOnce).Allowed (initial 0)
      (takenOver ++ reportedLate) := by decide +kernel
  have untouched : ((machine sampleSystem).under Untouched).Allowed (initial 0)
      (takenOver ++ reportedLate) := by decide +kernel
  have delivered : Delivered ((machine sampleSystem).run (initial 0) takenOver) 7 := by
    decide +kernel
  obtain ⟨fencing, closed⟩ := claims_fence_settlements allowed
  exact ⟨allowed, delivered, fencing, closed untouched takenOver reportedLate rfl 7 delivered⟩

end Sample

end OutboxWorkers
