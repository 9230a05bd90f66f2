import Hexeract.OutboxWorkers

/-! # Leases and dispatches in time

A batch is leased once, for as many dispatches as it has envelopes, and dispatched one
envelope after the other. Store operations take no time, so a worker that holds envelopes
is always in the dispatch of the first of them: it began when the batch was claimed or the
envelope before was settled, and the clock does not pass the end of its timeout before the
worker has gone on. Times are nanoseconds on the one clock all share. -/
namespace OutboxLeases

open LibraryTables LibraryMachines OutboxStatements
open OutboxWorkers hiding Enabled next machine initial

variable {ω κ γ : Type}

def u32Max : ℕ := 2 ^ 32 - 1

/-- `OutboxWorker::lease_for`; the product is exact. -/
def leaseFor (dispatchTimeout batchLen : ℕ) : ℕ := dispatchTimeout * min (max batchLen 1) u32Max

structure Timed (ω κ γ : Type) where
  state : State ω κ ℕ γ
  began : ω → ℕ
  leaseEnd : ω → ℕ

inductive Act (ω κ γ : Type) where
  | tick (later : ℕ)
  | insert (eventId : κ) (content : γ)
  | poll (w : ω) (locked : List κ)
  | claim (w : ω)
  | settle (w : ω) (outcome : Except String Unit) (retryIn : ℕ)
  | rollback (w : ω)
  | crash (w : ω)

def Timed.polled (s : Timed ω κ γ) (w : ω) : List (κ × Row ℕ γ) := (s.state.workers w).polled

def Timed.held (s : Timed ω κ γ) (w : ω) : List (Envelope κ) := (s.state.workers w).held

def initial (now : ℕ) : Timed ω κ γ := ⟨OutboxWorkers.initial now, fun _ => now, fun _ => now⟩

section Machine

variable [DecidableEq ω] [DecidableEq κ] (sys : System ω γ) (timeout : ω → ℕ)

def deadlineOf (s : Timed ω κ γ) (w : ω) : ℕ :=
  s.state.now + leaseFor (timeout w) (s.polled w).length

/-- The step of the untimed machine: a claim takes its lease and a failure its backoff
from the clock. -/
def eventOf (s : Timed ω κ γ) : Act ω κ γ → Event ω κ ℕ γ
  | .tick later => .tick later
  | .insert eventId content => .insert eventId content
  | .poll w locked => .poll w locked
  | .claim w => .claim w (deadlineOf timeout s w)
  | .settle w outcome retryIn => .settle w outcome (s.state.now + retryIn)
  | .rollback w => .rollback w
  | .crash w => .crash w

/-- A handler that runs into its timeout stops there, and the worker goes on at once. -/
def Enabled (s : Timed ω κ γ) (a : Act ω κ γ) : Prop :=
  OutboxWorkers.Enabled s.state (eventOf timeout s a) ∧
    match a with
    | .tick later => s.state.now ≤ later ∧
        ∀ w, s.held w ≠ [] → later ≤ s.began w + timeout w
    | _ => True

instance [Fintype ω] (s : Timed ω κ γ) : (a : Act ω κ γ) → Decidable (Enabled timeout s a)
  | .tick later => inferInstanceAs (Decidable (OutboxWorkers.Enabled s.state (.tick later) ∧
      s.state.now ≤ later ∧ ∀ w, s.held w ≠ [] → later ≤ s.began w + timeout w))
  | .insert eventId content =>
    inferInstanceAs (Decidable (OutboxWorkers.Enabled s.state (.insert eventId content) ∧ True))
  | .poll w locked =>
    inferInstanceAs (Decidable (OutboxWorkers.Enabled s.state (.poll w locked) ∧ True))
  | .claim w => inferInstanceAs (Decidable (OutboxWorkers.Enabled s.state
      (.claim w (deadlineOf timeout s w)) ∧ True))
  | .settle w outcome retryIn => inferInstanceAs (Decidable (OutboxWorkers.Enabled s.state
      (.settle w outcome (s.state.now + retryIn)) ∧ True))
  | .rollback w =>
    inferInstanceAs (Decidable (OutboxWorkers.Enabled s.state (.rollback w) ∧ True))
  | .crash w => inferInstanceAs (Decidable (OutboxWorkers.Enabled s.state (.crash w) ∧ True))

def turned (s : Timed ω κ γ) : Act ω κ γ → ω → ℕ
  | .claim w => Function.update s.began w s.state.now
  | .settle w _ _ => Function.update s.began w s.state.now
  | .rollback w => Function.update s.began w s.state.now
  | .crash w => Function.update s.began w s.state.now
  | _ => s.began

def next (s : Timed ω κ γ) (a : Act ω κ γ) : Timed ω κ γ where
  state := OutboxWorkers.next sys s.state (eventOf timeout s a)
  began := turned s a
  leaseEnd := match a with
    | .claim w => Function.update s.leaseEnd w (deadlineOf timeout s w)
    | _ => s.leaseEnd

def machine : Machine (Timed ω κ γ) (Act ω κ γ) := ⟨Enabled timeout, next sys timeout⟩

instance [Fintype ω] (s : Timed ω κ γ) (a : Act ω κ γ) :
    Decidable ((machine sys timeout).enabled s a) :=
  inferInstanceAs (Decidable (Enabled timeout s a))

def Dispatching (s : Timed ω κ γ) (w : ω) (k : κ) : Prop :=
  (s.held w).head?.map Envelope.eventId = some k ∧ s.state.now < s.began w + timeout w

instance (s : Timed ω κ γ) (w : ω) (k : κ) : Decidable (Dispatching timeout s w k) :=
  inferInstanceAs (Decidable (_ ∧ _))

/-- An event id enters the main table only while no worker has an envelope of it in hand. -/
def Unhanded (s : Timed ω κ γ) : Act ω κ γ → Prop
  | .insert eventId _ => (s.state.tables.main.find eventId).isSome = true ∨
      ∀ w, eventId ∉ (s.polled w).map Prod.fst ∧ eventId ∉ (s.held w).map Envelope.eventId
  | _ => True

instance [Fintype ω] (s : Timed ω κ γ) : (a : Act ω κ γ) → Decidable (Unhanded s a)
  | .insert eventId _ => inferInstanceAs (Decidable
      ((s.state.tables.main.find eventId).isSome = true ∨ ∀ w,
        eventId ∉ (s.polled w).map Prod.fst ∧ eventId ∉ (s.held w).map Envelope.eventId))
  | .tick _ => isTrue trivial
  | .poll _ _ => isTrue trivial
  | .claim _ => isTrue trivial
  | .settle _ _ _ => isTrue trivial
  | .rollback _ => isTrue trivial
  | .crash _ => isTrue trivial

end Machine

/-! ## What holds in every state -/

/-- A lease that lies ahead is the row's own, and its attempt number is nobody else's. -/
structure Exclusive [DecidableEq κ] (sys : System ω γ) (timeout : ω → ℕ) (s : Timed ω κ γ) :
    Prop where
  polled : WellPolled sys s.state
  sized : ∀ w, (s.polled w).length ≤ (sys.config w).batchSize
  counted : ∀ k r, s.state.tables.main.find k = some r → 0 ≤ r.attempts
  distinct : ∀ w, ((s.held w).map Envelope.eventId).Nodup
  running : ∀ w, s.held w ≠ [] → s.state.now ≤ s.began w + timeout w ∧
    s.began w + timeout w * (s.held w).length ≤ s.leaseEnd w
  guarded : ∀ w, ∀ e ∈ s.held w, s.state.now < s.leaseEnd w →
    ∃ r, s.state.tables.main.find e.eventId = some r ∧ r.attempts = e.claimedAttempt ∧
      r.nextRetryAt = some (s.leaseEnd w)
  stale : ∀ v, ∀ row ∈ s.polled v, ∀ w, ∀ e ∈ s.held w, e.eventId = row.1 →
    e.claimedAttempt = (envelopeOf row).attempts → s.leaseEnd w ≤ s.state.now
  behind : ∀ v, ∀ row ∈ s.polled v, ∀ r, s.state.tables.main.find row.1 = some r →
    ((envelopeOf row).attempts : ℤ) ≤ r.attempts
  reached : ∀ w, ∀ e ∈ s.held w, ∀ r, s.state.tables.main.find e.eventId = some r →
    (e.claimedAttempt : ℤ) ≤ r.attempts
  numbered : ∀ v w e e', e ∈ s.held v → e' ∈ s.held w → e.eventId = e'.eventId →
    e.claimedAttempt = e'.claimedAttempt → v = w

section Steps

variable [DecidableEq ω] [DecidableEq κ] {sys : System ω γ} {timeout : ω → ℕ} {s : Timed ω κ γ}

omit [DecidableEq ω] in
theorem Exclusive.dispatching_unique (h : Exclusive sys timeout s) {v w : ω} {k : κ}
    (first : Dispatching timeout s v k) (second : Dispatching timeout s w k) : v = w := by
  -- the dispatch of a head ends within the lease of its batch
  have leased : ∀ u, Dispatching timeout s u k → ∃ e ∈ s.held u, e.eventId = k ∧
      s.state.now < s.leaseEnd u := by
    rintro u ⟨head, runs⟩
    obtain ⟨e, first, same⟩ := Option.map_eq_some_iff.mp head
    have mem : e ∈ s.held u := List.mem_of_mem_head? first
    have holds : s.held u ≠ [] := List.ne_nil_of_mem mem
    refine ⟨e, mem, same, ?_⟩
    have within := (h.running u holds).2
    have positive : 1 ≤ (s.held u).length := List.length_pos_iff.mpr holds
    have := Nat.mul_le_mul_left (timeout u) positive
    omega
  obtain ⟨e, mem, rfl, ahead⟩ := leased v first
  obtain ⟨e', mem', same, ahead'⟩ := leased w second
  obtain ⟨r, found, attempts, _⟩ := h.guarded v e mem ahead
  obtain ⟨r', found', attempts', _⟩ := h.guarded w e' mem' ahead'
  rw [same, found] at found'
  cases found'
  refine h.numbered v w e e' mem mem' same.symm ?_
  omega

omit [DecidableEq ω] in
theorem exclusive_initial (now : ℕ) :
    Exclusive sys timeout (initial now : Timed ω κ γ) where
  polled := fun w => polled_nil w
  sized := fun w => Nat.zero_le _
  counted := by
    intro k r found
    cases found
  distinct := fun w => List.nodup_nil
  running := by
    intro w holds
    exact absurd rfl holds
  guarded := by
    intro w e mem
    cases mem
  stale := by
    intro v row mem
    cases mem
  behind := by
    intro v row mem
    cases mem
  reached := by
    intro w e mem
    cases mem
  numbered := by
    intro v w e e' mem
    cases mem

omit [DecidableEq ω] in
/-- Steps that put nothing new into a worker's hand and write no attempt number. -/
theorem exclusive_shrink (h : Exclusive sys timeout s) {after : Timed ω κ γ}
    (polled : WellPolled sys after.state) (later : s.state.now ≤ after.state.now)
    (leases : ∀ v, after.held v ≠ [] → after.leaseEnd v = s.leaseEnd v)
    (polledSub : ∀ v, (after.polled v).Sublist (s.polled v))
    (heldSub : ∀ v, (after.held v).Sublist (s.held v))
    (running : ∀ v, after.held v ≠ [] → after.state.now ≤ after.began v + timeout v ∧
      after.began v + timeout v * (after.held v).length ≤ after.leaseEnd v)
    (rows : ∀ k r', after.state.tables.main.find k = some r' →
      ∃ r, s.state.tables.main.find k = some r ∧ r'.attempts = r.attempts)
    (kept : ∀ v, ∀ e ∈ after.held v, ∀ r, s.state.tables.main.find e.eventId = some r →
      r.attempts = e.claimedAttempt → after.state.tables.main.find e.eventId = some r) :
    Exclusive sys timeout after where
  polled := polled
  sized := fun w => (polledSub w).length_le.trans (h.sized w)
  counted := by
    intro k r' found'
    obtain ⟨r, found, same⟩ := rows k r' found'
    rw [same]
    exact h.counted k r found
  distinct := fun w => (h.distinct w).sublist ((heldSub w).map _)
  running := running
  guarded := by
    intro w e mem ahead
    rw [leases w (List.ne_nil_of_mem mem)] at ahead ⊢
    obtain ⟨r, found, attempts, lease⟩ :=
      h.guarded w e ((heldSub w).subset mem) (lt_of_le_of_lt later ahead)
    exact ⟨r, kept w e mem r found attempts, attempts, lease⟩
  stale := by
    intro v row polled w e mem same number
    rw [leases w (List.ne_nil_of_mem mem)]
    exact (h.stale v row ((polledSub v).subset polled) w e ((heldSub w).subset mem) same
      number).trans later
  behind := by
    intro v row mem r' found'
    obtain ⟨r, found, same⟩ := rows row.1 r' found'
    rw [same]
    exact h.behind v row ((polledSub v).subset mem) r found
  reached := by
    intro w e mem r' found'
    obtain ⟨r, found, same⟩ := rows e.eventId r' found'
    rw [same]
    exact h.reached w e ((heldSub w).subset mem) r found
  numbered := by
    intro v w e e' mem mem'
    exact h.numbered v w e e' ((heldSub v).subset mem) ((heldSub w).subset mem')

omit [DecidableEq ω] in
theorem lease_covers_rest (h : Exclusive sys timeout s) {w : ω} {rest : List (Envelope κ)}
    (fewer : rest.Sublist (s.held w).tail) (holds : rest ≠ []) :
    s.state.now + timeout w * rest.length ≤ s.leaseEnd w := by
  have length := fewer.length_le
  rw [List.length_tail] at length
  have positive : 0 < rest.length := List.length_pos_iff.mpr holds
  have holding : s.held w ≠ [] := by
    intro none
    rw [none, List.length_nil] at length
    omega
  obtain ⟨present, within⟩ := h.running w holding
  -- the dispatch that ended took at most one timeout of the lease
  have shorter : rest.length + 1 ≤ (s.held w).length := by omega
  have := Nat.mul_le_mul_left (timeout w) shorter
  rw [Nat.mul_add, Nat.mul_one] at this
  omega

theorem exclusive_release (h : Exclusive sys timeout s) {w : ω} {rest : List (Envelope κ)}
    {t : Tables κ ℕ γ} (fewer : rest.Sublist (s.held w).tail)
    (rows : ∀ k r', t.main.find k = some r' →
      ∃ r, s.state.tables.main.find k = some r ∧ r'.attempts = r.attempts)
    (kept : ∀ v, ∀ e ∈ (if v = w then rest else s.held v), ∀ r,
      s.state.tables.main.find e.eventId = some r → r.attempts = e.claimedAttempt →
        t.main.find e.eventId = some r) :
    Exclusive sys timeout
      { state := { s.state.setWorker w (.settling rest) with tables := t }
        began := Function.update s.began w s.state.now
        leaseEnd := s.leaseEnd } := by
  have heldOf : ∀ v, (((s.state.setWorker w (.settling rest)).workers v).held) =
      if v = w then rest else s.held v := by
    intro v
    by_cases same : v = w
    · simp [State.setWorker, same, Worker.held]
    · simp [State.setWorker, same, Timed.held]
  refine exclusive_shrink h (h.polled.settling w rest) le_rfl (fun _ _ => rfl) ?_ ?_ ?_ rows ?_
  · intro v
    by_cases same : v = w
    · simp [Timed.polled, State.setWorker, same, Worker.polled]
    · simp [Timed.polled, State.setWorker, same]
  · intro v
    simp only [Timed.held, heldOf]
    by_cases same : v = w
    · rw [if_pos same, same]
      exact fewer.trans (List.tail_sublist _)
    · rw [if_neg same]
  · intro v holds
    simp only [Timed.held, heldOf] at holds ⊢
    by_cases same : v = w
    · subst same
      rw [if_pos rfl] at holds ⊢
      rw [Function.update_self]
      exact ⟨Nat.le_add_right _ _, lease_covers_rest h fewer holds⟩
    · rw [if_neg same] at holds ⊢
      rw [Function.update_of_ne same]
      exact h.running v holds
  · intro v e mem
    simp only [Timed.held, heldOf] at mem
    exact kept v e mem

theorem exclusive_settle (h : Exclusive sys timeout s) {w : ω} {outcome : Except String Unit}
    {retryIn : ℕ} (enabled : s.held w ≠ []) :
    Exclusive sys timeout (next sys timeout s (.settle w outcome retryIn)) := by
  obtain ⟨e, rest, held⟩ := List.exists_cons_of_ne_nil enabled
  have fewer : rest.Sublist (s.held w).tail := by
    rw [held]
    exact List.Sublist.refl _
  rcases settleStep_cases sys held outcome (s.state.now + retryIn) with
    ⟨_, _, shape⟩ | ⟨t, a, settled, shape⟩
  · simp only [next, eventOf, OutboxWorkers.next, turned, shape]
    exact exclusive_release h fewer (fun k r found => ⟨r, found, rfl⟩)
      fun v e mem r found _ => found
  · simp only [next, eventOf, OutboxWorkers.next, turned, shape]
    refine exclusive_release h fewer
      (fun k r' found' => (settles_of_ok settled).row_of_row found') ?_
    intro v e' mem r found attempts
    refine (settles_of_ok settled).find_of_unfenced found ?_
    -- the row is at the number of another envelope, which only its own holder settles
    intro same fence
    have number : e'.claimedAttempt = e.claimedAttempt := by omega
    have first : e ∈ s.held w := by
      rw [held]
      exact List.mem_cons_self
    by_cases mine : v = w
    · rw [if_pos mine] at mem
      have apart := h.distinct w
      rw [held, List.map_cons, List.nodup_cons] at apart
      exact absurd (List.mem_map.mpr ⟨e', mem, same⟩) apart.1
    · rw [if_neg mine] at mem
      exact absurd (h.numbered v w e' e mem first same number) mine

theorem held_poll {w : ω} {locked : List κ}
    (enabled : OutboxWorkers.Enabled s.state (.poll w locked)) (v : ω) :
    (next sys timeout s (.poll w locked)).held v = s.held v := by
  by_cases same : v = w
  · subst same
    rw [Timed.held, Timed.held, enabled.2]
    simp [next, eventOf, OutboxWorkers.next, pollStep, State.setWorker, Worker.held]
  · simp [Timed.held, next, eventOf, OutboxWorkers.next, pollStep, State.setWorker, same]

theorem polled_poll_of_ne {v w : ω} (other : v ≠ w) (locked : List κ) :
    (next sys timeout s (.poll w locked)).polled v = s.polled v := by
  simp [Timed.polled, next, eventOf, OutboxWorkers.next, pollStep, State.setWorker, other]

theorem length_polled_poll (w : ω) (locked : List κ) :
    ((next sys timeout s (.poll w locked)).polled w).length ≤ (sys.config w).batchSize := by
  simp only [Timed.polled, next, eventOf, OutboxWorkers.next, pollStep, State.setWorker,
    Function.update_self, Worker.polled]
  exact (List.length_filter_le _ _).trans (List.length_take_le _ _)

theorem mem_polled_poll {v w : ω} {locked : List κ} {row : κ × Row ℕ γ}
    (read : row ∈ (next sys timeout s (.poll w locked)).polled v) :
    row ∈ s.polled v ∨ s.state.tables.main.find row.1 = some row.2 ∧
      row.2.isElapsed s.state.now = true := by
  by_cases same : v = w
  · subst same
    simp only [Timed.polled, next, eventOf, OutboxWorkers.next, pollStep, State.setWorker,
      Function.update_self, Worker.polled] at read
    obtain ⟨stored, matched⟩ := mem_select (List.mem_filter.mp read).1
    simp only [Row.isPollable, Bool.and_eq_true] at matched
    exact Or.inr ⟨stored, matched.1.2⟩
  · rw [polled_poll_of_ne same] at read
    exact Or.inl read

omit [DecidableEq ω] in
theorem leaseEnd_le_of_elapsed (h : Exclusive sys timeout s) {u : ω} {e : Envelope κ}
    (holds : e ∈ s.held u) {r : Row ℕ γ}
    (stored : s.state.tables.main.find e.eventId = some r)
    (elapsed : r.isElapsed s.state.now = true) : s.leaseEnd u ≤ s.state.now := by
  by_contra ahead
  obtain ⟨r', found, _, lease⟩ := h.guarded u e holds (not_le.mp ahead)
  rw [stored] at found
  cases found
  simp only [Row.isElapsed, lease, decide_eq_true_eq] at elapsed
  exact ahead elapsed

theorem exclusive_poll (h : Exclusive sys timeout s) {w : ω} (locked : List κ)
    (enabled : OutboxWorkers.Enabled s.state (.poll w locked)) :
    Exclusive sys timeout (next sys timeout s (.poll w locked)) where
  polled := wellPolled_step h.polled enabled
  sized v := by
    by_cases same : v = w
    · subst same
      exact length_polled_poll v locked
    · rw [polled_poll_of_ne same]
      exact h.sized v
  counted := h.counted
  distinct v := by
    rw [held_poll enabled]
    exact h.distinct v
  running v holds := by
    rw [held_poll enabled] at holds ⊢
    exact h.running v holds
  guarded v e mem := by
    rw [held_poll enabled] at mem
    exact h.guarded v e mem
  stale v row read u e holds same number := by
    rw [held_poll enabled] at holds
    rcases mem_polled_poll read with old | ⟨stored, elapsed⟩
    · exact h.stale v row old u e holds same number
    · exact leaseEnd_le_of_elapsed h holds (same ▸ stored) elapsed
  behind v row read r found := by
    rcases mem_polled_poll read with old | ⟨stored, _⟩
    · exact h.behind v row old r found
    · have same : s.state.tables.main.find row.1 = some r := found
      rw [stored] at same
      cases same
      have nonneg := h.counted row.1 row.2 stored
      simp only [envelopeOf, attemptsOf]
      omega
  reached v e mem := by
    rw [held_poll enabled] at mem
    exact h.reached v e mem
  numbered v u e e' mem mem' := by
    rw [held_poll enabled] at mem mem'
    exact h.numbered v u e e' mem mem'

omit [DecidableEq ω] in
theorem unclaimed_of_ahead (h : Exclusive sys timeout s) {v w : ω} {e : Envelope κ}
    (mem : e ∈ s.held v) (ahead : s.state.now < s.leaseEnd v) {claims : List (κ × ℤ)}
    (bound : bindableClaims ((s.polled w).map envelopeOf) = .ok claims) {r : Row ℕ γ}
    (attempts : r.attempts = e.claimedAttempt) : (e.eventId, r.attempts) ∉ claims := by
  intro offered
  obtain ⟨e', batch, same, number⟩ := (mem_bindableClaims bound).mp offered
  obtain ⟨row, read, rfl⟩ := List.mem_map.mp batch
  have ended := h.stale w row read v e mem same.symm (by omega)
  omega

theorem exclusive_unclaimed (h : Exclusive sys timeout s) {w : ω} {began leaseEnd : ℕ}
    (polled : WellPolled sys (s.state.setWorker w .idle)) :
    Exclusive sys timeout
      { state := s.state.setWorker w .idle
        began := Function.update s.began w began
        leaseEnd := Function.update s.leaseEnd w leaseEnd } := by
  have held : ∀ v, ((s.state.setWorker w .idle).workers v).held =
      if v = w then [] else s.held v := by
    intro v
    by_cases same : v = w
    · simp [State.setWorker, same, Worker.idle, Worker.held]
    · simp [State.setWorker, same, Timed.held]
  have other : ∀ v, ((s.state.setWorker w .idle).workers v).held ≠ [] → v ≠ w := by
    rintro v holds rfl
    rw [held, if_pos rfl] at holds
    exact holds rfl
  refine exclusive_shrink h polled le_rfl ?_ ?_ ?_ ?_ (fun k r found => ⟨r, found, rfl⟩)
    fun v e _ r found _ => found
  · intro v holds
    exact Function.update_of_ne (other v holds) _ _
  · intro v
    by_cases same : v = w
    · simp [Timed.polled, State.setWorker, same, Worker.idle, Worker.polled]
    · simp [Timed.polled, State.setWorker, same]
  · intro v
    simp only [Timed.held, held]
    by_cases same : v = w
    · rw [if_pos same]
      exact List.nil_sublist _
    · rw [if_neg same]
  · intro v holds
    have ne := other v holds
    simp only [Timed.held, held, if_neg ne, Function.update_of_ne ne] at holds ⊢
    exact h.running v holds

omit [DecidableEq ω] in
/-- The lease of a batch covers the dispatch of each envelope the claim obtained. -/
theorem won_within_lease (h : Exclusive sys timeout s) {w : ω}
    (small : (sys.config w).batchSize ≤ u32Max) (claims : List (κ × ℤ)) :
    s.state.now + timeout w * (won s.state w (deadlineOf timeout s w) claims).length ≤
      deadlineOf timeout s w := by
  have fewer : (won s.state w (deadlineOf timeout s w) claims).length ≤ (s.polled w).length :=
    (List.length_filter_le _ _).trans (by rw [List.length_map]; rfl)
  have size := h.sized w
  change _ ≤ s.state.now + timeout w * min (max (s.polled w).length 1) u32Max
  refine Nat.add_le_add_left (Nat.mul_le_mul_left _ ?_) _
  omega

/-! ### A claim that succeeds -/

/-- The state after a claim: its worker has in hand what it won, under the new lease. -/
def claimedBy (timeout : ω → ℕ) (s : Timed ω κ γ) (w : ω) (claims : List (κ × ℤ))
    (obtained : List (Obtained ω κ)) : Timed ω κ γ where
  state := { s.state.setWorker w (.settling (won s.state w (deadlineOf timeout s w) claims)) with
    tables := { s.state.tables with
      main := (claim (deadlineOf timeout s w) s.state.tables.main claims).1 }
    obtained := obtained }
  began := Function.update s.began w s.state.now
  leaseEnd := Function.update s.leaseEnd w (deadlineOf timeout s w)

section Claimed

variable {w : ω} {claims : List (κ × ℤ)} {obtained : List (Obtained ω κ)}

theorem held_claimedBy (v : ω) : (claimedBy timeout s w claims obtained).held v =
    if v = w then won s.state w (deadlineOf timeout s w) claims else s.held v := by
  by_cases same : v = w
  · simp [claimedBy, Timed.held, State.setWorker, same, Worker.held]
  · simp [claimedBy, Timed.held, State.setWorker, same]

theorem polled_claimedBy (v : ω) : (claimedBy timeout s w claims obtained).polled v =
    if v = w then [] else s.polled v := by
  by_cases same : v = w
  · simp [claimedBy, Timed.polled, State.setWorker, same, Worker.polled]
  · simp [claimedBy, Timed.polled, State.setWorker, same]

theorem mem_polled_claimedBy {v : ω} {row : κ × Row ℕ γ}
    (read : row ∈ (claimedBy timeout s w claims obtained).polled v) : row ∈ s.polled v := by
  rw [polled_claimedBy] at read
  by_cases same : v = w
  · rw [if_pos same] at read
    cases read
  · rwa [if_neg same] at read

omit [DecidableEq ω] in
theorem row_of_won (h : Exclusive sys timeout s)
    (bound : bindableClaims ((s.polled w).map envelopeOf) = .ok claims) {e : Envelope κ}
    (mem : e ∈ won s.state w (deadlineOf timeout s w) claims) :
    ∃ r, s.state.tables.main.find e.eventId = some r ∧ r.attempts = e.attempts ∧
      (e.eventId, r.attempts) ∈ claims := by
  obtain ⟨batch, r, found, attempts⟩ := (mem_won (h.polled w) bound).mp mem
  exact ⟨r, found, attempts, (mem_bindableClaims bound).mpr ⟨e, batch, rfl, attempts.symm⟩⟩

theorem attempts_of_claimed (h : Exclusive sys timeout s)
    (bound : bindableClaims ((s.polled w).map envelopeOf) = .ok claims) {k : κ} {r' : Row ℕ γ}
    (found' : (claimedBy timeout s w claims obtained).state.tables.main.find k = some r') :
    ∃ r, s.state.tables.main.find k = some r ∧ r.attempts ≤ r'.attempts := by
  rcases row_after_claim (h.polled w) bound found' with ⟨found, _⟩ | ⟨r, found, rfl, _⟩
  · exact ⟨r', found, le_rfl⟩
  · refine ⟨r, found, ?_⟩
    dsimp only
    omega

omit [DecidableEq ω] in
/-- The number just given out is past every number in a worker's hand. -/
theorem claimedAttempt_fresh (h : Exclusive sys timeout s)
    (bound : bindableClaims ((s.polled w).map envelopeOf) = .ok claims) {v : ω}
    {e e' : Envelope κ} (mem : e ∈ won s.state w (deadlineOf timeout s w) claims)
    (mem' : e' ∈ s.held v) (same : e.eventId = e'.eventId) :
    e.claimedAttempt ≠ e'.claimedAttempt := by
  obtain ⟨r, found, attempts, _⟩ := row_of_won h bound mem
  rw [same] at found
  have past := h.reached v e' mem' r found
  simp only [Envelope.claimedAttempt] at past ⊢
  omega

theorem guarded_claimed (h : Exclusive sys timeout s)
    (bound : bindableClaims ((s.polled w).map envelopeOf) = .ok claims) (v : ω)
    (e : Envelope κ) (mem : e ∈ (claimedBy timeout s w claims obtained).held v)
    (ahead : s.state.now < (claimedBy timeout s w claims obtained).leaseEnd v) :
    ∃ r, (claimedBy timeout s w claims obtained).state.tables.main.find e.eventId = some r ∧
      r.attempts = e.claimedAttempt ∧
      r.nextRetryAt = some ((claimedBy timeout s w claims obtained).leaseEnd v) := by
  rw [held_claimedBy] at mem
  dsimp only [claimedBy] at ahead ⊢
  by_cases same : v = w
  · subst same
    rw [if_pos rfl] at mem
    obtain ⟨r, found, attempts, offered⟩ := row_of_won h bound mem
    refine ⟨_, by rw [find_claim, found, Option.map_some, if_pos offered], ?_, ?_⟩
    · simp only [attempts, Envelope.claimedAttempt]
      omega
    · dsimp only
      rw [Function.update_self]
  · rw [if_neg same] at mem
    rw [Function.update_of_ne same] at ahead ⊢
    obtain ⟨r, found, attempts, lease⟩ := h.guarded v e mem ahead
    refine ⟨r, ?_, attempts, lease⟩
    rw [find_claim, found, Option.map_some,
      if_neg (unclaimed_of_ahead h mem ahead bound attempts)]

theorem stale_claimed (h : Exclusive sys timeout s)
    (bound : bindableClaims ((s.polled w).map envelopeOf) = .ok claims) {v : ω}
    {row : κ × Row ℕ γ} (read : row ∈ (claimedBy timeout s w claims obtained).polled v) (u : ω)
    (e : Envelope κ) (mem : e ∈ (claimedBy timeout s w claims obtained).held u)
    (same : e.eventId = row.1) (number : e.claimedAttempt = (envelopeOf row).attempts) :
    (claimedBy timeout s w claims obtained).leaseEnd u ≤ s.state.now := by
  rw [held_claimedBy] at mem
  have read := mem_polled_claimedBy read
  by_cases mine : u = w
  · rw [if_pos mine] at mem
    obtain ⟨r, found, attempts, _⟩ := row_of_won h bound mem
    rw [same] at found
    have behind := h.behind v row read r found
    simp only [Envelope.claimedAttempt] at number
    omega
  · rw [if_neg mine] at mem
    dsimp only [claimedBy]
    rw [Function.update_of_ne mine]
    exact h.stale v row read u e mem same number

theorem reached_claimed (h : Exclusive sys timeout s)
    (bound : bindableClaims ((s.polled w).map envelopeOf) = .ok claims) (v : ω)
    (e : Envelope κ) (mem : e ∈ (claimedBy timeout s w claims obtained).held v) (r' : Row ℕ γ)
    (found' : (claimedBy timeout s w claims obtained).state.tables.main.find e.eventId =
      some r') : (e.claimedAttempt : ℤ) ≤ r'.attempts := by
  rw [held_claimedBy] at mem
  by_cases mine : v = w
  · rw [if_pos mine] at mem
    obtain ⟨r, found, attempts, offered⟩ := row_of_won h bound mem
    dsimp only [claimedBy] at found'
    rw [find_claim, found, Option.map_some, if_pos offered] at found'
    cases found'
    simp only [attempts, Envelope.claimedAttempt]
    omega
  · rw [if_neg mine] at mem
    obtain ⟨r, found, le⟩ := attempts_of_claimed h bound found'
    exact (h.reached v e mem r found).trans le

theorem numbered_claimed (h : Exclusive sys timeout s)
    (bound : bindableClaims ((s.polled w).map envelopeOf) = .ok claims) (v u : ω)
    (e e' : Envelope κ) (mem : e ∈ (claimedBy timeout s w claims obtained).held v)
    (mem' : e' ∈ (claimedBy timeout s w claims obtained).held u) (same : e.eventId = e'.eventId)
    (number : e.claimedAttempt = e'.claimedAttempt) : v = u := by
  rw [held_claimedBy] at mem mem'
  by_cases mine : v = w
  · by_cases yours : u = w
    · rw [mine, yours]
    · rw [if_pos mine] at mem
      rw [if_neg yours] at mem'
      exact absurd number (claimedAttempt_fresh h bound mem mem' same)
  · rw [if_neg mine] at mem
    by_cases yours : u = w
    · rw [if_pos yours] at mem'
      exact absurd number.symm (claimedAttempt_fresh h bound mem' mem same.symm)
    · rw [if_neg yours] at mem'
      exact h.numbered v u e e' mem mem' same number

theorem exclusive_claimed (h : Exclusive sys timeout s)
    (small : (sys.config w).batchSize ≤ u32Max)
    (bound : bindableClaims ((s.polled w).map envelopeOf) = .ok claims) :
    Exclusive sys timeout (claimedBy timeout s w claims obtained) where
  polled := h.polled.settling w _
  sized := by
    intro v
    rw [polled_claimedBy]
    split
    · exact Nat.zero_le _
    · exact h.sized v
  counted := by
    intro k r' found'
    obtain ⟨r, found, le⟩ := attempts_of_claimed h bound found'
    exact (h.counted k r found).trans le
  distinct := by
    intro v
    rw [held_claimedBy]
    split
    · exact won_ids_nodup (h.polled w) _ _
    · exact h.distinct v
  running := by
    intro v holds
    rw [held_claimedBy] at holds ⊢
    dsimp only [claimedBy]
    by_cases same : v = w
    · subst same
      rw [if_pos rfl, Function.update_self, Function.update_self]
      exact ⟨Nat.le_add_right _ _, won_within_lease h small claims⟩
    · rw [if_neg same] at holds ⊢
      rw [Function.update_of_ne same, Function.update_of_ne same]
      exact h.running v holds
  guarded := guarded_claimed h bound
  stale := fun _ _ read => stale_claimed h bound read
  behind := by
    intro v row read r' found'
    obtain ⟨r, found, le⟩ := attempts_of_claimed h bound found'
    exact (h.behind v row (mem_polled_claimedBy read) r found).trans le
  reached := reached_claimed h bound
  numbered := numbered_claimed h bound

end Claimed

theorem exclusive_claim (h : Exclusive sys timeout s) {w : ω}
    (small : (sys.config w).batchSize ≤ u32Max) (enabled : s.polled w ≠ []) :
    Exclusive sys timeout (next sys timeout s (.claim w)) := by
  have wellPolled : WellPolled sys (next sys timeout s (.claim w)).state :=
    wellPolled_step h.polled enabled
  simp only [next, eventOf, OutboxWorkers.next, turned] at wellPolled ⊢
  rcases claimStep_cases s.state w (deadlineOf timeout s w) with failed | ⟨claims, bound, shape⟩
  · rw [failed] at wellPolled ⊢
    exact exclusive_unclaimed h wellPolled
  · rw [shape] at wellPolled ⊢
    exact exclusive_claimed h small bound

theorem exclusive_insert (h : Exclusive sys timeout s) {eventId : κ} {content : γ}
    (unhanded : Unhanded s (.insert eventId content)) :
    Exclusive sys timeout (next sys timeout s (.insert eventId content)) := by
  have kept : ∀ k r, s.state.tables.main.find k = some r →
      (OutboxWorkers.next sys s.state (.insert eventId content)).tables.main.find k = some r :=
    fun _ _ found => find_after_insert found
  have rows : ∀ k r', (OutboxWorkers.next sys s.state (.insert eventId content)).tables.main.find
      k = some r' → (k = eventId ∧ r' = .fresh s.state.inserted.length content) ∨
        s.state.tables.main.find k = some r' :=
    fun _ _ found => row_after_insert found
  -- a row of an id that a worker has in hand was there before
  have known : ∀ k r', (next sys timeout s (.insert eventId content)).state.tables.main.find k =
      some r' → (∃ w, k ∈ (s.polled w).map Prod.fst ∨ k ∈ (s.held w).map Envelope.eventId) →
      s.state.tables.main.find k = some r' := by
    intro k r' found' inHand
    cases stored : s.state.tables.main.find k with
    | some r => exact (kept k r stored).symm.trans found'
    | none =>
      rcases rows k r' found' with ⟨rfl, _⟩ | old
      · rcases unhanded with present | free
        · rw [stored] at present
          cases present
        · obtain ⟨w, polled | held⟩ := inHand
          · exact absurd polled (free w).1
          · exact absurd held (free w).2
      · rw [stored] at old
        cases old
  constructor
  · exact h.polled
  · exact h.sized
  · intro k r' found'
    rcases rows k r' found' with ⟨_, rfl⟩ | old
    · exact le_rfl
    · exact h.counted k r' old
  · exact h.distinct
  · exact h.running
  · intro w e mem ahead
    obtain ⟨r, found, attempts, lease⟩ := h.guarded w e mem ahead
    exact ⟨r, kept _ r found, attempts, lease⟩
  · exact h.stale
  · intro v row mem r' found'
    exact h.behind v row mem r'
      (known row.1 r' found' ⟨v, Or.inl (List.mem_map_of_mem mem)⟩)
  · intro w e mem r' found'
    exact h.reached w e mem r'
      (known e.eventId r' found' ⟨w, Or.inr (List.mem_map_of_mem mem)⟩)
  · exact h.numbered

theorem exclusive_step (h : Exclusive sys timeout s)
    (small : ∀ w, (sys.config w).batchSize ≤ u32Max) {a : Act ω κ γ}
    (enabled : Enabled timeout s a) (unhanded : Unhanded s a) :
    Exclusive sys timeout (next sys timeout s a) := by
  obtain ⟨possible, timely⟩ := enabled
  cases a with
  | tick later =>
    refine exclusive_shrink h h.polled timely.1 (fun _ _ => rfl) (fun _ => List.Sublist.refl _)
      (fun _ => List.Sublist.refl _) ?_ (fun k r found => ⟨r, found, rfl⟩)
      fun v e _ r found _ => found
    intro v holds
    exact ⟨timely.2 v holds, (h.running v holds).2⟩
  | insert eventId content => exact exclusive_insert h unhanded
  | poll w locked => exact exclusive_poll h locked possible
  | claim w => exact exclusive_claim h (small w) possible
  | settle w outcome retryIn => exact exclusive_settle h possible
  | rollback w =>
    exact exclusive_release h (List.Sublist.refl _) (fun k r found => ⟨r, found, rfl⟩)
      fun v e _ r found _ => found
  | crash w =>
    exact exclusive_release h (List.nil_sublist _) (fun k r found => ⟨r, found, rfl⟩)
      fun v e _ r found _ => found

end Steps

section Runs

variable [DecidableEq ω] [DecidableEq κ]

/-- In every run in which an event id enters the main table only while no worker has an
envelope of it in hand, no two workers are in a dispatch of one envelope. -/
theorem dispatched_by_one_worker (sys : System ω γ) (timeout : ω → ℕ)
    (small : ∀ w, (sys.config w).batchSize ≤ u32Max) (now : ℕ) (acts : List (Act ω κ γ))
    (allowed : ((machine sys timeout).under Unhanded).Allowed (initial now) acts) (v w : ω)
    (k : κ) (first : Dispatching timeout ((machine sys timeout).run (initial now) acts) v k)
    (second : Dispatching timeout ((machine sys timeout).run (initial now) acts) w k) :
    v = w := by
  have exclusive : Exclusive sys timeout ((machine sys timeout).run (initial now) acts) :=
    invariant_under_condition (exclusive_initial now)
      (fun _ _ h enabled unhanded => exclusive_step h small enabled unhanded) allowed
  exact exclusive.dispatching_unique first second

end Runs

section Sample

/-- Three workers; the second gives an envelope two attempts, the others five. -/
def threeWorkers : System (Fin 3) Unit :=
  ⟨.sqlite, true, fun w => ⟨10, if w = 1 then 2 else 5⟩, fun _ => true⟩

def timeouts (w : Fin 3) : ℕ := if w = 2 then 30 else 10

/-- The first worker's only envelope runs into its timeout, which is the end of its lease. -/
def timedOut : List (Act (Fin 3) ℕ Unit) :=
  [.insert 7 (), .poll 0 [], .claim 0, .tick 10, .poll 1 [], .claim 1]

theorem dispatched_by_one_worker_sample :
    Dispatching timeouts ((machine threeWorkers timeouts).run (initial 0) timedOut) 1 7 ∧
      ¬ Dispatching timeouts ((machine threeWorkers timeouts).run (initial 0) timedOut) 0 7 := by
  have second : Dispatching timeouts
      ((machine threeWorkers timeouts).run (initial 0) timedOut) 1 7 := by decide +kernel
  refine ⟨second, ?_⟩
  intro first
  have same := dispatched_by_one_worker threeWorkers timeouts (by decide) 0 timedOut
    (by decide +kernel) 0 1 7 first second
  exact absurd same (by decide)

/-- The second worker fails at once and dead-letters the envelope; its id is inserted again
and the third worker claims it; only then the first worker records its own failure, under
the attempt number that is now the third worker's, and takes the third worker's lease away. -/
def reinserted : List (Act (Fin 3) ℕ Unit) :=
  timedOut ++ [.settle 1 (.error "handler failed") 0, .insert 7 (), .poll 2 [], .claim 2,
    .settle 0 (.error "dispatch timed out") 5, .tick 15, .poll 1 [], .claim 1]

theorem reinsertion_dispatches_twice :
    (machine threeWorkers timeouts).Allowed (initial 0) reinserted ∧
      Dispatching timeouts ((machine threeWorkers timeouts).run (initial 0) reinserted) 1 7 ∧
      Dispatching timeouts ((machine threeWorkers timeouts).run (initial 0) reinserted) 2 7 := by
  decide +kernel

end Sample

end OutboxLeases
