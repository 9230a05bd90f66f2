import Hexeract.LibraryMachines
import Hexeract.SchedulerRefinement

/-! # Terminal states of the SQL scheduler

The three terminal timestamps are separate columns, and no constraint of the schema keeps
them apart. Every statement that sets one requires all of them to be absent, and only a
replay clears one. -/
namespace SchedulerLifecycle

open LibraryTables LibraryMachines SchedulerStatements SchedulerMessages
open SchedulerLeases (Ack ack_apply)
open SchedulerRefinement (rowStatus rowStatus_deadLettered isOpen_iff)

variable {κ τ γ : Type}

/-- One statement with everything bound to it: readings of the database clock, and leases
that need not be those of a claim. -/
inductive Statement (κ τ γ : Type) where
  | insert (id : κ) (content : γ) (scheduledFor : τ) (maxAttempts : ℤ)
  | claim (now deadline : τ) (locked : List κ) (limit : ℕ)
  | acknowledge (now : τ) (id : κ) (lease : τ) (ack : Ack τ)
  | sweep (now : τ)
  | cancel (now : τ) (id : κ)
  | setPaused (id : κ) (paused : Bool)
  | resume (id : κ) (next : Option τ)
  | replay (now : τ) (id : κ)

def Statement.Replays (id : κ) : Statement κ τ γ → Prop
  | .replay _ id' => id' = id
  | _ => False

/-- What a statement does to the row stored under `k`: nothing, or what it writes where its
condition holds. -/
inductive Effect (k : κ) : Statement κ τ γ → Row τ γ → Row τ γ → Prop
  | kept (statement : Statement κ τ γ) (r : Row τ γ) : Effect k statement r r
  | claimed {now deadline : τ} {locked : List κ} {limit : ℕ} {r : Row τ γ} :
      Effect k (.claim now deadline locked limit) r
        { r with leasedUntil := some deadline, attempts := r.attempts + 1 }
  | acknowledged {now lease : τ} {ack : Ack τ} {r : Row τ γ} (opened : r.isOpen = true) :
      Effect k (.acknowledge now k lease ack) r (ack.write now r)
  | swept {now : τ} {r : Row τ γ} (opened : r.isOpen = true) :
      Effect k (.sweep now) r
        { r with deadLetteredAt := some now, lastError := some deadLetterExhaustedMessage,
                 leasedUntil := none }
  | cancelled {now : τ} {r : Row τ γ} (opened : r.isOpen = true) :
      Effect k (.cancel now k) r { r with cancelledAt := some now, leasedUntil := none }
  | paused {paused : Bool} {r : Row τ γ} :
      Effect k (.setPaused k paused) r { r with paused := paused }
  | realigned {next : τ} {r : Row τ γ} :
      Effect k (.resume k (some next)) r
        { r with paused := false, scheduledFor := next, attempts := 0, lastError := none,
                 leasedUntil := none }
  | resumed {r : Row τ γ} :
      Effect k (.resume k none) r { r with paused := false, leasedUntil := none }
  | replayed {now : τ} {r : Row τ γ} (dead : r.deadLetteredAt.isSome = true) :
      Effect k (.replay now k) r
        { r with scheduledFor := now, attempts := 0, leasedUntil := none, lastError := none,
                 paused := false, deadLetteredAt := none }

theorem effect_ite {k : κ} {statement : Statement κ τ γ} {condition : Prop} [Decidable condition]
    {r r' : Row τ γ} (h : condition → Effect k statement r r') :
    Effect k statement r (if condition then r' else r) := by
  split
  · rename_i holds
    exact h holds
  · exact .kept statement r

/-! ## The three timestamps of a row -/

def terminals (r : Row τ γ) : ℕ :=
  [r.deliveredAt, r.cancelledAt, r.deadLetteredAt].countP Option.isSome

structure SameEnd (r r' : Row τ γ) : Prop where
  delivered : r'.deliveredAt = r.deliveredAt
  cancelled : r'.cancelledAt = r.cancelledAt
  deadLettered : r'.deadLetteredAt = r.deadLetteredAt

inductive Moves (replays : Prop) (r r' : Row τ γ) : Prop
  | kept (same : SameEnd r r')
  | ended (opened : r.isOpen = true) (one : terminals r' = 1)
  | replayed (allowed : replays) (dead : r.deadLetteredAt.isSome = true)
      (delivered : r'.deliveredAt = r.deliveredAt) (cancelled : r'.cancelledAt = r.cancelledAt)
      (cleared : r'.deadLetteredAt = none)

theorem SameEnd.refl (r : Row τ γ) : SameEnd r r := ⟨rfl, rfl, rfl⟩

theorem SameEnd.trans {r r' r'' : Row τ γ} (first : SameEnd r r') (second : SameEnd r' r'') :
    SameEnd r r'' :=
  ⟨second.delivered.trans first.delivered, second.cancelled.trans first.cancelled,
    second.deadLettered.trans first.deadLettered⟩

theorem SameEnd.isOpen {r r' : Row τ γ} (same : SameEnd r r') : r'.isOpen = r.isOpen := by
  rw [Row.isOpen, Row.isOpen, same.delivered, same.cancelled, same.deadLettered]

theorem SameEnd.rowStatus {r r' : Row τ γ} (same : SameEnd r r') (closed : r.isOpen = false) :
    rowStatus r' = rowStatus r := by
  unfold SchedulerRefinement.rowStatus terminalStatus statusWithPaused
  rw [same.delivered, same.cancelled, same.deadLettered]
  revert closed
  unfold Row.isOpen
  cases r.deadLetteredAt <;> cases r.cancelledAt <;> cases r.deliveredAt <;> simp

theorem isOpen_eq_false {r : Row τ γ} : r.isOpen = false ↔
    rowStatus r = .delivered ∨ rowStatus r = .cancelled ∨ rowStatus r = .deadLettered := by
  unfold rowStatus terminalStatus statusWithPaused Row.isOpen
  cases r.deadLetteredAt <;> cases r.cancelledAt <;> cases r.deliveredAt <;> cases r.paused <;> simp

theorem terminals_moves {replays : Prop} {r r' : Row τ γ} (moves : Moves replays r r')
    (one : terminals r ≤ 1) : terminals r' ≤ 1 := by
  cases moves with
  | kept same => rwa [terminals, same.delivered, same.cancelled, same.deadLettered]
  | ended _ exactly => exact exactly.le
  | replayed _ _ delivered cancelled cleared =>
    rw [terminals, delivered, cancelled, cleared]
    unfold terminals at one
    simp only [List.countP_cons, Option.isSome_none, Bool.false_eq_true, if_false] at one ⊢
    omega

/-- A row that has ended stays as it is, unless it is dead-lettered and replayed. -/
theorem sameEnd_of_moves {replays : Prop} {r r' : Row τ γ} (moves : Moves replays r r')
    (closed : r.isOpen = false) (unreplayed : r.deadLetteredAt.isSome = true → ¬ replays) :
    SameEnd r r' := by
  cases moves with
  | kept same => exact same
  | ended opened _ => exact absurd (opened.symm.trans closed) (by simp)
  | replayed allowed dead _ _ _ => exact absurd allowed (unreplayed dead)

theorem moves_ack {replays : Prop} {r : Row τ γ} (now : τ) (ack : Ack τ)
    (opened : r.isOpen = true) : Moves replays r (ack.write now r) := by
  obtain ⟨delivered, cancelled, dead⟩ := isOpen_iff.mp opened
  cases ack with
  | delivered => exact .ended opened (by simp [terminals, Ack.write, cancelled, dead])
  | reschedule next => exact .kept ⟨rfl, rfl, rfl⟩
  | failed retryAt error => exact .kept ⟨rfl, rfl, rfl⟩
  | deadLettered error => exact .ended opened (by simp [terminals, Ack.write, delivered, cancelled])

theorem moves_of_effect {k : κ} {statement : Statement κ τ γ} {r r' : Row τ γ}
    (effect : Effect k statement r r') : Moves (statement.Replays k) r r' := by
  cases effect with
  | kept => exact .kept (.refl r)
  | claimed => exact .kept ⟨rfl, rfl, rfl⟩
  | acknowledged opened => exact moves_ack _ _ opened
  | swept opened =>
    obtain ⟨delivered, cancelled, _⟩ := isOpen_iff.mp opened
    exact .ended opened (by simp [terminals, delivered, cancelled])
  | cancelled opened =>
    obtain ⟨delivered, _, dead⟩ := isOpen_iff.mp opened
    exact .ended opened (by simp [terminals, delivered, dead])
  | paused => exact .kept ⟨rfl, rfl, rfl⟩
  | realigned => exact .kept ⟨rfl, rfl, rfl⟩
  | resumed => exact .kept ⟨rfl, rfl, rfl⟩
  | replayed dead => exact .replayed rfl dead rfl rfl rfl

/-! ## Sequences of statements -/

variable [DecidableEq κ]

theorem effect_updateById {statement : Statement κ τ γ} {t : Schedules κ τ γ} {id k : κ}
    {p : Row τ γ → Bool} {f : Row τ γ → Row τ γ} {r : Row τ γ} (found : t.find k = some r)
    (h : k = id → p r = true → Effect k statement r (f r)) :
    ∃ r', (updateById t id p f).1.find k = some r' ∧ Effect k statement r r' := by
  rw [find_updateById, found, Option.map_some]
  exact ⟨_, rfl, effect_ite fun matched => h matched.1 matched.2⟩

variable [LinearOrder τ]

def execute (t : Schedules κ τ γ) : Statement κ τ γ → Schedules κ τ γ
  | .insert id content scheduledFor maxAttempts =>
    (insert t id content scheduledFor maxAttempts).getD t
  | .claim now deadline locked limit => (claimDue now deadline t locked limit).1
  | .acknowledge now id lease ack => (ack.apply now t id lease).1
  | .sweep now => (deadLetterExhausted now t).1
  | .cancel now id => (cancel now t id).1
  | .setPaused id paused => (setPaused paused t id).1
  | .resume id next => (resume t id next).1
  | .replay now id => (replay now t id).1

def database : Machine (Schedules κ τ γ) (Statement κ τ γ) := ⟨fun _ _ => True, execute⟩

theorem database_allowed (t : Schedules κ τ γ) (statements : List (Statement κ τ γ)) :
    database.Allowed t statements := by
  induction statements generalizing t with
  | nil => trivial
  | cons statement rest ih => exact ⟨trivial, ih _⟩

/-- Every statement keeps a stored row, and has one of its effects on it. -/
theorem execute_effect (statement : Statement κ τ γ) {t : Schedules κ τ γ} {k : κ} {r : Row τ γ}
    (found : t.find k = some r) : ∃ r', (execute t statement).find k = some r' ∧
      Effect k statement r r' := by
  cases statement with
  | insert id content scheduledFor maxAttempts =>
    refine ⟨r, ?_, .kept _ r⟩
    simp only [execute]
    cases inserted : insert t id content scheduledFor maxAttempts with
    | none => exact found
    | some t' => exact find_insert_of_some inserted found
  | claim now deadline locked limit =>
    simp only [execute]
    rw [find_claimDue, found, Option.map_some]
    exact ⟨_, rfl, effect_ite fun _ => .claimed⟩
  | acknowledge now id lease ack =>
    simp only [execute, ack_apply, acknowledge]
    refine effect_updateById found ?_
    rintro rfl fence
    rw [Bool.and_eq_true] at fence
    exact .acknowledged fence.2
  | sweep now =>
    simp only [execute]
    rw [find_deadLetterExhausted, found, Option.map_some]
    refine ⟨_, rfl, effect_ite fun exhausted => ?_⟩
    simp only [Row.isExhausted, Bool.and_eq_true] at exhausted
    exact .swept exhausted.1.1.1
  | cancel now id =>
    refine effect_updateById found ?_
    rintro rfl opened
    exact .cancelled opened
  | setPaused id paused =>
    refine effect_updateById found ?_
    rintro rfl _
    exact .paused
  | resume id next =>
    cases next with
    | none =>
      refine effect_updateById found ?_
      rintro rfl _
      exact .resumed
    | some next =>
      refine effect_updateById found ?_
      rintro rfl _
      exact .realigned
  | replay now id =>
    refine effect_updateById found ?_
    rintro rfl dead
    exact .replayed dead

theorem run_terminals {t : Schedules κ τ γ} {k : κ} {r : Row τ γ} (found : t.find k = some r)
    (one : terminals r ≤ 1) (statements : List (Statement κ τ γ)) :
    ∃ r', (database.run t statements).find k = some r' ∧ terminals r' ≤ 1 := by
  refine invariant_of_steps (I := fun t => ∃ r', t.find k = some r' ∧ terminals r' ≤ 1)
    ⟨r, found, one⟩ ?_ (database_allowed t statements)
  rintro t statement ⟨r, found, one⟩ _
  obtain ⟨r', found', effect⟩ := execute_effect statement found
  exact ⟨r', found', terminals_moves (moves_of_effect effect) one⟩

theorem run_sameEnd {t : Schedules κ τ γ} {k : κ} {r : Row τ γ} (found : t.find k = some r)
    (closed : r.isOpen = false) (statements : List (Statement κ τ γ))
    (unreplayed : r.deadLetteredAt.isSome = true → ∀ now, Statement.replay now k ∉ statements) :
    ∃ r', (database.run t statements).find k = some r' ∧ SameEnd r r' := by
  induction statements generalizing t r with
  | nil => exact ⟨r, found, .refl r⟩
  | cons statement rest ih =>
    obtain ⟨r', found', effect⟩ := execute_effect statement found
    have same : SameEnd r r' := by
      refine sameEnd_of_moves (moves_of_effect effect) closed fun dead replays => ?_
      cases statement with
      | replay now id =>
        obtain rfl : id = k := replays
        exact unreplayed dead now List.mem_cons_self
      | _ => exact replays
    obtain ⟨r'', found'', same'⟩ := ih found' (same.isOpen.trans closed) fun dead now hmem =>
      unreplayed (same.deadLettered ▸ dead) now (List.mem_cons_of_mem _ hmem)
    exact ⟨r'', found'', same.trans same'⟩

/-- From a fresh row on, in every sequence of statements: one end at most, no way out of two
of them and a replay as the only way out of the third, and claims return open rows. -/
theorem ends_are_final {t start : Schedules κ τ γ} {id : κ} {content : γ} {scheduledFor : τ}
    {maxAttempts : ℤ} (inserted : insert t id content scheduledFor maxAttempts = some start)
    (earlier later : List (Statement κ τ γ)) :
    ∃ r r', (database.run start earlier).find id = some r ∧
      (database.run start (earlier ++ later)).find id = some r' ∧ terminals r ≤ 1 ∧
      (rowStatus r = .delivered → rowStatus r' = .delivered) ∧
      (rowStatus r = .cancelled → rowStatus r' = .cancelled) ∧
      (rowStatus r = .deadLettered → (∀ now, Statement.replay now id ∉ later) →
        rowStatus r' = .deadLettered) ∧
      ∀ now deadline locked limit,
        ∀ row ∈ (claimDue now deadline (database.run start earlier) locked limit).2,
          terminals row.2 = 0 := by
  have fresh : start.find id = some (.fresh content scheduledFor maxAttempts) := by
    rw [find_insert inserted, if_pos rfl]
  obtain ⟨r, found, one⟩ := run_terminals fresh (Nat.zero_le 1) earlier
  have final : (rowStatus r = .delivered ∨ rowStatus r = .cancelled ∨
      rowStatus r = .deadLettered) → (rowStatus r = .deadLettered →
        ∀ now, Statement.replay now id ∉ later) →
      ∀ r', (database.run start (earlier ++ later)).find id = some r' →
        rowStatus r' = rowStatus r := by
    intro ended unreplayed r' found'
    have closed := isOpen_eq_false.mpr ended
    obtain ⟨r'', found'', same⟩ := run_sameEnd found closed later fun dead =>
      unreplayed (rowStatus_deadLettered.mpr dead)
    rw [run_append, found''] at found'
    obtain rfl := Option.some.inj found'
    exact same.rowStatus closed
  obtain ⟨r', found', _⟩ := run_terminals fresh (Nat.zero_le 1) (earlier ++ later)
  refine ⟨r, r', found, found', one, ?_, ?_, ?_, ?_⟩
  · intro delivered
    exact (final (.inl delivered) (by simp [delivered]) r' found').trans delivered
  · intro cancelled
    exact (final (.inr (.inl cancelled)) (by simp [cancelled]) r' found').trans cancelled
  · intro dead unreplayed
    exact (final (.inr (.inr dead)) (fun _ => unreplayed) r' found').trans dead
  · intro now deadline locked limit row returned
    obtain ⟨claimed, _, eligible, shape, _⟩ := claimDue_returns returned
    obtain ⟨delivered, cancelled, dead⟩ := isOpen_iff.mp (isOpen_of_isEligible eligible)
    rw [shape]
    simp [terminals, delivered, cancelled, dead]

/-- A cancelled schedule stays cancelled when it is replayed. -/
theorem ends_are_final_sample : ∃ start : Schedules ℕ ℕ Unit,
    insert .empty 1 () 5 3 = some start ∧
    ((database.run start ([.cancel 6 1] ++ [.replay 7 1])).find 1).map rowStatus =
      some .cancelled := by
  obtain ⟨start, inserted⟩ : ∃ start, insert (.empty : Schedules ℕ ℕ Unit) 1 () 5 3 =
    some start := ⟨_, rfl⟩
  have cancelled : ((database.run start [.cancel 6 1]).find 1).map rowStatus =
      some .cancelled := by
    cases inserted
    decide
  obtain ⟨r, r', found, found', _, _, kept, _⟩ :=
    ends_are_final inserted [.cancel 6 1] [.replay 7 1]
  rw [found, Option.map_some, Option.some.injEq] at cancelled
  exact ⟨start, inserted, by rw [found', Option.map_some, kept cancelled]⟩

end SchedulerLifecycle
