import Hexeract.OutboxWorkers

/-! # Occurrences between the outbox and its dead-letter table

The scheduler's sink inserts an occurrence under its own id, and the insertion does nothing
where the main table has that id. A row that exhausts its attempts moves to the dead-letter
table, which the insertion does not look at. -/
namespace OutboxDeadLetters

open LibraryCollections LibraryTables LibraryMachines OutboxStatements OutboxWorkers

variable {ω κ τ γ : Type} [DecidableEq ω] [DecidableEq κ] [LinearOrder τ]

/-- No occurrence is delivered again after its row was dead-lettered. -/
def Unburied (s : State ω κ τ γ) : Event ω κ τ γ → Prop
  | .insert eventId _ => s.tables.deadLetter.find eventId = none
  | _ => True

instance [DecidableEq γ] (s : State ω κ τ γ) : (e : Event ω κ τ γ) → Decidable (Unburied s e)
  | .insert eventId _ =>
    inferInstanceAs (Decidable (s.tables.deadLetter.find eventId = none))
  | .tick _ => isTrue trivial
  | .poll _ _ => isTrue trivial
  | .claim _ _ => isTrue trivial
  | .settle _ _ _ => isTrue trivial
  | .rollback _ => isTrue trivial
  | .crash _ => isTrue trivial

def entered (s : State ω κ τ γ) : Event ω κ τ γ → List κ
  | .insert eventId _ => if (s.tables.main.find eventId).isNone then [eventId] else []
  | _ => []

def enteredOf (sys : System ω γ) : State ω κ τ γ → List (Event ω κ τ γ) → List κ
  | _, [] => []
  | s, e :: rest => entered s e ++ enteredOf sys (next sys s e) rest

/-! ## Presence in the two tables -/

section Tables

variable {t t' : Tables κ τ γ}

omit [LinearOrder τ] in
theorem insertDeadLetter_ok {eventId : κ} {r : Row τ γ} {table : Table κ (DeadLetter γ)}
    (found : t.main.find eventId = some r) (h : insertDeadLetter t eventId = .ok table) :
    ∃ letter, ∀ k, table.find k =
      if k = eventId then some letter else t.deadLetter.find k := by
  unfold insertDeadLetter at h
  rw [found] at h
  dsimp only at h
  cases text : r.lastError with
  | none =>
    rw [text] at h
    cases h
  | some lastError =>
    rw [text] at h
    dsimp only at h
    cases inserted : t.deadLetter.insert eventId ⟨r.content, r.attempts, lastError⟩ with
    | none =>
      rw [inserted] at h
      cases h
    | some table' =>
      rw [inserted] at h
      cases h
      exact ⟨_, fun k => find_insert inserted k⟩

inductive Buries (t : Tables κ τ γ) (eventId : κ) (t' : Tables κ τ γ) : Applied → Prop where
  | kept {a : Applied} (other : a ≠ .deadLettered) (same : t'.deadLetter = t.deadLetter) :
      Buries t eventId t' a
  | buried {letter : DeadLetter γ} (rows : ∀ k, t'.deadLetter.find k =
      if k = eventId then some letter else t.deadLetter.find k) :
      Buries t eventId t' .deadLettered

omit [LinearOrder τ] in
theorem buries_of_failed {exhausted : Prop} [Decidable exhausted] {message : String}
    {retryAt : τ} {eventId : κ} {attempt : ℤ} {a : Applied}
    (h : settleFailed true exhausted message retryAt t eventId attempt = .ok (t', a)) :
    Buries t eventId t' a := by
  unfold settleFailed at h
  dsimp only at h
  split at h
  · cases h
    exact .kept (by simp) rfl
  · rename_i recorded
    split at h
    · obtain ⟨moved, hm, shape⟩ := map_ok.mp h
      cases shape
      rw [markDeadLettered, if_neg (by simp)] at hm
      have applied : (markFailed message retryAt t.main eventId attempt).2 = true := by
        simpa using recorded
      obtain ⟨r, found, matched, undelivered⟩ := settleWhere_applied.mp applied
      have row := find_settleWhere_fenced found matched undelivered
        (fun r => { r with lastError := some message, nextRetryAt := some retryAt }) eventId
      rw [if_pos rfl] at row
      cases copied : insertDeadLetter
          { t with main := (markFailed message retryAt t.main eventId attempt).1 } eventId with
      | error err =>
        rw [copied] at hm
        cases hm
      | ok table =>
        obtain ⟨letter, rows⟩ := insertDeadLetter_ok row copied
        rw [copied] at hm
        dsimp only at hm
        split at hm
        · cases hm
          exact .buried rows
        · cases hm
          exact .kept (by simp) rfl
    · cases h
      exact .kept (by simp) rfl

omit [LinearOrder τ] in
theorem buries_of_ok {maxAttempts : ℕ} {now retryAt : τ} {e : Envelope κ}
    {outcome : Except String Unit} {a : Applied}
    (h : dispatchAndSettle true maxAttempts now retryAt t e outcome = .ok (t', a)) :
    Buries t e.eventId t' a := by
  obtain ⟨attempt, _, h⟩ := bind_ok.mp h
  cases outcome with
  | error message => exact buries_of_failed h
  | ok done =>
    cases h
    refine .kept ?_ rfl
    split <;> simp

omit [LinearOrder τ] in
/-- After a settlement each id is in the tables it was in, except that the settled one may
have moved from the main table to the dead-letter table. -/
theorem presence_of_settled {maxAttempts : ℕ} {now retryAt : τ} {e : Envelope κ}
    {outcome : Except String Unit} {a : Applied}
    (h : dispatchAndSettle true maxAttempts now retryAt t e outcome = .ok (t', a)) (k : κ) :
    ((t'.main.find k).isSome = (t.main.find k).isSome ∧
        (t'.deadLetter.find k).isSome = (t.deadLetter.find k).isSome) ∨
      (k = e.eventId ∧ (t.main.find k).isSome = true ∧ t'.main.find k = none ∧
        (t'.deadLetter.find k).isSome = true) := by
  have settles := settles_of_ok h
  have buries := buries_of_ok h
  by_cases same : k = e.eventId
  · subst same
    cases settles with
    | deadLettered found _ _ _ rows =>
      cases buries with
      | kept other _ => exact absurd rfl other
      | buried letters =>
        refine Or.inr ⟨rfl, by rw [found]; rfl, by rw [rows, if_pos rfl], ?_⟩
        rw [letters, if_pos rfl]
        rfl
    | refused _ rows =>
      cases buries with
      | kept _ table => exact Or.inl ⟨by rw [rows], by rw [table]⟩
    | delivered found _ _ rows | failed found _ _ _ rows =>
      cases buries with
      | kept _ table => exact Or.inl ⟨by rw [rows, if_pos rfl, found]; rfl, by rw [table]⟩
  · refine Or.inl ⟨by rw [settles.find_other same], ?_⟩
    cases buries with
    | kept _ table => rw [table]
    | buried letters => rw [letters, if_neg same]

end Tables

/-! ## Runs -/

/-- Every id that has entered is in exactly one of the two tables. -/
structure Kept (s : State ω κ τ γ) (history : List κ) : Prop where
  apart : ∀ k, (s.tables.main.find k).isSome = true → s.tables.deadLetter.find k = none
  present : ∀ k, k ∈ history ↔
    (s.tables.main.find k).isSome = true ∨ (s.tables.deadLetter.find k).isSome = true
  once : history.Nodup

section Steps

variable {sys : System ω γ} {s after : State ω κ τ γ} {history : List κ}

omit [DecidableEq ω] [LinearOrder τ] in
theorem kept_initial (now : τ) : Kept (initial now : State ω κ τ γ) [] where
  apart := by
    intro k found
    cases found
  present := by
    intro k
    refine ⟨by rintro ⟨⟩, ?_⟩
    rintro (found | found) <;> cases found
  once := List.nodup_nil

omit [DecidableEq ω] [LinearOrder τ] in
theorem Kept.moved (kept : Kept s history)
    (presence : ∀ k, ((after.tables.main.find k).isSome = (s.tables.main.find k).isSome ∧
        (after.tables.deadLetter.find k).isSome = (s.tables.deadLetter.find k).isSome) ∨
      ((s.tables.main.find k).isSome = true ∧ after.tables.main.find k = none ∧
        (after.tables.deadLetter.find k).isSome = true)) : Kept after history where
  apart := by
    intro k stored
    rcases presence k with ⟨main, letters⟩ | ⟨_, gone, _⟩
    · rw [← Option.isNone_iff_eq_none, ← Option.not_isSome, letters, Bool.not_eq_true']
      rw [main] at stored
      rw [kept.apart k stored]
      rfl
    · rw [gone] at stored
      cases stored
  present := by
    intro k
    rw [kept.present k]
    rcases presence k with ⟨main, letters⟩ | ⟨stored, gone, buried⟩
    · rw [main, letters]
    · exact iff_of_true (Or.inl stored) (Or.inr buried)
  once := kept.once

omit [DecidableEq ω] [LinearOrder τ] in
theorem Kept.unchanged (kept : Kept s history) (same : after.tables = s.tables) :
    Kept after history :=
  kept.moved fun k => Or.inl ⟨by rw [same], by rw [same]⟩

theorem kept_insert (kept : Kept s history) (eventId : κ) (content : γ)
    (unburied : s.tables.deadLetter.find eventId = none) :
    Kept (next sys s (.insert eventId content))
      (history ++ entered s (.insert eventId content)) := by
  cases inserted : s.tables.main.insert eventId (Row.fresh s.inserted.length content) with
  | none =>
    have stored := insert_eq_none.mp inserted
    have again : entered s (.insert eventId content) = [] := by
      simp [entered, stored]
    rw [again, List.append_nil]
    refine kept.unchanged ?_
    simp only [next, inserted, Option.getD_none]
  | some main =>
    have absent : s.tables.main.find eventId = none := by
      by_contra stored
      rw [insert_eq_none.mpr stored] at inserted
      cases inserted
    have enters : entered s (.insert eventId content) = [eventId] := by
      simp [entered, absent]
    have rows := find_insert inserted
    rw [enters]
    simp only [next, inserted, Option.getD_some]
    constructor
    · intro k stored
      rw [rows] at stored
      by_cases same : k = eventId
      · rw [same]
        exact unburied
      · rw [if_neg same] at stored
        exact kept.apart k stored
    · intro k
      rw [List.mem_append, List.mem_singleton, rows, kept.present]
      by_cases same : k = eventId
      · simp [same]
      · simp [same]
    · rw [List.nodup_append]
      refine ⟨kept.once, List.nodup_singleton _, ?_⟩
      rintro k before _ now rfl
      rw [List.mem_singleton] at now
      rw [now] at before
      rcases (kept.present eventId).mp before with stored | buried
      · rw [absent] at stored
        cases stored
      · rw [unburied] at buried
        cases buried

theorem kept_step (kept : Kept s history) (deadLettering : sys.deadLettering = true)
    {e : Event ω κ τ γ} (enabled : Enabled s e) (unburied : Unburied s e) :
    Kept (next sys s e) (history ++ entered s e) := by
  cases e with
  | insert eventId content => exact kept_insert kept eventId content unburied
  | tick | poll | rollback | crash =>
    simp only [entered, List.append_nil]
    exact kept.unchanged rfl
  | claim w deadline =>
    simp only [entered, List.append_nil]
    rcases claimStep_cases s w deadline with failed | ⟨claims, _, shape⟩
    · simp only [next, failed]
      exact kept.unchanged rfl
    · simp only [next, shape]
      refine kept.moved fun k => Or.inl ⟨?_, rfl⟩
      dsimp only
      rw [find_claim, Option.isSome_map]
  | settle w outcome retryAt =>
    simp only [entered, List.append_nil]
    obtain ⟨e, rest, held⟩ := List.exists_cons_of_ne_nil enabled
    rcases settleStep_cases sys held outcome retryAt with ⟨_, _, shape⟩ | ⟨t, a, settled, shape⟩
    · simp only [next, shape]
      exact kept.unchanged rfl
    · simp only [next, shape]
      rw [deadLettering] at settled
      refine kept.moved fun k => ?_
      rcases presence_of_settled settled k with stays | ⟨_, moves⟩
      · exact Or.inl stays
      · exact Or.inr moves

theorem kept_run {events : List (Event ω κ τ γ)} (kept : Kept s history)
    (deadLettering : sys.deadLettering = true)
    (allowed : ((machine sys).under Unburied).Allowed s events) :
    Kept ((machine sys).run s events) (history ++ enteredOf sys s events) := by
  induction events generalizing s history with
  | nil =>
    rw [enteredOf, List.append_nil]
    exact kept
  | cons e rest ih =>
    rw [enteredOf, ← List.append_assoc]
    exact ih (kept_step kept deadLettering allowed.1.1 allowed.1.2) allowed.2

theorem inserted_of_entered {events : List (Event ω κ τ γ)} {k : κ}
    (mem : k ∈ enteredOf sys s events) : ∃ content, .insert k content ∈ events := by
  induction events generalizing s with
  | nil => cases mem
  | cons e rest ih =>
    rcases List.mem_append.mp mem with now | later
    · cases e with
      | insert eventId content =>
        have same : k = eventId := by
          simp only [entered] at now
          split at now
          · exact List.mem_singleton.mp now
          · cases now
        exact ⟨content, same ▸ List.mem_cons_self⟩
      | _ => cases now
    · obtain ⟨content, mem⟩ := ih later
      exact ⟨content, List.mem_cons_of_mem _ mem⟩

theorem entered_of_inserted {events : List (Event ω κ τ γ)} (kept : Kept s history)
    (deadLettering : sys.deadLettering = true)
    (allowed : ((machine sys).under Unburied).Allowed s events) {k : κ} {content : γ}
    (mem : .insert k content ∈ events) : k ∈ history ++ enteredOf sys s events := by
  induction events generalizing s history with
  | nil => cases mem
  | cons e rest ih =>
    have step := kept_step kept deadLettering allowed.1.1 allowed.1.2
    rw [enteredOf, ← List.append_assoc]
    rcases List.mem_cons.mp mem with rfl | later
    · refine List.mem_append_left _ ((step.present k).mpr (Or.inl ?_))
      simp only [next]
      cases inserted : s.tables.main.insert k (Row.fresh s.inserted.length content) with
      | none =>
        rw [Option.getD_none]
        exact Option.isSome_iff_ne_none.mpr (insert_eq_none.mp inserted)
      | some main =>
        rw [Option.getD_some, find_insert inserted, if_pos rfl]
        rfl
    · exact ih step allowed.2 later

omit [DecidableEq ω] [LinearOrder τ] in
/-- The only error of a settlement is then a fence that cannot be bound. -/
theorem settled_of_kept (kept : Kept s history) {w : ω} {e : Envelope κ}
    {outcome : Except String Unit} {retryAt : τ} (bindable : e.claimedAttempt ≤ i32Max) :
    ∃ result, dispatchAndSettle sys.deadLettering (sys.config w).maxAttempts s.now retryAt
      s.tables e outcome = .ok result := by
  refine exists_dispatchAndSettle bindable ?_
  rintro _ _ ⟨r, found, _⟩
  exact kept.apart _ (by rw [found]; rfl)

end Steps

/-- The refusal of a dead-lettering whose event id the dead-letter table already has. -/
def duplicateLetter : OutboxError := .database "duplicate key value in column event_id"

/-- In every run in which no occurrence is delivered again after its row was dead-lettered,
each occurrence enters the outbox exactly once, is then in exactly one of the two tables,
and no dead-lettering is refused for its event id. -/
theorem occurrences_enter_once (sys : System ω γ) (deadLettering : sys.deadLettering = true)
    (now : τ) (events : List (Event ω κ τ γ))
    (allowed : ((machine sys).under Unburied).Allowed (initial now) events) :
    (enteredOf sys (initial now) events).Nodup ∧
    (∀ k, k ∈ enteredOf sys (initial now) events ↔ ∃ content, .insert k content ∈ events) ∧
    (∀ k, ((machine sys).run (initial now) events).tables.main.find k = none ∨
      ((machine sys).run (initial now) events).tables.deadLetter.find k = none) ∧
    ∀ w e outcome retryAt,
      dispatchAndSettle sys.deadLettering (sys.config w).maxAttempts
        ((machine sys).run (initial now) events).now retryAt
        ((machine sys).run (initial now) events).tables e outcome ≠ .error duplicateLetter := by
  have kept := kept_run (kept_initial now) deadLettering allowed
  rw [List.nil_append] at kept
  refine ⟨kept.once, ?_, ?_, ?_⟩
  · intro k
    refine ⟨inserted_of_entered, ?_⟩
    rintro ⟨content, mem⟩
    exact entered_of_inserted (kept_initial now) deadLettering allowed mem
  · intro k
    by_cases stored : (((machine sys).run (initial now) events).tables.main.find k).isSome = true
    · exact Or.inr (kept.apart k stored)
    · exact Or.inl (by simpa using stored)
  · intro w e outcome retryAt refused
    by_cases bindable : e.claimedAttempt ≤ i32Max
    · obtain ⟨result, settled⟩ : ∃ result, dispatchAndSettle sys.deadLettering
          (sys.config w).maxAttempts _ retryAt _ e outcome = .ok result :=
        settled_of_kept kept bindable
      rw [refused] at settled
      cases settled
    · rw [dispatchAndSettle, fenceValue, if_neg bindable] at refused
      cases refused

section Sample

/-- One failure exhausts an envelope. -/
def singleAttempt : System Bool Unit := ⟨.sqlite, true, fun _ => ⟨10, 1⟩, fun _ => true⟩

/-- An occurrence is delivered to the outbox, fails and is dead-lettered. -/
def buried : List (Event Bool ℕ ℕ Unit) :=
  [.insert 7 (), .insert 7 (), .poll false [], .claim false 30,
    .settle false (.error "handler failed") 40]

/-- It is delivered again, and claimed. -/
def redelivered : List (Event Bool ℕ ℕ Unit) :=
  buried ++ [.insert 7 (), .poll true [], .claim true 60]

theorem occurrences_enter_once_sample :
    ((machine singleAttempt).run (initial 0) buried).tables.main.find 7 = none ∧
      enteredOf singleAttempt (initial 0) buried = [7] ∧
      (enteredOf singleAttempt (initial 0) buried).Nodup := by
  have entered := (occurrences_enter_once singleAttempt rfl 0 buried (by decide +kernel)).1
  exact ⟨by decide +kernel, by decide +kernel, entered⟩

/-- Delivered again after it was dead-lettered, the occurrence enters a second time, is in
both tables, and its next dead-lettering is refused. -/
theorem redelivery_after_dead_letter :
    (machine singleAttempt).Allowed (initial 0) redelivered ∧
      enteredOf singleAttempt (initial 0) redelivered = [7, 7] ∧
      (((machine singleAttempt).run (initial 0) redelivered).tables.main.find 7).isSome = true ∧
      (((machine singleAttempt).run (initial 0) redelivered).tables.deadLetter.find 7).isSome =
        true ∧
      (((machine singleAttempt).run (initial 0) redelivered).workers true).held = [⟨7, 0⟩] ∧
      (match dispatchAndSettle true 1 0 90
          ((machine singleAttempt).run (initial 0) redelivered).tables ⟨7, 0⟩
          (.error "handler failed") with
        | .error err => some err
        | .ok _ => none) = some duplicateLetter := by
  decide +kernel

end Sample

end OutboxDeadLetters
