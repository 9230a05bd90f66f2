import Hexeract.SchedulerStatements
import Hexeract.SchedulerWorker

/-! # The in-memory schedule store

The reference store, one operation per method. Every operation runs under one mutex, so it
is atomic; `now` is the reading of the system clock it takes. The map is walked in an order
of its own, which a claim takes as an argument. -/
namespace SchedulerMemory

open LibraryTables StdTime BusEnvelope SchedulerMessages SchedulerWorker

variable {engine : CronEngine}

structure StoredSchedule (engine : CronEngine) where
  message : ScheduledMessage engine
  maxAttempts : ℕ
  attempts : ℕ
  leasedUntil : Option SystemTime
  status : ScheduleStatus
  lastError : Option String
  deadLetteredAt : Option SystemTime
  deriving DecidableEq

abbrev Store (engine : CronEngine) := Table Uuid (StoredSchedule engine)

def StoredSchedule.toSnapshot (stored : StoredSchedule engine) : ScheduleSnapshot engine where
  scheduleId := stored.message.scheduleId
  status := stored.status
  scheduledFor := stored.message.scheduledFor
  attempts := stored.attempts
  maxAttempts := stored.maxAttempts
  trigger := stored.message.trigger
  lastError := stored.lastError

def inspect (store : Store engine) (id : Uuid) : Option (ScheduleSnapshot engine) :=
  (store.find id).map StoredSchedule.toSnapshot

def modify (store : Store engine) (id : Uuid)
    (f : StoredSchedule engine → StoredSchedule engine) : Store engine :=
  store.updateWhere (fun k _ => decide (k = id)) f

theorem find_modify (store : Store engine) (id : Uuid)
    (f : StoredSchedule engine → StoredSchedule engine) (k : Uuid) :
    (modify store id f).find k = (store.find k).map fun s => if k = id then f s else s := by
  rw [modify, find_updateWhere]
  simp only [decide_eq_true_eq]

def StoredSchedule.fresh (message : ScheduledMessage engine) (maxAttempts : UInt32) :
    StoredSchedule engine where
  message := message
  maxAttempts := maxAttempts.toNat
  attempts := 0
  leasedUntil := none
  status := .pending
  lastError := none
  deadLetteredAt := none

/-- The map's `insert` replaces a schedule that is already there. -/
def insert (store : Store engine) (message : ScheduledMessage engine) (maxAttempts : UInt32) :
    Store engine :=
  (store.insert message.scheduleId (.fresh message maxAttempts)).getD
    (modify store message.scheduleId fun _ => .fresh message maxAttempts)

theorem find_insert (store : Store engine) (message : ScheduledMessage engine)
    (maxAttempts : UInt32) (k : Uuid) :
    (insert store message maxAttempts).find k =
      if k = message.scheduleId then some (.fresh message maxAttempts) else store.find k := by
  unfold insert
  cases inserted : store.insert message.scheduleId (.fresh message maxAttempts) with
  | some t => exact LibraryTables.find_insert inserted k
  | none =>
    have taken := insert_eq_none.mp inserted
    rw [Option.getD_none, find_modify]
    by_cases same : k = message.scheduleId
    · obtain ⟨s, found⟩ := Option.ne_none_iff_exists'.mp (same ▸ taken)
      rw [found, Option.map_some, if_pos same, if_pos same]
    · simp only [if_neg same, Option.map_id_fun', id_eq]

/-! ## Claims and the sweep -/

def StoredSchedule.isUnleased (now : SystemTime) (stored : StoredSchedule engine) : Bool :=
  match stored.leasedUntil with
  | none => true
  | some leased => decide (leased ≤ now)

def StoredSchedule.isClaimable (now : SystemTime) (stored : StoredSchedule engine) : Bool :=
  decide (stored.status = .pending) && decide (stored.message.scheduledFor ≤ now) &&
    stored.isUnleased now && decide (stored.attempts < stored.maxAttempts)

/-- The guard keeps the counter below its 32-bit maximum. -/
def StoredSchedule.claim (leasedUntil : SystemTime) (stored : StoredSchedule engine) :
    StoredSchedule engine :=
  { stored with attempts := stored.attempts + 1, leasedUntil := some leasedUntil }

def StoredSchedule.occurrence (leasedUntil : SystemTime) (stored : StoredSchedule engine) :
    LeasedOccurrence engine :=
  ⟨stored.message, stored.attempts, stored.maxAttempts, leasedUntil⟩

/-- The walk over the map: it stops once the batch is full. -/
def claimLoop (now leasedUntil : SystemTime) (batchSize : ℕ) :
    List Uuid → Store engine → List (LeasedOccurrence engine) →
      Store engine × List (LeasedOccurrence engine)
  | [], store, claimed => (store, claimed)
  | id :: rest, store, claimed =>
    if batchSize ≤ claimed.length then (store, claimed)
    else
      match store.find id with
      | none => claimLoop now leasedUntil batchSize rest store claimed
      | some stored =>
        if stored.isClaimable now then
          claimLoop now leasedUntil batchSize rest (modify store id (.claim leasedUntil))
            (claimed ++ [(stored.claim leasedUntil).occurrence leasedUntil])
        else claimLoop now leasedUntil batchSize rest store claimed

def claimDue (now : SystemTime) (batchSize : ℕ) (lease : Duration) (order : List Uuid)
    (store : Store engine) :
    Store engine × Except SchedulerError (List (LeasedOccurrence engine)) :=
  match now.checkedAdd lease with
  | none => (store, .error (.internal "lease deadline overflow"))
  | some leasedUntil =>
    let walked := claimLoop now leasedUntil batchSize order store []
    (walked.1, .ok walked.2)

def isClaimable (now : SystemTime) (store : Store engine) (id : Uuid) : Bool :=
  (store.find id).any (StoredSchedule.isClaimable now)

/-- The schedules a claim takes: the first claimable ones of the walk. -/
def chosen (now : SystemTime) (batchSize : ℕ) (order : List Uuid) (store : Store engine) :
    List Uuid :=
  (order.filter (isClaimable now store)).take batchSize

theorem chosen_congr {now : SystemTime} {batchSize : ℕ} {order : List Uuid}
    {store other : Store engine} (same : ∀ id ∈ order, store.find id = other.find id) :
    chosen now batchSize order store = chosen now batchSize order other := by
  have agree : ∀ id ∈ order, isClaimable now store id = isClaimable now other id := by
    intro id mem
    unfold isClaimable
    rw [same id mem]
  rw [chosen, chosen, List.filter_congr agree]

theorem chosen_skip {now : SystemTime} {batchSize : ℕ} {id : Uuid} {rest : List Uuid}
    {store : Store engine} (passed : isClaimable now store id = false) :
    chosen now batchSize (id :: rest) store = chosen now batchSize rest store := by
  unfold chosen
  rw [List.filter_cons_of_neg (by rw [passed]; exact Bool.false_ne_true)]

theorem chosen_take {now : SystemTime} {batchSize : ℕ} {id : Uuid} {rest : List Uuid}
    {store : Store engine} (taken : isClaimable now store id = true) :
    chosen now (batchSize + 1) (id :: rest) store = id :: chosen now batchSize rest store := by
  unfold chosen
  rw [List.filter_cons_of_pos taken, List.take_succ_cons]

theorem isClaimable_of_mem_chosen {now : SystemTime} {batchSize : ℕ} {order : List Uuid}
    {store : Store engine} {id : Uuid} (mem : id ∈ chosen now batchSize order store) :
    isClaimable now store id = true :=
  (List.mem_filter.mp (List.mem_of_mem_take mem)).2

theorem mem_of_mem_chosen {now : SystemTime} {batchSize : ℕ} {order : List Uuid}
    {store : Store engine} {id : Uuid} (mem : id ∈ chosen now batchSize order store) :
    id ∈ order :=
  (List.mem_filter.mp (List.mem_of_mem_take mem)).1

theorem mem_chosen_of_room {now : SystemTime} {batchSize : ℕ} {order : List Uuid}
    {store : Store engine} (walk : order.Perm (store.rows.map Prod.fst))
    (room : (store.affected fun _ stored => stored.isClaimable now) ≤ batchSize) {id : Uuid} :
    id ∈ chosen now batchSize order store ↔
      ∃ stored, store.find id = some stored ∧ stored.isClaimable now = true := by
  have count : (order.filter (isClaimable now store)).length =
      store.affected fun _ stored => stored.isClaimable now := by
    rw [(walk.filter _).length_eq, ← List.countP_eq_length_filter, List.countP_map]
    refine List.countP_congr fun row mem => ?_
    rw [Function.comp_apply, isClaimable, find_of_mem mem, Option.any_some]
  rw [chosen, List.take_of_length_le (count ▸ room), List.mem_filter, walk.mem_iff]
  constructor
  · rintro ⟨_, claimable⟩
    cases found : store.find id with
    | none => simp [isClaimable, found] at claimable
    | some stored => exact ⟨stored, rfl, by simpa [isClaimable, found] using claimable⟩
  · rintro ⟨stored, found, claimable⟩
    refine ⟨List.mem_map.mpr ⟨_, find_eq_some.mp found, rfl⟩, ?_⟩
    rw [isClaimable, found, Option.any_some, claimable]

theorem chosen_nodup (now : SystemTime) (batchSize : ℕ) {order : List Uuid}
    (distinct : order.Nodup) (store : Store engine) :
    (chosen now batchSize order store).Nodup :=
  distinct.sublist ((List.take_sublist _ _).trans List.filter_sublist)

/-- The walk claims exactly the chosen schedules, each once, and returns them in order. -/
theorem claimLoop_spec (now leasedUntil : SystemTime) (batchSize : ℕ) {order : List Uuid}
    (distinct : order.Nodup) (store : Store engine) (claimed : List (LeasedOccurrence engine)) :
    (∀ k, (claimLoop now leasedUntil batchSize order store claimed).1.find k =
      (store.find k).map fun stored =>
        if k ∈ chosen now (batchSize - claimed.length) order store then stored.claim leasedUntil
        else stored) ∧
    (claimLoop now leasedUntil batchSize order store claimed).2 =
      claimed ++ (chosen now (batchSize - claimed.length) order store).filterMap fun id =>
        (store.find id).map fun stored => (stored.claim leasedUntil).occurrence leasedUntil := by
  induction order generalizing store claimed with
  | nil => simp [claimLoop, chosen]
  | cons id rest ih =>
    obtain ⟨unseen, distinct⟩ := List.nodup_cons.mp distinct
    unfold claimLoop
    by_cases full : batchSize ≤ claimed.length
    · rw [if_pos full, Nat.sub_eq_zero_of_le full]
      simp [chosen]
    rw [if_neg full]
    cases found : store.find id with
    | none =>
      rw [chosen_skip (by rw [isClaimable, found]; rfl)]
      exact ih distinct store claimed
    | some stored =>
      by_cases claimable : stored.isClaimable now = true
      · obtain ⟨room, hroom⟩ : ∃ room, batchSize - claimed.length = room + 1 :=
          ⟨batchSize - claimed.length - 1, by omega⟩
        have kept : ∀ k ∈ rest, (modify store id (.claim leasedUntil)).find k = store.find k := by
          intro k mem
          rw [find_modify]
          simp [show k ≠ id from fun same => unseen (same ▸ mem)]
        obtain ⟨finds, returns⟩ := ih distinct (modify store id (.claim leasedUntil))
          (claimed ++ [(stored.claim leasedUntil).occurrence leasedUntil])
        have left : batchSize - (claimed ++
            [(stored.claim leasedUntil).occurrence leasedUntil]).length = room := by
          rw [List.length_append, List.length_singleton]
          omega
        rw [left, chosen_congr kept] at finds returns
        simp only [if_pos claimable, hroom]
        rw [chosen_take (by rw [isClaimable, found]; exact claimable)]
        refine ⟨fun k => ?_, ?_⟩
        · rw [finds k, find_modify, Option.map_map]
          refine Option.map_congr fun s _ => ?_
          by_cases same : k = id
          · subst same
            have later : k ∉ chosen now room rest store := fun mem => unseen (mem_of_mem_chosen mem)
            simp [later]
          · simp [same]
        · rw [returns, List.filterMap_cons, found, List.append_assoc]
          have others : (chosen now room rest store).filterMap (fun id' =>
              ((modify store id (.claim leasedUntil)).find id').map fun stored =>
                (stored.claim leasedUntil).occurrence leasedUntil) =
              (chosen now room rest store).filterMap fun id' => (store.find id').map fun stored =>
                (stored.claim leasedUntil).occurrence leasedUntil :=
            List.filterMap_congr fun id' mem => by rw [kept id' (mem_of_mem_chosen mem)]
          rw [others]
          rfl
      · simp only [if_neg claimable]
        rw [chosen_skip (by rw [isClaimable, found]; simpa using claimable)]
        exact ih distinct store claimed

theorem find_claimDue (now : SystemTime) (batchSize : ℕ) (lease : Duration) {order : List Uuid}
    (distinct : order.Nodup) (store : Store engine) (k : Uuid) :
    (claimDue now batchSize lease order store).1.find k =
      (store.find k).map fun stored =>
        match now.checkedAdd lease with
        | none => stored
        | some leasedUntil =>
          if k ∈ chosen now batchSize order store then stored.claim leasedUntil else stored := by
  unfold claimDue
  cases now.checkedAdd lease with
  | none => simp
  | some leasedUntil => exact (claimLoop_spec now leasedUntil batchSize distinct store []).1 k

theorem claimDue_returns (now : SystemTime) (batchSize : ℕ) {lease : Duration} {order : List Uuid}
    (distinct : order.Nodup) (store : Store engine) {leasedUntil : SystemTime}
    (added : now.checkedAdd lease = some leasedUntil) :
    (claimDue now batchSize lease order store).2 =
      .ok ((chosen now batchSize order store).filterMap fun id =>
        (store.find id).map fun stored => (stored.claim leasedUntil).occurrence leasedUntil) := by
  unfold claimDue
  rw [added]
  exact congrArg _ (claimLoop_spec now leasedUntil batchSize distinct store []).2

def Keyed (store : Store engine) : Prop :=
  ∀ k stored, store.find k = some stored → stored.message.scheduleId = k

theorem returned_tokens {store : Store engine} (keyed : Keyed store) (now : SystemTime)
    (batchSize : ℕ) (order : List Uuid) (leasedUntil : SystemTime) :
    ((chosen now batchSize order store).filterMap fun id =>
        (store.find id).map fun stored =>
          (stored.claim leasedUntil).occurrence leasedUntil).map
        (fun o => (o.message.scheduleId, o.leasedUntil)) =
      (chosen now batchSize order store).map fun id => (id, leasedUntil) := by
  rw [List.map_filterMap, ← List.filterMap_eq_map]
  refine List.filterMap_congr fun id mem => ?_
  have claimable := isClaimable_of_mem_chosen mem
  cases found : store.find id with
  | none => simp [isClaimable, found] at claimable
  | some stored =>
    have key := keyed id stored found
    exact congrArg (fun k => some (k, leasedUntil)) key

def StoredSchedule.isExhausted (now : SystemTime) (stored : StoredSchedule engine) : Bool :=
  decide (stored.status = .pending) && decide (stored.maxAttempts ≤ stored.attempts) &&
    stored.isUnleased now

/-- Every schedule is looked at, so the order of the walk does not matter. -/
def deadLetterExhausted (now : SystemTime) (store : Store engine) : Store engine × ℕ :=
  (store.updateWhere (fun _ stored => stored.isExhausted now) fun stored =>
      { stored with status := .deadLettered, leasedUntil := none,
                    lastError := some SchedulerStatements.deadLetterExhaustedMessage,
                    deadLetteredAt := some now },
    store.affected fun _ stored => stored.isExhausted now)

/-! ## Acknowledgements and control -/

/-- `fenced_pending_mut`: the schedule, if it is pending and still carries this lease. -/
def fencedPending (store : Store engine) (id : Uuid) (lease : SystemTime) :
    Option (StoredSchedule engine) :=
  (store.find id).filter fun stored =>
    decide (stored.status = .pending) && decide (stored.leasedUntil = some lease)

def acknowledge (store : Store engine) (id : Uuid) (lease : SystemTime)
    (f : StoredSchedule engine → Except SchedulerError (StoredSchedule engine)) :
    Store engine × Except SchedulerError Bool :=
  match fencedPending store id lease with
  | none => (store, .ok false)
  | some stored =>
    match f stored with
    | .error e => (store, .error e)
    | .ok updated => (modify store id fun _ => updated, .ok true)

theorem fencedPending_eq_some {store : Store engine} {id : Uuid} {lease : SystemTime}
    {stored : StoredSchedule engine} :
    fencedPending store id lease = some stored ↔ store.find id = some stored ∧
      stored.status = .pending ∧ stored.leasedUntil = some lease := by
  simp only [fencedPending, Option.filter_eq_some_iff, Bool.and_eq_true, decide_eq_true_eq]

theorem fencedPending_eq_none {store : Store engine} {id : Uuid} {lease : SystemTime} :
    fencedPending store id lease = none ↔ ∀ stored, store.find id = some stored →
      ¬(stored.status = .pending ∧ stored.leasedUntil = some lease) := by
  rw [Option.eq_none_iff_forall_ne_some]
  simp only [ne_eq, fencedPending_eq_some, not_and]

theorem find_acknowledge (store : Store engine) (id : Uuid) (lease : SystemTime)
    (f : StoredSchedule engine → Except SchedulerError (StoredSchedule engine)) (k : Uuid) :
    (acknowledge store id lease f).1.find k = (store.find k).map fun stored =>
      if k = id ∧ stored.status = .pending ∧ stored.leasedUntil = some lease then
        (f stored).toOption.getD stored
      else stored := by
  by_cases same : k = id
  · subst same
    cases found : store.find k with
    | none =>
      have fenced : fencedPending store k lease = none := by rw [fencedPending, found]; rfl
      simp [acknowledge, fenced, found]
    | some stored =>
      by_cases held : stored.status = .pending ∧ stored.leasedUntil = some lease
      · rw [acknowledge, fencedPending_eq_some.mpr ⟨found, held⟩]
        cases computed : f stored <;>
          simp [find_modify, found, held, computed, Except.toOption]
      · have fenced : fencedPending store k lease = none := by
          rw [fencedPending_eq_none, found]
          rintro _ ⟨⟩
          exact held
        simp [acknowledge, fenced, found, held]
  · have kept : (acknowledge store id lease f).1.find k = store.find k := by
      unfold acknowledge
      cases fencedPending store id lease with
      | none => rfl
      | some stored => cases computed : f stored <;> simp [find_modify, same, computed]
    simp [kept, same]

theorem acknowledge_report (store : Store engine) (id : Uuid) (lease : SystemTime)
    (f : StoredSchedule engine → Except SchedulerError (StoredSchedule engine)) :
    (acknowledge store id lease f).2 = match fencedPending store id lease with
      | none => .ok false
      | some stored => (f stored).map fun _ => true := by
  unfold acknowledge
  cases fencedPending store id lease with
  | none => rfl
  | some stored =>
    dsimp only
    cases f stored <;> rfl

def markDelivered (store : Store engine) (id : Uuid) (lease : SystemTime) :
    Store engine × Except SchedulerError Bool :=
  acknowledge store id lease fun stored =>
    .ok { stored with status := .delivered, leasedUntil := none }

def reschedule (next : SystemTime) (store : Store engine) (id : Uuid) (lease : SystemTime) :
    Store engine × Except SchedulerError Bool :=
  acknowledge store id lease fun stored =>
    .ok { stored with message := { stored.message with scheduledFor := next }, attempts := 0,
                      leasedUntil := none, lastError := none }

def markFailed (now : SystemTime) (retryIn : Duration) (error : String) (store : Store engine)
    (id : Uuid) (lease : SystemTime) : Store engine × Except SchedulerError Bool :=
  acknowledge store id lease fun stored =>
    match now.checkedAdd retryIn with
    | none => .error (.internal "retry deadline overflow")
    | some retryAt => .ok { stored with leasedUntil := some retryAt, lastError := some error }

def markDeadLettered (now : SystemTime) (error : String) (store : Store engine) (id : Uuid)
    (lease : SystemTime) : Store engine × Except SchedulerError Bool :=
  acknowledge store id lease fun stored =>
    .ok { stored with status := .deadLettered, leasedUntil := none, lastError := some error,
                      deadLetteredAt := some now }

def perform (now : SystemTime) (call : Call) (store : Store engine) (id : Uuid)
    (lease : SystemTime) : Store engine × Except SchedulerError Bool :=
  match call with
  | .delivered => markDelivered store id lease
  | .reschedule next => reschedule next store id lease
  | .failed retryIn error => markFailed now retryIn error store id lease
  | .deadLettered error => markDeadLettered now error store id lease

/-- A method that looks a schedule up by its id and refuses one that is not there. -/
def withSchedule (store : Store engine) (id : Uuid)
    (f : StoredSchedule engine → Except SchedulerError (StoredSchedule engine)) :
    Store engine × Except SchedulerError Unit :=
  match store.find id with
  | none => (store, .error (.scheduleNotFound id))
  | some stored =>
    match f stored with
    | .error e => (store, .error e)
    | .ok updated => (modify store id fun _ => updated, .ok ())

theorem find_withSchedule (store : Store engine) (id : Uuid)
    (f : StoredSchedule engine → Except SchedulerError (StoredSchedule engine)) (k : Uuid) :
    (withSchedule store id f).1.find k = (store.find k).map fun stored =>
      if k = id then (f stored).toOption.getD stored else stored := by
  unfold withSchedule
  by_cases same : k = id
  · subst same
    cases found : store.find k with
    | none => simp [found]
    | some stored =>
      dsimp only
      cases computed : f stored <;> simp [find_modify, found, computed, Except.toOption]
  · cases store.find id with
    | none => simp [same]
    | some stored =>
      dsimp only
      cases f stored <;> simp [find_modify, same]

theorem withSchedule_report (store : Store engine) (id : Uuid)
    (f : StoredSchedule engine → Except SchedulerError (StoredSchedule engine)) :
    (withSchedule store id f).2 = match store.find id with
      | none => .error (.scheduleNotFound id)
      | some stored => (f stored).map fun _ => () := by
  unfold withSchedule
  cases store.find id with
  | none => rfl
  | some stored =>
    dsimp only
    cases f stored <;> rfl

def isTerminal : ScheduleStatus → Bool
  | .delivered | .cancelled | .deadLettered => true
  | .pending | .paused => false

def cancel (store : Store engine) (id : Uuid) : Store engine × Except SchedulerError Unit :=
  withSchedule store id fun stored =>
    .ok (if isTerminal stored.status then stored
      else { stored with status := .cancelled, leasedUntil := none })

def setPaused (paused : Bool) (store : Store engine) (id : Uuid) :
    Store engine × Except SchedulerError Unit :=
  withSchedule store id fun stored =>
    match paused, stored.status with
    | true, .pending => .ok { stored with status := .paused }
    | false, .paused => .ok { stored with status := .pending }
    | _, _ => .ok stored

/-- A lease outlives a plain resume and ends with a realigning one. -/
def resume (next : Option SystemTime) (store : Store engine) (id : Uuid) :
    Store engine × Except SchedulerError Unit :=
  withSchedule store id fun stored =>
    if stored.status ≠ .paused then .ok stored
    else
      match next with
      | none => .ok { stored with status := .pending }
      | some instant =>
        .ok { stored with status := .pending, attempts := 0, lastError := none,
                          leasedUntil := none,
                          message := { stored.message with scheduledFor := instant } }

def replay (now : SystemTime) (store : Store engine) (id : Uuid) :
    Store engine × Except SchedulerError Unit :=
  withSchedule store id fun stored =>
    if stored.status ≠ .deadLettered then .error (.notReplayable id stored.status)
    else
      .ok { stored with status := .pending, attempts := 0, lastError := none,
                        leasedUntil := none, deadLetteredAt := none,
                        message := { stored.message with scheduledFor := now } }

end SchedulerMemory
