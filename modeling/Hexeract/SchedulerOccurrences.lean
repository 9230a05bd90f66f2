import Hexeract.SchedulerLeases
import Hexeract.SchedulerMemorySteps

/-! # Occurrences of a recurring schedule

Workers claim occurrences of the in-memory store, dispatch them and report back; control
calls pause, resume and cancel one schedule. A worker computes the next occurrence from its
own copy of the message, control from a snapshot it read before, and every clock reading
involved is free, so that clocks may also jump back. What ties an outdated copy to the store
is the fence: no two deadlines of the schedule are equal. -/
namespace SchedulerOccurrences

open LibraryCollections LibraryTables LibraryMachines LibraryFramedBytes StdTime BusEnvelope
open SchedulerMessages SchedulerMemory SchedulerMemorySteps SchedulerWorker

variable {engine : CronEngine}

/-! ## Occurrence ids -/

def occurrenceNamespace : Uuid :=
  ⟨[0x6b, 0x9d, 0x1c, 0x2e, 0x7a, 0x44, 0x4f, 0x8e, 0x9c, 0x10, 0x2d, 0x3b, 0x4c, 0x5d, 0x6e, 0x7f],
    rfl⟩

/-- The name an occurrence id is derived from: the schedule, one byte for the side of the
epoch the instant is on, and its distance from the epoch in nanoseconds. -/
def occurrenceName (scheduleId : Uuid) (scheduledFor : SystemTime) : Bytes :=
  scheduleId.bytes ++ (if 0 ≤ scheduledFor.nanos then 1 else 0) ::
    bigEndian 16 scheduledFor.nanos.natAbs

/-- `OccurrenceId::derive`; `newV5` is the UUID crate's hash of a name in a namespace. -/
def OccurrenceId.derive (newV5 : Uuid → Bytes → Uuid) (scheduleId : Uuid)
    (scheduledFor : SystemTime) : Uuid :=
  newV5 occurrenceNamespace (occurrenceName scheduleId scheduledFor)

def occurrenceId (newV5 : Uuid → Bytes → Uuid) (o : LeasedOccurrence engine) : Uuid :=
  OccurrenceId.derive newV5 o.message.scheduleId o.message.scheduledFor

theorem two_mul_natAbs_lt (t : SystemTime) : 2 * t.nanos.natAbs + 1 < 256 ^ 12 := by
  have := t.in_range
  simp only [nanosPerSec] at this
  omega

theorem occurrenceName_inj {scheduleId : Uuid} {t u : SystemTime}
    (same : occurrenceName scheduleId t = occurrenceName scheduleId u) : t = u := by
  have tail := List.append_cancel_left same
  obtain ⟨side, distance⟩ := List.cons.inj tail
  have abs := bigEndian_inj (by have := two_mul_natAbs_lt t; omega)
    (by have := two_mul_natAbs_lt u; omega) distance
  apply SystemTime.ext
  by_cases ht : 0 ≤ t.nanos <;> by_cases hu : 0 ≤ u.nanos <;> simp [ht, hu] at side <;> omega

theorem occurrenceId_eq_iff {newV5 : Uuid → Bytes → Uuid} {id : Uuid}
    (injective : Set.InjOn (newV5 occurrenceNamespace) (Set.range (occurrenceName id)))
    {o p : LeasedOccurrence engine} (ho : o.message.scheduleId = id)
    (hp : p.message.scheduleId = id) :
    occurrenceId newV5 o = occurrenceId newV5 p ↔
      o.message.scheduledFor = p.message.scheduledFor := by
  unfold occurrenceId OccurrenceId.derive
  rw [ho, hp]
  constructor
  · exact fun same => occurrenceName_inj (injective ⟨_, rfl⟩ ⟨_, rfl⟩ same)
  · intro same
    rw [same]

/-! ## The cron engine -/

/-- The engine's next match lies strictly after the date it is asked for. -/
def StrictlyAfter (engine : CronEngine) : Prop :=
  ∀ text anchor next, engine.nextAfter text anchor = some next → anchor.nanos < next.nanos

theorem nextOccurrence_gt (strict : StrictlyAfter engine) {expression : CronExpression engine}
    {after next : SystemTime} (found : expression.nextOccurrence after = .ok (some next)) :
    after < next := by
  obtain ⟨anchor, converted, returned⟩ := bind_ok.mp found
  obtain ⟨date, matched, rfl⟩ := Option.map_eq_some_iff.mp (Except.ok.inj returned)
  have later := strict _ _ _ matched
  rw [toOffsetDateTime_nanos converted] at later
  exact later

/-- The next occurrence a worker reports lies after its clock and the instant of its copy. -/
theorem onSuccess_reschedule (strict : StrictlyAfter engine) {o : LeasedOccurrence engine}
    {now next : SystemTime} (computed : onSuccess o now = .ok (.reschedule next)) :
    now < next ∧ o.message.scheduledFor < next := by
  unfold onSuccess at computed
  cases trigger : o.message.trigger with
  | delay instant =>
    rw [trigger] at computed
    cases computed
  | cron expression =>
    rw [trigger] at computed
    obtain ⟨found, due, same⟩ := map_ok.mp computed
    cases found with
    | none => cases same
    | some instant =>
      cases same
      exact max_lt_iff.mp (nextOccurrence_gt strict due)

theorem resumeCall_realigns (strict : StrictlyAfter engine) {snapshot : ScheduleSnapshot engine}
    {now next : SystemTime} (decided : resumeCall snapshot now = .ok (some (some next))) :
    snapshot.status = .paused ∧ snapshot.scheduledFor ≤ now ∧ now < next := by
  unfold resumeCall at decided
  by_cases paused : snapshot.status = .paused
  · refine ⟨paused, ?_⟩
    rw [if_neg (not_not.mpr paused)] at decided
    cases trigger : snapshot.trigger with
    | delay instant =>
      rw [trigger] at decided
      cases decided
    | cron expression =>
      rw [trigger] at decided
      by_cases past : snapshot.scheduledFor ≤ now
      · simp only [if_pos past] at decided
        obtain ⟨found, due, same⟩ := map_ok.mp decided
        cases found with
        | none => cases same
        | some instant =>
          cases same
          exact ⟨past, nextOccurrence_gt strict due⟩
      · simp only [if_neg past] at decided
        cases decided
  · rw [if_pos paused] at decided
    cases decided

/-! ## Workers and control -/

/-- The store call `SchedulerControl` goes on to make after it has read a snapshot. -/
inductive ControlCall where
  | cancel
  | resume (next : Option SystemTime)
  deriving DecidableEq

/-- The store, the occurrences handed to workers, the lease and backoff deadlines the
schedule has carried, and the control call under way. -/
structure State (engine : CronEngine) where
  store : Store engine
  occurrences : List (LeasedOccurrence engine)
  deadlines : List SystemTime
  control : Option ControlCall

def initial : State engine := ⟨.empty, [], [], none⟩

/-- Readings of different clocks are separate arguments: a settling worker reads its own
clock for the next occurrence, and the store reads the clock again for a failure. -/
inductive Event (engine : CronEngine) where
  | insert (message : ScheduledMessage engine) (maxAttempts : UInt32)
  | claim (now : SystemTime) (batchSize : ℕ) (lease : Duration) (order : List Uuid)
  | settle (o : LeasedOccurrence engine) (config : SchedulerWorkerConfig)
      (draw : UInt64 → UInt64) (outcome : Except String Unit) (now stored : SystemTime)
  | sweep (now : SystemTime)
  | pause
  | cancel
  | resume (now : SystemTime)
  | finish

def callOf (config : SchedulerWorkerConfig) (draw : UInt64 → UInt64) (o : LeasedOccurrence engine)
    (outcome : Except String Unit) (now : SystemTime) : Except SchedulerError Call :=
  match outcome with
  | .ok () => onSuccess o now
  | .error reason => .ok (onFailure config draw o reason)

section Machine

variable (id : Uuid)

/-- The store operation of an event, with the clock reading the store takes; some methods
take none. -/
def operationOf (s : State engine) : Event engine → Option (SystemTime × Operation engine)
  | .insert message maxAttempts => some (unixEpoch, .insert message maxAttempts)
  | .claim now batchSize lease order => some (now, .claimDue batchSize lease order)
  | .settle o config draw outcome now stored =>
    ((callOf config draw o outcome now).toOption).map fun call =>
      (stored, .acknowledge o.message.scheduleId o.leasedUntil call)
  | .sweep now => some (now, .deadLetterExhausted)
  | .pause => some (unixEpoch, .setPaused id true)
  | .cancel => none
  | .resume _ => none
  | .finish => s.control.map fun
    | .cancel => (unixEpoch, .cancel id)
    | .resume next => (unixEpoch, .resume id next)

/-- What a control call that has read the schedule is about to do. -/
def controlAfter (s : State engine) : Event engine → Option ControlCall
  | .cancel => (inspect s.store id).bind fun snapshot =>
    if isTerminal snapshot.status then none else some .cancel
  | .resume now => (inspect s.store id).bind fun snapshot =>
    match resumeCall snapshot now with
    | .ok (some next) => some (.resume next)
    | _ => none
  | .finish => none
  | _ => s.control

def next (s : State engine) (e : Event engine) : State engine :=
  match operationOf id s e with
  | none => { s with control := controlAfter id s e }
  | some (now, op) =>
    { store := (step now s.store op).1
      occurrences := s.occurrences ++ handed now s.store op
      deadlines := s.deadlines ++ (newDeadline now s.store op id).toList
      control := controlAfter id s e }

/-- A worker settles what it was handed, and control calls are made one at a time. -/
def Driven (s : State engine) : Event engine → Prop
  | .settle o _ _ _ _ _ => o ∈ s.occurrences
  | .pause => s.control = none
  | .cancel => s.control = none
  | .resume _ => s.control = none
  | _ => True

instance (s : State engine) : (e : Event engine) → Decidable (Driven s e)
  | .settle o _ _ _ _ _ => inferInstanceAs (Decidable (o ∈ s.occurrences))
  | .pause => inferInstanceAs (Decidable (s.control = none))
  | .cancel => inferInstanceAs (Decidable (s.control = none))
  | .resume _ => inferInstanceAs (Decidable (s.control = none))
  | .insert _ _ => isTrue trivial
  | .claim _ _ _ _ => isTrue trivial
  | .sweep _ => isTrue trivial
  | .finish => isTrue trivial

/-- No two lease or backoff deadlines of the schedule are equal. -/
def Admits (s : State engine) : Option (SystemTime × Operation engine) → Prop
  | none => True
  | some (now, op) => Walks s.store op ∧ Fresh s.store op ∧
      ∀ deadline ∈ newDeadline now s.store op id, deadline ∉ s.deadlines

instance (s : State engine) : (op : Option (SystemTime × Operation engine)) →
    Decidable (Admits id s op)
  | none => isTrue trivial
  | some (now, op) => inferInstanceAs (Decidable (Walks s.store op ∧ Fresh s.store op ∧
      ∀ deadline ∈ newDeadline now s.store op id, deadline ∉ s.deadlines))

def Enabled (s : State engine) (e : Event engine) : Prop :=
  Driven s e ∧ Admits id s (operationOf id s e)

instance (s : State engine) (e : Event engine) : Decidable (Enabled id s e) :=
  inferInstanceAs (Decidable (_ ∧ _))

def machine : Machine (State engine) (Event engine) := ⟨Enabled id, next id⟩

instance (s : State engine) (e : Event engine) : Decidable ((machine id).enabled s e) :=
  inferInstanceAs (Decidable (Enabled id s e))

/-- The instant an applied reschedule or realigning resume moves the schedule to. -/
def instantOf (s : State engine) (e : Event engine) : Option SystemTime :=
  (operationOf id s e).bind fun step => newInstant step.1 s.store step.2 id

def advances (s : State engine) : List (Event engine) → ℕ
  | [] => 0
  | e :: rest => (if (instantOf id s e).isSome then 1 else 0) + advances (next id s e) rest

def handedOut (s : State engine) (e : Event engine) : List (LeasedOccurrence engine) :=
  ((operationOf id s e).map fun step => handed step.1 s.store step.2).getD []

end Machine

/-! ## What holds in every state -/

/-- A worker's copy is the stored message for as long as the schedule carries its token, and
a realignment under way moves the schedule forward. -/
structure Sound (id : Uuid) (s : State engine) : Prop where
  keyed : Keyed s.store
  claimed : ∀ o ∈ s.occurrences, o.message.scheduleId = id → o.leasedUntil ∈ s.deadlines
  matching : ∀ o ∈ s.occurrences, o.message.scheduleId = id → ∀ stored,
    s.store.find id = some stored → stored.leasedUntil = some o.leasedUntil →
      stored.message = o.message
  pending : ∀ instant, s.control = some (.resume (some instant)) → ∃ stored,
    s.store.find id = some stored ∧ stored.status = .paused ∧
      stored.message.scheduledFor < instant

theorem sound_initial (id : Uuid) : Sound id (initial : State engine) where
  keyed := by
    intro k stored found
    cases found
  claimed := by simp [initial]
  matching := by simp [initial]
  pending := by simp [initial]

section Step

variable {id : Uuid} {s : State engine} {now : SystemTime} {op : Operation engine}

theorem claimed_step (sound : Sound id s) (admits : Admits id s (some (now, op))) :
    ∀ o ∈ s.occurrences ++ handed now s.store op, o.message.scheduleId = id →
      o.leasedUntil ∈ s.deadlines ++ (newDeadline now s.store op id).toList := by
  intro o mem key
  rcases List.mem_append.mp mem with old | new
  · exact List.mem_append_left _ (sound.claimed o old key)
  · have stamped : newDeadline now s.store op o.message.scheduleId = some o.leasedUntil :=
      newDeadline_of_handed admits.1 sound.keyed (List.mem_map.mpr ⟨o, new, rfl⟩)
    rw [key] at stamped
    exact List.mem_append_right _ (by rw [stamped]; exact List.mem_singleton.mpr rfl)

theorem matching_step (sound : Sound id s) (admits : Admits id s (some (now, op))) :
    ∀ o ∈ s.occurrences ++ handed now s.store op, o.message.scheduleId = id → ∀ after,
      (step now s.store op).1.find id = some after → after.leasedUntil = some o.leasedUntil →
        after.message = o.message := by
  intro o mem key after found leased
  obtain ⟨before, hbefore, kept⟩ := message_of_leased admits.1 found leased
  rw [kept]
  rcases List.mem_append.mp mem with old | new
  · rcases leasedUntil_step admits.1 found with stamped | ⟨_, again, hagain, same⟩
    · -- the deadline just stamped would be the token of an older claim
      rw [leased] at stamped
      exact absurd (sound.claimed o old key) (admits.2.2 _ stamped.symm)
    · rw [hbefore] at hagain
      cases hagain
      exact sound.matching o old key before hbefore (same ▸ leased)
  · obtain ⟨stored, hstored, copied⟩ := message_of_handed admits.1 sound.keyed new
    rw [key, hbefore] at hstored
    cases hstored
    exact copied

end Step

theorem callOf_reschedule (strict : StrictlyAfter engine) {config : SchedulerWorkerConfig}
    {draw : UInt64 → UInt64} {o : LeasedOccurrence engine} {outcome : Except String Unit}
    {now instant : SystemTime}
    (computed : callOf config draw o outcome now = .ok (.reschedule instant)) :
    now < instant ∧ o.message.scheduledFor < instant := by
  cases outcome with
  | ok _ => exact onSuccess_reschedule strict computed
  | error reason =>
    have failed := Except.ok.inj computed
    unfold onFailure at failed
    by_cases exhausted : o.isExhausted = true
    · rw [if_pos exhausted] at failed
      cases failed
    · rw [if_neg exhausted] at failed
      cases failed

theorem instant_gt (strict : StrictlyAfter engine) {id : Uuid} {s : State engine}
    (sound : Sound id s) {e : Event engine} (driven : Driven s e) {instant : SystemTime}
    (moves : instantOf id s e = some instant) {stored : StoredSchedule engine}
    (found : s.store.find id = some stored) : stored.message.scheduledFor < instant := by
  obtain ⟨⟨now, op⟩, performed, moves⟩ := Option.bind_eq_some_iff.mp moves
  cases e with
  | settle o config draw outcome worker clock =>
    obtain ⟨call, computed, same⟩ := Option.map_eq_some_iff.mp performed
    cases same
    cases call with
    | reschedule next =>
      rw [newInstant] at moves
      by_cases held : id = o.message.scheduleId ∧
          (fencedPending s.store o.message.scheduleId o.leasedUntil).isSome = true
      · rw [if_pos held] at moves
        cases moves
        obtain ⟨rfl, fenced⟩ := held
        have copied := sound.matching o driven rfl stored found
          ((fencedPending_isSome found).mp fenced).2
        rw [copied]
        exact (callOf_reschedule strict (toOption_eq_some.mp computed)).2
      · rw [if_neg held] at moves
        cases moves
    | _ => cases moves
  | finish =>
    obtain ⟨call, pending, same⟩ := Option.map_eq_some_iff.mp performed
    cases call with
    | cancel =>
      cases same
      cases moves
    | resume next =>
      cases same
      rw [newInstant] at moves
      by_cases held : id = id ∧
          (s.store.find id).any (fun stored => decide (stored.status = .paused)) = true
      · rw [if_pos held] at moves
        rw [moves] at pending
        obtain ⟨_, same, _, later⟩ := sound.pending instant pending
        rw [found] at same
        cases same
        exact later
      · rw [if_neg held] at moves
        cases moves
  | resume clock => cases performed
  | cancel => cases performed
  | _ =>
    cases performed
    cases moves

theorem control_next (id : Uuid) (s : State engine) (e : Event engine) :
    (next id s e).control = controlAfter id s e := by
  unfold next
  cases operationOf id s e <;> rfl

theorem paused_next {id : Uuid} {s : State engine} {e : Event engine} (enabled : Enabled id s e)
    (work : ∀ now op, operationOf id s e = some (now, op) → isControl op = false)
    {stored : StoredSchedule engine} (found : s.store.find id = some stored)
    (paused : stored.status = .paused) : (next id s e).store.find id = some stored := by
  unfold next
  cases performed : operationOf id s e with
  | none => exact found
  | some operation =>
    have admits : Admits id s (some operation) := performed ▸ enabled.2
    exact paused_step admits.1 admits.2.1 (work _ _ performed) found paused

theorem realigning_of_resume (strict : StrictlyAfter engine) {id : Uuid} {s : State engine}
    {now instant : SystemTime}
    (decided : controlAfter id s (.resume now) = some (.resume (some instant))) :
    ∃ stored, s.store.find id = some stored ∧ stored.status = .paused ∧
      stored.message.scheduledFor < instant := by
  obtain ⟨snapshot, inspected, chosen⟩ := Option.bind_eq_some_iff.mp decided
  obtain ⟨stored, found, rfl⟩ := Option.map_eq_some_iff.mp inspected
  refine ⟨stored, found, ?_⟩
  cases answer : resumeCall stored.toSnapshot now with
  | error e =>
    rw [answer] at chosen
    cases chosen
  | ok call =>
    rw [answer] at chosen
    cases call with
    | none => cases chosen
    | some call =>
      cases chosen
      obtain ⟨paused, past, ahead⟩ := resumeCall_realigns strict answer
      exact ⟨paused, lt_of_le_of_lt past ahead⟩

theorem pending_next (strict : StrictlyAfter engine) {id : Uuid} {s : State engine}
    (sound : Sound id s) {e : Event engine} (enabled : Enabled id s e) {instant : SystemTime}
    (under : (next id s e).control = some (.resume (some instant))) :
    ∃ stored, (next id s e).store.find id = some stored ∧ stored.status = .paused ∧
      stored.message.scheduledFor < instant := by
  rw [control_next] at under
  have kept : (∀ now op, operationOf id s e = some (now, op) → isControl op = false) →
      s.control = some (.resume (some instant)) → ∃ stored,
        (next id s e).store.find id = some stored ∧ stored.status = .paused ∧
          stored.message.scheduledFor < instant := by
    intro work held
    obtain ⟨stored, found, paused, later⟩ := sound.pending instant held
    exact ⟨stored, paused_next enabled work found paused, paused, later⟩
  cases e with
  | resume clock => exact realigning_of_resume strict under
  | cancel =>
    obtain ⟨snapshot, _, chosen⟩ := Option.bind_eq_some_iff.mp under
    by_cases terminal : isTerminal snapshot.status = true <;> simp [terminal] at chosen
  | finish => cases under
  | pause =>
    have idle : s.control = none := enabled.1
    have held : s.control = some (.resume (some instant)) := under
    rw [idle] at held
    cases held
  | settle o config draw outcome worker clock =>
    refine kept ?_ under
    intro now op performed
    obtain ⟨call, _, same⟩ := Option.map_eq_some_iff.mp performed
    cases same
    rfl
  | _ =>
    refine kept ?_ under
    rintro now op ⟨⟩
    rfl

theorem sound_next (strict : StrictlyAfter engine) {id : Uuid} {s : State engine}
    (sound : Sound id s) {e : Event engine} (enabled : Enabled id s e) :
    Sound id (next id s e) := by
  have pending := fun instant => @pending_next engine strict id s sound e enabled instant
  unfold next at pending ⊢
  cases performed : operationOf id s e with
  | none =>
    simp only [performed] at pending
    exact { sound with pending := pending }
  | some operation =>
    obtain ⟨now, op⟩ := operation
    simp only [performed] at pending
    have admits : Admits id s (some (now, op)) := performed ▸ enabled.2
    exact {
      keyed := keyed_step admits.1 sound.keyed
      claimed := claimed_step sound admits
      matching := matching_step sound admits
      pending := pending }

/-! ## Whole runs -/

theorem message_next {id : Uuid} {s : State engine} {e : Event engine} (enabled : Enabled id s e)
    {stored : StoredSchedule engine} (found : s.store.find id = some stored) :
    ∃ after, (next id s e).store.find id = some after ∧
      after.message = moved stored.message (instantOf id s e) := by
  unfold next instantOf
  cases performed : operationOf id s e with
  | none => exact ⟨stored, found, rfl⟩
  | some operation =>
    have admits : Admits id s (some operation) := performed ▸ enabled.2
    exact exists_step admits.1 admits.2.1 found

/-- Along a run the instant of the schedule stays where it is, or grows with the first step
that moves it. -/
theorem message_run (strict : StrictlyAfter engine) {id : Uuid} {s : State engine}
    (sound : Sound id s) {events : List (Event engine)}
    (allowed : (machine id).Allowed s events) {stored : StoredSchedule engine}
    (found : s.store.find id = some stored) :
    ∃ after, ((machine id).run s events).store.find id = some after ∧
      (advances id s events = 0 → after.message = stored.message) ∧
      (0 < advances id s events →
        stored.message.scheduledFor < after.message.scheduledFor) := by
  induction events generalizing s stored with
  | nil => exact ⟨stored, found, fun _ => rfl, fun h => absurd h (lt_irrefl 0)⟩
  | cons e rest ih =>
    obtain ⟨mid, hmid, moves⟩ := message_next allowed.1 found
    obtain ⟨after, hafter, still, grows⟩ :=
      ih (sound_next strict sound allowed.1) allowed.2 hmid
    refine ⟨after, hafter, ?_⟩
    rw [advances]
    cases step : instantOf id s e with
    | none =>
      have kept : mid.message = stored.message := by
        rw [moves, step]
        rfl
      rw [← kept]
      simpa using ⟨still, grows⟩
    | some instant =>
      have forward : stored.message.scheduledFor < mid.message.scheduledFor := by
        rw [moves, step]
        exact instant_gt strict sound allowed.1.1 step found
      refine ⟨fun h => by simp at h, fun _ => ?_⟩
      by_cases more : 0 < advances id (next id s e) rest
      · exact forward.trans (grows more)
      · rw [still (by omega)]
        exact forward

theorem sound_run (strict : StrictlyAfter engine) {id : Uuid} {events : List (Event engine)}
    (allowed : (machine id).Allowed initial events) : Sound id ((machine id).run initial events) :=
  invariant_of_steps (sound_initial id)
    (fun _ _ sound enabled => sound_next strict sound enabled) allowed

theorem exists_of_handedOut {id : Uuid} {s : State engine} {e : Event engine}
    (sound : Sound id s) (enabled : Enabled id s e) {o : LeasedOccurrence engine}
    (mem : o ∈ handedOut id s e) (key : o.message.scheduleId = id) :
    instantOf id s e = none ∧ ∃ stored, s.store.find id = some stored ∧
      stored.message = o.message := by
  unfold handedOut at mem
  unfold instantOf
  cases performed : operationOf id s e with
  | none => simp [performed] at mem
  | some operation =>
    have admits : Admits id s (some operation) := performed ▸ enabled.2
    rw [performed] at mem
    refine ⟨newInstant_of_handed mem id, ?_⟩
    have copied := message_of_handed admits.1 sound.keyed mem
    rwa [key] at copied

/-- Every applied reschedule and realigning resume of the run strictly increases the instant
of the schedule. -/
def MovesForward (id : Uuid) (events : List (Event engine)) : Prop :=
  ∀ before e rest, events = before ++ e :: rest →
    (instantOf id ((machine id).run initial before) e).isSome = true → ∃ old new,
      ((machine id).run initial before).store.find id = some old ∧
      ((machine id).run initial (before ++ [e])).store.find id = some new ∧
      old.message.scheduledFor < new.message.scheduledFor

/-- Two occurrences of the schedule that the run hands to workers carry the same id exactly
if no such step lies between their claims. -/
def Identified (newV5 : Uuid → Bytes → Uuid) (id : Uuid) (events : List (Event engine)) : Prop :=
  ∀ before first mid second rest, events = before ++ first :: (mid ++ second :: rest) →
    ∀ o ∈ handedOut id ((machine id).run initial before) first,
    ∀ p ∈ handedOut id ((machine id).run initial (before ++ first :: mid)) second,
      o.message.scheduleId = id → p.message.scheduleId = id →
        (occurrenceId newV5 o = occurrenceId newV5 p ↔
          advances id ((machine id).run initial (before ++ [first])) mid = 0)

theorem occurrences_identified (strict : StrictlyAfter engine) {newV5 : Uuid → Bytes → Uuid}
    {id : Uuid}
    (injective : Set.InjOn (newV5 occurrenceNamespace) (Set.range (occurrenceName id)))
    {events : List (Event engine)} (allowed : (machine id).Allowed initial events) :
    MovesForward id events ∧ Identified newV5 id events := by
  constructor
  · rintro before e rest rfl advanced
    obtain ⟨earlier, later⟩ := allowed_append.mp allowed
    obtain ⟨instant, moves⟩ := Option.isSome_iff_exists.mp advanced
    obtain ⟨⟨now, op⟩, _, moved⟩ := Option.bind_eq_some_iff.mp moves
    obtain ⟨old, hold⟩ := find_of_newInstant moved
    obtain ⟨new, hnew, message⟩ := message_next later.1 hold
    refine ⟨old, new, hold, by rw [run_append]; exact hnew, ?_⟩
    rw [message, moves]
    exact instant_gt strict (sound_run strict earlier) later.1.1 moves hold
  · rintro before first mid second rest rfl o ho p hp hoid hpid
    obtain ⟨earlier, atFirst, afterFirst⟩ := allowed_append.mp allowed
    obtain ⟨between, atSecond, _⟩ := allowed_append.mp afterFirst
    have sound := sound_run strict earlier
    obtain ⟨still, stored, hstored, copied⟩ := exists_of_handedOut sound atFirst ho hoid
    obtain ⟨claimed, hclaimed, message⟩ := message_next atFirst hstored
    rw [still] at message
    have sound' := sound_next strict sound atFirst
    obtain ⟨final, hfinal, stays, grows⟩ := message_run strict sound' between hclaimed
    rw [run_append] at hp ⊢
    obtain ⟨_, again, hagain, copied'⟩ := exists_of_handedOut
      (invariant_of_steps sound' (fun _ _ held enabled => sound_next strict held enabled) between)
      atSecond hp hpid
    have same : final = again := Option.some.inj (hfinal.symm.trans hagain)
    subst same
    have start : claimed.message = o.message := message.trans copied
    rw [start, copied'] at stays grows
    rw [occurrenceId_eq_iff injective hoid hpid]
    constructor
    · intro due
      by_contra moved
      exact absurd due (ne_of_lt (grows (Nat.pos_of_ne_zero moved)))
    · intro unmoved
      rw [stays unmoved]

/-- An engine for one expression, which matches the second 22 of every minute. -/
def minutely : CronEngine where
  parse := fun text => if text = "22 * * * * *" then .ok () else .error "unsupported"
  nextAfter := fun _ anchor =>
    let minute : ℤ := 60 * nanosPerSec
    let next := ((anchor.nanos - 22 * nanosPerSec) / minute + 1) * minute + 22 * nanosPerSec
    if h : -(377705116800 * (nanosPerSec : ℤ)) ≤ next ∧
        next < 253402300800 * (nanosPerSec : ℤ) then
      some ⟨next, h⟩
    else none

theorem minutely_strictlyAfter : StrictlyAfter minutely := by
  intro text anchor next found
  simp only [minutely] at found
  split at found
  · cases found
    simp only [nanosPerSec]
    omega
  · cases found

def readBigEndian (bytes : Bytes) : ℕ := bytes.foldl (fun n b => n * 256 + b.toNat) 0

theorem readBigEndian_bigEndian (width n : ℕ) :
    readBigEndian (bigEndian width n) = n % 256 ^ width := by
  induction width generalizing n with
  | zero => simp [bigEndian, readBigEndian, Nat.mod_one]
  | succ width ih =>
    have split : n / 256 % 256 ^ width * 256 + n % 256 = n % 256 ^ (width + 1) := by
      rw [Nat.pow_succ, Nat.mul_comm (256 ^ width), Nat.mod_mul]
      omega
    have head := ih (n / 256)
    unfold readBigEndian at head ⊢
    rw [bigEndian, List.foldl_append, head, ← split]
    simp

/-- An identifier that keeps the instant: twice its distance from the epoch, plus the byte
for its side. -/
def keepInstant (_ : Uuid) (name : Bytes) : Uuid :=
  .fromU128 (2 * readBigEndian (name.drop 17) + readBigEndian ((name.drop 16).take 1))

theorem keepInstant_name (space id : Uuid) (t : SystemTime) :
    keepInstant space (occurrenceName id t) =
      .fromU128 (2 * t.nanos.natAbs + if 0 ≤ t.nanos then 1 else 0) := by
  have distance : (occurrenceName id t).drop 17 = bigEndian 16 t.nanos.natAbs := by
    rw [occurrenceName, List.append_cons, List.drop_left' (by simp [id.length_bytes])]
  have side : ((occurrenceName id t).drop 16).take 1 = [if 0 ≤ t.nanos then 1 else 0] := by
    rw [occurrenceName, List.drop_left' id.length_bytes]
    rfl
  have small := two_mul_natAbs_lt t
  rw [keepInstant, distance, side, readBigEndian_bigEndian, Nat.mod_eq_of_lt (by omega)]
  by_cases after : 0 ≤ t.nanos <;> simp [after, readBigEndian]

theorem keepInstant_injOn (space id : Uuid) :
    Set.InjOn (keepInstant space) (Set.range (occurrenceName id)) := by
  rintro _ ⟨t, rfl⟩ _ ⟨u, rfl⟩ same
  rw [keepInstant_name, keepInstant_name, Uuid.ext_iff] at same
  have ht := two_mul_natAbs_lt t
  have hu := two_mul_natAbs_lt u
  have code := bigEndian_inj (by split <;> omega) (by split <;> omega) same
  have instants : t = u := by
    apply SystemTime.ext
    by_cases htsign : 0 ≤ t.nanos <;> by_cases husign : 0 ≤ u.nanos <;>
      simp only [htsign, husign, if_true, if_false] at code <;> omega
  rw [instants]

theorem keepInstant_lt (space id : Uuid) (t : SystemTime) :
    readBigEndian (keepInstant space (occurrenceName id t)).bytes < 256 ^ 12 := by
  have small := two_mul_natAbs_lt t
  rw [keepInstant_name, Uuid.fromU128, readBigEndian_bigEndian]
  refine lt_of_le_of_lt (Nat.mod_le _ _) ?_
  split <;> omega

open SchedulerLeases (sampleSchedule second)

/-- What the UUID crate derives for some occurrences of the sample schedule. -/
def derivedIds : List (SystemTime × Uuid) :=
  [(second 22, .fromU128 0x8d3e0f7ac4c3582893fc3272fd51f6df),
    (second 82, .fromU128 0xe3819db21170585cb7e538b95a3e71fa),
    (second 202, .fromU128 0x258e9d5e922b5ecfaa0f03e0656524c9),
    (⟨1005000000, by decide⟩, .fromU128 0xc107eebe101056d6b193f64b45f76ed3)]

/-- A continuation of these values that is injective on the names of one schedule. -/
def sampleV5 (space : Uuid) (name : Bytes) : Uuid :=
  ((derivedIds.find? fun entry => occurrenceName sampleSchedule entry.1 = name).map
    Prod.snd).getD (keepInstant space name)

theorem sampleV5_cases (space : Uuid) (name : Bytes) :
    (∃ entry ∈ derivedIds, occurrenceName sampleSchedule entry.1 = name ∧
      sampleV5 space name = entry.2) ∨ sampleV5 space name = keepInstant space name := by
  unfold sampleV5
  cases found : derivedIds.find? fun entry => occurrenceName sampleSchedule entry.1 = name with
  | none => exact Or.inr rfl
  | some entry =>
    have named := List.find?_some found
    exact Or.inl ⟨entry, List.mem_of_find?_eq_some found, of_decide_eq_true named, rfl⟩

theorem sampleV5_injOn (space : Uuid) :
    Set.InjOn (sampleV5 space) (Set.range (occurrenceName sampleSchedule)) := by
  -- no derived id is as small as one that keeps an instant
  have large : ∀ entry ∈ derivedIds, 256 ^ 12 ≤ readBigEndian entry.2.bytes := by decide +kernel
  have distinct : ∀ entry ∈ derivedIds, ∀ other ∈ derivedIds, entry.2 = other.2 →
      entry = other := by decide +kernel
  rintro _ ⟨t, rfl⟩ _ ⟨u, rfl⟩ same
  rcases sampleV5_cases space (occurrenceName sampleSchedule t) with
    ⟨entry, listed, named, first⟩ | first <;>
    rcases sampleV5_cases space (occurrenceName sampleSchedule u) with
      ⟨other, listed', named', second⟩ | second
  · rw [first, second] at same
    rw [← named, ← named', distinct entry listed other listed' same]
  · have kept := keepInstant_lt space sampleSchedule u
    rw [← second, ← same, first] at kept
    exact absurd kept (not_lt.mpr (large entry listed))
  · have kept := keepInstant_lt space sampleSchedule t
    rw [← first, same, second] at kept
    exact absurd kept (not_lt.mpr (large other listed'))
  · rw [first, second] at same
    exact keepInstant_injOn space sampleSchedule ⟨t, rfl⟩ ⟨u, rfl⟩ same

def sampleMessage : ScheduledMessage minutely :=
  ⟨sampleSchedule, "reminders.due", [], .mediator, .cron ⟨"22 * * * * *", rfl⟩, second 22⟩

/-- The first dispatch fails and is repeated, the second worker's clock has jumped back when
it reports success, and the next occurrence is paused past the one after and realigned. -/
def sampleRun : List (Event minutely) :=
  [.insert sampleMessage 5,
    .claim (second 30) 10 (.fromSecs 30) [sampleSchedule],
    .settle ⟨sampleMessage, 1, 5, second 60⟩ .default (fun _ => 0) (.error "down")
      (second 31) (second 31),
    .claim (second 35) 10 (.fromSecs 30) [sampleSchedule],
    .settle ⟨sampleMessage, 2, 5, second 65⟩ .default (fun _ => 0) (.ok ()) (second 5) (second 36),
    .claim (second 90) 10 (.fromSecs 30) [sampleSchedule],
    .pause, .resume (second 200), .finish,
    .claim (second 300) 10 (.fromSecs 30) [sampleSchedule]]

theorem occurrences_identified_sample :
    StrictlyAfter minutely ∧
      Set.InjOn (sampleV5 occurrenceNamespace) (Set.range (occurrenceName sampleSchedule)) ∧
      (machine sampleSchedule).Allowed initial sampleRun ∧
      advances sampleSchedule initial sampleRun = 2 ∧
      MovesForward sampleSchedule sampleRun ∧ Identified sampleV5 sampleSchedule sampleRun :=
  have allowed : (machine sampleSchedule).Allowed initial sampleRun := by decide +kernel
  have injective := sampleV5_injOn occurrenceNamespace
  ⟨minutely_strictlyAfter, injective, allowed, by decide +kernel,
    occurrences_identified minutely_strictlyAfter injective allowed⟩

end SchedulerOccurrences
