import Hexeract.LibraryCollections
import Hexeract.LibraryMachines
import Hexeract.BusErrors

/-! # The channel pool

Any number of callers share one pool. A caller parks on the semaphore, looks for a cached
channel under the lock of the idle queue, opens a fresh one when there is none, and gives
the channel back when its guard is dropped. The broker decides how every opening ends and
what every status reading says, so a connection may drop, or recover, at any point. -/
namespace RabbitmqPool

open LibraryCollections LibraryMachines BusErrors

/-! ## The machine -/

structure ChannelPool where
  maxSize : ℕ
  confirms : Bool
  deriving DecidableEq, Repr

def ChannelPool.new (maxSize : ℕ) : ChannelPool := ⟨max maxSize 1, true⟩

def ChannelPool.withoutConfirms (pool : ChannelPool) : ChannelPool :=
  { pool with confirms := false }

/-- A channel the broker opened, told apart from every other by when it was opened. -/
abbrev Channel := ℕ

/-- Where one caller stands. `leaving` is the end of a dropped guard, of a failed call or of
a cancelled one: whatever channel it had is gone, and its permit is about to be released. -/
inductive Phase where
  | outside
  | waiting
  | granted
  | popping
  | creating
  | confirming (channel : Channel)
  | holding (channel : Channel)
  | dropping (channel : Channel)
  | leaving (failure : Option BusError)
  deriving DecidableEq

structure State (ι : Type*) where
  available : ℕ
  lockOwner : Option ι
  idle : List Channel
  opened : ℕ
  callers : ι → Phase

variable {ι : Type*} [DecidableEq ι]

def State.new (pool : ChannelPool) : State ι := ⟨pool.maxSize, none, [], 0, fun _ => .outside⟩

def State.move (s : State ι) (i : ι) (phase : Phase) : State ι :=
  { s with callers := Function.update s.callers i phase }

/-- One round of the loop over the idle queue, under its lock. -/
def State.popFront (s : State ι) (i : ι) (connected : Bool) : State ι :=
  match s.idle with
  | [] => { s.move i .creating with lockOwner := none }
  | channel :: rest =>
    if connected then { s.move i (.holding channel) with lockOwner := none, idle := rest }
    else { s with idle := rest }

/-- How `create_channel` ends: with a fresh channel, or with the broker's error and whether
it is transient. -/
def State.created (pool : ChannelPool) (s : State ι) (i : ι) : Option (String × Bool) → State ι
  | some (source, transient) => s.move i (.leaving (some (.connection source transient)))
  | none =>
    { s.move i (if pool.confirms then .confirming s.opened else .holding s.opened) with
      opened := s.opened + 1 }

/-- How `confirm_select` ends. -/
def Phase.confirmed : Phase → Option (String × Bool) → Phase
  | .confirming channel, none => .holding channel
  | .confirming _, some (source, transient) => .leaving (some (.connection source transient))
  | phase, _ => phase

/-- The guard's destructor up to the lock. -/
def Phase.dropped : Phase → Bool → Phase
  | .holding channel, true => .dropping channel
  | .holding _, false => .leaving none
  | phase, _ => phase

def Phase.isConfirming : Phase → Bool
  | .confirming _ => true
  | _ => false

def Phase.isHolding : Phase → Bool
  | .holding _ => true
  | _ => false

def Phase.isDropping : Phase → Bool
  | .dropping _ => true
  | _ => false

def Phase.isLeaving : Phase → Bool
  | .leaving _ => true
  | _ => false

theorem isConfirming_iff {phase : Phase} :
    phase.isConfirming = true ↔ ∃ channel, phase = .confirming channel := by
  cases phase <;> simp [Phase.isConfirming]

theorem isHolding_iff {phase : Phase} :
    phase.isHolding = true ↔ ∃ channel, phase = .holding channel := by
  cases phase <;> simp [Phase.isHolding]

theorem isDropping_iff {phase : Phase} :
    phase.isDropping = true ↔ ∃ channel, phase = .dropping channel := by
  cases phase <;> simp [Phase.isDropping]

theorem isLeaving_iff {phase : Phase} :
    phase.isLeaving = true ↔ ∃ failure, phase = .leaving failure := by
  cases phase <;> simp [Phase.isLeaving]

/-- The awaits of `acquire`, with a permit already assigned. -/
def Phase.awaitsWithPermit (phase : Phase) : Bool :=
  decide (phase = .granted ∨ phase = .creating) || phase.isConfirming

/-- The rest of the destructor, under the lock. -/
def State.pushBack (pool : ChannelPool) (s : State ι) (i : ι) : State ι :=
  match s.callers i with
  | .dropping channel =>
    { s.move i (.leaving none) with
      idle := if s.idle.length < pool.maxSize then s.idle ++ [channel] else s.idle }
  | _ => s

inductive Event (ι : Type*) where
  | acquire (i : ι)
  | grant (i : ι)
  | lock (i : ι)
  | popFront (i : ι) (connected : Bool)
  | created (i : ι) (failure : Option (String × Bool))
  | confirmed (i : ι) (failure : Option (String × Bool))
  | giveUp (i : ι)
  | cancel (i : ι)
  | drop (i : ι) (connected : Bool)
  | pushBack (i : ι)
  | release (i : ι)

def Enabled (s : State ι) : Event ι → Prop
  | .acquire i => s.callers i = .outside
  | .grant i => s.callers i = .waiting ∧ 0 < s.available
  | .lock i => s.callers i = .granted ∧ s.lockOwner = none
  | .popFront i _ => s.callers i = .popping
  | .created i _ => s.callers i = .creating
  | .confirmed i _ => (s.callers i).isConfirming = true
  | .giveUp i => s.callers i = .waiting
  | .cancel i => (s.callers i).awaitsWithPermit = true
  | .drop i _ => (s.callers i).isHolding = true
  | .pushBack i => (s.callers i).isDropping = true ∧ s.lockOwner = none
  | .release i => (s.callers i).isLeaving = true

instance (s : State ι) (e : Event ι) : Decidable (Enabled s e) := by
  cases e <;> simp only [Enabled] <;> infer_instance

def next (pool : ChannelPool) (s : State ι) : Event ι → State ι
  | .acquire i => s.move i .waiting
  | .grant i => { s.move i .granted with available := s.available - 1 }
  | .lock i => { s.move i .popping with lockOwner := some i }
  | .popFront i connected => s.popFront i connected
  | .created i failure => s.created pool i failure
  | .confirmed i failure => s.move i ((s.callers i).confirmed failure)
  | .giveUp i => s.move i .outside
  | .cancel i => s.move i (.leaving none)
  | .drop i connected => s.move i ((s.callers i).dropped connected)
  | .pushBack i => s.pushBack pool i
  | .release i => { s.move i .outside with available := s.available + 1 }

def machine (pool : ChannelPool) : Machine (State ι) (Event ι) where
  enabled := Enabled
  next := next pool

/-! ## Permits bound the live channels -/

section Bounds

variable [Fintype ι] {pool : ChannelPool} {s : State ι}

def Phase.hasPermit : Phase → Bool
  | .outside | .waiting => false
  | _ => true

/-- The channel of a caller, from the moment the broker opened it. -/
def Phase.channel : Phase → Option Channel
  | .confirming channel | .holding channel | .dropping channel => some channel
  | _ => none

def Phase.isOpening (phase : Phase) : Bool := decide (phase = .creating) || phase.isConfirming

/-- The channel of a guard. Its destructor still has it until it pushed it back. -/
def Phase.held : Phase → Option Channel
  | .holding channel | .dropping channel => some channel
  | _ => none

def Phase.isLive (phase : Phase) : Bool := phase.held.isSome || phase.isOpening

/-- A caller with a channel, or one to come, has a permit for it. -/
theorem hasPermit_of_isLive (phase : Phase) (live : phase.isLive = true) :
    phase.hasPermit = true := by
  cases phase <;> first | rfl | cases live

theorem hasPermit_of_awaits (phase : Phase) (awaits : phase.awaitsWithPermit = true) :
    phase.hasPermit = true := by
  cases phase <;> first | rfl | cases awaits

structure Counts (pool : ChannelPool) (s : State ι) : Prop where
  permits : s.available + countOf Phase.hasPermit s.callers = pool.maxSize
  live : s.idle.length + countOf Phase.isLive s.callers ≤ pool.maxSize

theorem Counts.replace (counts : Counts pool s) {i : ι} {phase : Phase} {available opened : ℕ}
    {lockOwner : Option ι} {idle : List Channel}
    (permit : available + phase.hasPermit.toNat = s.available + (s.callers i).hasPermit.toNat)
    (live : idle.length + phase.isLive.toNat ≤ s.idle.length + (s.callers i).isLive.toNat) :
    Counts pool ⟨available, lockOwner, idle, opened, Function.update s.callers i phase⟩ := by
  have permits := countOf_update Phase.hasPermit s.callers i phase
  have channels := countOf_update Phase.isLive s.callers i phase
  constructor
  · have := counts.permits
    change available + countOf Phase.hasPermit (Function.update s.callers i phase) = _
    omega
  · have := counts.live
    change idle.length + countOf Phase.isLive (Function.update s.callers i phase) ≤ _
    omega

theorem Counts.reserve (counts : Counts pool s) {i : ι} (pops : s.callers i = .popping)
    (empty : s.idle = []) : Counts pool { s.move i .creating with lockOwner := none } := by
  have permits := countOf_update Phase.hasPermit s.callers i .creating
  have within : countOf Phase.isLive (Function.update s.callers i .creating) ≤
      countOf Phase.hasPermit (Function.update s.callers i .creating) :=
    countOf_le fun j => hasPermit_of_isLive _
  rw [pops] at permits
  have := counts.permits
  constructor
  · change s.available + countOf Phase.hasPermit (Function.update s.callers i .creating) = _
    simp only [Phase.hasPermit] at permits
    omega
  · change s.idle.length + countOf Phase.isLive (Function.update s.callers i .creating) ≤ _
    simp only [Phase.hasPermit] at permits
    rw [empty, List.length_nil]
    omega

theorem Counts.step (counts : Counts pool s) {e : Event ι} (h : Enabled s e) :
    Counts pool (next pool s e) := by
  cases e with
  | acquire i => exact counts.replace (by rw [h]; rfl) (by rw [h]; rfl)
  | grant i =>
    refine counts.replace ?_ (by rw [h.1]; rfl)
    rw [h.1]
    exact Nat.sub_add_cancel h.2
  | lock i => exact counts.replace (by rw [h.1]; rfl) (by rw [h.1]; rfl)
  | popFront i connected =>
    simp only [next, State.popFront]
    cases queue : s.idle with
    | nil => exact counts.reserve h queue
    | cons channel rest =>
      cases connected with
      | true =>
        refine counts.replace (by rw [h]; rfl) ?_
        rw [h, queue]
        exact Nat.le_refl (rest.length + 1)
      | false =>
        have live := counts.live
        rw [queue, List.length_cons] at live
        exact ⟨counts.permits, by
          change rest.length + countOf Phase.isLive s.callers ≤ _
          omega⟩
  | created i failure =>
    rcases failure with _ | ⟨source, transient⟩
    · simp only [next, State.created]
      split <;> exact counts.replace (by rw [h]; rfl) (by rw [h]; rfl)
    · exact counts.replace (by rw [h]; rfl) (by rw [h]; exact Nat.le_succ _)
  | confirmed i failure =>
    obtain ⟨channel, stands⟩ := isConfirming_iff.mp h
    rcases failure with _ | ⟨source, transient⟩
    · exact counts.replace (by rw [stands]; rfl) (by rw [stands]; rfl)
    · exact counts.replace (by rw [stands]; rfl) (by rw [stands]; exact Nat.le_succ _)
  | giveUp i => exact counts.replace (by rw [h]; rfl) (by rw [h]; rfl)
  | cancel i =>
    refine counts.replace ?_ (Nat.le_add_right _ _)
    rw [hasPermit_of_awaits (s.callers i) h]
    rfl
  | drop i connected =>
    obtain ⟨channel, stands⟩ := isHolding_iff.mp h
    cases connected with
    | true => exact counts.replace (by rw [stands]; rfl) (by rw [stands]; rfl)
    | false => exact counts.replace (by rw [stands]; rfl) (by rw [stands]; exact Nat.le_succ _)
  | pushBack i =>
    obtain ⟨channel, stands⟩ := isDropping_iff.mp h.1
    simp only [next, State.pushBack, stands]
    refine counts.replace (by rw [stands]; rfl) ?_
    rw [stands]
    split_ifs
    · rw [List.length_append]
      rfl
    · exact Nat.le_succ _
  | release i =>
    obtain ⟨failure, stands⟩ := isLeaving_iff.mp h
    exact counts.replace (by rw [stands]; rfl) (by rw [stands]; rfl)

end Bounds

/-! ## Every channel is in one place -/

section Places

variable {pool : ChannelPool} {s : State ι}

/-- No channel is in two places, neither twice in the idle queue, nor with two callers, nor
with a caller and in the queue; and one that is opened next is in none of them. -/
structure Distinct (s : State ι) : Prop where
  nodup : s.idle.Nodup
  known : ∀ channel ∈ s.idle, channel < s.opened
  apart : ∀ i channel, (s.callers i).channel = some channel →
    channel < s.opened ∧ channel ∉ s.idle
  alone : ∀ i j channel, (s.callers i).channel = some channel →
    (s.callers j).channel = some channel → i = j

/-- A step of one caller: what the queue gains comes from that caller, and the channel it has
afterwards is the one it had, one it took out of the queue, or a fresh one. -/
theorem Distinct.replace (distinct : Distinct s) {i : ι} {phase : Phase} {available opened : ℕ}
    {lockOwner : Option ι} {idle : List Channel} (grows : s.opened ≤ opened) (nodup : idle.Nodup)
    (gained : ∀ channel ∈ idle, channel ∈ s.idle ∨ (s.callers i).channel = some channel)
    (mine : ∀ channel, phase.channel = some channel → channel < opened ∧ channel ∉ idle ∧
      ((s.callers i).channel = some channel ∨ channel ∈ s.idle ∨ s.opened ≤ channel)) :
    Distinct ⟨available, lockOwner, idle, opened, Function.update s.callers i phase⟩ := by
  have elsewhere : ∀ j channel, j ≠ i → (s.callers j).channel = some channel →
      phase.channel ≠ some channel := by
    intro j channel other has same
    rcases (mine channel same).2.2 with had | cached | fresh
    · exact other (distinct.alone j i channel has had)
    · exact (distinct.apart j channel has).2 cached
    · exact absurd (distinct.apart j channel has).1 (Nat.not_lt.mpr fresh)
  constructor
  case nodup => exact nodup
  case known =>
    intro channel mem
    refine lt_of_lt_of_le ?_ grows
    rcases gained channel mem with cached | had
    · exact distinct.known channel cached
    · exact (distinct.apart i channel had).1
  case apart =>
    intro j channel has
    by_cases same : j = i
    · subst same
      have placed := mine channel (by simpa using has)
      exact ⟨placed.1, placed.2.1⟩
    · have before : (s.callers j).channel = some channel := by simpa [same] using has
      refine ⟨(distinct.apart j channel before).1.trans_le grows, fun mem => ?_⟩
      rcases gained channel mem with cached | had
      · exact (distinct.apart j channel before).2 cached
      · exact same (distinct.alone j i channel before had)
  case alone =>
    intro j k channel hasJ hasK
    by_cases j_eq : j = i <;> by_cases k_eq : k = i
    · rw [j_eq, k_eq]
    · subst j_eq
      exact absurd (by simpa using hasJ) (elsewhere k channel k_eq (by simpa [k_eq] using hasK))
    · subst k_eq
      exact absurd (by simpa using hasK) (elsewhere j channel j_eq (by simpa [j_eq] using hasJ))
    · exact distinct.alone j k channel (by simpa [j_eq] using hasJ) (by simpa [k_eq] using hasK)

theorem Distinct.move (distinct : Distinct s) {i : ι} {phase : Phase} {available : ℕ}
    {lockOwner : Option ι}
    (keeps : ∀ channel, phase.channel = some channel → (s.callers i).channel = some channel) :
    Distinct ⟨available, lockOwner, s.idle, s.opened, Function.update s.callers i phase⟩ :=
  distinct.replace le_rfl distinct.nodup (fun _ => Or.inl) fun channel has =>
    ⟨(distinct.apart i channel (keeps channel has)).1,
      (distinct.apart i channel (keeps channel has)).2, Or.inl (keeps channel has)⟩

theorem Distinct.popFront (distinct : Distinct s) (i : ι) (connected : Bool) :
    Distinct (s.popFront i connected) := by
  unfold State.popFront
  cases queue : s.idle with
  | nil =>
    have opens : Distinct { s.move i .creating with lockOwner := none } :=
      distinct.move fun _ has => by cases has
    exact opens
  | cons channel rest =>
    have fresh := List.nodup_cons.mp (queue ▸ distinct.nodup)
    have within : ∀ c ∈ rest, c ∈ s.idle := fun c mem => queue ▸ List.mem_cons_of_mem channel mem
    have first : channel ∈ s.idle := queue ▸ List.mem_cons_self
    cases connected with
    | true =>
      refine distinct.replace le_rfl fresh.2 (fun c mem => Or.inl (within c mem)) fun c has => ?_
      cases has
      exact ⟨distinct.known channel first, fresh.1, Or.inr (Or.inl first)⟩
    | false =>
      exact ⟨fresh.2, fun c mem => distinct.known c (within c mem),
        fun j c has => ⟨(distinct.apart j c has).1,
          fun mem => (distinct.apart j c has).2 (within c mem)⟩, distinct.alone⟩

theorem Distinct.created (distinct : Distinct s) (i : ι) (failure : Option (String × Bool)) :
    Distinct (s.created pool i failure) := by
  rcases failure with _ | ⟨source, transient⟩
  · refine distinct.replace (Nat.le_succ _) distinct.nodup (fun _ => Or.inl) fun channel has => ?_
    have fresh : channel = s.opened := by
      split_ifs at has <;> exact (Option.some.inj has).symm
    rw [fresh]
    exact ⟨Nat.lt_succ_self _, fun mem => lt_irrefl _ (distinct.known _ mem),
      Or.inr (Or.inr le_rfl)⟩
  · exact distinct.move fun _ has => by cases has

theorem Distinct.pushBack (distinct : Distinct s) {i : ι} {channel : Channel}
    (stands : s.callers i = .dropping channel) : Distinct (s.pushBack pool i) := by
  have had : (s.callers i).channel = some channel := by rw [stands]; rfl
  simp only [State.pushBack, stands]
  split_ifs
  · refine distinct.replace le_rfl ?_ (fun c mem => ?_) fun c has => by cases has
    · rw [List.nodup_append]
      refine ⟨distinct.nodup, List.nodup_singleton channel, fun a mem b last => ?_⟩
      rw [List.mem_singleton.mp last]
      rintro rfl
      exact (distinct.apart i a had).2 mem
    · rcases List.mem_append.mp mem with cached | last
      · exact Or.inl cached
      · rw [List.mem_singleton.mp last]
        exact Or.inr had
  · exact distinct.move fun c has => by cases has

theorem Distinct.step (distinct : Distinct s) {e : Event ι} (h : Enabled s e) :
    Distinct (next pool s e) := by
  cases e with
  | acquire i => exact distinct.move fun _ has => by cases has
  | grant i => exact distinct.move fun _ has => by cases has
  | lock i => exact distinct.move fun _ has => by cases has
  | popFront i connected => exact distinct.popFront i connected
  | created i failure => exact distinct.created i failure
  | confirmed i failure =>
    obtain ⟨channel, stands⟩ := isConfirming_iff.mp h
    refine distinct.move fun c has => ?_
    rw [stands] at has ⊢
    rcases failure with _ | ⟨source, transient⟩
    · exact has
    · cases has
  | giveUp i => exact distinct.move fun _ has => by cases has
  | cancel i => exact distinct.move fun _ has => by cases has
  | drop i connected =>
    obtain ⟨channel, stands⟩ := isHolding_iff.mp h
    refine distinct.move fun c has => ?_
    rw [stands] at has ⊢
    cases connected with
    | true => exact has
    | false => cases has
  | pushBack i =>
    obtain ⟨channel, stands⟩ := isDropping_iff.mp h.1
    exact distinct.pushBack stands
  | release i => exact distinct.move fun _ has => by cases has

end Places

/-! ## The pool over whole runs -/

section Runs

variable [Fintype ι]

omit [DecidableEq ι] in
theorem counts_new (pool : ChannelPool) : Counts pool (State.new pool : State ι) where
  permits := by
    change pool.maxSize + countOf Phase.hasPermit (fun _ : ι => Phase.outside) = _
    rw [countOf_const _ _ rfl, Nat.add_zero]
  live := by
    change 0 + countOf Phase.isLive (fun _ : ι => Phase.outside) ≤ _
    rw [countOf_const _ _ rfl]
    exact Nat.zero_le _

omit [DecidableEq ι] [Fintype ι] in
theorem distinct_new (pool : ChannelPool) : Distinct (State.new pool : State ι) where
  nodup := List.nodup_nil
  known _ mem := by cases mem
  apart _ _ has := by cases has
  alone _ _ _ has := by cases has

omit [DecidableEq ι] in
theorem countOf_isLive (callers : ι → Phase) :
    countOf Phase.isLive callers =
      countOf (fun phase => phase.held.isSome) callers + countOf Phase.isOpening callers := by
  simp only [countOf_eq_sum, ← Finset.sum_add_distrib]
  refine Finset.sum_congr rfl fun i _ => ?_
  cases callers i <;> rfl

theorem channel_of_held {phase : Phase} {channel : Channel} (held : phase.held = some channel) :
    phase.channel = some channel := by
  cases phase <;> first | exact held | cases held

/-- Whatever the callers and the broker do, the channels that guards hold, that are being
opened and that are idle never outnumber the size of the pool, and a channel that a guard
holds is held by no other guard and is not idle. -/
theorem pool_bounded (maxSize : ℕ) (pool : ChannelPool)
    (built : pool = .new maxSize ∨ pool = (ChannelPool.new maxSize).withoutConfirms)
    (events : List (Event ι)) (allowed : (machine pool).Allowed (State.new pool) events) :
    let s := (machine pool).run (State.new pool) events
    countOf (fun phase => phase.held.isSome) s.callers + countOf Phase.isOpening s.callers +
        s.idle.length ≤ max 1 maxSize ∧
      (∀ i j channel, (s.callers i).held = some channel → (s.callers j).held = some channel →
        i = j) ∧
      ∀ i channel, (s.callers i).held = some channel → channel ∉ s.idle := by
  intro s
  have counts : Counts pool s :=
    invariant_of_steps (counts_new pool) (fun _ _ counts h => counts.step h) allowed
  have distinct : Distinct s :=
    invariant_of_steps (distinct_new pool) (fun _ _ distinct h => distinct.step h) allowed
  have size : pool.maxSize = max 1 maxSize := by
    rw [max_comm]
    rcases built with rfl | rfl <;> rfl
  refine ⟨?_, fun i j channel hi hj => ?_, fun i channel held => ?_⟩
  · have live := counts.live
    rw [countOf_isLive, size] at live
    omega
  · exact distinct.alone i j channel (channel_of_held hi) (channel_of_held hj)
  · exact (distinct.apart i channel (channel_of_held held)).2

end Runs

/-- Three callers and room for one channel: the first opens it and gives it back, the second
finds it disconnected and its opening is refused, the third is cancelled while it confirms,
and the first opens another one. -/
def contended (i j k : ι) : List (Event ι) :=
  [.acquire i, .acquire j, .acquire k, .grant i, .lock i, .popFront i true, .created i none,
   .confirmed i none, .drop i true, .pushBack i, .release i, .acquire i, .grant j, .lock j,
   .popFront j false, .popFront j true, .created j (some ("connection lost", true)), .release j,
   .grant k, .lock k, .popFront k true, .created k none, .cancel k, .release k, .grant i, .lock i,
   .popFront i true, .created i none, .confirmed i none]

theorem pool_bounded_sample :
    (machine (.new 0)).Allowed (State.new (.new 0)) (contended (0 : Fin 3) 1 2) ∧
    let s := (machine (.new 0)).run (State.new (.new 0)) (contended (0 : Fin 3) 1 2)
    s.callers 0 = .holding 2 ∧
      countOf (fun phase => phase.held.isSome) s.callers + countOf Phase.isOpening s.callers +
        s.idle.length ≤ max 1 0 := by
  have allowed :
      (machine (.new 0)).Allowed (State.new (.new 0)) (contended (0 : Fin 3) 1 2) := by
    simp only [machine]
    decide +kernel
  exact ⟨allowed, by decide +kernel, (pool_bounded 0 (.new 0) (Or.inl rfl) _ allowed).1⟩

end RabbitmqPool
