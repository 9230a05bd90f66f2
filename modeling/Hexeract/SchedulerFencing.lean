import Hexeract.SchedulerLeases
import Hexeract.SchedulerMemorySteps

/-! # Tokens of superseded claims

An acknowledgement is fenced by the deadline its claim stamped on the schedule. One clock,
which every operation reads later than the one before, and one lease length give each claim
of a schedule a token of its own; but a failure stamps a deadline of the same kind, so a
backoff can end at the very instant an older claim of the schedule carries. -/
namespace SchedulerFencing

open LibraryTables LibraryMachines StdTime BusEnvelope SchedulerMessages SchedulerMemory
open SchedulerMemorySteps
open SchedulerWorker (Call)
open SchedulerLeases (sampleEngine sampleSchedule second)

variable {engine : CronEngine}

/-- The store, the latest reading of the clock, and the claims made and acknowledged so
far, each as its schedule and its token. -/
structure State (engine : CronEngine) where
  store : Store engine
  last : Option SystemTime
  claims : List (Uuid × SystemTime)
  acknowledged : List (Uuid × SystemTime)

def initial : State engine := ⟨.empty, none, [], []⟩

/-- Claims share one lease length, and each is acknowledged at most once. -/
def Follows (lease : Duration) (s : State engine) : Operation engine → Prop
  | .claimDue _ length _ => length = lease
  | .acknowledge id held _ => (id, held) ∈ s.claims ∧ (id, held) ∉ s.acknowledged
  | _ => True

instance (lease : Duration) (s : State engine) :
    (op : Operation engine) → Decidable (Follows lease s op)
  | .claimDue _ length _ => inferInstanceAs (Decidable (length = lease))
  | .acknowledge id held _ =>
    inferInstanceAs (Decidable ((id, held) ∈ s.claims ∧ (id, held) ∉ s.acknowledged))
  | .insert _ _ => isTrue trivial
  | .deadLetterExhausted => isTrue trivial
  | .cancel _ => isTrue trivial
  | .setPaused _ _ => isTrue trivial
  | .resume _ _ => isTrue trivial
  | .replay _ => isTrue trivial

def Enabled (lease : Duration) (s : State engine) (e : SystemTime × Operation engine) : Prop :=
  (∀ reading ∈ s.last, reading < e.1) ∧ Walks s.store e.2 ∧ Follows lease s e.2

instance (lease : Duration) (s : State engine) (e : SystemTime × Operation engine) :
    Decidable (Enabled lease s e) :=
  inferInstanceAs (Decidable (_ ∧ _ ∧ _))

def acknowledges : Operation engine → List (Uuid × SystemTime)
  | .acknowledge id held _ => [(id, held)]
  | _ => []

def next (s : State engine) (e : SystemTime × Operation engine) : State engine where
  store := (step e.1 s.store e.2).1
  last := some e.1
  claims := s.claims ++ (handed e.1 s.store e.2).map token
  acknowledged := s.acknowledged ++ acknowledges e.2

def machine (lease : Duration) : Machine (State engine) (SystemTime × Operation engine) :=
  ⟨Enabled lease, next⟩

instance (lease : Duration) (s : State engine) (e : SystemTime × Operation engine) :
    Decidable ((machine lease).enabled s e) :=
  inferInstanceAs (Decidable (Enabled lease s e))

/-- A later claim of the same schedule has been made. -/
def Superseded (s : State engine) (id : Uuid) (held : SystemTime) : Prop :=
  ∃ later, [(id, held), (id, later)].Sublist s.claims

/-- A backoff does not end at the token of another claim of the schedule that is still to
be acknowledged. -/
def Unclashing (s : State engine) (e : SystemTime × Operation engine) : Prop :=
  match e.2 with
  | .acknowledge id held (.failed retryIn _) =>
    (fencedPending s.store id held).isSome = true →
      ∀ claim ∈ s.claims, claim.1 = id → claim.2 ≠ held → claim ∉ s.acknowledged →
        e.1.checkedAdd retryIn ≠ some claim.2
  | _ => True

instance (s : State engine) (e : SystemTime × Operation engine) : Decidable (Unclashing s e) :=
  match e with
  | (now, .acknowledge id held (.failed retryIn _)) => inferInstanceAs (Decidable
      ((fencedPending s.store id held).isSome = true →
        ∀ claim ∈ s.claims, claim.1 = id → claim.2 ≠ held → claim ∉ s.acknowledged →
          now.checkedAdd retryIn ≠ some claim.2))
  | (_, .acknowledge _ _ .delivered) => isTrue trivial
  | (_, .acknowledge _ _ (.reschedule _)) => isTrue trivial
  | (_, .acknowledge _ _ (.deadLettered _)) => isTrue trivial
  | (_, .insert _ _) => isTrue trivial
  | (_, .claimDue _ _ _) => isTrue trivial
  | (_, .deadLetterExhausted) => isTrue trivial
  | (_, .cancel _) => isTrue trivial
  | (_, .setPaused _ _) => isTrue trivial
  | (_, .resume _ _) => isTrue trivial
  | (_, .replay _) => isTrue trivial

/-! ## What holds in every state -/

/-- Tokens of one schedule grow with its claims, none lies further ahead than the lease, and
the lease a schedule carries is not the token of a superseded claim. -/
structure Fenced (lease : Duration) (s : State engine) : Prop where
  keyed : Keyed s.store
  dated : ∀ claim ∈ s.claims, ∃ reading ∈ s.last,
    claim.2.nanos ≤ reading.nanos + lease.nanos
  ordered : s.claims.Pairwise fun a b => a.1 = b.1 → a.2 < b.2
  current : ∀ id stored held, s.store.find id = some stored → stored.leasedUntil = some held →
    (id, held) ∉ s.acknowledged → ¬Superseded s id held

theorem fenced_initial (lease : Duration) : Fenced lease (initial : State engine) where
  keyed := by
    intro k stored found
    cases found
  dated := by simp [initial]
  ordered := List.Pairwise.nil
  current := by
    intro id stored held found
    cases found

theorem nanos_of_handed {lease : Duration} {s : State engine} {e : SystemTime × Operation engine}
    (enabled : Enabled lease s e) (keyed : Keyed s.store) {claim : Uuid × SystemTime}
    (mem : claim ∈ (handed e.1 s.store e.2).map token) :
    claim.2.nanos = e.1.nanos + lease.nanos := by
  have stamped := newDeadline_of_handed enabled.2.1 keyed mem
  obtain ⟨now, op⟩ := e
  cases op with
  | claimDue batchSize length order =>
    have same : length = lease := enabled.2.2
    subst same
    rw [newDeadline] at stamped
    by_cases taken : claim.1 ∈ chosen now batchSize order s.store
    · rw [if_pos taken] at stamped
      exact checkedAdd_eq_some.mp stamped
    · rw [if_neg taken] at stamped
      cases stamped
  | _ => cases mem

theorem dated_next {lease : Duration} {s : State engine} (fenced : Fenced lease s)
    {e : SystemTime × Operation engine} (enabled : Enabled lease s e) :
    ∀ claim ∈ (next s e).claims, claim.2.nanos ≤ e.1.nanos + lease.nanos := by
  intro claim mem
  rcases List.mem_append.mp mem with old | new
  · obtain ⟨reading, hlast, le⟩ := fenced.dated claim old
    have earlier : reading.nanos < e.1.nanos := enabled.1 reading hlast
    omega
  · exact le_of_eq (nanos_of_handed enabled fenced.keyed new)

theorem ordered_next {lease : Duration} {s : State engine} (fenced : Fenced lease s)
    {e : SystemTime × Operation engine} (enabled : Enabled lease s e) :
    (next s e).claims.Pairwise fun a b => a.1 = b.1 → a.2 < b.2 := by
  refine List.pairwise_append.mpr ⟨fenced.ordered, ?_, ?_⟩
  · have distinct : ((handed e.1 s.store e.2).map token).Pairwise fun a b => a.1 ≠ b.1 :=
      List.pairwise_map.mp (handed_nodup enabled.2.1 fenced.keyed)
    exact distinct.imp fun apart same => absurd same apart
  · intro a old b new _
    obtain ⟨reading, hlast, le⟩ := fenced.dated a old
    have earlier : reading.nanos < e.1.nanos := enabled.1 reading hlast
    have later := nanos_of_handed enabled fenced.keyed new
    show a.2.nanos < b.2.nanos
    omega

theorem lt_of_superseded {s : State engine}
    (ordered : s.claims.Pairwise fun a b => a.1 = b.1 → a.2 < b.2) {id : Uuid}
    {held : SystemTime} (superseded : Superseded s id held) :
    ∃ later, (id, later) ∈ s.claims ∧ held < later := by
  obtain ⟨later, sub⟩ := superseded
  refine ⟨later, sub.subset (by simp), ?_⟩
  have pair := ordered.sublist sub
  simpa using pair

/-- A step that claims nothing of a schedule supersedes none of its claims. -/
theorem superseded_of_next {s : State engine} {e : SystemTime × Operation engine} {id : Uuid}
    {held : SystemTime}
    (unclaimed : ∀ deadline, (id, deadline) ∉ (handed e.1 s.store e.2).map token)
    (superseded : Superseded (next s e) id held) : Superseded s id held := by
  obtain ⟨later, sub⟩ := superseded
  obtain ⟨l, r, split, old, new⟩ := List.sublist_append_iff.mp sub
  have none_new : r = [] := by
    refine List.eq_nil_iff_forall_not_mem.mpr fun claim mem => ?_
    have named : claim ∈ [(id, held), (id, later)] := split ▸ List.mem_append_right l mem
    have key : claim.1 = id := by
      rcases List.mem_pair.mp named with rfl | rfl <;> rfl
    exact unclaimed claim.2 (key ▸ new.subset mem)
  rw [none_new, List.append_nil] at split
  exact ⟨later, split ▸ old⟩

theorem not_superseded_of_stamped {lease : Duration} {s : State engine} (fenced : Fenced lease s)
    {e : SystemTime × Operation engine} (enabled : Enabled lease s e) (clear : Unclashing s e)
    {id : Uuid} {held : SystemTime} (stamped : newDeadline e.1 s.store e.2 id = some held)
    (unacknowledged : (id, held) ∉ (next s e).acknowledged) : ¬Superseded (next s e) id held := by
  intro superseded
  obtain ⟨now, op⟩ := e
  cases op with
  | claimDue batchSize length order =>
    obtain ⟨later, mem, lt⟩ := lt_of_superseded (ordered_next fenced enabled) superseded
    have ahead : later.nanos ≤ now.nanos + lease.nanos := dated_next fenced enabled _ mem
    have same : length = lease := enabled.2.2
    rw [newDeadline, same] at stamped
    by_cases taken : id ∈ chosen now batchSize order s.store
    · rw [if_pos taken] at stamped
      have sum : held.nanos = now.nanos + lease.nanos := checkedAdd_eq_some.mp stamped
      have less : held.nanos < later.nanos := lt
      omega
    · rw [if_neg taken] at stamped
      cases stamped
  | acknowledge other token call =>
    cases call with
    | failed retryIn error =>
      rw [newDeadline] at stamped
      by_cases matched : id = other ∧ (fencedPending s.store other token).isSome = true
      · rw [if_pos matched] at stamped
        obtain ⟨rfl, pending⟩ := matched
        have apart : held ≠ token := by
          rintro rfl
          exact unacknowledged (List.mem_append_right _ (List.mem_singleton.mpr rfl))
        obtain ⟨later, sub⟩ := superseded
        have mem : (id, held) ∈ s.claims := by
          have old := sub.subset (List.mem_cons_self (a := (id, held)))
          simpa [next, handed] using old
        have fresh : (id, held) ∉ s.acknowledged :=
          fun old => unacknowledged (List.mem_append_left _ old)
        exact clear pending (id, held) mem rfl apart fresh stamped
      · rw [if_neg matched] at stamped
        cases stamped
    | _ => cases stamped
  | _ => cases stamped

theorem fenced_next {lease : Duration} {s : State engine} (fenced : Fenced lease s)
    {e : SystemTime × Operation engine} (enabled : Enabled lease s e) (clear : Unclashing s e) :
    Fenced lease (next s e) where
  keyed := keyed_step enabled.2.1 fenced.keyed
  dated := fun claim mem => ⟨e.1, rfl, dated_next fenced enabled claim mem⟩
  ordered := ordered_next fenced enabled
  current := by
    intro id after held found leased unacknowledged
    rcases leasedUntil_step enabled.2.1 found with stamped | ⟨unstamped, before, hbefore, same⟩
    · rw [leased] at stamped
      exact not_superseded_of_stamped fenced enabled clear stamped.symm unacknowledged
    · have unclaimed : ∀ deadline, (id, deadline) ∉ (handed e.1 s.store e.2).map token := by
        intro deadline mem
        rw [newDeadline_of_handed enabled.2.1 fenced.keyed mem] at unstamped
        cases unstamped
      intro superseded
      refine fenced.current id before held hbefore (same ▸ leased) ?_
        (superseded_of_next unclaimed superseded)
      exact fun old => unacknowledged (List.mem_append_left _ old)

/-- In every run whose backoffs never end at the token of another open claim, the
acknowledgement of a superseded claim is refused and changes nothing. -/
theorem superseded_acknowledgement_refused {lease : Duration}
    {steps : List (SystemTime × Operation engine)}
    (allowed : ((machine lease).under Unclashing).Allowed initial steps) {id : Uuid}
    {held : SystemTime} (superseded : Superseded ((machine lease).run initial steps) id held)
    (unacknowledged : (id, held) ∉ ((machine lease).run initial steps).acknowledged)
    (now : SystemTime) (call : Call) :
    perform now call ((machine lease).run initial steps).store id held =
      (((machine lease).run initial steps).store, .ok false) := by
  have fenced : Fenced lease ((machine lease).run initial steps) :=
    invariant_under_condition (fenced_initial lease)
      (fun _ _ held enabled clear => fenced_next held enabled clear) allowed
  refine perform_of_unfenced (fencedPending_eq_none.mpr ?_) now call
  rintro stored found ⟨_, leased⟩
  exact fenced.current id stored held found leased unacknowledged superseded

def sampleMessage : ScheduledMessage sampleEngine :=
  ⟨sampleSchedule, "reminders.due", [], .mediator, .delay (second 1), second 1⟩

/-- A message is claimed under a lease of thirty seconds, paused and realigned, and claimed
again before the first claim is acknowledged. -/
def claimedTwice : List (SystemTime × Operation sampleEngine) :=
  [(second 1, .insert sampleMessage 5),
    (second 2, .claimDue 10 (.fromSecs 30) [sampleSchedule]),
    (second 3, .setPaused sampleSchedule true),
    (second 4, .resume sampleSchedule (some (second 5))),
    (second 5, .claimDue 10 (.fromSecs 30) [sampleSchedule])]

/-- The second claim fails and backs off by this many seconds. -/
def failedAfter (backoff : UInt64) : List (SystemTime × Operation sampleEngine) :=
  claimedTwice ++
    [(second 6, .acknowledge sampleSchedule (second 35) (.failed (.fromSecs backoff) "down"))]

theorem superseded_acknowledgement_refused_sample :
    ((machine (.fromSecs 30)).under Unclashing).Allowed initial (failedAfter 10) ∧
      Superseded ((machine (.fromSecs 30)).run initial (failedAfter 10)) sampleSchedule
        (second 32) ∧
      (sampleSchedule, second 32) ∉
        ((machine (.fromSecs 30)).run initial (failedAfter 10)).acknowledged ∧
      perform (second 7) .delivered ((machine (.fromSecs 30)).run initial (failedAfter 10)).store
          sampleSchedule (second 32) =
        (((machine (.fromSecs 30)).run initial (failedAfter 10)).store, .ok false) :=
  have allowed : ((machine (.fromSecs 30)).under Unclashing).Allowed initial (failedAfter 10) := by
    decide +kernel
  have superseded : Superseded ((machine (.fromSecs 30)).run initial (failedAfter 10))
      sampleSchedule (second 32) := ⟨second 35, by decide +kernel⟩
  have unacknowledged : (sampleSchedule, second 32) ∉
      ((machine (.fromSecs 30)).run initial (failedAfter 10)).acknowledged := by decide +kernel
  ⟨allowed, superseded, unacknowledged,
    superseded_acknowledgement_refused allowed superseded unacknowledged (second 7) .delivered⟩

/-- A backoff of twenty-six seconds ends at the token of the first claim, which then
delivers the schedule the second claim had taken over. -/
theorem backoff_revives_superseded_claim :
    (machine (.fromSecs 30)).Allowed initial (failedAfter 26) ∧
      Superseded ((machine (.fromSecs 30)).run initial (failedAfter 26)) sampleSchedule
        (second 32) ∧
      (machine (.fromSecs 30)).enabled ((machine (.fromSecs 30)).run initial (failedAfter 26))
        (second 7, .acknowledge sampleSchedule (second 32) .delivered) ∧
      (perform (second 7) .delivered ((machine (.fromSecs 30)).run initial (failedAfter 26)).store
        sampleSchedule (second 32)).2 = .ok true :=
  ⟨by decide +kernel, ⟨second 35, by decide +kernel⟩, by decide +kernel, by decide +kernel⟩

end SchedulerFencing
