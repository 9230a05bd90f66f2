import Hexeract.BusClientGauge

/-! # The outcomes of calls

A call is counted as started once, and under one outcome once: when it finishes, or when
its future was dropped. What a run counts is kept here as a list, so that the totals can be
compared with it and each call's own part can be read off. -/
namespace BusClientOutcomes

open LibraryMachines LibraryCollections BusErrors BusEnvelope BusReplyAcceptance
open BusReplyDelivery BusRequestClient BusClientMoves BusClientGuards BusClientGauge
open BusRequestRegistry hiding Event Enabled next machine

variable {n m : ℕ}

def begun : CallPhase → Bool
  | .idle => false
  | _ => true

def contribution : CallPhase → Option RequestOutcome
  | .unguarded (.finished result) _ => some (.of result)
  | .settling .cancelled _ => some .cancelled
  | _ => none

def outcomeOf : Report → RequestOutcome
  | .finished result => .of result
  | .cancelled => .cancelled

def settledAs : CallPhase → Option RequestOutcome
  | .settling (.finished result) _ => some (.of result)
  | .done report => some (outcomeOf report)
  | _ => none

def counted (client : Client n m) : Event n m → List (Fin n × RequestOutcome)
  | .advance c => (contribution (client.calls c)).toList.map fun outcome => (c, outcome)
  | _ => []

def contributions (codec : ReplyCodec) (requests : Fin n → Request) :
    Client n m → List (Event n m) → List (Fin n × RequestOutcome)
  | _, [] => []
  | client, event :: rest =>
    counted client event ++ contributions codec requests (next codec requests client event) rest

def contributedBy (history : List (Fin n × RequestOutcome)) (c : Fin n) : List RequestOutcome :=
  (history.filter fun entry => entry.1 = c).map Prod.snd

def total (counters : RequestClientCounters) : RequestOutcome → UInt64
  | .succeeded => counters.succeeded
  | .timedOut => counters.timedOut
  | .remoteFailed => counters.remoteFailed
  | .transportFailed => counters.transportFailed
  | .refused => counters.refused
  | .publicationUnknown => counters.publicationUnknown
  | .invalidReply => counters.invalidReply
  | .cancelled => counters.cancelled

def outcomes : List RequestOutcome :=
  [.succeeded, .timedOut, .remoteFailed, .transportFailed, .refused, .publicationUnknown,
    .invalidReply, .cancelled]

section Counters

variable (counters : RequestClientCounters)

theorem total_countOutcome (outcome other : RequestOutcome) :
    total (counters.countOutcome outcome) other =
      total counters other + UInt64.ofNat ([outcome].count other) := by
  cases outcome <;> cases other <;>
    simp [total, RequestClientCounters.countOutcome]

theorem total_releaseInFlight (other : RequestOutcome) :
    total counters.releaseInFlight other = total counters other := by
  cases other <;> rfl

theorem started_countOutcome (outcome : RequestOutcome) :
    (counters.countOutcome outcome).started = counters.started := by
  cases outcome <;> rfl

end Counters

/-! ## Moves -/

section Moves

variable {codec : ReplyCodec} {requests : Fin n → Request} {client after : Client n m} {c : Fin n}

theorem settledAs_quiet {before phase : CallPhase}
    (move : Quiet codec requests client c before phase) :
    settledAs phase = settledAs before := by
  cases move <;> rfl

theorem begun_quiet {before phase : CallPhase}
    (move : Quiet codec requests client c before phase) : begun phase = begun before := by
  cases move <;> rfl

theorem started_move (move : Move codec requests client c after) :
    after.counters.started + UInt64.ofNat (begun (client.calls c)).toNat =
      client.counters.started + UInt64.ofNat (begun (after.calls c)).toNat := by
  cases move with
  | stay => rfl
  | quiet move => rw [calls_moveTo_self, begun_quiet move]; rfl
  | start stands =>
    rw [calls_moveTo_self, stands]
    exact UInt64.add_zero _
  | register stands | raise stands | permit stands | hand stands | returnPermit stands
  | dropPermit stands | dropGuard stands =>
    rw [calls_moveTo_self, stands]
    rfl
  | @settleFirst report isAdmitted stands =>
    rw [calls_moveTo_self, stands]
    cases report with
    | finished result =>
      simp only [Client.moveTo, settleFirst, started_countOutcome]
      rfl
    | cancelled => cases isAdmitted <;> rfl
  | @settleSecond report isAdmitted stands =>
    rw [calls_moveTo_self, stands]
    cases report <;> cases isAdmitted <;> rfl

theorem total_move (move : Move codec requests client c after) (other : RequestOutcome) :
    total after.counters other +
        UInt64.ofNat ((settledAs (client.calls c)).toList.count other) =
      total client.counters other +
        UInt64.ofNat ((settledAs (after.calls c)).toList.count other) := by
  cases move with
  | stay => rfl
  | quiet move => rw [calls_moveTo_self, settledAs_quiet move]; rfl
  | start stands | register stands | raise stands | permit stands | hand stands
  | returnPermit stands | dropPermit stands | dropGuard stands =>
    rw [calls_moveTo_self, stands]
    cases other <;> rfl
  | @settleFirst report isAdmitted stands =>
    rw [calls_moveTo_self, stands]
    cases report with
    | finished result =>
      simp only [Client.moveTo, settleFirst, total_countOutcome, settledAs, Option.toList_none,
        Option.toList_some, List.count_nil]
      exact UInt64.add_zero _
    | cancelled =>
      cases isAdmitted with
      | false => rfl
      | true =>
        simp only [Client.moveTo, settleFirst, if_true, total_releaseInFlight]
        rfl
  | @settleSecond report isAdmitted stands =>
    rw [calls_moveTo_self, stands]
    cases report with
    | finished result =>
      cases isAdmitted with
      | false => rfl
      | true =>
        simp only [Client.moveTo, settleSecond, if_true, total_releaseInFlight]
        rfl
    | cancelled =>
      simp only [Client.moveTo, settleSecond, total_countOutcome, settledAs, outcomeOf,
        Option.toList_none, Option.toList_some, List.count_nil]
      exact UInt64.add_zero _

theorem settledAs_advance :
    (settledAs ((advance codec requests client c).calls c)).toList =
      (settledAs (client.calls c)).toList ++ (contribution (client.calls c)).toList := by
  cases stands : client.calls c with
  | idle | registered | permitted | publishing | published | timingOut =>
    simp only [advance, stands, calls_moveTo_self]
    rfl
  | countingRejections =>
    simp only [advance, stands, failWith, calls_moveTo_self]
    rfl
  | started | admitted | addressed | encoded =>
    simp only [advance, stands, failWith]
    split <;> (rw [calls_moveTo_self]; rfl)
  | waiting guard address =>
    simp only [advance, stands]
    split
    · rw [calls_moveTo_self]
      rfl
    · rw [calls_moveTo_self]
      rfl
    · rw [stands]
      rfl
  | woken | rechecking =>
    simp only [advance, stands, failWith]
    split <;> (rw [calls_moveTo_self]; rfl)
  | leaving guard permit report =>
    cases permit <;> (simp only [advance, stands, calls_moveTo_self]; rfl)
  | unguarded report | settling report =>
    simp only [advance, stands, calls_moveTo_self]
    cases report <;> rfl
  | done =>
    simp only [advance, stands]
    rfl

theorem settledAs_of_await (awaits : atAwait client c = true)
    (move : Move codec requests client c after) : settledAs (after.calls c) = none := by
  have open' : ∀ phase, client.calls c = phase →
      (∃ guard address, phase = .publishing guard address) ∨
        ∃ guard address, phase = .waiting guard address := by
    rintro phase rfl
    unfold atAwait at awaits
    cases h : client.calls c with
    | publishing guard address => exact Or.inl ⟨guard, address, rfl⟩
    | waiting guard address => exact Or.inr ⟨guard, address, rfl⟩
    | _ =>
      rw [h] at awaits
      cases awaits
  have before : settledAs (client.calls c) = none := by
    rcases open' _ rfl with ⟨_, _, stands⟩ | ⟨_, _, stands⟩ <;> rw [stands] <;> rfl
  cases move with
  | stay => exact before
  | quiet move => rw [calls_moveTo_self, settledAs_quiet move, before]
  | start stands | register stands | raise stands | permit stands | hand stands
  | returnPermit stands | dropPermit stands | dropGuard stands | settleFirst stands
  | settleSecond stands =>
    rcases open' _ stands with ⟨_, _, impossible⟩ | ⟨_, _, impossible⟩ <;> cases impossible

end Moves

/-! ## The balance of a run -/

/-- The counters agree with the calls and with what was counted so far. -/
structure Balanced (client : Client n m) (history : List (Fin n × RequestOutcome)) : Prop where
  started : client.counters.started = UInt64.ofNat (countOf begun client.calls)
  totals : ∀ outcome, total client.counters outcome =
    UInt64.ofNat ((history.map Prod.snd).count outcome)
  settled : ∀ c, contributedBy history c = (settledAs (client.calls c)).toList
  length : history.length = countOf (fun phase => (settledAs phase).isSome) client.calls
  gauge : client.counters.inFlight = UInt64.ofNat (countOf raised client.calls)

theorem Balanced.new (maxInFlight : ℕ) (inbox : String) :
    Balanced (Client.new n m maxInFlight inbox) [] where
  started := by
    have none : countOf begun (Client.new n m maxInFlight inbox).calls = 0 :=
      countOf_const begun .idle rfl
    rw [none]
    rfl
  totals := by
    intro outcome
    cases outcome <;> rfl
  settled := fun _ => rfl
  length := (countOf_const _ CallPhase.idle rfl).symm
  gauge := by
    have none : countOf raised (Client.new n m maxInFlight inbox).calls = 0 :=
      countOf_const raised .idle rfl
    rw [none]
    rfl

section Steps

variable {codec : ReplyCodec} {requests : Fin n → Request} {client after : Client n m}
  {history : List (Fin n × RequestOutcome)}

theorem contributedBy_append (c d : Fin n) (more : List RequestOutcome) :
    contributedBy (history ++ more.map fun outcome => (c, outcome)) d =
      contributedBy history d ++ if c = d then more else [] := by
  unfold contributedBy
  rw [List.filter_append, List.map_append]
  congr 1
  by_cases same : c = d
  · simp [same, List.filter_map, Function.comp_def]
  · simp [same, List.filter_map, Function.comp_def]

theorem Balanced.move {c : Fin n} (balanced : Balanced client history)
    (move : Move codec requests client c after) {more : List RequestOutcome}
    (grown : (settledAs (after.calls c)).toList = (settledAs (client.calls c)).toList ++ more) :
    Balanced after (history ++ more.map fun outcome => (c, outcome)) where
  started := by
    have counted := congrArg UInt64.ofNat (countOf_move move begun)
    rw [UInt64.ofNat_add, UInt64.ofNat_add, ← balanced.started, ← started_move move] at counted
    exact (UInt64.add_left_inj _).mp counted.symm
  totals := by
    intro outcome
    have changed := total_move move outcome
    rw [grown, List.count_append, Nat.add_comm, UInt64.ofNat_add, ← UInt64.add_assoc] at changed
    have same := (UInt64.add_left_inj _).mp changed
    rw [same, balanced.totals, ← UInt64.ofNat_add, List.map_append, List.count_append,
      List.map_map]
    congr 3
    exact (List.map_id more).symm
  settled := by
    intro d
    rw [contributedBy_append, balanced.settled d]
    by_cases here : c = d
    · rw [if_pos here, ← here, grown]
    · rw [if_neg here, List.append_nil, move.elsewhere (Ne.symm here)]
  length := by
    have counted := countOf_move move fun phase => (settledAs phase).isSome
    have sizes := congrArg List.length grown
    have size : ∀ phase, (settledAs phase).toList.length = (settledAs phase).isSome.toNat := by
      intro phase
      cases settledAs phase <;> rfl
    rw [List.length_append, size, size] at sizes
    rw [List.length_append, List.length_map, balanced.length]
    omega
  gauge := inFlight_step (.call c move) balanced.gauge

theorem Balanced.next (balanced : Balanced client history) {event : Event n m}
    (enabled : Enabled client event) :
    Balanced (next codec requests client event) (history ++ counted client event) := by
  have interrupted : ∀ c after, atAwait client c = true → Move codec requests client c after →
      Balanced after (history ++ []) := by
    intro c after awaits move
    have unmoved : Move codec requests client c client := .stay
    have quiet : (settledAs (after.calls c)).toList =
        (settledAs (client.calls c)).toList ++ [] := by
      rw [settledAs_of_await awaits move, settledAs_of_await awaits unmoved]
      rfl
    exact balanced.move move quiet
  have others : ∀ after : Client n m, after.counters = client.counters →
      after.calls = client.calls → Balanced after (history ++ []) := by
    intro after counters calls
    rw [List.append_nil]
    refine ⟨?_, ?_, ?_, ?_, ?_⟩
    · rw [counters, calls]
      exact balanced.started
    · rw [counters]
      exact balanced.totals
    · rw [calls]
      exact balanced.settled
    · rw [calls]
      exact balanced.length
    · rw [counters, calls]
      exact balanced.gauge
  cases event with
  | advance c => exact balanced.move (move_advance codec requests) settledAs_advance
  | publishFails c error =>
    refine interrupted c _ ?_ (move_publishFails codec requests error)
    simp only [Enabled, isPublishing] at enabled
    unfold atAwait
    cases h : client.calls c <;> rw [h] at enabled <;> first | rfl | cases enabled
  | deadlinePasses c =>
    refine interrupted c _ ?_ (move_deadlinePasses codec requests enabled)
    simp only [Enabled, deadlineCanPass] at enabled
    unfold atAwait
    cases h : client.calls c <;> rw [h] at enabled <;> first | rfl | cases enabled
  | dropFuture c => exact interrupted c _ enabled (move_dropFuture codec requests)
  | close j order =>
    apply others
    · simp only [BusRequestClient.next, closeStep]
      split <;> rfl
    · simp only [BusRequestClient.next, closeStep]
      split <;> rfl
  | deliver | undecodable | mark | drain | reconnect => exact others _ rfl rfl

theorem Balanced.run {events : List (Event n m)} (balanced : Balanced client history)
    (allowed : (machine codec requests).Allowed client events) :
    Balanced ((machine codec requests).run client events)
      (history ++ contributions codec requests client events) := by
  induction events generalizing client history with
  | nil =>
    rw [contributions, List.append_nil]
    exact balanced
  | cons event rest ih =>
    rw [contributions, ← List.append_assoc]
    exact ih (balanced.next allowed.1) allowed.2

end Steps

/-! ## Clients at rest -/

theorem length_eq_counts (history : List RequestOutcome) :
    history.length = (outcomes.map fun outcome => history.count outcome).sum := by
  induction history with
  | nil => rfl
  | cons outcome rest ih =>
    rw [List.length_cons, ih]
    cases outcome <;> simp [outcomes] <;> omega

/-- The sum of the eight totals, in the arithmetic of the counters. -/
def sumOfTotals (counters : RequestClientCounters) : UInt64 :=
  counters.succeeded + counters.timedOut + counters.remoteFailed + counters.transportFailed +
    counters.refused + counters.publicationUnknown + counters.invalidReply + counters.cancelled

section Rest

variable {client : Client n m} {history : List (Fin n × RequestOutcome)}

theorem Balanced.sumOfTotals_eq (balanced : Balanced client history) :
    sumOfTotals client.counters = UInt64.ofNat history.length := by
  have sum := length_eq_counts (history.map Prod.snd)
  rw [List.length_map] at sum
  have each := balanced.totals
  rw [sum]
  simp only [outcomes, List.map_cons, List.map_nil, List.sum_cons, List.sum_nil,
    UInt64.ofNat_add, ← each, total, sumOfTotals]
  simp [UInt64.add_assoc]

/-- No total exceeds the number of calls, so with fewer calls than a counter has values the
sum is exact. -/
theorem Balanced.sum_toNat (balanced : Balanced client history) (few : n < 2 ^ 64) :
    (outcomes.map fun outcome => (total client.counters outcome).toNat).sum =
      history.length := by
  have bound : history.length < 2 ^ 64 := by
    rw [balanced.length]
    refine lt_of_le_of_lt (Finset.card_le_univ _) ?_
    rw [Fintype.card_fin]
    exact few
  have each : ∀ outcome, (total client.counters outcome).toNat =
      (history.map Prod.snd).count outcome := by
    intro outcome
    rw [balanced.totals, UInt64.toNat_ofNat', Nat.mod_eq_of_lt]
    refine lt_of_le_of_lt List.count_le_length ?_
    rw [List.length_map]
    exact bound
  simp only [each]
  rw [← length_eq_counts, List.length_map]

theorem Balanced.length_of_rest (balanced : Balanced client history)
    (rest : ∀ c, client.calls c = .idle ∨ ∃ report, client.calls c = .done report) :
    history.length = countOf begun client.calls := by
  rw [balanced.length]
  unfold countOf
  congr 1
  apply Finset.filter_congr
  intro c _
  rcases rest c with idle | ⟨report, done⟩
  · rw [idle]
    simp [settledAs, begun]
  · rw [done]
    simp [settledAs, begun]

theorem Balanced.gauge_of_rest (balanced : Balanced client history)
    (rest : ∀ c, client.calls c = .idle ∨ ∃ report, client.calls c = .done report) :
    client.counters.inFlight = 0 := by
  have none : countOf raised client.calls = 0 := by
    rw [countOf_eq_zero]
    intro c
    rcases rest c with idle | ⟨report, done⟩
    · rw [idle]
      rfl
    · rw [done]
      rfl
  rw [balanced.gauge, none]
  rfl

end Rest

/-- In every run of calls, closers and deliveries on one client, however many of the calls
were dropped while they awaited: once none of the calls is running, the started total is
the sum of the eight outcome totals, each call that began contributed exactly its own
outcome to them, and the gauge is back at zero. -/
theorem outcomes_balance_at_rest (codec : ReplyCodec) (requests : Fin n → Request)
    (maxInFlight : ℕ) (inbox : String) (events : List (Event n m))
    (allowed : (machine codec requests).Allowed (Client.new n m maxInFlight inbox) events)
    (rest : ∀ c,
      ((machine codec requests).run (Client.new n m maxInFlight inbox) events).calls c = .idle ∨
      ∃ report, ((machine codec requests).run (Client.new n m maxInFlight inbox) events).calls c =
        .done report) :
    let client := (machine codec requests).run (Client.new n m maxInFlight inbox) events
    let history := contributions codec requests (Client.new n m maxInFlight inbox) events
    client.counters.started = sumOfTotals client.counters ∧
    (n < 2 ^ 64 → client.counters.started.toNat =
      (outcomes.map fun outcome => (total client.counters outcome).toNat).sum) ∧
    (∀ c, client.calls c = .idle ∧ contributedBy history c = [] ∨
      ∃ report, client.calls c = .done report ∧ contributedBy history c = [outcomeOf report]) ∧
    (∀ outcome, total client.counters outcome =
      UInt64.ofNat ((history.map Prod.snd).count outcome)) ∧
    client.counters.inFlight = 0 := by
  intro client history
  have balanced : Balanced client history :=
    (Balanced.new maxInFlight inbox).run allowed
  have length := balanced.length_of_rest rest
  refine ⟨?_, ?_, ?_, balanced.totals, balanced.gauge_of_rest rest⟩
  · rw [balanced.started, balanced.sumOfTotals_eq, length]
  · intro few
    rw [balanced.sum_toNat few, balanced.started, length, UInt64.toNat_ofNat', Nat.mod_eq_of_lt]
    refine lt_of_le_of_lt (Finset.card_le_univ _) ?_
    rw [Fintype.card_fin]
    exact few
  · intro c
    rcases rest c with idle | ⟨report, done⟩
    · refine Or.inl ⟨idle, ?_⟩
      rw [balanced.settled c, idle]
      rfl
    · refine Or.inr ⟨report, done, ?_⟩
      rw [balanced.settled c, done]
      rfl

/-- The first call succeeds; the second is dropped while it waits for its reply. -/
def restingEvents : List (Event 2 0) :=
  uncrowdedEvents ++ List.replicate 6 (.advance secondCall) ++
    .dropFuture secondCall :: List.replicate 3 (.advance secondCall)

theorem outcomes_balance_at_rest_sample :
    ((machine sampleCodec sampleRequests).run (Client.new 2 0 1 "inbox")
      restingEvents).counters.started.toNat =
        (outcomes.map fun outcome => (total ((machine sampleCodec sampleRequests).run
          (Client.new 2 0 1 "inbox") restingEvents).counters outcome).toNat).sum :=
  (outcomes_balance_at_rest sampleCodec sampleRequests 1 "inbox" restingEvents
    (by simp only [machine]; decide +kernel)
    (Fin.forall_fin_two.mpr ⟨Or.inr ⟨.finished (.ok .notEnforced), by decide +kernel⟩,
      Or.inr ⟨.cancelled, by decide +kernel⟩⟩)).2.1 (by decide)

end BusClientOutcomes
