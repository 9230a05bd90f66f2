import Hexeract.SchedulerLifecycle
import Hexeract.SchedulerSqlStore

/-! # Clients of a SQL schedule store

Any number of clients call one store, each one call after the other. What they are told is
what the statements say, whatever the clients interleave: the texts refine the statements,
a stored schedule is never reported missing, and a claim stays within the budget of
attempts. A store in a table that PostgreSQL's claim hides serves nothing. -/
namespace SchedulerSqlClients

open LibraryCollections LibraryTables LibrarySql LibraryPrograms LibraryMachines
open SqlDialect SchedulerSqlExecution SchedulerSqlStore SchedulerMessages StdTime BusEnvelope
open SchedulerStatements hiding Row
open OutboxStatements (Dialect)
open SchedulerLeases (sampleEngine sampleSchedule second)

variable {τ β δ : Type}

/-! ## A schedule that is there is not reported missing -/

section Found

variable {c : Codec τ β δ} (id : Uuid)

def Present (r : Request Uuid τ β δ) (a : Answer Uuid τ β) : Prop :=
  r = .existence id ∨ r = .inspect id → ∃ outcome, a = .ok outcome ∧ outcome.returned ≠ []

def NotMissing (e : SchedulerError) : Prop := e ≠ .scheduleNotFound id

variable {id}

theorem NamesNone.notMissing {e : SchedulerError} (h : NamesNone e) : NotMissing id e := by
  rintro rfl
  exact h

theorem ensureExists_found (other : Uuid) :
    (c.ensureExists other).run.Meets (Present id) (Fails (NotMissing id)) := by
  refine meets_query (fun _ _ => nofun) fun outcome present => ?_
  by_cases empty : outcome.returned.isEmpty
  · rw [if_pos empty]
    rintro same
    cases same
    obtain ⟨_, same, found⟩ := present (.inl rfl)
    cases same
    exact found (List.isEmpty_iff.mp empty)
  · rw [if_neg empty]
    trivial

theorem acknowledging_found (r : Request Uuid τ β δ) :
    (c.acknowledging r).run.Meets (Present id) (Fails (NotMissing id)) :=
  meets_query (fun _ _ => nofun) fun _ _ => trivial

theorem updating_found (other : Uuid) (r : Request Uuid τ β δ) :
    (c.updating other r).run.Meets (Present id) (Fails (NotMissing id)) := by
  refine meets_query (fun _ _ => nofun) fun outcome _ => ?_
  by_cases none : outcome.affected = 0
  · rw [if_pos none]
    exact meets_then (ensureExists_found other) fun _ => trivial
  · rw [if_neg none]
    trivial

theorem time_found (t : SystemTime) :
    (c.time t).run.Meets (Present id) (Fails (NotMissing id)) := by
  unfold Codec.time
  cases c.bindTime t with
  | error e => exact nofun
  | ok _ => trivial

theorem inspect_found (other : Uuid) : (c.inspect other).run.Meets (Present id)
    fun result => Fails (NotMissing id) result ∧ (other = id → result ≠ .ok none) := by
  refine meets_query (fun _ _ => ⟨nofun, nofun⟩) fun outcome present => ?_
  cases asked : outcome.returned.head? with
  | none =>
    refine ⟨trivial, fun same => ?_⟩
    obtain ⟨_, eq, found⟩ := present (.inr (same ▸ rfl))
    cases eq
    exact absurd (List.head?_eq_none_iff.mp asked) found
  | some row =>
    refine meets_check (fun e failed => ⟨?_, nofun⟩) fun _ _ => ⟨trivial, nofun⟩
    have names := decodeSnapshot_fails c row
    rw [failed] at names
    exact NamesNone.notMissing names

theorem inspectStored_found (other : Uuid) :
    (c.inspectStored other).run.Meets (Present id) (Fails (NotMissing id)) := by
  refine meets_bind (inspect_found other) fun result ⟨quiet, present⟩ => ?_
  cases result with
  | error e => exact quiet
  | ok snapshot =>
    cases snapshot with
    | none =>
      rintro same
      cases same
      exact present rfl rfl
    | some snapshot => trivial

theorem listing_found (r : Request Uuid τ β δ) :
    (c.listing r).run.Meets (Present id) (Fails (NotMissing id)) := by
  refine meets_query (fun _ _ => nofun) fun outcome _ => ?_
  refine meets_check (fun e failed => ?_) fun _ _ => trivial
  have names := fails_mapM (decodeSnapshot_fails c) outcome.returned
  rw [failed] at names
  exact NamesNone.notMissing names

theorem resume_found (other : Uuid) (next : Option SystemTime) :
    (c.resume other next).run.Meets (Present id) (Fails (NotMissing id)) := by
  cases next with
  | none => exact updating_found other _
  | some next => exact meets_then (time_found next) fun _ => updating_found other _

theorem script_found (call : Call c.engine) :
    (c.script call).run.Meets (Present id) (Fails (NotMissing id)) := by
  cases call with
  | insert message maxAttempts =>
    refine meets_check (fun e failed => ?_) fun _ _ =>
      meets_then (time_found _) fun _ => meets_query (fun _ _ => nofun) fun _ _ => trivial
    cases decoded : c.fromSlice message.payload with
    | error s =>
      rw [decoded] at failed
      cases failed
      exact nofun
    | ok payload =>
      rw [decoded] at failed
      cases failed
  | claimDue batchSize lease =>
    refine meets_query (fun _ _ => nofun) fun outcome _ =>
      meets_check (fun e failed => ?_) fun _ _ => trivial
    have names := fails_mapM (decodeLeased_fails c) outcome.returned
    rw [failed] at names
    exact NamesNone.notMissing names
  | markDelivered other lease =>
    exact meets_then (time_found lease) fun _ => acknowledging_found _
  | reschedule other next lease =>
    exact meets_then (time_found next) fun _ =>
      meets_then (time_found lease) fun _ => acknowledging_found _
  | markFailed other retryIn error lease =>
    exact meets_then (time_found lease) fun _ => acknowledging_found _
  | markDeadLettered other error lease =>
    exact meets_then (time_found lease) fun _ => acknowledging_found _
  | deadLetterExhausted => exact meets_query (fun _ _ => nofun) fun _ _ => trivial
  | cancel other => exact updating_found other _
  | setPaused other paused => exact updating_found other _
  | resume other next => exact resume_found other next
  | inspect other =>
    refine meets_bind (inspect_found other) fun result ⟨quiet, _⟩ => ?_
    cases result with
    | error e => exact quiet
    | ok _ => trivial
  | listPending limit => exact listing_found _
  | listDeadLetter limit => exact listing_found _
  | replay other =>
    refine meets_query (fun _ _ => nofun) fun outcome _ => ?_
    by_cases none : outcome.affected = 0
    · rw [if_pos none]
      refine meets_then (inspectStored_found other) fun _ => meets_check (fun e failed => ?_) nofun
      cases failed
      exact nofun
    · rw [if_neg none]
      trivial
  | controlCancel other =>
    refine meets_then (inspectStored_found other) fun snapshot => ?_
    by_cases ended : SchedulerMemory.isTerminal snapshot.status = true
    · rw [if_pos ended]
      trivial
    · rw [if_neg ended]
      exact updating_found other _
  | controlResume other now =>
    refine meets_then (inspectStored_found other) fun snapshot =>
      meets_check (fun e failed => ?_) fun call _ => ?_
    · have names := resumeCall_fails snapshot now
      rw [failed] at names
      exact NamesNone.notMissing names
    · cases call with
      | none => trivial
      | some next => exact resume_found other next

end Found

/-! ## What a claim hands out is what it returns -/

section Claimed

variable {c : Codec τ β δ} {P : Stored Uuid τ β → Prop} {H : LeasedOccurrence c.engine → Prop}

def Returns (P : Stored Uuid τ β → Prop) (r : Request Uuid τ β δ) (a : Answer Uuid τ β) : Prop :=
  ∀ limit lease, r = .claim limit lease → ∀ outcome, a = .ok outcome →
    ∀ values ∈ outcome.returned, ∃ row, values = claimedValues row ∧ P row

def Handed (H : LeasedOccurrence c.engine → Prop) : Except SchedulerError (Reply c.engine) → Prop
  | .ok (.claimed occurrences) => ∀ o ∈ occurrences, H o
  | _ => True

theorem decodeLeased_claimedValues {row : Stored Uuid τ β} {o : LeasedOccurrence c.engine}
    (decoded : c.decodeLeased (claimedValues row) = .ok o) :
    o.message.scheduleId = row.1 ∧ o.attempts = attemptsFromI64 row.2.attempts ∧
      o.maxAttempts = attemptsFromI64 row.2.maxAttempts := by
  unfold claimedValues at decoded
  cases leased : row.2.leasedUntil with
  | none =>
    rw [leased] at decoded
    cases decoded
  | some deadline =>
    rw [leased] at decoded
    simp only [Codec.decodeLeased, nullable, bind_ok] at decoded
    obtain ⟨_, _, _, _, _, _, _, _, message, built, _, _, eq⟩ := decoded
    simp only [buildMessage, bind_ok] at built
    obtain ⟨_, _, _, _, built⟩ := built
    cases built
    cases eq
    exact ⟨rfl, rfl, rfl⟩

theorem meets_after {α : Type} {A : Request Uuid τ β δ → Answer Uuid τ β → Prop}
    {p : Script τ β δ α} {f : α → Script τ β δ (Reply c.engine)}
    (rest : ∀ a, (f a).run.Meets A (Handed H)) : (p >>= f).run.Meets A (Handed H) := by
  refine meets_bind (meets_trivial p) fun result _ => ?_
  cases result with
  | error e => trivial
  | ok a => exact rest a

theorem updating_handed (id : Uuid) (r : Request Uuid τ β δ) :
    (c.updating id r).run.Meets (Returns P) (Handed H) := by
  refine meets_after fun outcome => ?_
  by_cases none : outcome.affected = 0
  · rw [if_pos none]
    exact meets_after fun _ => trivial
  · rw [if_neg none]
    trivial

theorem resume_handed (id : Uuid) (next : Option SystemTime) :
    (c.resume id next).run.Meets (Returns P) (Handed H) := by
  cases next with
  | none => exact updating_handed id _
  | some next => exact meets_after fun _ => updating_handed id _

theorem script_handed
    (decodes : ∀ row o, P row → c.decodeLeased (claimedValues row) = .ok o → H o)
    (call : Call c.engine) : (c.script call).run.Meets (Returns P) (Handed H) := by
  cases call with
  | claimDue batchSize lease =>
    refine meets_query (fun _ _ => trivial) fun outcome returns => ?_
    refine meets_check (fun _ _ => trivial) fun occurrences decoded o handed => ?_
    obtain ⟨values, mem, ok⟩ := (mem_listMapM_ok decoded).mp handed
    obtain ⟨row, rfl, held⟩ := returns _ _ rfl outcome rfl values mem
    exact decodes row o held ok
  | insert message maxAttempts =>
    exact meets_after fun _ => meets_after fun _ => meets_after fun _ => trivial
  | markDelivered id lease => exact meets_after fun _ => meets_after fun _ => trivial
  | reschedule id next lease =>
    exact meets_after fun _ => meets_after fun _ => meets_after fun _ => trivial
  | markFailed id retryIn error lease => exact meets_after fun _ => meets_after fun _ => trivial
  | markDeadLettered id error lease => exact meets_after fun _ => meets_after fun _ => trivial
  | deadLetterExhausted => exact meets_after fun _ => trivial
  | cancel id => exact updating_handed id _
  | setPaused id paused => exact updating_handed id _
  | resume id next => exact resume_handed id next
  | inspect id => exact meets_after fun _ => trivial
  | listPending limit => exact meets_after fun _ => meets_after fun _ => trivial
  | listDeadLetter limit => exact meets_after fun _ => meets_after fun _ => trivial
  | replay id =>
    refine meets_after fun outcome => ?_
    by_cases none : outcome.affected = 0
    · rw [if_pos none]
      exact meets_after fun _ => meets_after fun _ => trivial
    · rw [if_neg none]
      trivial
  | controlCancel id =>
    refine meets_after fun snapshot => ?_
    by_cases ended : SchedulerMemory.isTerminal snapshot.status = true
    · rw [if_pos ended]
      trivial
    · rw [if_neg ended]
      exact updating_handed id _
  | controlResume id now =>
    refine meets_after fun snapshot => meets_after fun call => ?_
    cases call with
    | none => trivial
    | some next => exact resume_handed id next

end Claimed

/-! ## Clients of a server -/

/-- A request that fails leaves the server as it is. -/
def attempted {σ κ : Type} (s : σ) :
    Except Failure (σ × Outcome κ τ β) → σ × Answer κ τ β
  | .ok (s', outcome) => (s', .ok outcome)
  | .error failure => (s, .error failure)

variable [LinearOrder τ]

def textServer (d : Dialect) (table : String) : Server (Surroundings Uuid τ δ) (Database Uuid τ β)
    (Request Uuid τ β δ) (Answer Uuid τ β) :=
  fun env db r => attempted db (runText d table env db r)

def statementServer (d : Dialect) : Server (Surroundings Uuid τ δ)
    (Schedules Uuid τ (Content τ β)) (Request Uuid τ β δ) (Answer Uuid τ β) :=
  fun env t r => attempted t (runStatement d env t r)

section Clients

variable (ι : Type) [DecidableEq ι] (c : Codec τ β δ) (d : Dialect) (table : String)

abbrev Served (σ : Type) := System ι σ (Request Uuid τ β δ) (Answer Uuid τ β)
  (Except SchedulerError (Reply c.engine))

abbrev Doing := Event ι (Surroundings Uuid τ δ) (Call c.engine)

def textMachine : Machine (Served ι c (Database Uuid τ β)) (Doing ι c) :=
  machine (textServer d table) (fun call => (c.script call).run) fun _ => True

def statementMachine : Machine (Served ι c (Schedules Uuid τ (Content τ β))) (Doing ι c) :=
  machine (statementServer d) (fun call => (c.script call).run) fun _ => True

variable {ι c d table}

def fresh {σ : Type} (server : σ) : Served ι c σ := ⟨server, fun _ => none, []⟩

omit [LinearOrder τ] in
theorem attempted_alike {db₀ db : Database Uuid τ β} {t : Schedules Uuid τ (Content τ β)}
    {x : Except Failure (Database Uuid τ β × Outcome Uuid τ β)}
    {y : Except Failure (Schedules Uuid τ (Content τ β) × Outcome Uuid τ β)}
    (h : Shows d table db₀ db t) (agrees : Agrees d table db₀ x y) :
    (attempted db x).2 = (attempted t y).2 ∧
      Shows d table db₀ (attempted db x).1 (attempted t y).1 := by
  cases agrees with
  | failed failure => exact ⟨rfl, h⟩
  | done shows outcome => exact ⟨rfl, shows⟩

theorem servers_alike (apart : d = .postgres → table ≠ "due") {db₀ db : Database Uuid τ β}
    {t : Schedules Uuid τ (Content τ β)} (h : Shows d table db₀ db t)
    (env : Surroundings Uuid τ δ) (r : Request Uuid τ β δ) :
    (textServer d table env db r).2 = (statementServer d env t r).2 ∧
      Shows d table db₀ (textServer d table env db r).1 (statementServer d env t r).1 :=
  attempted_alike h (text_agrees apart h r)

theorem texts_match (apart : d = .postgres → table ≠ "due") {db : Database Uuid τ β}
    {serial : ℕ} {t : Schedules Uuid τ (Content τ β)}
    (stored : db table = some (relation d serial t)) {events : List (Doing ι c)}
    (allowed : (textMachine ι c d table).Allowed (fresh db) events) :
    (statementMachine ι c d).Allowed (fresh t) events ∧
      Matches (Shows d table db) ((textMachine ι c d table).run (fresh db) events)
        ((statementMachine ι c d).run (fresh t) events) :=
  matches_of_answers (fun env _ _ r _ h => servers_alike apart h env r)
    ⟨⟨serial, (Database.set_stored stored).symm⟩, rfl, rfl⟩ allowed

end Clients

/-! ## What a request does to the table -/

def statementOf {κ : Type} [DecidableEq κ] (d : Dialect) (env : Surroundings κ τ δ) :
    Request κ τ β δ → Option (SchedulerLifecycle.Statement κ τ (Content τ β))
  | .insert id row => some (.insert id (row.content env.now) row.scheduledFor row.maxAttempts)
  | .claim limit lease =>
    some (.claim env.now (env.deadline d lease) (skipped (env.engine d)) limit)
  | .markDelivered id lease => some (.acknowledge env.now id lease .delivered)
  | .reschedule id next lease => some (.acknowledge env.now id lease (.reschedule next))
  | .markFailed id retryIn error lease =>
    some (.acknowledge env.now id lease (.failed (env.later retryIn) error))
  | .markDeadLettered id error lease => some (.acknowledge env.now id lease (.deadLettered error))
  | .deadLetterExhausted => some (.sweep env.now)
  | .cancel id => some (.cancel env.now id)
  | .setPaused id paused => some (.setPaused id paused)
  | .resumeWithNext id next => some (.resume id (some next))
  | .resumeOnly id => some (.resume id none)
  | .replay id => some (.replay env.now id)
  | .inspect _ | .existence _ | .listPending _ | .listDeadLetter _ => none

section Effects

variable {d : Dialect} {env : Surroundings Uuid τ δ} {t : Schedules Uuid τ (Content τ β)}
  {r : Request Uuid τ β δ}

theorem server_executes : (statementServer d env t r).1 =
    (statementOf d env r).elim t (SchedulerLifecycle.execute t) := by
  cases r with
  | insert id row =>
    simp only [statementServer, runStatement, statementOf, Option.elim,
      SchedulerLifecycle.execute]
    cases SchedulerStatements.insert t id (row.content env.now) row.scheduledFor
      row.maxAttempts <;> rfl
  | _ => rfl

variable (d env r) in
theorem server_effect {k : Uuid} {row : SchedulerStatements.Row τ (Content τ β)}
    (found : t.find k = some row) : ∃ row', (statementServer d env t r).1.find k = some row' ∧
      ((statementOf d env r = none ∧ row' = row) ∨
        ∃ statement, statementOf d env r = some statement ∧
          SchedulerLifecycle.Effect k statement row row') := by
  rw [server_executes]
  cases statementOf d env r with
  | none => exact ⟨row, found, .inl ⟨rfl, rfl⟩⟩
  | some statement =>
    obtain ⟨row', found', effect⟩ := SchedulerLifecycle.execute_effect statement found
    exact ⟨row', found', .inr ⟨statement, rfl, effect⟩⟩

theorem server_adds_fresh {k : Uuid} {row : SchedulerStatements.Row τ (Content τ β)}
    (absent : t.find k = none) (found : (statementServer d env t r).1.find k = some row) :
    ∃ content scheduledFor maxAttempts, row = .fresh content scheduledFor maxAttempts := by
  have updated : ∀ id p f, (updateById t id p f).1.find k = none := by
    intro id p f
    rw [find_updateById, absent]
    rfl
  rw [server_executes] at found
  cases r with
  | insert id insertion =>
    simp only [statementOf, Option.elim, SchedulerLifecycle.execute] at found
    cases inserted : SchedulerStatements.insert t id (insertion.content env.now)
        insertion.scheduledFor insertion.maxAttempts with
    | none =>
      rw [inserted, Option.getD_none, absent] at found
      cases found
    | some t' =>
      rw [inserted, Option.getD_some, find_insert inserted, absent] at found
      split at found
      · cases found
        exact ⟨_, _, _, rfl⟩
      · cases found
  | claim limit lease =>
    simp only [statementOf, Option.elim, SchedulerLifecycle.execute] at found
    rw [find_claimDue, absent] at found
    cases found
  | deadLetterExhausted =>
    simp only [statementOf, Option.elim, SchedulerLifecycle.execute] at found
    rw [find_deadLetterExhausted, absent] at found
    cases found
  | inspect id => exact absurd (absent.symm.trans found) (Option.some_ne_none row).symm
  | existence id => exact absurd (absent.symm.trans found) (Option.some_ne_none row).symm
  | listPending limit => exact absurd (absent.symm.trans found) (Option.some_ne_none row).symm
  | listDeadLetter limit => exact absurd (absent.symm.trans found) (Option.some_ne_none row).symm
  | _ => exact absurd ((updated _ _ _).symm.trans found) (Option.some_ne_none row).symm

/-- What every effect keeps of a row and every fresh row has, all rows keep. -/
theorem server_keeps_rows {J : SchedulerStatements.Row τ (Content τ β) → Prop}
    (effects : ∀ k statement row row', statementOf d env r = some statement →
      SchedulerLifecycle.Effect k statement row row' → J row → J row')
    (fresh : ∀ content scheduledFor maxAttempts, J (.fresh content scheduledFor maxAttempts))
    (held : ∀ k row, t.find k = some row → J row) :
    ∀ k row, (statementServer d env t r).1.find k = some row → J row := by
  intro k row found
  cases before : t.find k with
  | none =>
    obtain ⟨content, scheduledFor, maxAttempts, rfl⟩ := server_adds_fresh before found
    exact fresh content scheduledFor maxAttempts
  | some old =>
    obtain ⟨row', found', kept | ⟨statement, issued, effect⟩⟩ :=
      server_effect d env r before
    · obtain rfl := Option.some.inj (found'.symm.trans found)
      exact kept.2 ▸ held k old before
    · obtain rfl := Option.some.inj (found'.symm.trans found)
      exact effects k statement old row' issued effect (held k old before)

end Effects

/-! ## What the clients see -/

section Found

variable {c : Codec τ β δ} {id : Uuid}

omit [LinearOrder τ] in
theorem mem_rowsOf {t : Schedules Uuid τ (Content τ β)} (stored : (t.find id).isSome = true) :
    rowsOf t id ≠ [] := by
  obtain ⟨row, found⟩ := Option.isSome_iff_exists.mp stored
  have mem : (id, row) ∈ rowsOf t id :=
    List.mem_filter.mpr ⟨find_eq_some.mp found, decide_eq_true rfl⟩
  exact List.ne_nil_of_mem mem

/-- Once a schedule is stored, no call of any client reports it missing: the statement that
found nothing to change and the question whether the schedule exists are two, but nothing
that runs in between removes it. -/
theorem stored_schedule_is_found {ι : Type} [DecidableEq ι] {d : Dialect} {table : String}
    (apart : d = .postgres → table ≠ "due") {db : Database Uuid τ β} {serial : ℕ}
    {t : Schedules Uuid τ (Content τ β)} (stored : db table = some (relation d serial t))
    (inside : (t.find id).isSome = true) {events : List (Doing ι c)}
    (allowed : (textMachine ι c d table).Allowed (fresh db) events) :
    ∀ reply ∈ ((textMachine ι c d table).run (fresh db) events).replies,
      reply.2 ≠ .error (.scheduleNotFound id) := by
  obtain ⟨ran, reached⟩ := texts_match apart stored allowed
  rw [reached.replies]
  intro reply mem missing
  have kept : ∀ (env : Surroundings Uuid τ δ) (t : Schedules Uuid τ (Content τ β))
      (r : Request Uuid τ β δ), True → (t.find id).isSome = true →
        ((statementServer d env t r).1.find id).isSome = true := by
    intro env t r _ inside
    obtain ⟨row, found⟩ := Option.isSome_iff_exists.mp inside
    obtain ⟨row', found', _⟩ := server_effect d env r found
    rw [found']
    rfl
  have answers : ∀ (env : Surroundings Uuid τ δ) (t : Schedules Uuid τ (Content τ β))
      (r : Request Uuid τ β δ), True → (t.find id).isSome = true →
        Present id r (statementServer d env t r).2 := by
    rintro env t _ _ inside (rfl | rfl)
    · exact ⟨_, rfl, fun none => mem_rowsOf inside (List.map_eq_nil_iff.mp none)⟩
    · exact ⟨_, rfl, fun none => mem_rowsOf inside (List.map_eq_nil_iff.mp none)⟩
  have contract := replies_of_contract kept answers script_found inside (fun _ => rfl) rfl ran
    reply mem
  rw [missing] at contract
  exact contract rfl

end Found

section Claimed

variable {c : Codec τ β δ} {P : Stored Uuid τ β → Prop} {H : LeasedOccurrence c.engine → Prop}

theorem returns_claims {d : Dialect} {env : Surroundings Uuid τ δ}
    {t : Schedules Uuid τ (Content τ β)} (r : Request Uuid τ β δ)
    (rows : ∀ deadline locked limit, ∀ row ∈ (claimDue env.now deadline t locked limit).2, P row) :
    Returns P r (statementServer d env t r).2 := by
  rintro limit lease rfl _ answer values mem
  cases answer
  obtain ⟨row, inside, rfl⟩ := List.mem_map.mp mem
  exact ⟨row, rfl, rows _ _ _ row inside⟩

variable {ι : Type} [DecidableEq ι] {d : Dialect} {table : String} {db : Database Uuid τ β}
  {serial : ℕ} {t : Schedules Uuid τ (Content τ β)}

theorem handed_of_rows (apart : d = .postgres → table ≠ "due")
    {I : Schedules Uuid τ (Content τ β) → Prop}
    (kept : ∀ (env : Surroundings Uuid τ δ) t r, I t → I (statementServer d env t r).1)
    (rows : ∀ t, I t → ∀ (now deadline : τ) locked limit,
      ∀ row ∈ (claimDue now deadline t locked limit).2, P row)
    (decodes : ∀ row o, P row → c.decodeLeased (claimedValues row) = .ok o → H o)
    (stored : db table = some (relation d serial t)) (start : I t) {events : List (Doing ι c)}
    (allowed : (textMachine ι c d table).Allowed (fresh db) events) :
    ∀ reply ∈ ((textMachine ι c d table).run (fresh db) events).replies,
      ∀ occurrences, reply.2 = .ok (.claimed occurrences) → ∀ o ∈ occurrences, H o := by
  obtain ⟨ran, reached⟩ := texts_match apart stored allowed
  rw [reached.replies]
  intro reply mem occurrences claimed
  have contract := replies_of_contract (A := Returns P) (Q := Handed H)
    (fun env t r _ => kept env t r)
    (fun env t r _ held => returns_claims r (rows t held env.now)) (script_handed decodes)
    start (fun _ => rfl) rfl ran reply mem
  rw [claimed] at contract
  exact contract

theorem attemptsFromI64_mono {m n : ℤ} (h : m ≤ n) : attemptsFromI64 m ≤ attemptsFromI64 n := by
  unfold attemptsFromI64
  omega

theorem one_le_attemptsFromI64 {n : ℤ} (h : 1 ≤ n) : 1 ≤ attemptsFromI64 n := by
  unfold attemptsFromI64
  omega

omit [LinearOrder τ] in
theorem effect_attempts {k : Uuid}
    {statement : SchedulerLifecycle.Statement Uuid τ (Content τ β)}
    {row row' : SchedulerStatements.Row τ (Content τ β)}
    (effect : SchedulerLifecycle.Effect k statement row row') (counted : 0 ≤ row.attempts) :
    0 ≤ row'.attempts := by
  cases effect with
  | kept => exact counted
  | claimed => exact Int.add_nonneg counted (by decide)
  | @acknowledged _ _ ack _ _ =>
    cases ack with
    | reschedule next => exact le_refl 0
    | delivered => exact counted
    | failed retryAt error => exact counted
    | deadLettered error => exact counted
  | swept => exact counted
  | cancelled => exact counted
  | paused => exact counted
  | realigned => exact le_refl 0
  | resumed => exact counted
  | replayed => exact le_refl 0

/-- A delivered or cancelled schedule stays so, whatever any clients call, and none of them
is handed it again. -/
theorem ended_schedule_stays_ended (apart : d = .postgres → table ≠ "due")
    (stored : db table = some (relation d serial t)) {id : Uuid}
    {row : SchedulerStatements.Row τ (Content τ β)} (found : t.find id = some row)
    (ended : row.isOpen = false) (alive : row.deadLetteredAt = none) {events : List (Doing ι c)}
    (allowed : (textMachine ι c d table).Allowed (fresh db) events) :
    (∀ reply ∈ ((textMachine ι c d table).run (fresh db) events).replies,
      ∀ occurrences, reply.2 = .ok (.claimed occurrences) →
        ∀ o ∈ occurrences, o.message.scheduleId ≠ id) ∧
    ∃ serial' t' row', ((textMachine ι c d table).run (fresh db) events).server =
        db.set table (relation d serial' t') ∧ t'.find id = some row' ∧
      SchedulerLifecycle.SameEnd row row' := by
  have kept : ∀ (env : Surroundings Uuid τ δ) t r, (∃ row', t.find id = some row' ∧
      SchedulerLifecycle.SameEnd row row') → ∃ row',
        (statementServer d env t r).1.find id = some row' ∧
          SchedulerLifecycle.SameEnd row row' := by
    rintro env t r ⟨now, found, same⟩
    obtain ⟨row', found', unchanged | ⟨statement, _, effect⟩⟩ :=
      server_effect d env r found
    · exact ⟨row', found', unchanged.2 ▸ same⟩
    · refine ⟨row', found', same.trans ?_⟩
      refine SchedulerLifecycle.sameEnd_of_moves (SchedulerLifecycle.moves_of_effect effect)
        (same.isOpen.trans ended) fun dead _ => ?_
      rw [same.deadLettered, alive] at dead
      cases dead
  have start : ∃ row', t.find id = some row' ∧ SchedulerLifecycle.SameEnd row row' :=
    ⟨row, found, .refl row⟩
  constructor
  · refine handed_of_rows (P := fun row => row.1 ≠ id) apart kept
      (fun t held now deadline locked limit claimed mem same => ?_)
      (fun row o other decoded => ?_) stored start allowed
    · obtain ⟨r, found, eligible, _⟩ := claimDue_returns mem
      obtain ⟨row', found', end'⟩ := held
      rw [same, found'] at found
      cases found
      have opened := isOpen_of_isEligible eligible
      rw [end'.isOpen, ended] at opened
      cases opened
    · rw [(decodeLeased_claimedValues decoded).1]
      exact other
  · obtain ⟨ran, reached⟩ := texts_match apart stored allowed
    obtain ⟨serial', shown⟩ := reached.servers
    obtain ⟨row', found', same⟩ := server_of_answers (I := fun t => ∃ row',
      t.find id = some row' ∧ SchedulerLifecycle.SameEnd row row')
      (fun env t r _ => kept env t r) start ran
    exact ⟨serial', _, row', shown, found', same⟩

end Claimed

/-! ## A table that PostgreSQL's claim hides -/

section Hidden

structure Unserved (row : SchedulerStatements.Row τ (Content τ β)) : Prop where
  unleased : row.leasedUntil = none
  undelivered : row.deliveredAt = none

variable {d : Dialect} {env : Surroundings Uuid τ δ} {t : Schedules Uuid τ (Content τ β)}

theorem acknowledge_unserved (held : ∀ k row, t.find k = some row → Unserved row) (id : Uuid)
    (lease : τ)
    (f : SchedulerStatements.Row τ (Content τ β) → SchedulerStatements.Row τ (Content τ β)) :
    (acknowledge t id lease f).1 = t := by
  refine updateWhere_of_none (t := t) (p := heldBy id lease) fun row mem => ?_
  have unleased := (held row.1 row.2 (find_of_mem mem)).unleased
  simp [heldBy, unleased]

theorem server_keeps_unserved (held : ∀ k row, t.find k = some row → Unserved row)
    (r : Request Uuid τ β δ) (single : ∀ limit lease, r ≠ .claim limit lease) :
    ∀ k row, (statementServer d env t r).1.find k = some row → Unserved row := by
  have acknowledged : ∀ id lease f,
      ∀ k row, (acknowledge t id lease f).1.find k = some row → Unserved row := by
    intro id lease f
    rw [acknowledge_unserved held]
    exact held
  have others : (∀ now id lease ack, statementOf d env r ≠ some (.acknowledge now id lease ack)) →
      (∀ now deadline locked limit,
        statementOf d env r ≠ some (.claim now deadline locked limit)) →
      ∀ k row, (statementServer d env t r).1.find k = some row → Unserved row := by
    intro notAcknowledge notClaim
    refine server_keeps_rows (fun k statement row row' issued effect unserved => ?_)
      (fun _ _ _ => ⟨rfl, rfl⟩) held
    cases effect with
    | kept => exact unserved
    | claimed => exact absurd issued (notClaim _ _ _ _)
    | acknowledged opened => exact absurd issued (notAcknowledge _ _ _ _)
    | swept => exact ⟨rfl, unserved.undelivered⟩
    | cancelled => exact ⟨rfl, unserved.undelivered⟩
    | paused => exact ⟨unserved.unleased, unserved.undelivered⟩
    | realigned => exact ⟨rfl, unserved.undelivered⟩
    | resumed => exact ⟨rfl, unserved.undelivered⟩
    | replayed => exact ⟨rfl, unserved.undelivered⟩
  cases r with
  | claim limit lease => exact absurd rfl (single limit lease)
  | markDelivered id lease => exact acknowledged id lease _
  | reschedule id next lease => exact acknowledged id lease _
  | markFailed id retryIn error lease => exact acknowledged id lease _
  | markDeadLettered id error lease => exact acknowledged id lease _
  | _ => exact others nofun nofun

/-- The table the database stores as `due`, with no row served. -/
def Starving (db₀ db : Database Uuid τ β) : Prop :=
  ∃ t, Shows .postgres "due" db₀ db t ∧ ∀ k row, t.find k = some row → Unserved row

theorem claim_hidden (env : Surroundings Uuid τ δ) (db : Database Uuid τ β) (limit : ℕ)
    (lease : δ) : runText .postgres "due" env db (.claim limit lease) = .error .malformed :=
  exec_claim_hidden (env.engine .postgres) rfl _

theorem starving_kept (db₀ : Database Uuid τ β) {db : Database Uuid τ β}
    (env : Surroundings Uuid τ δ) (r : Request Uuid τ β δ) (h : Starving db₀ db) :
    Starving db₀ (textServer .postgres "due" env db r).1 := by
  obtain ⟨t, shows, held⟩ := h
  by_cases single : ∀ limit lease, r ≠ .claim limit lease
  · have agrees : Agrees .postgres "due" db₀ (runText .postgres "due" env db r)
        (runStatement .postgres env t r) := statement_agrees shows r single
    exact ⟨_, (attempted_alike shows agrees).2, server_keeps_unserved held r single⟩
  · simp only [not_forall, not_not] at single
    obtain ⟨limit, lease, rfl⟩ := single
    rw [textServer, claim_hidden]
    exact ⟨t, shows, held⟩

variable {ι : Type} [DecidableEq ι] {c : Codec τ β δ}

/-- A PostgreSQL store in a table called `due` serves nothing: the name is accepted, but it
is that of the query every claim joins its update with, and the database refuses them all.
Schedules are inserted and listed, and none is ever handed out or delivered. -/
theorem hidden_schedules_starve {db : Database Uuid τ β} {serial : ℕ}
    (stored : db "due" = some (relation .postgres serial t))
    (unserved : ∀ k row, t.find k = some row → Unserved row) {events : List (Doing ι c)}
    (allowed : (textMachine ι c .postgres "due").Allowed (fresh db) events) :
    validateTableName "due" = .ok () ∧
    (∀ reply ∈ ((textMachine ι c .postgres "due").run (fresh db) events).replies,
      ∀ occurrences, reply.2 = .ok (.claimed occurrences) → occurrences = []) ∧
    ∃ serial' t', ((textMachine ι c .postgres "due").run (fresh db) events).server =
        db.set "due" (relation .postgres serial' t') ∧
      ∀ k row, t'.find k = some row → row.deliveredAt = none := by
  have start : Starving db db := ⟨t, ⟨serial, (Database.set_stored stored).symm⟩, unserved⟩
  refine ⟨rfl, fun reply mem occurrences claimed => ?_, ?_⟩
  · have contract := replies_of_contract (A := Returns fun _ => False) (Q := Handed fun _ => False)
      (fun env db' r _ => starving_kept db env r)
      (fun env db' r _ _ => ?_) (script_handed fun _ _ => False.elim) start (fun _ => rfl) rfl
      allowed reply mem
    · rw [claimed] at contract
      exact List.eq_nil_iff_forall_not_mem.mpr contract
    · rintro limit lease rfl outcome answer
      rw [textServer, claim_hidden] at answer
      cases answer
  · obtain ⟨t', ⟨serial', shown⟩, held⟩ := server_of_answers
      (fun env db' r _ => starving_kept db env r) start allowed
    exact ⟨serial', t', shown, fun k row found => (held k row found).undelivered⟩

end Hidden

section Sample

def sampleCodec : Codec SystemTime Unit Duration :=
  ⟨sampleEngine, id, .ok, .ok, id, fun _ => .ok (), fun _ => .ok [], fun _ => "refused",
    "undecodable"⟩

def sampleTable (cancelledAt : Option SystemTime) :
    Schedules Uuid SystemTime (Content SystemTime Unit) where
  rows := [(sampleSchedule, { SchedulerStatements.Row.fresh
    ⟨"reminders.due", (), "delay", none, "mediator", none, second 80⟩ (second 90) 5 with
    cancelledAt := cancelledAt })]
  keyed := List.nodup_singleton _

def sampleDb (d : Dialect) (table : String) (cancelledAt : Option SystemTime) :
    Database Uuid SystemTime Unit :=
  fun name => if name = table then some (relation d 0 (sampleTable cancelledAt)) else none

def sampleEnv : Surroundings Uuid SystemTime Duration :=
  ⟨second 100, fun _ => second 130, fun _ => second 131, []⟩

/-- One client claims while another one cancels. -/
def sampleEvents : List (Doing Bool sampleCodec) :=
  [.begin false (.claimDue 10 (.fromSecs 30)), .begin true (.cancel sampleSchedule),
    .answer true sampleEnv, .answer false sampleEnv, .answer true sampleEnv]

theorem stored_sampleDb (d : Dialect) (table : String) (cancelledAt : Option SystemTime) :
    sampleDb d table cancelledAt table = some (relation d 0 (sampleTable cancelledAt)) :=
  if_pos rfl

theorem sampleEvents_allowed (d : Dialect) (table : String) (cancelledAt : Option SystemTime) :
    (textMachine Bool sampleCodec d table).Allowed (fresh (sampleDb d table cancelledAt))
      sampleEvents :=
  ⟨rfl, rfl, trivial, trivial, trivial, trivial⟩

theorem stored_schedule_is_found_sample :
    ((sampleTable none).find sampleSchedule).isSome = true ∧
      ∀ reply ∈ ((textMachine Bool sampleCodec .sqlite "schedules").run
          (fresh (sampleDb .sqlite "schedules" none)) sampleEvents).replies,
        reply.2 ≠ .error (.scheduleNotFound sampleSchedule) :=
  ⟨rfl, stored_schedule_is_found (fun _ => by decide) (stored_sampleDb ..) rfl
    (sampleEvents_allowed .sqlite "schedules" none)⟩

theorem sampleTable_rows {cancelledAt : Option SystemTime} {k : Uuid}
    {row : SchedulerStatements.Row SystemTime (Content SystemTime Unit)}
    (found : (sampleTable cancelledAt).find k = some row) :
    row.attempts = 0 ∧ row.leasedUntil = none ∧ row.deliveredAt = none := by
  cases List.mem_singleton.mp (find_eq_some.mp found)
  exact ⟨rfl, rfl, rfl⟩

theorem ended_schedule_stays_ended_sample :
    (∀ reply ∈ ((textMachine Bool sampleCodec .postgres "schedules").run
        (fresh (sampleDb .postgres "schedules" (some (second 95)))) sampleEvents).replies,
      ∀ occurrences, reply.2 = .ok (.claimed occurrences) →
        ∀ o ∈ occurrences, o.message.scheduleId ≠ sampleSchedule) ∧
    ∃ serial' t' row', ((textMachine Bool sampleCodec .postgres "schedules").run
        (fresh (sampleDb .postgres "schedules" (some (second 95)))) sampleEvents).server =
          (sampleDb .postgres "schedules" (some (second 95))).set "schedules"
            (relation .postgres serial' t') ∧ t'.find sampleSchedule = some row' ∧
      SchedulerLifecycle.SameEnd { SchedulerStatements.Row.fresh
        ⟨"reminders.due", (), "delay", none, "mediator", none, second 80⟩ (second 90) 5 with
        cancelledAt := some (second 95) } row' :=
  ended_schedule_stays_ended (fun _ => by decide) (stored_sampleDb ..)
    (find_of_mem List.mem_cons_self) rfl rfl
    (sampleEvents_allowed .postgres "schedules" (some (second 95)))

theorem hidden_schedules_starve_sample :
    validateTableName "due" = .ok () ∧
    (∀ reply ∈ ((textMachine Bool sampleCodec .postgres "due").run
        (fresh (sampleDb .postgres "due" none)) sampleEvents).replies,
      ∀ occurrences, reply.2 = .ok (.claimed occurrences) → occurrences = []) ∧
    ∃ serial' t', ((textMachine Bool sampleCodec .postgres "due").run
        (fresh (sampleDb .postgres "due" none)) sampleEvents).server =
          (sampleDb .postgres "due" none).set "due" (relation .postgres serial' t') ∧
      ∀ k row, t'.find k = some row → row.deliveredAt = none :=
  hidden_schedules_starve (stored_sampleDb ..) (fun _ _ found => ⟨(sampleTable_rows found).2.1,
    (sampleTable_rows found).2.2⟩) (sampleEvents_allowed .postgres "due" none)

end Sample

end SchedulerSqlClients
